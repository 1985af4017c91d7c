/-!
# Base 64

Four digits of six bits write three bytes. Characters that are no digits are passed over; equals
signs fill up the last four digits and end the text.
-/

namespace SystemDynamics.Text.Base64

/-- The value of a digit. -/
def digit? (b : UInt8) : Option Nat :=
  let c := Char.ofNat b.toNat
  if c.isUpper then some (c.toNat - 'A'.toNat)
  else if c.isLower then some (c.toNat - 'a'.toNat + 26)
  else if c.isDigit then some (c.toNat - '0'.toNat + 52)
  else if c = '+' then some 62
  else if c = '/' then some 63
  else none

/-- How far four digits have been read: how many there are, the bits of the last that wait for
the next, and how many equals signs stand behind it. -/
structure Quad where
  count : Nat := 0
  bits : Nat := 0
  filling : Nat := 0

/-- The byte that a digit completes, if it does, and the digits with it. -/
def Quad.add (q : Quad) (d : Nat) : List UInt8 × Quad :=
  match q.count with
  | 0 => ([], { count := 1, bits := d })
  | 1 => ([(q.bits * 4 + d / 16).toUInt8], { count := 2, bits := d % 16 })
  | 2 => ([(q.bits * 16 + d / 4).toUInt8], { count := 3, bits := d % 4 })
  | _ => ([(q.bits * 64 + d).toUInt8], {})

/-- Why digits write no bytes, where so many bytes have been written. -/
def incomplete (q : Quad) (written : Nat) : String :=
  if q.count = 1 then
    "Invalid base64-encoded string: number of data characters (" ++
      toString (written / 3 * 4 + 1) ++ ") cannot be 1 more than a multiple of 4"
  else "Incorrect padding"

/-- The bytes that digits write, behind those written so far. -/
def decodeFrom (q : Quad) (written : Nat) : List UInt8 → Except String (List UInt8)
  | [] => if q.count = 0 then .ok [] else .error (incomplete q written)
  | b :: rest =>
    if b.toNat = '='.toNat then
      if 2 ≤ q.count && 4 ≤ q.count + q.filling + 1 then .ok []
      else
        decodeFrom { q with filling := if 2 ≤ q.count then q.filling + 1 else q.filling } written
          rest
    else
      match digit? b with
      | none => decodeFrom q written rest
      | some d =>
        let (bytes, q) := q.add d
        (decodeFrom q (written + bytes.length) rest).map (bytes ++ ·)

/-- The bytes that digits write, or what is wrong with the digits. -/
def decode (digits : List UInt8) : Except String (List UInt8) := decodeFrom {} 0 digits

end SystemDynamics.Text.Base64
