import SystemDynamics.Text.Quoted
/-!
# Texts as bytes

Bytes are read as UTF-8, a character after the other. The first bytes that begin no character are
named with their place and with what is wrong: they cannot begin one, do not go on as one, or end
too soon. A text that is to be ASCII is refused at its first characters that are not.
-/

namespace SystemDynamics.Text

/-- How the character goes on that a byte begins: the part of the code point that the byte holds,
how many bytes follow, and the range of the first of them. -/
structure Lead where
  bits : Nat
  owed : Nat
  least : Nat
  greatest : Nat

/-- The beginning of a character that a byte is. -/
def lead? (b : Nat) : Option Lead :=
  if b < 0x80 then some ⟨b, 0, 0, 0⟩
  else if b < 0xC2 then none
  else if b < 0xE0 then some ⟨b - 0xC0, 1, 0x80, 0xBF⟩
  else if b < 0xF0 then
    some ⟨b - 0xE0, 2, if b = 0xE0 then 0xA0 else 0x80, if b = 0xED then 0x9F else 0xBF⟩
  else if b < 0xF5 then
    some ⟨b - 0xF0, 3, if b = 0xF0 then 0x90 else 0x80, if b = 0xF4 then 0x8F else 0xBF⟩
  else none

/-- The code point whose first byte has been read, and the bytes behind it; or how many more bytes
belong to it before the one that does not, and what is wrong there. -/
def codeFrom (bits least greatest : Nat) :
    Nat → List UInt8 → Except (Nat × String) (Nat × List UInt8)
  | 0, rest => .ok (bits, rest)
  | _ + 1, [] => .error (0, "unexpected end of data")
  | owed + 1, b :: rest =>
    if least ≤ b.toNat && b.toNat ≤ greatest then
      match codeFrom (bits * 0x40 + (b.toNat - 0x80)) 0x80 0xBF owed rest with
      | .ok r => .ok r
      | .error (count, reason) => .error (count + 1, reason)
    else .error (0, "invalid continuation byte")

/-- What a message says of bytes that are no text: where they are, the first of them, how many
they are, and why. -/
def undecodable (place first count : Nat) (reason : String) : String :=
  "'utf-8' codec can't decode " ++
    (if count = 1 then
      "byte 0x" ++ String.ofList (hex 2 first) ++ " in position " ++ toString place
    else
      "bytes in position " ++ toString place ++ "-" ++ toString (place + count - 1)) ++
    ": " ++ reason

/-- The characters that bytes write, `place` being the number of bytes before them. Each character
takes a byte at least, which the fuel bounds. -/
def decodeFrom (place : Nat) : Nat → List UInt8 → Except String (List Char)
  | 0, _ | _, [] => .ok []
  | fuel + 1, b :: rest =>
    match lead? b.toNat with
    | none => .error (undecodable place b.toNat 1 "invalid start byte")
    | some l =>
      match codeFrom l.bits l.least l.greatest l.owed rest with
      | .ok (n, rest) => (decodeFrom (place + l.owed + 1) fuel rest).map (Char.ofNat n :: ·)
      | .error (count, reason) => .error (undecodable place b.toNat (count + 1) reason)

/-- The characters that bytes write, or what is wrong with the bytes. -/
def decode (bytes : List UInt8) : Except String (List Char) :=
  decodeFrom 0 bytes.length bytes

/-- The bytes of a text in ASCII, or what is wrong with the first characters that are not. -/
def encodeAscii (cs : List Char) : Except String (List UInt8) :=
  let isAscii := fun c : Char => decide (c.toNat < 0x80)
  let place := (cs.takeWhile isAscii).length
  match cs.drop place with
  | [] => .ok (cs.map fun c => c.toNat.toUInt8)
  | c :: rest =>
    let more := (rest.takeWhile (!isAscii ·)).length
    let found :=
      if more = 0 then
        "character '" ++ String.ofList (escapeOf c) ++ "' in position " ++ toString place
      else "characters in position " ++ toString place ++ "-" ++ toString (place + more)
    .error ("'ascii' codec can't encode " ++ found ++ ": ordinal not in range(128)")

end SystemDynamics.Text
