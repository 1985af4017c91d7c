/-!
# Halves of characters

In sixteen bits a character beyond the first plane is written in two halves. A half that stands
alone is no character. In texts, code points of a plane without characters stand for the halves,
and wherever code points are written out, a half is written as what it is.
-/

namespace SystemDynamics.Text

/-- The first half of a character, and the number of halves. -/
def halves : Nat × Nat := (0xD800, 0x800)

/-- The first code point that stands for a half. -/
def firstStandIn : Nat := 0xA0000

def isHalf (n : Nat) : Bool := halves.1 ≤ n && n < halves.1 + halves.2

/-- The character of a code point, or what stands for it. -/
def charOf (n : Nat) : Char :=
  Char.ofNat (if isHalf n then n - halves.1 + firstStandIn else n)

/-- Whether a code point stands for a half. -/
def isStandIn (c : Char) : Bool :=
  firstStandIn ≤ c.toNat && c.toNat < firstStandIn + halves.2

/-- The code point of a character, of a half for what stands for it. -/
def codeOf (c : Char) : Nat :=
  if isStandIn c then c.toNat - firstStandIn + halves.1 else c.toNat

/-- The code point that two halves write together, if they do. -/
def joined? (high low : Nat) : Option Nat :=
  if 0xD800 ≤ high && high < 0xDC00 && 0xDC00 ≤ low && low < 0xE000 then
    some (0x10000 + (high - 0xD800) * 0x400 + (low - 0xDC00))
  else none

end SystemDynamics.Text
