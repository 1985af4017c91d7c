/-!
# Exact values of binary64 numbers

A finite number is a sign and a magnitude `mantissa · 2 ^ exponent`. Whatever is not an
operation of the number format itself is computed exactly on these and rounded once at the end:
reading decimals, turning whole numbers into reals, dividing whole numbers, remainders.
-/

namespace SystemDynamics

/-- A finite number, exactly: its sign and `mantissa · 2 ^ exponent`. -/
structure Binary where
  negative : Bool
  mantissa : Nat
  exponent : Int
  deriving DecidableEq

namespace Binary

/-- The exact value of a number with these bits, when the bits stand for a finite one. -/
def ofBits (bits : Nat) : Binary :=
  let field : Nat := bits / Nat.pow 2 52 % Nat.pow 2 11
  let fraction : Nat := bits % Nat.pow 2 52
  { negative := bits / Nat.pow 2 63 % 2 == 1
    mantissa := if field = 0 then fraction else Nat.pow 2 52 + fraction
    exponent := if field = 0 then -1074 else (field : Int) - 1075 }

/-- The exact value of a finite number; NaN and the infinities have none. -/
def ofFloat? (x : Float) : Option Binary :=
  if x.isFinite then some (ofBits x.toBits.toNat) else none

/-- The numerator of the magnitude as a fraction in lowest powers of two. -/
def numerator (b : Binary) : Nat := b.mantissa * Nat.pow 2 b.exponent.toNat

/-- The denominator of the magnitude, a power of two. -/
def denominator (b : Binary) : Nat := Nat.pow 2 (-b.exponent).toNat

/-- The numerator with its sign. -/
def signedNumerator (b : Binary) : Int :=
  if b.negative then -(b.numerator : Int) else b.numerator

/-- The greatest whole number that is not above the value. -/
def floor (b : Binary) : Int := b.signedNumerator.fdiv b.denominator

/-- The least whole number that is not below the value. -/
def ceil (b : Binary) : Int := -((-b.signedNumerator).fdiv b.denominator)

/-- The value without its fraction. -/
def truncate (b : Binary) : Int := b.signedNumerator.tdiv b.denominator

/-- How a whole number compares with the value. -/
def compareWhole (n : Int) (b : Binary) : Ordering :=
  compare (n * b.denominator) b.signedNumerator

end Binary

/-- `num / den` to the nearest whole number, an exact half to the even neighbour. -/
def roundQuotient (num den : Nat) : Nat :=
  let q := num / den
  let r := num % den
  if 2 * r < den then q
  else if den < 2 * r then q + 1
  else if q % 2 = 0 then q else q + 1

/-- The exponent of the last bit that a rounded `num / den` keeps: 53 bits in all, and no bit
below the least subnormal. -/
def lastBit (num den : Nat) : Int :=
  let guess := (num.log2 : Int) - den.log2 - 53
  let e :=
    if num * Nat.pow 2 (-guess).toNat < Nat.pow 2 53 * (den * Nat.pow 2 guess.toNat) then guess
    else guess + 1
  max e (-1074)

/-- The bits of `num / den` rounded once to nearest, an exact half to the even neighbour. From
half a unit above the greatest finite number on the result is infinite. A mantissa that rounds
up to the next power of two carries into the exponent by itself. -/
def nearestBits (num den : Nat) : Nat :=
  let e := lastBit num den
  let q := roundQuotient (num * Nat.pow 2 (-e).toNat) (den * Nat.pow 2 e.toNat)
  let bits := if q < Nat.pow 2 52 then q else (e + 1075).toNat * Nat.pow 2 52 + (q - Nat.pow 2 52)
  min bits (2047 * Nat.pow 2 52)

/-- The number nearest to `num / den`. -/
def nearest (num den : Nat) : Float :=
  if num = 0 then 0.0 else Float.ofBits (UInt64.ofNat (nearestBits num den))

/-- The number nearest to `num / den` with the given sign. -/
def nearestSigned (negative : Bool) (num den : Nat) : Float :=
  if negative then -nearest num den else nearest num den

/-- The number nearest to a whole number, if it is finite. -/
def nearestWhole? (n : Int) : Option Float :=
  let x := nearestSigned (n < 0) n.natAbs 1
  if x.isFinite then some x else none

/-- The number nearest to `mantissa · 10 ^ exponent`. Exponents far outside the format are
answered before any power of ten is computed. -/
def nearestDecimal (mantissa : Nat) (exponent : Int) : Float :=
  if mantissa = 0 then 0.0
  else if 400 < exponent then 1.0 / 0.0
  else if exponent + mantissa.log2 < -400 then 0.0
  else nearest (mantissa * Nat.pow 10 exponent.toNat) (Nat.pow 10 (-exponent).toNat)

/-- The remainder of two finite numbers, the second not zero: exact, with the sign of the
first. -/
def exactRemainder (a b : Binary) : Float :=
  let e := min a.exponent b.exponent
  let r := (a.mantissa * Nat.pow 2 (a.exponent - e).toNat) %
    (b.mantissa * Nat.pow 2 (b.exponent - e).toNat)
  nearestSigned a.negative (r * Nat.pow 2 e.toNat) (Nat.pow 2 (-e).toNat)

end SystemDynamics
