import SystemDynamics.Number.Binary64
/-!
# Decimal texts of numbers

A number is written either with the fewest digits that read back to it, or rounded to a set
number of significant digits, or rounded to a set number of places. The first two choose digits
and then lay them out: positionally when the leading digit's exponent is small enough, else
with an exponent of at least two digits.
-/

namespace SystemDynamics

/-- A decimal `digits · 10 ^ exponent`. -/
structure Decimal where
  digits : Nat
  exponent : Int
  deriving DecidableEq

namespace Decimal

/-- How two positive fractions compare. -/
def compareFractions (a b c d : Nat) : Ordering := compare (a * d) (c * b)

/-- How `digits · 10 ^ exponent` compares with `num / den`. -/
def compareWith (d : Decimal) (num den : Nat) : Ordering :=
  compareFractions (d.digits * Nat.pow 10 d.exponent.toNat) (Nat.pow 10 (-d.exponent).toNat) num den

/-- Whether the decimal lies among the reals that round to the number: from halfway to the
neighbour below to halfway to the neighbour above, the ends included exactly when the mantissa
is even. Below a power of two the gap is half as wide. -/
def readsBack (b : Binary) (d : Decimal) : Bool :=
  let narrow := b.mantissa == Nat.pow 2 52 && decide (-1074 < b.exponent)
  let low := if narrow then 4 * b.mantissa - 1 else 4 * b.mantissa - 2
  let high := 4 * b.mantissa + 2
  let up := b.exponent.toNat
  let down := (-b.exponent).toNat
  let atLow := d.compareWith (low * Nat.pow 2 up) (4 * Nat.pow 2 down)
  let atHigh := d.compareWith (high * Nat.pow 2 up) (4 * Nat.pow 2 down)
  let even := b.mantissa % 2 == 0
  (atLow == .gt || (even && atLow == .eq)) && (atHigh == .lt || (even && atHigh == .eq))

/-- The least `k` from the guess on with `num / den < 10 ^ k`, within so many tries. -/
def scaleFrom (num den : Nat) : Nat → Int → Int
  | 0, k => k
  | tries + 1, k =>
    if num * Nat.pow 10 (-k).toNat < den * Nat.pow 10 k.toNat then k
    else scaleFrom num den tries (k + 1)

/-- The number of digits before the point of a positive `num / den`, below one the negated
number of zeros after it: the least `k` with `num / den < 10 ^ k`. The guess is never above it,
and at most three below. -/
def scale (num den : Nat) : Int :=
  scaleFrom num den 4 ((((num.log2 : Int) - den.log2 - 1) * 1233).fdiv 4096)

/-- The closest decimal with the last digit at `10 ^ exponent` that reads back, if one of the
two next to the number does; of two equally close ones the even. -/
def onGrid? (b : Binary) (exponent : Int) : Option Decimal :=
  let num := b.numerator * Nat.pow 10 (-exponent).toNat
  let den := b.denominator * Nat.pow 10 exponent.toNat
  let below : Decimal := ⟨num / den, exponent⟩
  let above : Decimal := ⟨num / den + 1, exponent⟩
  match readsBack b below, readsBack b above with
  | true, true => some ⟨roundQuotient num den, exponent⟩
  | true, false => some below
  | false, true => some above
  | false, false => none

/-- Tries `n`, `n + 1`, … digits after the scale `k`. -/
def shortestFrom (b : Binary) (k : Int) : Nat → Nat → Decimal
  | 0, _ => ⟨b.numerator * Nat.pow 5 (-b.exponent).toNat, min b.exponent 0⟩
  | tries + 1, n =>
    match onGrid? b (k - n) with
    | some d => d
    | none => shortestFrom b k tries (n + 1)

/-- The decimal of the fewest digits that reads back to a positive number, the closest of
them. Seventeen digits always suffice. -/
def shortest (b : Binary) : Decimal :=
  shortestFrom b (scale b.numerator b.denominator) 17 1

/-- A positive number rounded to so many significant digits, an exact half to even. -/
def toDigits (b : Binary) (count : Nat) : Decimal :=
  let exponent := scale b.numerator b.denominator - count
  ⟨roundQuotient (b.numerator * Nat.pow 10 (-exponent).toNat)
      (b.denominator * Nat.pow 10 exponent.toNat),
    exponent⟩

/-- The decimal without zeros at the end of its digits. -/
def trimmedFrom : Nat → Decimal → Decimal
  | 0, d => d
  | tries + 1, d =>
    if d.digits % 10 = 0 then trimmedFrom tries ⟨d.digits / 10, d.exponent + 1⟩ else d

/-- The decimal without zeros at the end of its digits; zero has the exponent zero. -/
def trimmed (d : Decimal) : Decimal :=
  if d.digits = 0 then ⟨0, 0⟩ else trimmedFrom d.digits.log2 d

/-- Where positional notation ends, and whether a whole number shows a point. -/
structure Layout where
  positionalBelow : Int
  wholePoint : Bool

/-- The digits of a natural number. -/
def digitChars (n : Nat) : List Char := Nat.toDigits 10 n

/-- The exponent part of a number in exponent notation: a sign and at least two digits. -/
def exponentText (e : Int) : List Char :=
  let ds := digitChars e.natAbs
  'e' :: (if e < 0 then '-' else '+') :: (if ds.length < 2 then '0' :: ds else ds)

/-- Lays out a decimal without zeros at its end. Positional notation needs the exponent of the
leading digit to be at least -4 and below the layout's bound. -/
def layOut (l : Layout) (d : Decimal) : List Char :=
  let ds := digitChars d.digits
  let lead : Int := d.exponent + ds.length - 1
  if -4 ≤ lead && lead < l.positionalBelow then
    if 0 ≤ d.exponent then
      ds ++ List.replicate d.exponent.toNat '0' ++ (if l.wholePoint then ['.', '0'] else [])
    else if 0 ≤ lead then
      ds.take (lead.toNat + 1) ++ '.' :: ds.drop (lead.toNat + 1)
    else
      '0' :: '.' :: List.replicate (-lead - 1).toNat '0' ++ ds
  else
    ds.take 1 ++ (if ds.length = 1 then [] else '.' :: ds.drop 1) ++ exponentText lead

end Decimal

/-- Writes a number: the special values by name, others by their sign and `magnitude`. -/
def writeWith (magnitude : Binary → List Char) (x : Float) : String :=
  match Binary.ofFloat? x with
  | none => if x.isNaN then "nan" else if x < 0.0 then "-inf" else "inf"
  | some b => String.ofList (if b.negative then '-' :: magnitude b else magnitude b)

/-- A number with the fewest digits that read back to it: a point always, positional below
`10 ^ 16`. -/
def exactText (x : Float) : String :=
  writeWith (fun b =>
    if b.mantissa = 0 then ['0', '.', '0']
    else Decimal.layOut ⟨16, true⟩ (Decimal.shortest b).trimmed) x

/-- A number rounded to so many significant digits, without zeros at the end, positional below
`10 ^ digits`. -/
def roundedText (digits : Nat) (x : Float) : String :=
  writeWith (fun b =>
    if b.mantissa = 0 then ['0']
    else Decimal.layOut ⟨digits, false⟩ (Decimal.toDigits b digits).trimmed) x

/-- A number as messages show it: six significant digits. -/
def messageText (x : Float) : String := roundedText 6 x

/-- A number rounded to so many places after the point, an exact half to even. -/
def fixedText (places : Nat) (x : Float) : String :=
  writeWith (fun b =>
    let ds := Decimal.digitChars (roundQuotient (b.numerator * Nat.pow 10 places) b.denominator)
    let ds := List.replicate (places + 1 - ds.length) '0' ++ ds
    ds.take (ds.length - places) ++
      (if places = 0 then [] else '.' :: ds.drop (ds.length - places))) x

end SystemDynamics
