import SystemDynamics.Proofs.Nearest
import SystemDynamics.Proofs.Numerals

/-!
# Significant digits

A finite number that is written with some significant digits is a numeral
(`roundedText_numeral`): every layout of a decimal is a literal of the same value
(`Decimal.layOut_literal`). Rounding to digits leaves more than half of the number
(`Decimal.lt_two_mul_toDigits`), since the scale of a number is found to be no greater than it is
(`Decimal.scale_le`). So what is read from the text is a zero only if the number is one.
-/

namespace SystemDynamics

open Text

/-! ## Rows of digits -/

namespace Text

theorem digitsValueFrom_append (ds : List Char) : ∀ (cs : List Char) (n : Nat),
    digitsValueFrom n (cs ++ ds) = digitsValueFrom (digitsValueFrom n cs) ds
  | [], _ => rfl
  | c :: cs, n => by
    simp only [List.cons_append, digitsValueFrom]
    split
    · exact digitsValueFrom_append ds cs _
    · exact digitsValueFrom_append ds cs n

theorem digitsValueFrom_zeros (n : Nat) : ∀ j,
    digitsValueFrom n (List.replicate j '0') = n * 10 ^ j
  | 0 => (Nat.mul_one n).symm
  | j + 1 => by
    have hzero : digitValue? '0' = some 0 := rfl
    rw [List.replicate_succ, digitsValueFrom, hzero]
    dsimp only
    rw [digitsValueFrom_zeros (10 * n + 0) j]
    ring

end Text

namespace Decimal

theorem digitValue?_digitChar : ∀ d < 10, digitValue? d.digitChar = some d := by decide

theorem digits_digitChars (n : Nat) : Reading.Digits (digitChars n) := by
  intro c hc
  have hascii : c.isDigit = true := Nat.isDigit_of_mem_toDigits (by decide) (by decide) hc
  have hall : ∀ n < 128, (Char.ofNat n).isDigit = true → isDigit (Char.ofNat n) = true := by
    decide
  have hlow : c.toNat < 128 :=
    Nat.lt_of_le_of_lt (of_decide_eq_true (Bool.and_eq_true_iff.1 hascii).2) (by decide)
  exact Text.of_ascii (P := fun c => c.isDigit = true → isDigit c = true) hall hlow hascii

/-- The digits of a number write it. -/
theorem digitsValue_digitChars (n : Nat) : digitsValue (digitChars n) = n := by
  induction n using Nat.strong_induction_on with
  | _ n ih =>
    unfold digitChars at ih ⊢
    rcases Nat.lt_or_ge n 10 with hlt | hge
    · rw [Nat.toDigits_of_lt_base hlt, digitsValue, digitsValueFrom, digitValue?_digitChar n hlt]
      simp only [digitsValueFrom]
      omega
    · have hlast : digitValue? (n % 10).digitChar = some (n % 10) :=
        digitValue?_digitChar _ (Nat.mod_lt _ (by decide))
      rw [Nat.toDigits_of_base_le (by decide) hge, digitsValue, digitsValueFrom_append,
        ← digitsValue, ih (n / 10) (by omega), digitsValueFrom, hlast]
      simp only [digitsValueFrom]
      omega

/-! ## Values -/

/-- The exact value. -/
def value (d : Decimal) : ℚ := d.digits * 10 ^ d.exponent

theorem trimmedFrom_value : ∀ (tries : Nat) (d : Decimal), (trimmedFrom tries d).value = d.value
  | 0, _ => rfl
  | tries + 1, d => by
    unfold trimmedFrom
    split
    · rename_i hzero
      rw [trimmedFrom_value tries]
      have hdigits : ((d.digits / 10 : ℕ) : ℚ) * 10 = d.digits := by
        exact_mod_cast Nat.div_mul_cancel (Nat.dvd_of_mod_eq_zero hzero)
      simp only [value]
      rw [zpow_add_one₀ (by norm_num), ← hdigits]
      ring
    · rfl

theorem trimmed_value (d : Decimal) : d.trimmed.value = d.value := by
  unfold trimmed
  split
  · rename_i hzero
    simp [value, hzero]
  · exact trimmedFrom_value _ d

end Decimal

namespace Reading.Literal

/-- The decimal that the literal writes. -/
def decimal (l : Literal) : Decimal :=
  ⟨digitsValue (l.whole ++ l.fraction), l.exponent - l.fraction.length⟩

theorem value_eq (l : Literal) : l.value = nearestDecimal l.decimal.digits l.decimal.exponent :=
  rfl

end Reading.Literal

namespace Decimal

open Reading

/-- An exponent is written with its sign and at least two digits. -/
theorem exponentText_eq (e : Int) : ∃ mark power, exponentText e = mark ++ power ∧
    IsExponent mark power ∧ (if mark.contains '-' then -(digitsValue power : Int)
      else digitsValue power) = e := by
  have hpadded : ∃ power, (if (digitChars e.natAbs).length < 2 then '0' :: digitChars e.natAbs
      else digitChars e.natAbs) = power ∧ power ≠ [] ∧ Digits power ∧
        digitsValue power = e.natAbs := by
    refine ⟨_, rfl, ?_⟩
    have hdigits := digits_digitChars e.natAbs
    split
    · refine ⟨List.cons_ne_nil _ _, List.forall_mem_cons.2 ⟨rfl, hdigits⟩, ?_⟩
      have hzero := digitsValueFrom_append (digitChars e.natAbs) (List.replicate 1 '0') 0
      rw [digitsValueFrom_zeros, Nat.zero_mul] at hzero
      exact hzero.trans (digitsValue_digitChars _)
    · exact ⟨Nat.toDigits_ne_nil, hdigits, digitsValue_digitChars _⟩
  obtain ⟨power, hpower, hne, hdigits, hvalue⟩ := hpadded
  unfold exponentText
  dsimp only
  rw [hpower]
  by_cases he : e < 0
  · refine ⟨['e', '-'], power, by rw [if_pos he]; rfl,
      ⟨⟨'e', ['-'], rfl, .inl rfl, by decide⟩, hne, hdigits⟩, ?_⟩
    rw [if_pos (by decide), hvalue]
    omega
  · refine ⟨['e', '+'], power, by rw [if_neg he]; rfl,
      ⟨⟨'e', ['+'], rfl, .inl rfl, by decide⟩, hne, hdigits⟩, ?_⟩
    rw [if_neg (by decide), hvalue]
    omega

/-- A literal without exponent. -/
theorem decimal_positional (whole fraction : List Char) (point : Bool) :
    (Literal.mk whole point fraction [] []).decimal =
      ⟨digitsValue (whole ++ fraction), -fraction.length⟩ := by
  have hexponent : (Literal.mk whole point fraction [] []).exponent = 0 := rfl
  rw [Literal.decimal, hexponent, Int.zero_sub]

/-- A layout of a decimal is a literal of its value. -/
theorem layOut_literal (layout : Layout) (d : Decimal) : ∃ l : Literal, l.Proper ∧
    layOut layout d = l.text ∧ l.decimal.value = d.value := by
  have hdigits := digits_digitChars d.digits
  have hvalue := digitsValue_digitChars d.digits
  have hne : digitChars d.digits ≠ [] := Nat.toDigits_ne_nil
  unfold layOut
  dsimp only
  generalize digitChars d.digits = ds at hdigits hvalue hne ⊢
  have hlength : 0 < ds.length := List.length_pos_iff.2 hne
  have hzeros : ∀ n, Digits (List.replicate n '0') := by
    intro n c hc
    rw [List.eq_of_mem_replicate hc]
    rfl
  have hpointed : ∀ fraction : List Char, true = false → fraction = [] := by
    rintro _ ⟨⟩
  have hsame : ∀ {e : Int}, d.exponent = e → Decimal.value ⟨digitsValue ds, e⟩ = d.value := by
    rintro e rfl
    rw [hvalue]
  split
  · rename_i hpositional
    split
    · -- A whole number, perhaps with a point and a zero behind it.
      rename_i hexponent
      refine ⟨⟨ds ++ List.replicate d.exponent.toNat '0', layout.wholePoint,
        List.replicate layout.wholePoint.toNat '0', [], []⟩,
        ⟨List.forall_mem_append.2 ⟨hdigits, hzeros _⟩, hzeros _, .inl (by simp [hne]),
          fun h => by simp only at h; rw [h]; rfl, .inl ⟨rfl, rfl⟩⟩, ?_, ?_⟩
      · rcases h : layout.wholePoint with _ | _ <;> simp [Literal.text]
      · rw [decimal_positional, digitsValue, List.append_assoc, digitsValueFrom_append,
          ← digitsValue, hvalue, digitsValueFrom_append, digitsValueFrom_zeros,
          digitsValueFrom_zeros, List.length_replicate]
        have hwhole : ((d.exponent.toNat : ℕ) : ℤ) = d.exponent := Int.toNat_of_nonneg hexponent
        simp only [value]
        push_cast
        rw [← zpow_natCast (10 : ℚ) d.exponent.toNat, hwhole, zpow_neg, zpow_natCast]
        field_simp
    · rename_i hexponent
      split
      · -- The point stands among the digits.
        rename_i hlead
        have hcut : ((d.exponent + ds.length - 1).toNat + 1 : Int) = d.exponent + ds.length := by
          omega
        refine ⟨⟨ds.take ((d.exponent + ds.length - 1).toNat + 1), true,
          ds.drop ((d.exponent + ds.length - 1).toNat + 1), [], []⟩,
          ⟨fun c hc => hdigits c (List.mem_of_mem_take hc),
            fun c hc => hdigits c (List.mem_of_mem_drop hc), .inl ?_, hpointed _, .inl ⟨rfl, rfl⟩⟩,
          ?_, ?_⟩
        · simp [hne]
        · simp [Literal.text]
        · rw [decimal_positional, List.take_append_drop]
          refine hsame ?_
          rw [List.length_drop]
          omega
      · -- Zeros stand between the point and the digits.
        rename_i hlead
        refine ⟨⟨['0'], true,
          List.replicate (-(d.exponent + ds.length - 1) - 1).toNat '0' ++ ds, [], []⟩,
          ⟨hzeros 1, List.forall_mem_append.2 ⟨hzeros _, hdigits⟩, .inl (List.cons_ne_nil _ _),
            hpointed _, .inl ⟨rfl, rfl⟩⟩, ?_, ?_⟩
        · simp [Literal.text]
        · have hzero : digitsValue ('0' :: (List.replicate
              (-(d.exponent + ds.length - 1) - 1).toNat '0' ++ ds)) = digitsValue ds := by
            rw [← List.cons_append, ← List.replicate_succ, digitsValue, digitsValueFrom_append,
              digitsValueFrom_zeros, Nat.zero_mul, digitsValue]
          rw [decimal_positional, List.singleton_append, hzero]
          refine hsame ?_
          rw [List.length_append, List.length_replicate]
          omega
  · -- One digit, the others behind a point, and an exponent.
    obtain ⟨mark, power, htext, hexponent, hpower⟩ :=
      exponentText_eq (d.exponent + ds.length - 1)
    refine ⟨⟨ds.take 1, ds.length != 1, ds.drop 1, mark, power⟩,
      ⟨fun c hc => hdigits c (List.mem_of_mem_take hc),
        fun c hc => hdigits c (List.mem_of_mem_drop hc), .inl (by simp [hne]), ?_,
        .inr hexponent⟩, ?_, ?_⟩
    · intro h
      have hone : ds.length = 1 := by simpa using h
      exact List.drop_eq_nil_of_le hone.le
    · rw [htext]
      by_cases hone : ds.length = 1
      · simp [Literal.text, hone, List.drop_eq_nil_of_le hone.le]
      · simp [Literal.text, hone]
    · have hlead : (Literal.mk (ds.take 1) (ds.length != 1) (ds.drop 1) mark power).exponent =
          d.exponent + ds.length - 1 := hpower
      rw [Literal.decimal, hlead, List.take_append_drop]
      refine hsame ?_
      rw [List.length_drop]
      omega

/-! ## Scales -/

/-- The guess at the scale of a power of two is not above it. -/
theorem ten_pow_guess_le {t : ℤ} (ht : -4096 ≤ t) :
    (10 : ℚ) ^ ((t * 1233).fdiv 4096 - 1) ≤ 2 ^ t := by
  have hlow : (10 : ℕ) ^ 1233 ≤ 2 ^ 4096 := by decide +kernel
  have hhigh : (2 : ℕ) ^ 4096 ≤ 10 ^ 1234 := by decide +kernel
  have hlow' : (10 : ℚ) ^ (1233 : ℤ) ≤ 2 ^ (4096 : ℤ) := by exact_mod_cast hlow
  have hhigh' : (2 : ℚ) ^ (4096 : ℤ) ≤ 10 ^ (1234 : ℤ) := by exact_mod_cast hhigh
  rw [Int.fdiv_eq_ediv_of_nonneg _ (by decide)]
  generalize hk : t * 1233 / 4096 = k
  -- `1233 / 4096` is below the logarithm of two, `1234 / 4096` above it.
  have hpower : ((10 : ℚ) ^ (k - 1)) ^ 4096 ≤ (2 ^ t) ^ 4096 := by
    rw [← zpow_natCast, ← zpow_natCast, ← zpow_mul, ← zpow_mul]
    rcases Int.le_total 0 t with hpos | hneg
    · calc (10 : ℚ) ^ ((k - 1) * (4096 : ℕ)) ≤ 10 ^ (1233 * t) :=
            zpow_le_zpow_right₀ (by norm_num) (by push_cast; omega)
        _ = (10 ^ (1233 : ℤ)) ^ t := zpow_mul _ _ _
        _ ≤ (2 ^ (4096 : ℤ)) ^ t := zpow_le_zpow_left₀ hpos (by positivity) hlow'
        _ = 2 ^ (t * (4096 : ℕ)) := by rw [← zpow_mul, mul_comm]; rfl
    · obtain ⟨s, rfl⟩ : ∃ s : ℕ, t = -s := ⟨(-t).toNat, by omega⟩
      calc (10 : ℚ) ^ ((k - 1) * (4096 : ℕ)) ≤ 10 ^ (1234 * (-s : ℤ)) :=
            zpow_le_zpow_right₀ (by norm_num) (by push_cast; omega)
        _ = ((10 ^ (1234 : ℤ)) ^ (s : ℤ))⁻¹ := by rw [zpow_mul, zpow_neg]
        _ ≤ ((2 ^ (4096 : ℤ)) ^ (s : ℤ))⁻¹ :=
            inv_anti₀ (by positivity) (zpow_le_zpow_left₀ (by omega) (by positivity) hhigh')
        _ = 2 ^ (-s * (4096 : ℕ) : ℤ) := by rw [← zpow_neg, ← zpow_mul, mul_comm]; rfl
  exact (pow_le_pow_iff_left₀ (by positivity) (by positivity) (by decide)).1 hpower

theorem scaleFrom_le {num den : ℕ} (hden : 0 < den) : ∀ (tries : ℕ) {k : ℤ},
    (10 : ℚ) ^ (k - 1) ≤ num / den → (10 : ℚ) ^ (scaleFrom num den tries k - 1) ≤ num / den
  | 0, _, h => h
  | tries + 1, k, h => by
    unfold scaleFrom
    split
    · exact h
    · rename_i hnot
      refine scaleFrom_le hden tries ?_
      have hle : (den * 10 ^ k.toNat : ℚ) ≤ num * 10 ^ (-k).toNat := by
        exact_mod_cast Nat.not_lt.1 hnot
      rw [add_sub_cancel_right, zpow_eq_div (by norm_num),
        div_le_div_iff₀ (by positivity) (by exact_mod_cast hden)]
      linarith

/-- The scale that is found for a number is not above the number. -/
theorem scale_le {num den : ℕ} (hnum : 0 < num) (hden : 0 < den) (hsmall : den.log2 < 4096) :
    (10 : ℚ) ^ (scale num den - 1) ≤ num / den :=
  scaleFrom_le hden 4 ((ten_pow_guess_le (by omega)).trans (two_pow_log2_lt hnum hden).le)

/-! ## Rounding to significant digits -/

/-- Rounding a quotient that is not below one leaves more than half of it. -/
theorem lt_two_mul_roundQuotient {num den : ℕ} (hden : 0 < den) (h : den ≤ num) :
    num < 2 * roundQuotient num den * den := by
  have hfloor : num / den ≤ roundQuotient num den := by
    unfold roundQuotient
    dsimp only
    split
    · exact le_rfl
    · split
      · exact Nat.le_succ _
      · split
        · exact le_rfl
        · exact Nat.le_succ _
  have hone : 1 ≤ num / den := Nat.div_pos h hden
  calc num < (num / den + 1) * den := by rw [mul_comm]; exact Nat.lt_mul_div_succ num hden
    _ ≤ 2 * roundQuotient num den * den := Nat.mul_le_mul_right den (by omega)

end Decimal

namespace Binary

/-- The size of a number. -/
def magnitude (b : Binary) : ℚ := b.numerator / b.denominator

theorem magnitude_eq (b : Binary) : b.magnitude = b.mantissa * 2 ^ b.exponent := by
  rw [zpow_eq_div two_ne_zero, magnitude, numerator, denominator, Nat.pow_eq, Nat.pow_eq]
  push_cast
  exact mul_div_assoc _ _ _

theorem exponent_ofBits_ge (bits : ℕ) : -1074 ≤ (ofBits bits).exponent := by
  unfold ofBits
  dsimp only
  split <;> omega

/-- No number is between zero and the least subnormal. -/
theorem le_magnitude {bits : ℕ} (h : (ofBits bits).mantissa ≠ 0) :
    (2 : ℚ) ^ (-1074 : ℤ) ≤ (ofBits bits).magnitude := by
  have hmantissa : (1 : ℚ) ≤ (ofBits bits).mantissa := by exact_mod_cast Nat.pos_of_ne_zero h
  have hexponent : (2 : ℚ) ^ (-1074 : ℤ) ≤ 2 ^ (ofBits bits).exponent :=
    zpow_le_zpow_right₀ one_le_two (exponent_ofBits_ge bits)
  rw [magnitude_eq]
  exact hexponent.trans (le_mul_of_one_le_left (by positivity) hmantissa)

theorem log2_denominator_lt (bits : ℕ) : (ofBits bits).denominator.log2 < 4096 := by
  have hexponent := exponent_ofBits_ge bits
  rw [denominator, Nat.pow_eq, Nat.log2_two_pow]
  omega

end Binary

namespace Decimal

/-- Rounding a number to significant digits leaves more than half of it. -/
theorem lt_two_mul_toDigits {bits count : ℕ} (h : (Binary.ofBits bits).mantissa ≠ 0)
    (hcount : 0 < count) :
    (Binary.ofBits bits).magnitude < 2 * (toDigits (Binary.ofBits bits) count).value := by
  have hden : 0 < (Binary.ofBits bits).denominator := Nat.pow_pos (by decide)
  have hnum : 0 < (Binary.ofBits bits).numerator :=
    Nat.mul_pos (Nat.pos_of_ne_zero h) (Nat.pow_pos (by decide))
  have hscale := scale_le hnum hden (Binary.log2_denominator_lt bits)
  unfold toDigits Binary.magnitude
  dsimp only
  generalize (Binary.ofBits bits).numerator = num at *
  generalize (Binary.ofBits bits).denominator = den at *
  generalize hexponent : scale num den - count = e
  have hshifted : (10 : ℚ) ^ e ≤ num / den :=
    (zpow_le_zpow_right₀ (by norm_num) (by omega)).trans hscale
  have hden' : (0 : ℚ) < den := by exact_mod_cast hden
  rw [zpow_eq_div (by norm_num), div_le_div_iff₀ (by positivity) hden'] at hshifted
  have hle : den * Nat.pow 10 e.toNat ≤ num * Nat.pow 10 (-e).toNat := by
    rw [mul_comm den]
    exact_mod_cast hshifted
  have hround := lt_two_mul_roundQuotient (Nat.mul_pos hden (Nat.pow_pos (by decide))) hle
  generalize roundQuotient _ _ = q at hround ⊢
  have hcast : (num * 10 ^ (-e).toNat : ℚ) < 2 * q * (den * 10 ^ e.toNat) := by
    exact_mod_cast hround
  rw [value, zpow_eq_div (by norm_num), div_lt_iff₀ hden']
  dsimp only
  calc (num : ℚ) = num * 10 ^ (-e).toNat / 10 ^ (-e).toNat := by field_simp
    _ < 2 * q * (den * 10 ^ e.toNat) / 10 ^ (-e).toNat :=
        (div_lt_div_iff_of_pos_right (by positivity)).2 hcast
    _ = 2 * (q * (10 ^ e.toNat / 10 ^ (-e).toNat)) * den := by ring

end Decimal

/-! ## Texts of numbers -/

open Reading

theorem mantissa_ofBits_eq_zero_iff (bits : ℕ) : (Binary.ofBits bits).mantissa = 0 ↔
    bits / Nat.pow 2 52 % Nat.pow 2 11 = 0 ∧ bits % Nat.pow 2 52 = 0 := by
  have hpow : Nat.pow 2 52 = 4503599627370496 := rfl
  rw [hpow]
  unfold Binary.ofBits
  dsimp only
  rw [hpow]
  split <;> omega

/-- A finite number that is written with significant digits is a numeral, and it is read as a zero
only if it is one. -/
theorem roundedText_numeral {digits : ℕ} (hdigits : 0 < digits) {x : Float}
    (hx : x.isFinite = true) : ∃ n : Numeral, n.Proper ∧
      roundedText digits x = String.ofList n.text ∧ (n.value == 0.0) = (x == 0.0) := by
  generalize hbits : x.toBits.toNat = bits
  have hfinite : Binary.ofFloat? x = some (Binary.ofBits bits) := by
    rw [Binary.ofFloat?, if_pos hx, hbits]
  have hzero : (x == 0.0) = true ↔ (Binary.ofBits bits).mantissa = 0 := by
    rw [mantissa_ofBits_eq_zero_iff, eq_zero_iff_bits, hbits]
  -- The digits without their sign are a literal.
  obtain ⟨l, hproper, htext, hvalue⟩ : ∃ l : Literal, l.Proper ∧
      (if (Binary.ofBits bits).mantissa = 0 then ['0'] else
        Decimal.layOut ⟨digits, false⟩ (Decimal.toDigits (Binary.ofBits bits) digits).trimmed) =
          l.text ∧ (l.value == 0.0) = (x == 0.0) := by
    split
    · rename_i hmantissa
      have hread : literal? ['0'] = some (⟨['0'], false, [], [], []⟩, []) := rfl
      refine ⟨_, (literal?_eq_some_iff.1 hread).1, rfl, ?_⟩
      rw [hzero.2 hmantissa]
      rfl
    · rename_i hmantissa
      obtain ⟨l, hproper, htext, hvalue⟩ := Decimal.layOut_literal ⟨digits, false⟩
        (Decimal.toDigits (Binary.ofBits bits) digits).trimmed
      refine ⟨l, hproper, htext, ?_⟩
      rw [Bool.eq_false_iff.2 (mt hzero.1 hmantissa), l.value_eq]
      refine nearestDecimal_ne_zero ?_
      change (2 : ℚ) ^ (-1075 : ℤ) < l.decimal.value
      rw [hvalue, Decimal.trimmed_value]
      have hleast := Binary.le_magnitude hmantissa
      have hround := Decimal.lt_two_mul_toDigits hmantissa hdigits
      rw [two_pow_least] at hleast
      linarith
  simp only [roundedText, writeWith, hfinite, htext]
  rcases (Binary.ofBits bits).negative with _ | _
  · exact ⟨.bare l, hproper, rfl, hvalue⟩
  · exact ⟨.minus l, hproper, rfl, (neg_eq_zero l.value).trans hvalue⟩

end SystemDynamics
