import SystemDynamics.Proofs.Exact

/-!
# Decimals that do not round to zero

A number of binary64 is a zero exactly if neither its exponent nor its fraction has a bit
(`eq_zero_iff_bits`). A quotient of whole numbers is rounded on a grid whose step is less than twice
the quotient, as long as it is above half of the least number above zero (`two_pow_lastBit_lt`); so
it does not become zero (`nearest_ne_zero`), and neither does a decimal above that half
(`nearestDecimal_ne_zero`).
-/

namespace SystemDynamics

open Float.Model Float.Model.UnpackedFloat

/-! ## Zeros -/

/-- A zero of either sign. -/
def IsZero (u : UnpackedFloat) : Prop := ∃ s, u = .zero s

theorem eq_zero_iff (x : Float) : (x == 0.0) = true ↔ IsZero x.toModel.unpack := by
  have hzero : (0.0 : Float).toModel.unpack = .zero .positive := rfl
  have heq : (x == 0.0) = true ↔ x.toModel.unpack.compare (.zero .positive) = some .eq := by
    rw [← hzero]
    exact beq_iff_eq (α := Option Ordering)
  rw [heq]
  rcases x.toModel.unpack with s | _ | s | ⟨s, m, e, hm⟩
  · cases s <;> exact ⟨nofun, nofun⟩
  · exact ⟨nofun, nofun⟩
  · exact ⟨fun _ => ⟨s, rfl⟩, fun _ => rfl⟩
  · cases s <;> exact ⟨nofun, nofun⟩

theorem isZero_unpack_iff (b : BitVec Format.binary64.numBits) :
    IsZero (UnpackedFloat.unpack .binary64 b) ↔
      unpackExponent b = 0#_ ∧ unpackMantissa b = 0#_ := by
  unfold UnpackedFloat.unpack
  dsimp only
  split
  · rename_i hall
    have hne : unpackExponent b ≠ 0#_ := fun h => absurd (hall.symm.trans h) (by decide)
    split <;> exact ⟨nofun, fun h => absurd h.1 hne⟩
  · split
    · rename_i hexponent
      split
      · rename_i hmantissa
        exact ⟨fun _ => ⟨hexponent, hmantissa⟩, fun _ => ⟨_, rfl⟩⟩
      · rename_i hmantissa
        exact ⟨nofun, fun h => absurd h.2 hmantissa⟩
    · rename_i hexponent
      exact ⟨nofun, fun h => absurd h.1 hexponent⟩

/-- Packing what has been unpacked makes no zero, and loses none. -/
theorem isZero_unpack_pack {u : UnpackedFloat}
    (h : ∀ s m e hm, u = .finite s m e hm → Canonical m e ∧ e ≤ 971) :
    IsZero (Float.Model.pack u).unpack ↔ IsZero u := by
  rcases u with s | _ | s | ⟨s, m, e, hm⟩
  · rw [show (Float.Model.pack (.infinity s)).unpack = .infinity s from unpack_infinity s]
  · exact ⟨nofun, nofun⟩
  · rw [(Finite.zero s).unpack_pack]
  · obtain ⟨hcanonical, he⟩ := h s m e hm rfl
    rw [(Finite.finite s hm hcanonical he).unpack_pack]

theorem neg_eq_zero (x : Float) : (-x == 0.0) = (x == 0.0) := by
  have hneg : (-x).toModel.unpack = (Float.Model.pack x.toModel.unpack.neg).unpack := rfl
  have hfinite : ∀ s m e hm, x.toModel.unpack.neg = .finite s m e hm → Canonical m e ∧ e ≤ 971 := by
    intro s m e hm h
    rcases hu : x.toModel.unpack with t | _ | t | ⟨t, n, f, hn⟩ <;> rw [hu] at h <;> cases h
    exact unpack_canonical hu
  rw [Bool.eq_iff_iff, eq_zero_iff, eq_zero_iff, hneg, isZero_unpack_pack hfinite]
  rcases x.toModel.unpack with s | _ | s | ⟨s, m, e, hm⟩
  · exact ⟨nofun, nofun⟩
  · exact ⟨nofun, nofun⟩
  · exact ⟨fun _ => ⟨_, rfl⟩, fun _ => ⟨_, rfl⟩⟩
  · exact ⟨nofun, nofun⟩

theorem isZero_unpack_iff_bits (b : BitVec Format.binary64.numBits) :
    IsZero (UnpackedFloat.unpack .binary64 b) ↔
      b.toNat / Nat.pow 2 52 % Nat.pow 2 11 = 0 ∧ b.toNat % Nat.pow 2 52 = 0 := by
  rw [isZero_unpack_iff, ← unpackExponent_toNat, ← unpackMantissa_toNat, ← BitVec.toNat_inj,
    ← BitVec.toNat_inj]
  rfl

/-- A number is a zero if neither its exponent nor its fraction has a bit. -/
theorem eq_zero_iff_bits (x : Float) : (x == 0.0) = true ↔
    x.toBits.toNat / Nat.pow 2 52 % Nat.pow 2 11 = 0 ∧ x.toBits.toNat % Nat.pow 2 52 = 0 :=
  (eq_zero_iff x).trans (isZero_unpack_iff_bits x.toBits.toBitVec)

theorem ofBits_ne_zero {n : Nat} (hpos : 0 < n) (h : n ≤ 2047 * Nat.pow 2 52) :
    (Float.ofBits (UInt64.ofNat n) == 0.0) = false := by
  have hn : ((UInt64.ofNat n).toBitVec : BitVec Format.binary64.numBits).toNat = n := by
    have hpow : Nat.pow 2 52 = 4503599627370496 := rfl
    change (UInt64.ofNat n).toNat = n
    simp
    omega
  have hpacked : (Float.ofBits (UInt64.ofNat n)).toModel.unpack =
      (Float.Model.pack (UnpackedFloat.unpack .binary64 (UInt64.ofNat n).toBitVec)).unpack := rfl
  rw [Bool.eq_false_iff, Ne, eq_zero_iff, hpacked,
    isZero_unpack_pack fun s m e hm => unpack_canonical, isZero_unpack_iff_bits, hn]
  rintro ⟨hexponent, hfraction⟩
  have hpow : Nat.pow 2 52 = 4503599627370496 := rfl
  have hpower : Nat.pow 2 11 = 2048 := rfl
  rw [hpow] at h hfraction hexponent
  rw [hpower] at hexponent
  omega

/-! ## Quotients -/

theorem zpow_eq_div {a : ℚ} (ha : a ≠ 0) (k : ℤ) : a ^ k = a ^ k.toNat / a ^ (-k).toNat := by
  rw [← zpow_natCast, ← zpow_natCast, ← zpow_sub₀ ha]
  congr 1
  omega

/-- The least number above zero and half of it. -/
theorem two_pow_least : (2 : ℚ) ^ (-1074 : ℤ) = 2 * 2 ^ (-1075 : ℤ) := by
  rw [← zpow_one_add₀ two_ne_zero]
  rfl

theorem pos_of_lt_quotient {num den : ℕ} (h : (2 : ℚ) ^ (-1075 : ℤ) < num / den) : 0 < num := by
  refine Nat.pos_of_ne_zero fun hzero => ?_
  rw [hzero, Nat.cast_zero, zero_div] at h
  exact absurd h (not_lt.2 (by positivity))

/-- A quotient is above the power of two that the lengths of its parts tell. -/
theorem two_pow_log2_lt {num den : ℕ} (hnum : 0 < num) (hden : 0 < den) :
    (2 : ℚ) ^ ((num.log2 : ℤ) - den.log2 - 1) < num / den := by
  have hlow : (2 : ℚ) ^ num.log2 ≤ num := by exact_mod_cast Nat.log2_self_le hnum.ne'
  have hhigh : (den : ℚ) < 2 ^ (den.log2 + 1) := by exact_mod_cast Nat.lt_log2_self
  have hpos : (0 : ℚ) < den := by exact_mod_cast hden
  have hsplit : (2 : ℚ) ^ ((num.log2 : ℤ) - den.log2 - 1) = 2 ^ num.log2 / 2 ^ (den.log2 + 1) := by
    rw [← zpow_natCast, ← zpow_natCast, ← zpow_sub₀ two_ne_zero]
    congr 1
    push_cast
    ring
  rw [hsplit]
  exact (div_lt_div_iff_of_pos_left (by positivity) (by positivity) hpos).2 hhigh |>.trans_le
    ((div_le_div_iff_of_pos_right hpos).2 hlow)

/-- The step of the grid that a quotient is rounded on is less than twice the quotient. -/
theorem two_pow_lastBit_lt {num den : ℕ} (hden : 0 < den)
    (h : (2 : ℚ) ^ (-1075 : ℤ) < num / den) :
    (2 : ℚ) ^ lastBit num den < 2 * (num / den) := by
  have hnum := pos_of_lt_quotient h
  have hlength := two_pow_log2_lt hnum hden
  have hpos : (0 : ℚ) < num / den := by positivity
  have hguess : ∀ e : ℤ, e ≤ (num.log2 : ℤ) - den.log2 - 52 →
      (2 : ℚ) ^ e < 2 * (num / den) := by
    intro e he
    have hle : (2 : ℚ) ^ e ≤ 2 ^ ((num.log2 : ℤ) - den.log2 - 1) :=
      zpow_le_zpow_right₀ one_le_two (by omega)
    linarith
  unfold lastBit
  dsimp only
  rcases max_choice (if num * Nat.pow 2 (-((num.log2 : ℤ) - den.log2 - 53)).toNat <
      Nat.pow 2 53 * (den * Nat.pow 2 ((num.log2 : ℤ) - den.log2 - 53).toNat)
    then (num.log2 : ℤ) - den.log2 - 53 else (num.log2 : ℤ) - den.log2 - 53 + 1) (-1074)
    with hmax | hmax <;> rw [hmax]
  · refine hguess _ ?_
    split <;> omega
  · rw [two_pow_least]
    linarith

theorem roundQuotient_pos {num den : ℕ} (h : den < 2 * num) : 0 < roundQuotient num den := by
  unfold roundQuotient
  dsimp only
  rcases Nat.lt_or_ge num den with hlt | hge
  · rw [Nat.div_eq_of_lt hlt, Nat.mod_eq_of_lt hlt, if_neg (by omega), if_pos h]
    exact Nat.succ_pos 0
  · have hden : 0 < den ∨ den = 0 := by omega
    rcases hden with hden | rfl
    · have hpos : 0 < num / den := Nat.div_pos hge hden
      split
      · exact hpos
      · split
        · omega
        · split <;> omega
    · rw [Nat.mod_zero, if_neg (by omega), if_pos (by omega)]
      exact Nat.succ_pos _

/-- A quotient above half of the least number above zero is not rounded to zero. -/
theorem nearest_ne_zero {num den : ℕ} (hden : 0 < den) (h : (2 : ℚ) ^ (-1075 : ℤ) < num / den) :
    (nearest num den == 0.0) = false := by
  have hstep := two_pow_lastBit_lt hden h
  have hleast : -1074 ≤ lastBit num den := le_max_right _ _
  have hdigits : 0 < roundQuotient (num * Nat.pow 2 (-lastBit num den).toNat)
      (den * Nat.pow 2 (lastBit num den).toNat) := by
    refine roundQuotient_pos ?_
    rw [zpow_eq_div two_ne_zero, div_lt_iff₀ (by positivity)] at hstep
    have hden' : (0 : ℚ) < den := by exact_mod_cast hden
    have hcast : (den : ℚ) * 2 ^ (lastBit num den).toNat <
        2 * (num * 2 ^ (-lastBit num den).toNat) := by
      have := mul_lt_mul_of_pos_left hstep hden'
      calc (den : ℚ) * 2 ^ (lastBit num den).toNat
          < den * (2 * (num / den) * 2 ^ (-lastBit num den).toNat) := this
        _ = 2 * (num * 2 ^ (-lastBit num den).toNat) := by field_simp
    exact_mod_cast hcast
  rw [nearest, if_neg (pos_of_lt_quotient h).ne']
  refine ofBits_ne_zero ?_ (Nat.min_le_right _ _)
  unfold nearestBits
  dsimp only
  refine lt_min ?_ (by decide)
  split
  · exact hdigits
  · have hexponent : 0 < (lastBit num den + 1075).toNat := by omega
    have hpow : 0 < Nat.pow 2 52 := by decide
    exact Nat.lt_of_lt_of_le (Nat.mul_pos hexponent hpow) (Nat.le_add_right _ _)

theorem ten_pow_le_half : (10 : ℚ) ^ (-400 : ℤ) ≤ 2 ^ (-1075 : ℤ) := by
  have hpow : 2 ^ 1075 ≤ 10 ^ 400 := by decide +kernel
  rw [zpow_neg, zpow_neg]
  refine inv_anti₀ (by positivity) ?_
  exact_mod_cast hpow

/-- A decimal above half of the least number above zero is not rounded to zero. -/
theorem nearestDecimal_ne_zero {m : ℕ} {e : ℤ} (h : (2 : ℚ) ^ (-1075 : ℤ) < m * 10 ^ e) :
    (nearestDecimal m e == 0.0) = false := by
  unfold nearestDecimal
  split
  · rename_i hm
    rw [hm, Nat.cast_zero, zero_mul] at h
    exact absurd h (not_lt.2 (by positivity))
  · split
    · decide
    · split
      · rename_i hlow
        have hdigits : (m : ℚ) < 10 ^ (m.log2 + 1) := by
          have hten : (2 : ℚ) ^ (m.log2 + 1) ≤ 10 ^ (m.log2 + 1) :=
            pow_le_pow_left₀ (by norm_num) (by norm_num) _
          exact lt_of_lt_of_le (by exact_mod_cast Nat.lt_log2_self) hten
        have hsmall : (m : ℚ) * 10 ^ e < 10 ^ (-400 : ℤ) := by
          calc (m : ℚ) * 10 ^ e < 10 ^ (m.log2 + 1) * 10 ^ e :=
                mul_lt_mul_of_pos_right hdigits (by positivity)
            _ = 10 ^ ((m.log2 : ℤ) + 1 + e) := by
                rw [← zpow_natCast, ← zpow_add₀ (by norm_num)]
                push_cast
                rfl
            _ ≤ 10 ^ (-400 : ℤ) := zpow_le_zpow_right₀ (by norm_num) (by omega)
        exact absurd (h.trans hsmall) (not_lt.2 ten_pow_le_half)
      · refine nearest_ne_zero (Nat.pow_pos (by decide)) ?_
        rw [zpow_eq_div (a := 10) (by norm_num)] at h
        have hcast : ((m * 10 ^ e.toNat : ℕ) : ℚ) / (10 ^ (-e).toNat : ℕ) =
            m * (10 ^ e.toNat / 10 ^ (-e).toNat) := by
          push_cast
          exact mul_div_assoc _ _ _
        rw [← hcast] at h
        exact h

end SystemDynamics
