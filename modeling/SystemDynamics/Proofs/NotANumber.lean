import SystemDynamics.Number.Reading

/-!
# What is no number

What is no number compares with nothing, and all else is ordered (`order_swap`, `order_total`).
Sums and differences are no numbers only if an operand is none or both are infinite; a product with
a finite number above zero only if the other factor is none. A literal always is a number, if
perhaps an infinite one (`Reading.Literal.isNaN_value`).
-/

namespace SystemDynamics

open Float.Model Float.Model.UnpackedFloat

theorem isNaN_dite {p : Prop} [Decidable p] {u : p → UnpackedFloat} {v : ¬ p → UnpackedFloat}
    (hu : ∀ h, (u h).isNaN = false) (hv : ∀ h, (v h).isNaN = false) :
    (dite p u v).isNaN = false := by
  by_cases h : p
  · rw [dif_pos h]
    exact hu h
  · rw [dif_neg h]
    exact hv h

section Packed

variable {S : Format}

theorem isNaN_unpack_iff (b : BitVec S.numBits) :
    (UnpackedFloat.unpack S b).isNaN = true ↔ unpackExponent b = -1#_ ∧ unpackMantissa b ≠ 0#_ := by
  unfold UnpackedFloat.unpack
  dsimp only
  by_cases hall : unpackExponent b = -1#_
  · rw [if_pos hall]
    by_cases hzero : unpackMantissa b = 0#_
    · rw [if_pos hzero]
      exact ⟨fun h => (Bool.false_ne_true h).elim, fun h => (h.2 hzero).elim⟩
    · rw [if_neg hzero]
      exact ⟨fun _ => ⟨hall, hzero⟩, fun _ => rfl⟩
  · rw [if_neg hall]
    refine ⟨fun h => ?_, fun h => (hall h.1).elim⟩
    by_cases hleast : unpackExponent b = 0#_
    · rw [if_pos hleast, isNaN_dite (fun _ => rfl) fun _ => rfl] at h
      exact (Bool.false_ne_true h).elim
    · rw [if_neg hleast] at h
      exact (Bool.false_ne_true h).elim

theorem isNaN_unpack_packComponents {sign : Sign} {exponent : BitVec S.exponentBits}
    {mantissa : BitVec S.mantissaBitsWithoutImplicit} (h : exponent ≠ -1#_ ∨ mantissa = 0#_) :
    (UnpackedFloat.unpack S (packComponents S sign exponent mantissa)).isNaN = false := by
  refine Bool.eq_false_iff.2 fun hnan => ?_
  obtain ⟨he, hm⟩ := (isNaN_unpack_iff _).1 hnan
  rw [unpackExponent_packComponents] at he
  rw [unpackMantissa_packComponents] at hm
  exact h.elim (fun h => h he) hm

end Packed

/-- Packing a finite number gives it an exponent that is left to finite ones, or makes it
infinite. -/
theorem pack_finite (sign : Sign) (m : Nat) (e : Int) (hm : 0 < m) :
    ∃ exponent mantissa, UnpackedFloat.pack .binary64 (.finite sign m e hm) =
      packComponents .binary64 sign exponent mantissa ∧ (exponent ≠ -1#_ ∨ mantissa = 0#_) := by
  unfold UnpackedFloat.pack
  dsimp only
  split
  · exact ⟨_, _, rfl, .inr rfl⟩
  · rename_i hsmall
    split
    · refine ⟨_, _, rfl, .inl fun heq => ?_⟩
      have hvalue := congrArg BitVec.toNat heq
      simp at hvalue hsmall
      omega
    · exact ⟨_, _, rfl, .inl (by decide)⟩

theorem unpack_pack (u : UnpackedFloat) :
    (Float.Model.pack u).unpack = UnpackedFloat.unpack .binary64 (UnpackedFloat.pack .binary64 u) :=
  rfl

/-- Packing keeps what is no number, and makes none. -/
theorem isNaN_unpack_pack (u : UnpackedFloat) : (Float.Model.pack u).unpack.isNaN = u.isNaN := by
  cases u with
  | notANumber => rfl
  | infinity sign => exact isNaN_unpack_packComponents (.inr rfl)
  | zero sign => exact isNaN_unpack_packComponents (.inl (by decide))
  | finite sign m e hm =>
    obtain ⟨exponent, mantissa, hpack, hcase⟩ := pack_finite sign m e hm
    rw [unpack_pack, hpack]
    exact isNaN_unpack_packComponents hcase

section Arithmetic

theorem isNaN_roundWithAccuracy (S : Format) (sign : Sign) (m : Nat) (e : Int) (a : Accuracy) :
    (roundWithAccuracy S sign m e a).isNaN = false := by
  unfold roundWithAccuracy
  exact isNaN_dite (fun _ => rfl) fun _ => rfl

theorem isNaN_normalize (S : Format) (m : Int) (e : Int) (sign : Sign) :
    (UnpackedFloat.normalize S m e sign).isNaN = false := by
  unfold UnpackedFloat.normalize
  split
  · exact isNaN_roundWithAccuracy _ _ _ _ _
  · rfl
  · exact isNaN_roundWithAccuracy _ _ _ _ _

theorem isNaN_unpacked_add (S : Format) : ∀ u v : UnpackedFloat,
    (UnpackedFloat.add S u v).isNaN = true →
      u.isNaN = true ∨ v.isNaN = true ∨ (u.isInf = true ∧ v.isInf = true)
  | .notANumber, _, _ => .inl rfl
  | .infinity _, .notANumber, _ | .zero _, .notANumber, _ | .finite .., .notANumber, _ =>
    .inr (.inl rfl)
  | .infinity _, .infinity _, _ => .inr (.inr ⟨rfl, rfl⟩)
  | .infinity _, .zero _, h | .infinity _, .finite .., h | .zero _, .infinity _, h
  | .finite .., .infinity _, h | .zero _, .finite .., h | .finite .., .zero _, h =>
    (Bool.false_ne_true h).elim
  | .zero s, .zero t, h => by
    rcases s with _ | _ <;> rcases t with _ | _ <;> exact (Bool.false_ne_true h).elim
  | .finite .., .finite .., h =>
    absurd ((isNaN_normalize _ _ _ _).symm.trans h) (by decide)

theorem isNaN_unpacked_sub (S : Format) : ∀ u v : UnpackedFloat,
    (UnpackedFloat.sub S u v).isNaN = true →
      u.isNaN = true ∨ v.isNaN = true ∨ (u.isInf = true ∧ v.isInf = true)
  | .notANumber, _, _ => .inl rfl
  | .infinity _, .notANumber, _ | .zero _, .notANumber, _ | .finite .., .notANumber, _ =>
    .inr (.inl rfl)
  | .infinity _, .infinity _, _ => .inr (.inr ⟨rfl, rfl⟩)
  | .infinity _, .zero _, h | .infinity _, .finite .., h | .zero _, .infinity _, h
  | .finite .., .infinity _, h | .zero _, .finite .., h | .finite .., .zero _, h =>
    (Bool.false_ne_true h).elim
  | .zero s, .zero t, h => by
    rcases s with _ | _ <;> rcases t with _ | _ <;> exact (Bool.false_ne_true h).elim
  | .finite .., .finite .., h =>
    absurd ((isNaN_normalize _ _ _ _).symm.trans h) (by decide)

/-- A product with a finite factor that is not zero is a number if the other factor is. -/
theorem isNaN_unpacked_mul (S : Format) : ∀ u v : UnpackedFloat,
    (UnpackedFloat.mul S u v).isNaN = true → v.isFinite = true → (∀ sign, v ≠ .zero sign) →
      u.isNaN = true
  | .notANumber, _, _, _, _ => rfl
  | _, .notANumber, _, hv, _ | _, .infinity _, _, hv, _ => (Bool.false_ne_true hv).elim
  | _, .zero sign, _, _, hz => absurd rfl (hz sign)
  | .infinity _, .finite .., h, _, _ | .zero _, .finite .., h, _, _ => (Bool.false_ne_true h).elim
  | .finite .., .finite .., h, _, _ =>
    absurd ((isNaN_roundWithAccuracy _ _ _ _ _).symm.trans h) (by decide)

variable {x y : Float}

/-- What is finite is a number. -/
theorem isNaN_of_finite (h : x.isFinite = true) : x.isNaN = false := by
  have hfinite : ∀ u : UnpackedFloat, u.isFinite = true → u.isNaN = false := by
    intro u hu
    cases u <;> first | rfl | cases hu
  exact hfinite x.toModel.unpack h

theorem isInf_of_finite (h : x.isFinite = true) : x.isInf = false := by
  have hfinite : ∀ u : UnpackedFloat, u.isFinite = true → u.isInf = false := by
    intro u hu
    cases u <;> first | rfl | cases hu
  exact hfinite x.toModel.unpack h

/-- A sum is no number only if an operand is none or both are infinite. -/
theorem isNaN_add (h : (x + y).isNaN = true) :
    x.isNaN = true ∨ y.isNaN = true ∨ (x.isInf = true ∧ y.isInf = true) :=
  isNaN_unpacked_add _ _ _ ((isNaN_unpack_pack _).symm.trans h)

/-- A difference is no number only if an operand is none or both are infinite. -/
theorem isNaN_sub (h : (x - y).isNaN = true) :
    x.isNaN = true ∨ y.isNaN = true ∨ (x.isInf = true ∧ y.isInf = true) :=
  isNaN_unpacked_sub _ _ _ ((isNaN_unpack_pack _).symm.trans h)

theorem isNaN_sub_of_finite (hx : x.isFinite = true) (hy : y.isFinite = true) :
    (x - y).isNaN = false := by
  refine Bool.eq_false_iff.2 fun hnan => ?_
  rcases isNaN_sub hnan with h | h | ⟨h, -⟩
  · exact Bool.false_ne_true ((isNaN_of_finite hx).symm.trans h)
  · exact Bool.false_ne_true ((isNaN_of_finite hy).symm.trans h)
  · exact Bool.false_ne_true ((isInf_of_finite hx).symm.trans h)

/-- What is no number makes no number of a difference that it is taken away in. -/
theorem isNaN_sub_of_right (x : Float) (h : y.isNaN = true) : (x - y).isNaN = true := by
  have hsub : ∀ u v : UnpackedFloat, v.isNaN = true → (u.sub .binary64 v).isNaN = true := by
    intro u v hv
    cases v <;> cases hv
    cases u <;> rfl
  exact (isNaN_unpack_pack _).trans (hsub _ _ h)

/-- What is no number makes no number of a product. -/
theorem isNaN_mul_of_right (x : Float) (h : y.isNaN = true) : (x * y).isNaN = true := by
  have hmul : ∀ u v : UnpackedFloat, v.isNaN = true → (u.mul .binary64 v).isNaN = true := by
    intro u v hv
    cases v <;> cases hv
    cases u <;> rfl
  exact (isNaN_unpack_pack _).trans (hmul _ _ h)

theorem isNaN_neg (x : Float) : (-x).isNaN = x.isNaN := by
  have hneg : ∀ u : UnpackedFloat, u.neg.isNaN = u.isNaN := fun u => by cases u <;> rfl
  exact (isNaN_unpack_pack _).trans (hneg x.toModel.unpack)

/-- A product with a finite number above zero is no number only if the other factor is none. -/
theorem isNaN_mul (h : (x * y).isNaN = true) (hy : y.isFinite = true) (hpos : 0.0 < y) :
    x.isNaN = true := by
  refine isNaN_unpacked_mul _ _ _ ((isNaN_unpack_pack _).symm.trans h) hy fun sign hzero => ?_
  have hlt : (0.0 : Float).toModel.unpack.lt y.toModel.unpack = true :=
    decide_eq_true_iff.1 hpos
  rw [hzero] at hlt
  cases sign <;> revert hlt <;> decide

end Arithmetic

section Order

theorem compare_swap : ∀ u v : UnpackedFloat, v.compare u = (u.compare v).map Ordering.swap
  | .notANumber, .notANumber | .notANumber, .infinity _ | .notANumber, .zero _
  | .notANumber, .finite .. | .infinity _, .notANumber | .zero _, .notANumber
  | .finite .., .notANumber | .zero _, .zero _ => rfl
  | .infinity s, .infinity t => by cases s <;> cases t <;> rfl
  | .infinity s, .zero _ | .infinity s, .finite .. | .zero _, .infinity s
  | .finite .., .infinity s => by cases s <;> rfl
  | .zero _, .finite s .. | .finite s .., .zero _ => by cases s <;> rfl
  | .finite s m e _, .finite t n f _ => by
    have hswap : (compare f e).then (compare n m) =
        ((compare e f).then (compare m n)).swap := by
      rw [Ordering.swap_then, Int.compare_swap, Nat.compare_swap]
    cases s <;> cases t
    · exact congrArg (fun o => some (Ordering.swap o)) hswap
    · rfl
    · rfl
    · exact congrArg some hswap

theorem compare_total : ∀ u v : UnpackedFloat, u.isNaN = false → v.isNaN = false →
    ∃ o, u.compare v = some o
  | .notANumber, _, h, _ | _, .notANumber, _, h => (Bool.false_ne_true h.symm).elim
  | .infinity _, .infinity _, _, _ | .zero _, .zero _, _, _ => ⟨_, rfl⟩
  | .infinity s, .zero _, _, _ | .infinity s, .finite .., _, _ | .zero _, .infinity s, _, _
  | .finite .., .infinity s, _, _ | .zero _, .finite s .., _, _ | .finite s .., .zero _, _, _ => by
    cases s <;> exact ⟨_, rfl⟩
  | .finite s .., .finite t .., _, _ => by cases s <;> cases t <;> exact ⟨_, rfl⟩

/-- How two numbers compare, if both are numbers. -/
def order (x y : Float) : Option Ordering := x.toModel.unpack.compare y.toModel.unpack

variable {x y z : Float}

theorem lt_iff_order : x < y ↔ order x y = some .lt :=
  (decide_eq_true_iff (p := x.toModel < y.toModel)).trans beq_iff_eq

theorem le_iff_isLE : x ≤ y ↔ (order x y).any Ordering.isLE = true :=
  decide_eq_true_iff (p := x.toModel ≤ y.toModel)

theorem le_iff_order : x ≤ y ↔ order x y = some .lt ∨ order x y = some .eq := by
  rw [le_iff_isLE]
  rcases order x y with _ | _ | _ | _ <;> decide

theorem order_swap (x y : Float) : order y x = (order x y).map Ordering.swap := compare_swap _ _

theorem order_total (hx : x.isNaN = false) (hy : y.isNaN = false) : ∃ o, order x y = some o :=
  compare_total _ _ hx hy

theorem order_nan (h : x.isNaN = true) (y : Float) : order x y = none := by
  have hcompare : ∀ u v : UnpackedFloat, u.isNaN = true → u.compare v = none := by
    intro u v hu
    cases u <;> cases hu
    rfl
  exact hcompare _ _ h

theorem order_nan_right (x : Float) (h : y.isNaN = true) : order x y = none := by
  rw [order_swap, order_nan h]
  rfl

theorem le_of_not_lt (hx : x.isNaN = false) (hy : y.isNaN = false) (h : ¬ x < y) : y ≤ x := by
  obtain ⟨o, ho⟩ := order_total hx hy
  rw [lt_iff_order, ho] at h
  rw [le_iff_order, order_swap, ho]
  rcases o with _ | _ | _
  · exact absurd rfl h
  · exact .inr rfl
  · exact .inl rfl

theorem not_lt_of_le (h : x ≤ y) : ¬ y < x := by
  rw [lt_iff_order, order_swap]
  rcases le_iff_order.1 h with h | h <;> rw [h] <;> decide

theorem le_self (hx : x.isNaN = false) : x ≤ x := by
  obtain ⟨o, ho⟩ := order_total hx hx
  have hswap := order_swap x x
  rw [ho] at hswap
  rw [le_iff_order, ho]
  rcases o with _ | _ | _
  · cases hswap
  · exact .inr rfl
  · cases hswap

theorem not_nan_of_le (h : x ≤ y) : x.isNaN = false ∧ y.isNaN = false := by
  refine ⟨Bool.eq_false_iff.2 fun hx => ?_, Bool.eq_false_iff.2 fun hy => ?_⟩
  · rw [le_iff_order, order_nan hx] at h
    simp at h
  · rw [le_iff_order, order_nan_right x hy] at h
    simp at h

theorem not_lt_nan (h : x.isNaN = true) : ¬ x < y := by
  rw [lt_iff_order, order_nan h]
  simp

theorem not_nan_lt (h : y.isNaN = true) : ¬ x < y := by
  rw [lt_iff_order, order_nan_right x h]
  simp

end Order

section Literals

theorem unpackExponent_toNat (b : BitVec Format.binary64.numBits) :
    (unpackExponent b).toNat = b.toNat / Nat.pow 2 52 % Nat.pow 2 11 := by
  simp [unpackExponent, Nat.shiftRight_eq_div_pow]

theorem unpackMantissa_toNat (b : BitVec Format.binary64.numBits) :
    (unpackMantissa b).toNat = b.toNat % Nat.pow 2 52 := by
  simp [unpackMantissa]

/-- Bits up to those of infinity stand for numbers. -/
theorem isNaN_ofBits {n : Nat} (h : n ≤ 2047 * Nat.pow 2 52) :
    (Float.ofBits (UInt64.ofNat n)).isNaN = false := by
  refine (isNaN_unpack_pack _).trans (Bool.eq_false_iff.2 fun hnan => ?_)
  obtain ⟨he, hm⟩ := (isNaN_unpack_iff (S := .binary64) _).1 hnan
  have hpow : Nat.pow 2 52 = 4503599627370496 := rfl
  have hbits : ((UInt64.ofNat n).toBitVec : BitVec Format.binary64.numBits).toNat = n := by
    have hn : (UInt64.ofNat n).toNat = n := by
      simp
      omega
    exact hn
  have hexponent := congrArg BitVec.toNat he
  have hpower : Nat.pow 2 11 = 2048 := rfl
  rw [unpackExponent_toNat, hbits, hpow, hpower] at hexponent
  have hmantissa : n % Nat.pow 2 52 ≠ 0 := fun hzero => hm (BitVec.eq_of_toNat_eq (by
    rw [unpackMantissa_toNat, hbits, hzero]
    rfl))
  rw [hpow] at h hmantissa
  have hall : (-BitVec.ofNat Format.binary64.exponentBits 1).toNat = 2047 := by decide
  -- An exponent of all ones leaves `n` no mantissa, as it is not above the bits of infinity.
  omega

theorem isNaN_nearest (num den : Nat) : (nearest num den).isNaN = false := by
  unfold nearest
  split
  · decide
  · exact isNaN_ofBits (Nat.min_le_right _ _)

theorem isNaN_nearestDecimal (mantissa : Nat) (exponent : Int) :
    (nearestDecimal mantissa exponent).isNaN = false := by
  unfold nearestDecimal
  split
  · decide
  · split
    · decide
    · split
      · decide
      · exact isNaN_nearest _ _

theorem Reading.Literal.isNaN_value (l : Reading.Literal) : l.value.isNaN = false :=
  isNaN_nearestDecimal _ _

end Literals

end SystemDynamics
