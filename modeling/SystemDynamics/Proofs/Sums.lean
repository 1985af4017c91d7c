import SystemDynamics.Proofs.Rounding
import Mathlib

/-!
# Sums and differences keep the order

Packing keeps what rounding gives, or makes it infinite where it is too great for binary64
(`Rounded.unpack_pack`). Since rounding keeps the order, adding what is not below zero never leads
to less, and taking it away never to more, infinite numbers and what is no number included
(`le_add`, `not_lt_sub`).
-/

namespace SystemDynamics

open Float.Model Float.Model.UnpackedFloat

section Packed

/-- The mantissa of a normal number, with its implicit bit. -/
theorem toNat_implicit (mantissa : BitVec 52) :
    (1#1 ++ mantissa).toNat = 2 ^ 52 + mantissa.toNat := by
  rw [BitVec.toNat_append, ← Nat.shiftLeft_add_eq_or_of_lt mantissa.isLt]
  rfl

/-- The exponents that are left to normal numbers. -/
theorem exponent_bounds {exponent : BitVec 11} (hall : exponent ≠ -1#_) (hzero : exponent ≠ 0#_) :
    1 ≤ exponent.toNat ∧ exponent.toNat ≤ 2046 := by
  have hlt := exponent.isLt
  have hall' : exponent.toNat ≠ 2047 := fun h => hall (BitVec.eq_of_toNat_eq h)
  have hzero' : exponent.toNat ≠ 0 := fun h => hzero (BitVec.eq_of_toNat_eq h)
  omega

/-- A finite number is given by digits and an exponent of binary64. -/
theorem unpack_canonical {b : BitVec Format.binary64.numBits} {sign : Sign} {m : Nat} {e : Int}
    {hm : 0 < m} (h : UnpackedFloat.unpack .binary64 b = .finite sign m e hm) :
    Canonical m e ∧ e ≤ 971 := by
  have hmantissa : (unpackMantissa b).toNat < 2 ^ 52 := (unpackMantissa b).isLt
  have hbias : (Format.binary64.exponentBias : Int) + Format.binary64.mantissaBitsWithoutImplicit =
      1075 := rfl
  unfold UnpackedFloat.unpack at h
  dsimp only at h
  split at h
  · split at h <;> cases h
  · rename_i hall
    split at h
    · rename_i hzero
      split at h <;> cases h
      rw [hzero, hbias]
      exact ⟨⟨by omega, by decide, fun h => absurd h (by decide)⟩, by decide⟩
    · rename_i hzero
      obtain ⟨hlow, hhigh⟩ := exponent_bounds hall hzero
      cases h
      rw [toNat_implicit, hbias]
      exact ⟨⟨by omega, by omega, fun _ => by omega⟩, by omega⟩

theorem unpack_normal (sign : Sign) (exponent : BitVec Format.binary64.exponentBits)
    (mantissa : BitVec Format.binary64.mantissaBitsWithoutImplicit) (hall : exponent ≠ -1#_)
    (hzero : exponent ≠ 0#_) :
    ∃ h, UnpackedFloat.unpack .binary64 (packComponents .binary64 sign exponent mantissa) =
      .finite sign (2 ^ 52 + mantissa.toNat) (exponent.toNat - 1075) h := by
  refine ⟨by omega, ?_⟩
  unfold UnpackedFloat.unpack
  dsimp only
  rw [if_neg (by rwa [unpackExponent_packComponents]),
    if_neg (by rwa [unpackExponent_packComponents])]
  simp only [unpackExponent_packComponents, unpackMantissa_packComponents,
    unpackSign_packComponents, Sign.ofBitVec_toBitVec]
  congr 1
  exact toNat_implicit mantissa

theorem unpack_subnormal (sign : Sign)
    (mantissa : BitVec Format.binary64.mantissaBitsWithoutImplicit) (h : mantissa ≠ 0#_) :
    ∃ h, UnpackedFloat.unpack .binary64 (packComponents .binary64 sign 0#_ mantissa) =
      .finite sign mantissa.toNat (-1074) h := by
  refine ⟨Nat.pos_of_ne_zero fun hzero => h (BitVec.eq_of_toNat_eq hzero), ?_⟩
  unfold UnpackedFloat.unpack
  dsimp only
  rw [if_neg (by rw [unpackExponent_packComponents]; decide),
    if_pos (by rw [unpackExponent_packComponents]),
    dif_neg (by rwa [unpackMantissa_packComponents])]
  simp only [unpackExponent_packComponents, unpackMantissa_packComponents,
    unpackSign_packComponents, Sign.ofBitVec_toBitVec]
  congr 1

theorem unpack_infinity (sign : Sign) :
    UnpackedFloat.unpack .binary64 (packedInfinity .binary64 sign) = .infinity sign := by
  unfold UnpackedFloat.unpack packedInfinity
  dsimp only
  rw [if_pos (by rw [unpackExponent_packComponents]),
    if_pos (by rw [unpackMantissa_packComponents]; rfl), unpackSign_packComponents,
    Sign.ofBitVec_toBitVec]

/-- Packing keeps a number that is not too great for binary64, and makes it infinite if it is. -/
theorem unpack_pack_canonical (sign : Sign) {m : Nat} {e : Int} (hm : 0 < m)
    (h : Canonical m e) :
    (Float.Model.pack (.finite sign m e hm)).unpack =
      if e ≤ 971 then .finite sign m e hm else .infinity sign := by
  rw [unpack_pack]
  unfold UnpackedFloat.pack
  dsimp only
  have hbias : e + (Format.binary64.exponentBias : Int) +
      Format.binary64.mantissaBitsWithoutImplicit = e + 1075 := by
    have : (Format.binary64.exponentBias : Int) + Format.binary64.mantissaBitsWithoutImplicit =
      1075 := rfl
    omega
  have := h.least
  have := h.small
  have hbits : (2 : Nat) ^ Format.binary64.exponentBits = 2048 := rfl
  rw [hbias, hbits]
  split
  · rename_i hgreat
    have hinfinite : ¬ e ≤ 971 := by omega
    rw [if_neg hinfinite, unpack_infinity]
  · rename_i hsmall
    have hfinite : e ≤ 971 := by omega
    rw [if_pos hfinite]
    have hexponent : (BitVec.ofNat 11 (e + 1075).toNat).toNat = (e + 1075).toNat :=
      Nat.mod_eq_of_lt (by omega)
    split
    · rename_i hlog
      have hfull : 2 ^ 52 ≤ m := (Nat.le_log2 (Nat.ne_of_gt hm)).1 (Nat.le_of_eq (by
        exact (Nat.succ.inj hlog).symm))
      have hmantissa : (BitVec.ofNat 52 m).toNat = m - 2 ^ 52 := by
        rw [BitVec.toNat_ofNat]
        omega
      obtain ⟨hpos, hunpack⟩ := unpack_normal sign (BitVec.ofNat 11 (e + 1075).toNat)
        (BitVec.ofNat 52 m)
        (fun heq => by
          have : (e + 1075).toNat = 2047 := hexponent.symm.trans (congrArg BitVec.toNat heq)
          omega)
        (fun heq => by
          have : (e + 1075).toNat = 0 := hexponent.symm.trans (congrArg BitVec.toNat heq)
          omega)
      refine hunpack.trans ?_
      simp only [hexponent, hmantissa, UnpackedFloat.finite.injEq, true_and]
      omega
    · rename_i hlog
      have hne : m.log2 + 1 ≠ 53 := hlog
      have hlog53 : m.log2 < 53 := (Nat.log2_lt (Nat.ne_of_gt hm)).2 h.small
      have hfew : m < 2 ^ 52 := (Nat.log2_lt (Nat.ne_of_gt hm)).1 (by omega)
      obtain rfl : e = -1074 := by
        have := h.full
        omega
      have hmantissa : (BitVec.ofNat 52 m).toNat = m := by
        rw [BitVec.toNat_ofNat]
        omega
      obtain ⟨hpos, hunpack⟩ := unpack_subnormal sign (BitVec.ofNat 52 m) fun heq => by
        have : m = 0 := hmantissa.symm.trans (congrArg BitVec.toNat heq)
        omega
      refine hunpack.trans ?_
      simp only [hmantissa]

end Packed

section Order

/-- Where a number stands among all numbers, in the order of binary64. -/
def rank : UnpackedFloat → Int × Int × Int
  | .notANumber | .zero _ => (0, 0, 0)
  | .infinity .positive => (2, 0, 0)
  | .infinity .negative => (-2, 0, 0)
  | .finite .positive m e _ => (1, e, m)
  | .finite .negative m e _ => (-1, -e, -m)

abbrev RankLE (p q : Int × Int × Int) : Prop :=
  p.1 < q.1 ∨ (p.1 = q.1 ∧ (p.2.1 < q.2.1 ∨ (p.2.1 = q.2.1 ∧ p.2.2 ≤ q.2.2)))

theorem isLE_then {e f : Int} {m n : Nat} :
    ((compare e f).then (compare m n)).isLE = true ↔ AtMost m e n f := by
  rw [AtMost, Ordering.isLE_then_iff_or, Int.compare_eq_lt, Int.compare_eq_eq, Nat.isLE_compare]

theorem isLE_compare_iff : ∀ {u v : UnpackedFloat}, u.isNaN = false → v.isNaN = false →
    ((u.compare v).any Ordering.isLE = true ↔ RankLE (rank u) (rank v))
  | .notANumber, _, h, _ | _, .notANumber, _, h => (Bool.false_ne_true h.symm).elim
  | .infinity s, .infinity t, _, _ => by
    cases s <;> cases t <;> decide
  | .infinity s, .zero _, _, _ | .zero _, .infinity s, _, _ => by
    cases s <;> simp [UnpackedFloat.compare, rank, RankLE]
  | .infinity s, .finite t .., _, _ | .finite t .., .infinity s, _, _ => by
    cases s <;> cases t <;> simp [UnpackedFloat.compare, rank, RankLE]
  | .zero _, .zero _, _, _ => by simp [UnpackedFloat.compare, rank, RankLE]
  | .zero _, .finite s .., _, _ | .finite s .., .zero _, _, _ => by
    cases s <;> simp [UnpackedFloat.compare, rank, RankLE]
  | .finite s m e _, .finite t n f _, _, _ => by
    cases s <;> cases t
    · have hswap : ((compare e f).then (compare m n)).swap = (compare f e).then (compare n m) := by
        rw [Ordering.swap_then, Int.compare_swap, Nat.compare_swap]
      simp only [UnpackedFloat.compare, Option.any_some, hswap, isLE_then, AtMost, rank, RankLE,
        Int.lt_irrefl, true_and, false_or]
      omega
    · simp [UnpackedFloat.compare, rank, RankLE]
    · simp [UnpackedFloat.compare, rank, RankLE]
    · simp only [UnpackedFloat.compare, Option.any_some, isLE_then, AtMost, rank, RankLE,
        Int.lt_irrefl, true_and, false_or]
      omega

variable {x y z : Float}

theorem le_iff_rank (hx : x.isNaN = false) (hy : y.isNaN = false) :
    x ≤ y ↔ RankLE (rank x.toModel.unpack) (rank y.toModel.unpack) :=
  le_iff_isLE.trans (isLE_compare_iff hx hy)

theorem le_of_le_of_le (hxy : x ≤ y) (hyz : y ≤ z) : x ≤ z := by
  obtain ⟨hx, hy⟩ := not_nan_of_le hxy
  obtain ⟨-, hz⟩ := not_nan_of_le hyz
  rw [le_iff_rank hx hy] at hxy
  rw [le_iff_rank hy hz] at hyz
  rw [le_iff_rank hx hz]
  omega

end Order

section Sums

/-- What binary64 has, but for what is no number, if exponents may be of any size. -/
inductive Rounded : UnpackedFloat → Prop
  | zero (sign : Sign) : Rounded (.zero sign)
  | finite (sign : Sign) {m : Nat} {e : Int} (hm : 0 < m) (h : Canonical m e) :
      Rounded (.finite sign m e hm)
  | infinity (sign : Sign) : Rounded (.infinity sign)

/-- What binary64 has that is not below zero. -/
inductive NonNegative : UnpackedFloat → Prop
  | zero (sign : Sign) : NonNegative (.zero sign)
  | finite {m : Nat} {e : Int} (hm : 0 < m) (h : Canonical m e) (he : e ≤ 971) :
      NonNegative (.finite .positive m e hm)
  | infinity : NonNegative (.infinity .positive)

variable {u v w : UnpackedFloat}

/-- Packing only makes infinite what is too great. -/
theorem Rounded.unpack_pack (h : Rounded w) :
    (Float.Model.pack w).unpack = w ∨
      ∃ sign m e hm, w = .finite sign m e hm ∧ 971 < e ∧
        (Float.Model.pack w).unpack = .infinity sign := by
  cases h with
  | zero sign => exact .inl (by cases sign <;> rfl)
  | @finite sign m e hm h =>
    rw [unpack_pack_canonical sign hm h]
    split
    · exact .inl rfl
    · rename_i he
      exact .inr ⟨sign, m, e, hm, rfl, Int.not_le.1 he, rfl⟩
  | infinity sign => exact .inl (unpack_infinity sign)

theorem NonNegative.isLE_pack (hu : NonNegative u) (hw : Rounded w)
    (h : (u.compare w).any Ordering.isLE = true) :
    (u.compare (Float.Model.pack w).unpack).any Ordering.isLE = true := by
  rcases hw.unpack_pack with heq | ⟨sign, m, e, hm, rfl, he, hinfinite⟩
  · rwa [heq]
  · rw [hinfinite]
    cases sign <;> cases hu <;> first | rfl | cases h

theorem NonNegative.pack_isLE (hu : NonNegative u) (hw : Rounded w)
    (h : (w.compare u).any Ordering.isLE = true) :
    ((Float.Model.pack w).unpack.compare u).any Ordering.isLE = true := by
  rcases hw.unpack_pack with heq | ⟨sign, m, e, hm, rfl, he, hinfinite⟩
  · rwa [heq]
  · rw [hinfinite]
    cases sign <;> cases hu
    · rfl
    · rfl
    · rfl
    · cases h
    · have := isLE_then.1 h
      unfold AtMost at this
      omega
    · rfl

theorem compare_self_isLE (sign : Sign) {m : Nat} {e : Int} (hm : 0 < m) :
    ((UnpackedFloat.finite sign m e hm).compare (.finite sign m e hm)).any Ordering.isLE =
      true := by
  rw [isLE_compare_iff rfl rfl]
  exact .inr ⟨rfl, .inr ⟨rfl, Int.le_refl _⟩⟩

/-- The digits of a number from an exponent on. -/
theorem decreaseExponent_digits (m : Nat) (e x : Int) :
    (decreaseExponent m e x).1 = m * 2 ^ (e - x).toNat :=
  Nat.shiftLeft_eq _ _

theorem normalize_pos {n : Int} {k : Nat} (hn : n = k) (hk : 0 < k) (x : Int) (sign : Sign) :
    UnpackedFloat.normalize .binary64 n x sign = round .binary64 .positive k x := by
  subst hn
  have hgt : compare (k : Int) 0 = .gt := Int.compare_eq_gt.2 (by omega)
  unfold UnpackedFloat.normalize
  rw [hgt]
  rfl

theorem normalize_neg {n : Int} {k : Nat} (hn : n = -k) (hk : 0 < k) (x : Int) (sign : Sign) :
    UnpackedFloat.normalize .binary64 n x sign = round .binary64 .negative k x := by
  subst hn
  have hlt : compare (-(k : Int)) 0 = .lt := Int.compare_eq_lt.2 (by omega)
  unfold UnpackedFloat.normalize
  rw [hlt]
  simp

theorem add_rounded (hu : NonNegative u) (hv : NonNegative v) :
    Rounded (.add .binary64 u v) ∧ (u.compare (.add .binary64 u v)).any Ordering.isLE = true := by
  cases hu with
  | zero s =>
    cases hv with
    | zero t => cases s <;> cases t <;> exact ⟨.zero _, rfl⟩
    | finite hn hg hf => exact ⟨.finite .positive hn hg, rfl⟩
    | infinity => exact ⟨.infinity .positive, rfl⟩
  | @finite m e hm h he =>
    cases hv with
    | zero t => exact ⟨.finite .positive hm h, compare_self_isLE .positive hm⟩
    | @finite n f hn hg hf =>
      have hle := h.least
      have hlf := hg.least
      have hpos : 0 < m * 2 ^ (e - min e f).toNat := Nat.mul_pos hm (Nat.two_pow_pos _)
      have hsum : UnpackedFloat.add .binary64 (.finite .positive m e hm)
            (.finite .positive n f hn) =
          UnpackedFloat.normalize .binary64 (((decreaseExponent m e (min e f)).1 : Int) +
            (decreaseExponent n f (min e f)).1) (min e f) .positive := rfl
      rw [hsum, decreaseExponent_digits, decreaseExponent_digits,
        normalize_pos (Int.natCast_add _ _).symm (by omega)]
      obtain ⟨r, x, hr, hround, hcanonical, hmost⟩ := round_up .positive hm h
        (Nat.add_pos_left hpos (n * 2 ^ (f - min e f).toNat)) (Int.le_min.2 ⟨hle, hlf⟩)
        (Int.min_le_left e f) (Nat.le_add_right _ _)
      rw [hround]
      exact ⟨.finite .positive hr hcanonical, isLE_then.2 hmost⟩
    | infinity => exact ⟨.infinity .positive, rfl⟩
  | infinity => cases hv <;> exact ⟨.infinity .positive, rfl⟩

theorem sub_rounded (hu : NonNegative u) (hv : NonNegative v) :
    (UnpackedFloat.sub .binary64 u v).isNaN = true ∨
      (Rounded (.sub .binary64 u v) ∧
        ((UnpackedFloat.sub .binary64 u v).compare u).any Ordering.isLE = true) := by
  cases hu with
  | zero s =>
    cases hv with
    | zero t => cases s <;> cases t <;> exact .inr ⟨.zero _, rfl⟩
    | finite hn hg hf => exact .inr ⟨.finite .negative hn hg, rfl⟩
    | infinity => exact .inr ⟨.infinity .negative, rfl⟩
  | @finite m e hm h he =>
    cases hv with
    | zero t => exact .inr ⟨.finite .positive hm h, compare_self_isLE .positive hm⟩
    | @finite n f hn hg hf =>
      right
      have hle := h.least
      have hlf := hg.least
      have hleast := Int.le_min.2 ⟨hle, hlf⟩
      have hdifference :
          UnpackedFloat.sub .binary64 (.finite .positive m e hm) (.finite .positive n f hn) =
          UnpackedFloat.normalize .binary64 (((decreaseExponent m e (min e f)).1 : Int) -
            (decreaseExponent n f (min e f)).1) (min e f) .positive := rfl
      rw [hdifference, decreaseExponent_digits, decreaseExponent_digits]
      generalize hk : m * 2 ^ (e - min e f).toNat = k
      generalize hl : n * 2 ^ (f - min e f).toNat = l
      rcases Nat.lt_trichotomy l k with hlt | rfl | hgt
      · rw [normalize_pos (k := k - l) (by omega) (by omega)]
        obtain ⟨r, x, hr, hround, hcanonical, hmost⟩ := round_down .positive h
          (show 0 < k - l by omega) hleast (Int.min_le_left e f) (by omega)
        rw [hround]
        exact ⟨.finite .positive hr hcanonical, isLE_then.2 hmost⟩
      · rw [Int.sub_self]
        exact ⟨.zero .positive, rfl⟩
      · rw [normalize_neg (k := l - k) (by omega) (by omega)]
        obtain ⟨r, x, hr, hround, hcanonical, -⟩ := round_down .negative hg
          (show 0 < l - k by omega) hleast (Int.min_le_right e f) (by omega)
        rw [hround]
        exact ⟨.finite .negative hr hcanonical, rfl⟩
    | infinity => exact .inr ⟨.infinity .negative, rfl⟩
  | infinity =>
    cases hv with
    | zero | finite => exact .inr ⟨.infinity .positive, rfl⟩
    | infinity => exact .inl rfl

variable {x y : Float}

/-- What a word of bits stands for has the sign of the word. -/
theorem unpack_sign (b : BitVec Format.binary64.numBits) :
    (UnpackedFloat.unpack .binary64 b).isNaN = true ∨
      (∃ m e hm, UnpackedFloat.unpack .binary64 b = .finite (.ofBitVec (unpackSign b)) m e hm) ∨
      UnpackedFloat.unpack .binary64 b = .zero (.ofBitVec (unpackSign b)) ∨
      UnpackedFloat.unpack .binary64 b = .infinity (.ofBitVec (unpackSign b)) := by
  unfold UnpackedFloat.unpack
  dsimp only
  split
  · split
    · exact .inr (.inr (.inr rfl))
    · exact .inl rfl
  · split
    · split
      · exact .inr (.inr (.inl rfl))
      · rename_i hm
        exact .inr (.inl ⟨_, _, Nat.pos_of_ne_zero fun h => hm (BitVec.eq_of_toNat_eq h), rfl⟩)
    · exact .inr (.inl ⟨_, _, by rw [toNat_implicit]; omega, rfl⟩)

/-- A word of bits without a sign is not below zero, unless it is no number. -/
theorem nonNegative_components (exponent : BitVec Format.binary64.exponentBits)
    (mantissa : BitVec Format.binary64.mantissaBitsWithoutImplicit)
    (h : (UnpackedFloat.unpack .binary64
      (packComponents .binary64 .positive exponent mantissa)).isNaN = false) :
    NonNegative (UnpackedFloat.unpack .binary64
      (packComponents .binary64 .positive exponent mantissa)) := by
  rcases unpack_sign (packComponents .binary64 .positive exponent mantissa) with
    hnan | ⟨m, e, hm, hu⟩ | hu | hu
  · exact absurd (h.symm.trans hnan) (by decide)
  · rw [unpackSign_packComponents, Sign.ofBitVec_toBitVec] at hu
    obtain ⟨hcanonical, he⟩ := unpack_canonical hu
    rw [hu]
    exact .finite hm hcanonical he
  · rw [hu]
    exact .zero _
  · rw [hu, unpackSign_packComponents, Sign.ofBitVec_toBitVec]
    exact .infinity

theorem nonNegative_pack {m : Nat} {e : Int} (hm : 0 < m) :
    NonNegative (Float.Model.pack (.finite .positive m e hm)).unpack := by
  have hnumber : (Float.Model.pack (.finite .positive m e hm)).unpack.isNaN = false :=
    isNaN_unpack_pack _
  obtain ⟨exponent, mantissa, hpack, -⟩ := pack_finite .positive m e hm
  rw [unpack_pack, hpack] at hnumber ⊢
  exact nonNegative_components exponent mantissa hnumber

theorem nonNegative_of_le (h : 0.0 ≤ x) : NonNegative x.toModel.unpack := by
  have hzero : (0.0 : Float).toModel.unpack = .zero .positive := rfl
  rw [le_iff_isLE, order, hzero] at h
  rcases hu : x.toModel.unpack with s | _ | s | ⟨s, m, e, hm⟩ <;> rw [hu] at h
  · cases s
    · cases h
    · exact .infinity
  · cases h
  · exact .zero s
  · obtain ⟨hcanonical, he⟩ := unpack_canonical hu
    cases s
    · cases h
    · exact .finite hm hcanonical he

theorem nonNegative_pack_zero (sign : Sign) :
    NonNegative (Float.Model.pack (.zero sign)).unpack := by
  cases sign <;> exact .zero _

theorem nonNegative_pack_infinity :
    NonNegative (Float.Model.pack (.infinity .positive)).unpack := by
  have hkept : (Float.Model.pack (.infinity .positive)).unpack = .infinity .positive :=
    unpack_infinity .positive
  rw [hkept]
  exact .infinity

theorem nonNegative_pack_round (n : Nat) (e : Int) (a : Accuracy) :
    NonNegative (Float.Model.pack (roundWithAccuracy .binary64 .positive n e a)).unpack := by
  unfold roundWithAccuracy
  dsimp only
  split
  · exact nonNegative_pack_zero .positive
  · exact nonNegative_pack _

theorem nonNegative_pack_mul (hu : NonNegative u) (hv : NonNegative v) :
    (UnpackedFloat.mul .binary64 u v).isNaN = true ∨
      NonNegative (Float.Model.pack (.mul .binary64 u v)).unpack := by
  cases hu with
  | zero s =>
    cases hv with
    | zero | finite => exact .inr (nonNegative_pack_zero _)
    | infinity => exact .inl rfl
  | finite hm h he =>
    cases hv with
    | zero t => exact .inr (nonNegative_pack_zero _)
    | finite => exact .inr (nonNegative_pack_round _ _ _)
    | infinity => exact .inr nonNegative_pack_infinity
  | infinity =>
    cases hv with
    | zero => exact .inl rfl
    | finite | infinity => exact .inr nonNegative_pack_infinity

/-- A number is not below zero, or it is none. -/
def NotNegative (x : Float) : Prop := x.isNaN = true ∨ NonNegative x.toModel.unpack

theorem notNegative_of_not_le (h : ¬ x ≤ 0.0) : NotNegative x := by
  rcases hnan : x.isNaN with _ | _
  · refine .inr (nonNegative_of_le ?_)
    obtain ⟨o, ho⟩ := order_total (y := 0.0) hnan (by decide)
    rw [le_iff_order, ho] at h
    rw [le_iff_order, order_swap, ho]
    rcases o with _ | _ | _
    · exact absurd (.inl rfl) h
    · exact absurd (.inr rfl) h
    · exact .inl rfl
  · exact .inl hnan

/-- A product of what is not below zero is not below zero. -/
theorem notNegative_mul (hx : NonNegative x.toModel.unpack) (hy : NotNegative y) :
    NotNegative (x * y) := by
  rcases hy with hy | hy
  · exact .inl (isNaN_mul_of_right x hy)
  · exact (nonNegative_pack_mul hx hy).imp_left (isNaN_unpack_pack _).trans

/-- Adding what is not below zero does not lead to less. -/
theorem le_add (hx : 0.0 ≤ x) (hy : 0.0 ≤ y) : x ≤ x + y := by
  obtain ⟨hrounded, hle⟩ := add_rounded (nonNegative_of_le hx) (nonNegative_of_le hy)
  exact le_iff_isLE.2 ((nonNegative_of_le hx).isLE_pack hrounded hle)

/-- Taking away what is not below zero, or no number, does not lead to more. -/
theorem not_lt_sub (hx : 0.0 ≤ x) (hy : NotNegative y) : ¬ x < x - y := by
  have hu := nonNegative_of_le hx
  rcases hy with hnan | hy
  · exact not_nan_lt (isNaN_sub_of_right x hnan)
  · rcases sub_rounded hu hy with hnan | ⟨hrounded, hle⟩
    · exact not_nan_lt ((isNaN_unpack_pack _).trans hnan)
    · have hle : x - y ≤ x := le_iff_isLE.2 (hu.pack_isLE hrounded hle)
      exact not_lt_of_le hle

end Sums

end SystemDynamics
