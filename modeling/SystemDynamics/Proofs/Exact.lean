import SystemDynamics.Proofs.Zero

/-!
# Exact sums

Every finite number of binary64 is a whole multiple of the least one above zero (`atoms`). If the
exact sum or difference of two finite numbers is another one, then it is what adding or subtracting
gives, but perhaps for the sign of a zero (`add_exact`, `sub_exact`). So a number comes back when
one that differs from it by a number of binary64 is taken away and added again
(`sub_add_cancel_of_exact`).
-/

namespace SystemDynamics

open Float.Model Float.Model.UnpackedFloat

/-- Which multiple of the least number above zero a number is; none for what is not finite. -/
def atomsOf : UnpackedFloat → Int
  | .finite s m e _ => s.apply (m * 2 ^ (e + 1074).toNat : Nat)
  | .zero _ | .infinity _ | .notANumber => 0

/-- Which multiple of the least number above zero a finite number is. -/
def atoms (x : Float) : Int := atomsOf x.toModel.unpack

section Rounding

variable {m n : Nat} {e x : Int}

theorem Canonical.gridExponent (hm : 0 < m) (h : Canonical m e) : gridExponent m e = e := by
  have hself : m * 2 ^ (e - e).toNat = m := by rw [Int.sub_self, Int.toNat_zero, Nat.pow_zero,
    Nat.mul_one]
  exact Int.le_antisymm (gridExponent_le h hm (Int.le_refl e) hself.ge)
    (le_gridExponent hm h hm (Int.le_refl e) hself.le)

/-- The grid of a number depends on which multiple of the least one it is. -/
theorem gridExponent_eq_of_atoms (hn : 0 < n) (hx : -1074 ≤ x) :
    gridExponent n x = gridExponent (n * 2 ^ (x + 1074).toNat) (-1074) := by
  rw [← gridExponent_shift hn x (x + 1074).toNat]
  congr 1
  omega

/-- A number that binary64 has is not changed by rounding, however its digits are given. -/
theorem round_exact (sign : Sign) (hn : 0 < n) (hx : -1074 ≤ x) (hm : 0 < m) (h : Canonical m e)
    (heq : n * 2 ^ (x + 1074).toNat = m * 2 ^ (e + 1074).toNat) :
    round .binary64 sign n x = .finite sign m e hm := by
  have hleast := h.least
  have hgrid : SystemDynamics.gridExponent n x = e := by
    rw [gridExponent_eq_of_atoms hn hx, heq, ← gridExponent_eq_of_atoms hm hleast,
      h.gridExponent hm]
  have hdigits : roundOff (n * 2 ^ (x - e).toNat) (e - x).toNat = m := by
    rcases Int.le_total x e with hle | hle
    · have hsplit : (e + 1074).toNat = (e - x).toNat + (x + 1074).toNat := by omega
      rw [hsplit, Nat.pow_add, ← Nat.mul_assoc] at heq
      rw [Nat.eq_of_mul_eq_mul_right (Nat.two_pow_pos _) heq,
        Int.toNat_of_nonpos (by omega : x - e ≤ 0), Nat.pow_zero, Nat.mul_one, roundOff_exact]
    · have hsplit : (x + 1074).toNat = (x - e).toNat + (e + 1074).toNat := by omega
      rw [hsplit, Nat.pow_add, ← Nat.mul_assoc] at heq
      have hexact := roundOff_exact m 0
      rw [Nat.pow_zero, Nat.mul_one] at hexact
      rw [Nat.eq_of_mul_eq_mul_right (Nat.two_pow_pos _) heq,
        Int.toNat_of_nonpos (by omega : e - x ≤ 0), hexact]
  obtain ⟨r, hr, -, hpos, ⟨-, hround⟩ | ⟨hfull, -⟩⟩ := round_eq sign hn hx
  · rw [hgrid, hdigits] at hr
    subst hr
    rw [hround, hgrid]
  · rw [hgrid, hdigits] at hr
    have := h.small
    omega

end Rounding

/-- The finite numbers of binary64. -/
inductive Finite : UnpackedFloat → Prop
  | zero (sign : Sign) : Finite (.zero sign)
  | finite (sign : Sign) {m : Nat} {e : Int} (hm : 0 < m) (h : Canonical m e) (he : e ≤ 971) :
      Finite (.finite sign m e hm)

section Unpacked

variable {u v w : UnpackedFloat}

theorem Finite.unpack_pack (h : Finite w) : (Float.Model.pack w).unpack = w := by
  cases h with
  | zero sign => cases sign <;> rfl
  | finite sign hm h he => rw [unpack_pack_canonical sign hm h, if_pos he]

theorem Finite.neg (h : Finite w) : Finite w.neg := by
  cases h with
  | zero sign => exact .zero _
  | finite sign hm h he => exact .finite _ hm h he

theorem atomsOf_neg (w : UnpackedFloat) : atomsOf w.neg = -atomsOf w := by
  rcases w with s | _ | s | ⟨s, m, e, hm⟩
  · rfl
  · rfl
  · rfl
  · cases s
    · exact (Int.neg_neg _).symm
    · rfl

theorem sub_eq_add_neg (u v : UnpackedFloat) :
    UnpackedFloat.sub .binary64 u v = .add .binary64 u v.neg := by
  rcases u with s | _ | s | ⟨s, m, e, hm⟩ <;> rcases v with t | _ | t | ⟨t, n, f, hn⟩
  case infinity.infinity | zero.zero => cases s <;> cases t <;> rfl
  case finite.finite =>
    have hneg : (-t).apply (decreaseExponent n f (min e f)).1 =
        -t.apply (decreaseExponent n f (min e f)).1 := by
      cases t
      · exact (Int.neg_neg _).symm
      · rfl
    simp only [UnpackedFloat.sub, UnpackedFloat.add, UnpackedFloat.neg]
    rw [hneg, ← Int.sub_eq_add_neg]
  all_goals rfl

theorem UpToZero.symm (h : UpToZero u v) : UpToZero v u := by
  cases h with
  | same => exact .same _
  | zeros s t => exact .zeros t s

theorem apply_mul (s : Sign) (k l : Int) : s.apply (k * l) = s.apply k * l := by
  cases s
  · exact (Int.neg_mul k l).symm
  · rfl

theorem atomsOf_finite (s : Sign) {m : Nat} {e : Int} (hm : 0 < m) :
    atomsOf (.finite s m e hm) = s.apply m * 2 ^ (e + 1074).toNat := by
  rw [atomsOf, Int.natCast_mul, apply_mul, Int.natCast_pow]
  rfl

/-- The digits of a number from a lower exponent on. -/
theorem atomsOf_digits (s : Sign) {m : Nat} {e x : Int} (hm : 0 < m) (hx : -1074 ≤ x)
    (hle : x ≤ e) : s.apply (m * 2 ^ (e - x).toNat : Nat) * 2 ^ (x + 1074).toNat =
      atomsOf (.finite s m e hm) := by
  have hsplit : (e + 1074).toNat = (e - x).toNat + (x + 1074).toNat := by omega
  rw [atomsOf, ← apply_mul, hsplit, Nat.pow_add, ← Nat.mul_assoc, Int.natCast_mul _ (2 ^ _),
    Int.natCast_pow 2]
  rfl

theorem atomsOf_finite_ne_zero (s : Sign) {m : Nat} {e : Int} (hm : 0 < m) :
    atomsOf (.finite s m e hm) ≠ 0 := by
  have hsign : s.apply m ≠ 0 := by cases s <;> simp only [Sign.apply] <;> omega
  rw [atomsOf_finite]
  exact Int.mul_ne_zero hsign (Int.pow_ne_zero (by decide))

theorem Finite.upToZero_of_zero (hw : Finite w) (h : atomsOf w = 0) (s : Sign) :
    UpToZero (.zero s) w := by
  cases hw with
  | zero t => exact .zeros s t
  | finite t hm => exact absurd h (atomsOf_finite_ne_zero t hm)

/-- Digits that come to a number of binary64 make that number. -/
theorem normalize_exact {n x : Int} (hx : -1074 ≤ x) (hw : Finite w)
    (h : n * 2 ^ (x + 1074).toNat = atomsOf w) (sign : Sign) :
    UpToZero (UnpackedFloat.normalize .binary64 n x sign) w := by
  cases hw with
  | zero t =>
    have hpow : (2 : Int) ^ (x + 1074).toNat ≠ 0 := Int.pow_ne_zero (by decide)
    obtain rfl : n = 0 := (Int.mul_eq_zero.1 h).resolve_right hpow
    exact .zeros _ _
  | @finite t m e hm hcanonical he =>
    have hpow : (0 : Int) < 2 ^ (x + 1074).toNat := Int.pow_pos (by decide)
    have hpos : (0 : Int) < m * 2 ^ (e + 1074).toNat :=
      Int.mul_pos (by omega) (Int.pow_pos (by decide))
    rw [atomsOf_finite] at h
    cases t
    · simp only [Sign.apply, Int.neg_mul] at h
      have hneg : n < 0 := Int.not_le.1 fun hle => by
        have := Int.mul_nonneg hle (Int.le_of_lt hpow)
        omega
      obtain ⟨k, rfl⟩ : ∃ k : Nat, n = -k := ⟨n.natAbs, by omega⟩
      have hdigits : k * 2 ^ (x + 1074).toNat = m * 2 ^ (e + 1074).toNat := by
        rw [Int.neg_mul] at h
        exact_mod_cast Int.neg_inj.1 h
      rw [normalize_neg rfl (by omega), round_exact .negative (by omega) hx hm hcanonical hdigits]
      exact .same _
    · simp only [Sign.apply] at h
      have hge : 0 < n := Int.not_le.1 fun hle => by
        have := Int.mul_nonpos_of_nonpos_of_nonneg hle (Int.le_of_lt hpow)
        omega
      obtain ⟨k, rfl⟩ : ∃ k : Nat, n = k := ⟨n.natAbs, by omega⟩
      have hdigits : k * 2 ^ (x + 1074).toNat = m * 2 ^ (e + 1074).toNat := by exact_mod_cast h
      rw [normalize_pos rfl (by omega), round_exact .positive (by omega) hx hm hcanonical hdigits]
      exact .same _

/-- Numbers that are the same multiple of the least one are the same. -/
theorem upToZero_of_atomsOf (hu : Finite u) (hw : Finite w) (h : atomsOf u = atomsOf w) :
    UpToZero u w := by
  cases hu with
  | zero s => exact hw.upToZero_of_zero h.symm s
  | @finite s m e hm hcanonical he =>
    have hdigits := (atomsOf_finite s (e := e) hm).symm
    have hsame := normalize_exact hcanonical.least (.finite s hm hcanonical he) hdigits .positive
    exact hsame.symm.trans (normalize_exact hcanonical.least hw (hdigits.trans h) .positive)

theorem add_of_atomsOf (hu : Finite u) (hv : Finite v) (hw : Finite w)
    (h : atomsOf u + atomsOf v = atomsOf w) : UpToZero (.add .binary64 u v) w := by
  cases hu with
  | zero s =>
    rw [show atomsOf (.zero s) = 0 from rfl, Int.zero_add] at h
    cases hv with
    | zero t => cases s <;> cases t <;> exact hw.upToZero_of_zero h.symm _
    | finite t hn hcanonical hf => exact upToZero_of_atomsOf (.finite t hn hcanonical hf) hw h
  | @finite s m e hm hcanonical he =>
    cases hv with
    | zero t =>
      rw [show atomsOf (.zero t) = 0 from rfl, Int.add_zero] at h
      exact upToZero_of_atomsOf (.finite s hm hcanonical he) hw h
    | @finite t n f hn hcanonical' hf =>
      have hadd : UnpackedFloat.add .binary64 (.finite s m e hm) (.finite t n f hn) =
          UnpackedFloat.normalize .binary64 (s.apply (decreaseExponent m e (min e f)).1 +
            t.apply (decreaseExponent n f (min e f)).1) (min e f) .positive := rfl
      rw [hadd, decreaseExponent_digits, decreaseExponent_digits]
      refine normalize_exact (Int.le_min.2 ⟨hcanonical.least, hcanonical'.least⟩) hw ?_ _
      have hleast := Int.le_min.2 ⟨hcanonical.least, hcanonical'.least⟩
      rw [← h, Int.add_mul, atomsOf_digits s hm hleast (Int.min_le_left e f),
        atomsOf_digits t hn hleast (Int.min_le_right e f)]

end Unpacked

section Exact

variable {x y z : Float}

theorem finite_unpack (h : x.isFinite = true) : Finite x.toModel.unpack := by
  have hfinite : x.toModel.unpack.isFinite = true := h
  rcases hu : x.toModel.unpack with s | _ | s | ⟨s, m, e, hm⟩
  · rw [hu] at hfinite
    cases hfinite
  · rw [hu] at hfinite
    cases hfinite
  · exact .zero s
  · obtain ⟨hcanonical, he⟩ := unpack_canonical hu
    exact .finite s hm hcanonical he

theorem add_exact (hx : x.isFinite = true) (hy : y.isFinite = true) (hz : z.isFinite = true)
    (h : atoms x + atoms y = atoms z) : Alike (x + y) z := by
  have hpacked := (add_of_atomsOf (finite_unpack hx) (finite_unpack hy) (finite_unpack hz) h).pack
  rwa [(finite_unpack hz).unpack_pack] at hpacked

theorem sub_exact (hx : x.isFinite = true) (hy : y.isFinite = true) (hz : z.isFinite = true)
    (h : atoms x - atoms y = atoms z) : Alike (x - y) z := by
  have hneg : atomsOf x.toModel.unpack + atomsOf y.toModel.unpack.neg =
      atomsOf z.toModel.unpack := by
    rw [atomsOf_neg, ← Int.sub_eq_add_neg]
    exact h
  have hpacked := (add_of_atomsOf (finite_unpack hx) (finite_unpack hy).neg (finite_unpack hz)
    hneg).pack
  rwa [(finite_unpack hz).unpack_pack, ← sub_eq_add_neg] at hpacked

/-- A number comes back when one is taken away and added again, if the difference of the two is a
number of binary64. -/
theorem sub_add_cancel_of_exact (hx : x.isFinite = true) (hy : y.isFinite = true)
    (hz : z.isFinite = true) (h : atoms z = atoms x - atoms y) : Alike (x - y + y) x := by
  have hsub : Alike (x - y + y) (z + y) := (sub_exact hx hy hz h.symm).add (.refl y)
  refine UpToZero.trans hsub (add_exact hz hy hx ?_)
  omega

end Exact

end SystemDynamics
