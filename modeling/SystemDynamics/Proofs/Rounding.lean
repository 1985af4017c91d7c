import SystemDynamics.Proofs.NotANumber
import Mathlib.Algebra.Group.Nat.Defs

/-!
# Rounding keeps the order

A finite number of binary64 is rounded onto the grid of the numbers near it, up or down
(`round_eq`). A number of binary64 is on that grid itself or not among the numbers near it. So what
is not less than the number is not rounded to less (`round_up`), and what is not greater not to more
(`round_down`).
-/

namespace SystemDynamics

open Float.Model Float.Model.UnpackedFloat

section Shift

theorem shiftRight_mantissa (em : ExtendedMantissa) : ∀ n : Nat,
    (em >>> n).mantissa = em.mantissa / 2 ^ n
  | 0 => (Nat.div_one _).symm
  | n + 1 => by
    have hstep : (em >>> (n + 1)).mantissa = (em >>> n).mantissa / 2 := rfl
    rw [hstep, shiftRight_mantissa em n, Nat.div_div_eq_div_mul, Nat.pow_succ]

theorem shiftRight_exact (q : Nat) : ∀ n : Nat,
    (⟨q * 2 ^ n, false, false⟩ : ExtendedMantissa) >>> n = ⟨q, false, false⟩
  | 0 => by rw [Nat.pow_zero, Nat.mul_one]; rfl
  | n + 1 => by
    have hstep : ∀ em : ExtendedMantissa, em >>> (n + 1) = (em >>> n).shiftRightOne := fun _ => rfl
    rw [hstep, Nat.pow_succ', ← Nat.mul_assoc, shiftRight_exact (q * 2) n]
    simp [ExtendedMantissa.shiftRightOne]

theorem roundedMantissa_bounds (em : ExtendedMantissa) :
    em.mantissa ≤ em.roundedMantissa ∧ em.roundedMantissa ≤ em.mantissa + 1 := by
  rcases em with ⟨m, _ | _, _ | _⟩ <;>
    simp only [ExtendedMantissa.roundedMantissa, ExtendedMantissa.accuracy,
      Accuracy.roundToNearestEven] <;> omega

end Shift

section Grid

/-- The exponent of the numbers that are nearest to `n * 2 ^ e`. -/
def gridExponent (n : Nat) (e : Int) : Int := max (n.log2 + 1 + e - 53) (-1074)

theorem shiftToTargetExponent_eq (n : Nat) (e : Int) :
    shiftToTargetExponent .binary64 n e .exact =
      ((⟨n, false, false⟩ : ExtendedMantissa) >>> (gridExponent n e - e).toNat,
        e + (gridExponent n e - e).toNat) := rfl

theorem roundWithAccuracy_of_shifts {sign : Sign} {n : Nat} {e : Int}
    {first last : ExtendedMantissa × Int}
    (hfirst : shiftToTargetExponent .binary64 n e .exact = first)
    (hlast : shiftToTargetExponent .binary64 first.1.roundedMantissa first.2 .exact = last)
    (hpos : 0 < last.1.mantissa) :
    roundWithAccuracy .binary64 sign n e .exact = .finite sign last.1.mantissa last.2 hpos := by
  subst hfirst hlast
  exact dif_neg (Nat.ne_of_gt hpos)

/-- Rounding off the last `k` digits. -/
def roundOff (n k : Nat) : Nat :=
  ((⟨n, false, false⟩ : ExtendedMantissa) >>> k).roundedMantissa

theorem roundOff_bounds (n k : Nat) :
    n / 2 ^ k ≤ roundOff n k ∧ roundOff n k ≤ n / 2 ^ k + 1 := by
  have hbounds := roundedMantissa_bounds ((⟨n, false, false⟩ : ExtendedMantissa) >>> k)
  rwa [shiftRight_mantissa] at hbounds

theorem roundOff_exact (q k : Nat) : roundOff (q * 2 ^ k) k = q := by
  rw [roundOff, shiftRight_exact]
  rfl

theorem le_roundOff {q n k : Nat} (h : q * 2 ^ k ≤ n) : q ≤ roundOff n k :=
  Nat.le_trans ((Nat.le_div_iff_mul_le (Nat.two_pow_pos k)).2 h) (roundOff_bounds n k).1

theorem roundOff_le {q n k : Nat} (h : n ≤ q * 2 ^ k) : roundOff n k ≤ q := by
  rcases Nat.eq_or_lt_of_le h with rfl | hlt
  · exact Nat.le_of_eq (roundOff_exact q k)
  · have := (roundOff_bounds n k).2
    have : n / 2 ^ k < q := (Nat.div_lt_iff_lt_mul (Nat.two_pow_pos k)).2 hlt
    omega

theorem lt_two_pow_of_gridExponent {n k : Nat} {e : Int} (h : gridExponent n e = e + k) :
    n ≤ 2 ^ 53 * 2 ^ k := by
  rw [← Nat.pow_add]
  rcases Nat.eq_zero_or_pos n with rfl | hn
  · exact Nat.zero_le _
  · refine Nat.le_of_lt ((Nat.log2_lt (Nat.ne_of_gt hn)).1 ?_)
    unfold gridExponent at h
    omega

/-- Rounding a number whose digits are not all below the grid. It may come to one digit more. -/
theorem roundWithAccuracy_eq (sign : Sign) {n k : Nat} {e : Int} (hgrid : gridExponent n e = e + k)
    (hpos : 0 < roundOff n k) :
    (roundOff n k < 2 ^ 53 ∧
      roundWithAccuracy .binary64 sign n e .exact = .finite sign (roundOff n k) (e + k) hpos) ∨
    (roundOff n k = 2 ^ 53 ∧
      roundWithAccuracy .binary64 sign n e .exact =
        .finite sign (2 ^ 52) (e + k + 1) (Nat.two_pow_pos 52)) := by
  have hk : (gridExponent n e - e).toNat = k := by omega
  have hleast : -1074 ≤ e + (k : Int) := hgrid ▸ Int.le_max_right _ _
  have hle : roundOff n k ≤ 2 ^ 53 := roundOff_le (lt_two_pow_of_gridExponent hgrid)
  have hfirst : shiftToTargetExponent .binary64 n e .exact =
      ((⟨n, false, false⟩ : ExtendedMantissa) >>> k, e + (k : Int)) := by
    rw [shiftToTargetExponent_eq, hk]
  have hlast := shiftToTargetExponent_eq (roundOff n k) (e + k)
  rcases Nat.lt_or_eq_of_le hle with hlt | heq
  · have hlog := (Nat.log2_lt (Nat.ne_of_gt hpos)).2 hlt
    have hshift : (gridExponent (roundOff n k) (e + k) - (e + k)).toNat = 0 := by
      unfold gridExponent
      omega
    rw [hshift, Int.natCast_zero, Int.add_zero] at hlast
    exact .inl ⟨hlt, roundWithAccuracy_of_shifts hfirst hlast hpos⟩
  · have hlog : (2 ^ 53 : Nat).log2 = 53 := Nat.log2_two_pow
    have hshift : (gridExponent (roundOff n k) (e + k) - (e + k)).toNat = 1 := by
      rw [heq]
      unfold gridExponent
      omega
    have hlast' : shiftToTargetExponent .binary64 (2 ^ 53) (e + k) .exact =
        ((⟨2 ^ 52, false, false⟩ : ExtendedMantissa), e + (k : Int) + 1) := by
      rw [hshift, heq] at hlast
      exact hlast.trans (Prod.ext (shiftRight_exact (2 ^ 52) 1) rfl)
    have hsame := congrArg (shiftToTargetExponent .binary64 · (e + k) .exact) heq
    exact .inr ⟨heq,
      roundWithAccuracy_of_shifts hfirst (hsame.trans hlast') (Nat.two_pow_pos 52)⟩


theorem log2_mul_two_pow {n : Nat} (hn : 0 < n) (j : Nat) : (n * 2 ^ j).log2 = n.log2 + j := by
  have hne := Nat.ne_of_gt hn
  refine (Nat.log2_eq_iff (Nat.ne_of_gt (Nat.mul_pos hn (Nat.two_pow_pos j)))).2 ⟨?_, ?_⟩
  · rw [Nat.pow_add]
    exact Nat.mul_le_mul_right _ (Nat.log2_self_le hne)
  · rw [Nat.add_right_comm, Nat.pow_add]
    exact Nat.mul_lt_mul_of_pos_right Nat.lt_log2_self (Nat.two_pow_pos j)

theorem gridExponent_shift {n : Nat} (hn : 0 < n) (e : Int) (j : Nat) :
    gridExponent (n * 2 ^ j) (e - j) = gridExponent n e := by
  unfold gridExponent
  rw [log2_mul_two_pow hn]
  omega

/-- How a number with no digits below those of the least one is rounded: onto the grid of the
numbers near it, of which it may be the first of the next grid. -/
theorem round_eq (sign : Sign) {n : Nat} {e : Int} (hn : 0 < n) (he : -1074 ≤ e) :
    ∃ r, r = roundOff (n * 2 ^ (e - gridExponent n e).toNat) (gridExponent n e - e).toNat ∧
      (-1074 < gridExponent n e → 2 ^ 52 ≤ r) ∧ ∃ hr : 0 < r,
        ((r < 2 ^ 53 ∧ round .binary64 sign n e = .finite sign r (gridExponent n e) hr) ∨
          (r = 2 ^ 53 ∧ round .binary64 sign n e =
            .finite sign (2 ^ 52) (gridExponent n e + 1) (Nat.two_pow_pos 52))) := by
  generalize hT : gridExponent n e = T
  generalize hj : (e - T).toNat = j
  generalize hk : (T - e).toNat = k
  have hround : round .binary64 sign n e =
      roundWithAccuracy .binary64 sign (n * 2 ^ j) (e - j) .exact := by
    rw [← Nat.shiftLeft_eq, ← hj, ← hT]
    rfl
  have hgrid : gridExponent (n * 2 ^ j) (e - j) = e - j + k := by
    rw [gridExponent_shift hn, hT]
    omega
  have hfull : -1074 < T → 2 ^ 52 ≤ roundOff (n * 2 ^ j) k := by
    intro hleast
    refine le_roundOff ?_
    have hlog : 52 + k = n.log2 + j := by
      unfold gridExponent at hT
      omega
    rw [← Nat.pow_add, hlog, Nat.pow_add]
    exact Nat.mul_le_mul_right _ (Nat.log2_self_le (Nat.ne_of_gt hn))
  have hr : 0 < roundOff (n * 2 ^ j) k := by
    rcases Int.lt_or_le (-1074) T with hleast | hleast
    · have := hfull hleast
      omega
    · obtain rfl : k = 0 := by omega
      have hexact := roundOff_exact (n * 2 ^ j) 0
      rw [Nat.pow_zero, Nat.mul_one] at hexact
      rw [hexact]
      exact Nat.mul_pos hn (Nat.two_pow_pos j)
  have hexponent : e - (j : Int) + k = T := by omega
  have hcases := roundWithAccuracy_eq sign hgrid hr
  rw [← hround, hexponent] at hcases
  exact ⟨_, rfl, hfull, hr, hcases⟩

/-- The digits and the exponent of a finite number as binary64 has it: 53 digits, or fewer at the
least exponent. -/
structure Canonical (m : Nat) (e : Int) : Prop where
  small : m < 2 ^ 53
  least : -1074 ≤ e
  full : -1074 < e → 2 ^ 52 ≤ m

/-- The order of finite numbers above zero: by the exponent first. -/
def AtMost (m : Nat) (e : Int) (n : Nat) (f : Int) : Prop := e < f ∨ (e = f ∧ m ≤ n)

theorem le_gridExponent {m n : Nat} {e x : Int} (hm : 0 < m) (hcanonical : Canonical m e)
    (hn : 0 < n) (hx : x ≤ e) (h : m * 2 ^ (e - x).toNat ≤ n) : e ≤ gridExponent n x := by
  have hlog : m.log2 + (e - x).toNat ≤ n.log2 := by
    rw [← log2_mul_two_pow hm]
    refine (Nat.le_log2 (Nat.ne_of_gt hn)).2 (Nat.le_trans (Nat.log2_self_le ?_) h)
    exact Nat.ne_of_gt (Nat.mul_pos hm (Nat.two_pow_pos _))
  have := hcanonical.least
  unfold gridExponent
  by_cases hleast : -1074 < e
  · have := (Nat.le_log2 (Nat.ne_of_gt hm)).2 (hcanonical.full hleast)
    omega
  · omega

theorem gridExponent_le {m n : Nat} {e x : Int} (hcanonical : Canonical m e) (hn : 0 < n)
    (hx : x ≤ e) (h : n ≤ m * 2 ^ (e - x).toNat) : gridExponent n x ≤ e := by
  have hlog : n.log2 < 53 + (e - x).toNat := by
    refine (Nat.log2_lt (Nat.ne_of_gt hn)).2 (Nat.lt_of_le_of_lt h ?_)
    rw [Nat.pow_add]
    exact Nat.mul_lt_mul_of_pos_right hcanonical.small (Nat.two_pow_pos _)
  have := hcanonical.least
  unfold gridExponent
  omega

/-- What is not less than a number is not rounded to less than it. -/
theorem round_up (sign : Sign) {m n : Nat} {e x : Int} (hm : 0 < m) (hcanonical : Canonical m e)
    (hn : 0 < n) (hleast : -1074 ≤ x) (hx : x ≤ e) (h : m * 2 ^ (e - x).toNat ≤ n) :
    ∃ r f hr, round .binary64 sign n x = .finite sign r f hr ∧ Canonical r f ∧ AtMost m e r f := by
  have he := le_gridExponent hm hcanonical hn hx h
  have hgrid : -1074 ≤ gridExponent n x := Int.le_max_right _ _
  obtain ⟨r, hr, hfull, hpos, ⟨hlt, hround⟩ | ⟨heq, hround⟩⟩ := round_eq sign hn hleast
  · refine ⟨r, _, hpos, hround, ⟨hlt, hgrid, hfull⟩, ?_⟩
    rcases Int.lt_or_eq_of_le he with hlt | heq
    · exact .inl hlt
    · refine .inr ⟨heq, ?_⟩
      rw [← heq, Int.toNat_of_nonpos (by omega), Nat.pow_zero, Nat.mul_one] at hr
      rw [hr]
      exact le_roundOff h
  · refine ⟨_, _, _, hround, ⟨by decide, by omega, fun _ => Nat.le_refl _⟩, .inl (by omega)⟩

/-- What is not greater than a number is not rounded to more than it. -/
theorem round_down (sign : Sign) {m n : Nat} {e x : Int} (hcanonical : Canonical m e)
    (hn : 0 < n) (hleast : -1074 ≤ x) (hx : x ≤ e) (h : n ≤ m * 2 ^ (e - x).toNat) :
    ∃ r f hr, round .binary64 sign n x = .finite sign r f hr ∧ Canonical r f ∧ AtMost r f m e := by
  have he := gridExponent_le hcanonical hn hx h
  have hgrid : -1074 ≤ gridExponent n x := Int.le_max_right _ _
  have hm := hcanonical.small
  have hon : gridExponent n x = e →
      roundOff (n * 2 ^ (x - gridExponent n x).toNat) (gridExponent n x - x).toNat ≤ m := by
    intro heq
    rw [heq, Int.toNat_of_nonpos (by omega), Nat.pow_zero, Nat.mul_one]
    exact roundOff_le h
  obtain ⟨r, hr, hfull, hpos, ⟨hlt, hround⟩ | ⟨heq, hround⟩⟩ := round_eq sign hn hleast
  · refine ⟨r, _, hpos, hround, ⟨hlt, hgrid, hfull⟩, ?_⟩
    rcases Int.lt_or_eq_of_le he with hlt | heq
    · exact .inl hlt
    · exact .inr ⟨heq, hr ▸ hon heq⟩
  · refine ⟨_, _, _, hround, ⟨by decide, by omega, fun _ => Nat.le_refl _⟩, ?_⟩
    rcases Int.lt_or_eq_of_le he with hlt | hsame
    · have := hcanonical.full
      unfold AtMost
      omega
    · have := hon hsame
      omega

end Grid

end SystemDynamics
