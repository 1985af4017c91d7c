import SystemDynamics.Proofs.Order

/-!
# The two zeros

Numbers that are equal are the same, or both are zeros (`Alike`). The operations of binary64 take
such numbers to such numbers; only a division can tell zeros apart, in its divisor. A difference of
two numbers is no zero unless they are equal (`difference_ne_zero`), so the gap between two that
differ can be divided by.
-/

namespace SystemDynamics

open Float.Model Float.Model.UnpackedFloat

/-- The same, but perhaps for the sign of a zero. -/
inductive UpToZero : UnpackedFloat → UnpackedFloat → Prop
  | same (u : UnpackedFloat) : UpToZero u u
  | zeros (s t : Sign) : UpToZero (.zero s) (.zero t)

section Unpacked

variable {u u' v v' : UnpackedFloat}

theorem upToZero_of_rank (hu : u.isNaN = false) (hv : v.isNaN = false) (h : rank u = rank v) :
    UpToZero u v := by
  rcases u with s | _ | s | ⟨s, m, e, hm⟩ <;> rcases v with t | _ | t | ⟨t, n, f, hn⟩ <;>
    first | cases hu; done | cases hv; done | skip
  · cases s <;> cases t <;> first | exact .same _ | cases h
  · cases s <;> cases h
  · cases s <;> cases t <;> simp [rank] at h
  · cases t <;> cases h
  · exact .zeros s t
  · cases t <;> simp [rank] at h
  · cases s <;> cases t <;> simp [rank] at h
  · cases s <;> simp [rank] at h
  · cases s <;> cases t <;> simp [rank] at h <;> obtain ⟨rfl, rfl⟩ := h <;> exact .same _

theorem UpToZero.rank_eq (h : UpToZero u v) : rank u = rank v := by cases h <;> rfl

theorem UpToZero.isNaN_eq (h : UpToZero u v) : u.isNaN = v.isNaN := by cases h <;> rfl

theorem UpToZero.trans {w : UnpackedFloat} (h : UpToZero u v) (h' : UpToZero v w) :
    UpToZero u w := by
  cases h with
  | same => exact h'
  | zeros s t => cases h' <;> exact .zeros s _

/-- An operation that does so in each operand takes alike numbers to alike numbers. -/
theorem UpToZero.map₂ {op : UnpackedFloat → UnpackedFloat → UnpackedFloat}
    (hleft : ∀ s t v, UpToZero (op (.zero s) v) (op (.zero t) v))
    (hright : ∀ s t u, UpToZero (op u (.zero s)) (op u (.zero t)))
    (hu : UpToZero u u') (hv : UpToZero v v') : UpToZero (op u v) (op u' v') := by
  have hfirst : UpToZero (op u v) (op u' v) := by
    cases hu with
    | same => exact .same _
    | zeros s t => exact hleft s t v
  have hsecond : UpToZero (op u' v) (op u' v') := by
    cases hv with
    | same => exact .same _
    | zeros s t => exact hright s t u'
  exact hfirst.trans hsecond

theorem UpToZero.pack (h : UpToZero u v) :
    UpToZero (Float.Model.pack u).unpack (Float.Model.pack v).unpack := by
  cases h with
  | same => exact .same _
  | zeros s t => cases s <;> cases t <;> exact .zeros _ _

end Unpacked

/-- Equal numbers, or both no number. -/
def Alike (x y : Float) : Prop := UpToZero x.toModel.unpack y.toModel.unpack

section Alike

variable {x x' y y' : Float}

theorem alike_of_standing (hx : x.isNaN = false) (hy : y.isNaN = false)
    (h : standing x = standing y) : Alike x y := by
  have hrank : rank x.toModel.unpack = rank y.toModel.unpack := by
    simpa [standing, Prod.ext_iff] using h
  exact upToZero_of_rank hx hy hrank

theorem Alike.standing_eq (h : Alike x y) : standing x = standing y := by
  simp only [standing, UpToZero.rank_eq h]

theorem alike_iff : Alike x y ↔ (x == y) = true ∨ (x.isNaN = true ∧ y.isNaN = true) := by
  have heq := Scalar.Ordered.eq_iff x y
  constructor
  · intro h
    rcases hx : x.isNaN with _ | _
    · have hy : y.isNaN = false := (h.isNaN_eq).symm.trans hx
      exact .inl (heq.2 ⟨hx, hy, h.standing_eq⟩)
    · exact .inr ⟨rfl, (h.isNaN_eq).symm.trans hx⟩
  · rintro (h | ⟨hx, hy⟩)
    · obtain ⟨hx, hy, hstanding⟩ := heq.1 h
      exact alike_of_standing hx hy hstanding
    · have hnan : ∀ u : UnpackedFloat, u.isNaN = true → u = .notANumber := by
        intro u hu
        cases u <;> first | rfl | cases hu
      rw [Alike, hnan _ hx, hnan _ hy]
      exact .same _

theorem Alike.eq (hx : Alike x x') (hy : Alike y y') : Scalar.eq x y = Scalar.eq x' y' := by
  have hnan : Scalar.isNaN x = Scalar.isNaN x' ∧ Scalar.isNaN y = Scalar.isNaN y' :=
    ⟨hx.isNaN_eq, hy.isNaN_eq⟩
  have hplace : Scalar.place x = Scalar.place x' ∧ Scalar.place y = Scalar.place y' :=
    ⟨hx.standing_eq, hy.standing_eq⟩
  rw [Bool.eq_iff_iff, Scalar.Ordered.eq_iff, Scalar.Ordered.eq_iff, hnan.1, hnan.2, hplace.1,
    hplace.2]

theorem Alike.refl (x : Float) : Alike x x := .same _

theorem Alike.add (hx : Alike x x') (hy : Alike y y') : Alike (x + y) (x' + y') := by
  refine UpToZero.pack (UpToZero.map₂ (fun s t v => ?_) (fun s t u => ?_) hx hy)
  · cases v
    case zero r => cases s <;> cases t <;> cases r <;> constructor
    all_goals exact .same _
  · cases u
    case zero r => cases s <;> cases t <;> cases r <;> constructor
    all_goals exact .same _

theorem Alike.sub (hx : Alike x x') (hy : Alike y y') : Alike (x - y) (x' - y') := by
  refine UpToZero.pack (UpToZero.map₂ (fun s t v => ?_) (fun s t u => ?_) hx hy)
  · cases v
    case zero r => cases s <;> cases t <;> cases r <;> constructor
    all_goals exact .same _
  · cases u
    case zero r => cases s <;> cases t <;> cases r <;> constructor
    all_goals exact .same _

theorem Alike.mul (hx : Alike x x') (hy : Alike y y') : Alike (x * y) (x' * y') := by
  refine UpToZero.pack (UpToZero.map₂ (fun s t v => ?_) (fun s t u => ?_) hx hy)
  · cases v
    case zero | finite => exact .zeros _ _
    all_goals exact .same _
  · cases u
    case zero | finite => exact .zeros _ _
    all_goals exact .same _

/-- A division by one divisor. -/
theorem Alike.div (hx : Alike x x') (y : Float) : Alike (x / y) (x' / y) := by
  have hdiv : ∀ s t v, UpToZero (UnpackedFloat.div .binary64 (.zero s) v)
      (UnpackedFloat.div .binary64 (.zero t) v) := by
    intro s t v
    cases v
    case infinity | finite => exact .zeros _ _
    all_goals exact .same _
  refine UpToZero.pack ?_
  unfold Alike at hx
  generalize x.toModel.unpack = u at hx ⊢
  generalize x'.toModel.unpack = u' at hx ⊢
  cases hx with
  | same => exact .same _
  | zeros s t => exact hdiv s t _

/-- Differences of alike numbers that are not all zeros are one number. -/
theorem Alike.sub_eq (hx : Alike x x') (hy : Alike y y') (hne : standing y ≠ standing x) :
    x - y = x' - y' := by
  have hunpacked : UnpackedFloat.sub .binary64 x.toModel.unpack y.toModel.unpack =
      UnpackedFloat.sub .binary64 x'.toModel.unpack y'.toModel.unpack := by
    have hne : rank y.toModel.unpack ≠ rank x.toModel.unpack := fun h => hne (by
      simp only [standing, h])
    unfold Alike at hx hy
    generalize x.toModel.unpack = u at hx hne ⊢
    generalize x'.toModel.unpack = u' at hx ⊢
    generalize y.toModel.unpack = v at hy hne ⊢
    generalize y'.toModel.unpack = v' at hy ⊢
    cases hx with
    | same =>
      cases hy with
      | same => rfl
      | zeros s t =>
        cases u
        case zero => exact absurd rfl hne
        all_goals rfl
    | zeros s t =>
      cases hy with
      | same =>
        cases v
        case zero => exact absurd rfl hne
        all_goals rfl
      | zeros => exact absurd rfl hne
  exact congrArg (fun u => Float.ofModel (Float.Model.pack u)) hunpacked

end Alike

section Difference

theorem normalize_of_ne_zero {n x : Int} (hn : n ≠ 0) (hx : -1074 ≤ x) (sign : Sign) :
    ∃ s m e hm, UnpackedFloat.normalize .binary64 n x sign = .finite s m e hm ∧ Canonical m e := by
  have hround : ∀ s {k : Nat}, 0 < k →
      ∃ m e hm, round .binary64 s k x = .finite s m e hm ∧ Canonical m e := by
    intro s k hk
    have hleast : -1074 ≤ gridExponent k x := Int.le_max_right _ _
    obtain ⟨r, -, hfull, hr, ⟨hlt, h⟩ | ⟨-, h⟩⟩ := round_eq s hk hx
    · exact ⟨r, _, hr, h, hlt, hleast, hfull⟩
    · exact ⟨_, _, _, h, by decide, by omega, fun _ => Nat.le_refl _⟩
  rcases Int.lt_or_gt_of_ne hn with hneg | hpos
  · obtain ⟨m, e, hm, h⟩ := hround .negative (k := n.natAbs) (by omega)
    rw [normalize_neg (k := n.natAbs) (by omega) (by omega)]
    exact ⟨_, m, e, hm, h⟩
  · obtain ⟨m, e, hm, h⟩ := hround .positive (k := n.natAbs) (by omega)
    rw [normalize_pos (k := n.natAbs) (by omega) (by omega)]
    exact ⟨_, m, e, hm, h⟩

/-- One value has one mantissa and one exponent. -/
theorem Canonical.unique {m n : Nat} {e f : Int} (h : Canonical m e) (h' : Canonical n f)
    (heq : m * 2 ^ (e - min e f).toNat = n * 2 ^ (f - min e f).toNat) : m = n ∧ e = f := by
  have hless : ∀ {m n : Nat} {e f : Int}, Canonical m e → Canonical n f → e < f →
      m * 2 ^ (e - min e f).toNat ≠ n * 2 ^ (f - min e f).toNat := by
    intro m n e f h h' hlt heq
    have hzero : (e - min e f).toNat = 0 := by omega
    obtain ⟨k, hk⟩ : ∃ k, (f - min e f).toNat = k + 1 := ⟨(f - e - 1).toNat, by omega⟩
    rw [hzero, hk, Nat.pow_zero, Nat.mul_one, Nat.pow_succ] at heq
    have hfull := h'.full (by have := h.least; omega)
    have hsmall := h.small
    have hpos := Nat.two_pow_pos k
    nlinarith
  rcases Int.lt_trichotomy e f with hlt | rfl | hgt
  · exact absurd heq (hless h h' hlt)
  · simpa using heq
  · rw [Int.min_comm] at heq
    exact absurd heq.symm (hless h' h hgt)

/-- What is taken apart from a word of bits: finite numbers have digits and an exponent of
binary64. -/
def Proper (u : UnpackedFloat) : Prop := ∀ s m e hm, u = .finite s m e hm → Canonical m e

theorem proper_unpack (x : Float) : Proper x.toModel.unpack :=
  fun _ _ _ _ h => (unpack_canonical h).1

theorem sub_cases {u v : UnpackedFloat} (hu : Proper u) (hv : Proper v) (hne : rank v ≠ rank u) :
    UnpackedFloat.sub .binary64 u v = .notANumber ∨
      (∃ s, UnpackedFloat.sub .binary64 u v = .infinity s) ∨
      ∃ s m e hm, UnpackedFloat.sub .binary64 u v = .finite s m e hm ∧ Canonical m e := by
  rcases u with s | _ | s | ⟨s, m, e, hm⟩ <;> rcases v with t | _ | t | ⟨t, n, f, hn⟩
  case notANumber.infinity | notANumber.notANumber | notANumber.zero | notANumber.finite |
    infinity.notANumber | zero.notANumber | finite.notANumber => exact .inl rfl
  case infinity.infinity =>
    cases s <;> cases t <;> first | exact .inl rfl | exact .inr (.inl ⟨_, rfl⟩)
  case infinity.zero | infinity.finite | zero.infinity | finite.infinity =>
    exact .inr (.inl ⟨_, rfl⟩)
  case zero.zero => exact absurd rfl hne
  case zero.finite => exact .inr (.inr ⟨_, n, f, hn, rfl, hv _ _ _ _ rfl⟩)
  case finite.zero => exact .inr (.inr ⟨_, m, e, hm, rfl, hu _ _ _ _ rfl⟩)
  case finite.finite =>
    have hcanonical := hu _ _ _ _ rfl
    have hcanonical' := hv _ _ _ _ rfl
    have hsub : UnpackedFloat.sub .binary64 (.finite s m e hm) (.finite t n f hn) =
        UnpackedFloat.normalize .binary64 (s.apply (decreaseExponent m e (min e f)).1 -
          t.apply (decreaseExponent n f (min e f)).1) (min e f) .positive := rfl
    rw [hsub, decreaseExponent_digits, decreaseExponent_digits]
    refine .inr (.inr (normalize_of_ne_zero (fun hzero => hne ?_)
      (Int.le_min.2 ⟨hcanonical.least, hcanonical'.least⟩) _))
    have hpos : 0 < m * 2 ^ (e - min e f).toNat := Nat.mul_pos hm (Nat.two_pow_pos _)
    have hpos' : 0 < n * 2 ^ (f - min e f).toNat := Nat.mul_pos hn (Nat.two_pow_pos _)
    have hsame : m * 2 ^ (e - min e f).toNat = n * 2 ^ (f - min e f).toNat ∧ s = t := by
      cases s <;> cases t <;> simp only [Sign.apply] at hzero <;> constructor <;>
        first | rfl | omega
    obtain ⟨rfl, rfl⟩ := hcanonical.unique hcanonical' hsame.1
    rw [hsame.2]

/-- A number that is less than another one differs from it by more than nothing. -/
theorem difference_ne_zero {x y : Float} (h : x < y) : ((y - x) == 0.0) = false := by
  refine Bool.eq_false_iff.2 fun hzero => ?_
  have hlt : Scalar.lt x y = true := decide_eq_true h
  have hne : rank x.toModel.unpack ≠ rank y.toModel.unpack := by
    intro heq
    have hstanding : standing x = standing y := by simp only [standing, heq]
    exact absurd hstanding (ne_of_lt ((Scalar.Ordered.lt_iff x y).1 hlt).2.2)
  have hunpacked : (y - x).toModel.unpack = (Float.Model.pack
      (UnpackedFloat.sub .binary64 y.toModel.unpack x.toModel.unpack)).unpack := rfl
  obtain ⟨hnumber, -, hstanding⟩ := (Scalar.Ordered.eq_iff (y - x) 0.0).1 hzero
  have hrank : rank (y - x).toModel.unpack = (0, 0, 0) := by
    have hzero : rank (0.0 : Float).toModel.unpack = (0, 0, 0) := rfl
    rw [← hzero]
    simpa [Scalar.place, standing, Prod.ext_iff] using hstanding
  rcases sub_cases (proper_unpack y) (proper_unpack x) hne with
    hnan | ⟨s, hinfinite⟩ | ⟨s, m, e, hm, hfinite, hcanonical⟩
  · have hnan : (y - x).isNaN = true := by
      refine (isNaN_unpack_pack _).trans ?_
      rw [hnan]
      rfl
    exact Bool.false_ne_true (hnumber.symm.trans hnan)
  · rw [hunpacked, hinfinite] at hrank
    rw [show (Float.Model.pack (.infinity s)).unpack = .infinity s from unpack_infinity s] at hrank
    cases s <;> simp [rank] at hrank
  · rw [hunpacked, hfinite, unpack_pack_canonical s hm hcanonical] at hrank
    split at hrank <;> cases s <;> simp [rank] at hrank

end Difference

end SystemDynamics
