import SystemDynamics.Proofs.DelayRange
import SystemDynamics.Proofs.Sums

/-!
# The order of numbers

Numbers of binary64 and exact numbers compare as their places in a linear order do, and what is no
number compares with nothing (`Scalar.Ordered`). The two zeros of binary64 have one place. What is
proved from the places alone holds for both kinds of numbers.
-/

namespace SystemDynamics

namespace Scalar

/-- Comparisons are those of places in a linear order, and false for what is no number. -/
class Ordered (α : Type) [Scalar α] (Place : outParam Type) [LinearOrder Place] where
  place : α → Place
  lt_iff : ∀ x y : α, lt x y = true ↔ isNaN x = false ∧ isNaN y = false ∧ place x < place y
  le_iff : ∀ x y : α, le x y = true ↔ isNaN x = false ∧ isNaN y = false ∧ place x ≤ place y
  eq_iff : ∀ x y : α, eq x y = true ↔ isNaN x = false ∧ isNaN y = false ∧ place x = place y

export Ordered (place)

section Numbers

variable {α Place : Type} [Scalar α] [LinearOrder Place] [Ordered α Place] {x y : α}

theorem lt_iff_place (hx : isNaN x = false) (hy : isNaN y = false) :
    lt x y = true ↔ place x < place y := by simp [Ordered.lt_iff, hx, hy]

theorem le_iff_place (hx : isNaN x = false) (hy : isNaN y = false) :
    le x y = true ↔ place x ≤ place y := by simp [Ordered.le_iff, hx, hy]

theorem eq_iff_place (hx : isNaN x = false) (hy : isNaN y = false) :
    eq x y = true ↔ place x = place y := by simp [Ordered.eq_iff, hx, hy]

end Numbers

instance : Ordered ℚ ℚ where
  place := id
  lt_iff x y := by simp [lt, isNaN]
  le_iff x y := by simp [le, isNaN]
  eq_iff x y := by simp [eq, isNaN]

end Scalar

section Float

variable {x y : Float}

theorem eq_iff_le : (x == y) = true ↔ x ≤ y ∧ y ≤ x := by
  have heq : (x == y) = true ↔ order x y = some .eq := beq_iff_eq (α := Option Ordering)
  rw [heq, le_iff_order, le_iff_order, order_swap x y]
  rcases order x y with _ | _ | _ | _ <;> decide

theorem lt_iff_le_not_le : x < y ↔ x ≤ y ∧ ¬ y ≤ x := by
  rw [lt_iff_order, le_iff_order, le_iff_order, order_swap x y]
  rcases order x y with _ | _ | _ | _ <;> decide

/-- The rank of a number in the order of pairs. -/
def standing (x : Float) : ℤ ×ₗ ℤ ×ₗ ℤ :=
  let r := rank x.toModel.unpack
  toLex (r.1, toLex r.2)

theorem le_iff_standing :
    x ≤ y ↔ x.isNaN = false ∧ y.isNaN = false ∧ standing x ≤ standing y := by
  have hrank : ∀ p q : ℤ × ℤ × ℤ, RankLE p q ↔
      (toLex (p.1, toLex p.2) : ℤ ×ₗ ℤ ×ₗ ℤ) ≤ toLex (q.1, toLex q.2) := by
    intro p q
    simp only [Prod.Lex.toLex_le_toLex, RankLE]
  constructor
  · intro h
    obtain ⟨hx, hy⟩ := not_nan_of_le h
    exact ⟨hx, hy, (hrank _ _).1 ((le_iff_rank hx hy).1 h)⟩
  · rintro ⟨hx, hy, h⟩
    exact (le_iff_rank hx hy).2 ((hrank _ _).2 h)

theorem lt_iff_standing :
    x < y ↔ x.isNaN = false ∧ y.isNaN = false ∧ standing x < standing y := by
  rw [lt_iff_le_not_le, le_iff_standing, le_iff_standing, lt_iff_le_not_ge]
  tauto

theorem eq_iff_standing :
    (x == y) = true ↔ x.isNaN = false ∧ y.isNaN = false ∧ standing x = standing y := by
  have hsame := le_antisymm_iff (a := standing x) (b := standing y)
  rw [eq_iff_le, le_iff_standing, le_iff_standing]
  exact ⟨fun ⟨⟨hx, hy, hxy⟩, _, _, hyx⟩ => ⟨hx, hy, hsame.2 ⟨hxy, hyx⟩⟩,
    fun ⟨hx, hy, hxy⟩ => ⟨⟨hx, hy, (hsame.1 hxy).1⟩, hy, hx, (hsame.1 hxy).2⟩⟩

instance : Scalar.Ordered Float (ℤ ×ₗ ℤ ×ₗ ℤ) where
  place := standing
  lt_iff x y := by
    have hlt : Scalar.lt x y = true ↔ x < y := decide_eq_true_iff
    exact hlt.trans lt_iff_standing
  le_iff x y := by
    have hle : Scalar.le x y = true ↔ x ≤ y := decide_eq_true_iff
    exact hle.trans le_iff_standing
  eq_iff _ _ := eq_iff_standing

end Float

end SystemDynamics
