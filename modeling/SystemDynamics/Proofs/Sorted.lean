import SystemDynamics.Curve
import SystemDynamics.Proofs.Order
import SystemDynamics.Surface

/-!
# Sorted points and grids

Sorting sorts only what can be compared, and all numbers can. So the points of a curve are sorted
by x and then by y if their coordinates are numbers (`Curve.ofGiven_sorted`), and a surface has
one row for each x among its points and one column for each y (`Surface.ofPoints_gridded`).
-/

namespace SystemDynamics

open Scalar (place)

variable {α Place : Type} [Scalar α] [LinearOrder Place] [Scalar.Ordered α Place]

/-- Where a point comes among others: by x, and by y where the x are equal. -/
def spot (p : α × α) : Place ×ₗ Place := toLex (place p.1, place p.2)

section Spots

variable {p q : α × α}

theorem spot_le_iff :
    spot p ≤ spot q ↔ place p.1 < place q.1 ∨ place p.1 = place q.1 ∧ place p.2 ≤ place q.2 :=
  Prod.Lex.toLex_le_toLex

theorem spot_eq_iff : spot p = spot q ↔ place p.1 = place q.1 ∧ place p.2 = place q.2 := by
  simp [spot, Prod.ext_iff]

theorem place_le_of_spot_le (h : spot p ≤ spot q) : place p.1 ≤ place q.1 := by
  rcases spot_le_iff.1 h with h | h
  · exact h.le
  · exact h.1.le

theorem place_le_of_spot_le_of_eq (h : spot p ≤ spot q) (heq : place p.1 = place q.1) :
    place p.2 ≤ place q.2 := by
  rcases spot_le_iff.1 h with h | h
  · exact absurd heq h.ne
  · exact h.2

end Spots

namespace GivenPoint

variable {p q : GivenPoint α} {points : List (GivenPoint α)}

omit [LinearOrder Place] [Scalar.Ordered α Place] in
theorem isDefinite_iff :
    p.isDefinite = true ↔ Scalar.isNaN p.x = false ∧ Scalar.isNaN p.y = false := by
  simp [isDefinite]

/-- A point whose coordinates are numbers need not come behind another such exactly if its spot is
not behind the other's. -/
theorem not_before_iff (hp : p.isDefinite = true) (hq : q.isDefinite = true) :
    (!before q p) = true ↔ spot p.coordinates ≤ spot q.coordinates := by
  obtain ⟨hpx, hpy⟩ := isDefinite_iff.1 hp
  obtain ⟨hqx, hqy⟩ := isDefinite_iff.1 hq
  have hsame : sameX q p = true ↔ place q.x = place p.x := by
    simp [sameX, hpx, Scalar.eq_iff_place hqx hpx]
  rw [spot_le_iff, Bool.not_eq_true', ← Bool.not_eq_true, before]
  simp only [coordinates]
  by_cases heq : place q.x = place p.x
  · rw [if_pos (hsame.2 heq), Scalar.lt_iff_place hqy hpy, not_lt, heq]
    simp
  · rw [if_neg fun h => heq (hsame.1 h), Scalar.lt_iff_place hqx hpx, not_lt]
    exact ⟨fun h => .inl (lt_of_le_of_ne h (Ne.symm heq)),
      fun h => h.elim le_of_lt fun h => absurd h.1.symm heq⟩

/-- Points whose coordinates are numbers are sorted. -/
theorem sort_sorted (h : ∀ p ∈ points, p.isDefinite = true) :
    ((sort points).map (·.coordinates)).Pairwise (spot · ≤ spot ·) := by
  -- Points of other coordinates do not compare, so the order is one on these points only.
  let le (p q : {p : GivenPoint α // p.isDefinite = true}) : Bool := !before q.1 p.1
  have hle : ∀ p q, le p q = true ↔ spot p.1.coordinates ≤ spot q.1.coordinates :=
    fun p q => not_before_iff p.2 q.2
  have hvalues : (points.attachWith _ h).map Subtype.val = points :=
    List.attachWith_map_subtype_val ..
  have hsort : sort points = ((points.attachWith _ h).mergeSort le).map Subtype.val := by
    rw [List.map_mergeSort (s := fun p q => !before q p) fun _ _ _ _ => rfl, hvalues, sort,
      if_pos (List.all_eq_true.2 h)]
  have htrans : ∀ p q r, le p q = true → le q r = true → le p r = true := by
    intro p q r hpq hqr
    exact (hle p r).2 (((hle p q).1 hpq).trans ((hle q r).1 hqr))
  have htotal : ∀ p q, (le p q || le q p) = true := by
    intro p q
    rw [Bool.or_eq_true, hle, hle]
    exact le_total _ _
  have hsorted := List.pairwise_mergeSort htrans htotal (points.attachWith _ h)
  rw [hsort, List.pairwise_map, List.pairwise_map]
  exact hsorted.imp fun {p q} hpq => (hle p q).1 hpq

omit [LinearOrder Place] [Scalar.Ordered α Place] in
theorem sort_perm (h : ∀ p ∈ points, p.isDefinite = true) : (sort points).Perm points := by
  rw [sort, if_pos (List.all_eq_true.2 h)]
  exact List.mergeSort_perm points _

end GivenPoint

/-- The points of a curve are those that are given, sorted. -/
theorem Curve.ofGiven_sorted (name : String) {points : List (GivenPoint α)}
    (h : ∀ p ∈ points, p.isDefinite = true) :
    (Curve.ofGiven name points).points.Pairwise (spot · ≤ spot ·) ∧
      (Curve.ofGiven name points).points.Perm (points.map (·.coordinates)) :=
  ⟨GivenPoint.sort_sorted h, (GivenPoint.sort_perm h).map _⟩

/-- The order of the points of a curve: by x, and by y where the x are equal. -/
def Ascends (p q : Float × Float) : Prop := p.1 < q.1 ∨ ((p.1 == q.1) = true ∧ p.2 ≤ q.2)

/-- The points of a curve are those that are given, sorted by x and then by y. -/
theorem Curve.ofPoints_sorted (name : String) {points : List (Float × Float)}
    (h : ∀ p ∈ points, p.1.isNaN = false ∧ p.2.isNaN = false) :
    (Curve.ofPoints name points).points.Pairwise Ascends ∧
      (Curve.ofPoints name points).points.Perm points := by
  have hdefinite : ∀ p ∈ points.map fun p => (⟨p.1, p.2, none⟩ : GivenPoint Float),
      p.isDefinite = true := by
    intro p hp
    obtain ⟨o, ho, rfl⟩ := List.mem_map.1 hp
    exact GivenPoint.isDefinite_iff.2 (h o ho)
  obtain ⟨hsorted, hperm⟩ := Curve.ofGiven_sorted name hdefinite
  have hperm : (Curve.ofPoints name points).points.Perm points := by
    rw [List.map_map] at hperm
    exact hperm.trans (.of_eq (List.map_id _))
  refine ⟨hsorted.imp_of_mem fun {p q} hp hq hpq => ?_, hperm⟩
  obtain ⟨hpx, hpy⟩ := h p (hperm.subset hp)
  obtain ⟨hqx, hqy⟩ := h q (hperm.subset hq)
  rcases spot_le_iff.1 hpq with hx | ⟨hx, hy⟩
  · exact .inl (of_decide_eq_true ((Scalar.lt_iff_place hpx hqx).2 hx))
  · exact .inr ⟨(Scalar.eq_iff_place hpx hqx).2 hx,
      of_decide_eq_true ((Scalar.le_iff_place hpy hqy).2 hy)⟩

namespace Surface

/-- The axis ascends and has each of the coordinates, an equal one at least, and no other. -/
structure Spans (axis coordinates : List Float) : Prop where
  ascending : axis.Pairwise (· < ·)
  complete : ∀ v ∈ coordinates, ∃ w ∈ axis, (w == v) = true
  minimal : ∀ w ∈ axis, w ∈ coordinates

/-- There is one row for each x among the points, and in it one cell for each y. -/
structure Gridded (s : Surface Float) : Prop where
  xs : Spans s.xs (s.points.map (·.1))
  ys : Spans s.ys (s.points.map (·.2.1))
  rows : s.grid.length = s.xs.length
  columns : ∀ row ∈ s.grid, row.length = s.ys.length

/-- The axis has the coordinates in the order of their places, one for each place. -/
structure Marks (axis coordinates : List α) : Prop where
  ascending : axis.Pairwise (place · < place ·)
  complete : ∀ v ∈ coordinates, ∃ w ∈ axis, place w = place v
  minimal : axis ⊆ coordinates

theorem Marks.numbers {axis coordinates : List α} (h : Marks axis coordinates)
    (hnumbers : ∀ v ∈ coordinates, Scalar.isNaN v = false) : ∀ w ∈ axis, Scalar.isNaN w = false :=
  fun w hw => hnumbers w (h.minimal hw)

theorem Marks.spans {axis coordinates : List Float} (h : Marks axis coordinates)
    (hnumbers : ∀ v ∈ coordinates, v.isNaN = false) : Spans axis coordinates where
  ascending := h.ascending.imp_of_mem fun {v w} hv hw hlt => of_decide_eq_true
    ((Scalar.lt_iff_place (h.numbers hnumbers v hv) (h.numbers hnumbers w hw)).2 hlt)
  complete v hv := by
    obtain ⟨w, hw, heq⟩ := h.complete v hv
    exact ⟨w, hw, (Scalar.eq_iff_place (h.numbers hnumbers w hw) (hnumbers v hv)).2 heq⟩
  minimal _ hw := h.minimal hw

section Axis

variable {v w : α}

omit [LinearOrder Place] [Scalar.Ordered α Place] in
theorem mem_addCoordinate : ∀ {axis : List α}, w ∈ addCoordinate v axis → w = v ∨ w ∈ axis
  | [], h => .inl (List.mem_singleton.1 h)
  | u :: rest, h => by
    unfold addCoordinate at h
    split at h
    · exact List.mem_cons.1 h
    · split at h
      · exact .inr h
      · rcases List.mem_cons.1 h with rfl | h
        · exact .inr (.head _)
        · exact (mem_addCoordinate h).imp_right (.tail _)

omit [LinearOrder Place] [Scalar.Ordered α Place] in
theorem subset_addCoordinate (v : α) : ∀ axis : List α, axis ⊆ addCoordinate v axis
  | [] => List.nil_subset _
  | u :: rest => by
    unfold addCoordinate
    split
    · exact List.subset_cons_self v _
    · split
      · exact List.Subset.refl _
      · exact List.cons_subset_cons u (subset_addCoordinate v rest)

theorem exists_addCoordinate (v : α) : ∀ axis : List α,
    ∃ w ∈ addCoordinate v axis, place w = place v
  | [] => ⟨v, .head _, rfl⟩
  | u :: rest => by
    unfold addCoordinate
    split
    · exact ⟨v, .head _, rfl⟩
    · split
      · rename_i heq
        exact ⟨u, .head _, ((Scalar.Ordered.eq_iff v u).1 heq).2.2.symm⟩
      · obtain ⟨w, hw, heq⟩ := exists_addCoordinate v rest
        exact ⟨w, .tail _ hw, heq⟩

theorem addCoordinate_ascending (hv : Scalar.isNaN v = false) : ∀ {axis : List α},
    (∀ w ∈ axis, Scalar.isNaN w = false) → axis.Pairwise (place · < place ·) →
      (addCoordinate v axis).Pairwise (place · < place ·)
  | [], _, _ => List.pairwise_singleton _ _
  | u :: rest, hnumbers, h => by
    obtain ⟨hu, hrest⟩ := List.pairwise_cons.1 h
    have hnumber := hnumbers u (.head _)
    unfold addCoordinate
    simp only [Scalar.lt_iff_place hv hnumber, Scalar.eq_iff_place hv hnumber]
    split
    · rename_i hlt
      refine List.pairwise_cons.2 ⟨fun w hw => ?_, h⟩
      rcases List.mem_cons.1 hw with rfl | hw
      · exact hlt
      · exact hlt.trans (hu w hw)
    · split
      · exact h
      · rename_i hlt hne
        have huv : place u < place v := lt_of_le_of_ne (not_lt.1 hlt) (Ne.symm hne)
        have hadded := addCoordinate_ascending hv (fun w hw => hnumbers w (.tail _ hw)) hrest
        refine List.pairwise_cons.2 ⟨fun w hw => ?_, hadded⟩
        rcases mem_addCoordinate hw with rfl | hw
        · exact huv
        · exact hu w hw

theorem Marks.addCoordinate {axis coordinates : List α} (h : Marks axis coordinates)
    (hnumbers : ∀ v ∈ coordinates, Scalar.isNaN v = false) (hv : Scalar.isNaN v = false) :
    Marks (addCoordinate v axis) (coordinates ++ [v]) := by
  constructor
  · exact addCoordinate_ascending hv (h.numbers hnumbers) h.ascending
  · intro u hu
    rcases List.mem_append.1 hu with hu | hu
    · obtain ⟨w, hw, heq⟩ := h.complete u hu
      exact ⟨w, subset_addCoordinate v axis hw, heq⟩
    · rw [List.mem_singleton.1 hu]
      exact exists_addCoordinate v axis
  · intro w hw
    rcases mem_addCoordinate hw with rfl | hw
    · exact List.mem_append_right _ (.head _)
    · exact List.mem_append_left _ (h.minimal hw)

theorem Marks.addAll : ∀ (vs : List α) {axis done : List α}, Marks axis done →
    (∀ v ∈ done ++ vs, Scalar.isNaN v = false) →
      Marks (vs.foldl (fun a v => Surface.addCoordinate v a) axis) (done ++ vs)
  | [], _, _, h, _ => by rwa [List.append_nil]
  | v :: vs, axis, done, h, hnumbers => by
    have hsplit : done ++ v :: vs = (done ++ [v]) ++ vs := List.append_cons done v vs
    rw [hsplit] at hnumbers ⊢
    refine addAll vs (h.addCoordinate (fun u hu => hnumbers u ?_) (hnumbers v ?_)) hnumbers
    · exact List.mem_append_left _ (List.mem_append_left _ hu)
    · exact List.mem_append_left _ (List.mem_append_right _ (.head _))

theorem marks_axis {coordinates : List α} (h : ∀ v ∈ coordinates, Scalar.isNaN v = false) :
    Marks (axis coordinates) coordinates := by
  have hnone : Marks ([] : List α) [] := by
    constructor
    · exact .nil
    · exact fun v hv => absurd hv List.not_mem_nil
    · exact List.nil_subset _
  exact hnone.addAll coordinates h

end Axis

section Grid

variable {points : List (α × α × α)}

omit [LinearOrder Place] [Scalar.Ordered α Place] in
/-- Writing points into a grid keeps the lengths of its rows. -/
theorem fill_lengths (xs ys : List α) : ∀ (points : List (α × α × α))
    (grid : List (List (Option α))),
    (points.foldl (fill xs ys) grid).map List.length = grid.map List.length
  | [], _ => rfl
  | p :: points, grid => by
    refine (fill_lengths xs ys points _).trans ?_
    refine List.ext_getElem (by simp [fill]) fun i hi hi' => ?_
    simp only [fill, List.getElem_map, List.getElem_modify]
    split
    · exact List.length_set
    · rfl

omit [LinearOrder Place] [Scalar.Ordered α Place] in
theorem ofPoints_lengths (name : String) (points : List (α × α × α)) :
    (ofPoints name points).grid.map List.length =
      List.replicate (ofPoints name points).xs.length (ofPoints name points).ys.length := by
  refine (fill_lengths _ _ points _).trans ?_
  rw [List.map_replicate, List.length_replicate]
  rfl

theorem marks_xs (name : String) (h : ∀ p ∈ points, Scalar.isNaN p.1 = false) :
    Marks (ofPoints name points).xs (points.map (·.1)) :=
  marks_axis (List.forall_mem_map.2 h)

theorem marks_ys (name : String) (h : ∀ p ∈ points, Scalar.isNaN p.2.1 = false) :
    Marks (ofPoints name points).ys (points.map (·.2.1)) :=
  marks_axis (List.forall_mem_map.2 h)

/-- The grid of a surface has one row for each x of its points and one column for each y. -/
theorem ofPoints_gridded (name : String) {points : List (Float × Float × Float)}
    (h : ∀ p ∈ points, p.1.isNaN = false ∧ p.2.1.isNaN = false) :
    (ofPoints name points).Gridded := by
  have hlengths := ofPoints_lengths name points
  have hx : ∀ p ∈ points, Scalar.isNaN p.1 = false := fun p hp => (h p hp).1
  have hy : ∀ p ∈ points, Scalar.isNaN p.2.1 = false := fun p hp => (h p hp).2
  constructor
  · exact (marks_xs name hx).spans (List.forall_mem_map.2 hx)
  · exact (marks_ys name hy).spans (List.forall_mem_map.2 hy)
  · simpa using congrArg List.length hlengths
  · intro row hrow
    have hmem : row.length ∈ (ofPoints name points).grid.map List.length := List.mem_map_of_mem hrow
    rw [hlengths] at hmem
    exact (List.mem_replicate.1 hmem).2

end Grid

end Surface

end SystemDynamics
