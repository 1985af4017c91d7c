import SystemDynamics.Lookup
import SystemDynamics.Proofs.Sorted
import SystemDynamics.Proofs.Zero

/-!
# The grid of a surface

A search on an axis finds the place of every coordinate of the points (`modify_leftPlace`). So a
point is written into the cell of its own coordinates and no other, and the grid is the table of
the last points (`ofPoints_grid`).

The reading of a surface is then written out once more with every read and every division made
explicit (`valueAtRisk`), each of which can go wrong: a place may be outside of its list, a divisor
may be zero. On an axis of at least two coordinates the place of a bracket is moved between the
first and the last but one whatever the search gives, also for what is no number, and coordinates
in ascending order have no zero difference. So nothing goes wrong (`valueAtRisk_eq`).
-/

namespace SystemDynamics

namespace Surface

open Scalar (place)

section Filled

variable {α Place : Type} [Scalar α]

/-- The z of the last point that has these coordinates. -/
def lastAt (points : List (α × α × α)) (x y : α) : Option α :=
  (points.reverse.find? fun p => Scalar.eq p.1 x && Scalar.eq p.2.1 y).map (·.2.2)

theorem lastAt_concat (points : List (α × α × α)) (p : α × α × α) (x y : α) :
    lastAt (points ++ [p]) x y =
      if Scalar.eq p.1 x && Scalar.eq p.2.1 y then some p.2.2 else lastAt points x y := by
  unfold lastAt
  rw [List.reverse_append, List.reverse_singleton, List.singleton_append, List.find?_cons]
  split
  · rename_i h
    rw [if_pos h, Option.map_some]
  · rename_i h
    rw [if_neg (by simp [h])]

variable [LinearOrder Place] [Scalar.Ordered α Place]

theorem sortsBefore_iff {u v : α} (hu : Scalar.isNaN u = false) (hv : Scalar.isNaN v = false) :
    sortsBefore u v = true ↔ place u < place v := by
  simp [sortsBefore, hu, hv, Scalar.lt_iff_place hu hv]

/-- What is done at the place that a search finds is done at the coordinate sought. -/
theorem modify_leftPlace {β : Type} (g : α → β) (f : β → β) {v : α}
    (hv : Scalar.isNaN v = false) : ∀ {axis : List α}, (∀ u ∈ axis, Scalar.isNaN u = false) →
      axis.Pairwise (place · < place ·) → (∃ u ∈ axis, place u = place v) →
        (axis.map g).modify (leftPlace v axis) f =
          axis.map fun u => if Scalar.eq v u then f (g u) else g u
  | [], _, _, h => absurd h (by simp)
  | u :: rest, hnumbers, hascending, hfound => by
    obtain ⟨hrest, hascending⟩ := List.pairwise_cons.1 hascending
    have hu := hnumbers u (.head _)
    have heq : ∀ w ∈ u :: rest, (Scalar.eq v w = true ↔ place v = place w) :=
      fun w hw => Scalar.eq_iff_place hv (hnumbers w hw)
    unfold leftPlace
    rw [List.takeWhile_cons]
    by_cases hlt : place u < place v
    · have hne : ¬ Scalar.eq v u = true := fun h => hlt.ne' ((heq u (.head _)).1 h)
      have hlater : ∃ w ∈ rest, place w = place v := by
        obtain ⟨w, hw, hplace⟩ := hfound
        rcases List.mem_cons.1 hw with rfl | hw
        · exact absurd hplace hlt.ne
        · exact ⟨w, hw, hplace⟩
      have ih := modify_leftPlace g f hv (fun w hw => hnumbers w (.tail _ hw)) hascending hlater
      rw [if_pos ((sortsBefore_iff hu hv).2 hlt), List.map_cons, List.length_cons,
        List.modify_succ_cons, List.map_cons, if_neg hne]
      exact congrArg (g u :: ·) ih
    · -- The first coordinate is the one sought; those after it are greater.
      have hsame : place v = place u := by
        obtain ⟨w, hw, hplace⟩ := hfound
        rcases List.mem_cons.1 hw with rfl | hw
        · exact hplace.symm
        · exact absurd (hplace ▸ hrest w hw) hlt
      have hothers : rest.map (fun w => if Scalar.eq v w then f (g w) else g w) = rest.map g := by
        refine List.map_congr_left fun w hw => if_neg fun h => ?_
        exact (hrest w hw).ne (hsame.symm.trans ((heq w (.tail _ hw)).1 h))
      rw [if_neg fun h => hlt ((sortsBefore_iff hu hv).1 h), List.map_cons, List.length_nil,
        List.modify_zero_cons, List.map_cons, if_pos ((heq u (.head _)).2 hsame), hothers]

section Written

variable {xs ys as bs : List α} (hxs : Marks xs as) (hys : Marks ys bs)
  (has : ∀ v ∈ as, Scalar.isNaN v = false) (hbs : ∀ v ∈ bs, Scalar.isNaN v = false)

include hxs hys has hbs

theorem fill_table (f : α → α → Option α) {p : α × α × α} (hx : p.1 ∈ as) (hy : p.2.1 ∈ bs) :
    fill xs ys (xs.map fun x => ys.map (f x)) p = xs.map fun x => ys.map fun y =>
      if Scalar.eq p.1 x && Scalar.eq p.2.1 y then some p.2.2 else f x y := by
  unfold fill
  rw [modify_leftPlace _ _ (has _ hx) (hxs.numbers has) hxs.ascending (hxs.complete _ hx)]
  refine List.map_congr_left fun x _ => ?_
  by_cases heq : Scalar.eq p.1 x = true
  · rw [if_pos heq, List.set_eq_modify,
      modify_leftPlace _ _ (hbs _ hy) (hys.numbers hbs) hys.ascending (hys.complete _ hy)]
    simp [heq]
  · simp [heq]

/-- Points whose coordinates are on the axes leave the table of the last ones. -/
theorem foldl_fill (points : List (α × α × α)) (h : ∀ p ∈ points, p.1 ∈ as ∧ p.2.1 ∈ bs) :
    points.foldl (fill xs ys) (List.replicate xs.length (List.replicate ys.length none)) =
      xs.map fun x => ys.map fun y => lastAt points x y := by
  -- From the end, since the last point of a cell is the one that counts.
  induction points using List.reverseRecOn with
  | nil =>
    have hnone : ∀ x ∈ xs, List.replicate ys.length none = ys.map fun y => lastAt [] x y :=
      fun _ _ => List.map_const'.symm
    rw [List.foldl_nil, ← List.map_const']
    exact List.map_congr_left hnone
  | append_singleton points p ih =>
    obtain ⟨hx, hy⟩ := h p (List.mem_append_right _ (.head _))
    rw [List.foldl_concat, ih fun q hq => h q (List.mem_append_left _ hq),
      fill_table hxs hys has hbs _ hx hy]
    simp only [lastAt_concat]

end Written

/-- The grid is the table of the last points at all pairs of coordinates. -/
theorem ofPoints_grid {Place : Type} [LinearOrder Place] [Scalar.Ordered α Place] (name : String)
    {points : List (α × α × α)} (hx : ∀ p ∈ points, Scalar.isNaN p.1 = false)
    (hy : ∀ p ∈ points, Scalar.isNaN p.2.1 = false) :
    (ofPoints name points).grid = (ofPoints name points).xs.map fun x =>
      (ofPoints name points).ys.map fun y => lastAt points x y :=
  foldl_fill (marks_xs name hx) (marks_ys name hy) (List.forall_mem_map.2 hx)
    (List.forall_mem_map.2 hy) points fun _ hp => ⟨List.mem_map_of_mem hp, List.mem_map_of_mem hp⟩

end Filled

/-- What a read or a division can end in. -/
inductive Trap where
  | outOfRange
  | zeroDivisor

/-- The element at a place, which must be in the list. -/
def readAt {β : Type} (l : List β) : Int → Except Trap β
  | .ofNat i => l[i]?.elim (.error .outOfRange) .ok
  | .negSucc _ => .error .outOfRange

/-- The quotient by a divisor that must not be zero. -/
def quotient (x y : Float) : Except Trap Float :=
  if y == 0.0 then .error .zeroDivisor else .ok (x / y)

/-- The bracket of an argument, read from the axis. -/
def bracketAtRisk (axis : List Float) (v : Float) : Except Trap (Bracket Float) := do
  let first ← readAt axis 0
  let last ← readAt axis (axis.length - 1)
  let v := clampTo first last v
  if axis.length = 1 || last == first then return ⟨0, 0, 0.0⟩
  else
    let lower : Int := min (max (rightPlace v axis - 1) 0) (axis.length - 2)
    let low ← readAt axis lower
    let high ← readAt axis (lower + 1)
    return ⟨lower.toNat, (lower + 1).toNat, ← quotient (v - low) (high - low)⟩

/-- The weighted values of the corners added to a total, read from the grid. -/
def blendAtRisk (s : Surface Float) (total : Float) :
    List (Corner Float) → Except Trap (Except (Failure Float) Float)
  | [] => .ok (.ok total)
  | c :: rest =>
    if c.weight == 0.0 then blendAtRisk s total rest
    else do
      let row ← readAt s.grid c.i
      let cell ← readAt row c.j
      match cell.filter (!Scalar.isNaN ·) with
      | some z => blendAtRisk s (total + c.weight * z) rest
      | none => return .error (.missing (← readAt s.xs c.i) (← readAt s.ys c.j))

/-- The value of a surface, read from its axes and its grid. -/
def valueAtRisk (s : Surface Float) (x y : Float) : Except Trap (Except (Failure Float) Float) :=
  if s.points.isEmpty then .ok (.error .noPoints)
  else do
    let a ← bracketAtRisk s.xs x
    let b ← bracketAtRisk s.ys y
    blendAtRisk s 0.0 (corners a b)

/-- Both places are on the axis; if they differ, the difference of their coordinates is not zero. -/
structure Bracket.Fits (b : Bracket Float) (axis : List Float) : Prop where
  lower : b.lower < axis.length
  upper : b.upper < axis.length
  gap : b.lower ≠ b.upper → (axis[b.upper] - axis[b.lower] == 0.0) = false

section Brackets

variable {axis : List Float}

theorem readAt_eq {β : Type} {l : List β} {i : Nat} (h : i < l.length) :
    readAt l i = .ok l[i] := by
  have hread : readAt l i = l[i]?.elim (.error .outOfRange) .ok := rfl
  rw [hread, List.getElem?_eq_getElem h, Option.elim_some]

theorem headD_eq_getElem {β : Type} {l : List β} {d : β} (h : 0 < l.length) :
    l.headD d = l[0] := by
  rw [List.headD_eq_head?_getD, List.head?_eq_getElem?, List.getElem?_eq_getElem h,
    Option.getD_some]

theorem getLastD_eq_getElem {β : Type} {l : List β} {d : β} (h : 0 < l.length) :
    l.getLastD d = l[l.length - 1] := by
  rw [List.getLastD_eq_getLast?, List.getLast?_eq_getElem?,
    List.getElem?_eq_getElem (Nat.sub_one_lt_of_lt h), Option.getD_some]

/-- The bracket of any argument is on the axis. -/
theorem bracket_on_axis {α : Type} [Scalar α] {axis : List α} (h : axis ≠ []) (v : α) :
    (bracket axis v).lower < axis.length ∧ (bracket axis v).upper < axis.length := by
  have hpos := List.length_pos_of_ne_nil h
  unfold bracket
  simp only []
  split
  · exact ⟨hpos, hpos⟩
  · rename_i hlong
    have : axis.length ≠ 1 := fun h => hlong (by simp [h])
    constructor <;> simp only <;> omega

theorem gap_ne_zero (h : axis.Pairwise (· < ·)) {i : Nat} (hi : i + 1 < axis.length) :
    (axis[i + 1] - axis[i] == 0.0) = false :=
  difference_ne_zero (List.pairwise_iff_getElem.1 h i (i + 1) (by omega) hi (by omega))

theorem bracket_fits (hne : axis ≠ []) (h : axis.Pairwise (· < ·)) (v : Float) :
    (bracket axis v).Fits axis := by
  obtain ⟨hlower, hupper⟩ := bracket_on_axis hne v
  refine ⟨hlower, hupper, fun hdiffer => ?_⟩
  have hnext : (bracket axis v).upper = (bracket axis v).lower + 1 := by
    unfold bracket at hdiffer ⊢
    simp only [] at hdiffer ⊢
    split at hdiffer
    · exact absurd rfl hdiffer
    · rename_i hlong
      rw [if_neg hlong]
  simp only [hnext] at hupper ⊢
  exact gap_ne_zero h hupper

theorem bracketAtRisk_eq (hne : axis ≠ []) (h : axis.Pairwise (· < ·)) (v : Float) :
    bracketAtRisk axis v = .ok (bracket axis v) := by
  have hpos := List.length_pos_of_ne_nil hne
  have hfirst : readAt axis 0 = .ok (axis.headD (Scalar.ofNat 0)) := by
    rw [headD_eq_getElem hpos]
    exact readAt_eq hpos
  have hlast : readAt axis (axis.length - 1) = .ok (axis.getLastD (Scalar.ofNat 0)) := by
    have hcast : ((axis.length : Int) - 1) = ((axis.length - 1 : Nat) : Int) := by omega
    rw [getLastD_eq_getElem hpos, hcast]
    exact readAt_eq (Nat.sub_one_lt_of_lt hpos)
  unfold bracketAtRisk bracket
  simp only [hfirst, hlast, bind, Except.bind]
  generalize clampTo (axis.headD (Scalar.ofNat 0)) (axis.getLastD (Scalar.ofNat 0)) v = w
  have heq : (axis.getLastD (Scalar.ofNat 0) == axis.headD (Scalar.ofNat 0)) =
    Scalar.eq (axis.getLastD (Scalar.ofNat 0)) (axis.headD (Scalar.ofNat 0)) := rfl
  rw [heq]
  split
  · rfl
  · rename_i hlong
    have hlength : axis.length ≠ 1 := fun h => hlong (by simp [h])
    have hlt : min (rightPlace w axis - 1) (axis.length - 2) + 1 < axis.length := by omega
    -- At place 0 the integers go below zero and the natural numbers stop: both come to the first.
    have hlower : min (max ((rightPlace w axis : Int) - 1) 0) (axis.length - 2) =
        (min (rightPlace w axis - 1) (axis.length - 2) : Nat) := by omega
    rw [hlower]
    generalize min (rightPlace w axis - 1) (axis.length - 2) = lower at hlt ⊢
    have hupper : ((lower : Int) + 1) = ((lower + 1 : Nat) : Int) := by omega
    have hlow := List.getD_eq_getElem axis (Scalar.ofNat 0) (by omega : lower < axis.length)
    have hhigh := List.getD_eq_getElem axis (Scalar.ofNat 0) hlt
    rw [hupper, readAt_eq (by omega : lower < axis.length), readAt_eq hlt, hlow, hhigh]
    simp only [quotient, gap_ne_zero h hlt]
    rfl

end Brackets

section Cells

variable {s : Surface Float}

theorem corners_on_grid {a b : Bracket Float} {m n : Nat} (ha : a.lower < m ∧ a.upper < m)
    (hb : b.lower < n ∧ b.upper < n) : ∀ c ∈ corners a b, c.i < m ∧ c.j < n := by
  unfold corners
  simp only [List.forall_mem_cons, List.not_mem_nil, false_implies, implies_true, and_true]
  tauto

theorem blendAtRisk_eq (hs : s.Gridded) : ∀ (cs : List (Corner Float)) (total : Float),
    (∀ c ∈ cs, c.i < s.xs.length ∧ c.j < s.ys.length) →
      blendAtRisk s total cs = .ok (s.blend total cs)
  | [], _, _ => rfl
  | c :: rest, total, h => by
    obtain ⟨hi, hj⟩ := h c (.head _)
    have hrest := fun total => blendAtRisk_eq hs rest total fun d hd => h d (.tail _ hd)
    have hrow : c.i < s.grid.length := hs.rows ▸ hi
    have hcolumn : c.j < s.grid[c.i].length := hs.columns _ (List.getElem_mem hrow) ▸ hj
    have hcell : s.cell? c.i c.j = s.grid[c.i][c.j].filter (!Scalar.isNaN ·) := by
      rw [cell?, List.getElem?_eq_getElem hrow, Option.getD_some,
        List.getElem?_eq_getElem hcolumn, Option.getD_some]
    have hweight : Scalar.eq c.weight (Scalar.ofNat 0) = (c.weight == 0.0) := rfl
    unfold blendAtRisk blend
    rw [readAt_eq hrow, hcell, hweight, readAt_eq hi, readAt_eq hj,
      List.getD_eq_getElem _ _ hi, List.getD_eq_getElem _ _ hj]
    simp only [bind, Except.bind, readAt_eq hcolumn, hrest]
    split
    · rfl
    · cases s.grid[c.i][c.j].filter (!Scalar.isNaN ·) <;> rfl

theorem Spans.ne_nil {axis coordinates : List Float} (h : Spans axis coordinates)
    (hne : coordinates ≠ []) : axis ≠ [] := by
  obtain ⟨v, hv⟩ := List.exists_mem_of_ne_nil _ hne
  obtain ⟨w, hw, -⟩ := h.complete v hv
  exact List.ne_nil_of_mem hw

theorem valueAtRisk_eq (hs : s.Gridded) (x y : Float) : valueAtRisk s x y = .ok (s.value x y) := by
  unfold valueAtRisk value
  by_cases hnone : s.points = []
  · simp [hnone]
  · have hxs := hs.xs.ne_nil (by simpa using hnone)
    have hys := hs.ys.ne_nil (by simpa using hnone)
    have hcorners := corners_on_grid (bracket_on_axis hxs x) (bracket_on_axis hys y)
    rw [if_neg (by simpa using hnone), if_neg (by simpa using hnone),
      bracketAtRisk_eq hxs hs.xs.ascending, bracketAtRisk_eq hys hs.ys.ascending]
    exact blendAtRisk_eq hs _ _ hcorners

theorem valueAt_fault {x y : Float} {fault : Fault} (h : s.valueAt x y = .error fault) :
    fault.kind = "EvaluationError" := by
  unfold valueAt at h
  split at h
  · cases h
  all_goals
    obtain rfl := Except.error.inj h
    rfl

end Cells

/-- The surface of points whose coordinates are numbers has ascending axes and the last z given for
each pair of their coordinates. Its value can be read for all arguments without a read outside of
the axes and the grid and without a division by zero: it is a number or a failed lookup. -/
theorem ofPoints_read (name : String) {points : List (Float × Float × Float)}
    (h : ∀ p ∈ points, p.1.isNaN = false ∧ p.2.1.isNaN = false) :
    (ofPoints name points).Gridded ∧
      ((ofPoints name points).grid = (ofPoints name points).xs.map fun x =>
        (ofPoints name points).ys.map fun y => lastAt points x y) ∧
      ∀ x y : Float,
        (points ≠ [] → (bracket (ofPoints name points).xs x).Fits (ofPoints name points).xs ∧
          (bracket (ofPoints name points).ys y).Fits (ofPoints name points).ys) ∧
        valueAtRisk (ofPoints name points) x y = .ok ((ofPoints name points).value x y) ∧
        ∀ fault, (ofPoints name points).valueAt x y = .error fault →
          fault.kind = "EvaluationError" := by
  have hs := ofPoints_gridded name h
  refine ⟨hs, ofPoints_grid name (fun p hp => (h p hp).1) (fun p hp => (h p hp).2), ?_⟩
  refine fun x y => ⟨fun hne => ?_, valueAtRisk_eq hs x y, fun _ => valueAt_fault⟩
  have hsome : (ofPoints name points).points ≠ [] := hne
  exact ⟨bracket_fits (hs.xs.ne_nil (by simpa using hsome)) hs.xs.ascending x,
    bracket_fits (hs.ys.ne_nil (by simpa using hsome)) hs.ys.ascending y⟩

/-- A surface with a cell that is given twice, one that is given no number and one that is not
given. -/
def plateau : List (Float × Float × Float) :=
  [(0.0, 0.0, 1.0), (2.0, 0.0, 3.0), (-0.0, 1.0, 0.0 / 0.0), (0.0, -0.0, 5.0)]

theorem ofPoints_read_plateau :
    (ofPoints "Plateau" plateau).Gridded ∧
      (ofPoints "Plateau" plateau).grid.length = 2 ∧
      lastAt plateau 0.0 0.0 = some 5.0 ∧ lastAt plateau 2.0 1.0 = none ∧
      valueAtRisk (ofPoints "Plateau" plateau) (1.0 / 0.0) (-1.0 / 0.0) = .ok (.ok 3.0) ∧
      ∃ u v, valueAtRisk (ofPoints "Plateau" plateau) (0.0 / 0.0) 0.0 =
        .ok (.error (.missing u v)) := by
  have hnumbers : ∀ p ∈ plateau, p.1.isNaN = false ∧ p.2.1.isNaN = false := by decide +kernel
  obtain ⟨hgridded, hgrid, hread⟩ := ofPoints_read "Plateau" hnumbers
  have hxs : (ofPoints "Plateau" plateau).xs.length = 2 := by decide +kernel
  refine ⟨hgridded, ?_, ?_, ?_, ?_, ?_⟩
  · rw [hgrid, List.length_map, hxs]
  · decide +kernel
  · decide +kernel
  · have hvalue : ((ofPoints "Plateau" plateau).value (1.0 / 0.0) (-1.0 / 0.0)).toOption =
      some 3.0 := by decide +kernel
    rw [(hread _ _).2.1]
    rcases hz : (ofPoints "Plateau" plateau).value (1.0 / 0.0) (-1.0 / 0.0) with e | z <;>
      rw [hz] at hvalue <;> cases hvalue
    rfl
  · rw [(hread _ _).2.1]
    exact ⟨0.0, 1.0, congrArg Except.ok rfl⟩

end Surface

end SystemDynamics
