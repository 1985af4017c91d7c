import SystemDynamics.Proofs.Sorted
import SystemDynamics.Proofs.Zero

/-!
# Curves through their points

An argument splits the sorted points: those up to it, the last of them, and those past it
(`Split`). The search finds this last point, whether the points are tried in turn or halved
(`follow_split`, `lastUpTo_split`), so the value is that of the line from it to the next, or its own
y where there is none (`valueOn_split`).

So a curve has the greatest y at each x of its points and is flat beyond them (`through_perm`).
Points in another order come to the same spots when they are sorted, and values can then differ in
the sign of a zero only (`value_alike`). Over exact numbers the curve is the chord between
neighbouring x (`value_chord`), which rises where the points do (`value_mono`).
-/

namespace SystemDynamics

open Scalar (place)

theorem Search.bisect_eq {holds : Nat → Bool} {border : Nat} : ∀ (steps : Nat) {left right : Nat},
    left ≤ border → border ≤ right → right ≤ left + steps →
      (∀ i, left ≤ i → i < right → (holds i = true ↔ border ≤ i)) →
        bisect holds steps left right = border
  | 0, left, right, hleft, hright, hsteps, _ => by
    unfold bisect
    omega
  | steps + 1, left, right, hleft, hright, hsteps, h => by
    unfold bisect
    split
    · rename_i hlt
      have hmiddle := h ((left + right) / 2) (by omega) (by omega)
      simp only []
      split
      · rename_i hholds
        refine bisect_eq steps hleft (hmiddle.1 hholds) (by omega) fun i hi hi' => ?_
        exact h i hi (by omega)
      · rename_i hnot
        have hpast : (left + right) / 2 + 1 ≤ border := not_le.1 fun hle => hnot (hmiddle.2 hle)
        exact bisect_eq steps hpast hright (by omega) fun i hi hi' => h i (by omega) hi'
    · omega

namespace Curve

section Found

variable {α : Type} [Scalar α]

/-- Points up to an argument, of which `last` is the last, and points past it. -/
structure Split (x : α) (before : List (α × α)) (last : α × α) (after : List (α × α)) : Prop where
  upTo : ∀ p ∈ before ++ [last], Scalar.le p.1 x = true ∧ Scalar.lt x p.1 = false
  past : ∀ p ∈ after, Scalar.le p.1 x = false ∧ Scalar.lt x p.1 = true

/-- The value that the last point up to an argument and the first one past it give. -/
def onward (x : α) (last : α × α) : List (α × α) → α
  | [] => last.2
  | q :: _ => between last q x

variable {x : α} {before after : List (α × α)} {last : α × α}

theorem Split.tail {p : α × α} (h : Split x (p :: before) last after) : Split x before last after :=
  ⟨fun q hq => h.upTo q (.tail _ hq), h.past⟩

theorem follow_last (h : Split x before last after) :
    follow x last after = onward x last after := by
  cases after with
  | nil => rfl
  | cons q rest => rw [follow, if_neg (by simp [(h.past q (.head _)).1]), onward]

/-- Points up to an argument are passed until the last one. -/
theorem follow_split (p : α × α) : ∀ {before : List (α × α)}, Split x before last after →
    follow x p (before ++ last :: after) = onward x last after
  | [], h => by
    rw [List.nil_append, follow, if_pos (h.upTo last (.head _)).1]
    exact follow_last h
  | q :: before, h => by
    rw [List.cons_append, follow, if_pos (h.upTo q (.head _)).1]
    exact follow_split q h.tail

omit [Scalar α] in
/-- A test that all points up to the last one pass, or all points past it, is passed there. -/
theorem any_split {f : α × α → Bool} {b c : Bool} (hb : ∀ p ∈ before ++ [last], f p = b)
    (hc : ∀ p ∈ after, f p = c) (i : Nat) : (before ++ last :: after)[i]?.any f = true ↔
      b = true ∧ i ≤ before.length ∨
        c = true ∧ before.length < i ∧ i < (before ++ last :: after).length := by
  have hpoints : before ++ last :: after = (before ++ [last]) ++ after :=
    List.append_cons before last after
  rw [hpoints]
  rcases Nat.lt_or_ge i (before ++ [last]).length with hi | hi
  · rw [List.getElem?_append_left hi, List.getElem?_eq_getElem hi, Option.any_some,
      hb _ (List.getElem_mem hi)]
    simp only [List.length_append, List.length_singleton] at hi
    simp [Nat.not_lt.2 (Nat.le_of_lt_succ hi), Nat.le_of_lt_succ hi]
  · rw [List.getElem?_append_right hi]
    simp only [List.length_append, List.length_singleton] at hi ⊢
    rcases Nat.lt_or_ge (i - (before.length + 1)) after.length with hi' | hi'
    · rw [List.getElem?_eq_getElem hi', Option.any_some, hc _ (List.getElem_mem hi')]
      constructor
      · exact fun h => .inr ⟨h, by omega, by omega⟩
      · rintro (⟨-, h⟩ | ⟨h, -⟩)
        · omega
        · exact h
    · rw [List.getElem?_eq_none hi', Option.any_none]
      simp only [Bool.false_eq_true, false_iff]
      omega

theorem any_lt_split (h : Split x before last after) (i : Nat) :
    (before ++ last :: after)[i]?.any (Scalar.lt x ·.1) = true ↔
      before.length < i ∧ i < (before ++ last :: after).length := by
  simpa using any_split (fun p hp => (h.upTo p hp).2) (fun p hp => (h.past p hp).2) i

theorem any_le_split (h : Split x before last after) (i : Nat) :
    (before ++ last :: after)[i]?.any (Scalar.le ·.1 x) = true ↔ i ≤ before.length := by
  simpa using any_split (fun p hp => (h.upTo p hp).1) (fun p hp => (h.past p hp).1) i

/-- Among many points the last one up to an argument is found. -/
theorem lastUpTo_split (h : Split x before last after)
    (hmany : few < (before ++ last :: after).length) :
    lastUpTo x (before ++ last :: after) = before.length := by
  have hlength : (before ++ last :: after).length = before.length + 1 + after.length := by
    simp only [List.length_append, List.length_cons]
    omega
  -- The border that is sought is the first place past the argument.
  have hborder : ∀ bound, 3 ≤ before.length + 1 → before.length + 1 ≤ bound →
      bound ≤ (before ++ last :: after).length →
        Search.bisect (fun i => !(before ++ last :: after)[i]?.any (Scalar.le ·.1 x))
          (before ++ last :: after).length 3 bound = before.length + 1 := by
    intro bound hleast hle hbound
    refine Search.bisect_eq _ hleast hle (by omega) fun i _ _ => ?_
    rw [Bool.not_eq_true', ← Bool.not_eq_true, any_le_split h]
    omega
  unfold few at hmany
  unfold lastUpTo
  simp only [any_lt_split h, Bool.and_eq_true, decide_eq_true_iff]
  split_ifs
  · omega
  · omega
  · omega
  · rw [hborder 9 (by omega) (by omega) (by omega), Nat.add_sub_cancel]
  · rw [hborder _ (by omega) (by omega) (Nat.le_refl _), Nat.add_sub_cancel]

theorem lt_first {p : α × α} {rest : List (α × α)} (h : Split x before last after)
    (heq : before ++ last :: after = p :: rest) : Scalar.lt x p.1 = false := by
  cases before with
  | nil =>
    obtain ⟨rfl, -⟩ := List.cons.inj heq
    exact (h.upTo last (.head _)).2
  | cons b before =>
    obtain ⟨rfl, -⟩ := List.cons.inj heq
    exact (h.upTo b (.head _)).2

theorem follow_first {p : α × α} {rest : List (α × α)} (h : Split x before last after)
    (heq : before ++ last :: after = p :: rest) : follow x p rest = onward x last after := by
  cases before with
  | nil =>
    obtain ⟨rfl, rfl⟩ := List.cons.inj heq
    exact follow_last h
  | cons b before =>
    obtain ⟨rfl, hrest⟩ := List.cons.inj heq
    exact hrest ▸ follow_split b h.tail

theorem onward_end {Place : Type} [LinearOrder Place] [Scalar.Ordered α Place] {e : α × α}
    (h : Split x before last after) (he : (before ++ last :: after).getLast? = some e)
    (hpast : Scalar.lt e.1 x = true) : onward x last after = e.2 := by
  rw [List.getLast?_append, List.getLast?_cons, Option.some_or] at he
  cases after with
  | nil =>
    obtain rfl : last = e := by simpa using he
    rfl
  | cons q rest =>
    have hmem : e ∈ q :: rest := by
      have hend : (q :: rest).getLast? = some e := by simpa [List.getLast?_cons] using he
      exact List.mem_of_getLast? hend
    have hlt := (Scalar.Ordered.lt_iff x e.1).1 (h.past e hmem).2
    exact absurd ((Scalar.Ordered.lt_iff e.1 x).1 hpast).2.2 hlt.2.2.le.not_gt

/-- The line from the last point up to the argument goes on to the next point. -/
theorem valueOn_split {Place : Type} [LinearOrder Place] [Scalar.Ordered α Place]
    (h : Split x before last after) (hx : Scalar.isNaN x = false) :
    valueOn? x (before ++ last :: after) = some (onward x last after) := by
  match hpoints : before ++ last :: after with
  | [] => exact absurd hpoints (by simp)
  | [p] => exact congrArg some (follow_first h hpoints)
  | p :: q :: rest =>
    have hend : (before ++ last :: after).getLast? = some (rest.getLastD q) := by
      rw [hpoints, List.getLast?_cons_cons, List.getLast?_cons, List.getLastD_eq_getLast?]
    unfold valueOn?
    simp only [hx, Bool.false_eq_true, if_false, lt_first h hpoints]
    split
    · -- The argument is past the end, so the end is the last point up to it.
      rename_i hpast
      rw [onward_end h hend hpast]
    · split
      · rw [follow_first h hpoints]
      · rename_i hmany
        rw [← hpoints] at hmany
        rw [← hpoints, lastUpTo_split h (not_le.1 hmany), List.drop_left]
        cases after <;> rfl

end Found

section Ordered

variable {α Place : Type} [Scalar α] [LinearOrder Place] [Scalar.Ordered α Place]

/-- Sorted points whose coordinates are numbers. -/
structure InOrder (points : List (α × α)) : Prop where
  sorted : points.Pairwise (spot · ≤ spot ·)
  numbers : ∀ p ∈ points, Scalar.isNaN p.1 = false ∧ Scalar.isNaN p.2 = false

/-- `y` is the greatest that the points give for `x`. -/
def Highest (points : List (α × α)) (x y : α) : Prop :=
  (∃ p ∈ points, Scalar.eq p.1 x = true ∧ p.2 = y) ∧
    ∀ p ∈ points, Scalar.eq p.1 x = true → Scalar.le p.2 y = true

/-- `y` is the least that the points give for `x`. -/
def Lowest (points : List (α × α)) (x y : α) : Prop :=
  (∃ p ∈ points, Scalar.eq p.1 x = true ∧ p.2 = y) ∧
    ∀ p ∈ points, Scalar.eq p.1 x = true → Scalar.le y p.2 = true

variable {points before after : List (α × α)} {last p q : α × α} {x y : α}

theorem InOrder.ofGiven (name : String) {points : List (GivenPoint α)}
    (h : ∀ p ∈ points, p.isDefinite = true) : InOrder (Curve.ofGiven name points).points := by
  obtain ⟨hsorted, hperm⟩ := Curve.ofGiven_sorted name h
  refine ⟨hsorted, fun p hp => ?_⟩
  obtain ⟨o, ho, rfl⟩ := List.mem_map.1 (hperm.subset hp)
  exact GivenPoint.isDefinite_iff.1 (h o ho)

/-- Points in one order have their spots in one order. -/
theorem map_spot_eq {points' : List (α × α)} (h : InOrder points) (h' : InOrder points')
    (hperm : points.Perm points') : points.map spot = points'.map spot :=
  (hperm.map spot).eq_of_pairwise (fun _ _ _ _ => le_antisymm)
    (List.pairwise_map.2 h.sorted) (List.pairwise_map.2 h'.sorted)

theorem exists_same_place {points' : List (α × α)} (hspots : points.map spot = points'.map spot)
    (hq : q ∈ points') : ∃ p ∈ points, place p.1 = place q.1 := by
  have hspot : spot q ∈ points.map spot := hspots ▸ List.mem_map_of_mem hq
  obtain ⟨p, hp, heq⟩ := List.mem_map.1 hspot
  exact ⟨p, hp, (spot_eq_iff.1 heq).1⟩

theorem InOrder.suffix (before : List (α × α)) (h : InOrder (before ++ points)) : InOrder points :=
  ⟨(List.pairwise_append.1 h.sorted).2.1, fun q hq => h.numbers q (List.mem_append_right _ hq)⟩

theorem InOrder.place_le (h : InOrder (p :: after)) (hq : q ∈ p :: after) :
    place p.1 ≤ place q.1 := by
  rcases List.mem_cons.1 hq with rfl | hq
  · exact le_rfl
  · exact place_le_of_spot_le ((List.pairwise_cons.1 h.sorted).1 q hq)

theorem upTo_iff (hx : Scalar.isNaN x = false) (hy : Scalar.isNaN y = false) :
    Scalar.le y x = true ∧ Scalar.lt x y = false ↔ place y ≤ place x := by
  simp [← Bool.not_eq_true, Scalar.le_iff_place hy hx, Scalar.lt_iff_place hx hy]

theorem past_iff (hx : Scalar.isNaN x = false) (hy : Scalar.isNaN y = false) :
    Scalar.le y x = false ∧ Scalar.lt x y = true ↔ place x < place y := by
  simp [← Bool.not_eq_true, Scalar.le_iff_place hy hx, Scalar.lt_iff_place hx hy]

/-- All points are past the argument, or it splits them. -/
theorem exists_split (hx : Scalar.isNaN x = false) : ∀ {points : List (α × α)}, InOrder points →
    (∀ p ∈ points, place x < place p.1) ∨
      ∃ before last after, points = before ++ last :: after ∧ Split x before last after
  | [], _ => .inl (by simp)
  | p :: rest, h => by
    have hnumber : ∀ q ∈ p :: rest, Scalar.isNaN q.1 = false := fun q hq => (h.numbers q hq).1
    rcases lt_or_ge (place x) (place p.1) with hlt | hle
    · exact .inl fun q hq => hlt.trans_le (h.place_le hq)
    · have hupTo := (upTo_iff hx (hnumber p (.head _))).2 hle
      rcases exists_split hx (h.suffix [p]) with hpast | ⟨before, last, after, rfl, hsplit⟩
      · refine .inr ⟨[], p, rest, rfl, fun q hq => ?_, fun q hq => ?_⟩
        · exact List.mem_singleton.1 hq ▸ hupTo
        · exact (past_iff hx (hnumber q (.tail _ hq))).2 (hpast q hq)
      · refine .inr ⟨p :: before, last, after, rfl, fun q hq => ?_, hsplit.past⟩
        rcases List.mem_cons.1 hq with rfl | hq
        · exact hupTo
        · exact hsplit.upTo q hq

/-- An argument that all points are past has the y of the first one. -/
theorem valueOn_first (h : InOrder (p :: after)) (hx : Scalar.isNaN x = false)
    (hpast : ∀ q ∈ p :: after, place x < place q.1) : valueOn? x (p :: after) = some p.2 := by
  have hlt : ∀ q ∈ p :: after, Scalar.lt x q.1 = true ∧ Scalar.lt q.1 x = false := by
    intro q hq
    have hnumber := (h.numbers q hq).1
    refine ⟨(Scalar.lt_iff_place hx hnumber).2 (hpast q hq), Bool.eq_false_iff.2 fun h => ?_⟩
    exact absurd ((Scalar.lt_iff_place hnumber hx).1 h) (hpast q hq).not_gt
  cases after with
  | nil => rfl
  | cons q rest =>
    have hend : rest.getLastD q ∈ p :: q :: rest := by
      refine .tail _ (List.mem_of_getLast? ?_)
      rw [List.getLast?_cons, List.getLastD_eq_getLast?]
    simp only [valueOn?, hx, (hlt p (.head _)).1, (hlt _ hend).2, Bool.false_eq_true, if_false,
      if_true]

section Split

variable (hsplit : Split x before last after) (h : InOrder (before ++ last :: after))
  (hx : Scalar.isNaN x = false)

include hsplit h hx

theorem Split.place_last_le : place last.1 ≤ place x :=
  (upTo_iff hx (h.numbers last (by simp)).1).1 (hsplit.upTo last (by simp))

theorem Split.place_lt (hp : p ∈ after) : place x < place p.1 :=
  (past_iff hx (h.numbers p (by simp [hp])).1).1 (hsplit.past p hp)

theorem Split.place_le_last (hp : p ∈ before ++ last :: after) (hpx : place p.1 ≤ place x) :
    place p.1 ≤ place last.1 := by
  rcases List.mem_append.1 hp with hp | hp
  · have hsorted := (List.pairwise_append.1 h.sorted).2.2
    exact place_le_of_spot_le (hsorted p hp last (.head _))
  · rcases List.mem_cons.1 hp with rfl | hp
    · exact le_rfl
    · exact absurd (hsplit.place_lt h hx hp) hpx.not_gt

theorem Split.transfer {before' after' : List (α × α)} {last' : α × α}
    (h' : InOrder (before' ++ last' :: after'))
    (hupTo : (before ++ [last]).map spot = (before' ++ [last']).map spot)
    (hpast : after.map spot = after'.map spot) : Split x before' last' after' := by
  constructor
  · intro q hq
    obtain ⟨p, hp, hpq⟩ := exists_same_place hupTo hq
    have hp' : p ∈ before ++ last :: after := List.append_cons .. ▸ List.mem_append_left _ hp
    have hq' : q ∈ before' ++ last' :: after' := List.append_cons .. ▸ List.mem_append_left _ hq
    rw [upTo_iff hx (h'.numbers q hq').1, ← hpq, ← upTo_iff hx (h.numbers p hp').1]
    exact hsplit.upTo p hp
  · intro q hq
    obtain ⟨p, hp, hpq⟩ := exists_same_place hpast hq
    rw [past_iff hx (h'.numbers q (by simp [hq])).1, ← hpq]
    exact hsplit.place_lt h hx hp

end Split

theorem highest_last (h : InOrder (before ++ last :: after)) (hx : Scalar.eq last.1 x = true)
    (hafter : ∀ p ∈ after, place last.1 < place p.1) :
    Highest (before ++ last :: after) x last.2 := by
  refine ⟨⟨last, by simp, hx, rfl⟩, fun p hp hpx => ?_⟩
  have hsame : place p.1 = place last.1 :=
    ((Scalar.Ordered.eq_iff _ _).1 hpx).2.2.trans ((Scalar.Ordered.eq_iff _ _).1 hx).2.2.symm
  refine (Scalar.le_iff_place (h.numbers p hp).2 (h.numbers last (by simp)).2).2 ?_
  rcases List.mem_append.1 hp with hbefore | hp
  · have hspot := (List.pairwise_append.1 h.sorted).2.2 p hbefore last (.head _)
    exact place_le_of_spot_le_of_eq hspot hsame
  · rcases List.mem_cons.1 hp with rfl | hp
    · exact le_rfl
    · exact absurd hsame (hafter p hp).ne'

theorem lowest_first (before : List (α × α)) (h : InOrder (before ++ q :: after))
    (hx : Scalar.eq q.1 x = true) (hbefore : ∀ p ∈ before, place p.1 < place q.1) :
    Lowest (before ++ q :: after) x q.2 := by
  refine ⟨⟨q, by simp, hx, rfl⟩, fun p hp hpx => ?_⟩
  have hsame : place q.1 = place p.1 :=
    ((Scalar.Ordered.eq_iff _ _).1 hx).2.2.trans ((Scalar.Ordered.eq_iff _ _).1 hpx).2.2.symm
  refine (Scalar.le_iff_place (h.numbers q (by simp)).2 (h.numbers p hp).2).2 ?_
  rcases List.mem_append.1 hp with hp | hp
  · exact absurd hsame (hbefore p hp).ne'
  · rcases List.mem_cons.1 hp with rfl | hafter
    · exact le_rfl
    · have hspot := (List.pairwise_cons.1 (List.pairwise_append.1 h.sorted).2.1).1 p hafter
      exact place_le_of_spot_le_of_eq hspot hsame

section Values

variable (h : InOrder points) (hx : Scalar.isNaN x = false)

include h hx

theorem value_total (hne : points ≠ []) : ∃ y, valueOn? x points = some y := by
  rcases exists_split hx h with hpast | ⟨before, last, after, rfl, hsplit⟩
  · match points with
    | p :: rest => exact ⟨p.2, valueOn_first h hx hpast⟩
  · exact ⟨_, valueOn_split hsplit hx⟩

theorem value_hit (hp : p ∈ points) (hpx : Scalar.eq p.1 x = true) :
    ∃ y, valueOn? x points = some y ∧ Highest points x y := by
  obtain ⟨-, -, hsame⟩ := (Scalar.Ordered.eq_iff _ _).1 hpx
  rcases exists_split hx h with hpast | ⟨before, last, after, rfl, hsplit⟩
  · exact absurd hsame (hpast p hp).ne'
  · have hlast : place last.1 = place x :=
      (hsplit.place_last_le h hx).antisymm (hsame ▸ hsplit.place_le_last h hx hp hsame.le)
    have heq : Scalar.eq last.1 x = true :=
      (Scalar.eq_iff_place (h.numbers last (by simp)).1 hx).2 hlast
    have honward : onward x last after = last.2 := by
      cases after with
      | nil => rfl
      | cons q rest => rw [onward, between, if_pos heq]
    refine ⟨last.2, honward ▸ valueOn_split hsplit hx, highest_last h heq fun q hq => ?_⟩
    exact hlast ▸ hsplit.place_lt h hx hq

theorem value_below (hne : points ≠ []) (hbelow : ∀ p ∈ points, Scalar.lt x p.1 = true) :
    ∃ u y, valueOn? x points = some y ∧ (∀ p ∈ points, Scalar.le u p.1 = true) ∧
      Lowest points u y := by
  match points with
  | p :: rest =>
    have hpast : ∀ q ∈ p :: rest, place x < place q.1 := fun q hq =>
      (Scalar.lt_iff_place hx (h.numbers q hq).1).1 (hbelow q hq)
    have hp := (h.numbers p (.head _)).1
    refine ⟨p.1, p.2, valueOn_first h hx hpast, fun q hq => ?_, ?_⟩
    · exact (Scalar.le_iff_place hp (h.numbers q hq).1).2 (h.place_le hq)
    · exact lowest_first [] h ((Scalar.eq_iff_place hp hp).2 rfl) (by simp)

theorem value_above (hne : points ≠ []) (habove : ∀ p ∈ points, Scalar.lt p.1 x = true) :
    ∃ u y, valueOn? x points = some y ∧ (∀ p ∈ points, Scalar.le p.1 u = true) ∧
      Highest points u y := by
  have hupTo : ∀ q ∈ points, place q.1 < place x := fun q hq =>
    (Scalar.lt_iff_place (h.numbers q hq).1 hx).1 (habove q hq)
  rcases exists_split hx h with hpast | ⟨before, last, after, rfl, hsplit⟩
  · obtain ⟨p, hp⟩ := List.exists_mem_of_ne_nil _ hne
    exact absurd (hpast p hp) (hupTo p hp).not_gt
  · have hlast := (h.numbers last (by simp)).1
    match after with
    | [] =>
      refine ⟨last.1, last.2, valueOn_split hsplit hx, fun q hq => ?_, ?_⟩
      · exact (Scalar.le_iff_place (h.numbers q hq).1 hlast).2
          (hsplit.place_le_last h hx hq (hupTo q hq).le)
      · exact highest_last h ((Scalar.eq_iff_place hlast hlast).2 rfl) (by simp)
    | q :: rest => exact absurd (hsplit.place_lt h hx (.head _)) (hupTo q (by simp)).not_gt

end Values

/-- How a curve runs through points: at each x it has the greatest y, before them all the least y of
the first x, and behind them all the greatest y of the last x. -/
structure Through (c : Curve α) (points : List (α × α)) : Prop where
  total : ∀ x, Scalar.isNaN x = false → ∃ y, c.value? x = some y
  hit : ∀ p ∈ points, ∀ x, Scalar.eq p.1 x = true → ∃ y, c.value? x = some y ∧ Highest points x y
  below : ∀ x, Scalar.isNaN x = false → (∀ p ∈ points, Scalar.lt x p.1 = true) →
    ∃ u y, c.value? x = some y ∧ (∀ p ∈ points, Scalar.le u p.1 = true) ∧ Lowest points u y
  above : ∀ x, Scalar.isNaN x = false → (∀ p ∈ points, Scalar.lt p.1 x = true) →
    ∃ u y, c.value? x = some y ∧ (∀ p ∈ points, Scalar.le p.1 u = true) ∧ Highest points u y

theorem through_perm {c : Curve α} (h : InOrder c.points) (hne : c.points ≠ [])
    (hperm : c.points.Perm points) : c.Through points := by
  have hmem : ∀ p, p ∈ points ↔ p ∈ c.points := fun p => hperm.mem_iff.symm
  constructor
  · exact fun x hx => value_total h hx hne
  · intro p hp x hpx
    have hx := ((Scalar.Ordered.eq_iff _ _).1 hpx).2.1
    simpa only [value?, Highest, hmem] using value_hit h hx ((hmem p).1 hp) hpx
  · intro x hx hbelow
    have hbelow := fun p hp => hbelow p ((hmem p).2 hp)
    simpa only [value?, Lowest, hmem] using value_below h hx hne hbelow
  · intro x hx habove
    have habove := fun p hp => habove p ((hmem p).2 hp)
    simpa only [value?, Highest, hmem] using value_above h hx hne habove

omit [LinearOrder Place] [Scalar.Ordered α Place] in
theorem ofGiven_ne_nil (name : String) {given : List (GivenPoint α)} (hne : given ≠ [])
    (h : ∀ p ∈ given, p.isDefinite = true) : (ofGiven name given).points ≠ [] := by
  intro hnil
  have hperm := GivenPoint.sort_perm h
  rw [List.map_eq_nil_iff.1 hnil, List.nil_perm] at hperm
  exact hne hperm

end Ordered

section Permuted

variable {points points' : List (Float × Float)} {p p' q q' : Float × Float} {x : Float}

/-- Both coordinates are alike. -/
def AlikePoints (p q : Float × Float) : Prop := Alike p.1 q.1 ∧ Alike p.2 q.2

theorem alike_of_spot (hp : p.1.isNaN = false ∧ p.2.isNaN = false)
    (hq : q.1.isNaN = false ∧ q.2.isNaN = false) (h : spot p = spot q) : AlikePoints p q := by
  obtain ⟨hx, hy⟩ := spot_eq_iff.1 h
  exact ⟨alike_of_standing hp.1 hq.1 hx, alike_of_standing hp.2 hq.2 hy⟩

theorem between_alike (hp : AlikePoints p p') (hq : AlikePoints q q')
    (hne : place p.1 ≠ place q.1) : Alike (between p q x) (between p' q' x) := by
  have hgap : q.1 - p.1 = q'.1 - p'.1 := Alike.sub_eq hq.1 hp.1 hne
  have hslope : Alike ((q.2 - p.2) / (q.1 - p.1)) ((q'.2 - p'.2) / (q'.1 - p'.1)) :=
    hgap ▸ (hq.2.sub hp.2).div _
  have hleft := (hslope.mul ((Alike.refl x).sub hp.1)).add hp.2
  have hright := (hslope.mul ((Alike.refl x).sub hq.1)).add hq.2
  have hnan : ∀ {y y' : Float}, Alike y y' → Scalar.isNaN y = Scalar.isNaN y' :=
    fun h => h.isNaN_eq
  unfold between
  simp only [hp.1.eq (.refl x), hnan hleft, hnan hright, hp.2.eq hq.2]
  split_ifs
  · exact hp.2
  · exact hleft
  · exact hp.2
  · exact hright

/-- Points at the same spots give alike values. -/
theorem value_alike (h : InOrder points) (h' : InOrder points') (hne : points ≠ [])
    (hspots : points.map spot = points'.map spot) (hx : x.isNaN = false) :
    ∃ y y', valueOn? x points = some y ∧ valueOn? x points' = some y' ∧ Alike y y' := by
  have halike : ∀ {p p'}, p ∈ points → p' ∈ points' → spot p = spot p' → AlikePoints p p' :=
    fun hp hp' => alike_of_spot (h.numbers _ hp) (h'.numbers _ hp')
  rcases exists_split hx h with hpast | ⟨before, last, after, rfl, hsplit⟩
  · match points with
    | p :: rest =>
      obtain ⟨p', rest', rfl, hp, -⟩ := List.map_eq_cons_iff.1 hspots.symm
      refine ⟨_, _, valueOn_first h hx hpast, valueOn_first h' hx fun q hq => ?_,
        (halike (.head _) (.head _) hp.symm).2⟩
      obtain ⟨o, ho, hplace⟩ := exists_same_place hspots hq
      exact hplace ▸ hpast o ho
  · -- Where one list is split the other is too, and the points on both sides have the same spots.
    rw [List.map_append, List.map_cons] at hspots
    obtain ⟨before', tail', rfl, hbefore, htail⟩ := List.map_eq_append_iff.1 hspots.symm
    obtain ⟨last', after', rfl, hlast, hafter⟩ := List.map_eq_cons_iff.1 htail
    have hsplit' := hsplit.transfer h hx h' (by simp [hbefore, hlast]) hafter.symm
    have hends := halike (by simp) (by simp) hlast.symm
    refine ⟨_, _, valueOn_split hsplit hx, valueOn_split hsplit' hx, ?_⟩
    match after, after' with
    | [], [] => exact hends.2
    | q :: _, q' :: _ =>
      have hnext : AlikePoints q q' :=
        halike (by simp) (by simp) (List.cons.inj hafter).1.symm
      have hgap := (hsplit.place_last_le h hx).trans_lt (hsplit.place_lt h hx (.head _))
      exact between_alike hends hnext hgap.ne

/-- The order in which points are given does not matter. -/
theorem ofGiven_perm (name : String) {given given' : List (GivenPoint Float)}
    (h : ∀ p ∈ given, p.isDefinite = true) (hperm : given.Perm given') :
    List.Forall₂ (fun p q => (p.1 == q.1) = true ∧ (p.2 == q.2) = true)
        (ofGiven name given).points (ofGiven name given').points ∧
      (given ≠ [] → ∀ x : Float, x.isNaN = false → ∃ y y', (ofGiven name given).value? x = some y ∧
        (ofGiven name given').value? x = some y' ∧ Alike y y') := by
  have h' : ∀ p ∈ given', p.isDefinite = true := fun p hp => h p (hperm.mem_iff.2 hp)
  have horder := InOrder.ofGiven name h
  have horder' := InOrder.ofGiven name h'
  have hpoints := (ofGiven_sorted name h).2
  have hspots := map_spot_eq horder horder'
    (hpoints.trans ((hperm.map _).trans (ofGiven_sorted name h').2.symm))
  have hequal : List.Forall₂ (· = ·) ((ofGiven name given).points.map spot)
      ((ofGiven name given').points.map spot) := by
    rw [List.forall₂_eq_eq_eq]
    exact hspots
  rw [List.forall₂_map_left_iff, List.forall₂_map_right_iff, List.forall₂_iff_zip] at hequal
  obtain ⟨hlength, hequal⟩ := hequal
  refine ⟨List.forall₂_iff_zip.2 ⟨hlength, fun {p q} hpq => ?_⟩, fun hne x hx => ?_⟩
  · obtain ⟨hp, hq⟩ := List.of_mem_zip hpq
    obtain ⟨hpx, hpy⟩ := horder.numbers p hp
    obtain ⟨hqx, hqy⟩ := horder'.numbers q hq
    obtain ⟨hx, hy⟩ := spot_eq_iff.1 (hequal hpq)
    exact ⟨(Scalar.eq_iff_place hpx hqx).2 hx, (Scalar.eq_iff_place hpy hqy).2 hy⟩
  · exact value_alike horder horder' (ofGiven_ne_nil name hne h) hspots hx

end Permuted

section Exact

variable {points before after : List (ℚ × ℚ)} {last : ℚ × ℚ} {a b x x' : ℚ}

theorem between_exact (p q : ℚ × ℚ) (x : ℚ) :
    between p q x = (q.2 - p.2) / (q.1 - p.1) * (x - p.1) + p.2 := by
  unfold between
  split
  · -- At the left point the line has its y.
    rename_i heq
    obtain rfl : p.1 = x := of_decide_eq_true heq
    rw [sub_self, mul_zero, zero_add]
  · rfl

theorem value_chord (h : InOrder points) (ha : ∃ p ∈ points, p.1 = a) (hb : ∃ p ∈ points, p.1 = b)
    (hgap : ∀ p ∈ points, p.1 ≤ a ∨ b ≤ p.1) (hax : a < x) (hxb : x < b) :
    ∃ y z, Highest points a y ∧ Lowest points b z ∧
      valueOn? x points = some (y + (z - y) * ((x - a) / (b - a))) := by
  obtain ⟨o, ho, rfl⟩ := ha
  obtain ⟨p, hp, rfl⟩ := hb
  have hx : Scalar.isNaN x = false := rfl
  rcases exists_split hx h with hpast | ⟨before, last, after, rfl, hsplit⟩
  · exact absurd (hpast o ho) hax.not_gt
  · have hlast : last.1 = o.1 := by
      have hle : last.1 ≤ x := hsplit.place_last_le h hx
      have hge : o.1 ≤ last.1 := hsplit.place_le_last h hx ho hax.le
      exact ((hgap last (by simp)).resolve_right (hle.trans_lt hxb).not_ge).antisymm hge
    match after with
    | [] => exact absurd ((upTo_iff hx rfl).1 (hsplit.upTo p hp)) hxb.not_ge
    | q :: rest =>
      have hlt : x < q.1 := hsplit.place_lt h hx (.head _)
      have hhighest := highest_last h (decide_eq_true hlast) fun r hr =>
        (hsplit.place_last_le h hx).trans_lt (hsplit.place_lt h hx hr)
      rw [List.append_cons] at hp h hgap hhighest ⊢
      have hnext : q.1 = p.1 := by
        refine le_antisymm ?_ ((hgap q (by simp)).resolve_left (hax.trans hlt).not_ge)
        rcases List.mem_append.1 hp with hp | hp
        · exact absurd ((upTo_iff hx rfl).1 (hsplit.upTo p hp)) hxb.not_ge
        · exact (h.suffix (before ++ [last])).place_le hp
      refine ⟨last.2, q.2, hhighest, ?_, ?_⟩
      · exact lowest_first _ h (decide_eq_true hnext) fun r hr =>
          ((upTo_iff hx rfl).1 (hsplit.upTo r hr)).trans_lt hlt
      · rw [← List.append_cons, valueOn_split hsplit hx, onward, between_exact, hlast, hnext]
        ring_nf

/-- The points rise or stay level from one to the next. -/
def Rising (points : List (ℚ × ℚ)) : Prop := points.Pairwise (·.2 ≤ ·.2)

section Rises

variable (hrise : Rising (before ++ last :: after)) (h : InOrder (before ++ last :: after))
  (hsplit : Split x before last after)

include hrise h hsplit

/-- The value is between the y of the last point up to the argument and those of the points past
it. -/
theorem onward_bounds : last.2 ≤ onward x last after ∧ ∀ q ∈ after, onward x last after ≤ q.2 := by
  have hrest := List.pairwise_cons.1 (List.pairwise_append.1 hrise).2.1
  match after with
  | [] => exact ⟨le_rfl, fun q hq => absurd hq List.not_mem_nil⟩
  | q :: rest =>
    have hup := hrest.1 q (.head _)
    obtain ⟨hlow, hhigh⟩ : between last q x ∈ Set.Icc last.2 q.2 :=
      DelayState.between_bounded ⟨le_rfl, hup⟩ ⟨hup, le_rfl⟩ (hsplit.place_last_le h rfl)
        (hsplit.place_lt h rfl (.head _))
    refine ⟨hlow, fun r hr => hhigh.trans ?_⟩
    rcases List.mem_cons.1 hr with rfl | hr
    · exact le_rfl
    · exact (List.pairwise_cons.1 hrest.2).1 r hr

theorem onward_mono (hxx : x ≤ x') : onward x last after ≤ onward x' last after := by
  match after with
  | [] => exact le_rfl
  | q :: rest =>
    have hup := (List.pairwise_cons.1 (List.pairwise_append.1 hrise).2.1).1 q (.head _)
    have hgap : last.1 < q.1 :=
      (hsplit.place_last_le h rfl).trans_lt (hsplit.place_lt h rfl (.head _))
    have hslope : 0 ≤ (q.2 - last.2) / (q.1 - last.1) :=
      div_nonneg (sub_nonneg.2 hup) (sub_nonneg.2 hgap.le)
    simp only [onward, between_exact]
    gcongr

end Rises

/-- A curve through rising points rises. -/
theorem value_mono (h : InOrder points) (hrise : Rising points) (hxx : x ≤ x') {y y' : ℚ}
    (hy : valueOn? x points = some y) (hy' : valueOn? x' points = some y') : y ≤ y' := by
  have hnumber : ∀ x : ℚ, Scalar.isNaN x = false := fun _ => rfl
  rcases exists_split (hnumber x) h with hpast | ⟨before, last, after, hpoints, hsplit⟩ <;>
    rcases exists_split (hnumber x') h with hpast' | ⟨before', last', after', hpoints', hsplit'⟩
  · match points with
    | [] => cases hy
    | p :: rest =>
      rw [valueOn_first h rfl hpast] at hy
      rw [valueOn_first h rfl hpast'] at hy'
      exact (Option.some.inj (hy.symm.trans hy')).le
  · match points with
    | p :: rest =>
      rw [valueOn_first h rfl hpast] at hy
      rw [hpoints', valueOn_split hsplit' rfl] at hy'
      have hmem : last' ∈ p :: rest := by simp [hpoints']
      have hup : p.2 ≤ last'.2 := by
        rcases List.mem_cons.1 hmem with rfl | hmem
        · exact le_rfl
        · exact (List.pairwise_cons.1 hrise).1 last' hmem
      rw [hpoints'] at h hrise
      obtain rfl := Option.some.inj hy
      obtain rfl := Option.some.inj hy'
      exact hup.trans (onward_bounds hrise h hsplit').1
  · subst hpoints
    have hle : last.1 ≤ x := hsplit.place_last_le h rfl
    exact absurd (hpast' last (by simp)) (hle.trans hxx).not_gt
  · subst hpoints
    rw [valueOn_split hsplit rfl] at hy
    rw [hpoints', valueOn_split hsplit' rfl] at hy'
    obtain rfl := Option.some.inj hy
    obtain rfl := Option.some.inj hy'
    have h' := hpoints' ▸ h
    have hrise' := hpoints' ▸ hrise
    -- The two places are the same, or one comes before the other.
    rcases List.append_eq_append_iff.1 hpoints' with ⟨c, rfl, hc⟩ | ⟨c, rfl, hc⟩
    · match c with
      | [] =>
        obtain ⟨rfl, rfl⟩ := List.cons.inj hc
        exact onward_mono hrise h hsplit hxx
      | r :: c =>
        obtain ⟨rfl, rfl⟩ := List.cons.inj hc
        exact ((onward_bounds hrise h hsplit).2 last' (by simp)).trans
          (onward_bounds hrise' h' hsplit').1
    · match c with
      | [] =>
        obtain ⟨rfl, rfl⟩ := List.cons.inj hc
        exact onward_mono hrise h hsplit hxx
      | r :: c =>
        obtain ⟨rfl, rfl⟩ := List.cons.inj hc
        have hlt : x' < last.1 := hsplit'.place_lt h' rfl (by simp)
        exact absurd (hsplit.place_last_le h rfl) (hxx.trans_lt hlt).not_ge

/-- Between neighbouring x the curve is the chord from the greatest y of the first to the least y of
the second, so through rising points it rises. -/
structure Straight (c : Curve ℚ) (points : List (ℚ × ℚ)) : Prop where
  chord : ∀ a b x, (∃ p ∈ points, p.1 = a) → (∃ p ∈ points, p.1 = b) →
    (∀ p ∈ points, p.1 ≤ a ∨ b ≤ p.1) → a < x → x < b → ∃ y z, Highest points a y ∧
      Lowest points b z ∧ c.value? x = some (y + (z - y) * ((x - a) / (b - a)))
  rising : Rising c.points → ∃ f : ℚ → ℚ, Monotone f ∧ ∀ x, c.value? x = some (f x)

theorem straight_perm {c : Curve ℚ} (h : InOrder c.points) (hne : c.points ≠ [])
    (hperm : c.points.Perm points) : c.Straight points := by
  have hmem : ∀ p, p ∈ points ↔ p ∈ c.points := fun p => hperm.mem_iff.symm
  constructor
  · intro a b x ha hb hgap hax hxb
    simp only [Highest, Lowest, hmem] at ha hb hgap ⊢
    exact value_chord h ha hb hgap hax hxb
  · intro hrise
    have htotal : ∀ x : ℚ, ∃ y, c.value? x = some y := fun _ => value_total h rfl hne
    choose f hf using htotal
    exact ⟨f, fun x x' hxx => value_mono h hrise hxx (hf x) (hf x'), hf⟩

end Exact

/-- A curve runs through the points that are given, and it does not matter in which order they are.
Over exact numbers it is linear in between. -/
theorem ofGiven_through (name : String) :
    (∀ points : List (GivenPoint Float), points ≠ [] → (∀ p ∈ points, p.isDefinite = true) →
      (ofGiven name points).Through (points.map (·.coordinates)) ∧
        ∀ points' : List (GivenPoint Float), points.Perm points' →
          List.Forall₂ (fun p q => (p.1 == q.1) = true ∧ (p.2 == q.2) = true)
            (ofGiven name points).points (ofGiven name points').points ∧
          ∀ x : Float, x.isNaN = false → ∃ y y', (ofGiven name points).value? x = some y ∧
            (ofGiven name points').value? x = some y' ∧
              ((y == y') = true ∨ y.isNaN = true ∧ y'.isNaN = true)) ∧
      ∀ points : List (GivenPoint ℚ), points ≠ [] →
        (ofGiven name points).Through (points.map (·.coordinates)) ∧
          (ofGiven name points).Straight (points.map (·.coordinates)) := by
  refine ⟨fun points hne h => ⟨?_, fun points' hperm => ?_⟩, fun points hne => ?_⟩
  · exact through_perm (.ofGiven name h) (ofGiven_ne_nil name hne h) (ofGiven_sorted name h).2
  · obtain ⟨htable, hvalue⟩ := ofGiven_perm name h hperm
    refine ⟨htable, fun x hx => ?_⟩
    obtain ⟨y, y', hy, hy', halike⟩ := hvalue hne x hx
    exact ⟨y, y', hy, hy', alike_iff.1 halike⟩
  · have h : ∀ p ∈ points, p.isDefinite = true := fun p _ => GivenPoint.isDefinite_iff.2 ⟨rfl, rfl⟩
    have horder := InOrder.ofGiven name h
    have hperm := (ofGiven_sorted name h).2
    have hne := ofGiven_ne_nil name hne h
    exact ⟨through_perm horder hne hperm, straight_perm horder hne hperm⟩

/-- A slope with a step in it, given from its end. -/
def ledge : List (GivenPoint Float) :=
  [⟨2.0, 5.0, none⟩, ⟨1.0, 3.0, none⟩, ⟨0.0, 0.0, none⟩, ⟨1.0, 1.0, none⟩]

def exactLedge : List (GivenPoint ℚ) :=
  [⟨2, 5, none⟩, ⟨1, 3, none⟩, ⟨0, 0, none⟩, ⟨1, 1, none⟩]

theorem ofGiven_through_ledge :
    (∃ y, (ofGiven "Ledge" ledge).value? 1.0 = some y ∧ Highest (ledge.map (·.coordinates)) 1.0 y) ∧
      (∃ y y', (ofGiven "Ledge" ledge).value? 1.5 = some y ∧
        (ofGiven "Ledge" ledge.reverse).value? 1.5 = some y' ∧
          ((y == y') = true ∨ y.isNaN = true ∧ y'.isNaN = true)) ∧
      ∃ y z, Highest (exactLedge.map (·.coordinates)) 1 y ∧
        Lowest (exactLedge.map (·.coordinates)) 2 z ∧
          (ofGiven "Ledge" exactLedge).value? (3 / 2) =
            some (y + (z - y) * ((3 / 2 - 1) / (2 - 1))) := by
  obtain ⟨hrounded, hexact⟩ := ofGiven_through "Ledge"
  obtain ⟨hthrough, hperm⟩ := hrounded ledge (by decide) (by decide +kernel)
  refine ⟨hthrough.hit (1.0, 3.0) (.tail _ (.head _)) 1.0 (by decide), ?_, ?_⟩
  · exact (hperm ledge.reverse (List.reverse_perm ledge).symm).2 1.5 (by decide)
  · refine (hexact exactLedge (by decide)).2.chord 1 2 (3 / 2) ?_ ?_ ?_ (by norm_num) (by norm_num)
    · exact ⟨(1, 3), .tail _ (.head _), rfl⟩
    · exact ⟨(2, 5), .head _, rfl⟩
    · decide +kernel

end Curve

end SystemDynamics
