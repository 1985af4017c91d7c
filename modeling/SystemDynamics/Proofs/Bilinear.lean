import SystemDynamics.Proofs.Grid

/-!
# Surfaces are bilinear

Over exact numbers an argument is moved between the least and the greatest coordinate of the points
(`Marks.clampTo_eq`) and bracketed by two coordinates between which there is no other
(`Marks.bracket_surrounds`). The value is then blended from the four corners of a cell. It may be
any cell around the moved arguments, for they all give weight to the same coordinates
(`heavy_ends`). The weights are not negative and have the sum 1, so the value stays in the range of
what the points give at the corners that count (`blended_between`).
-/

namespace SystemDynamics

namespace Surface

/-- The coordinates before the place found are those up to the value. -/
theorem lt_rightPlace_iff {v : ℚ} : ∀ {axis : List ℚ}, axis.Pairwise (· < ·) → ∀ {k : Nat}
    (hk : k < axis.length), k < rightPlace v axis ↔ axis[k] ≤ v
  | u :: rest, h, k, hk => by
    obtain ⟨hu, hrest⟩ := List.pairwise_cons.1 h
    have hbefore : (!sortsBefore v u) = true ↔ u ≤ v := by
      simp [sortsBefore, Scalar.lt, Scalar.isNaN]
    unfold rightPlace
    rw [List.takeWhile_cons]
    by_cases huv : u ≤ v
    · rw [if_pos (hbefore.2 huv), List.length_cons]
      cases k with
      | zero => simp [huv]
      | succ k => simpa [rightPlace] using lt_rightPlace_iff hrest (Nat.lt_of_succ_lt_succ hk)
    · rw [if_neg fun h => huv (hbefore.1 h), List.length_nil]
      cases k with
      | zero => simpa using huv
      | succ k =>
        have hk := Nat.lt_of_succ_lt_succ hk
        have hlater : u < rest[k] := hu _ (List.getElem_mem hk)
        simpa using (not_le.1 huv).trans hlater

/-- The argument moved between the least and the greatest coordinate. -/
def clamped (coordinates : List ℚ) (v : ℚ) : ℚ :=
  max (coordinates.min?.getD 0) (min v (coordinates.max?.getD 0))

/-- Two of the coordinates around a value, with no other one between them. -/
structure Surrounds (coordinates : List ℚ) (v a b : ℚ) : Prop where
  first : a ∈ coordinates
  second : b ∈ coordinates
  low : a ≤ v
  high : v ≤ b
  gap : ∀ c ∈ coordinates, c ≤ a ∨ b ≤ c

/-- How far a value lies from one coordinate to another. -/
def share (a b v : ℚ) : ℚ := (v - a) / (b - a)

section Brackets

variable {axis coordinates : List ℚ} {v a b : ℚ}

theorem Marks.getElem_le (h : Marks axis coordinates) {i j : Nat} (hij : i ≤ j)
    (hj : j < axis.length) : axis[i] ≤ axis[j] := by
  rcases hij.eq_or_lt with rfl | hlt
  · exact le_rfl
  · exact (List.pairwise_iff_getElem.1 h.ascending i j (hlt.trans hj) hj hlt).le

theorem Marks.exists_getElem (h : Marks axis coordinates) (hv : v ∈ coordinates) :
    ∃ (i : Nat) (hi : i < axis.length), axis[i] = v := by
  obtain ⟨w, hw, rfl⟩ := h.complete v hv
  exact List.mem_iff_getElem.1 hw

theorem Marks.length_pos (h : Marks axis coordinates) (hne : coordinates ≠ []) :
    0 < axis.length := by
  obtain ⟨v, hv⟩ := List.exists_mem_of_ne_nil _ hne
  obtain ⟨i, hi, -⟩ := h.exists_getElem hv
  exact Nat.zero_lt_of_lt hi

theorem Marks.min?_eq (h : Marks axis coordinates) (hpos : 0 < axis.length) :
    coordinates.min? = some axis[0] := by
  refine List.min?_eq_some_iff.2 ⟨h.minimal (List.getElem_mem hpos), fun w hw => ?_⟩
  obtain ⟨i, hi, rfl⟩ := h.exists_getElem hw
  exact h.getElem_le (Nat.zero_le i) hi

theorem Marks.max?_eq (h : Marks axis coordinates) (hpos : 0 < axis.length) :
    coordinates.max? = some axis[axis.length - 1] := by
  refine List.max?_eq_some_iff.2 ⟨h.minimal (List.getElem_mem _), fun w hw => ?_⟩
  obtain ⟨i, hi, rfl⟩ := h.exists_getElem hw
  exact h.getElem_le (by omega) _

theorem Marks.clamped_mem (h : Marks axis coordinates) (hpos : 0 < axis.length) (v : ℚ) :
    clamped coordinates v ∈ Set.Icc axis[0] axis[axis.length - 1] := by
  have hends := h.getElem_le (Nat.zero_le _) (Nat.sub_one_lt_of_lt hpos)
  rw [clamped, h.min?_eq hpos, h.max?_eq hpos]
  exact ⟨le_max_left _ _, max_le hends (min_le_right _ _)⟩

theorem Marks.clamped_eq_self (h : Marks axis coordinates) (hpos : 0 < axis.length)
    (hv : v ∈ Set.Icc axis[0] axis[axis.length - 1]) : clamped coordinates v = v := by
  rw [clamped, h.min?_eq hpos, h.max?_eq hpos, Option.getD_some, Option.getD_some,
    min_eq_left hv.2, max_eq_right hv.1]

theorem Marks.clamped_of_mem (h : Marks axis coordinates) (hpos : 0 < axis.length)
    (hv : v ∈ coordinates) : clamped coordinates v = v := by
  obtain ⟨i, hi, rfl⟩ := h.exists_getElem hv
  exact h.clamped_eq_self hpos ⟨h.getElem_le (Nat.zero_le i) hi, h.getElem_le (by omega) _⟩

theorem Marks.clamped_flat (h : Marks axis coordinates) (hpos : 0 < axis.length)
    (hflat : ∀ v ∈ coordinates, ∀ w ∈ coordinates, v = w) (v w : ℚ) :
    clamped coordinates v = clamped coordinates w := by
  obtain ⟨hlow, hhigh⟩ := h.clamped_mem hpos v
  obtain ⟨hlow', hhigh'⟩ := h.clamped_mem hpos w
  have hends : axis[axis.length - 1] = axis[0] :=
    hflat _ (h.minimal (List.getElem_mem _)) _ (h.minimal (List.getElem_mem _))
  rw [hends] at hhigh hhigh'
  exact (hhigh.antisymm hlow).trans (hlow'.antisymm hhigh')

theorem Marks.clampTo_eq (h : Marks axis coordinates) (hpos : 0 < axis.length) (d v : ℚ) :
    clampTo (axis.headD d) (axis.getLastD d) v = clamped coordinates v := by
  have hends := h.getElem_le (Nat.zero_le _) (Nat.sub_one_lt_of_lt hpos)
  rw [headD_eq_getElem hpos, getLastD_eq_getElem hpos, clamped, h.min?_eq hpos, h.max?_eq hpos]
  simp only [clampTo, Scalar.least, Scalar.greatest, Scalar.lt, decide_eq_true_iff,
    Option.getD_some]
  rw [max_def, min_def]
  split_ifs <;> linarith

theorem Marks.bracket_congr (h : Marks axis coordinates) (hpos : 0 < axis.length) {w : ℚ}
    (hvw : clamped coordinates v = clamped coordinates w) : bracket axis v = bracket axis w := by
  unfold bracket
  simp only [h.clampTo_eq hpos, hvw]

/-- The search brackets a value on an axis of several coordinates. -/
theorem Marks.surrounds_of_search (h : Marks axis coordinates) (hlong : 2 ≤ axis.length)
    (hv : v ∈ Set.Icc axis[0] axis[axis.length - 1]) {k : Nat}
    (hk : k = min (rightPlace v axis - 1) (axis.length - 2)) (hnext : k + 1 < axis.length) :
    Surrounds coordinates v axis[k] axis[k + 1] := by
  -- Coordinates are up to the value as long as their places are before the one that is found. At
  -- the end of the axis that is its length, and the last two coordinates are taken.
  have hplace : ∀ {i : Nat} (hi : i < axis.length), i < rightPlace v axis ↔ axis[i] ≤ v :=
    lt_rightPlace_iff h.ascending
  have hfirst : 0 < rightPlace v axis := (hplace (by omega)).2 hv.1
  refine ⟨h.minimal (List.getElem_mem _), h.minimal (List.getElem_mem _), ?_, ?_, fun c hc => ?_⟩
  · exact (hplace (by omega)).1 (by omega)
  · rcases Nat.lt_or_ge (k + 1) (rightPlace v axis) with hlt | hge
    · have hlast : axis[axis.length - 1] ≤ axis[k + 1] := h.getElem_le (by omega) (by omega)
      exact hv.2.trans hlast
    · exact (not_le.1 fun hle => hge.not_gt ((hplace (by omega)).2 hle)).le
  · obtain ⟨i, hi, rfl⟩ := h.exists_getElem hc
    rcases Nat.lt_or_ge k i with hlt | hge
    · exact .inr (h.getElem_le hlt hi)
    · exact .inl (h.getElem_le hge (by omega))

theorem Marks.bracket_surrounds (h : Marks axis coordinates) (hpos : 0 < axis.length) (v : ℚ) :
    ∃ a b, axis[(bracket axis v).lower]? = some a ∧ axis[(bracket axis v).upper]? = some b ∧
      (bracket axis v).share = share a b (clamped coordinates v) ∧
        Surrounds coordinates (clamped coordinates v) a b := by
  have hmem := h.clamped_mem hpos v
  unfold bracket
  simp only [h.clampTo_eq hpos]
  generalize clamped coordinates v = u at hmem ⊢
  split
  · rename_i hshort
    have hends : axis[0] = axis[axis.length - 1] := by
      rw [Bool.or_eq_true, decide_eq_true_iff] at hshort
      rcases hshort with hone | heq
      · simp [hone]
      · rw [headD_eq_getElem hpos, getLastD_eq_getElem hpos] at heq
        exact (of_decide_eq_true heq).symm
    have hself : share axis[0] axis[0] u = 0 := by rw [share, sub_self, div_zero]
    refine ⟨_, _, List.getElem?_eq_getElem hpos, List.getElem?_eq_getElem hpos, hself.symm, ?_⟩
    have hfirst := h.minimal (List.getElem_mem hpos)
    exact ⟨hfirst, hfirst, hmem.1, hends ▸ hmem.2, fun c _ => le_total c _⟩
  · rename_i hlong
    have hlength : 2 ≤ axis.length := by
      have : axis.length ≠ 1 := fun h => hlong (by simp [h])
      omega
    have hsurrounds := h.surrounds_of_search hlength hmem rfl (by omega)
    refine ⟨_, _, List.getElem?_eq_getElem _, List.getElem?_eq_getElem _, ?_, hsurrounds⟩
    rw [share, List.getD_eq_getElem, List.getD_eq_getElem]

end Brackets

section Cells

variable {coordinates : List ℚ} {a b a' b' v : ℚ}

theorem surrounds_self (hv : v ∈ coordinates) : Surrounds coordinates v v v :=
  ⟨hv, hv, le_rfl, le_rfl, fun c _ => le_total c v⟩

theorem Surrounds.share_mem (h : Surrounds coordinates v a b) : share a b v ∈ Set.Icc (0 : ℚ) 1 :=
  ⟨div_nonneg (sub_nonneg.2 h.low) (sub_nonneg.2 (h.low.trans h.high)),
    div_le_one_of_le₀ (sub_le_sub_right h.high a) (sub_nonneg.2 (h.low.trans h.high))⟩

/-- Two coordinates and the weights that they have for a value. -/
def ends (a b v : ℚ) : List (ℚ × ℚ) := [(a, 1 - share a b v), (b, share a b v)]

/-- What has a weight. -/
def heavy (ends : List (ℚ × ℚ)) : List (ℚ × ℚ) := ends.filter (·.2 ≠ 0)

theorem heavy_ends_self (h : Surrounds coordinates v a b) (hv : v ∈ coordinates) :
    heavy (ends a b v) = [(v, 1)] := by
  by_cases hav : a = v
  · subst hav
    simp [heavy, ends, share]
  · -- No coordinate is strictly between the two, so this one is the second if not the first.
    have hbv : b = v := (h.gap v hv).elim (fun hle => absurd (h.low.antisymm hle) hav)
      fun hle => hle.antisymm h.high
    subst hbv
    have hone : share a b b = 1 := div_self (sub_ne_zero.2 (Ne.symm hav))
    simp [heavy, ends, hone]

/-- All coordinates around a value give weight to the same. -/
theorem heavy_ends (h : Surrounds coordinates v a b) (h' : Surrounds coordinates v a' b') :
    heavy (ends a b v) = heavy (ends a' b' v) := by
  by_cases hv : v ∈ coordinates
  · rw [heavy_ends_self h hv, heavy_ends_self h' hv]
  · -- Strictly between coordinates there is only one way to be so.
    have hstrict : ∀ {a b a' b' : ℚ}, Surrounds coordinates v a b → Surrounds coordinates v a' b' →
        a' ≤ a ∧ b ≤ b' := by
      intro a b a' b' h h'
      have hlt : a' < b := lt_of_le_of_ne (h'.low.trans h.high) fun heq =>
        hv (h'.low.antisymm (heq ▸ h.high) ▸ h'.first)
      have hlt' : a < b' := lt_of_le_of_ne (h.low.trans h'.high) fun heq =>
        hv (h.low.antisymm (heq ▸ h'.high) ▸ h.first)
      exact ⟨(h.gap a' h'.first).resolve_right hlt.not_ge,
        (h.gap b' h'.second).resolve_left hlt'.not_ge⟩
    obtain ⟨ha, hb⟩ := hstrict h h'
    obtain ⟨ha', hb'⟩ := hstrict h' h
    rw [ha'.antisymm ha, hb.antisymm hb']

/-- A corner of a cell and its weight. -/
structure Vertex where
  x : ℚ
  y : ℚ
  weight : ℚ

/-- The corners of the cell from `a` to `b` and from `c` to `d`, weighted for a place in it. -/
def cell (a b c d u v : ℚ) : List Vertex :=
  let s := share a b u
  let t := share c d v
  [⟨a, c, (1 - s) * (1 - t)⟩, ⟨b, c, s * (1 - t)⟩, ⟨a, d, (1 - s) * t⟩, ⟨b, d, s * t⟩]

theorem cell_weights {xs ys : List ℚ} {c d u : ℚ} (hx : Surrounds xs u a b)
    (hy : Surrounds ys v c d) :
    (∀ k ∈ cell a b c d u v, 0 ≤ k.weight) ∧ ((cell a b c d u v).map (·.weight)).sum = 1 := by
  obtain ⟨hs, hs'⟩ := hx.share_mem
  obtain ⟨ht, ht'⟩ := hy.share_mem
  have hs'' := sub_nonneg.2 hs'
  have ht'' := sub_nonneg.2 ht'
  constructor
  · simp only [cell, List.forall_mem_cons, List.not_mem_nil, false_implies, implies_true, and_true]
    refine ⟨?_, ?_, ?_, ?_⟩ <;> positivity
  · simp only [cell, List.map_cons, List.map_nil, List.sum_cons, List.sum_nil]
    ring

/-- The products of weighted coordinates. -/
def product (ps qs : List (ℚ × ℚ)) : List Vertex :=
  qs.flatMap fun q => ps.map fun p => ⟨p.1, q.1, p.2 * q.2⟩

theorem cell_eq_product (a b c d u v : ℚ) : cell a b c d u v = product (ends a b u) (ends c d v) :=
  rfl

theorem filter_product (ps : List (ℚ × ℚ)) : ∀ qs : List (ℚ × ℚ),
    (product ps qs).filter (·.weight ≠ 0) = product (heavy ps) (heavy qs)
  | [] => rfl
  | q :: qs => by
    have hrest := filter_product ps qs
    unfold product heavy at hrest ⊢
    rw [List.flatMap_cons, List.filter_append, hrest, List.filter_map, List.filter_cons]
    by_cases hq : q.2 = 0
    · simp [hq, Function.comp_def]
    · simp [hq, Function.comp_def]

end Cells

section Blended

variable {points : List (ℚ × ℚ × ℚ)}

/-- The weighted values that points give at corners, added to a total. -/
def blended (points : List (ℚ × ℚ × ℚ)) (total : ℚ) : List Vertex → Except (Failure ℚ) ℚ
  | [] => .ok total
  | k :: rest =>
    if k.weight = 0 then blended points total rest
    else
      match lastAt points k.x k.y with
      | some z => blended points (total + k.weight * z) rest
      | none => .error (.missing k.x k.y)

theorem blended_filter : ∀ (ks : List Vertex) (total : ℚ),
    blended points total (ks.filter (·.weight ≠ 0)) = blended points total ks
  | [], _ => rfl
  | k :: ks, total => by
    have hrest := blended_filter ks
    rw [List.filter_cons]
    split
    · rename_i hk
      have hk : k.weight ≠ 0 := of_decide_eq_true hk
      simp only [blended, if_neg hk, hrest]
    · rename_i hk
      have hk : k.weight = 0 := by simpa using hk
      simp only [blended, if_pos hk, hrest]

/-- A blend fails at a corner that counts and has no value. -/
theorem blended_error_iff : ∀ (ks : List Vertex) (total : ℚ),
    (∃ e, blended points total ks = .error e) ↔
      ∃ k ∈ ks, k.weight ≠ 0 ∧ lastAt points k.x k.y = none
  | [], total => by simp [blended]
  | k :: ks, total => by
    have hrest := blended_error_iff ks
    unfold blended
    by_cases hk : k.weight = 0
    · simp [hk, hrest]
    · cases hz : lastAt points k.x k.y with
      | none => simp [hk, hz]
      | some z => simp [hk, hz, hrest]

theorem blended_ok : ∀ (ks : List Vertex) {total z : ℚ}, blended points total ks = .ok z →
    z = total + (ks.map fun k => k.weight * (lastAt points k.x k.y).getD 0).sum
  | [], total, z, h => by simpa [blended] using (Except.ok.inj h).symm
  | k :: ks, total, z, h => by
    unfold blended at h
    rw [List.map_cons, List.sum_cons]
    by_cases hk : k.weight = 0
    · rw [if_pos hk] at h
      rw [blended_ok ks h, hk, zero_mul, zero_add]
    · rw [if_neg hk] at h
      split at h
      · rename_i hz
        rw [blended_ok ks h, hz, Option.getD_some, add_assoc]
      · cases h

theorem blended_between {low high : ℚ} : ∀ (ks : List Vertex) {weights total z : ℚ},
    (∀ k ∈ ks, 0 ≤ k.weight) →
    (∀ k ∈ ks, k.weight ≠ 0 → ∀ z, lastAt points k.x k.y = some z → z ∈ Set.Icc low high) →
    total ∈ Set.Icc (low * weights) (high * weights) → blended points total ks = .ok z →
      z ∈ Set.Icc (low * (weights + (ks.map (·.weight)).sum))
        (high * (weights + (ks.map (·.weight)).sum))
  | [], weights, total, z, _, _, htotal, h => by
    obtain rfl := Except.ok.inj h
    simpa using htotal
  | k :: ks, weights, total, z, hweight, hvalue, htotal, h => by
    have hweights := fun l hl => hweight l (.tail k hl)
    have hvalues := fun l hl => hvalue l (.tail k hl)
    unfold blended at h
    rw [List.map_cons, List.sum_cons, ← add_assoc]
    by_cases hk : k.weight = 0
    · rw [if_pos hk] at h
      rw [hk, add_zero]
      exact blended_between ks hweights hvalues htotal h
    · rw [if_neg hk] at h
      split at h
      · -- The bounds of the total grow by the weight, and the weights have the sum 1 in the end.
        rename_i w hw
        obtain ⟨hlow, hhigh⟩ := hvalue k (.head _) hk w hw
        have hpositive := hweight k (.head _)
        refine blended_between ks hweights hvalues ⟨?_, ?_⟩ h
        · rw [mul_add]
          exact add_le_add htotal.1 (by rw [mul_comm]; gcongr)
        · rw [mul_add]
          exact add_le_add htotal.2 (by rw [mul_comm high]; gcongr)
      · cases h

end Blended

section Values

variable {points : List (ℚ × ℚ × ℚ)} {a b c d u v : ℚ}

/-- All cells around a place give it one value. -/
theorem blended_cell {xs ys : List ℚ} {a' b' c' d' : ℚ} (hx : Surrounds xs u a b)
    (hx' : Surrounds xs u a' b') (hy : Surrounds ys v c d) (hy' : Surrounds ys v c' d')
    (total : ℚ) :
    blended points total (cell a b c d u v) = blended points total (cell a' b' c' d' u v) := by
  rw [← blended_filter (cell a b c d u v), ← blended_filter (cell a' b' c' d' u v),
    cell_eq_product, cell_eq_product, filter_product, filter_product, heavy_ends hx hx',
    heavy_ends hy hy']

theorem cell?_eq (name : String) (points : List (ℚ × ℚ × ℚ)) {i j : Nat}
    (ha : (ofPoints name points).xs[i]? = some a) (hc : (ofPoints name points).ys[j]? = some c) :
    (ofPoints name points).cell? i j = lastAt points a c := by
  have hnumber : ∀ z : ℚ, Scalar.isNaN z = false := fun _ => rfl
  have hgrid : (ofPoints name points).grid = _ :=
    ofPoints_grid name (fun p _ => hnumber p.1) fun p _ => hnumber p.2.1
  rw [cell?, hgrid, List.getElem?_map, ha, Option.map_some, Option.getD_some, List.getElem?_map, hc,
    Option.map_some, Option.getD_some]
  cases lastAt points a c <;> rfl

theorem blend_eq (points : List (ℚ × ℚ × ℚ)) (s : Surface ℚ) : ∀ (cs : List (Corner ℚ)) (total : ℚ),
    (∀ k ∈ cs, s.cell? k.i k.j = lastAt points (s.xs.getD k.i 0) (s.ys.getD k.j 0)) →
      blend s total cs = blended points total (cs.map fun k =>
        ⟨s.xs.getD k.i 0, s.ys.getD k.j 0, k.weight⟩)
  | [], _, _ => rfl
  | k :: cs, total, h => by
    have hrest := fun total => blend_eq points s cs total fun l hl => h l (.tail _ hl)
    have hweight : Scalar.eq k.weight (Scalar.ofNat 0) = true ↔ k.weight = 0 := by
      simp [Scalar.eq, Scalar.ofNat]
    unfold blend
    rw [List.map_cons, blended, h k (.head _)]
    simp only [hweight, hrest]
    split
    · rfl
    · split <;> simp_all [Scalar.ofNat]

/-- The last z given at a point. -/
theorem exists_lastAt {p : ℚ × ℚ × ℚ} (hp : p ∈ points) :
    ∃ z, lastAt points p.1 p.2.1 = some z := by
  have hfound : (points.reverse.find? fun q =>
      Scalar.eq q.1 p.1 && Scalar.eq q.2.1 p.2.1).isSome := by
    rw [List.find?_isSome]
    exact ⟨p, List.mem_reverse.2 hp, by simp [Scalar.eq]⟩
  obtain ⟨q, hq⟩ := Option.isSome_iff_exists.1 hfound
  exact ⟨q.2.2, by rw [lastAt, hq, Option.map_some]⟩

/-- An argument moved onto the axis of its coordinates. -/
def onX (points : List (ℚ × ℚ × ℚ)) (x : ℚ) : ℚ := clamped (points.map (·.1)) x

def onY (points : List (ℚ × ℚ × ℚ)) (y : ℚ) : ℚ := clamped (points.map (·.2.1)) y

/-- The corners of a cell around the arguments, moved onto the axes. -/
def Around (points : List (ℚ × ℚ × ℚ)) (x y : ℚ) (ks : List Vertex) : Prop :=
  ∃ a b c d, Surrounds (points.map (·.1)) (onX points x) a b ∧
    Surrounds (points.map (·.2.1)) (onY points y) c d ∧
      ks = cell a b c d (onX points x) (onY points y)

section Surfaces

variable (name : String) (hne : points ≠ [])

include hne

theorem marks_points : Marks (ofPoints name points).xs (points.map (·.1)) ∧
    Marks (ofPoints name points).ys (points.map (·.2.1)) ∧
      0 < (ofPoints name points).xs.length ∧ 0 < (ofPoints name points).ys.length := by
  have hx : Marks (ofPoints name points).xs (points.map (·.1)) := marks_xs name fun _ _ => rfl
  have hy : Marks (ofPoints name points).ys (points.map (·.2.1)) := marks_ys name fun _ _ => rfl
  exact ⟨hx, hy, hx.length_pos (by simpa), hy.length_pos (by simpa)⟩

theorem value_unfold (x y : ℚ) : (ofPoints name points).value x y =
    blend (ofPoints name points) 0 (corners (bracket (ofPoints name points).xs x)
      (bracket (ofPoints name points).ys y)) := by
  have hsome : (ofPoints name points).points.isEmpty = false := by
    simpa [ofPoints] using hne
  rw [value, hsome]
  simp [Scalar.ofNat]

/-- The value is blended from the corners of the cell that the brackets give. -/
theorem value_bracketed (x y : ℚ) : ∃ ks, Around points x y ks ∧
    (ofPoints name points).value x y = blended points 0 ks := by
  obtain ⟨hxs, hys, hposx, hposy⟩ := marks_points name hne
  obtain ⟨a, b, ha, hb, hs, hx⟩ := hxs.bracket_surrounds hposx x
  obtain ⟨c, d, hc, hd, ht, hy⟩ := hys.bracket_surrounds hposy y
  refine ⟨_, ⟨a, b, c, d, hx, hy, rfl⟩, ?_⟩
  rw [value_unfold name hne, blend_eq points]
  · simp [corners, cell, onX, onY, ha, hb, hc, hd, hs, ht, Scalar.ofNat]
  · simp [corners, ha, hb, hc, hd, cell?_eq name points ha hc, cell?_eq name points ha hd,
      cell?_eq name points hb hc, cell?_eq name points hb hd]

/-- The value may be blended from the corners of any cell around the arguments. -/
theorem value_eq {x y : ℚ} {ks : List Vertex} (h : Around points x y ks) :
    (ofPoints name points).value x y = blended points 0 ks := by
  obtain ⟨a, b, c, d, hx, hy, rfl⟩ := h
  obtain ⟨-, ⟨a', b', c', d', hx', hy', rfl⟩, hvalue⟩ := value_bracketed name hne x y
  rw [hvalue, blended_cell hx hx' hy hy']

theorem value_congr {x x' y y' : ℚ} (hx : onX points x = onX points x')
    (hy : onY points y = onY points y') :
    (ofPoints name points).value x y = (ofPoints name points).value x' y' := by
  obtain ⟨hxs, hys, hposx, hposy⟩ := marks_points name hne
  rw [value_unfold name hne, value_unfold name hne, hxs.bracket_congr hposx hx,
    hys.bracket_congr hposy hy]

end Surfaces

end Values

/-- How a surface interpolates between points: the value is missing exactly if a corner that counts
is not given, else it is the weighted sum of the corners and in the range of those that count; it is
the last z at each point, and of the arguments only where they are moved to counts. -/
structure Bilinear (s : Surface ℚ) (points : List (ℚ × ℚ × ℚ)) : Prop where
  around : ∀ x y, ∃ ks, Around points x y ks
  missing : ∀ x y ks, Around points x y ks →
    ((∃ e, s.value x y = .error e) ↔ ∃ k ∈ ks, k.weight ≠ 0 ∧ lastAt points k.x k.y = none)
  blend : ∀ x y ks, Around points x y ks → ∀ z, s.value x y = .ok z →
    z = (ks.map fun k => k.weight * (lastAt points k.x k.y).getD 0).sum
  range : ∀ x y ks, Around points x y ks → ∀ low high,
    (∀ k ∈ ks, k.weight ≠ 0 → ∀ z, lastAt points k.x k.y = some z → z ∈ Set.Icc low high) →
      ∀ z, s.value x y = .ok z → z ∈ Set.Icc low high
  node : ∀ p ∈ points, ∃ z, lastAt points p.1 p.2.1 = some z ∧ s.value p.1 p.2.1 = .ok z
  moved : ∀ x y, s.value (onX points x) y = s.value x y ∧ s.value x (onY points y) = s.value x y
  flatX : (∀ p ∈ points, ∀ q ∈ points, p.1 = q.1) → ∀ x x' y, s.value x y = s.value x' y
  flatY : (∀ p ∈ points, ∀ q ∈ points, p.2.1 = q.2.1) → ∀ x y y', s.value x y = s.value x y'

theorem ofPoints_bilinear (name : String) {points : List (ℚ × ℚ × ℚ)} (hne : points ≠ []) :
    (ofPoints name points).Bilinear points := by
  obtain ⟨hxs, hys, hposx, hposy⟩ := marks_points name hne
  constructor
  case around =>
    intro x y
    obtain ⟨ks, hks, -⟩ := value_bracketed name hne x y
    exact ⟨ks, hks⟩
  case missing =>
    intro x y ks hks
    rw [value_eq name hne hks]
    exact blended_error_iff ks 0
  case blend =>
    intro x y ks hks z hz
    rw [value_eq name hne hks] at hz
    rw [blended_ok ks hz, zero_add]
  case range =>
    intro x y ks hks low high hrange z hz
    rw [value_eq name hne hks] at hz
    obtain ⟨a, b, c, d, hx, hy, rfl⟩ := hks
    obtain ⟨hweights, hsum⟩ := cell_weights hx hy
    have hzero : (0 : ℚ) ∈ Set.Icc (low * 0) (high * 0) := by simp
    simpa [hsum] using blended_between _ hweights hrange hzero hz
  case node =>
    intro p hp
    obtain ⟨z, hz⟩ := exists_lastAt hp
    have hx : p.1 ∈ points.map (·.1) := List.mem_map_of_mem hp
    have hy : p.2.1 ∈ points.map (·.2.1) := List.mem_map_of_mem hp
    -- The point itself is a cell around it, without extent.
    have hcell : Around points p.1 p.2.1 (cell p.1 p.1 p.2.1 p.2.1 p.1 p.2.1) := by
      refine ⟨p.1, p.1, p.2.1, p.2.1, ?_⟩
      rw [onX, onY, hxs.clamped_of_mem hposx hx, hys.clamped_of_mem hposy hy]
      exact ⟨surrounds_self hx, surrounds_self hy, rfl⟩
    refine ⟨z, hz, (value_eq name hne hcell).trans ?_⟩
    simp [cell, share, blended, hz]
  case moved =>
    intro x y
    have hx : onX points (onX points x) = onX points x :=
      hxs.clamped_eq_self hposx (hxs.clamped_mem hposx x)
    have hy : onY points (onY points y) = onY points y :=
      hys.clamped_eq_self hposy (hys.clamped_mem hposy y)
    exact ⟨value_congr name hne hx rfl, value_congr name hne rfl hy⟩
  case flatX =>
    intro hflat x x' y
    refine value_congr name hne (hxs.clamped_flat hposx ?_ x x') rfl
    exact List.forall_mem_map.2 fun p hp => List.forall_mem_map.2 (hflat p hp)
  case flatY =>
    intro hflat x y y'
    refine value_congr name hne rfl (hys.clamped_flat hposy ?_ y y')
    exact List.forall_mem_map.2 fun p hp => List.forall_mem_map.2 (hflat p hp)

/-- A surface with a corner that is given twice and one that is not given. -/
def dune : List (ℚ × ℚ × ℚ) := [(0, 0, 1), (2, 0, 3), (0, 1, 4), (0, 0, 5)]

theorem ofPoints_bilinear_dune :
    (ofPoints "Dune" dune).value 0 0 = .ok 5 ∧
      (ofPoints "Dune" dune).value (onX dune (-7)) 0 = (ofPoints "Dune" dune).value (-7) 0 ∧
      ∃ e, (ofPoints "Dune" dune).value 1 (1 / 2) = .error e := by
  have h : (ofPoints "Dune" dune).Bilinear dune := ofPoints_bilinear "Dune" (by decide)
  refine ⟨?_, (h.moved (-7) 0).1, ?_⟩
  · obtain ⟨z, hz, hvalue⟩ := h.node (0, 0, 1) (.head _)
    have hlast : lastAt dune 0 0 = some 5 := by decide +kernel
    obtain rfl : (5 : ℚ) = z := Option.some.inj (hlast.symm.trans hz)
    exact hvalue
  · have hx : Surrounds (dune.map (·.1)) (onX dune 1) 0 2 := by
      constructor <;> decide +kernel
    have hy : Surrounds (dune.map (·.2.1)) (onY dune (1 / 2)) 0 1 := by
      constructor <;> decide +kernel
    refine (h.missing 1 (1 / 2) _ ⟨0, 2, 0, 1, hx, hy, rfl⟩).2 ?_
    decide +kernel

end Surface

end SystemDynamics
