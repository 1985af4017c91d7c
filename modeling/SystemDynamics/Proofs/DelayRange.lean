import SystemDynamics.Delay.Arena
import Mathlib.Data.NNRat.Defs
import Mathlib.Algebra.Order.Field.Basic
import Mathlib.Order.Interval.Set.Defs
import Mathlib.Tactic.Linarith

/-!
# Delays stay in the range of their inputs

Over exact numbers a delay puts out nothing below the least or above the greatest input that it has
been given so far, however its parameter and the time change between calls
(`Kernel.outputs_in_range`). A state keeps samples of inputs and, when smoothing, an earlier
output, so both stay in every interval that has all inputs (`DelayState.Bounded`). A call puts out
its input, a number between two samples, a mean of samples, or a number between the input and the
output before it. The last needs a step that is not longer than the time constant. The weights of
the mean do not matter as long as none is negative.
-/

namespace SystemDynamics

/-- Exact numbers. Nothing is rounded, and there is nothing that is no number. -/
instance : Scalar ℚ where
  ofNat := Nat.cast
  lt x y := decide (x < y)
  le x y := decide (x ≤ y)
  eq x y := decide (x = y)
  isNaN _ := false
  isFinite _ := true
  settle := id

namespace DelayState

section Kept

variable {α : Type} [Scalar α]

/-- Only samples at the front are dropped. -/
theorem dropBefore_sublist (time : α) (samples : List (α × α)) :
    (dropBefore time samples).Sublist samples :=
  (List.dropWhile_suffix _).sublist

theorem dropUpTo_sublist (time : α) :
    ∀ samples : List (α × α), (dropUpTo time samples).Sublist samples
  | [] | [_] => .refl _
  | a :: b :: rest => by
    rw [dropUpTo]
    split
    · exact .cons a (dropUpTo_sublist time (b :: rest))
    · exact .refl _

/-- What is left goes on with a sample after the time, or is the last sample. -/
theorem dropUpTo_cases (time : α) : ∀ (samples : List (α × α)) (last : α × α),
    dropUpTo time (samples ++ [last]) = [last] ∨
      ∃ a b rest, dropUpTo time (samples ++ [last]) = a :: b :: rest ∧ ¬ Scalar.le b.1 time = true
  | [], _ => .inl rfl
  | [a], last => by
    rw [List.singleton_append, dropUpTo]
    split
    · exact .inl rfl
    · rename_i hb
      exact .inr ⟨a, last, [], rfl, hb⟩
  | a :: b :: rest, last => by
    rw [List.cons_append, List.cons_append, dropUpTo]
    split
    · exact dropUpTo_cases time (b :: rest) last
    · rename_i hb
      exact .inr ⟨a, b, _, rfl, hb⟩

end Kept

section Weighted

variable {α : Type} [Scalar α]

/-- A gradual delay with any weights: `weight` is given the time that the mean is around, a third
of the lag, and the time of the sample. -/
def weighted (weight : α → α → α → α) (s : DelayState α) (value lag time : α) :
    DelayState α × Output α :=
  let s := s.add time value
  if Scalar.le lag (Scalar.ofNat 0) then
    ({ s with samples := dropBefore time s.samples }, .input)
  else
    let kept := dropBefore (time - gradualRetention * lag) s.samples
    let center := time - lag
    let weights := kept.map fun p => (weight center (lag / Scalar.ofNat 3) p.1, Scalar.settle p.2)
    let total := weights.foldl (fun sum w => sum + w.1) (Scalar.ofNat 0)
    let dot := weights.foldl (fun sum w => sum + w.1 * w.2) (Scalar.ofNat 0)
    let output :=
      match kept with
      | [] => Output.input
      | first :: _ =>
        if Scalar.lt center first.1 then .input
        else if Scalar.le total (Scalar.ofNat 0) || !Scalar.isFinite total then .input
        else .computed (dot / total)
    ({ s with samples := kept }, output)

/-- The weights that a bell curve gives. -/
def bellWeight (bell : α → α) (center deviation time : α) : α :=
  let gap := Scalar.settle time - Scalar.settle center
  bell (-(gap * gap) / (Scalar.ofNat 2 * deviation * deviation))

/-- A gradual delay is weighted by its bell curve. -/
theorem gradual_eq_weighted (bell : α → α) (s : DelayState α) (value lag time : α) :
    s.gradual bell value lag time = s.weighted (bellWeight bell) value lag time := rfl

end Weighted

/-- All that the state keeps of its inputs is in the interval. -/
structure Bounded (low high : ℚ) (s : DelayState ℚ) : Prop where
  samples : ∀ p ∈ s.samples, p.2 ∈ Set.Icc low high
  smoothed : ∀ y, s.smoothed = some y → y ∈ Set.Icc low high

variable {low high value : ℚ} {s : DelayState ℚ}

theorem bounded_fresh (low high : ℚ) (kind : String) : (fresh kind).Bounded low high :=
  ⟨fun _ hp => absurd hp List.not_mem_nil, fun _ hy => nomatch hy⟩

/-- With the input as another sample, of which any are dropped. -/
theorem Bounded.samples_add (h : s.Bounded low high) (hv : value ∈ Set.Icc low high) (time : ℚ)
    {kept : List (ℚ × ℚ)} (hkept : kept ⊆ (s.add time value).samples) :
    ∀ p ∈ kept, p.2 ∈ Set.Icc low high := by
  intro p hp
  rcases List.mem_append.1 (hkept hp) with hp | hp
  · exact h.samples p hp
  · rw [List.mem_singleton.1 hp]
    exact hv

/-- The output moves towards the input by at most the whole gap. -/
theorem smooth_between {y share : ℚ} (hy : y ∈ Set.Icc low high) (hv : value ∈ Set.Icc low high)
    (hshare : low = high ∨ 0 ≤ share ∧ share ≤ 1) :
    y + (value - y) * share ∈ Set.Icc low high := by
  obtain ⟨hlow, hhigh⟩ := hy
  obtain ⟨hlow', hhigh'⟩ := hv
  rcases hshare with rfl | ⟨h0, h1⟩
  · obtain rfl : y = low := le_antisymm hhigh hlow
    obtain rfl : value = y := le_antisymm hhigh' hlow'
    simp
  · constructor <;> nlinarith

theorem smooth_bounded (h : s.Bounded low high) (hv : value ∈ Set.Icc low high)
    {constant time dt : ℚ} (hshare : low = high ∨ constant ≤ 0 ∨ 0 < dt ∧ dt ≤ constant) :
    (s.smooth value constant time dt).2.value value ∈ Set.Icc low high ∧
      (s.smooth value constant time dt).1.Bounded low high := by
  unfold smooth
  simp only
  split
  · refine ⟨hv, h.samples_add hv time (dropBefore_sublist _ _).subset, fun y hy => ?_⟩
    cases hy
    exact hv
  · rename_i hconstant
    have hpositive : 0 < constant := by
      have : ¬ constant ≤ 0 := fun hle => hconstant (decide_eq_true hle)
      exact not_le.1 this
    suffices hout : ∀ y, s.smoothed = some y →
        y + (value - y) * (dt / constant) ∈ Set.Icc low high by
      have hadd : (s.add time value).smoothed = s.smoothed := rfl
      rw [hadd]
      have hkept := h.samples_add hv time
        (dropBefore_sublist (time - smoothRetention * constant) (s.add time value).samples).subset
      rcases hs : s.smoothed with _ | y
      · exact ⟨hv, hkept, fun y hy => Option.some.inj hy ▸ hv⟩
      · exact ⟨hout y hs, hkept, fun z hz => Option.some.inj hz ▸ hout y hs⟩
    refine fun y hs => smooth_between (h.smoothed y hs) hv (hshare.imp_right fun hdt => ?_)
    rcases hdt with hle | ⟨hdt, hle⟩
    · exact absurd hpositive (not_lt.2 hle)
    · exact ⟨(div_pos hdt hpositive).le, (div_le_one hpositive).2 hle⟩

/-- Between two samples the line stays between their values. -/
theorem line_between {p q : ℚ × ℚ} {x : ℚ} (hp : p.2 ∈ Set.Icc low high)
    (hq : q.2 ∈ Set.Icc low high) (hpx : p.1 ≤ x) (hxq : x < q.1) :
    (q.2 - p.2) / (q.1 - p.1) * (x - p.1) + p.2 ∈ Set.Icc low high := by
  have hgap : 0 < q.1 - p.1 := sub_pos.2 (hpx.trans_lt hxq)
  have hshare : 0 ≤ (x - p.1) / (q.1 - p.1) ∧ (x - p.1) / (q.1 - p.1) ≤ 1 :=
    ⟨div_nonneg (sub_nonneg.2 hpx) hgap.le,
      (div_le_one hgap).2 (sub_le_sub_right hxq.le _)⟩
  have hline : (q.2 - p.2) / (q.1 - p.1) * (x - p.1) + p.2 =
      p.2 + (q.2 - p.2) * ((x - p.1) / (q.1 - p.1)) := by
    rw [div_mul_eq_mul_div, mul_div_assoc, add_comm]
  rw [hline]
  exact smooth_between hp hq (.inr hshare)

theorem between_bounded {p q : ℚ × ℚ} {x : ℚ} (hp : p.2 ∈ Set.Icc low high)
    (hq : q.2 ∈ Set.Icc low high) (hpx : p.1 ≤ x) (hxq : x < q.1) :
    Curve.between p q x ∈ Set.Icc low high := by
  unfold Curve.between
  split
  · exact hp
  · exact line_between hp hq hpx hxq

theorem valueOn_between {p q : ℚ × ℚ} {x : ℚ} (hpx : p.1 ≤ x) (hxq : x < q.1) :
    Curve.valueOn? x [p, q] = some (Curve.between p q x) := by
  have hdefinite : ¬ Scalar.isNaN x = true := Bool.false_ne_true
  have hafter : ¬ Scalar.lt q.1 x = true := fun h => absurd (of_decide_eq_true h) hxq.le.not_gt
  have hbefore : ¬ Scalar.lt x p.1 = true := fun h => absurd (of_decide_eq_true h) hpx.not_gt
  have hnext : ¬ Scalar.le q.1 x = true := fun h => absurd (of_decide_eq_true h) hxq.not_ge
  have hfew : [p, q].length ≤ Curve.few := Nat.le_add_left 2 2
  simp only [Curve.valueOn?, List.getLastD_nil, if_neg hdefinite, if_neg hafter, if_neg hbefore,
    if_pos hfew, Curve.follow, if_neg hnext]

/-- The time asked for is never that of the only sample left, so there is an output, the input or
a number on the line between two samples. -/
theorem transport_output (low high : ℚ) (s : DelayState ℚ) (value lag time : ℚ) :
    ∃ y, (s.transport value lag time).2 = some y ∧
      ((∀ p ∈ (s.add time value).samples, p.2 ∈ Set.Icc low high) →
        y.value value ∈ Set.Icc low high) := by
  have hinput : (∀ p ∈ (s.add time value).samples, p.2 ∈ Set.Icc low high) →
      (Output.input : Output ℚ).value value ∈ Set.Icc low high :=
    fun h => h (time, value) (List.mem_append_right _ (.head _))
  unfold transport
  simp only
  split
  · exact ⟨.input, rfl, hinput⟩
  · rename_i hlag
    have hpast : time - lag < time := by
      have : ¬ lag ≤ 0 := fun hle => hlag (decide_eq_true hle)
      linarith
    have hsubset := (dropUpTo_sublist (time - lag) (s.add time value).samples).subset
    rcases dropUpTo_cases (time - lag) s.samples (time, value) with hone | ⟨p, q, rest, htwo, hq⟩
    · rw [add, hone]
      exact ⟨.input, if_pos (decide_eq_true hpast), hinput⟩
    · rw [add, htwo] at hsubset ⊢
      simp only
      split
      · exact ⟨.input, rfl, hinput⟩
      · rename_i hp
        have hq := not_le.1 fun hle => hq (decide_eq_true hle)
        have hpx := not_lt.1 fun hlt => hp (decide_eq_true hlt)
        exact ⟨_, congrArg (Option.map Output.computed) (valueOn_between hpx hq),
          fun h => between_bounded (h p (hsubset (.head _))) (h q (hsubset (.tail _ (.head _))))
            hpx hq⟩

theorem transport_bounded (h : s.Bounded low high) (hv : value ∈ Set.Icc low high)
    (lag time : ℚ) : (s.transport value lag time).1.Bounded low high := by
  unfold transport
  simp only
  split
  · exact ⟨h.samples_add hv time (dropBefore_sublist _ _).subset, h.smoothed⟩
  · exact ⟨h.samples_add hv time (dropUpTo_sublist _ _).subset, h.smoothed⟩

/-- Sums with weights of which none is negative: the sum of the products is between the multiples
of the bounds by the sum of the weights. -/
theorem dot_between : ∀ (ws : List (ℚ × ℚ)) (total dot : ℚ),
    (∀ w ∈ ws, 0 ≤ w.1 ∧ w.2 ∈ Set.Icc low high) →
    low * total ≤ dot ∧ dot ≤ high * total →
    low * ws.foldl (fun sum w => sum + w.1) total ≤
        ws.foldl (fun sum w => sum + w.1 * w.2) dot ∧
      ws.foldl (fun sum w => sum + w.1 * w.2) dot ≤
        high * ws.foldl (fun sum w => sum + w.1) total
  | [], _, _, _, h => h
  | w :: ws, total, dot, hws, h => by
    obtain ⟨hpositive, hlow, hhigh⟩ := hws w (.head ws)
    refine dot_between ws _ _ (fun v hv => hws v (.tail w hv)) ⟨?_, ?_⟩ <;> nlinarith

/-- A mean is between the bounds of what it is the mean of, as long as the weights have a sum. -/
theorem weighted_bounded {weight : ℚ → ℚ → ℚ → ℚ} (hweight : ∀ c d t, 0 ≤ weight c d t)
    (h : s.Bounded low high) (hv : value ∈ Set.Icc low high) (lag time : ℚ) :
    (s.weighted weight value lag time).2.value value ∈ Set.Icc low high ∧
      (s.weighted weight value lag time).1.Bounded low high := by
  unfold weighted
  simp only
  split
  · exact ⟨hv, h.samples_add hv time (dropBefore_sublist _ _).subset, h.smoothed⟩
  · have hkept := h.samples_add hv time
      (dropBefore_sublist (time - gradualRetention * lag) (s.add time value).samples).subset
    refine ⟨?_, hkept, h.smoothed⟩
    generalize dropBefore (time - gradualRetention * lag) (s.add time value).samples = kept
      at hkept ⊢
    have hws : ∀ w ∈ kept.map fun (p : ℚ × ℚ) =>
        (weight (time - lag) (lag / (Scalar.ofNat 3 : ℚ)) p.1, Scalar.settle p.2),
        0 ≤ w.1 ∧ w.2 ∈ Set.Icc low high := by
      intro w hw
      obtain ⟨p, hp, rfl⟩ := List.mem_map.1 hw
      exact ⟨hweight _ _ _, hkept p hp⟩
    obtain ⟨hlow, hhigh⟩ := dot_between _ 0 0 hws (by simp)
    split
    · exact hv
    · split
      · exact hv
      · split
        · exact hv
        · rename_i htotal
          have hpositive := not_le.1 fun hle =>
            htotal (Bool.or_eq_true_iff.mpr (.inl (decide_eq_true hle)))
          exact ⟨(le_div_iff₀ hpositive).2 hlow, (div_le_iff₀ hpositive).2 hhigh⟩

theorem gradual_bounded {bell : ℚ → ℚ} (hbell : ∀ x, 0 ≤ bell x) (h : s.Bounded low high)
    (hv : value ∈ Set.Icc low high) (lag time : ℚ) :
    (s.gradual bell value lag time).2.value value ∈ Set.Icc low high ∧
      (s.gradual bell value lag time).1.Bounded low high := by
  rw [gradual_eq_weighted]
  exact weighted_bounded (fun _ _ _ => hbell _) h hv lag time

end DelayState

/-- What a delay is fed with in a call. -/
structure Feed where
  value : ℚ
  /-- The time constant, or the delay time. -/
  parameter : ℚ
  time : ℚ
  dt : ℚ

/-- The delays over exact numbers. A gradual delay may have any curve for its bell, and even any
weights, as long as none is negative. -/
inductive Kernel where
  | smooth
  | transport
  | gradual (bell : ℚ → ℚ≥0)
  | weighted (weight : ℚ → ℚ → ℚ → ℚ≥0)

namespace Kernel

variable {k : Kernel} {s : DelayState ℚ}

/-- The output of a call, if there is one, and what the delay remembers from then on. -/
def read (k : Kernel) (s : DelayState ℚ) (r : Feed) : DelayState ℚ × Option ℚ :=
  match k with
  | smooth =>
    (s.smooth r.value r.parameter r.time r.dt).map id fun y => some (y.value r.value)
  | transport => (s.transport r.value r.parameter r.time).map id (·.map (Output.value r.value))
  | gradual bell =>
    (s.gradual (fun x => (bell x : ℚ)) r.value r.parameter r.time).map id fun y =>
      some (y.value r.value)
  | weighted weight =>
    (s.weighted (fun c d t => (weight c d t : ℚ)) r.value r.parameter r.time).map id fun y =>
      some (y.value r.value)

/-- The outputs of a delay that is called several times. -/
def outputs (k : Kernel) : DelayState ℚ → List Feed → List (Option ℚ)
  | _, [] => []
  | s, r :: rs => (k.read s r).2 :: outputs k (k.read s r).1 rs

theorem outputs_take (s : DelayState ℚ) (rs : List Feed) (n : Nat) :
    k.outputs s (rs.take n) = (k.outputs s rs).take n := by
  induction rs generalizing s n with
  | nil => simp [outputs]
  | cons r rs ih =>
    rcases n with _ | n
    · rfl
    · rw [List.take_succ_cons, outputs, outputs, List.take_succ_cons, ih]

/-- Where smoothing has no steps that are longer than the time constant. -/
def Gentle (k : Kernel) (r : Feed) : Prop :=
  k = smooth → r.parameter ≤ 0 ∨ 0 < r.dt ∧ r.dt ≤ r.parameter

/-- A call always gives an output. -/
theorem read_isSome (s : DelayState ℚ) (r : Feed) : (k.read s r).2.isSome := by
  rcases k with _ | _ | bell | weight
  · rfl
  · obtain ⟨y, hy, -⟩ := DelayState.transport_output 0 0 s r.value r.parameter r.time
    have hout : (transport.read s r).2 = some (y.value r.value) :=
      congrArg (Option.map (Output.value r.value)) hy
    rw [hout]
    rfl
  · rfl
  · rfl

/-- A call keeps its output and all that is remembered in an interval. If that is of one number,
the step may be of any length. -/
theorem read_bounded {low high : ℚ} {r : Feed} (h : s.Bounded low high)
    (hv : r.value ∈ Set.Icc low high) (hgentle : low = high ∨ k.Gentle r) :
    (∀ y, (k.read s r).2 = some y → y ∈ Set.Icc low high) ∧
      (k.read s r).1.Bounded low high := by
  rcases k with _ | _ | bell | weight
  · obtain ⟨hy, hs⟩ := DelayState.smooth_bounded h hv (hgentle.imp_right fun hr => hr rfl)
    exact ⟨fun y hout => Option.some.inj hout ▸ hy, hs⟩
  · obtain ⟨y, hy, hvalue⟩ := DelayState.transport_output low high s r.value r.parameter r.time
    refine ⟨fun z hout => ?_, DelayState.transport_bounded h hv r.parameter r.time⟩
    have hsame : some (y.value r.value) = some z :=
      (congrArg (Option.map (Output.value r.value)) hy).symm.trans hout
    exact Option.some.inj hsame ▸ hvalue (h.samples_add hv r.time (List.Subset.refl _))
  · obtain ⟨hy, hs⟩ := DelayState.gradual_bounded (fun x => (bell x).2) h hv r.parameter r.time
    exact ⟨fun y hout => Option.some.inj hout ▸ hy, hs⟩
  · obtain ⟨hy, hs⟩ := DelayState.weighted_bounded (fun c d t => (weight c d t).2) h hv
      r.parameter r.time
    exact ⟨fun y hout => Option.some.inj hout ▸ hy, hs⟩

theorem outputs_bounded {low high : ℚ} : ∀ (rs : List Feed) {s : DelayState ℚ},
    s.Bounded low high → (∀ r ∈ rs, r.value ∈ Set.Icc low high) →
    (low = high ∨ ∀ r ∈ rs, k.Gentle r) →
    ∀ y, some y ∈ k.outputs s rs → y ∈ Set.Icc low high
  | [], _, _, _, _, _, ho => absurd ho List.not_mem_nil
  | r :: rs, s, h, hvalues, hgentle, y, ho => by
    obtain ⟨hout, hs⟩ := read_bounded h (hvalues r (.head rs))
      (hgentle.imp_right fun hr => hr r (.head rs))
    rcases List.mem_cons.1 ho with hy | ho
    · exact hout y hy.symm
    · exact outputs_bounded rs hs (fun r' hr => hvalues r' (.tail r hr))
        (hgentle.imp_right fun hr r' hr' => hr r' (.tail r hr')) y ho

theorem outputs_isSome : ∀ (rs : List Feed) (s : DelayState ℚ),
    ∀ o ∈ k.outputs s rs, o.isSome
  | [], _, _, ho => absurd ho List.not_mem_nil
  | r :: rs, s, o, ho => by
    rcases List.mem_cons.1 ho with rfl | ho
    · exact read_isSome s r
    · exact outputs_isSome rs _ o ho

theorem outputs_length (s : DelayState ℚ) (rs : List Feed) :
    (k.outputs s rs).length = rs.length := by
  induction rs generalizing s with
  | nil => rfl
  | cons r rs ih => exact congrArg (· + 1) (ih _)

/-- Each call of a delay that was not read before gives an output, which is between the least and
the greatest of the inputs so far, if no step of smoothing is longer than its time constant. As
long as all inputs are one number, so is every output, whatever the steps. -/
theorem outputs_in_range (k : Kernel) (label : String) (rs : List Feed) (i : Nat)
    (hi : i < rs.length) :
    ∃ y, (k.outputs (.fresh label) rs)[i]? = some (some y) ∧
      ((∀ r ∈ rs.take (i + 1), k.Gentle r) →
        ∃ h, ((rs.take (i + 1)).map Feed.value).min h ≤ y ∧
          y ≤ ((rs.take (i + 1)).map Feed.value).max h) ∧
      ∀ c, (∀ r ∈ rs.take (i + 1), r.value = c) → y = c := by
  have hlength : i < (k.outputs (.fresh label) rs).length := by rwa [outputs_length]
  have hsome := outputs_isSome rs (.fresh label) _ (List.getElem_mem hlength)
  obtain ⟨y, hy⟩ := Option.isSome_iff_exists.1 hsome
  have hget : (k.outputs (.fresh label) rs)[i]? = some (some y) := by
    rw [List.getElem?_eq_getElem hlength, hy]
  have hmem : some y ∈ k.outputs (.fresh label) (rs.take (i + 1)) := by
    rw [outputs_take]
    exact List.mem_of_getElem? ((List.getElem?_take_of_lt (Nat.lt_succ_self i)).trans hget)
  refine ⟨y, hget, fun hgentle => ?_, fun c hc => ?_⟩
  · have hne : (rs.take (i + 1)).map Feed.value ≠ [] := by
      simp only [ne_eq, List.map_eq_nil_iff, List.take_eq_nil_iff, Nat.succ_ne_zero, false_or]
      rintro rfl
      exact absurd hi (Nat.not_lt_zero i)
    refine ⟨hne, outputs_bounded _ (DelayState.bounded_fresh _ _ label) (fun r hr => ?_)
      (.inr hgentle) y hmem⟩
    have hr := List.mem_map_of_mem (f := Feed.value) hr
    exact ⟨List.min_le_of_mem hr, List.le_max_of_mem hr⟩
  · obtain ⟨hlow, hhigh⟩ := outputs_bounded _ (DelayState.bounded_fresh c c label)
      (fun r hr => hc r hr ▸ Set.right_mem_Icc.2 le_rfl) (.inl rfl) y hmem
    exact le_antisymm hhigh hlow

/-- An input that rises from 0 to 10. -/
def rise : List Feed := [⟨0, 2, 0, 1⟩, ⟨10, 2, 1, 1⟩]

/-- Smoothing over two steps is between 0 and 10 after the rise. -/
theorem outputs_in_range_rise :
    1 < rise.length ∧ (∀ r ∈ rise, smooth.Gentle r) ∧
      ∃ y, (smooth.outputs (.fresh "SMOOTH") rise)[1]? = some (some y) ∧ 0 ≤ y ∧ y ≤ 10 := by
  have hgentle : ∀ r ∈ rise, smooth.Gentle r := by
    intro r hr _
    rcases List.mem_cons.1 hr with rfl | hr
    · exact .inr (by decide)
    · rw [List.mem_singleton.1 hr]
      exact .inr (by decide)
  obtain ⟨y, hy, hrange, -⟩ := outputs_in_range smooth "SMOOTH" rise 1 (by decide)
  obtain ⟨_, hlow, hhigh⟩ := hrange hgentle
  exact ⟨by decide, hgentle, y, hy, hlow, hhigh⟩

end Kernel

end SystemDynamics
