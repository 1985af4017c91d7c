import SystemDynamics.Proofs.Arena
import SystemDynamics.Proofs.Sorted
import Mathlib.Order.Bounds.Basic

/-!
# Transport delays and the samples they need

A transport delay forgets samples, and no output shows it. As long as neither times nor targets go
back, dropping up to a target and later up to another leaves what dropping up to the other leaves
of everything (`DelayState.dropUpTo_dropUpTo`), so the state holds what a call would keep of all
samples ever given (`DelayState.carry_samples`). In their order that is all of them from the last
one at or before the target on (`DelayState.dropUpTo_isGreatest`), and the output is on the line
from it to the next (`DelayState.transport_full_history`).

The next sample is there as long as the target is before the time of the call. A lag that is too
short for the time to feel it has a target that is not, and then only the sample just added is left
and there is no line to draw (`DelayState.transport_output_iff`).
-/

namespace SystemDynamics

/-- What a transport delay is called with. -/
structure Intake where
  value : Float
  lag : Float
  time : Float

namespace Intake

/-- The time that the output is to come from. -/
def target (r : Intake) : Float := r.time - r.lag

def sample (r : Intake) : Float × Float := (r.time, r.value)

/-- All three numbers are finite. -/
def IsFinite (r : Intake) : Prop :=
  r.value.isFinite = true ∧ r.lag.isFinite = true ∧ r.time.isFinite = true

instance (r : Intake) : Decidable r.IsFinite :=
  inferInstanceAs (Decidable (_ ∧ _ ∧ _))

/-- Calls of which neither the times nor the targets go back, each with a target in its past. -/
structure Onward (rs : List Intake) : Prop where
  delayed : ∀ r ∈ rs, 0.0 < r.lag
  times : rs.Pairwise fun r q => r.time ≤ q.time
  targets : rs.Pairwise fun r q => r.target ≤ q.target
  past : ∀ r ∈ rs, r.target < r.time

/-- Calls with finite numbers of which the times do not go back. -/
structure Timely (rs : List Intake) : Prop where
  finite : ∀ r ∈ rs, r.IsFinite
  times : rs.Pairwise fun r q => r.time ≤ q.time

theorem Onward.last_delayed {rs : List Intake} {r : Intake} (h : Onward (rs ++ [r])) :
    ¬ r.lag ≤ 0.0 :=
  fun hle => not_lt_of_le hle (h.delayed r (List.mem_append_right _ (.head _)))

/-- No call is before the first. -/
theorem Onward.first_le {rs : List Intake} {first r : Intake} (h : Onward rs)
    (hfirst : rs.head? = some first) (hr : r ∈ rs) : first.time ≤ r.time := by
  rcases rs with _ | ⟨q, rs⟩
  · exact absurd hr List.not_mem_nil
  · cases hfirst
    rcases List.mem_cons.1 hr with rfl | hr
    · exact le_self (Bool.eq_false_iff.2 fun hnan => not_nan_lt hnan (h.past r (.head _)))
    · exact (List.pairwise_cons.1 h.times).1 r hr

theorem Onward.of_sublist {rs qs : List Intake} (h : Onward qs) (hsub : rs.Sublist qs) :
    Onward rs where
  delayed r hr := h.delayed r (hsub.subset hr)
  times := h.times.sublist hsub
  targets := h.targets.sublist hsub
  past r hr := h.past r (hsub.subset hr)

end Intake

/-- A curve through two points has a value everywhere. -/
theorem Curve.valueOn?_pair {α : Type} [Scalar α] (x : α) (p q : α × α) :
    ∃ y, Curve.valueOn? x [p, q] = some y := by
  have hfew : [p, q].length ≤ Curve.few := Nat.le_add_left 2 2
  unfold Curve.valueOn?
  simp only [if_pos hfew]
  split
  · exact ⟨_, rfl⟩
  · split
    · exact ⟨_, rfl⟩
    · split <;> exact ⟨_, rfl⟩

namespace DelayState

/-- The state that calls of a transport delay leave. -/
def carry (s : DelayState Float) (rs : List Intake) : DelayState Float :=
  rs.foldl (fun s r => (s.transport r.value r.lag r.time).1) s

theorem carry_append (s : DelayState Float) (rs : List Intake) (r : Intake) :
    s.carry (rs ++ [r]) = ((s.carry rs).transport r.value r.lag r.time).1 := by
  rw [carry, List.foldl_append]
  rfl

section Kept

variable {time later : Float}

/-- What has been dropped up to a time would be dropped up to any later one. -/
theorem dropUpTo_dropUpTo (hle : time ≤ later) (more : List (Float × Float)) :
    ∀ samples : List (Float × Float),
      dropUpTo later (dropUpTo time samples ++ more) = dropUpTo later (samples ++ more)
  | [] | [_] => rfl
  | a :: b :: rest => by
    rw [dropUpTo]
    split
    · rename_i hb
      have hb' : Scalar.le b.1 later = true :=
        decide_eq_true (le_of_le_of_le (of_decide_eq_true hb) hle)
      rw [List.cons_append, List.cons_append, dropUpTo, if_pos hb']
      exact dropUpTo_dropUpTo hle more (b :: rest)
    · rfl

/-- Samples of which all but the last were taken at or before a time that is not before the last
one either: only that is left. -/
theorem dropUpTo_last {last : Float × Float} (hlast : last.1 ≤ time) :
    ∀ samples : List (Float × Float), (∀ p ∈ samples, p.1 ≤ time) →
      dropUpTo time (samples ++ [last]) = [last]
  | [], _ => rfl
  | [a], _ => by
    have hnext : Scalar.le last.1 time = true := decide_eq_true hlast
    rw [List.singleton_append, dropUpTo, if_pos hnext]
    rfl
  | a :: b :: rest, h => by
    have hnext : Scalar.le b.1 time = true := decide_eq_true (h b (.tail _ (.head _)))
    rw [List.cons_append, List.cons_append, dropUpTo, if_pos hnext]
    exact dropUpTo_last hlast (b :: rest) fun p hp => h p (.tail _ hp)

/-- Where all samples were taken after the time, none is dropped. -/
theorem dropUpTo_of_after : ∀ {samples : List (Float × Float)},
    (∀ p ∈ samples, ¬ p.1 ≤ time) → dropUpTo time samples = samples
  | [], _ | [_], _ => rfl
  | a :: b :: rest, h => by
    have hnext : ¬ Scalar.le b.1 time = true :=
      fun hb => h b (.tail _ (.head _)) (of_decide_eq_true hb)
    rw [dropUpTo, if_neg hnext]

/-- The places of the samples that were taken at or before a time. -/
def placesUpTo (time : Float) (samples : List (Float × Float)) : Set Nat :=
  {i | ∃ p, samples[i]? = some p ∧ p.1 ≤ time}

theorem isGreatest_cons {a : Float × Float} {samples : List (Float × Float)} {j : Nat}
    (h : IsGreatest (placesUpTo time samples) j) :
    IsGreatest (placesUpTo time (a :: samples)) (j + 1) := by
  obtain ⟨hj, hbound⟩ := h
  refine ⟨hj, fun i hi => ?_⟩
  rcases i with _ | i
  · exact Nat.zero_le _
  · exact Nat.succ_le_succ (hbound hi)

/-- Of samples in the order of their times, those from the last one at or before the time on are
left. -/
theorem dropUpTo_isGreatest : ∀ {samples : List (Float × Float)} {first : Float × Float},
    (first :: samples).Pairwise (fun p q => p.1 ≤ q.1) → first.1 ≤ time →
      ∃ j, IsGreatest (placesUpTo time (first :: samples)) j ∧
        dropUpTo time (first :: samples) = (first :: samples).drop j
  | [], first, _, hfirst => by
    refine ⟨0, ⟨⟨first, rfl, hfirst⟩, fun i hi => ?_⟩, rfl⟩
    obtain ⟨p, hp, -⟩ := hi
    exact Nat.le_of_lt_succ (List.getElem?_eq_some_iff.1 hp).1
  | next :: rest, first, hsorted, hfirst => by
    obtain ⟨-, hrest⟩ := List.pairwise_cons.1 hsorted
    rw [dropUpTo]
    split
    · rename_i hnext
      obtain ⟨j, hj, hdrop⟩ := dropUpTo_isGreatest hrest (of_decide_eq_true hnext)
      exact ⟨j + 1, isGreatest_cons hj, hdrop⟩
    · rename_i hnext
      -- No later sample is at or before the time, since none is before the next one.
      refine ⟨0, ⟨⟨first, rfl, hfirst⟩, fun i hi => ?_⟩, rfl⟩
      obtain ⟨p, hp, hpt⟩ := hi
      rcases i with _ | i
      · exact Nat.le_refl 0
      · have hmem : p ∈ next :: rest := List.mem_of_getElem? hp
        rcases List.mem_cons.1 hmem with rfl | hmem
        · exact absurd (decide_eq_true hpt) hnext
        · have hle := (List.pairwise_cons.1 hrest).1 p hmem
          exact absurd (decide_eq_true (le_of_le_of_le hle hpt)) hnext

end Kept

section Calls

variable {s : DelayState Float} {r : Intake} {rest : List (Float × Float)}

/-- A call with a lag adds its sample and then drops up to its target. -/
theorem transport_state (s : DelayState Float) (hlag : ¬ r.lag ≤ 0.0) :
    (s.transport r.value r.lag r.time).1 =
      { s with samples := dropUpTo r.target (s.samples ++ [r.sample]) } := by
  have hnot : ¬ Scalar.le r.lag (Scalar.ofNat 0) = true := fun h => hlag (of_decide_eq_true h)
  rw [transport]
  simp only [if_neg hnot]
  rfl

theorem transport_samples (s : DelayState Float) (hlag : ¬ r.lag ≤ 0.0) :
    (s.transport r.value r.lag r.time).1.samples = dropUpTo r.target (s.samples ++ [r.sample]) :=
  congrArg samples (transport_state s hlag)

/-- The output of a call without a lag is its input. -/
theorem transport_undelayed (s : DelayState Float) (hlag : r.lag ≤ 0.0) :
    (s.transport r.value r.lag r.time).2 = some .input := by
  have hle : Scalar.le r.lag (Scalar.ofNat 0) = true := decide_eq_true hlag
  rw [transport]
  simp only [if_pos hle]

/-- What a call with a lag puts out is read from the samples that it leaves. -/
theorem transport_read (s : DelayState Float) (hlag : ¬ r.lag ≤ 0.0) {p : Float × Float}
    (hkept : dropUpTo r.target (s.samples ++ [r.sample]) = p :: rest) :
    (s.transport r.value r.lag r.time).2 =
      if r.target < p.1 then some .input
      else rest.head?.bind fun q => (Curve.valueOn? r.target [p, q]).map .computed := by
  have hnot : ¬ Scalar.le r.lag (Scalar.ofNat 0) = true := fun h => hlag (of_decide_eq_true h)
  have hkept' : dropUpTo (r.time - r.lag) (s.add r.time r.value).samples = p :: rest := hkept
  rw [transport]
  simp only [if_neg hnot, hkept']
  by_cases hp : r.target < p.1
  · have hp' : Scalar.lt (r.time - r.lag) p.1 = true := decide_eq_true hp
    rw [if_pos hp, if_pos hp']
  · have hp' : ¬ Scalar.lt (r.time - r.lag) p.1 = true := fun h => hp (of_decide_eq_true h)
    rw [if_neg hp, if_neg hp']
    rcases rest with _ | ⟨q, rest⟩ <;> rfl

end Calls

section FullHistory

variable {rs : List Intake} {r first : Intake}

/-- The state holds what the last call would have kept of all samples ever given. -/
theorem carry_samples (kind : String) (h : Intake.Onward (rs ++ [r])) :
    ((fresh kind).carry (rs ++ [r])).samples =
      dropUpTo r.target ((rs ++ [r]).map Intake.sample) := by
  induction rs using List.reverseRecOn generalizing r with
  | nil => exact transport_samples (fresh kind) h.last_delayed
  | append_singleton qs q ih =>
    have hle : q.target ≤ r.target :=
      (List.pairwise_append.1 h.targets).2.2 q (List.mem_append_right _ (.head _)) r (.head _)
    have hall : ((qs ++ [q]) ++ [r]).map Intake.sample =
        (qs ++ [q]).map Intake.sample ++ [r.sample] := List.map_append
    rw [carry_append, transport_samples _ h.last_delayed,
      ih (h.of_sublist (List.sublist_append_left _ _)), dropUpTo_dropUpTo hle, hall]

/-- What a call leaves of the samples kept before it is what it would leave of all. -/
theorem kept_full_history (kind : String) (h : Intake.Onward (rs ++ [r])) :
    dropUpTo r.target (((fresh kind).carry rs).samples ++ [r.sample]) =
      dropUpTo r.target ((rs ++ [r]).map Intake.sample) := by
  rw [← carry_samples kind h, carry_append, transport_samples _ h.last_delayed]

/-- As long as all samples are after the target, they are all kept and the input is put out. -/
theorem transport_filling (kind : String) (h : Intake.Onward (rs ++ [r]))
    (hafter : ∀ p ∈ (rs ++ [r]).map Intake.sample, ¬ p.1 ≤ r.target)
    (hfirst : (rs ++ [r]).head? = some first) (hbefore : r.target < first.time) :
    (((fresh kind).carry rs).transport r.value r.lag r.time).2 = some .input ∧
      (((fresh kind).carry rs).transport r.value r.lag r.time).1.samples =
        (rs ++ [r]).map Intake.sample := by
  have hkept := (kept_full_history kind h).trans (dropUpTo_of_after hafter)
  refine ⟨?_, (transport_samples _ h.last_delayed).trans hkept⟩
  obtain ⟨later, hlater⟩ : ∃ later, rs ++ [r] = first :: later :=
    ⟨_, List.eq_cons_of_mem_head? hfirst⟩
  rw [hlater, List.map_cons] at hkept
  have hbefore' : r.target < first.sample.1 := hbefore
  rw [transport_read _ h.last_delayed hkept, if_pos hbefore']

/-- The last sample at or before the target is not the one that the call adds, so another follows
it. -/
theorem exists_bracket (h : Intake.Onward (rs ++ [r])) {j : Nat}
    (hj : j ∈ placesUpTo r.target ((rs ++ [r]).map Intake.sample)) :
    ∃ p q rest, ((rs ++ [r]).map Intake.sample)[j]? = some p ∧
      ((rs ++ [r]).map Intake.sample)[j + 1]? = some q ∧ p.1 ≤ r.target ∧
      ((rs ++ [r]).map Intake.sample).drop j = p :: q :: rest := by
  obtain ⟨p, hp, hle⟩ := hj
  obtain ⟨hlt, hget⟩ := List.getElem?_eq_some_iff.1 hp
  have hlast : j ≠ rs.length := by
    rintro rfl
    rw [List.map_append, List.getElem?_append_right (by simp), List.length_map, Nat.sub_self] at hp
    cases hp
    exact not_lt_of_le hle (h.past r (List.mem_append_right _ (.head _)))
  have hnext : j + 1 < ((rs ++ [r]).map Intake.sample).length := by
    rw [List.length_map, List.length_append, List.length_singleton] at hlt ⊢
    omega
  refine ⟨p, _, ((rs ++ [r]).map Intake.sample).drop (j + 1 + 1), hp,
    List.getElem?_eq_getElem hnext, hle, ?_⟩
  rw [List.drop_eq_getElem_cons hlt, List.drop_eq_getElem_cons hnext, hget]

/-- Once the samples reach back to the target, those from the last one at or before it on are kept,
and the output is on the line from that one to the next. -/
theorem transport_reaching (kind : String) (h : Intake.Onward (rs ++ [r]))
    (hfirst : (rs ++ [r]).head? = some first) (hle : first.time ≤ r.target) :
    ∃ j p q y, IsGreatest (placesUpTo r.target ((rs ++ [r]).map Intake.sample)) j ∧
      ((rs ++ [r]).map Intake.sample)[j]? = some p ∧
      ((rs ++ [r]).map Intake.sample)[j + 1]? = some q ∧
      Curve.valueOn? r.target [p, q] = some y ∧
      (((fresh kind).carry rs).transport r.value r.lag r.time).2 = some (.computed y) ∧
      (((fresh kind).carry rs).transport r.value r.lag r.time).1.samples =
        ((rs ++ [r]).map Intake.sample).drop j := by
  obtain ⟨later, hlater⟩ : ∃ later, rs ++ [r] = first :: later :=
    ⟨_, List.eq_cons_of_mem_head? hfirst⟩
  have hgiven : (rs ++ [r]).map Intake.sample = first.sample :: later.map Intake.sample := by
    rw [hlater, List.map_cons]
  have hsorted : ((rs ++ [r]).map Intake.sample).Pairwise fun p q => p.1 ≤ q.1 :=
    List.pairwise_map.2 h.times
  have hreached : first.sample.1 ≤ r.target := hle
  rw [hgiven] at hsorted
  obtain ⟨j, hj, hdrop⟩ := dropUpTo_isGreatest hsorted hreached
  rw [← hgiven] at hj hdrop
  have hkept := (kept_full_history kind h).trans hdrop
  obtain ⟨p, q, rest, hp, hq, hpt, hcons⟩ := exists_bracket h hj.1
  obtain ⟨y, hy⟩ := Curve.valueOn?_pair r.target p q
  refine ⟨j, p, q, y, hj, hp, hq, hy, ?_, (transport_samples _ h.last_delayed).trans hkept⟩
  rw [transport_read _ h.last_delayed (hkept.trans hcons), if_neg (not_lt_of_le hpt),
    List.head?_cons, Option.bind_some, hy, Option.map_some]

/-- A transport delay puts out what it would if it kept every sample: its input as long as the
first sample is after the target, and otherwise the number on the line between the last sample at
or before the target and the next. It keeps the samples from that one on, all if there is none. -/
theorem transport_full_history (kind : String) (h : Intake.Onward (rs ++ [r]))
    (hfirst : (rs ++ [r]).head? = some first) :
    let given := (rs ++ [r]).map Intake.sample
    let call := ((fresh kind).carry rs).transport r.value r.lag r.time
    (r.target < first.time →
      placesUpTo r.target given = ∅ ∧ call.2.map (Output.value r.value) = some r.value ∧
        call.1.samples = given) ∧
    (¬ r.target < first.time →
      ∃ j p q y, IsGreatest (placesUpTo r.target given) j ∧
        given[j]? = some p ∧ given[j + 1]? = some q ∧ Curve.valueOn? r.target [p, q] = some y ∧
        call.2.map (Output.value r.value) = some y ∧ call.1.samples = given.drop j) := by
  intro given call
  have hmem : first ∈ rs ++ [r] := List.mem_of_mem_head? hfirst
  constructor
  · intro hbefore
    have hafter : ∀ p ∈ given, ¬ p.1 ≤ r.target := by
      intro p hp hle
      obtain ⟨q, hq, rfl⟩ := List.mem_map.1 hp
      have hfirst_le := h.first_le hfirst hq
      exact not_lt_of_le (le_of_le_of_le hfirst_le hle) hbefore
    obtain ⟨hout, hsamples⟩ := transport_filling kind h hafter hfirst hbefore
    refine ⟨Set.eq_empty_of_forall_notMem fun i hi => ?_, ?_, hsamples⟩
    · obtain ⟨p, hp, hle⟩ := hi
      exact hafter p (List.mem_of_getElem? hp) hle
    · exact congrArg (Option.map (Output.value r.value)) hout
  · intro hreached
    have htarget : r.target.isNaN = false :=
      Bool.eq_false_iff.2 fun hnan =>
        not_lt_nan hnan (h.past r (List.mem_append_right _ (.head _)))
    have htime : first.time.isNaN = false :=
      Bool.eq_false_iff.2 fun hnan => not_nan_lt hnan (h.past first hmem)
    obtain ⟨j, p, q, y, hj, hp, hq, hy, hout, hsamples⟩ :=
      transport_reaching kind h hfirst (le_of_not_lt htarget htime hreached)
    exact ⟨j, p, q, y, hj, hp, hq, hy, congrArg (Option.map (Output.value r.value)) hout, hsamples⟩

/-- Lags that differ, and a time that comes twice. -/
def drizzle : List Intake := [⟨1.0, 2.5, 0.0⟩, ⟨4.0, 2.0, 1.0⟩, ⟨5.0, 1.5, 1.0⟩]

/-- A call that reaches back to the first of these. -/
def gauge : Intake := ⟨7.0, 1.5, 2.0⟩

theorem transport_full_history_drizzle :
    Intake.Onward (drizzle ++ [gauge]) ∧
      (drizzle ++ [gauge]).head? = some (⟨1.0, 2.5, 0.0⟩ : Intake) ∧
      ¬ (0.5 : Float) < 0.0 ∧
      ∃ j p q y, IsGreatest (placesUpTo 0.5 [(0.0, 1.0), (1.0, 4.0), (1.0, 5.0), (2.0, 7.0)]) j ∧
        [(0.0, 1.0), (1.0, 4.0), (1.0, 5.0), (2.0, 7.0)][j]? = some p ∧
        [(0.0, 1.0), (1.0, 4.0), (1.0, 5.0), (2.0, 7.0)][j + 1]? = some q ∧
        Curve.valueOn? 0.5 [p, q] = some y ∧
        (((fresh "DELAY").carry drizzle).transport 7.0 1.5 2.0).2.map (Output.value 7.0) = some y ∧
        (((fresh "DELAY").carry drizzle).transport 7.0 1.5 2.0).1.samples =
          [(0.0, 1.0), (1.0, 4.0), (1.0, 5.0), (2.0, 7.0)].drop j := by
  have honward : Intake.Onward (drizzle ++ [gauge]) := by
    constructor <;> decide
  have hfirst : (drizzle ++ [gauge]).head? = some (⟨1.0, 2.5, 0.0⟩ : Intake) := rfl
  have hreached : ¬ (0.5 : Float) < 0.0 := by decide
  exact ⟨honward, hfirst, hreached, (transport_full_history "DELAY" honward hfirst).2 hreached⟩

end FullHistory

section Failing

variable {rs : List Intake} {r : Intake}

theorem transport_sublist (s : DelayState Float) (value lag time : Float) :
    (s.transport value lag time).1.samples.Sublist (s.samples ++ [(time, value)]) := by
  unfold transport
  simp only
  split
  · exact dropBefore_sublist _ _
  · exact dropUpTo_sublist _ _

/-- A state has no samples but those that it has been given. -/
theorem carry_sublist (s : DelayState Float) (rs : List Intake) :
    (s.carry rs).samples.Sublist (s.samples ++ rs.map Intake.sample) := by
  induction rs using List.reverseRecOn with
  | nil => exact List.sublist_append_left _ _
  | append_singleton qs q ih =>
    rw [carry_append, List.map_append, ← List.append_assoc]
    exact (transport_sublist _ _ _ _).trans (ih.append_right _)

theorem carry_past (kind : String) (h : Intake.Timely (rs ++ [r])) :
    ∀ p ∈ ((fresh kind).carry rs).samples, p.1 ≤ r.time := by
  intro p hp
  obtain ⟨q, hq, rfl⟩ := List.mem_map.1 ((carry_sublist (fresh kind) rs).subset hp)
  exact (List.pairwise_append.1 h.times).2.2 q hq r (.head _)

/-- With its target in the past, a call finds a sample after the target, its own if no other. -/
theorem transport_isSome (s : DelayState Float) (hpast : r.target < r.time) :
    ∃ y, (s.transport r.value r.lag r.time).2 = some y := by
  by_cases hlag : r.lag ≤ 0.0
  · exact ⟨.input, transport_undelayed s hlag⟩
  · rcases dropUpTo_cases r.target s.samples r.sample with hone | ⟨p, q, rest, htwo, -⟩
    · have hpast' : r.target < r.sample.1 := hpast
      rw [transport_read s hlag hone, if_pos hpast']
      exact ⟨.input, rfl⟩
    · rw [transport_read s hlag htwo]
      split
      · exact ⟨.input, rfl⟩
      · obtain ⟨y, hy⟩ := Curve.valueOn?_pair r.target p q
        rw [List.head?_cons, Option.bind_some, hy]
        exact ⟨.computed y, rfl⟩

/-- With its target not in the past, a call with a lag drops all samples but its own, of which
there is no line. -/
theorem transport_none {s : DelayState Float} (hlag : ¬ r.lag ≤ 0.0) (hle : r.time ≤ r.target)
    (hsamples : ∀ p ∈ s.samples, p.1 ≤ r.time) :
    s.transport r.value r.lag r.time = ({ s with samples := [r.sample] }, none) := by
  have hlast : r.sample.1 ≤ r.target := hle
  have hone := dropUpTo_last hlast s.samples fun p hp => le_of_le_of_le (hsamples p hp) hle
  refine Prod.ext ?_ ?_
  · rw [transport_state s hlag, hone]
  · have hnot : ¬ r.target < r.sample.1 := not_lt_of_le hle
    rw [transport_read s hlag hone, if_neg hnot]
    rfl

/-- A transport delay that is given finite numbers, at times that do not go back, has an output
exactly if it has no lag or its target is in the past. Otherwise it fails, with only the sample
just added left. -/
theorem transport_output_iff (kind : String) (h : Intake.Timely (rs ++ [r])) (dt : Float) :
    let s := (fresh kind).carry rs
    ((∃ y, (DelayKind.transport.advance r.time dt s r.value r.lag).2 = .ok y) ↔
      r.lag ≤ 0.0 ∨ r.target < r.time) ∧
    (¬ (r.lag ≤ 0.0 ∨ r.target < r.time) →
      DelayKind.transport.advance r.time dt s r.value r.lag =
        ({ s with samples := [r.sample] }, .error .noSuchSample)) := by
  intro s
  rw [DelayKind.advance_transport]
  by_cases hdone : r.lag ≤ 0.0 ∨ r.target < r.time
  · refine ⟨iff_of_true ?_ hdone, fun hnot => absurd hdone hnot⟩
    have hsome : ∃ y, (s.transport r.value r.lag r.time).2 = some y := by
      rcases hdone with hlag | hpast
      · exact ⟨.input, transport_undelayed s hlag⟩
      · exact transport_isSome s hpast
    obtain ⟨y, hy⟩ := hsome
    exact ⟨y, by rw [hy]; rfl⟩
  · obtain ⟨hlag, hpast⟩ := not_or.1 hdone
    obtain ⟨-, hfinite, htime⟩ := h.finite r (List.mem_append_right _ (.head _))
    have hle : r.time ≤ r.target :=
      le_of_not_lt (isNaN_sub_of_finite htime hfinite) (isNaN_of_finite htime) hpast
    rw [transport_none hlag hle (carry_past kind h)]
    refine ⟨iff_of_false ?_ hdone, fun _ => rfl⟩
    rintro ⟨y, hy⟩
    cases hy

theorem transport_output_iff_drizzle :
    Intake.Timely (drizzle ++ [gauge]) ∧ (0.5 : Float) < 2.0 ∧
      ∃ y, (DelayKind.transport.advance 2.0 1.0 ((fresh "DELAY").carry drizzle) 7.0 1.5).2 =
        .ok y := by
  have htimely : Intake.Timely (drizzle ++ [gauge]) := by
    constructor <;> decide
  have hpast : (0.5 : Float) < 2.0 := by decide
  exact ⟨htimely, hpast, (transport_output_iff "DELAY" htimely 1.0).1.2 (.inr hpast)⟩

/-- A lag that is too short for a time of one to feel it. -/
def glimpse : Intake := ⟨5.0, 1e-17, 1.0⟩

/-- The first call of a delay fails, though all its numbers are finite. -/
theorem transport_output_glimpse :
    Intake.Timely [glimpse] ∧
      (DelayKind.transport.advance 1.0 1.0 (fresh "DELAY") 5.0 1e-17) =
        (⟨"DELAY", [(1.0, 5.0)], none⟩, .error .noSuchSample) := by
  refine ⟨?_, ?_⟩
  · constructor <;> decide
  · rfl

end Failing

end DelayState

end SystemDynamics
