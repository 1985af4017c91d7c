import Mathlib.Order.Bounds.Defs
import SystemDynamics.Proofs.Batches
import SystemDynamics.Proofs.Outcome

/-!
# The end of a run

A step asks for the condition that ends a run when all else in it is done, and it ends the model
exactly if the condition is met then (`step_ends`). So a run goes on up to the first step that
finds the condition met (`StopsAfter.metAt_iff`). A model that has ended stays as it is, whatever
is asked of it, and announces nothing (`answerAll_terminated`), until it is reset.
-/

namespace SystemDynamics

namespace Model

/-- The model in the next step, when all is done but asking for the condition that ends a run. -/
def asked (m : Model) (dt : StepSize) : Model :=
  (((m.found dt).1.move (m.found dt).2).tick dt.value).record

/-- Whether the condition that ends a run is met when the next step asks for it. -/
def endsNext (m : Model) (dt : StepSize) : Bool := (m.asked dt).endReached.result.2

theorem advance_ends (m : Model) (dt : StepSize) :
    (m.advance dt).result =
      if m.endsNext dt then
        { (m.asked dt).endReached.result.1 with phase := .terminated }
      else (m.asked dt).endReached.result.1 := by
  simp only [advance, Noted.result_bind]
  split <;> rename_i h
  · exact (if_pos h).symm
  · exact (if_neg h).symm

theorem asked_phase (m : Model) (dt : StepSize) :
    (m.asked dt).endReached.result.1.phase = m.phase := by
  obtain ⟨d, hd⟩ := (m.asked dt).endReached_result
  obtain ⟨d', hd'⟩ := transfersOf_result dt.value m.flows.entries (m.withStepSize dt.value)
  have hfound : (m.found dt).1.phase = m.phase := by
    rw [found, hd']
    rfl
  rw [hd]
  exact hfound

/-- A step of a model that has not ended ends it exactly if the condition is met. -/
theorem step_ends {m : Model} (h : m.isTerminated = false) (dt : StepSize) :
    (m.step dt).result.isTerminated = m.endsNext dt := by
  rw [step_running h, advance_ends]
  rcases m.endsNext dt with _ | _
  · rw [if_neg Bool.false_ne_true, isTerminated, asked_phase]
    exact h
  · rfl

theorem stepTimes_succ (dt : StepSize) : ∀ (n : Nat) (m : Model),
    (stepTimes dt (n + 1) m).result = ((stepTimes dt n m).result.step dt).result
  | 0, _ => rfl
  | n + 1, m => stepTimes_succ dt n (m.step dt).result

/-- The condition that ends a run is met when the step of this number asks for it. -/
def MetAt (m : Model) (dt : StepSize) (k : Nat) : Prop :=
  1 ≤ k ∧ (stepTimes dt (k - 1) m).result.endsNext dt = true

/-- Up to where a run stops, the condition is met at the last step only, and there exactly if the
model has ended. -/
theorem StopsAfter.metAt_iff {m : Model} {dt : StepSize} {limit n k : Nat}
    (h : m.StopsAfter dt limit n) (hrun : m.isTerminated = false) (hk : k ≤ n) :
    m.MetAt dt k ↔ k = n ∧ (stepTimes dt n m).result.isTerminated = true := by
  rcases k with _ | k
  · refine ⟨fun hmet => absurd hmet.1 (Nat.not_succ_le_zero 0), fun ⟨hn, hend⟩ => ?_⟩
    rw [← hn] at hend
    exact absurd (hrun.symm.trans hend) Bool.false_ne_true
  · have hends : (stepTimes dt k m).result.endsNext dt =
        (stepTimes dt (k + 1) m).result.isTerminated := by
      rw [stepTimes_succ, step_ends (h.going k hk)]
    simp only [MetAt, Nat.add_sub_cancel, hends]
    constructor
    · rintro ⟨-, hend⟩
      rcases Nat.lt_or_eq_of_le hk with hlt | rfl
      · exact absurd ((h.going _ hlt).symm.trans hend) Bool.false_ne_true
      · exact ⟨rfl, hend⟩
    · rintro ⟨rfl, hend⟩
      exact ⟨Nat.succ_pos _, hend⟩

/-- A run that stops before its limit has met the condition. -/
theorem StopsAfter.metAt {m : Model} {dt : StepSize} {limit n : Nat}
    (h : m.StopsAfter dt limit n) (hrun : m.isTerminated = false) (hn : n < limit) :
    m.MetAt dt n :=
  (h.metAt_iff hrun (Nat.le_refl n)).2 ⟨rfl, h.ended hn⟩

/-- The model after a request, with what is noted on the way. -/
def answer (m : Model) : Request → Noted Model
  | .step dt => m.step dt
  | .run dt limit => Prod.fst <$> run dt limit m
  | .runBatched dt size limit => Batches.model <$> m.runBatched dt size limit
  | .reset => m.reset

/-- The model after several requests, with what is noted on the way. -/
def answerAll : List Request → Model → Noted Model
  | [], m => pure m
  | r :: rs, m => do answerAll rs (← m.answer r)

/-- A model that has ended answers every request but a reset by staying as it is. -/
theorem answer_terminated {m : Model} (h : m.isTerminated = true) {r : Request}
    (hr : r ≠ .reset) : m.answer r = pure m := by
  cases r with
  | step dt => exact step_terminated h dt
  | run dt limit =>
    rw [answer, run_terminated h]
    rfl
  | runBatched dt size limit =>
    have hclosed : Batches.isOpen ⟨m, 0, []⟩ limit = false := by simp [Batches.isOpen, h]
    rw [answer, runBatched, batchesFrom_closed hclosed]
    rfl
  | reset => exact absurd rfl hr

theorem answerAll_terminated {m : Model} (h : m.isTerminated = true) :
    ∀ {rs : List Request}, .reset ∉ rs → answerAll rs m = pure m
  | [], _ => rfl
  | r :: rs, hrs => by
    obtain ⟨hr, hrest⟩ := not_or.1 fun h => hrs (List.mem_cons.2 h)
    rw [answerAll, answer_terminated h (Ne.symm hr), pure_bind]
    exact answerAll_terminated h hrest

/-- A run of a model that has not ended makes as many steps as it takes to meet the condition that
ends a run for the first time, and all of them if it is not met; it ends the model exactly if it is
met. A model that has ended does not change and announces nothing until it is reset, and a reset
lets it run again. -/
theorem run_until_met (m : Model) (dt : StepSize) (limit : Nat) :
    (m.isTerminated = false →
      (∀ k, IsLeast {k | k ≤ limit ∧ m.MetAt dt k} k → (run dt limit m).result.2 = k) ∧
      ((∀ k ≤ limit, ¬ m.MetAt dt k) → (run dt limit m).result.2 = limit) ∧
      ((run dt limit m).result.1.isTerminated = true ↔ ∃ k ≤ limit, m.MetAt dt k)) ∧
    (m.isTerminated = true →
      (∀ rs, .reset ∉ rs → answerAll rs m = pure m) ∧
      ∀ r, (m.answer r).result.isTerminated = false → r = .reset) ∧
    m.reset.result.phase = .running := by
  refine ⟨fun hrun => ?_, fun hend => ⟨fun rs hrs => answerAll_terminated hend hrs,
    fun r hr => ?_⟩, rfl⟩
  · obtain ⟨n, hn, hresult⟩ := run_stops dt limit m
    rw [hresult]
    refine ⟨fun k ⟨⟨hk, hmet⟩, hleast⟩ => ?_, fun hnone => ?_, fun hend => ?_, ?_⟩
    · rcases Nat.lt_trichotomy n k with hlt | rfl | hlt
      · have hsooner := hn.metAt hrun (Nat.lt_of_lt_of_le hlt hk)
        exact Nat.le_antisymm (Nat.le_of_lt hlt) (hleast ⟨hn.le, hsooner⟩)
      · rfl
      · exact ((hn.metAt_iff hrun (Nat.le_of_lt hlt)).1 hmet).1.symm
    · rcases Nat.lt_or_eq_of_le hn.le with hlt | heq
      · exact absurd (hn.metAt hrun hlt) (hnone n hn.le)
      · exact heq
    · exact ⟨n, hn.le, (hn.metAt_iff hrun (Nat.le_refl n)).2 ⟨rfl, hend⟩⟩
    · rintro ⟨k, hk, hmet⟩
      rcases Nat.lt_or_eq_of_le hn.le with hlt | rfl
      · exact hn.ended hlt
      · exact ((hn.metAt_iff hrun hk).1 hmet).2
  · refine Classical.byContradiction fun hne => ?_
    rw [answer_terminated hend hne, Noted.result_pure, hend] at hr
    exact Bool.false_ne_true hr.symm

/-- A stock that grows by one in every step, and a condition that sees it one step late. -/
def cistern : String :=
  "stock S \x7b\n\x7d\nflow A \x7b\nto: S\nrate: 1\n\x7d\n" ++
  "terminate \x7b\nwhen: DELAY(S, 1) >= 3\n\x7d"

/-- The condition sees three in the fourth step. That ends the run, and nothing changes after it. -/
theorem run_until_met_cistern :
    (ofText .default cistern).result.isTerminated = false ∧
      (run ⟨1.0, by decide, by decide⟩ 10 (ofText .default cistern).result).result.2 = 4 ∧
      (run ⟨1.0, by decide, by decide⟩ 10
        (ofText .default cistern).result).result.1.isTerminated = true ∧
      answerAll [.step ⟨0.5, by decide, by decide⟩, .run ⟨1.0, by decide, by decide⟩ 10]
          (run ⟨1.0, by decide, by decide⟩ 10 (ofText .default cistern).result).result.1 =
        pure (run ⟨1.0, by decide, by decide⟩ 10 (ofText .default cistern).result).result.1 := by
  have hrun : (ofText .default cistern).result.isTerminated = false := by decide +kernel
  have hmet : (ofText .default cistern).result.MetAt ⟨1.0, by decide, by decide⟩ 4 :=
    ⟨by decide, by decide +kernel⟩
  have hunmet : ∀ k < 4, ¬ (ofText .default cistern).result.MetAt ⟨1.0, by decide, by decide⟩ k := by
    rintro k hk ⟨hpositive, hends⟩
    have hnot : ∀ i < 3, (stepTimes ⟨1.0, by decide, by decide⟩ i
        (ofText .default cistern).result).result.endsNext ⟨1.0, by decide, by decide⟩ = false := by
      decide +kernel
    exact Bool.false_ne_true ((hnot (k - 1) (by omega)).symm.trans hends)
  obtain ⟨hleast, -, hended⟩ :=
    (run_until_met (ofText .default cistern).result ⟨1.0, by decide, by decide⟩ 10).1 hrun
  have hend := hended.2 ⟨4, by decide, hmet⟩
  refine ⟨hrun, hleast 4 ⟨⟨by decide, hmet⟩, fun k ⟨_, hk⟩ => ?_⟩, hend, ?_⟩
  · exact Nat.le_of_not_lt fun hlt => hunmet k hlt hk
  · exact ((run_until_met _ ⟨1.0, by decide, by decide⟩ 10).2.1 hend).1 _ (by simp)

end Model

end SystemDynamics
