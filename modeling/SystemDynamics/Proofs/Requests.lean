import SystemDynamics.Proofs.Progress

/-!
# Requests

A model changes by steps and resets only: a run is steps one after the other, and a run in batches
is runs one after the other. So a relation between two models that a step and a reset keep is kept
by every sequence of requests (`serveAll_related`), and what a step and a reset keep of one model
holds of every model that can be reached (`serveAll_kept`).
-/

namespace SystemDynamics

/-- What a model can be asked to do. -/
inductive Request where
  | step (dt : StepSize)
  | run (dt : StepSize) (steps : Nat)
  | runBatched (dt : StepSize) (size : Option Int) (steps : Nat)
  | reset

namespace Model

/-- The model after a request. -/
def serve (m : Model) : Request → Model
  | .step dt => (m.step dt).result
  | .run dt steps => (run dt steps m).result.1
  | .runBatched dt size steps => (m.runBatched dt size steps).result.model
  | .reset => m.reset.result

/-- The model after several requests, one after the other. -/
def serveAll (m : Model) (requests : List Request) : Model := requests.foldl serve m

/-- The models that a text and any requests lead to. -/
def Reachable (c : Capacities) (text : String) (m : Model) : Prop :=
  ∃ requests, m = (ofText c text).result.serveAll requests

theorem step_terminated {m : Model} (h : m.isTerminated = true) (dt : StepSize) :
    m.step dt = pure m := by
  simp [step, h]

theorem step_running {m : Model} (h : m.isTerminated = false) (dt : StepSize) :
    m.step dt = m.advance dt := by
  simp [step, h]

theorem run_terminated {m : Model} (h : m.isTerminated = true) (dt : StepSize) :
    ∀ steps, run dt steps m = pure (m, 0)
  | 0 => rfl
  | _ + 1 => by simp [run, h]

theorem run_running {m : Model} (h : m.isTerminated = false) (dt : StepSize) (steps : Nat) :
    (run dt (steps + 1) m).result =
      ((run dt steps (m.step dt).result).result.1,
        (run dt steps (m.step dt).result).result.2 + 1) := by
  simp [run, h]

section Related

variable {R : Model → Model → Prop} (hphase : ∀ {m n}, R m n → m.phase = n.phase)
  (hstep : ∀ {m n} dt, R m n → R (m.step dt).result (n.step dt).result)
include hphase hstep

omit hstep in
theorem isTerminated_related {m n : Model} (h : R m n) : m.isTerminated = n.isTerminated := by
  rw [isTerminated, isTerminated, hphase h]

theorem run_related (dt : StepSize) : ∀ (steps : Nat) {m n : Model}, R m n →
    R (run dt steps m).result.1 (run dt steps n).result.1 ∧
      (run dt steps m).result.2 = (run dt steps n).result.2
  | 0, _, _, h => ⟨h, rfl⟩
  | steps + 1, m, n, h => by
    have he := isTerminated_related hphase h
    rcases hm : m.isTerminated with _ | _
    · rw [run_running hm, run_running (he ▸ hm)]
      obtain ⟨hr, ht⟩ := run_related dt steps (hstep dt h)
      exact ⟨hr, congrArg (· + 1) ht⟩
    · rw [run_terminated hm, run_terminated (he ▸ hm)]
      exact ⟨h, rfl⟩

theorem next_related (dt : StepSize) (size : Int) (steps : Nat) {a b : Batches}
    (h : R a.model b.model) (hc : a.completed = b.completed) :
    R (a.next dt size steps).result.1.model (b.next dt size steps).result.1.model ∧
      (a.next dt size steps).result.1.completed = (b.next dt size steps).result.1.completed ∧
      (a.next dt size steps).result.2 = (b.next dt size steps).result.2 := by
  have hchunk : a.chunk size steps = b.chunk size steps := by rw [Batches.chunk, Batches.chunk, hc]
  obtain ⟨hr, ht⟩ := run_related hphase hstep dt (b.chunk size steps).toNat h
  simp only [Batches.next, Noted.result_bind, Noted.result_pure, hchunk, hc, ht]
  exact ⟨hr, trivial, trivial⟩

theorem batchesUpTo_related (dt : StepSize) (size : Int) (steps : Nat) :
    ∀ (limit : Nat) {a b : Batches}, R a.model b.model → a.completed = b.completed →
      R (batchesUpTo dt size steps limit a).result.model
        (batchesUpTo dt size steps limit b).result.model
  | 0, _, _, h, _ => h
  | limit + 1, a, b, h, hc => by
    have hopen : a.isOpen steps = b.isOpen steps := by
      rw [Batches.isOpen, Batches.isOpen, hc, isTerminated_related hphase h]
    obtain ⟨hr, hd, hs⟩ := next_related hphase hstep dt size steps h hc
    rw [batchesUpTo, batchesUpTo, hopen]
    split
    · simp only [Noted.result_bind, hs]
      split
      · exact hr
      · exact batchesUpTo_related dt size steps limit hr hd
    · exact h

theorem runBatched_related (dt : StepSize) (size : Option Int) (steps : Nat) {m n : Model}
    (h : R m n) :
    R (m.runBatched dt size steps).result.model (n.runBatched dt size steps).result.model := by
  rcases batchSize_cases size steps with hsize | ⟨k, -, hk, hsize⟩
  · rw [runBatched_bounded hsize, runBatched_bounded hsize]
    exact batchesUpTo_related hphase hstep dt (batchSize size steps) steps steps h rfl
  · rw [← hsize] at hk
    rw [runBatched_idle hk, runBatched_idle hk]
    exact h

variable (hreset : ∀ {m n}, R m n → R m.reset.result n.reset.result)
include hreset

theorem serve_related {m n : Model} (h : R m n) : ∀ r, R (m.serve r) (n.serve r)
  | .step dt => hstep dt h
  | .run dt steps => (run_related hphase hstep dt steps h).1
  | .runBatched dt size steps => runBatched_related hphase hstep dt size steps h
  | .reset => hreset h

theorem serveAll_related {m n : Model} (h : R m n) :
    ∀ rs, R (m.serveAll rs) (n.serveAll rs) := by
  intro rs
  induction rs generalizing m n with
  | nil => exact h
  | cons r rs ih => exact ih (serve_related hphase hstep hreset h r)

end Related

/-- What a step and a reset keep holds after any requests. -/
theorem serveAll_kept {P : Model → Prop} (hstep : ∀ {m} dt, P m → P (m.step dt).result)
    (hreset : ∀ {m}, P m → P m.reset.result) {m : Model} (h : P m) (rs : List Request) :
    P (m.serveAll rs) := by
  have hrelated : m.serveAll rs = m.serveAll rs ∧ P (m.serveAll rs) := by
    refine serveAll_related (R := fun a b => a = b ∧ P a) (fun h => congrArg phase h.1)
      (fun dt h => ⟨?_, hstep dt h.2⟩) (fun h => ⟨?_, hreset h.2⟩) ⟨rfl, h⟩ rs
    · rw [h.1]
    · rw [h.1]
  exact hrelated.2

end Model

end SystemDynamics
