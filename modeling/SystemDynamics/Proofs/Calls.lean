import SystemDynamics.Proofs.Batches
import SystemDynamics.Proofs.Restart

/-!
# Calls

A caller asks a model for steps and runs with data of any kind. Data that are refused leave the
model as it is; otherwise a call comes to single steps and resets (`Invocation.acts`), one after the
other, and notes what they note (`call_acts`). So a model changes by nothing else
(`invokeAll_acts`). A run in batches of a size below zero makes no step.
-/

namespace SystemDynamics

/-- What a caller can ask a model to do. -/
inductive Invocation where
  | step (dt : Datum)
  | run (steps dt : Datum)
  | runBatched (steps dt : Datum) (size : Option Int)
  | reset

/-- A single step, or a reset. -/
inductive Act where
  | step (dt : StepSize)
  | reset

/-- The steps of a run asked for by data, none if the data are refused. -/
def Act.steps (steps dt : Datum) : List Act :=
  match Model.stepCount steps, Model.stepSize dt with
  | .ok n, .ok d => .replicate n (.step d)
  | _, _ => []

/-- The steps and resets that a call asks for. -/
def Invocation.acts : Invocation → List Act
  | step dt => Act.steps (.whole 1) dt
  | run steps dt => Act.steps steps dt
  | runBatched steps dt size => if ∃ n ∈ size, n < 0 then [] else Act.steps steps dt
  | reset => [.reset]

namespace Model

/-- The model after a call. A call that is refused leaves it as it is. -/
def invoke (m : Model) : Invocation → Model
  | .step dt =>
    match stepSize dt with
    | .ok d => (m.step d).result
    | .error _ => m
  | .run steps dt =>
    match m.runWith steps dt with
    | .ok r => r.result.1
    | .error _ => m
  | .runBatched steps dt size =>
    match m.runBatchedWith steps dt size with
    | .ok b => b.result.model
    | .error _ => m
  | .reset => m.reset.result

/-- The model after several calls, one after the other. -/
def invokeAll (m : Model) (calls : List Invocation) : Model := calls.foldl invoke m

/-- The model after a step or a reset. -/
def act (m : Model) : Act → Model
  | .step dt => (m.step dt).result
  | .reset => m.reset.result

/-- The model after several steps and resets, one after the other. -/
def actAll (m : Model) (acts : List Act) : Model := acts.foldl act m

theorem actAll_append (m : Model) (acts later : List Act) :
    m.actAll (acts ++ later) = (m.actAll acts).actAll later :=
  List.foldl_append

/-- What a step and a reset keep holds after any acts. -/
theorem actAll_kept {P : Model → Prop} (hstep : ∀ {m} dt, P m → P (m.step dt).result)
    (hreset : ∀ {m}, P m → P m.reset.result) :
    ∀ (acts : List Act) {m : Model}, P m → P (m.actAll acts)
  | [], _, h => h
  | .step dt :: acts, _, h => actAll_kept hstep hreset acts (hstep dt h)
  | .reset :: acts, _, h => actAll_kept hstep hreset acts (hreset h)

/-- A step or a reset, with what is noted on the way. -/
def enact (m : Model) : Act → Noted Model
  | .step dt => m.step dt
  | .reset => m.reset

/-- Several steps and resets, one after the other, with what is noted on the way. -/
def enactAll : List Act → Model → Noted Model
  | [], m => pure m
  | a :: acts, m => do enactAll acts (← m.enact a)

theorem enactAll_append (later : List Act) : ∀ (acts : List Act) (m : Model),
    enactAll (acts ++ later) m = enactAll acts m >>= enactAll later
  | [], m => (pure_bind m _).symm
  | a :: acts, m => by
    rw [List.cons_append, enactAll, enactAll, bind_assoc]
    exact Noted.bind_congr (enactAll_append later acts _)

theorem enactAll_result : ∀ (acts : List Act) (m : Model),
    (enactAll acts m).result = m.actAll acts
  | [], _ => rfl
  | .step dt :: acts, m => enactAll_result acts (m.step dt).result
  | .reset :: acts, m => enactAll_result acts m.reset.result

/-- A call, with what is noted on the way. One that is refused leaves the model as it is. -/
def call (m : Model) : Invocation → Noted Model
  | .step dt =>
    match stepSize dt with
    | .ok d => m.step d
    | .error _ => pure m
  | .run steps dt =>
    match m.runWith steps dt with
    | .ok r => Prod.fst <$> r
    | .error _ => pure m
  | .runBatched steps dt size =>
    match m.runBatchedWith steps dt size with
    | .ok b => Batches.model <$> b
    | .error _ => pure m
  | .reset => m.reset

theorem call_result (m : Model) (c : Invocation) : (m.call c).result = m.invoke c := by
  cases c <;> simp only [call, invoke] <;> split <;> rfl

/-- A model that has ended is not changed by further steps, which note nothing. -/
theorem enactAll_terminated {m : Model} (h : m.isTerminated = true) (dt : StepSize) :
    ∀ n, enactAll (List.replicate n (.step dt)) m = pure m
  | 0 => rfl
  | n + 1 => by
    rw [List.replicate_succ, enactAll, enact, step_terminated h, pure_bind]
    exact enactAll_terminated h dt n

/-- A run is so many steps; those after the model has ended change nothing. -/
theorem run_acts (dt : StepSize) : ∀ (n : Nat) (m : Model),
    Prod.fst <$> run dt n m = enactAll (List.replicate n (.step dt)) m
  | 0, _ => rfl
  | n + 1, m => by
    rcases h : m.isTerminated with _ | _
    · rw [run_step h, map_bind, List.replicate_succ, enactAll]
      refine Noted.bind_congr ?_
      rw [Functor.map_map]
      exact run_acts dt n (m.step dt).result
    · rw [run_terminated h, enactAll_terminated h]
      rfl

theorem runBatched_acts {size : Option Int} (hsize : ∀ n ∈ size, 0 ≤ n) (dt : StepSize) (n : Nat)
    (m : Model) :
    Batches.model <$> m.runBatched dt size n = enactAll (List.replicate n (.step dt)) m := by
  have houtcome : Batches.outcome <$> m.runBatched dt size n = run dt n m := by
    rw [runBatched_bounded (batchSize_pos hsize n),
      batchesUpTo_outcome (batchSize_pos hsize n) dt n _ _ (Nat.sub_le _ _)]
    simp
  rw [← run_acts, ← houtcome, Functor.map_map]
  rfl

/-- No step is made where none is asked for, and none once the model has ended. -/
theorem steps_idle {m : Model} {steps : Datum} {n : Nat} (hn : stepCount steps = .ok n)
    (hidle : (n = 0 || m.isTerminated) = true) (dt : Datum) :
    enactAll (Act.steps steps dt) m = pure m := by
  unfold Act.steps
  rw [hn]
  rcases stepSize dt with e | d
  · rfl
  · simp only [Bool.or_eq_true, decide_eq_true_eq] at hidle
    rcases hidle with rfl | hend
    · rfl
    · exact enactAll_terminated hend d n

theorem call_step (m : Model) (dt : Datum) :
    m.call (.step dt) = enactAll (Act.steps (.whole 1) dt) m := by
  have hone : stepCount (.whole 1) = .ok 1 := rfl
  simp only [call, Act.steps, hone]
  rcases stepSize dt with e | d
  · rfl
  · exact (bind_pure (m.step d)).symm

theorem call_run (m : Model) (steps dt : Datum) :
    m.call (.run steps dt) = enactAll (Act.steps steps dt) m := by
  simp only [call, runWith]
  rcases hn : stepCount steps with e | n
  · simp only [Act.steps, hn]
    rfl
  · simp only [bind, Except.bind]
    by_cases hidle : (n = 0 || m.isTerminated) = true
    · rw [if_pos hidle, steps_idle hn hidle]
      rfl
    · rw [if_neg hidle]
      rcases hd : stepSize dt with e | d <;> simp only [Act.steps, hn, hd]
      · rfl
      · exact run_acts d n m

theorem call_runBatched (m : Model) (steps dt : Datum) {size : Option Int}
    (hsize : ∀ n ∈ size, 0 ≤ n) :
    m.call (.runBatched steps dt size) = enactAll (Act.steps steps dt) m := by
  simp only [call, runBatchedWith]
  rcases hn : stepCount steps with e | n
  · simp only [Act.steps, hn]
    rfl
  · simp only [bind, Except.bind]
    by_cases hidle : (n = 0 || m.isTerminated) = true
    · rw [if_pos hidle, steps_idle hn hidle]
      rfl
    · have hpositive := batchSize_pos hsize n
      rw [if_neg hidle, if_neg (by omega)]
      rcases hd : stepSize dt with e | d <;> simp only [Act.steps, hn, hd]
      · rfl
      · exact runBatched_acts hsize d n m

theorem call_runBatched_negative (m : Model) (steps dt : Datum) {n : Int} (hn : n < 0) :
    m.call (.runBatched steps dt (some n)) = pure m := by
  simp only [call, runBatchedWith]
  rcases stepCount steps with e | k
  · rfl
  · simp only [bind, Except.bind]
    by_cases hidle : (k = 0 || m.isTerminated) = true
    · rw [if_pos hidle]
      rfl
    · have hsize : batchSize (some n) k < 0 := by rwa [batchSize_negative hn]
      rw [if_neg hidle, if_pos hsize, runBatched_idle hsize]
      rfl

/-- A call comes to steps and resets, one after the other, and notes what they note. -/
theorem call_acts (m : Model) (c : Invocation) : m.call c = enactAll c.acts m := by
  rcases c with dt | ⟨steps, dt⟩ | ⟨steps, dt, size⟩ | _
  · exact m.call_step dt
  · exact m.call_run steps dt
  · rw [Invocation.acts]
    split
    · rename_i hnegative
      obtain ⟨n, hsize, hn⟩ := hnegative
      rw [Option.mem_def.1 hsize, m.call_runBatched_negative steps dt hn]
      rfl
    · rename_i hnegative
      exact m.call_runBatched steps dt fun n hsize =>
        Int.not_lt.1 fun hn => hnegative ⟨n, hsize, hn⟩
  · exact (bind_pure m.reset).symm

theorem invoke_acts (m : Model) (c : Invocation) : m.invoke c = m.actAll c.acts := by
  rw [← call_result, call_acts, enactAll_result]

/-- Calls come to steps and resets, one after the other. -/
theorem invokeAll_acts (calls : List Invocation) : ∀ m : Model,
    m.invokeAll calls = m.actAll (calls.flatMap Invocation.acts) := by
  induction calls with
  | nil => exact fun _ => rfl
  | cons c calls ih =>
    intro m
    rw [List.flatMap_cons, actAll_append, ← invoke_acts]
    exact ih (m.invoke c)

/-- The model that a text makes, after some calls. -/
def after (c : Capacities) (text : String) (calls : List Invocation) : Model :=
  (ofText c text).result.invokeAll calls

theorem after_design (c : Capacities) (text : String) (calls : List Invocation) :
    (after c text calls).design = (ofText c text).result.design := by
  rw [after, invokeAll_acts]
  exact actAll_kept (P := fun n => n.design = (ofText c text).result.design)
    (fun {n} dt h => (n.step_design dt).trans h) (fun {n} h => n.reset_design.trans h) _ rfl

end Model

end SystemDynamics
