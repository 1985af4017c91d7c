import SystemDynamics.Command.Execute
import SystemDynamics.Proofs.Announcements
import SystemDynamics.Proofs.Batches
import SystemDynamics.Proofs.LoadingLimits
import SystemDynamics.Proofs.NotANumber
import SystemDynamics.Proofs.Restart

/-!
# The step sizes of requests

A request to run a model gives the size of its steps, or leaves it to the settings, where only a
number above zero is allowed (`Command.settings_dt`). A finite number above zero is a step size, and
the model is run with it. Any other number makes no step (`Command.execute_stepSize`), but only one
that is zero or below it is refused: infinity and what is no number compare with zero in neither way
that is asked for, so they are noticed when the first step is to be made, if one is
(`Command.Request.stepless`).
-/

namespace SystemDynamics

open Noted

/-! ## Settings -/

namespace Settings

theorem positive_pos {d : Datum} {x : Float} (h : positive d = .ok x) : 0.0 < x := by
  simp only [positive, bind, Except.bind] at h
  split at h
  · cases h
  · rename_i y _
    by_cases hy : 0.0 < y
    · rw [if_pos hy] at h
      cases h
      exact hy
    · rw [if_neg hy] at h
      cases h

theorem default_dt : 0.0 < default.dt := by decide

theorem ofEntries_dt {entries : List (String × Datum)} {s : Settings}
    (h : ofEntries entries = .ok s) : 0.0 < s.dt := by
  unfold ofEntries at h
  dsimp only at h
  split at h
  · rename_i dt _ _ _ _ _ hdt _ _ _ _ _
    cases h
    unfold field at hdt
    split at hdt
    · exact positive_pos hdt
    · cases hdt
      exact default_dt
  · cases h

/-- Whatever settings are made from a file, their step size is above zero. -/
theorem ofFile_dt {path : String} {text : Option String} {s : Settings}
    (h : ofFile path text = .ok s) : 0.0 < s.dt := by
  have hsection : ∀ {d : Datum}, ofSection d = .ok s → 0.0 < s.dt := by
    intro d hd
    unfold ofSection at hd
    split at hd
    · split at hd
      · cases hd
      · split at hd
        · rename_i hentries
          cases hd
          exact ofEntries_dt hentries
        · cases hd
    · cases hd
  unfold ofFile at h
  split at h
  · cases h
    exact default_dt
  · split at h
    · unfold ofDocument at h
      split at h
      · exact hsection h
      · split at h
        · exact hsection h
        · cases h
    · cases h

end Settings

/-! ## Runs asked for by data -/

namespace Settings

theorem effectiveBatchSize_nonneg (s : Settings) (steps : Option Int) :
    0 ≤ s.effectiveBatchSize steps := by
  unfold effectiveBatchSize
  split
  · exact Int.natCast_nonneg _
  · exact Int.le_trans (by decide) (Int.le_max_left 1 _)

end Settings

namespace Model

variable {m : Model} {size : Option Int} {steps : Int} {x : Float}

/-- Where no steps are asked for the step size does not count. -/
theorem runBatchedWith_idle (h : steps ≤ 0) (dt : Datum) :
    m.runBatchedWith (.whole steps) dt size = .ok (pure ⟨m, 0, []⟩) := by
  have hcount : stepCount (.whole steps) = .ok 0 :=
    congrArg Except.ok (Int.toNat_eq_zero.2 h)
  simp only [runBatchedWith, hcount, bind, Except.bind]
  rfl

/-- A first step is refused for its size. -/
theorem runBatchedWith_badStepSize (hm : m.isTerminated = false) (hsteps : 0 < steps)
    (hsize : ∀ n ∈ size, 0 ≤ n) (hx : ¬ (x.isFinite = true ∧ 0.0 < x)) :
    m.runBatchedWith (.whole steps) (.real x) size = .error (.badStepSize x) := by
  have hcount : stepCount (.whole steps) = .ok steps.toNat := rfl
  have hbatch : ¬ batchSize size steps.toNat < 0 :=
    Int.not_lt.2 (Int.le_of_lt (batchSize_pos hsize _))
  have hstep : stepSize (.real x) = .error (.badStepSize x) := by
    refine dif_neg fun h => hx ⟨h.1, ?_⟩
    simpa using h.2
  have hopen : (decide (steps.toNat = 0) || m.isTerminated) = false := by
    rw [hm, Bool.or_false]
    exact decide_eq_false (by omega)
  simp only [runBatchedWith, hcount, bind, Except.bind, hopen, hbatch, hstep, if_false,
    Bool.false_eq_true]

end Model

/-- What fails for want of calls has announced nothing either. -/
theorem Noted.Silent.within {α : Type} {x : Noted (Except Fault α)} {y : Noted α}
    {fits deep : Prop} (hy : y.Silent) (h : x.Within y fits deep) : x.Silent := by
  cases h with
  | same result =>
    rw [result, Silent, notices_map]
    exact hy
  | failed _ notices =>
    exact List.prefix_nil.1 (hy ▸ notices.filterMap _)

namespace Command

open Model

variable {files : Files} {r : Request} {s : Settings} {text : String}

theorem settings_dt (h : settings files r = .ok s) : 0.0 < s.dt := by
  unfold settings at h
  split at h
  · cases h
    exact Settings.default_dt
  · rename_i path _
    rcases htext : textAt files path with f | text <;> rw [htext] at h
    · cases h
    · simp only [bind, Except.bind] at h
      rcases hfile : Settings.ofFile path text with e | t <;> rw [hfile] at h
      · cases h
      · cases h
        exact Settings.ofFile_dt hfile

/-! ## What comes of a request -/

/-- The refusal of a step size. -/
def refused : Outcome := ⟨1, [.line "--dt must be positive"], none⟩

theorem printed_refusal : printed [.line "[red]--dt must be positive[/red]"] 1 = refused := by
  have hshown : Markup.printed "[red]--dt must be positive[/red]" = .ok "--dt must be positive" := by
    have hsome : (Markup.printed "[red]--dt must be positive[/red]").toOption =
      some "--dt must be positive" := by decide +kernel
    rcases hprinted : Markup.printed "[red]--dt must be positive[/red]" with e | t <;>
      rw [hprinted] at hsome <;> cases hsome
    rfl
  simp only [printed, Block.shown, hshown]
  rfl

/-- What a request prints of a model after steps. -/
def Request.report (r : Request) (s : Settings) (m : Model) (taken : Nat) : Outcome :=
  let path := tidyPath r.modelPath
  match r.task with
  | .summary => printed (summaryBlocks path m) 0
  | .run | .inspect => if r.json then jsonOutcome m s else printed (runBlocks path m taken) 0

theorem perform_eq (h : r.task ≠ .inspect) (s : Settings) (m : Model) :
    perform r (tidyPath r.modelPath) s m = runAndReport r s m (r.report s) := by
  unfold perform Request.report
  rcases htask : r.task with _ | _ | _
  · rfl
  · exact absurd htask h
  · rfl

theorem runAndReport_stepSize (dt : StepSize) (h : dt.value = r.stepSize s) (m : Model)
    (report : Model → Nat → Outcome) :
    runAndReport r s m report = (fun b => report b.model b.completed) <$>
      m.runBatched dt (some (s.effectiveBatchSize (some (r.total s)))) (r.total s).toNat := by
  have hpositive : ¬ r.stepSize s ≤ 0.0 := fun hle =>
    not_lt_of_le hle (h ▸ dt.positive.mpr rfl)
  unfold runAndReport
  rw [if_neg hpositive, ← h]
  dsimp only
  rw [m.runBatchedWith_whole]
  exact bind_pure_comp _ _

/-- What comes of a step size that is no finite number above zero. Only one that is zero or below it
is refused; another counts for nothing if no step is asked for, and else fails. -/
def Request.stepless (r : Request) (s : Settings) (m : Model) : Outcome :=
  if r.stepSize s ≤ 0.0 then refused
  else if r.total s ≤ 0 then r.report s m 0
  else .failed "ValueError" ("dt must be a positive finite number, got " ++ exactText (r.stepSize s))

theorem runAndReport_stepless (h : ¬ ((r.stepSize s).isFinite = true ∧ 0.0 < r.stepSize s))
    {m : Model} (hm : m.isTerminated = false) :
    runAndReport r s m (r.report s) = pure (r.stepless s m) := by
  unfold runAndReport Request.stepless
  by_cases hle : r.stepSize s ≤ 0.0
  · rw [if_pos hle, if_pos hle, printed_refusal]
  · rw [if_neg hle, if_neg hle]
    by_cases hsteps : r.total s ≤ 0
    · simp only [runBatchedWith_idle hsteps, if_pos hsteps]
      rfl
    · have hsize : ∀ n ∈ some (s.effectiveBatchSize (some (r.total s))), 0 ≤ n := by
        rintro _ ⟨⟩
        exact s.effectiveBatchSize_nonneg _
      simp only [runBatchedWith_badStepSize hm (Int.not_le.1 hsteps) hsize h, if_neg hsteps]
      rfl

/-- The model of a text is running, whatever is done with it. -/
theorem withModel_congr {work other : Model → Noted Outcome}
    (h : ∀ m : Model, m.isTerminated = false → work m = other m) :
    withModel s text work = withModel s text other := by
  unfold withModel
  rcases hcheck : Capacities.check s.historyCapacity s.diagnosticsCapacity with e | c
  · rfl
  · refine Noted.bind_congr (Noted.bind_congr ?_)
    have hwithin := ofDeclarationsWithin_within Depth.standard c (Declaration.ofText text).result
    rcases hmodel : (ofDeclarationsWithin Depth.standard c (Declaration.ofText text).result).result
      with e | m
    · rfl
    · have hm : (ofText c text).result = m := hwithin.result_eq hmodel
      exact h m (hm ▸ ofText_running c text)

theorem withModel_silent {work : Model → Noted Outcome} (h : ∀ m, (work m).Silent) :
    (withModel s text work).Silent := by
  refine Silent.bind (Declaration.ofText_silent text) fun ds => ?_
  split
  · exact silent_pure _
  · refine Silent.bind ((ofDeclarations_silent _ _).within
      (ofDeclarationsWithin_within _ _ _)) fun r => ?_
    split
    · exact silent_pure _
    · exact h _

theorem execute_eq (htask : r.task ≠ .inspect) (hsettings : settings files r = .ok s)
    (htext : textAt files (tidyPath r.modelPath) = .ok (some text)) :
    execute files r = withModel s text fun m => runAndReport r s m (r.report s) := by
  unfold execute
  simp only [hsettings, htext]
  exact congrArg (withModel s text) (funext fun m => perform_eq htask s m)

/-- What comes of a request to run a model that there is, by its step size, whether this is given or
comes from the settings, where it is above zero. With a step size the model is run, and what is
printed of it is what comes of it. Without one no step is made, and the request is refused if the
number is zero or below it. One that is infinite or no number passes this check: a request for a
step fails, and one for none succeeds. -/
theorem execute_stepSize (htask : r.task ≠ .inspect) (hsettings : settings files r = .ok s)
    (htext : textAt files (tidyPath r.modelPath) = .ok (some text)) :
    0.0 < s.dt ∧
    (∀ dt : StepSize, dt.value = r.stepSize s →
      execute files r = withModel s text fun m =>
        (fun b => r.report s b.model b.completed) <$>
          m.runBatched dt (some (s.effectiveBatchSize (some (r.total s)))) (r.total s).toNat) ∧
    (¬ ((r.stepSize s).isFinite = true ∧ 0.0 < r.stepSize s) →
      execute files r = withModel s text (fun m => pure (r.stepless s m)) ∧
      Notice.events (execute files r).notices = []) := by
  refine ⟨settings_dt hsettings, fun dt hdt => ?_, fun h => ?_⟩
  · rw [execute_eq htask hsettings htext]
    exact congrArg (withModel s text) (funext fun m => runAndReport_stepSize dt hdt m _)
  · have hstepless : execute files r = withModel s text fun m => pure (r.stepless s m) := by
      rw [execute_eq htask hsettings htext]
      exact withModel_congr fun m hm => runAndReport_stepless h hm
    refine ⟨hstepless, ?_⟩
    rw [hstepless]
    exact withModel_silent fun _ => silent_pure _

section Unbounded

/-- A model of one stock. -/
def oneStock : Files := fun path =>
  if path = "model.sd" then .file "stock S \x7b\n\x7d" else .absent

/-- One step of no finite size. -/
def unbounded : Request := ⟨.run, "model.sd", some 1, some (1.0 / 0.0), false, none⟩

theorem execute_stepSize_unbounded :
    unbounded.task ≠ .inspect ∧ settings oneStock unbounded = .ok .default ∧
      textAt oneStock (tidyPath unbounded.modelPath) = .ok (some "stock S \x7b\n\x7d") ∧
      (execute oneStock unbounded).result.failure =
        some ⟨"ValueError", "dt must be a positive finite number, got inf"⟩ ∧
      Notice.events (execute oneStock unbounded).notices = [] := by
  have htask : unbounded.task ≠ .inspect := by decide
  have hsettings : settings oneStock unbounded = .ok .default := rfl
  have htext : textAt oneStock (tidyPath unbounded.modelPath) =
      .ok (some "stock S \x7b\n\x7d") := rfl
  obtain ⟨-, -, hstepless⟩ := execute_stepSize htask hsettings htext
  obtain ⟨hexecute, hevents⟩ := hstepless (by decide)
  refine ⟨htask, hsettings, htext, ?_, hevents⟩
  rw [hexecute]
  decide +kernel

/-- On the command line a step size of infinity ends in a failure, or is as good as any other where
no step is asked for. -/
theorem ofArguments_unbounded :
    Request.ofArguments? ["run", "model.sd", "--dt", "inf", "--steps", "1"] = some unbounded ∧
      (ofArguments oneStock ["run", "model.sd", "--dt", "inf", "--steps", "1"]).result.failure =
        some ⟨"ValueError", "dt must be a positive finite number, got inf"⟩ ∧
      (ofArguments oneStock ["run", "model.sd", "--dt", "inf", "--steps", "0"]).result.status = 0 :=
  ⟨rfl, by decide +kernel, by decide +kernel⟩

end Unbounded

end Command

end SystemDynamics
