import SystemDynamics.Proofs.Requests

/-!
# The outcome of a step

Evaluating reads the scope and the delay slots of a model and nothing else, and what it reports
only goes into the diagnostics. So the outcome of a step, the diagnostics apart, is a function of
the rest of the model (`advance_result`), and two models that agree in all but their diagnostics
still do after the same requests (`Agrees.serveAll`).
-/

namespace SystemDynamics

/-- The answer as a rate. -/
def Answer.amount : Answer → Float
  | number x => x
  | truth b => if b then 1.0 else 0.0

/-- The answer as a condition. -/
def Answer.holds : Answer → Bool
  | number x => !(x == 0.0)
  | truth b => b

/-- The value of a formula and the slots that it leaves. -/
def Formula.read (f : Formula) (s : Scope) (slots : List Slot) : Answer × List Slot :=
  ((f.evaluate s ⟨slots, []⟩).1, (f.evaluate s ⟨slots, []⟩).2.slots)

/-- The amount of a supplied rate, none if it is no finite number. -/
def Supplied.amount (dt : Float) (p : Supplied) : Float :=
  match p.number with
  | .error _ => 0.0
  | .ok x => if x.isFinite then x * dt else 0.0

/-- The amount that a flow moves and the slots that finding it leaves. -/
def Flow.amountIn (dt : Float) (s : Scope) (slots : List Slot) (f : Flow) : Float × List Slot :=
  match f.rate with
  | .fixed x => (x * dt, slots)
  | .supplied p => (p.amount dt, slots)
  | .formula g => ((g.read s slots).1.amount * dt, (g.read s slots).2)

/-- The transfer of an amount along a flow. -/
def Flow.transfer (f : Flow) (amount : Float) : Transfer Float :=
  ⟨f.source.account?, f.target.account?, amount⟩

/-- The transfers of a step and the slots that finding them leaves. -/
def transfersIn (dt : Float) (s : Scope) :
    List (String × Flow) → List Slot → List (Transfer Float) × List Slot
  | [], slots => ([], slots)
  | (_, f) :: rest, slots =>
    let (amount, slots) := f.amountIn dt s slots
    let (others, slots) := transfersIn dt s rest slots
    (f.transfer amount :: others, slots)

/-- Whether a condition is met and the slots that asking leaves. -/
def Condition.metIn (s : Scope) (slots : List Slot) : Condition → Bool × List Slot
  | .supplied p => (p.truth.toOption.getD false, slots)
  | .formula f => ((f.read s slots).1.holds, (f.read s slots).2)

/-- Whether the condition that ends a run is met; none never is. -/
def endIn (s : Scope) (slots : List Slot) : Option Condition → Bool × List Slot
  | none => (false, slots)
  | some c => c.metIn s slots

namespace Model

/-- The model with a step size on its clock. -/
def withStepSize (m : Model) (dt : Float) : Model := { m with clock := { m.clock with dt } }

/-- The transfers that a step makes and the slots that finding them leaves. -/
def stepTransfers (m : Model) (dt : Float) : List (Transfer Float) × List Slot :=
  transfersIn dt (m.withStepSize dt).scope m.flows.entries m.slots

/-- The model when a step has moved the amounts, and has still to ask whether the run ends. -/
def moved (m : Model) (dt : Float) : Model :=
  ((({ m.withStepSize dt with slots := (m.stepTransfers dt).2 } : Model).move
    (m.stepTransfers dt).1).tick dt).record

/-- The model after a step, with the diagnostics of the model before it. -/
def advanced (m : Model) (dt : Float) : Model :=
  { m.moved dt with
    slots := (endIn (m.moved dt).scope (m.moved dt).slots m.termination).2
    phase :=
      if (endIn (m.moved dt).scope (m.moved dt).slots m.termination).1 then .terminated
      else m.phase }

theorem reportNow_result (m : Model) (source message : String) :
    ∃ d, (m.reportNow source message).result = { m with diagnostics := d } :=
  ⟨_, rfl⟩

theorem evaluate_result (m : Model) (f : Formula) :
    ∃ d, (m.evaluate f).result =
      ({ m with slots := (f.read m.scope m.slots).2, diagnostics := d },
        (f.read m.scope m.slots).1) :=
  ⟨_, rfl⟩

theorem flowAmount_result (m : Model) (dt : Float) (name : String) (f : Flow) :
    ∃ d, (m.flowAmount dt name f).result =
      ({ m with slots := (f.amountIn dt m.scope m.slots).2, diagnostics := d },
        (f.amountIn dt m.scope m.slots).1) := by
  rcases hr : f.rate with x | g | p
  · exact ⟨m.diagnostics, by simp only [flowAmount, Flow.amountIn, hr, Noted.result_pure]⟩
  · obtain ⟨d, hd⟩ := m.evaluate_result g
    refine ⟨d, ?_⟩
    simp only [flowAmount, Flow.amountIn, hr, Noted.result_bind, hd]
    rcases (g.read m.scope m.slots).1 with x | b <;> rfl
  · rcases hp : p.number with e | x
    · obtain ⟨d, hd⟩ := m.reportNow_result ("flow " ++ name) e.report
      refine ⟨d, ?_⟩
      simp only [flowAmount, suppliedAmount, Flow.amountIn, Supplied.amount, hr, hp,
        Noted.result_bind, Noted.result_pure, hd]
    · rcases hx : x.isFinite with _ | _
      · obtain ⟨d, hd⟩ := m.reportNow_result ("flow " ++ name) ("non-finite rate " ++ exactText x)
        refine ⟨d, ?_⟩
        simp [flowAmount, suppliedAmount, Flow.amountIn, Supplied.amount, hr, hp, hx, hd]
      · refine ⟨m.diagnostics, ?_⟩
        simp [flowAmount, suppliedAmount, Flow.amountIn, Supplied.amount, hr, hp, hx]

theorem transfersOf_result (dt : Float) : ∀ (es : List (String × Flow)) (m : Model),
    ∃ d, (transfersOf dt es m).result =
      ({ m with slots := (transfersIn dt m.scope es m.slots).2, diagnostics := d },
        (transfersIn dt m.scope es m.slots).1)
  | [], m => ⟨m.diagnostics, rfl⟩
  | (name, f) :: rest, m => by
    obtain ⟨d, hd⟩ := m.flowAmount_result dt name f
    obtain ⟨d', hd'⟩ := transfersOf_result dt rest
      { m with slots := (f.amountIn dt m.scope m.slots).2, diagnostics := d }
    refine ⟨d', ?_⟩
    simp only [transfersOf, Noted.result_bind, Noted.result_pure, hd, hd']
    rfl

theorem endReached_result (m : Model) :
    ∃ d, m.endReached.result =
      ({ m with slots := (endIn m.scope m.slots m.termination).2, diagnostics := d },
        (endIn m.scope m.slots m.termination).1) := by
  rcases ht : m.termination with _ | f | p
  · have hend : m.endReached.result = (m, false) := by
      simp only [endReached, ht, Noted.result_pure]
    exact ⟨m.diagnostics, by rw [← ht, hend]; simp only [ht, endIn]; rw [← ht]⟩
  · obtain ⟨d, hd⟩ := m.evaluate_result f
    have hend : m.endReached.result =
        ({ m with slots := (f.read m.scope m.slots).2, diagnostics := d },
          (f.read m.scope m.slots).1.holds) := by
      simp only [endReached, ht, Noted.result_bind, hd]
      rcases (f.read m.scope m.slots).1 with x | b <;> rfl
    exact ⟨d, by rw [← ht, hend]; simp only [ht, endIn, Condition.metIn]⟩
  · rcases hp : p.truth with e | b
    · obtain ⟨d, hd⟩ := m.reportNow_result "terminate" e.report
      have hend : m.endReached.result = ({ m with diagnostics := d }, false) := by
        simp only [endReached, ht, hp, Noted.result_bind, Noted.result_pure, hd]
      exact ⟨d, by rw [← ht, hend]; simp only [ht, hp, endIn, Condition.metIn]; rfl⟩
    · have hend : m.endReached.result = (m, b) := by
        simp only [endReached, ht, hp, Noted.result_pure]
      refine ⟨m.diagnostics, ?_⟩
      rw [← ht, hend]
      simp only [ht, hp, endIn, Condition.metIn]
      rw [← ht]
      rfl

/-- What a step of a run that has not ended does. -/
theorem advance_result (m : Model) (dt : StepSize) :
    ∃ d, (m.advance dt).result = { m.advanced dt.value with diagnostics := d } := by
  obtain ⟨d, hd⟩ := transfersOf_result dt.value m.flows.entries (m.withStepSize dt.value)
  obtain ⟨d', hd'⟩ := endReached_result { m.moved dt.value with diagnostics := d }
  refine ⟨d', ?_⟩
  have hadvance : (m.advance dt).result =
      (if (endReached { m.moved dt.value with diagnostics := d }).result.2 then
        { (endReached { m.moved dt.value with diagnostics := d }).result.1 with
          phase := .terminated }
      else (endReached { m.moved dt.value with diagnostics := d }).result.1) := by
    have hstart : (transfersOf dt.value m.flows.entries
        { m with clock := { m.clock with dt := dt.value } }).result = _ := hd
    simp only [advance, Noted.result_bind, hstart]
    split <;> rename_i h
    · exact (if_pos h).symm
    · exact (if_neg h).symm
  have hend : (endReached { m.moved dt.value with diagnostics := d }).result =
      ({ m.moved dt.value with
          slots := (endIn (m.moved dt.value).scope (m.moved dt.value).slots m.termination).2
          diagnostics := d' },
        (endIn (m.moved dt.value).scope (m.moved dt.value).slots m.termination).1) := hd'
  rw [hadvance, hend, advanced]
  rcases (endIn (m.moved dt.value).scope (m.moved dt.value).slots m.termination).1 with _ | _
  · rfl
  · rfl

/-- What a step finds before it moves anything: the transfers, and the model that finding them
leaves. -/
def found (m : Model) (dt : StepSize) : Model × List (Transfer Float) :=
  (transfersOf dt.value m.flows.entries (m.withStepSize dt.value)).result

theorem found_transfers (m : Model) (dt : StepSize) :
    (m.found dt).2 = (m.stepTransfers dt.value).1 := by
  obtain ⟨d, hd⟩ := transfersOf_result dt.value m.flows.entries (m.withStepSize dt.value)
  rw [found, hd]
  rfl

theorem found_slots (m : Model) (dt : StepSize) :
    (m.found dt).1.slots = (m.stepTransfers dt.value).2 := by
  obtain ⟨d, hd⟩ := transfersOf_result dt.value m.flows.entries (m.withStepSize dt.value)
  rw [found, hd]
  rfl

theorem flowAmount_value (m : Model) (dt : Float) (name : String) (f : Flow) :
    (m.flowAmount dt name f).result.2 = (f.amountIn dt m.scope m.slots).1 := by
  obtain ⟨d, hd⟩ := m.flowAmount_result dt name f
  rw [hd]

theorem step_stocks {m : Model} (hrun : m.isTerminated = false) (dt : StepSize) :
    (m.step dt).result.stocks = (m.moved dt.value).stocks := by
  obtain ⟨d, hd⟩ := m.advance_result dt
  rw [step_running hrun, hd]
  rfl

theorem step_slots {m : Model} (hrun : m.isTerminated = false) (dt : StepSize) :
    (m.step dt).result.slots =
      (endIn (m.moved dt.value).scope (m.stepTransfers dt.value).2 m.termination).2 := by
  obtain ⟨d, hd⟩ := m.advance_result dt
  rw [step_running hrun, hd]
  rfl

/-- The second model is the first with other diagnostics, if anything is other. -/
def Agrees (m n : Model) : Prop := ∃ d, n = { m with diagnostics := d }

theorem Agrees.refl (m : Model) : m.Agrees m := ⟨m.diagnostics, rfl⟩

theorem Agrees.symm {m n : Model} (h : m.Agrees n) : n.Agrees m := by
  obtain ⟨d, rfl⟩ := h
  exact ⟨m.diagnostics, rfl⟩

theorem Agrees.trans {m n o : Model} (h : m.Agrees n) (h' : n.Agrees o) : m.Agrees o := by
  obtain ⟨d, rfl⟩ := h
  obtain ⟨d', rfl⟩ := h'
  exact ⟨d', rfl⟩

theorem Agrees.phase {m n : Model} (h : m.Agrees n) : m.phase = n.phase := by
  obtain ⟨d, rfl⟩ := h
  rfl

theorem Agrees.step {m n : Model} (dt : StepSize) (h : m.Agrees n) :
    (m.step dt).result.Agrees (n.step dt).result := by
  obtain ⟨d, rfl⟩ := h
  rcases hm : m.isTerminated with _ | _
  · obtain ⟨d₁, h₁⟩ := m.advance_result dt
    obtain ⟨d₂, h₂⟩ := advance_result { m with diagnostics := d } dt
    rw [step_running hm, step_running (m := { m with diagnostics := d }) hm, h₁, h₂]
    exact ⟨d₂, rfl⟩
  · rw [step_terminated hm, step_terminated (m := { m with diagnostics := d }) hm]
    exact ⟨d, rfl⟩

theorem Agrees.reset {m n : Model} (h : m.Agrees n) : m.reset.result.Agrees n.reset.result := by
  obtain ⟨d, rfl⟩ := h
  exact ⟨d, rfl⟩

/-- Models that agree in all but their diagnostics still do after the same requests. -/
theorem Agrees.serveAll {m n : Model} (h : m.Agrees n) (rs : List Request) :
    (m.serveAll rs).Agrees (n.serveAll rs) :=
  serveAll_related (fun h => h.phase) (fun dt h => h.step dt) (fun h => h.reset) h rs

end Model

end SystemDynamics
