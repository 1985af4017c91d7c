import SystemDynamics.Proofs.Loading

/-!
# The answers of formulas

A formula has an answer in every model: a finite number or a truth value, whatever goes wrong.
Evaluating reports failed lookups only (`Evaluation.closed_reports`); if it fails, or gives a number
that is not finite, the answer is the fallback and one report of the formula's own comes after them
(`Formula.evaluate_of_body`). A text that is no expression is reported when the formula is made, and
never again. Beside the diagnostics, a call changes only slots that were claimed when the formula
was made (`Model.compile_call`). Only a text that nests too deeply makes no formula
(`Model.compileWithin_call`).
-/

namespace SystemDynamics

/-- The report of a lookup that failed in the scope. -/
def Scope.FailedLookup (s : Scope) (d : Diagnostic) : Prop :=
  d.source ∈ Evaluation.tableFunctions ∧ d.time = s.time?

namespace Evaluation

/-- The computation only adds reports, and only of failed lookups. -/
def Reports (s : Scope) {α : Type} (e : Evaluation α) : Prop :=
  ∀ m, ∃ added, (e.run m).2.reports = m.reports ++ added ∧ ∀ d ∈ added, s.FailedLookup d

variable {α β : Type} {s : Scope}

theorem Reports.bind {e : Evaluation α} {f : α → Evaluation β} (he : Reports s e)
    (hf : ∀ a, Reports s (f a)) : Reports s (e >>= f) := by
  intro m
  obtain ⟨added, hadded, hfailed⟩ := he m
  rw [run_bind]
  rcases hr : e.run m with ⟨x | a, n⟩ <;> rw [hr] at hadded
  · exact ⟨added, hadded, hfailed⟩
  · obtain ⟨more, hmore, hfailed'⟩ := hf a n
    refine ⟨added ++ more, by rw [hmore, hadded, List.append_assoc], fun d hd => ?_⟩
    exact (List.mem_append.1 hd).elim (hfailed d) (hfailed' d)

/-- A computation that reports nothing. -/
theorem reports_of_silent {e : Evaluation α} (h : ∀ m, (e.run m).2.reports = m.reports) :
    Reports s e := by
  intro m
  refine ⟨[], ?_, fun d hd => (List.not_mem_nil hd).elim⟩
  rw [h, List.append_nil]

theorem reports_failLookup {source : String} (hsource : source ∈ tableFunctions)
    (message : String) : Reports s (failLookup source message s.time?) := by
  refine fun m => ⟨[⟨source, message, s.time?⟩], rfl, fun d hd => ?_⟩
  rw [List.mem_singleton.1 hd]
  exact ⟨hsource, rfl⟩

theorem reports_delay (clock : Option Clock) (kind : DelayKind) (slot : Nat)
    (value parameter : Except Fault Float) : Reports s (delay clock kind slot value parameter) := by
  refine reports_of_silent fun m => ?_
  rcases h : m.slots[slot]? with _ | place
  · rw [delay_run_none h]
  · rcases clock with _ | c
    · rfl
    · rw [delay_run h]

/-- The computations that evaluating is made of report failed lookups only. -/
theorem closed_reports (s : Scope) (calls : List (DelayKind × Nat)) :
    Closed s calls fun _ e => Reports s e where
  bind := Reports.bind
  outcome _ := reports_of_silent fun _ => rfl
  failLookup message hsource := reports_failLookup hsource message
  delay kind _ value parameter _ := reports_delay _ kind _ value parameter

theorem reports_eval (s : Scope) (c : Code) : Reports s (c.eval s) :=
  (closed_reports s c.delays).eval c (List.Subset.refl _)

end Evaluation

namespace Purpose

/-- The answers for a purpose. -/
def Admits : Purpose → Answer → Prop
  | number, .number x => x.isFinite = true
  | condition, .truth _ => True
  | number, .truth _ | condition, .number _ => False

/-- The answer that a value gives. A number has to be finite, and what is no number counts as
false. -/
def answerOf : Purpose → Value → Except Fault Answer
  | number, v => v.toReal.bind fun x =>
    if x.isFinite then .ok (.number x) else .error (.nonFinite x)
  | condition, .undefined _ => .ok (.truth false)
  | condition, .real x => .ok (.truth (!x.isNaN && (Value.real x).holds))
  | condition, .truth b => .ok (.truth b)
  | condition, .whole n => .ok (.truth (n != 0))

theorem admits_fallback (p : Purpose) : p.Admits p.fallback := by
  rcases p with _ | _
  · change (0.0 : Float).isFinite = true
    decide
  · trivial

theorem admits_answerOf {p : Purpose} {v : Value} {a : Answer} (h : p.answerOf v = .ok a) :
    p.Admits a := by
  rcases p with _ | _
  · rcases hx : v.toReal with e | x <;> simp only [answerOf, hx, Except.bind] at h
    · cases h
    · split at h <;> cases h
      assumption
  · rcases v with b | n | x | origin <;> cases h <;> trivial

end Purpose

namespace Formula

/-- What evaluating code in a model comes to, before a fallback. -/
def attempt (p : Purpose) (c : Code) (s : Scope) (m : Memory) : Except Fault Answer :=
  ((c.eval s).run m).1.bind p.answerOf

theorem admits_attempt {p : Purpose} {c : Code} {s : Scope} {m : Memory} {a : Answer}
    (h : attempt p c s m = .ok a) : p.Admits a := by
  unfold attempt at h
  rcases hv : ((c.eval s).run m).1 with e | v <;> rw [hv] at h
  · cases h
  · exact Purpose.admits_answerOf h

theorem answer_run (s : Scope) (c : Code) (p : Purpose) (m : Memory) :
    (answer s c p).run m = (attempt p c s m, ((c.eval s).run m).2) := by
  rcases p with _ | _
  · simp only [answer, Code.evalNumber, attempt, run_bind]
    rcases (c.eval s).run m with ⟨e | v, n⟩
    · rfl
    · simp only [Purpose.answerOf, Except.bind]
      rcases v.toReal with e | x
      · rfl
      · have houtcome : (Evaluation.outcome (.ok x)).run n = (.ok x, n) := rfl
        rw [houtcome]
        rcases hx : x.isFinite with _ | _ <;> simp only [hx] <;> rfl
  · simp only [answer, Code.evalTruth, attempt, run_bind]
    rcases (c.eval s).run m with ⟨e | v, n⟩
    · rfl
    · rcases v with b | n | x | origin <;> rfl

/-- The formula's own report of a fault. -/
def report (f : Formula) (time : Option Float) (e : Fault) : Diagnostic :=
  ⟨f.source, f.failureText e, time⟩

theorem evaluate_of_body {f : Formula} {c : Code} (h : f.body = .ok c) (s : Scope) (m : Memory) :
    f.evaluate s m =
      match attempt f.purpose c s m with
      | .ok a => (a, ((c.eval s).run m).2)
      | .error e => (f.purpose.fallback, ((c.eval s).run m).2.report (f.report s.time? e)) := by
  simp only [evaluate, h, answer_run]
  rcases attempt f.purpose c s m with e | a <;> rfl

end Formula

namespace Model

/-- A call of the formula in the model `n`, which leaves the model `n'` and gives an answer, where
the slots from `low` up to `high` have been claimed when the formula was made. -/
structure Call (f : Formula) (low high : Nat) (n n' : Model) (a : Answer) : Prop where
  /-- The answer is a finite number, or a truth value. -/
  admits : f.purpose.Admits a
  /-- Beside slots and diagnostics nothing changes. -/
  rest : n' = { n with slots := n'.slots, diagnostics := n'.diagnostics }
  labels : n'.slots.map Slot.clear = n.slots.map Slot.clear
  frame : ∀ i, ¬ (low ≤ i ∧ i < high) → n'.slots[i]? = n.slots[i]?
  /-- A text that is no expression gives the fallback and reports nothing. -/
  unread : ∀ e, f.body = .error e → a = f.purpose.fallback ∧ n' = n
  /-- Any other text gives what its evaluation comes to, after reports of failed lookups. If the
  evaluation fails, the answer is the fallback, and one more report says so. -/
  read : ∀ c, f.body = .ok c → ∃ lookups : List Diagnostic,
    (∀ d ∈ lookups, n.scope.FailedLookup d) ∧
      match Formula.attempt f.purpose c n.scope n.memory with
      | .ok v => a = v ∧ n'.diagnostics = (n.diagnostics.reportAll lookups).1
      | .error e => a = f.purpose.fallback ∧ n'.diagnostics =
          (n.diagnostics.reportAll (lookups ++ [f.report (some n.clock.time) e])).1

theorem evaluate_eq (n : Model) (f : Formula) :
    (n.evaluate f).result =
      ({ n with
          slots := (f.evaluate n.scope n.memory).2.slots
          diagnostics := (n.diagnostics.reportAll (f.evaluate n.scope n.memory).2.reports).1 },
        (f.evaluate n.scope n.memory).1) := rfl

theorem evaluate_call (f : Formula) {low high : Nat} (hf : ∀ i ∈ f.owned, low ≤ i ∧ i < high)
    (n : Model) : Call f low high n (n.evaluate f).result.1 (n.evaluate f).result.2 := by
  have hread := f.usesOnly_read n.scope
  rw [evaluate_eq]
  refine ⟨?_, rfl, hread.labels n.slots, fun i hi => hread.frame n.slots i fun h => hi (hf i h),
    fun e he => ?_, fun c hc => ?_⟩
  · rcases hb : f.body with e | c
    · simp only [Formula.evaluate, hb]
      exact f.purpose.admits_fallback
    · rw [Formula.evaluate_of_body hb]
      rcases ha : Formula.attempt f.purpose c n.scope n.memory with e | a
      · exact f.purpose.admits_fallback
      · exact Formula.admits_attempt ha
  · refine ⟨?_, ?_⟩ <;> simp only [Formula.evaluate, he]
    rfl
  · obtain ⟨lookups, hlookups, hfailed⟩ := Evaluation.reports_eval n.scope c n.memory
    refine ⟨lookups, hfailed, ?_⟩
    have hreports : ((c.eval n.scope).run n.memory).2.reports = lookups := hlookups
    rw [Formula.evaluate_of_body hc]
    rcases Formula.attempt f.purpose c n.scope n.memory with e | a
    · refine ⟨rfl, ?_⟩
      simp only [Memory.report, hreports]
      rfl
    · refine ⟨rfl, ?_⟩
      simp only [hreports]

/-- The report of a text that is no expression. -/
def syntaxReport (source : String) (e : SyntaxError) : Diagnostic :=
  ⟨source, "Syntax error: " ++ e.message, none⟩

/-- Without a limit every text makes a formula. It claims slots and reports once if the text is no
expression, and changes nothing else. The formula can then be called in every model. -/
theorem compile_call (m : Model) (text source : String) (purpose : Purpose) :
    ∃ (f : Formula) (added : List Slot),
      (m.compile text source purpose).result =
        ({ m with
            slots := m.slots ++ added
            diagnostics :=
              (m.diagnostics.reportAll (f.error?.toList.map (syntaxReport source))).1 }, f) ∧
      (∀ place ∈ added, place.state = none) ∧
      f = ⟨text, source, purpose, (Formula.compile ⟨true, source⟩ text m.slots).1⟩ ∧
      ∀ n : Model, Call f m.slots.length (m.slots.length + added.length) n
        (n.evaluate f).result.1 (n.evaluate f).result.2 := by
  obtain ⟨⟨added, hadded, hempty⟩, hnew⟩ := Formula.compile_ensures ⟨true, source⟩ text m.slots
  refine ⟨⟨text, source, purpose, (Formula.compile ⟨true, source⟩ text m.slots).1⟩, added, ?_,
    hempty, rfl, evaluate_call _ fun i hi => ?_⟩
  · rw [← hadded, compile]
    rcases Formula.compile ⟨true, source⟩ text m.slots with ⟨e | c, slots⟩ <;> rfl
  · rcases hb : (Formula.compile ⟨true, source⟩ text m.slots).1 with e | c
    · simp [Formula.owned, hb] at hi
    · have howned : i ∈ c.owned := by simpa only [Formula.owned, hb] using hi
      have hbounds := hnew c hb i howned
      rwa [hadded, List.length_append] at hbounds

/-- Making a formula of a text succeeds where the text takes no more calls than may be opened, and
fails otherwise, unless the text is refused before that. Either way it claims empty slots, reports
once if the text is no expression, and changes nothing else. The formula can be called in every
model. -/
theorem compileWithin_call (calls : Nat) (m : Model) (text source : String) (purpose : Purpose) :
    ∃ added : List Slot, (∀ place ∈ added, place.state = none) ∧
      ((∃ f : Formula,
          (m.compileWithin calls text source purpose).result =
            ({ m with
                slots := m.slots ++ added
                diagnostics :=
                  (m.diagnostics.reportAll (f.error?.toList.map (syntaxReport source))).1 },
              .ok f) ∧
          f = ⟨text, source, purpose, (Formula.compile ⟨true, source⟩ text m.slots).1⟩ ∧
          (Formula.calls text ≤ calls ∨ f.isOk = false) ∧
          ∀ n : Model, Call f m.slots.length (m.slots.length + added.length) n
            (n.evaluate f).result.1 (n.evaluate f).result.2) ∨
        ((m.compileWithin calls text source purpose).result =
            ({ m with slots := m.slots ++ added }, .error .nestedTooDeeply) ∧
          calls < Formula.calls text)) := by
  rcases m.compileWithin_cases calls text source purpose with
    ⟨hsame, hfits⟩ | ⟨added, hempty, hdeep, hcalls⟩
  · obtain ⟨f, added, hmade, hempty, rfl, hcall⟩ := m.compile_call text source purpose
    refine ⟨added, hempty, .inl ⟨_, ?_, rfl, hfits.imp_right ?_, hcall⟩⟩
    · rw [hsame, Noted.result_map, hmade]
    · rintro ⟨e, he⟩
      rw [Formula.isOk, Formula.error?, he]
      rfl
  · exact ⟨added, hempty, .inr ⟨by rw [hdeep, Noted.result_pure], hcalls⟩⟩

/-- A number in 99 parentheses or more makes no formula. -/
theorem compileWithin_nested (m : Model) (source : String) (purpose : Purpose) {n : Nat}
    (hn : 99 ≤ n) : m.compileWithin Depth.standard (Expr.nested n) source purpose =
      pure (m, .error .nestedTooDeeply) := by
  have hcalls : Depth.standard < Expr.parseCalls (Expr.nested n) := by
    have hle := Expr.le_parseCalls_nested n
    have hstandard : Depth.standard = 990 := rfl
    omega
  rw [compileWithin, Formula.compileWithin_of_parseCalls hcalls]

/-- Not every text makes a formula. -/
theorem compileWithin_call_nested :
    ¬ ∀ (m : Model) (text : String),
      ∃ f, (m.compileWithin Depth.standard text "<expr>" .number).result.2 = .ok f := by
  intro h
  obtain ⟨f, hf⟩ := h (empty 10 (.withCapacity 10 .warning)) (Expr.nested 120)
  rw [compileWithin_nested _ _ _ (by decide)] at hf
  cases hf

-- a lookup that fails, and then the formula itself, divided by its fallback
example :
    let m := empty 10 (.withCapacity 10 .warning)
    let made := (m.compile "1 / LOOKUP(1, T)" "gauge" .number).result
    (made.1.evaluate made.2).result.1.diagnostics.records.entries.map Diagnostic.source =
      ["LOOKUP", "gauge"] := by
  decide +kernel

end Model

end SystemDynamics
