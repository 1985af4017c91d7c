import SystemDynamics.Proofs.Answers

/-!
# The slots of a compiled text

A text that compiles has one slot for each of its delay calls, behind the slots that there were, in
the order in which the calls begin in the text; from then on its evaluations keep to these
(`Model.compile_numbered`). A text that is no expression leaves behind the slots of the delay calls
that were met before it was refused (`Model.compile_refused`): they are claimed on the way, and
nothing takes them back.
-/

namespace SystemDynamics

namespace Model

/-- The model after so many evaluations of the formula. -/
def evaluated (f : Formula) : Nat → Model → Model
  | 0, n => n
  | k + 1, n => evaluated f k (n.evaluate f).result.1

theorem evaluated_labels (f : Formula) : ∀ (k : Nat) (n : Model),
    (evaluated f k n).slots.map Slot.clear = n.slots.map Slot.clear
  | 0, _ => rfl
  | k + 1, n => (evaluated_labels f k _).trans ((f.usesOnly_read n.scope).labels n.slots)

theorem evaluated_frame (f : Formula) {i : Nat} (hi : i ∉ f.owned) : ∀ (k : Nat) (n : Model),
    (evaluated f k n).slots[i]? = n.slots[i]?
  | 0, _ => rfl
  | k + 1, n => (evaluated_frame f hi k _).trans ((f.usesOnly_read n.scope).frame n.slots i hi)

end Model

/-- The slots that code owns are those of its delay calls. -/
theorem Allotted.owned {site : Site} {n : Nat} {ps : List Place} {code : Code}
    (h : Allotted site n ps code.calls) :
    code.owned = List.range' n (Place.calls ps).length := by
  rw [← code.map_delays, ← code.calls_claims, h.claims, List.zipIdx_map_snd, Place.kinds_length]

namespace Model

/-- A text that compiles, in either way, leaves the slots as they are and adds an empty one for each
delay call of its expression, in the order of the text. Each call has its own, with a label that
counts the earlier calls of its kind. Evaluating the formula in any model, as often as one likes,
adds no slot, changes no label, and leaves all slots but these as they are. -/
theorem compile_numbered (m : Model) (text source : String) (purpose : Purpose)
    (hok : (m.compile text source purpose).result.2.error? = none) :
    ∃ (x : Expr) (code : Code) (f : Formula) (made : Model), Expr.parse text = .ok x ∧
      f = ⟨text, source, purpose, .ok code⟩ ∧
      made = { m with
        slots := m.slots ++ Slot.numbered source [] (Place.kinds (x.places .operand)) } ∧
      m.compile text source purpose = pure (made, f) ∧
      m.compileStrict text source purpose = (made, .ok f) ∧
      Allotted ⟨true, source⟩ m.slots.length (x.places .operand) code.calls ∧
      f.owned = List.range' m.slots.length (Place.calls (x.places .operand)).length ∧
      ∀ (n : Model) (k : Nat),
        (evaluated f k n).slots.length = n.slots.length ∧
        (evaluated f k n).slots.map Slot.clear = n.slots.map Slot.clear ∧
        ∀ i ∉ List.range' m.slots.length (Place.calls (x.places .operand)).length,
          (evaluated f k n).slots[i]? = n.slots[i]? := by
  have hcompiled := Formula.compiled ⟨true, source⟩ text m.slots
  unfold compileStrict
  unfold compile at hok ⊢
  generalize Formula.compile ⟨true, source⟩ text m.slots = result at hcompiled hok ⊢
  cases hcompiled with
  | unread => cases hok
  | refused => cases hok
  | @resolved x code hparse _ hcode =>
    have howned : Formula.owned ⟨text, source, purpose, .ok code⟩ =
        List.range' m.slots.length (Place.calls (x.places .operand)).length := hcode.owned
    refine ⟨x, code, ⟨text, source, purpose, .ok code⟩, _, hparse, rfl, rfl, rfl, rfl, hcode,
      howned, fun n k => ⟨?_, evaluated_labels _ k n, fun i hi => ?_⟩⟩
    · simpa using congrArg List.length (evaluated_labels _ k n)
    · exact evaluated_frame _ (howned.symm ▸ hi) k n

/-- A model with a slot. -/
def reservoir : Model :=
  { empty 10 (.withCapacity 10 .warning) with slots := [.claimed "SMOOTH" "inflow:SMOOTH#0"] }

/-- A delay call in the argument of another, and one in a table. -/
def nestedDelays : String :=
  "DELAY(SMOOTH(TIME, 4), 1) + LOOKUP(TIME, [[0, SMOOTH(1, 2)], [1, 2]])"

theorem compile_numbered_reservoir :
    (reservoir.compile nestedDelays "gauge" .number).result.2.error? = none ∧
    ∃ (f : Formula) (made : Model),
      reservoir.compile nestedDelays "gauge" .number = pure (made, f) ∧
      made.slots.map (fun place => (place.kind, place.label)) =
        [("SMOOTH", "inflow:SMOOTH#0"), ("DELAY", "gauge:DELAY#0"), ("SMOOTH", "gauge:SMOOTH#0"),
          ("SMOOTH", "gauge:SMOOTH#1")] ∧
      f.owned = [1, 2, 3] ∧
      ∀ (n : Model) (k : Nat), (evaluated f k n).slots.length = n.slots.length ∧
        ∀ i ∉ [1, 2, 3], (evaluated f k n).slots[i]? = n.slots[i]? := by
  have hok : (reservoir.compile nestedDelays "gauge" .number).result.2.error? = none := by
    decide +kernel
  obtain ⟨x, code, f, made, -, -, -, hcompile, -, -, howned, hframe⟩ :=
    compile_numbered _ _ _ _ hok
  have hmade := congrArg (fun c => c.result.1.slots) hcompile
  have hf : f.owned = [1, 2, 3] :=
    (congrArg (fun c => c.result.2.owned) hcompile).symm.trans (by decide +kernel)
  refine ⟨hok, f, made, hcompile, ?_, hf, fun n k => ⟨(hframe n k).1, fun i hi => ?_⟩⟩
  · refine (congrArg (List.map _) hmade).symm.trans ?_
    decide +kernel
  · exact (hframe n k).2.2 i (howned ▸ hf ▸ hi)

/-- A text that is no expression leaves the slots as they are if it is not read, and otherwise adds
those of the delay calls before the first place that is refused. Compiling it leniently changes
nothing else but that it reports once; compiling it strictly changes nothing else. -/
theorem compile_refused (m : Model) (text source : String) (purpose : Purpose) (e : SyntaxError)
    (herror : (m.compileStrict text source purpose).2 = .error e) :
    ∃ added : List Slot,
      m.compileStrict text source purpose = ({ m with slots := m.slots ++ added }, .error e) ∧
      (m.compile text source purpose).result =
        ({ m with
            slots := m.slots ++ added
            diagnostics := (m.diagnostics.reportAll [syntaxReport source e]).1 },
          ⟨text, source, purpose, .error e⟩) ∧
      (Expr.parse text = .error e ∧ added = [] ∨
        ∃ x before p after misuse, Expr.parse text = .ok x ∧
          x.places .operand = before ++ p :: after ∧
          (∀ q ∈ before, q.misuse? true = none) ∧ p.misuse? true = some misuse ∧
          e = .misuse misuse ∧ added = Slot.numbered source [] (Place.kinds before)) := by
  have hcompiled := Formula.compiled ⟨true, source⟩ text m.slots
  unfold compile
  unfold compileStrict at herror ⊢
  generalize Formula.compile ⟨true, source⟩ text m.slots = result at hcompiled herror ⊢
  cases hcompiled with
  | unread hparse =>
    cases herror
    exact ⟨[], by rw [List.append_nil]; rfl, by rw [List.append_nil]; rfl, .inl ⟨hparse, rfl⟩⟩
  | refused hparse hplaces hbefore hp =>
    cases herror
    exact ⟨_, rfl, rfl, .inr ⟨_, _, _, _, _, hparse, hplaces, hbefore, hp, rfl, rfl⟩⟩
  | resolved => cases herror

theorem reservoir_refuses :
    (reservoir.compileStrict "SMOOTH(1, 2) + nope(3)" "gauge" .number).2 =
      .error (.misuse (.unknownFunction "nope")) := by
  have hrefused : (reservoir.compileStrict "SMOOTH(1, 2) + nope(3)" "gauge" .number).2.map
      (fun _ => ()) = .error (.misuse (.unknownFunction "nope")) := by decide +kernel
  rcases h : (reservoir.compileStrict "SMOOTH(1, 2) + nope(3)" "gauge" .number).2 with e | f
  · rw [h] at hrefused
    cases hrefused
    rfl
  · rw [h] at hrefused
    cases hrefused

theorem reservoir_keeps :
    (reservoir.compileStrict "SMOOTH(1, 2) + nope(3)" "gauge" .number).1.slots.map
        (fun place => (place.kind, place.label)) =
      [("SMOOTH", "inflow:SMOOTH#0"), ("SMOOTH", "gauge:SMOOTH#0")] := by
  decide +kernel

/-- The slot of a call is kept that stands before an unknown function. -/
theorem compile_refused_reservoir :
    (reservoir.compileStrict "SMOOTH(1, 2) + nope(3)" "gauge" .number).2 =
      .error (.misuse (.unknownFunction "nope")) ∧
    ∃ added : List Slot,
      reservoir.compileStrict "SMOOTH(1, 2) + nope(3)" "gauge" .number =
        ({ reservoir with slots := reservoir.slots ++ added },
          .error (.misuse (.unknownFunction "nope"))) ∧
      added.map (fun place => (place.kind, place.label)) = [("SMOOTH", "gauge:SMOOTH#0")] := by
  obtain ⟨added, hstrict, -, -⟩ := compile_refused _ _ _ _ _ reservoir_refuses
  refine ⟨reservoir_refuses, added, hstrict, ?_⟩
  have hslots := reservoir_keeps
  rw [hstrict] at hslots
  exact (List.cons.inj hslots).2

/-- Not every text that is no expression leaves the slots as they are. -/
theorem exists_refused_claim :
    ¬ ∀ (m : Model) (text source : String) (purpose : Purpose) (e : SyntaxError),
      (m.compileStrict text source purpose).2 = .error e →
        (m.compileStrict text source purpose).1.slots = m.slots := by
  intro h
  have hslots := reservoir_keeps
  rw [h _ _ _ _ _ reservoir_refuses] at hslots
  cases hslots

end Model

end SystemDynamics
