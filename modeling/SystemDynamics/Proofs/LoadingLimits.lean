import SystemDynamics.Proofs.Loading

/-!
# Loading within a limit

The only texts of a declaration that are read as formulas are the rate of a flow and the condition
that ends the runs (`Declaration.formula?`). Loading a declaration comes to what it comes to without
a limit, with the same notices, and the text takes no more calls than may be opened or is no
expression; or loading fails, and the text takes more (`Model.loadWithin_within`). So it is with all
declarations of a text, by induction (`Model.ofTextWithin_within`).
-/

namespace SystemDynamics

namespace Noted

/-- The first computation comes to what the second one does, and to no failure, and a condition
holds; or it fails for want of calls, having noted a part of what the second one notes, and another
condition holds. -/
inductive Within {α : Type} (x : Noted (Except Fault α)) (y : Noted α) (fits deep : Prop) :
    Prop where
  | same (result : x = .ok <$> y) (condition : fits)
  | failed (result : x.result = .error .nestedTooDeeply) (notices : x.notices <+: y.notices)
      (condition : deep)

variable {α β γ : Type} {fits deep fits' deep' : Prop}

theorem Within.imp {x : Noted (Except Fault α)} {y : Noted α} (h : x.Within y fits deep)
    (hfits : fits → fits') (hdeep : deep → deep') : x.Within y fits' deep' := by
  cases h with
  | same result condition => exact .same result (hfits condition)
  | failed result notices condition => exact .failed result notices (hdeep condition)

/-- What it comes to, if it does not fail. -/
theorem Within.result_eq {x : Noted (Except Fault α)} {y : Noted α} (h : x.Within y fits deep)
    {a : α} (ha : x.result = .ok a) : y.result = a := by
  cases h with
  | same result =>
    rw [result] at ha
    exact Except.ok.inj ha
  | failed result =>
    rw [result] at ha
    cases ha

/-- What comes before, and cannot fail. -/
theorem Within.after {x : Noted γ} {f : γ → Noted (Except Fault α)} {g : γ → Noted α}
    (h : (f x.result).Within (g x.result) fits deep) : (x >>= f).Within (x >>= g) fits deep := by
  cases h with
  | same result condition => exact .same (by rw [map_bind]; exact bind_congr result) condition
  | failed result notices condition =>
    exact .failed result ((List.prefix_append_right_inj _).2 notices) condition

/-- What comes after, and hands a failure on. -/
theorem Within.bind {x : Noted (Except Fault α)} {y : Noted α}
    {f : Except Fault α → Noted (Except Fault β)} {g : α → Noted β}
    (hx : x.Within y fits deep) (hok : ∀ a, (f (.ok a)).Within (g a) fits' deep')
    (herror : ∀ e, f (.error e) = pure (.error e)) :
    (x >>= f).Within (y >>= g) (fits ∧ fits') (deep ∨ deep') := by
  cases hx with
  | same result condition =>
    rw [result, bind_map_left]
    exact (Within.after (hok y.result)).imp (⟨condition, ·⟩) .inr
  | failed result notices condition =>
    refine .failed ?_ ?_ (.inl condition)
    · rw [result_bind, result, herror, result_pure]
    · rw [notices_bind, notices_bind, result, herror, notices_pure, List.append_nil]
      exact notices.trans (List.prefix_append _ _)

end Noted

open Noted

/-- The text is no expression in a model. -/
def Formula.Refused (text : String) : Prop :=
  ∃ source slots e, (compile ⟨true, source⟩ text slots).1 = .error e

namespace Declaration

/-- The text of a declaration that is read as a formula. -/
def formula? (d : Declaration) : Option String :=
  match d.kind with
  | .flow =>
    match Model.rateOf d with
    | .text text => some text
    | _ => none
  | .terminate => Model.textOf d "when"
  | _ => none

/-- The formula takes no more calls than may be opened, or is refused anyway. -/
def Fits (calls : Nat) (d : Declaration) : Prop :=
  ∀ text, d.formula? = some text → Formula.calls text ≤ calls ∨ Formula.Refused text

/-- The formula takes more calls. -/
def Deep (calls : Nat) (d : Declaration) : Prop :=
  ∃ text, d.formula? = some text ∧ calls < Formula.calls text

end Declaration

namespace Model

variable (calls : Nat) (m : Model) (d : Declaration)

theorem compileWithin_within {α : Type} (text source : String) (purpose : Purpose)
    {f : Model × Except Fault Formula → Noted (Except Fault α)} {g : Model × Formula → Noted α}
    (hok : ∀ n made, f (n, .ok made) = .ok <$> g (n, made))
    (herror : ∀ n e, f (n, .error e) = pure (.error e)) :
    (m.compileWithin calls text source purpose >>= f).Within (m.compile text source purpose >>= g)
      (Formula.calls text ≤ calls ∨ Formula.Refused text) (calls < Formula.calls text) := by
  rcases m.compileWithin_cases calls text source purpose with
    ⟨hsame, hfits⟩ | ⟨claimed, -, hdeep, hcalls⟩
  · refine .same ?_ (hfits.imp_right fun ⟨e, he⟩ => ⟨source, m.slots, e, he⟩)
    rw [hsame, bind_map_left, map_bind]
    exact bind_congr (hok _ _)
  · rw [hdeep, pure_bind, herror]
    exact .failed rfl List.nil_prefix hcalls

theorem loadWithin_flow (hd : d.kind = .flow) :
    (m.loadWithin calls d).Within (m.loadFlow d) (d.Fits calls) (d.Deep calls) := by
  simp only [loadWithin, hd, addFlowWithin, loadFlow, addFlow, bind_assoc]
  refine .after (.after ?_)
  rcases rateOf_cases d with ⟨x, hx, -⟩ | ⟨text, htext⟩
  · have hnone : d.formula? = none := by rw [Declaration.formula?, hd, hx]
    rw [hx]
    refine .same rfl fun text h => ?_
    rw [hnone] at h
    cases h
  · have hsome : d.formula? = some text := by rw [Declaration.formula?, hd, htext]
    rw [htext]
    simp only [rateWithin, rate, bind_assoc, pure_bind]
    refine (compileWithin_within calls _ text _ .number (fun n made => ?_) fun n e => rfl).imp
      (fun hfits t ht => ?_) fun hdeep => ⟨text, hsome, hdeep⟩
    · simp only [Except.map, bind_assoc, map_bind]
      rfl
    · cases hsome.symm.trans ht
      exact hfits

theorem loadWithin_terminate (hd : d.kind = .terminate) :
    (m.loadWithin calls d).Within (m.loadTermination d) (d.Fits calls) (d.Deep calls) := by
  simp only [loadWithin, hd, loadTermination]
  have hformula : d.formula? = textOf d "when" := by rw [Declaration.formula?, hd]
  rcases htext : textOf d "when" with _ | text
  · refine .same rfl fun text h => ?_
    rw [hformula, htext] at h
    cases h
  · simp only [endWhenWithin, endWhen, bind_assoc]
    refine (compileWithin_within calls m text _ .condition (fun n made => rfl) fun n e => rfl).imp
      (fun hfits t ht => ?_) fun hdeep => ⟨text, hformula.trans htext, hdeep⟩
    cases (hformula.trans htext).symm.trans ht
    exact hfits

/-- Loading a declaration within a limit. -/
theorem loadWithin_within :
    (m.loadWithin calls d).Within (m.load d) (d.Fits calls) (d.Deep calls) := by
  rcases hd : d.kind with _ | _ | _ | _ | _ | _ | _
  case flow =>
    rw [load, hd]
    exact m.loadWithin_flow calls d hd
  case terminate =>
    rw [load, hd]
    exact m.loadWithin_terminate calls d hd
  all_goals
    refine .same ?_ fun text h => ?_
    · rw [loadWithin, hd]
    · rw [Declaration.formula?, hd] at h
      cases h

theorem loadAllWithin_within : ∀ (ds : List Declaration) (m : Model),
    (loadAllWithin calls ds m).Within (loadAll ds m) (∀ d ∈ ds, d.Fits calls)
      (∃ d ∈ ds, d.Deep calls)
  | [], m => .same rfl fun d hd => absurd hd List.not_mem_nil
  | d :: ds, m => by
    rw [loadAllWithin, loadAll]
    exact .imp (.bind (m.loadWithin_within calls d) (loadAllWithin_within ds) fun e => rfl)
      List.forall_mem_cons.2 (List.exists_mem_cons_iff _ _ _).2

/-- What is loaded first has no formula. -/
theorem formula?_of_first {d : Declaration} (hd : isDeferred d = false) : d.formula? = none := by
  unfold Declaration.formula?
  split <;> rename_i hkind
  · rw [isDeferred, hkind] at hd
    cases hd
  · rw [isDeferred, hkind] at hd
    cases hd
  · rfl

theorem ofDeclarationsWithin_within (c : Capacities) (ds : List Declaration) :
    (ofDeclarationsWithin calls c ds).Within (ofDeclarations c ds) (∀ d ∈ ds, d.Fits calls)
      (∃ d ∈ ds, d.Deep calls) := by
  unfold ofDeclarationsWithin ofDeclarations
  have hrecord : ∀ m : Model, (pure (.ok m.record) : Noted (Except Fault Model)).Within
      (pure m.record) True False := fun m => .same rfl trivial
  refine .after (.imp (.bind (loadAllWithin_within calls _ _) hrecord fun e => rfl) ?_ ?_)
  · intro h d hd text htext
    rcases hdeferred : isDeferred d with _ | _
    · rw [formula?_of_first hdeferred] at htext
      cases htext
    · exact h.1 d (List.mem_filter.2 ⟨hd, hdeferred⟩) text htext
  · rintro (⟨d, hd, hdeep⟩ | hnone)
    · exact ⟨d, (List.mem_filter.1 hd).1, hdeep⟩
    · exact hnone.elim

/-- Making the model of a text within a limit. -/
theorem ofTextWithin_within (c : Capacities) (text : String) :
    (ofTextWithin calls c text).Within (ofText c text)
      (∀ d ∈ (Declaration.ofText text).result, d.Fits calls)
      (∃ d ∈ (Declaration.ofText text).result, d.Deep calls) :=
  .after (ofDeclarationsWithin_within calls c _)

end Model

end SystemDynamics
