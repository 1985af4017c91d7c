import SystemDynamics.Proofs.Ending
import SystemDynamics.Proofs.Restart

/-!
# Models that behave alike

A rate that is a number and one that is a formula which always has that number for its value move
the same (`Rate.Twin`), and so do conditions that are always answered the same. Two models that
differ in nothing but such rates and conditions still do after the same requests
(`Model.Twin.serveAll`): they hold the same and report the same, and in whatever state they are
asked, their flows move the same and their runs end or go on together (`Model.Twin.behavesAs`).
-/

namespace SystemDynamics

/-! ## Tables entry by entry -/

namespace Table

variable {α β : Type} {R : String → α → β → Prop} {s : Table α} {t : Table β}

/-- The tables have the same names in the same order, and what stands under them is related. -/
def Related (R : String → α → β → Prop) (s : Table α) (t : Table β) : Prop :=
  List.Forall₂ (fun e e' => e.1 = e'.1 ∧ R e.1 e.2 e'.2) s.entries t.entries

theorem Related.refl {R : String → α → α → Prop} (h : ∀ name v, R name v v) (t : Table α) :
    Related R t t :=
  List.forall₂_same.2 fun e _ => ⟨rfl, h e.1 e.2⟩

theorem find?_related {es : List (String × α)} {es' : List (String × β)}
    (h : List.Forall₂ (fun e e' => e.1 = e'.1 ∧ R e.1 e.2 e'.2) es es') (name : String) :
    Option.Rel (R name) (find? name es) (find? name es') := by
  induction h with
  | nil => exact .none
  | @cons e e' _ _ he _ ih =>
    obtain ⟨hname, hvalue⟩ := he
    unfold find?
    rw [← hname]
    split
    · rename_i hk
      exact .some (hk ▸ hvalue)
    · exact ih

theorem put_related {es : List (String × α)} {es' : List (String × β)}
    (h : List.Forall₂ (fun e e' => e.1 = e'.1 ∧ R e.1 e.2 e'.2) es es') {name : String} {v : α}
    {w : β} (hvw : R name v w) :
    List.Forall₂ (fun e e' => e.1 = e'.1 ∧ R e.1 e.2 e'.2) (put name v es) (put name w es') := by
  induction h with
  | nil => exact .cons ⟨rfl, hvw⟩ .nil
  | @cons e e' _ _ he hes ih =>
    obtain ⟨hname, hvalue⟩ := he
    unfold put
    rw [← hname]
    split
    · rename_i hk
      exact .cons ⟨rfl, hk ▸ hvw⟩ hes
    · exact .cons ⟨rfl, hvalue⟩ ih

theorem Related.get? (h : Related R s t) (name : String) :
    Option.Rel (R name) (s.get? name) (t.get? name) :=
  find?_related h name

theorem Related.insert (h : Related R s t) {name : String} {v : α} {w : β} (hvw : R name v w) :
    Related R (s.insert name v) (t.insert name w) :=
  put_related h hvw

theorem Related.map (h : Related R s t) {f : α → α} {g : β → β}
    (hfg : ∀ name v w, R name v w → R name (f v) (g w)) : Related R (s.map f) (t.map g) :=
  List.forall₂_map_left_iff.2 (List.forall₂_map_right_iff.2
    (h.imp fun _ _ he => ⟨he.1, hfg _ _ _ he.2⟩))

end Table

/-! ## Rates and conditions -/

/-- The rates are the same, or the second is a formula that always has the first, a number, for its
value. -/
inductive Rate.Twin : Rate → Rate → Prop
  | same (r : Rate) : Twin r r
  | number {x : Float} {f : Formula} (h : ∀ s m, f.evaluate s m = (.number x, m)) :
      Twin (.fixed x) (.formula f)

/-- The conditions are the same, or formulas that are always answered the same. -/
inductive Condition.Twin : Condition → Condition → Prop
  | same (c : Condition) : Twin c c
  | truth {f g : Formula} {b : Bool} (hf : ∀ s m, f.evaluate s m = (.truth b, m))
      (hg : ∀ s m, g.evaluate s m = (.truth b, m)) : Twin (.formula f) (.formula g)

/-- The flows differ in their rates and in how these are shown, at most. -/
def Flow.Twin (f g : Flow) : Prop :=
  ∃ rate rateText, g = { f with rate, rateText } ∧ f.rate.Twin rate

theorem Flow.Twin.refl (f : Flow) : f.Twin f := ⟨f.rate, f.rateText, rfl, .same _⟩

theorem Flow.Twin.transfer {f g : Flow} (h : f.Twin g) (amount : Float) :
    g.transfer amount = f.transfer amount := by
  obtain ⟨rate, rateText, rfl, -⟩ := h
  rfl

section Answers

variable {dt : Float} {s : Scope}

theorem Flow.Twin.amountIn {f g : Flow} (h : f.Twin g) (slots : List Slot) :
    g.amountIn dt s slots = f.amountIn dt s slots := by
  obtain ⟨source, target, rate, rateText, units, dependencies⟩ := f
  obtain ⟨rate', rateText', rfl, hrate⟩ := h
  cases hrate with
  | same => rfl
  | number h => simp only [Flow.amountIn, Formula.read, h, Answer.amount]

theorem transfersIn_twin {es es' : List (String × Flow)}
    (h : List.Forall₂ (fun e e' => e.1 = e'.1 ∧ e.2.Twin e'.2) es es') (slots : List Slot) :
    transfersIn dt s es' slots = transfersIn dt s es slots := by
  induction h generalizing slots with
  | nil => rfl
  | cons he _ ih => simp only [transfersIn, he.2.amountIn, he.2.transfer, ih]

theorem endIn_twin {c c' : Option Condition} (h : Option.Rel Condition.Twin c c')
    (slots : List Slot) : endIn s slots c' = endIn s slots c := by
  cases h with
  | none => rfl
  | some h =>
    cases h with
    | same => rfl
    | truth hf hg => simp only [endIn, Condition.metIn, Formula.read, hf, hg]

end Answers

namespace Model

/-- The model with other flows and another condition that ends a run. -/
def driven (m : Model) (flows : Table Flow) (termination : Option Condition)
    (terminationText : Option String) : Model :=
  { m with flows, termination, terminationText }

/-- The models differ in the rates of their flows and in the condition that ends a run, at most, and
these are twins. -/
def Twin (m n : Model) : Prop :=
  ∃ flows termination shown, n = m.driven flows termination shown ∧
    Table.Related (fun _ => Flow.Twin) m.flows flows ∧
      Option.Rel Condition.Twin m.termination termination

/-! ## Steps -/

section Driven

variable {flows : Table Flow} {termination : Option Condition} {shown : Option String}

theorem evaluate_driven (m : Model) (f : Formula) :
    ((m.driven flows termination shown).evaluate f).result =
      ((m.evaluate f).result.1.driven flows termination shown, (m.evaluate f).result.2) := rfl

theorem flowAmount_twin {f g : Flow} (h : f.Twin g) (m : Model) (dt : Float) (name : String) :
    ((m.driven flows termination shown).flowAmount dt name g).result =
      ((m.flowAmount dt name f).result.1.driven flows termination shown,
        (m.flowAmount dt name f).result.2) := by
  obtain ⟨source, target, rate, rateText, units, dependencies⟩ := f
  obtain ⟨rate', rateText', rfl, hrate⟩ := h
  cases hrate with
  | same =>
    rcases rate with x | f | p
    · rfl
    · simp only [flowAmount, Noted.result_bind, evaluate_driven]
      rcases (m.evaluate f).result with ⟨n, x | b⟩ <;> rfl
    · simp only [flowAmount, suppliedAmount]
      rcases p.number with e | x
      · rfl
      · rcases hx : x.isFinite with _ | _ <;> simp only [hx] <;> rfl
  | number h =>
    simp only [flowAmount, evaluate, h, Noted.result_bind, Noted.result_pure]
    rfl

theorem transfersOf_twin (dt : Float) {es es' : List (String × Flow)}
    (h : List.Forall₂ (fun e e' => e.1 = e'.1 ∧ e.2.Twin e'.2) es es') (m : Model) :
    (transfersOf dt es' (m.driven flows termination shown)).result =
      ((transfersOf dt es m).result.1.driven flows termination shown,
        (transfersOf dt es m).result.2) := by
  induction h generalizing m with
  | nil => rfl
  | @cons e e' _ _ he _ ih =>
    obtain ⟨name, f⟩ := e
    obtain ⟨name', g⟩ := e'
    obtain ⟨rfl, hfg⟩ : name = name' ∧ f.Twin g := he
    have hends : g.source = f.source ∧ g.target = f.target := by
      obtain ⟨rate, rateText, rfl, -⟩ := hfg
      exact ⟨rfl, rfl⟩
    simp only [transfersOf, Noted.result_bind, Noted.result_pure, flowAmount_twin hfg, ih,
      hends.1, hends.2]

theorem endReached_twin {m : Model} (h : Option.Rel Condition.Twin m.termination termination) :
    (m.driven flows termination shown).endReached.result =
      (m.endReached.result.1.driven flows termination shown, m.endReached.result.2) := by
  have hterm : (m.driven flows termination shown).termination = termination := rfl
  unfold endReached
  rw [hterm]
  generalize m.termination = c at h ⊢
  cases h with
  | none => rfl
  | @some c c' h =>
    cases h with
    | same =>
      rcases c with f | p
      · simp only [Noted.result_bind, evaluate_driven]
        rcases (m.evaluate f).result with ⟨n, x | b⟩ <;> rfl
      · simp only
        rcases p.truth with e | b <;> rfl
    | truth hf hg =>
      simp only [evaluate, hf, hg, Noted.result_bind, Noted.result_pure]
      rfl

/-- Twins find the same transfers, and are twins when they have. -/
theorem found_twin {m : Model} (h : Table.Related (fun _ => Flow.Twin) m.flows flows)
    (dt : StepSize) : (m.driven flows termination shown).found dt =
      ((m.found dt).1.driven flows termination shown, (m.found dt).2) :=
  transfersOf_twin dt.value h (m.withStepSize dt.value)

theorem asked_twin {m : Model} (h : Table.Related (fun _ => Flow.Twin) m.flows flows)
    (dt : StepSize) : (m.driven flows termination shown).asked dt =
      (m.asked dt).driven flows termination shown := by
  rw [asked, found_twin h]
  rfl

theorem advance_twin {m : Model} (hflows : Table.Related (fun _ => Flow.Twin) m.flows flows)
    (hend : Option.Rel Condition.Twin m.termination termination) (dt : StepSize) :
    ((m.driven flows termination shown).advance dt).result =
      (m.advance dt).result.driven flows termination shown := by
  have hasked : (m.asked dt).termination = m.termination := by
    obtain ⟨d, hd⟩ := transfersOf_result dt.value m.flows.entries (m.withStepSize dt.value)
    rw [asked, found, hd]
    rfl
  rw [advance_ends, advance_ends, endsNext, asked_twin hflows,
    endReached_twin (by rwa [hasked]), ← endsNext]
  split <;> rfl

end Driven

theorem Twin.refl (m : Model) : m.Twin m :=
  ⟨m.flows, m.termination, m.terminationText, rfl, .refl (fun _ => Flow.Twin.refl) _, by
    rcases m.termination with _ | c
    · exact .none
    · exact .some (.same c)⟩

theorem Twin.phase {m n : Model} (h : m.Twin n) : m.phase = n.phase := by
  obtain ⟨flows, termination, shown, rfl, -, -⟩ := h
  rfl

theorem Twin.step {m n : Model} (h : m.Twin n) (dt : StepSize) :
    (m.step dt).result.Twin (n.step dt).result := by
  have hdesign := m.step_design dt
  obtain ⟨flows, termination, shown, rfl, hflows, hend⟩ := h
  have hkept : (m.step dt).result.flows = m.flows := (congrArg Model.flows hdesign :)
  have hkept' : (m.step dt).result.termination = m.termination :=
    (congrArg Model.termination hdesign :)
  refine ⟨flows, termination, shown, ?_, by rwa [hkept], by rwa [hkept']⟩
  rcases hm : m.isTerminated with _ | _
  · rw [step_running hm, step_running (m := m.driven flows termination shown) hm,
      advance_twin hflows hend]
  · rw [step_terminated hm, step_terminated (m := m.driven flows termination shown) hm]
    rfl

theorem Twin.reset {m n : Model} (h : m.Twin n) : m.reset.result.Twin n.reset.result := by
  obtain ⟨flows, termination, shown, rfl, hflows, hend⟩ := h
  exact ⟨flows, termination, shown, rfl, hflows, hend⟩

/-- Twins are twins after the same requests. -/
theorem Twin.serveAll {m n : Model} (h : m.Twin n) (rs : List Request) :
    (m.serveAll rs).Twin (n.serveAll rs) :=
  serveAll_related (fun h => h.phase) (fun dt h => h.step dt) (fun h => h.reset) h rs

/-! ## Behaviour -/

/-- The models hold the same, and in whatever state they are asked, their flows move the same and
their conditions are answered the same. -/
structure BehavesAs (m n : Model) : Prop where
  holds : n = { m with
    flows := n.flows, termination := n.termination, terminationText := n.terminationText }
  moves : ∀ dt s slots,
    transfersIn dt s n.flows.entries slots = transfersIn dt s m.flows.entries slots
  ends : ∀ s slots, endIn s slots n.termination = endIn s slots m.termination

theorem Twin.behavesAs {m n : Model} (h : m.Twin n) : m.BehavesAs n := by
  obtain ⟨flows, termination, shown, rfl, hflows, hend⟩ := h
  exact ⟨rfl, fun _ _ => transfersIn_twin hflows, fun _ => endIn_twin hend⟩

end Model

end SystemDynamics
