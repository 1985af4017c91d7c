import SystemDynamics.Proofs.Twins
import SystemDynamics.Proofs.SignificantDigits

/-!
# Numbers in brackets

A property may be a number, and then it is taken as it was read, or an expression. A number in
brackets is an expression. Where it is finite, loading it makes the same constant and the same stock
as loading the number, and a rate and a condition that are twins (`Model.load_twin`): the number of
a condition is written out with six digits and read again, but whether it is zero is all that
counts. So declarations that differ in nothing else make models that are twins
(`Model.ofDeclarations_twin`).
-/

namespace SystemDynamics

open Text Reading

/-- The keys of the properties that are numbers. -/
def numericKeys : List String := ["value", "initial", "min", "max", "rate", "when"]

/-- The second value is the first or, if this is finite, the text of it in brackets. -/
inductive PropertyValue.Bracketed (key : String) : PropertyValue → PropertyValue → Prop
  | same (v : PropertyValue) : Bracketed key v v
  | number {cs : List Char} {x : Float} (hkey : key ∈ numericKeys) (hx : number? cs = some x)
      (hfinite : x.isFinite = true) :
      Bracketed key (.number x) (.expression (String.ofList (bracketed cs)))

/-- In the second declaration there may be numbers in brackets. -/
def Declaration.Bracketed (d e : Declaration) : Prop :=
  ∃ properties, e = { d with properties } ∧
    Table.Related PropertyValue.Bracketed d.properties properties

theorem Declaration.Bracketed.refl (d : Declaration) : d.Bracketed d :=
  ⟨d.properties, rfl, .refl (fun _ => .same) _⟩

section Properties

variable {d e : Declaration} (h : d.Bracketed e)
include h

theorem Declaration.Bracketed.get? (key : String) :
    Option.Rel (PropertyValue.Bracketed key) (d.properties.get? key) (e.properties.get? key) := by
  obtain ⟨properties, rfl, h⟩ := h
  exact h.get? key

theorem Declaration.Bracketed.get?_eq (key : String) (hkey : key ∉ numericKeys) :
    e.properties.get? key = d.properties.get? key := by
  have hvalue := h.get? key
  generalize d.properties.get? key = v, e.properties.get? key = w at hvalue ⊢
  cases hvalue with
  | none => rfl
  | some hvalue =>
    cases hvalue with
    | same => rfl
    | number hnumeric => exact absurd hnumeric hkey

theorem Declaration.Bracketed.textOf_eq (key : String) (hkey : key ∉ numericKeys) :
    Model.textOf e key = Model.textOf d key := by
  rw [Model.textOf, Model.textOf, h.get?_eq key hkey]

end Properties

/-! ## Loading -/

namespace Model

section Driven

variable {flows : Table Flow} {termination : Option Condition} {shown : Option String}

theorem constantOf_bracketed {key : String} {v w : Option PropertyValue}
    (h : Option.Rel (PropertyValue.Bracketed key) v w) (m : Model) (label : String)
    (default : Option Float) :
    ((m.driven flows termination shown).constantOf label default w).result =
      ((m.constantOf label default v).result.1.driven flows termination shown,
        (m.constantOf label default v).result.2) := by
  have hsame : ∀ v : PropertyValue, (∀ y, v ≠ .number y) →
      ((m.driven flows termination shown).constantOf label default (some v)).result =
        ((m.constantOf label default (some v)).result.1.driven flows termination shown,
          (m.constantOf label default (some v)).result.2) := by
    intro v hv
    have hscope : (m.driven flows termination shown).scope = m.scope := rfl
    rw [constantOf, constantOf, hscope]
    · rcases constantValue v.asText m.scope.constant? with e | x <;> rfl
    · exact hv
    · exact hv
  cases h with
  | none => rfl
  | @some v w h =>
    cases h with
    | same =>
      rcases v with s | x | s
      · exact hsame _ (by rintro y ⟨⟩)
      · rfl
      · exact hsame _ (by rintro y ⟨⟩)
    | number hkey hx hfinite =>
      simp only [constantOf, PropertyValue.asText, constantValue_bracketed hx, hfinite, if_true]
      rfl

theorem endpoint_driven (m : Model) (flow : String) (e : EndpointSource) :
    ((m.driven flows termination shown).endpoint flow e).result =
      ((m.endpoint flow e).result.1.driven flows termination shown,
        (m.endpoint flow e).result.2) := by
  rcases e with _ | name | stock
  · rfl
  · have hstocks : (m.driven flows termination shown).stocks = m.stocks := rfl
    rw [endpoint, endpoint, hstocks]
    split
    · rfl
    · split <;> rfl
  · rfl

theorem compile_driven (m : Model) (text source : String) (purpose : Purpose) :
    ((m.driven flows termination shown).compile text source purpose).result =
      ((m.compile text source purpose).result.1.driven flows termination shown,
        (m.compile text source purpose).result.2) := by
  have hslots : (m.driven flows termination shown).slots = m.slots := rfl
  unfold compile
  rw [hslots]
  rcases Formula.compile ⟨true, source⟩ text m.slots with ⟨e | code, slots⟩ <;> rfl

theorem putFlow_driven {f g : Flow} (h : f.Twin g) (m : Model) (name : String) :
    ((m.driven flows termination shown).putFlow name g).result =
      (m.putFlow name f).result.driven (flows.insert name g) termination shown := by
  obtain ⟨rate, rateText, hg, -⟩ := h
  have hloop : g.isLoop = f.isLoop := by rw [hg]; rfl
  have hsource : g.source = f.source := by rw [hg]
  unfold putFlow
  rw [hloop, hsource]
  split <;> rfl

/-- A text of a numeral is read without a report, and claims no slot. -/
theorem compile_numeral {n : Numeral} {text : String}
    (h : ∀ site slots, Formula.compile site text slots = (.ok n.code, slots)) (m : Model)
    (source : String) (purpose : Purpose) :
    (m.compile text source purpose).result = (m, ⟨text, source, purpose, .ok n.code⟩) := by
  simp only [compile, h]
  rfl

end Driven

variable {d e : Declaration} {m n : Model}

theorem loadConstant_twin (h : d.Bracketed e) (hm : m.Twin n) (hname : e.name = d.name) :
    (m.loadConstant d).result.Twin (n.loadConstant e).result := by
  obtain ⟨flows, termination, shown, rfl, hflows, hend⟩ := hm
  obtain ⟨g, hg⟩ := (m.constantOf_result ("const " ++ d.name) (some 0.0)
    (d.properties.get? "value")).1
  simp only [loadConstant, Noted.result_bind, Noted.result_pure, hname,
    constantOf_bracketed (h.get? "value"), hg]
  exact ⟨flows, termination, shown, rfl, hflows, hend⟩

theorem loadStock_twin (h : d.Bracketed e) (hm : m.Twin n) (hname : e.name = d.name) :
    (m.loadStock d).result.Twin (n.loadStock e).result := by
  obtain ⟨flows, termination, shown, rfl, hflows, hend⟩ := hm
  obtain ⟨g₁, h₁⟩ := (m.constantOf_result ("stock " ++ d.name ++ ".initial") (some 0.0)
    (d.properties.get? "initial")).1
  obtain ⟨g₂, h₂⟩ := (constantOf_result { m with diagnostics := g₁ }
    ("stock " ++ d.name ++ ".min") none (d.properties.get? "min")).1
  obtain ⟨g₃, h₃⟩ := (constantOf_result { m with diagnostics := g₂ }
    ("stock " ++ d.name ++ ".max") none (d.properties.get? "max")).1
  simp only [loadStock, Noted.result_bind, Noted.result_pure, hname,
    constantOf_bracketed (h.get? "initial"), constantOf_bracketed (h.get? "min"),
    constantOf_bracketed (h.get? "max"), h.textOf_eq "units" (by decide), h₁, h₂, h₃]
  refine ⟨_, termination, shown, rfl, hflows.map fun _ f g hfg => ?_, hend⟩
  obtain ⟨rate, rateText, rfl, hrate⟩ := hfg
  exact ⟨rate, rateText, rfl, hrate⟩

theorem endpoint_twin (hm : m.Twin n) (flow : String) (x : EndpointSource) :
    ∃ m' n' y, (m.endpoint flow x).result = (m', y) ∧ (n.endpoint flow x).result = (n', y) ∧
      m'.Twin n' := by
  obtain ⟨flows, termination, shown, rfl, hflows, hend⟩ := hm
  obtain ⟨g, hg⟩ := m.endpoint_result flow x
  exact ⟨_, _, _, hg, by rw [endpoint_driven, hg], flows, termination, shown, rfl, hflows, hend⟩

theorem compile_twin (hm : m.Twin n) (text source : String) (purpose : Purpose) :
    ∃ m' n' f, (m.compile text source purpose).result = (m', f) ∧
      (n.compile text source purpose).result = (n', f) ∧ m'.Twin n' := by
  obtain ⟨flows, termination, shown, rfl, hflows, hend⟩ := hm
  obtain ⟨slots, g, hg, -, -⟩ := m.compile_result text source purpose
  refine ⟨_, _, _, rfl, compile_driven m text source purpose, flows, termination, shown, rfl, ?_,
    ?_⟩
  · rwa [hg]
  · rwa [hg]

theorem dependencies_twin (hm : m.Twin n) (names : List String) :
    n.dependencies names = m.dependencies names := by
  obtain ⟨flows, termination, shown, rfl, -, -⟩ := hm
  rfl

/-- A number is a rate itself; in brackets it is the formula of one. -/
theorem rate_twin (h : d.Bracketed e) (hm : m.Twin n) (name : String) :
    ∃ m' n' rate rate' text text' dependencies,
      (m.rate name none (rateOf d)).result = (m', .ok (rate, text, dependencies)) ∧
      (n.rate name none (rateOf e)).result = (n', .ok (rate', text', dependencies)) ∧
      m'.Twin n' ∧ rate.Twin rate' := by
  -- A rate that is given as a text is read the same in both models.
  have htext : ∀ text, ∃ m' n' rate rate' shown shown' dependencies,
      (m.rate name none (.text text)).result = (m', .ok (rate, shown, dependencies)) ∧
      (n.rate name none (.text text)).result = (n', .ok (rate', shown', dependencies)) ∧
      m'.Twin n' ∧ rate.Twin rate' := by
    intro text
    obtain ⟨m', n', f, hm', hn', htwin⟩ := compile_twin hm text ("flow " ++ name) .number
    rw [rate_text_result, rate_text_result, hm', hn', dependencies_twin htwin]
    exact ⟨m', n', _, _, _, _, _, rfl, rfl, htwin, .same _⟩
  have hrate := h.get? "rate"
  unfold rateOf
  generalize d.properties.get? "rate" = v, e.properties.get? "rate" = w at hrate ⊢
  cases hrate with
  | none => exact ⟨m, n, _, _, _, _, _, rfl, rfl, hm, .same _⟩
  | @some v w hrate =>
    cases hrate with
    | same =>
      rcases v with s | x | s
      · exact htext s
      · exact ⟨m, n, _, _, _, _, _, rfl, rfl, hm, .same _⟩
      · exact htext s
    | number hkey hx hfinite =>
      obtain ⟨k, rfl, -, hcompile⟩ := compile_bracketed hx
      have hdependencies : ∀ f : Formula, f.body = .ok k.code →
          n.dependencies f.references = [] := by
        intro f hbody
        rw [Formula.references_numeral hbody]
        rfl
      dsimp only [PropertyValue.asText]
      rw [rate_datum_result, rate_text_result, compile_numeral hcompile,
        hdependencies ⟨_, _, _, .ok k.code⟩ rfl]
      exact ⟨m, n, _, _, _, _, _, rfl, rfl, hm,
        .number (Formula.evaluate_numeral rfl rfl hfinite)⟩

theorem putFlow_twin {f g : Flow} (hfg : f.Twin g) (hm : m.Twin n) (name : String) :
    (m.putFlow name f).result.Twin (n.putFlow name g).result := by
  obtain ⟨flows, termination, shown, rfl, hflows, hend⟩ := hm
  obtain ⟨d, hd⟩ := m.putFlow_result name f
  rw [putFlow_driven hfg, hd]
  exact ⟨_, termination, shown, rfl, hflows.insert hfg, hend⟩

theorem loadFlow_twin (h : d.Bracketed e) (hm : m.Twin n) (hname : e.name = d.name) :
    (m.loadFlow d).result.Twin (n.loadFlow e).result := by
  have hfrom : endOf e "from" = endOf d "from" := by
    rw [endOf, endOf, h.textOf_eq "from" (by decide)]
  have hto : endOf e "to" = endOf d "to" := by
    rw [endOf, endOf, h.textOf_eq "to" (by decide)]
  obtain ⟨m₁, n₁, source, hm₁, hn₁, h₁⟩ := endpoint_twin hm d.name (endOf d "from")
  obtain ⟨m₂, n₂, target, hm₂, hn₂, h₂⟩ := endpoint_twin h₁ d.name (endOf d "to")
  obtain ⟨m₃, n₃, rate, rate', text, text', dependencies, hm₃, hn₃, h₃, hrate⟩ :=
    rate_twin h h₂ d.name
  simp only [loadFlow, addFlow, Noted.result_bind, Noted.result_pure, hname, hfrom, hto, hm₁, hn₁,
    hm₂, hn₂, hm₃, hn₃, h.textOf_eq "units" (by decide)]
  exact putFlow_twin ⟨rate', text', rfl, hrate⟩ h₃ d.name

/-- A number that ends a run is written out and read again; that keeps whether it is zero. -/
theorem loadTermination_twin (h : d.Bracketed e) (hm : m.Twin n) :
    (m.loadTermination d).result.Twin (n.loadTermination e).result := by
  -- A condition that is given as a text is read the same in both models.
  have htext : ∀ text, (m.endWhen text none).result.Twin (n.endWhen text none).result := by
    intro text
    obtain ⟨m', n', f, hm', hn', htwin⟩ := compile_twin hm text "terminate" .condition
    simp only [endWhen, Noted.result_bind, Noted.result_pure, hm', hn']
    obtain ⟨flows, termination, shown, rfl, hflows, -⟩ := htwin
    exact ⟨flows, _, _, rfl, hflows, .some (.same _)⟩
  have hwhen := h.get? "when"
  unfold loadTermination textOf
  generalize d.properties.get? "when" = v, e.properties.get? "when" = w at hwhen ⊢
  cases hwhen with
  | none => exact hm
  | @some v w hwhen =>
    cases hwhen with
    | same => exact htext v.asText
    | @number cs x hkey hx hfinite =>
      obtain ⟨k, rfl, -, hcompile⟩ := compile_bracketed hx
      obtain ⟨l, hproper, hshown, hzero⟩ := roundedText_numeral (by decide : 0 < 6) hfinite
      have hparse : Expr.parse (messageText k.value) = .ok l.expr :=
        (congrArg Expr.parse hshown).trans (l.parse_text hproper)
      have hcompile' := l.compile_of_parse hparse
      obtain ⟨flows, termination, shown, rfl, hflows, -⟩ := hm
      simp only [Option.map_some, PropertyValue.asText, endWhen, Noted.result_bind,
        Noted.result_pure, compile_numeral hcompile, compile_numeral hcompile']
      refine ⟨flows, _, _, rfl, hflows, .some (.truth (b := !(k.value == 0.0)) ?_ ?_)⟩
      · rw [← hzero]
        exact Formula.evaluate_condition_numeral rfl rfl
      · exact Formula.evaluate_condition_numeral rfl rfl

/-- A number that is loaded and the number loaded in brackets make twins. -/
theorem load_twin (h : d.Bracketed e) (hm : m.Twin n) :
    (m.load d).result.Twin (n.load e).result := by
  have hkept := h
  obtain ⟨properties, he, -⟩ := hkept
  have hkind : e.kind = d.kind := by rw [he]
  have hname : e.name = d.name := by rw [he]
  have hpoints : e.points = d.points := by rw [he]
  unfold load
  rw [hkind]
  split
  · exact loadConstant_twin h hm hname
  · exact loadStock_twin h hm hname
  · exact loadFlow_twin h hm hname
  · exact loadTermination_twin h hm
  · obtain ⟨flows, termination, shown, rfl, hflows, hend⟩ := hm
    simp only [loadGraph, properText?, Noted.result_pure, hname,
      h.textOf_eq "title" (by decide), h.get?_eq "variables" (by decide),
      h.textOf_eq "type" (by decide), h.textOf_eq "yAxisLabel" (by decide),
      h.textOf_eq "color" (by decide)]
    exact ⟨flows, termination, shown, rfl, hflows, hend⟩
  · obtain ⟨flows, termination, shown, rfl, hflows, hend⟩ := hm
    rw [hname, hpoints]
    exact ⟨flows, termination, shown, rfl, hflows, hend⟩
  · obtain ⟨flows, termination, shown, rfl, hflows, hend⟩ := hm
    rw [hname, hpoints]
    exact ⟨flows, termination, shown, rfl, hflows, hend⟩

theorem loadAll_twin {ds es : List Declaration} (h : List.Forall₂ Declaration.Bracketed ds es)
    {m n : Model} (hm : m.Twin n) : (loadAll ds m).result.Twin (loadAll es n).result := by
  induction h generalizing m n with
  | nil => exact hm
  | cons h _ ih => exact ih (load_twin h hm)

theorem ofDeclarations_twin (c : Capacities) {ds es : List Declaration}
    (h : List.Forall₂ Declaration.Bracketed ds es) :
    (ofDeclarations c ds).result.Twin (ofDeclarations c es).result := by
  have hdeferred : ∀ {d e : Declaration}, d.Bracketed e → isDeferred d = isDeferred e := by
    rintro d e ⟨properties, rfl, -⟩
    rfl
  have hfirst := List.rel_filter (p := fun d => !isDeferred d) (q := fun d => !isDeferred d)
    (fun _ _ h => Bool.eq_iff_iff.1 (congrArg (! ·) (hdeferred h))) h
  have hlast := List.rel_filter (p := isDeferred) (q := isDeferred)
    (fun _ _ h => Bool.eq_iff_iff.1 (hdeferred h)) h
  obtain ⟨flows, termination, shown, hn, hflows, hend⟩ :=
    loadAll_twin hlast (loadAll_twin hfirst (Twin.refl (empty c.history
      (.withCapacity c.diagnostics .warning))))
  exact ⟨flows, termination, shown, congrArg record hn, hflows, hend⟩

end Model

end SystemDynamics
