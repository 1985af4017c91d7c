import SystemDynamics.Proofs.Limits

/-!
# What loading does

A declaration adds data, a stock, a flow or a condition to a model, and no more. What it adds for
an expression owns new slots only, and the numbers that it adds are finite or written out in it
(`Model.load_loads`). So what holds of an empty model and is kept by these four ways of loading
holds of every model that a text makes (`Model.ofText_kept`).
-/

namespace SystemDynamics

/-- A number that a declaration can give: one that is finite, or written out in it. -/
def Declaration.Gives (d : Declaration) (x : Float) : Prop :=
  x.isFinite = true ∨ ∃ key, d.properties.get? key = some (.number x)

theorem Declaration.gives_zero (d : Declaration) : d.Gives 0.0 := .inl (by decide)

theorem Code.evalNumber_finite {s : Scope} {c : Code} {m : Memory} {x : Float}
    (h : ((c.evalNumber s).run m).1 = .ok x) : x.isFinite = true := by
  unfold evalNumber at h
  rw [run_bind] at h
  rcases hv : (c.eval s).run m with ⟨e | v, m'⟩ <;> rw [hv] at h
  · cases h
  · simp only [run_bind] at h
    rcases ho : (Evaluation.outcome v.toReal).run m' with ⟨e | y, m''⟩ <;> rw [ho] at h
    · cases h
    · simp only at h
      split at h
      · rename_i hy
        cases h
        exact hy
      · cases h

theorem constantValue_finite {text : String} {constant? : String → Option Value} {x : Float}
    (h : constantValue text constant? = .ok x) : x.isFinite = true := by
  obtain ⟨c, -, hc⟩ := exists_code_of_constantValue h
  exact Code.evalNumber_finite hc

namespace Model

/-- The end of a flow among stocks. A name that no stock has leads outside. -/
def endAmong (stocks : Table Stock) : EndpointSource → Endpoint
  | .outside => .outside
  | .held stock => .stock stock
  | .named name =>
    if name ∈ outsideNames then .outside
    else if stocks.contains name then .stock name
    else .outside

/-- What loading a declaration can do to a model. -/
inductive Loads (d : Declaration) (m : Model) : Model → Prop
  | data (constants : Table Float) (curves : Table (Curve Float))
      (surfaces : Table (Surface Float)) (graphs : Table Graph) (diagnostics : Diagnostics)
      (hkept : isDeferred d = true → constants = m.constants)
      (hkind : d.kind ≠ .stock ∧ d.kind ≠ .flow)
      (hcurves : d.kind ≠ .lookup → curves = m.curves)
      (hsurfaces : d.kind ≠ .lookup2d → surfaces = m.surfaces) :
      Loads d m { m with constants, curves, surfaces, graphs, diagnostics }
  | stock (s : Stock) (diagnostics : Diagnostics) (hvalue : d.Gives s.value)
      (hleast : ∀ x, s.least = some x → d.Gives x)
      (hgreatest : ∀ x, s.greatest = some x → d.Gives x) (hfirst : isDeferred d = false)
      (hkind : d.kind = .stock) :
      Loads d m (addStock { m with diagnostics } d.name s)
  | flow (f : Flow) (slots : List Slot) (diagnostics : Diagnostics)
      (hext : Extends m.slots slots) (hclaimed : Claimed m.slots slots f.delays)
      (hrate : ∀ x, f.rate = .fixed x → d.Gives x)
      (hreads : ∀ g, f.rate = .formula g → f.dependencies = m.dependencies g.references)
      (hlast : isDeferred d = true) (hkind : d.kind = .flow)
      (hsource : f.source = endAmong m.stocks (endOf d "from"))
      (htarget : f.target = endAmong m.stocks (endOf d "to"))
      (hunread : (∀ g, f.rate ≠ .formula g) → f.dependencies = [])
      (hbody : ∀ g, f.rate = .formula g →
        g.body = (Formula.compile ⟨true, "flow " ++ d.name⟩ g.text m.slots).1) :
      Loads d m { m with flows := m.flows.insert d.name f, slots, diagnostics }
  | ending (c : Condition) (text : Option String) (slots : List Slot) (diagnostics : Diagnostics)
      (hext : Extends m.slots slots) (hclaimed : Claimed m.slots slots c.delays)
      (hkind : d.kind = .terminate) :
      Loads d m { m with termination := some c, terminationText := text, slots, diagnostics }

theorem constantOf_result (m : Model) (label : String) (default : Option Float)
    (v : Option PropertyValue) :
    (∃ d, (m.constantOf label default v).result.1 = { m with diagnostics := d }) ∧
      ∀ x, (m.constantOf label default v).result.2 = some x →
        default = some x ∨ v = some (.number x) ∨ x.isFinite = true := by
  have hother : ∀ v : PropertyValue, (∀ y, v ≠ .number y) →
      (∃ d, (m.constantOf label default (some v)).result.1 = { m with diagnostics := d }) ∧
        ∀ x, (m.constantOf label default (some v)).result.2 = some x →
          default = some x ∨ some v = some (.number x) ∨ x.isFinite = true := by
    intro v hv
    rw [constantOf]
    · split
      · rename_i y hy
        refine ⟨⟨m.diagnostics, rfl⟩, fun x hx => .inr (.inr ?_)⟩
        cases hx
        exact constantValue_finite hy
      · exact ⟨⟨_, rfl⟩, fun x hx => .inl hx⟩
    · exact hv
  rcases v with _ | (s | y | s)
  · exact ⟨⟨m.diagnostics, rfl⟩, fun x hx => .inl hx⟩
  · exact hother _ fun y h => nomatch h
  · refine ⟨⟨m.diagnostics, rfl⟩, fun x hx => .inr (.inl ?_)⟩
    cases hx
    rfl
  · exact hother _ fun y h => nomatch h

theorem constantOf_gives {m : Model} {label key : String} {default : Option Float} {d : Declaration}
    (hdefault : ∀ x, default = some x → d.Gives x) (x : Float)
    (hx : (m.constantOf label default (d.properties.get? key)).result.2 = some x) : d.Gives x := by
  rcases (m.constantOf_result label default (d.properties.get? key)).2 x hx with h | h | h
  · exact hdefault x h
  · exact .inr ⟨key, h⟩
  · exact .inl h

theorem gives_orZero {d : Declaration} {x : Option Float} (hx : ∀ y, x = some y → d.Gives y) :
    d.Gives (orZero x) := by
  rcases x with _ | y
  · exact d.gives_zero
  · unfold orZero
    simp only
    split
    · exact d.gives_zero
    · exact hx y rfl

theorem compile_result (m : Model) (text source : String) (purpose : Purpose) :
    ∃ slots diagnostics, (m.compile text source purpose).result.1 = { m with slots, diagnostics } ∧
      Extends m.slots slots ∧
      Claimed m.slots slots (m.compile text source purpose).result.2.delays := by
  obtain ⟨hext, hclaimed⟩ := Formula.compile_claims ⟨true, source⟩ text m.slots
  unfold compile
  rcases hc : Formula.compile ⟨true, source⟩ text m.slots with ⟨e | code, slots⟩ <;>
    rw [hc] at hext hclaimed
  · exact ⟨slots, _, rfl, hext, .nil _ _⟩
  · exact ⟨slots, m.diagnostics, rfl, hext, hclaimed code rfl⟩

theorem compile_body (m : Model) (text source : String) (purpose : Purpose) :
    (m.compile text source purpose).result.2 =
      ⟨text, source, purpose, (Formula.compile ⟨true, source⟩ text m.slots).1⟩ := by
  unfold compile
  rcases Formula.compile ⟨true, source⟩ text m.slots with ⟨e | code, slots⟩
  · rfl
  · rfl

theorem endpoint_result (m : Model) (flow : String) (e : EndpointSource) :
    ∃ d, (m.endpoint flow e).result = ({ m with diagnostics := d }, endAmong m.stocks e) := by
  rcases e with _ | name | stock
  · exact ⟨m.diagnostics, rfl⟩
  · rw [endpoint, endAmong]
    split
    · exact ⟨m.diagnostics, rfl⟩
    · split
      · exact ⟨m.diagnostics, rfl⟩
      · exact ⟨_, rfl⟩
  · exact ⟨m.diagnostics, rfl⟩

theorem putFlow_result (m : Model) (name : String) (f : Flow) :
    ∃ d, (m.putFlow name f).result =
      { m with flows := m.flows.insert name f, diagnostics := d } := by
  unfold putFlow
  split
  · exact ⟨_, rfl⟩
  · exact ⟨m.diagnostics, rfl⟩

theorem loadConstant_loads (m : Model) {d : Declaration} (hd : d.kind = .const) :
    Loads d m (m.loadConstant d).result := by
  obtain ⟨g, hg⟩ := (m.constantOf_result ("const " ++ d.name) (some 0.0)
    (d.properties.get? "value")).1
  simp only [loadConstant, Noted.result_bind, Noted.result_pure, hg]
  refine .data _ m.curves m.surfaces m.graphs g (fun h => ?_) (by rw [hd]; decide) (fun _ => rfl)
    fun _ => rfl
  rw [isDeferred, hd] at h
  cases h

theorem loadStock_loads (m : Model) {d : Declaration} (hd : d.kind = .stock) :
    Loads d m (m.loadStock d).result := by
  have hzero : ∀ x, some (0.0 : Float) = some x → d.Gives x := by
    rintro x ⟨⟩
    exact d.gives_zero
  have hnone : ∀ x, (none : Option Float) = some x → d.Gives x := fun x h => nomatch h
  obtain ⟨g₁, h₁⟩ := (m.constantOf_result ("stock " ++ d.name ++ ".initial") (some 0.0)
    (d.properties.get? "initial")).1
  obtain ⟨g₂, h₂⟩ := (constantOf_result { m with diagnostics := g₁ }
    ("stock " ++ d.name ++ ".min") none (d.properties.get? "min")).1
  obtain ⟨g₃, h₃⟩ := (constantOf_result { m with diagnostics := g₂ }
    ("stock " ++ d.name ++ ".max") none (d.properties.get? "max")).1
  simp only [loadStock, Noted.result_bind, Noted.result_pure, h₁, h₂, h₃]
  exact .stock _ g₃ (gives_orZero fun x hx => constantOf_gives hzero x hx)
    (fun x hx => constantOf_gives hnone x hx) (fun x hx => constantOf_gives hnone x hx)
    (by rw [isDeferred, hd]; rfl) hd

theorem rate_datum_result (m : Model) (flow : String) (rateText : Option String) (x : Float) :
    (m.rate flow rateText (.datum (.real x))).result = (m, .ok (.fixed x, rateText, [])) := rfl

theorem rate_text_result (m : Model) (flow : String) (rateText : Option String) (text : String) :
    (m.rate flow rateText (.text text)).result =
      ((m.compile text ("flow " ++ flow) .number).result.1,
        .ok (.formula (m.compile text ("flow " ++ flow) .number).result.2,
          some (textOr rateText text),
          (m.compile text ("flow " ++ flow) .number).result.1.dependencies
            (m.compile text ("flow " ++ flow) .number).result.2.references)) := rfl

/-- A declared rate is a text or a number that the declaration gives. -/
theorem rateOf_cases (d : Declaration) :
    (∃ x, rateOf d = .datum (.real x) ∧ d.Gives x) ∨ ∃ text, rateOf d = .text text := by
  unfold rateOf
  split
  · exact .inl ⟨0.0, rfl, d.gives_zero⟩
  · rename_i x hx
    exact .inl ⟨x, rfl, .inr ⟨"rate", hx⟩⟩
  · exact .inr ⟨_, rfl⟩

theorem loadFlow_loads (m : Model) {d : Declaration} (hd : d.kind = .flow) :
    Loads d m (m.loadFlow d).result := by
  have hlast : isDeferred d = true := by rw [isDeferred, hd]; rfl
  obtain ⟨g₁, h₁⟩ := m.endpoint_result d.name (endOf d "from")
  obtain ⟨g₂, h₂⟩ := endpoint_result { m with diagnostics := g₁ } d.name (endOf d "to")
  simp only [loadFlow, addFlow, Noted.result_bind, Noted.result_pure, h₁, h₂]
  rcases rateOf_cases d with ⟨x, hx, hgives⟩ | ⟨text, htext⟩
  · rw [hx, rate_datum_result]
    simp only [Noted.result_bind, Noted.result_pure]
    obtain ⟨g₃, h₃⟩ := putFlow_result { m with diagnostics := g₂ } d.name
      { source := endAmong m.stocks (endOf d "from")
        target := endAmong m.stocks (endOf d "to")
        rate := .fixed x, rateText := none, units := textOf d "units", dependencies := [] }
    rw [h₃]
    refine .flow _ m.slots g₃ (.refl _) (.nil _ _) (fun y hy => ?_) (fun g hg => nomatch hg) hlast
      hd rfl rfl (fun _ => rfl) fun g hg => nomatch hg
    cases hy
    exact hgives
  · rw [htext, rate_text_result]
    obtain ⟨slots, g₃, h₃, hext, hclaimed⟩ := compile_result { m with diagnostics := g₂ } text
      ("flow " ++ d.name) .number
    simp only [Noted.result_bind, Noted.result_pure, h₃]
    obtain ⟨g₄, h₄⟩ := putFlow_result { m with slots, diagnostics := g₃ } d.name _
    rw [h₄]
    refine .flow _ slots g₄ hext hclaimed (fun y hy => nomatch hy) (fun g hg => ?_) hlast
      hd rfl rfl (fun h => absurd rfl (h _)) fun g hg => ?_
    · cases hg
      rfl
    · cases hg
      simp only [compile_body]

theorem loadTermination_loads (m : Model) {d : Declaration} (hd : d.kind = .terminate) :
    Loads d m (m.loadTermination d).result := by
  unfold loadTermination
  split
  · exact .data m.constants m.curves m.surfaces m.graphs m.diagnostics (fun _ => rfl)
      (by rw [hd]; decide) (fun _ => rfl) fun _ => rfl
  · rename_i text _
    obtain ⟨slots, g, hg, hext, hclaimed⟩ := m.compile_result text "terminate" .condition
    simp only [endWhen, Noted.result_bind, Noted.result_pure, hg]
    exact .ending _ _ slots g hext hclaimed hd

/-- Loading a declaration does one of four things. -/
theorem load_loads (m : Model) (d : Declaration) : Loads d m (m.load d).result := by
  unfold load
  split <;> rename_i hkind
  · exact m.loadConstant_loads hkind
  · exact m.loadStock_loads hkind
  · exact m.loadFlow_loads hkind
  · exact m.loadTermination_loads hkind
  · exact .data m.constants m.curves m.surfaces _ m.diagnostics (fun _ => rfl)
      (by rw [hkind]; decide) (fun _ => rfl) fun _ => rfl
  · exact .data m.constants _ m.surfaces m.graphs m.diagnostics (fun _ => rfl)
      (by rw [hkind]; decide) (fun h => absurd hkind h) fun _ => rfl
  · exact .data m.constants m.curves _ m.graphs m.diagnostics (fun _ => rfl)
      (by rw [hkind]; decide) (fun _ => rfl) fun h => absurd hkind h

theorem loadAll_kept {P : Model → Prop} : ∀ (ds : List Declaration) (m : Model),
    (∀ d ∈ ds, ∀ m n, Loads d m n → P m → P n) → P m → P (loadAll ds m).result
  | [], _, _, h => h
  | d :: ds, m, hloads, h =>
    loadAll_kept ds (m.load d).result (fun e he => hloads e (.tail d he))
      (hloads d (.head ds) m _ (m.load_loads d) h)

/-- What holds of a model before the flows and conditions are loaded, and then something else that
follows from it and is kept from there on, but for the first snapshot. -/
theorem ofText_phases {P Q : Model → Prop} (c : Capacities) (text : String)
    (hempty : P (empty c.history (.withCapacity c.diagnostics .warning)))
    (hfirst : ∀ d ∈ (Declaration.ofText text).result, isDeferred d = false →
      ∀ m n, Loads d m n → P m → P n)
    (hturn : ∀ m, P m → Q m)
    (hlast : ∀ d ∈ (Declaration.ofText text).result, isDeferred d = true →
      ∀ m n, Loads d m n → Q m → Q n) :
    ∃ m, (ofText c text).result = m.record ∧ Q m := by
  refine ⟨_, rfl, ?_⟩
  refine loadAll_kept _ _ (fun d hd => ?_) (hturn _ (loadAll_kept _ _ (fun d hd => ?_) hempty))
  · obtain ⟨hmem, hdeferred⟩ := List.mem_filter.1 hd
    exact hlast d hmem hdeferred
  · obtain ⟨hmem, hdeferred⟩ := List.mem_filter.1 hd
    exact hfirst d hmem (Bool.not_eq_true' _ ▸ hdeferred)

/-- What holds of an empty model and is kept by loading holds of what a text makes, but for the
first snapshot. -/
theorem ofText_kept {P : Model → Prop} (c : Capacities) (text : String)
    (hempty : P (empty c.history (.withCapacity c.diagnostics .warning)))
    (hloads : ∀ d ∈ (Declaration.ofText text).result, ∀ m n, Loads d m n → P m → P n) :
    ∃ m, (ofText c text).result = m.record ∧ P m :=
  ofText_phases c text hempty (fun d hd _ => hloads d hd) (fun _ h => h) fun d hd _ => hloads d hd

end Model

end SystemDynamics
