import SystemDynamics.Proofs.Naming
import SystemDynamics.Proofs.WellFormed

/-!
# The stocks that a rate reads

The names in resolved code are the identifiers of the expression: its names but for those of tables
(`Expr.resolve_names`). The dependencies of a flow are those of them that are stocks and no
constants, which is to say those that stand for their stocks, unless a stock has the name of a
universal value or of a value of the clock (`Model.Reachable.dependencies_exact`). Such a stock is
listed, although its name never stands for it (`Model.dependencies_enzyme`).
-/

namespace SystemDynamics

/-! ## Identifiers -/

/-- The name that an expression is. -/
def Expr.name? : Expr → Option String
  | .name n => some n
  | _ => none

/-- The identifier at a place: a name that is not the name of a table. -/
def Place.identifier? (p : Place) : Option String :=
  if p.role = .table ∨ p.role = .surface then none else p.node.name?

/-- The identifiers at places, in their order and with repetitions. -/
def Place.identifiers (ps : List Place) : List String := ps.filterMap identifier?

/-- The identifiers of an expression. -/
def Expr.identifiers (x : Expr) : List String := Place.identifiers (x.places .operand)

/-- Whatever the computation gives, from any claims on, is so. -/
def Resolution.Gives {α : Type} (e : Resolution α) (post : α → Prop) : Prop :=
  ∀ c a, (e.run c).1 = .ok a → post a

namespace Resolution

variable {α β : Type} {e : Resolution α} {mid : α → Prop} {post : β → Prop}

theorem gives_pure {b : β} (h : post b) : Gives (pure b) post := by
  rintro c a ⟨⟩
  exact h

theorem gives_throw {m : Misuse} : Gives (throw m : Resolution β) post := nofun

theorem Gives.bind {f : α → Resolution β} (he : Gives e mid) (hf : ∀ a, mid a → Gives (f a) post) :
    Gives (e >>= f) post := by
  intro c b hb
  rw [run_bind] at hb
  rcases hrun : e.run c with ⟨m | a, c'⟩
  · rw [hrun] at hb
    cases hb
  · rw [hrun] at hb
    exact hf a (he c a (by rw [hrun])) c' b hb

end Resolution

namespace Expr

open Resolution

/-- The names of the code that an expression is resolved to are its identifiers, and so for the
points of a table and for several expressions. -/
theorem resolve_names (site : Site) :
    (∀ x, Gives (resolve site x) fun code =>
      code.names = Place.identifiers (places .operand x)) ∧
    (∀ items, Gives (resolvePoints site items) fun codes =>
      Code.namesOfAll codes = Place.identifiers (placesOfAll (fun _ => .point) items)) ∧
    (∀ xs, Gives (resolveAll site xs) fun codes =>
      Code.namesOfAll codes = Place.identifiers (placesOfAll (fun _ => .operand) xs)) := by
  apply resolve.mutual_induct site
    (fun x => Gives (resolve site x) fun code =>
      code.names = Place.identifiers (places .operand x))
    (fun items => Gives (resolvePoints site items) fun codes =>
      Code.namesOfAll codes = Place.identifiers (placesOfAll (fun _ => .point) items))
    (fun xs => Gives (resolveAll site xs) fun codes =>
      Code.namesOfAll codes = Place.identifiers (placesOfAll (fun _ => .operand) xs))
  -- Numbers, names, signs, operators and choices.
  case case1 | case3 =>
    intro x
    rw [resolve]
    exact gives_pure rfl
  case case4 =>
    intro op x hx
    rw [resolve]
    exact hx.bind fun v hv => gives_pure hv
  case case5 | case6 =>
    intro op x y hx hy
    rw [resolve]
    refine hx.bind fun v hv => hy.bind fun w hw => gives_pure ?_
    simp [Code.names, hv, hw, places, Place.identifiers, Place.identifier?, name?]
  case case7 =>
    intro x y z hx hy hz
    rw [resolve]
    refine hx.bind fun u hu => hy.bind fun v hv => hz.bind fun w hw => gives_pure ?_
    simp [Code.names, hu, hv, hw, places, Place.identifiers, Place.identifier?, name?]
  -- What is refused gives nothing.
  case case2 | case8 =>
    intro x
    rw [resolve]
    exact gives_throw
  case case9 =>
    intro f arguments hb
    simp only [resolve, hb]
    exact gives_throw
  case case10 =>
    intro f arguments b hb m hm
    simp only [resolve, hb, hm]
    exact gives_throw
  case case17 =>
    intro f arguments b hb hm h1 h2 h3 h4 h5 h6
    have hthrow : resolve site (.call f arguments) = throw (.unknownFunction f) := by
      simp only [resolve, hb, hm]
    rw [hthrow]
    exact gives_throw
  -- Calls of functions, whose tables give no names but those in their points.
  case case11 =>
    intro f g x hb hm hx
    simp only [resolve, hb, hm]
    refine hx.bind fun v hv => gives_pure ?_
    simp [Code.names, hv, places, placesOfAll, hb, Role.argument, Place.identifiers,
      Place.identifier?, name?]
  case case12 =>
    intro f x y hb hm hx hy
    simp only [resolve, hb, hm]
    refine hx.bind fun v hv => hy.bind fun w hw => gives_pure ?_
    simp [Code.names, hv, hw, places, placesOfAll, hb, Role.argument, Place.identifiers,
      Place.identifier?, name?]
  case case13 =>
    intro f e x xs hb hm hx hxs
    simp only [resolve, hb, hm]
    refine hx.bind fun v hv => hxs.bind fun ws hws => gives_pure ?_
    simp [Code.names, hv, hws, places, placesOfAll, hb, Role.argument, Place.identifiers,
      Place.identifier?, name?]
  case case14 =>
    intro f kind x y hb hm hx hy
    simp only [resolve, hb, hm]
    have hclaim : Gives (claim site.source kind) fun _ => True := fun _ _ _ => trivial
    refine hclaim.bind fun slot _ => hx.bind fun v hv => hy.bind fun w hw => gives_pure ?_
    simp [Code.names, hv, hw, places, placesOfAll, hb, Role.argument, Place.identifiers,
      Place.identifier?, name?]
  case case15 =>
    intro f x table hb hm hx htable
    simp only [resolve, hb, hm]
    refine hx.bind fun v hv => ?_
    cases table
    case name | text =>
      refine gives_pure ?_
      simp [Code.names, hv, places, placesOfAll, hb, Role.argument, Place.identifiers,
        Place.identifier?, name?]
    case list items =>
      have hitems : Gives (resolvePoints site items) _ := htable
      refine hitems.bind fun ws hws => gives_pure ?_
      simp [Code.names, hv, hws, places, placesOfAll, hb, Role.argument, Role.item,
        Place.identifiers, Place.identifier?, name?]
    all_goals exact gives_throw
  case case16 =>
    intro f x y table hb hm hx hy
    simp only [resolve, hb, hm]
    refine hx.bind fun v hv => hy.bind fun w hw => ?_
    cases table
    case name | text =>
      refine gives_pure ?_
      simp [Code.names, hv, hw, places, placesOfAll, hb, Role.argument, Place.identifiers,
        Place.identifier?, name?]
    all_goals exact gives_throw
  -- The points of a table.
  case case18 =>
    rw [resolvePoints]
    exact gives_pure rfl
  case case19 =>
    intro items x y hx hy hitems
    rw [resolvePoints]
    refine hx.bind fun v hv => hy.bind fun w hw => hitems.bind fun ws hws => gives_pure ?_
    simp [Code.namesOfAll, hv, hw, hws, places, placesOfAll, Role.item, Place.identifiers,
      Place.identifier?, name?]
  case case20 =>
    intro x xs hx
    have hthrow : resolvePoints site (x :: xs) = throw .notAPoint := by
      rw [resolvePoints]
      exact hx
    rw [hthrow]
    exact gives_throw
  -- Several expressions.
  case case21 =>
    rw [resolveAll]
    exact gives_pure rfl
  case case22 =>
    intro x xs hx hxs
    rw [resolveAll]
    refine hx.bind fun v hv => hxs.bind fun ws hws => gives_pure ?_
    simp [Code.namesOfAll, hv, hws, placesOfAll, Place.identifiers]

end Expr

/-- What a formula refers to, if its text is compiled, are the identifiers of its expression. -/
theorem Formula.compile_identifiers {site : Site} {text : String} {slots : List Slot} {code : Code}
    (h : (compile site text slots).1 = .ok code) :
    ∃ x, Expr.parse text = .ok x ∧ code.names = x.identifiers := by
  unfold compile at h
  rcases hparse : Expr.parse text with e | x
  · rw [hparse] at h
    cases h
  · refine ⟨x, rfl, (Expr.resolve_names site).1 x ⟨slots, []⟩ code ?_⟩
    rw [hparse] at h
    dsimp only at h
    split at h
    · rename_i hrun
      cases h
      rw [hrun]
    · cases h

/-- The formula of a rate that is given as a text. -/
def Rate.formula? : Rate → Option Formula
  | .formula g => some g
  | .fixed _ | .supplied _ => none

theorem Rate.formula?_eq_some_iff {r : Rate} {g : Formula} :
    r.formula? = some g ↔ r = .formula g := by
  cases r <;> simp [formula?]

namespace Model

/-! ## What names stand for -/

/-- The name stands for the stock of that name: it has the value of the stock, whatever it is. -/
def StandsForStock (m : Model) (name : String) : Prop :=
  m.stocks.contains name = true ∧
    ∀ x, (m.setStock name x).scope.resolve name = .ok (.ofNamed name x)

/-- A name that has the same value whatever the stock of that name has does not stand for it. -/
theorem not_standsForStock_of_resolve {m : Model} {name : String} (v : Value)
    (h : ∀ x, (m.setStock name x).scope.resolve name = .ok v) : ¬ m.StandsForStock name := by
  intro hstands
  have hsame : Value.ofNamed name 0.0 = Value.ofNamed name 1.0 :=
    Except.ok.inj ((hstands.2 0.0).symm.trans ((h 0.0).trans ((h 1.0).symm.trans (hstands.2 1.0))))
  have hzero : Value.ofNamed name 0.0 = .real 0.0 := if_neg (by decide)
  have hone : Value.ofNamed name 1.0 = .real 1.0 := if_neg (by decide)
  rw [hzero, hone] at hsame
  exact absurd (Value.real.inj hsame) (by decide)

/-- The names of universal values and of values of the clock that a stock can have. -/
def reservedNames : List String := ["PI", "E", "TIME", "dt"]

theorem not_standsForStock {m : Model} {name : String} (h : name ∈ reservedNames) :
    ¬ m.StandsForStock name := by
  simp only [reservedNames, List.mem_cons, List.not_mem_nil, or_false] at h
  rcases h with rfl | rfl | rfl | rfl
  · exact not_standsForStock_of_resolve (.real Scope.circle) fun _ => rfl
  · exact not_standsForStock_of_resolve (.real Scope.base) fun _ => rfl
  · exact not_standsForStock_of_resolve (.real m.clock.time) fun _ => rfl
  · exact not_standsForStock_of_resolve (.real m.clock.dt) fun _ => rfl

theorem setStock_value {m : Model} {name : String} (h : m.stocks.contains name = true) (x : Float) :
    (m.setStock name x).scope.stock? name = some x := by
  obtain ⟨s, hs⟩ := Option.isSome_iff_exists.1 h
  have hset : (m.setStock name x).stocks.get? name = some { s with value := x } := by
    rw [setStock, Table.modify, Table.get?_mapWithName, hs]
    exact congrArg some (if_pos rfl)
  exact congrArg (Option.map (·.value)) hset

/-- Any other name stands for its stock if there is one and no constant hides it. -/
theorem Named.standsForStock {m : Model} (hm : m.Named) {name : String}
    (h : name ∉ reservedNames) : m.StandsForStock name ↔
      m.stocks.contains name = true ∧ m.constants.contains name = false := by
  refine and_congr_right fun hstock => ?_
  have hvalue (x : Float) := Scope.resolve_isName (hm.stocks name hstock) h
    (m.setStock name x).scope
  constructor
  · intro hstands
    rcases hconstant : m.constants.get? name with _ | v
    · rw [Table.contains, hconstant]
      rfl
    · refine absurd ⟨hstock, hstands⟩ 
        (not_standsForStock_of_resolve (.ofNamed name v) fun x => (hvalue x).1 _ ?_)
      exact congrArg (Option.map (Value.ofNamed name)) hconstant
  · intro hconstant x
    refine (hvalue x).2 x ?_ (setStock_value hstock x)
    have hnone : m.constants.get? name = none :=
      Option.not_isSome_iff_eq_none.1 (Bool.eq_false_iff.1 hconstant)
    exact congrArg (Option.map (Value.ofNamed name)) hnone

/-! ## Dependencies -/

/-- In a model that has been reached from a text, let the rate of a flow be given as a text. The
dependencies of the flow ascend. There are none if the text is refused. Otherwise they are the
identifiers of its expression that are stocks and no constants. For all but the reserved names these
are the identifiers that stand for their stocks; a reserved name never stands for one. -/
theorem Reachable.dependencies_exact {c : Capacities} {text : String} {m : Model}
    (hm : Reachable c text m) {e : String × Flow} (he : e ∈ m.flows.entries) {g : Formula}
    (hg : e.2.rate = .formula g) :
    e.2.dependencies.Pairwise (· < ·) ∧
      (g.error? ≠ none → e.2.dependencies = []) ∧
      (g.error? = none → ∃ x, Expr.parse g.text = .ok x ∧
        (∀ name, name ∈ e.2.dependencies ↔ name ∈ x.identifiers ∧
          m.stocks.contains name = true ∧ m.constants.contains name = false) ∧
        (∀ name ∉ reservedNames,
          (name ∈ e.2.dependencies ↔ name ∈ x.identifiers ∧ m.StandsForStock name)) ∧
        ∀ name ∈ reservedNames, ¬ m.StandsForStock name) := by
  have hloaded := hm.loaded e he
  obtain ⟨slots, hbody⟩ := hloaded.body g hg
  rw [hloaded.reads g hg]
  refine ⟨m.dependencies_ascending g, fun herror => ?_, fun herror => ?_⟩
  · have hnone : g.references = [] := by
      unfold Formula.references
      unfold Formula.error? at herror
      split at herror
      · exact absurd rfl herror
      · rfl
    rw [hnone]
    rfl
  · obtain ⟨code, hcode⟩ : ∃ code, g.body = .ok code := by
      unfold Formula.error? at herror
      split at herror
      · rename_i code hcode
        exact ⟨code, hcode⟩
      · cases herror
    obtain ⟨x, hparse, hnames⟩ := Formula.compile_identifiers (hbody.symm.trans hcode)
    have hreferences (name : String) : name ∈ g.references ↔ name ∈ x.identifiers := by
      rw [Formula.references, hcode, Code.mem_references, hnames]
    have hmem (name : String) : name ∈ m.dependencies g.references ↔ name ∈ x.identifiers ∧
        m.stocks.contains name = true ∧ m.constants.contains name = false := by
      rw [dependencies, List.mem_filter, hreferences, Bool.and_eq_true, Bool.not_eq_true']
    refine ⟨x, hparse, hmem, fun name hname => ?_, fun name => not_standsForStock⟩
    rw [hmem, hm.named.standsForStock hname]

/-- A flow whose rate names a stock twice, one that a constant hides, and a table that has the name
of a stock. -/
def nursery : String :=
  "stock A \x7b\ninitial: 1\n\x7d\nstock B \x7b\ninitial: 5\n\x7d\nstock T \x7b\n\x7d\n" ++
  "const B = 2\nlookup T \x7b\n[0, 1]\n[9, 4]\n\x7d\n" ++
  "flow F \x7b\nto: A\nrate: LOOKUP(A, T) * B + A * PI\n\x7d"

theorem dependencies_exact_nursery :
    ∃ e ∈ (ofText .default nursery).result.flows.entries, e.2.dependencies = ["A"] ∧
      ∃ g x, e.2.rate = .formula g ∧ Expr.parse g.text = .ok x ∧ "A" ∈ x.identifiers ∧
        (ofText .default nursery).result.StandsForStock "A" ∧ "B" ∉ e.2.dependencies := by
  have hreachable : Reachable .default nursery (ofText .default nursery).result := ⟨[], rfl⟩
  have hread : ((ofText .default nursery).result.flows.entries[0]?.bind fun e =>
      e.2.rate.formula?).map Formula.isOk = some true := by
    decide +kernel
  have hdependencies : (ofText .default nursery).result.flows.entries[0]?.map
      (fun e => e.2.dependencies) = some ["A"] := by
    decide +kernel
  obtain ⟨g, hg, hok⟩ := Option.map_eq_some_iff.1 hread
  obtain ⟨e, he, hrate⟩ := Option.bind_eq_some_iff.1 hg
  rw [he] at hdependencies
  have hdependencies : e.2.dependencies = ["A"] := Option.some_inj.1 hdependencies
  have hmem : "A" ∈ e.2.dependencies := hdependencies ▸ List.mem_singleton_self _
  have hrate : e.2.rate = .formula g := Rate.formula?_eq_some_iff.1 hrate
  obtain ⟨-, -, hexact⟩ := hreachable.dependencies_exact (List.mem_of_getElem? he) hrate
  obtain ⟨x, hparse, -, hstands, -⟩ := hexact (Option.isNone_iff_eq_none.1 hok)
  obtain ⟨hidentifier, hstock⟩ := (hstands "A" (by decide)).1 hmem
  exact ⟨e, List.mem_of_getElem? he, hdependencies, g, x, hrate, hparse, hidentifier, hstock,
    hdependencies ▸ (by decide)⟩

/-- A flow whose rate is the base of the natural logarithm, and a stock of that name. -/
def enzyme : String := "stock E \x7b\ninitial: 3\n\x7d\nflow Decay \x7b\nfrom: E\nrate: E\n\x7d"

/-- The stock is listed, although its name does not stand for it. -/
theorem dependencies_enzyme :
    (ofText .default enzyme).result.flows.entries.map (·.2.dependencies) = [["E"]] ∧
      (ofText .default enzyme).result.scope.resolve "E" = .ok (.real Scope.base) ∧
      ¬ (ofText .default enzyme).result.StandsForStock "E" :=
  ⟨by decide +kernel, rfl, not_standsForStock (by decide)⟩

end Model

end SystemDynamics
