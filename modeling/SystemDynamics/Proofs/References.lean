import SystemDynamics.Proofs.Simultaneity

/-!
# What an expression refers to

Evaluating an expression looks up only its names and its tables, and reads the clock
(`Code.eval_congr`). So two models whose names have the same values give a formula the same answer,
and leave the same in its slots, if they did so before (`Model.evaluate_congr`). Flows are loaded
after stocks and constants, so what a flow got from these when it was loaded stays right
(`Model.Reachable.loaded`): in particular, the stocks that it depends on are all the stocks that its
rate names and no constant hides. So no other stock matters for what the flow moves in a step
(`Model.references_sound`).
-/

namespace SystemDynamics

/-- The scopes have one clock and the same tables, and the names stand for the same in both. -/
structure Scope.SameOn (names : List String) (s t : Scope) : Prop where
  clock : s.clock = t.clock
  curve : s.curve? = t.curve?
  surface : s.surface? = t.surface?
  resolve : ∀ n ∈ names, s.resolve n = t.resolve n

/-- A name stands for the same if a constant of it does, and a stock that no constant hides. -/
theorem Scope.resolve_congr {s t : Scope} {name : String} (hclock : s.clock = t.clock)
    (hconstant : s.constant? name = t.constant? name)
    (hstock : s.constant? name = none → s.stock? name = t.stock? name) :
    s.resolve name = t.resolve name := by
  rw [hconstant] at hstock
  rw [resolve, resolve, hclock, hconstant]
  rcases hv : t.constant? name with _ | v
  · rw [hstock hv]
  · rcases universal? name with _ | x
    · rcases t.clock.bind (ofClock? · name) with _ | y <;> rfl
    · rfl

namespace Code

section Same

variable {names : List String} {s t : Scope}

theorem time_congr (h : s.SameOn names t) : s.time? = t.time? := by
  rw [Scope.time?, Scope.time?, h.clock]

theorem lookup_congr (h : s.SameOn names t) (x : Except Fault Float) (table : String) :
    Evaluation.lookup s x table = Evaluation.lookup t x table := by
  unfold Evaluation.lookup
  rw [h.curve, time_congr h]

theorem surfaceLookup_congr (h : s.SameOn names t) (x y : Except Fault Float) (table : String) :
    Evaluation.surfaceLookup s x y table = Evaluation.surfaceLookup t x y table := by
  unfold Evaluation.surfaceLookup
  rw [h.surface, time_congr h]

mutual

/-- An expression has the same value where its names stand for the same. -/
theorem eval_congr (h : s.SameOn names t) : ∀ c : Code, c.names ⊆ names → c.eval s = c.eval t
  | .number x, _ => by rw [eval, eval]
  | .name n, hc => by rw [eval, eval, h.resolve n (hc (.head _))]
  | .unary op x, hc => by rw [eval, eval, eval_congr h x hc]
  | .math f x, hc => by rw [eval, eval, eval_congr h x hc]
  | .lookup x table, hc => by
    rw [eval, eval, eval_congr h x hc]
    simp only [lookup_congr h]
  | .binary op x y, hc => by
    obtain ⟨hx, hy⟩ := List.append_subset.1 hc
    rw [eval, eval, eval_congr h x hx, eval_congr h y hy]
  | .logical op x y, hc => by
    obtain ⟨hx, hy⟩ := List.append_subset.1 hc
    rw [eval, eval, eval_congr h x hx, eval_congr h y hy]
  | .power x y, hc => by
    obtain ⟨hx, hy⟩ := List.append_subset.1 hc
    rw [eval, eval, eval_congr h x hx, eval_congr h y hy]
  | .surfaceLookup x y table, hc => by
    obtain ⟨hx, hy⟩ := List.append_subset.1 hc
    rw [eval, eval, eval_congr h x hx, eval_congr h y hy]
    simp only [surfaceLookup_congr h]
  | .choice x y z, hc => by
    obtain ⟨hx, hyz⟩ := List.append_subset.1 hc
    obtain ⟨hy, hz⟩ := List.append_subset.1 hyz
    rw [eval, eval, eval_congr h x hx, eval_congr h y hy, eval_congr h z hz]
  | .extremum e x xs, hc => by
    obtain ⟨hx, hxs⟩ := List.append_subset.1 hc
    rw [eval, eval, eval_congr h x hx, evalAll_congr h xs hxs]
  | .inlineLookup x xs label, hc => by
    obtain ⟨hx, hxs⟩ := List.append_subset.1 hc
    rw [eval, eval, eval_congr h x hx, evalAll_congr h xs hxs, time_congr h]
  | .delay kind slot x y, hc => by
    obtain ⟨hx, hy⟩ := List.append_subset.1 hc
    rw [eval, eval, eval_congr h x hx, eval_congr h y hy, h.clock]

theorem evalAll_congr (h : s.SameOn names t) :
    ∀ cs : List Code, namesOfAll cs ⊆ names → evalAll s cs = evalAll t cs
  | [], _ => by rw [evalAll, evalAll]
  | x :: xs, hc => by
    obtain ⟨hx, hxs⟩ := List.append_subset.1 hc
    rw [evalAll, evalAll, eval_congr h x hx, evalAll_congr h xs hxs]

end

end Same

theorem mem_addName {n m : String} :
    ∀ {names : List String}, n ∈ addName m names ↔ n = m ∨ n ∈ names
  | [] => by simp [addName]
  | k :: rest => by
    rw [addName]
    split
    · simp
    · split
      · rename_i hk
        subst hk
        simp
      · simp only [List.mem_cons, mem_addName]
        exact or_left_comm

/-- Adding a name keeps names ascending. -/
theorem addName_ascending {n : String} : ∀ {names : List String},
    names.Pairwise (· < ·) → (addName n names).Pairwise (· < ·)
  | [], _ => List.pairwise_singleton _ _
  | k :: rest, h => by
    obtain ⟨hk, hrest⟩ := List.pairwise_cons.1 h
    rw [addName]
    split
    · rename_i hn
      refine List.pairwise_cons.2 ⟨fun m hm => ?_, h⟩
      rcases List.mem_cons.1 hm with rfl | hm
      · exact hn
      · exact String.lt_trans hn (hk m hm)
    · split
      · exact h
      · rename_i hn hne
        have hkn : k < n := by
          refine Decidable.not_not.1 fun hnot => hne ?_
          exact String.le_antisymm (String.not_lt.1 hnot) (String.not_lt.1 hn)
        refine List.pairwise_cons.2 ⟨fun m hm => ?_, addName_ascending hrest⟩
        rcases mem_addName.1 hm with rfl | hm
        · exact hkn
        · exact hk m hm

theorem references_ascending (c : Code) : c.references.Pairwise (· < ·) := by
  unfold references
  induction c.names with
  | nil => exact .nil
  | cons m rest ih => exact addName_ascending ih

/-- The references of an expression are its names. -/
theorem mem_references {n : String} {c : Code} : n ∈ c.references ↔ n ∈ c.names := by
  unfold references
  induction c.names with
  | nil => rfl
  | cons m rest ih => rw [List.foldr_cons, mem_addName, ih, List.mem_cons]

end Code

theorem Formula.answer_congr {names : List String} {s t : Scope} (h : s.SameOn names t) {c : Code}
    (hc : c.names ⊆ names) (purpose : Purpose) : answer s c purpose = answer t c purpose := by
  rcases purpose with _ | _
  · simp only [answer, Code.evalNumber, Code.eval_congr h c hc]
  · simp only [answer, Code.evalTruth, Code.eval_congr h c hc]

/-- A formula is evaluated alike where its references stand for the same. -/
theorem Formula.evaluate_congr {f : Formula} {s t : Scope} (h : s.SameOn f.references t)
    (m : Memory) : f.evaluate s m = f.evaluate t m := by
  rcases hb : f.body with e | c
  · simp only [evaluate, hb]
  · have hreferences : f.references = c.references := by simp only [references, hb]
    have hc : c.names ⊆ f.references := fun n hn => by
      rw [hreferences]
      exact Code.mem_references.2 hn
    simp only [evaluate, hb, answer_congr h hc, Code.time_congr h]

theorem Formula.read_congr {f : Formula} {s t : Scope} (h : s.SameOn f.references t) :
    f.read s = f.read t := by
  funext slots
  rw [read, read, evaluate_congr h]

/-- The formula that is the rate of a flow reads the same in both scopes. -/
theorem Flow.amountIn_congr {f : Flow} {s t : Scope} (dt : Float)
    (h : ∀ g, f.rate = .formula g → s.SameOn g.references t) (slots : List Slot) :
    f.amountIn dt s slots = f.amountIn dt t slots := by
  unfold amountIn
  rcases hr : f.rate with x | g | p
  · rfl
  · simp only [Formula.read_congr (h g hr)]
  · rfl

namespace Model

/-- The models have the same constants, tables and clock, and the stocks of these names have the
same values in both. -/
structure Alike (names : List String) (m n : Model) : Prop where
  constants : m.constants = n.constants
  curves : m.curves = n.curves
  surfaces : m.surfaces = n.surfaces
  clock : m.clock = n.clock
  stocks : ∀ name ∈ names,
    (m.stocks.get? name).map (·.value) = (n.stocks.get? name).map (·.value)

theorem Alike.scope {names : List String} {m n : Model} (h : m.Alike names n) :
    m.scope.SameOn names n.scope where
  clock := congrArg some h.clock
  curve := congrArg Table.get? h.curves
  surface := congrArg Table.get? h.surfaces
  resolve name hname :=
    Scope.resolve_congr (congrArg some h.clock)
      (congrArg (fun constants => (Table.get? constants name).map (Value.ofNamed name)) h.constants)
      fun _ => h.stocks name hname

/-- In alike models a formula has the same answer and leaves the same in its slots. -/
theorem evaluate_congr {f : Formula} {m n : Model} (h : m.Alike f.references n)
    (hslots : AgreeOn f.owned m.slots n.slots) :
    (m.evaluate f).result.2 = (n.evaluate f).result.2 ∧
      AgreeOn f.owned (m.evaluate f).result.1.slots (n.evaluate f).result.1.slots := by
  obtain ⟨d, hd⟩ := m.evaluate_result f
  obtain ⟨d', hd'⟩ := n.evaluate_result f
  rw [hd, hd', ← Formula.read_congr h.scope]
  exact (f.usesOnly_read m.scope).determined hslots

/-! ## Flows as they are loaded -/

/-- The flow has what loading a declaration of the name gives it, in a model with these stocks and
constants. -/
structure Loaded (m : Model) (name : String) (f : Flow) : Prop where
  source : ∃ d, f.source = endAmong m.stocks (endOf d "from")
  target : ∃ d, f.target = endAmong m.stocks (endOf d "to")
  reads : ∀ g, f.rate = .formula g → f.dependencies = m.dependencies g.references
  unread : (∀ g, f.rate ≠ .formula g) → f.dependencies = []
  body : ∀ g, f.rate = .formula g →
    ∃ slots, g.body = (Formula.compile ⟨true, "flow " ++ name⟩ g.text slots).1

theorem endAmong_congr {s t : Table Stock} (h : ∀ name, s.contains name = t.contains name)
    (e : EndpointSource) : endAmong s e = endAmong t e := by
  cases e with
  | outside => rfl
  | held => rfl
  | named name => simp only [endAmong, h]

/-- The names of the stocks and the constants are all that matters. -/
theorem Loaded.congr {m n : Model} {name : String} {f : Flow} (h : m.Loaded name f)
    (hstocks : ∀ k, n.stocks.contains k = m.stocks.contains k)
    (hconstants : n.constants = m.constants) : n.Loaded name f := by
  have hdependencies (names : List String) : n.dependencies names = m.dependencies names :=
    List.filter_congr fun k _ => by rw [hstocks, hconstants]
  obtain ⟨⟨d, hsource⟩, ⟨d', htarget⟩, hreads, hunread, hbody⟩ := h
  exact ⟨⟨d, hsource.trans (endAmong_congr (fun k => (hstocks k).symm) _)⟩,
    ⟨d', htarget.trans (endAmong_congr (fun k => (hstocks k).symm) _)⟩,
    fun g hg => (hreads g hg).trans (hdependencies _).symm, hunread, hbody⟩

/-- No flow is there before the flows and conditions are loaded. -/
theorem Loads.flowless {d : Declaration} (hd : isDeferred d = false) {m n : Model}
    (h : Loads d m n) (hm : m.flows.entries = []) : n.flows.entries = [] := by
  cases h with
  | data => exact hm
  | stock s => exact List.map_eq_nil_iff.2 hm
  | flow f slots diagnostics _ _ _ _ hlast => exact absurd (hd.symm.trans hlast) (by decide)
  | ending => exact hm

/-- From then on, neither stocks nor constants are added. -/
theorem Loads.loaded {d : Declaration} (hd : isDeferred d = true) {m n : Model} (h : Loads d m n)
    (hm : ∀ e ∈ m.flows.entries, m.Loaded e.1 e.2) : ∀ e ∈ n.flows.entries, n.Loaded e.1 e.2 := by
  cases h with
  | data constants curves surfaces graphs diagnostics hkept =>
    exact fun e he => (hm e he).congr (fun _ => rfl) (hkept hd)
  | stock s diagnostics _ _ _ hfirst => exact absurd (hd.symm.trans hfirst) (by decide)
  | flow f slots diagnostics _ _ _ hreads _ _ hsource htarget hunread hbody =>
    intro e he
    rcases Table.mem_put he with rfl | he
    · exact ⟨⟨d, hsource⟩, ⟨d, htarget⟩, hreads, hunread, fun g hg => ⟨m.slots, hbody g hg⟩⟩
    · exact (hm e he).congr (fun _ => rfl) rfl
  | ending => exact fun e he => (hm e he).congr (fun _ => rfl) rfl

/-- In a model that has been reached from a text, all flows are as they were loaded. -/
theorem Reachable.loaded {c : Capacities} {text : String} {m : Model} (h : Reachable c text m) :
    ∀ e ∈ m.flows.entries, m.Loaded e.1 e.2 := by
  refine h.of_text (P := fun m => ∀ e ∈ m.flows.entries, m.Loaded e.1 e.2)
    (ofText_phases c text (P := fun m => m.flows.entries = []) rfl
      (fun _ _ hd _ _ hloads hm => hloads.flowless hd hm) (fun m hm e he => ?_)
      fun _ _ hd _ _ hloads hm => hloads.loaded hd hm) fun {m n} hm hdesign e he => ?_
  · rw [hm] at he
    exact absurd he List.not_mem_nil
  · have hflows : n.flows = m.flows := congrArg (·.flows) hdesign
    rw [hflows] at he
    exact (hm e he).congr (contains_of_design hdesign) (congrArg (·.constants) hdesign)

/-- Every stock that the rate of a flow names is among its dependencies, unless a constant hides
it. -/
def Reads (m : Model) : Prop :=
  ∀ e ∈ m.flows.entries, ∀ g, e.2.rate = .formula g → ∀ name ∈ g.references,
    m.stocks.contains name = true → m.constants.contains name = false → name ∈ e.2.dependencies

theorem Reachable.reads {c : Capacities} {text : String} {m : Model} (h : Reachable c text m) :
    m.Reads := by
  intro e he g hg name hname hstock hconstant
  rw [(h.loaded e he).reads g hg]
  exact List.mem_filter.2 ⟨hname, Bool.and_eq_true_iff.2 ⟨hstock, by rw [hconstant]; rfl⟩⟩

/-! ## Setting a stock -/

theorem setStock_get? {m : Model} {stock name : String} (x : Float) (h : name ≠ stock) :
    (m.setStock stock x).stocks.get? name = m.stocks.get? name := by
  rw [setStock, Table.modify, Table.get?_mapWithName]
  simp only [if_neg h, Option.map_id']

/-- Setting a stock leaves a model alike for all other names. -/
theorem setStock_alike (m : Model) {names : List String} {stock : String} (h : stock ∉ names)
    (x : Float) : (m.setStock stock x).Alike names m := by
  refine ⟨rfl, rfl, rfl, rfl, fun name hname => ?_⟩
  have hne : name ≠ stock := fun heq => h (heq ▸ hname)
  exact congrArg (Option.map (·.value)) (setStock_get? x hne)

/-- A stock that a flow does not depend on does not matter for its rate. -/
theorem Reads.setStock {m : Model} (hm : m.Reads) {e : String × Flow} (he : e ∈ m.flows.entries)
    {stock : String} (hstock : stock ∉ e.2.dependencies) (x dt : Float) (g : Formula)
    (hg : e.2.rate = .formula g) :
    ((m.setStock stock x).withStepSize dt).scope.SameOn g.references (m.withStepSize dt).scope := by
  refine ⟨rfl, rfl, rfl, fun name hname => Scope.resolve_congr rfl rfl fun hconstant => ?_⟩
  by_cases heq : name = stock
  · subst heq
    have hnone : m.constants.contains name = false := by
      have hvalue : (m.constants.get? name).map (Value.ofNamed name) = none := hconstant
      rw [Table.contains, Option.map_eq_none_iff.1 hvalue]
      rfl
    have habsent : m.stocks.get? name = none := by
      refine Option.not_isSome_iff_eq_none.1 fun hsome => hstock ?_
      exact hm e he g hg name hname hsome hnone
    change ((m.setStock name x).stocks.get? name).map _ = (m.stocks.get? name).map _
    rw [Model.setStock, Table.modify, Table.get?_mapWithName, habsent]
    rfl
  · exact congrArg (Option.map (·.value)) (setStock_get? x heq)

/-- A formula has the same answer, and leaves the same in its slots, in two models that have the
same constants, tables and clock, the same stocks as far as it refers to them, and the same in its
slots. So in a model that has been reached from a text, a flow moves the same in a step after a
stock has been set that is not one of its dependencies. -/
theorem references_sound :
    (∀ (f : Formula) (m n : Model), m.Alike f.references n → AgreeOn f.owned m.slots n.slots →
      (m.evaluate f).result.2 = (n.evaluate f).result.2 ∧
        AgreeOn f.owned (m.evaluate f).result.1.slots (n.evaluate f).result.1.slots) ∧
    ∀ (c : Capacities) (text : String) (m : Model), Reachable c text m →
      ∀ (i : Nat) (e : String × Flow), m.flows.entries[i]? = some e →
        ∀ stock ∉ e.2.dependencies, ∀ (x : Float) (dt : StepSize),
          ((m.setStock stock x).found dt).2[i]? = (m.found dt).2[i]? := by
  refine ⟨fun f m n h hslots => evaluate_congr h hslots, ?_⟩
  intro c text m hm i e he stock hstock x dt
  have hapart := hm.separate.apart (.refl _)
  have hmem := List.mem_of_getElem? he
  have hamount := e.2.amountIn_congr dt.value
    (fun g hg => hm.reads.setStock hmem hstock x dt.value g hg) m.slots
  have halone : (m.found dt).2[i]? =
      some (e.2.transfer (e.2.amountIn dt.value (m.withStepSize dt.value).scope m.slots).1) := by
    rw [found_transfers, stepTransfers, transfersIn_alone hapart, List.getElem?_map, he]
    rfl
  have hset : ((m.setStock stock x).found dt).2[i]? =
      some (e.2.transfer (e.2.amountIn dt.value
        ((m.setStock stock x).withStepSize dt.value).scope m.slots).1) := by
    have hflows : (m.setStock stock x).flows = m.flows := rfl
    rw [found_transfers, stepTransfers, hflows, transfersIn_alone hapart, List.getElem?_map, he]
    rfl
  rw [halone, hset, hamount]

/-- A flow whose rate names two stocks, one of which a constant hides. -/
def shaded : String :=
  "stock A \x7b\ninitial: 1\n\x7d\nstock B \x7b\ninitial: 5\n\x7d\nconst B = 2\n" ++
  "flow F \x7b\nfrom: A\nrate: SMOOTH(A * B, 2)\n\x7d"

/-- A formula that refers to the first stock only, compiled for the model. -/
def gauge : Model × Formula :=
  ((ofText .default shaded).result.compile "SMOOTH(A, 2)" "gauge" .number).result

/-- The hidden stock does not matter for the flow, nor any stock for a formula that does not refer
to it. -/
theorem references_sound_shaded :
    gauge.2.references = ["A"] ∧
      ((gauge.1.setStock "B" 7.0).evaluate gauge.2).result.2 =
        (gauge.1.evaluate gauge.2).result.2 ∧
      ∃ e, (ofText .default shaded).result.flows.entries[0]? = some e ∧
        e.2.dependencies = ["A"] ∧
        (((ofText .default shaded).result.setStock "B" 7.0).found
            ⟨1.0, by decide, by decide⟩).2[0]? =
          ((ofText .default shaded).result.found ⟨1.0, by decide, by decide⟩).2[0]? := by
  have hreferences : gauge.2.references = ["A"] := by decide +kernel
  have hunread : "B" ∉ gauge.2.references := by
    rw [hreferences]
    decide
  have hslots (m : Model) : AgreeOn gauge.2.owned (m.setStock "B" 7.0).slots m.slots :=
    fun _ _ => rfl
  have hdependencies : (ofText .default shaded).result.flows.entries[0]?.map
      (fun e => e.2.dependencies) = some ["A"] := by decide +kernel
  obtain ⟨e, he, hreads⟩ := Option.map_eq_some_iff.1 hdependencies
  refine ⟨hreferences, (references_sound.1 _ _ _ (setStock_alike _ hunread 7.0) (hslots _)).1,
    e, he, hreads, references_sound.2 .default shaded _ ⟨[], rfl⟩ 0 e he "B" ?_ 7.0 _⟩
  rw [hreads]
  decide

end Model

end SystemDynamics
