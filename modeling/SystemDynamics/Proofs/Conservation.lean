import Mathlib.Algebra.BigOperators.Group.List.Basic
import Mathlib.Algebra.Order.Ring.Rat
import Mathlib.Tactic.Abel
import SystemDynamics.Proofs.Blocks
import SystemDynamics.Proofs.Bounds
import SystemDynamics.Proofs.References

/-!
# What flows move is conserved

The transfers of a step are made on a ledger of floating-point amounts, where adding rounds. The
same transfers on a ledger of exact amounts show what is meant: each stock changes by what flows
into it less what flows out of it, whatever the order of the flows, and all stocks together by what
comes from the outside less what goes there (`Model.Reachable.conserves`). This is an induction over
the transfers of the step, and it needs that no flow of the model leads to a stock that is not there
(`Model.Reachable.joined`). A run is such steps, each followed by the bounds; over floating-point
amounts it is the run of the model (`Model.run_ledger`).
-/

namespace SystemDynamics

/-! ## Ledgers -/

section Ledgers

variable {α : Type}

/-- The transfer of an amount along a flow. -/
def Flow.moving (f : Flow) (amount : α) : Transfer α :=
  ⟨f.source.account?, f.target.account?, amount⟩

/-- The ledger after amounts have been moved along flows, one after the other. -/
def Table.afterMoves [Add α] [Sub α] (ledger : Table α) (moves : List (Flow × α)) : Table α :=
  Transfer.applyAll ledger (moves.map fun e => e.1.moving e.2)

/-- An amount moved into bounds, the lower one first. -/
def clamp [LT α] [DecidableLT α] (least greatest : Option α) (x : α) : α :=
  let raised :=
    match least with
    | some low => if x < low then low else x
    | none => x
  match greatest with
  | some high => if high < raised then high else raised
  | none => raised

theorem Table.names_mapWithName {β : Type} (f : String → α → β) (t : Table α) :
    (t.mapWithName f).names = t.names := by
  simp [Table.names]

theorem Transfer.names_onAccount (account : Option String) (change : α → α) (ledger : Table α) :
    (Transfer.onAccount account change ledger).names = ledger.names := by
  rcases account with _ | name
  · rfl
  · exact Table.names_mapWithName _ ledger

variable [Add α] [Sub α]

theorem Transfer.names_apply (ledger : Table α) (t : Transfer α) :
    (Transfer.apply ledger t).names = ledger.names := by
  rw [Transfer.apply, Transfer.names_onAccount, Transfer.names_onAccount]

theorem Table.names_afterMoves : ∀ (moves : List (Flow × α)) (ledger : Table α),
    (ledger.afterMoves moves).names = ledger.names
  | [], _ => rfl
  | _ :: moves, ledger => (Table.names_afterMoves moves _).trans (Transfer.names_apply ledger _)

end Ledgers

theorem Stock.constrain_clamp (s : Stock) :
    s.constrain.value = clamp s.least s.greatest s.value := by
  rcases s with ⟨x, _ | low, _ | high, units⟩ <;> rfl

/-- The end is the outside, or a stock of these names. -/
def Endpoint.Lies (names : List String) : Endpoint → Prop
  | outside => True
  | stock name => name ∈ names
  | gone _ => False

/-- Each end of the flow is the outside or a stock of these names. -/
def Flow.Joins (f : Flow) (names : List String) : Prop :=
  f.source.Lies names ∧ f.target.Lies names

theorem Endpoint.account?_eq_some_iff {e : Endpoint} {name : String} :
    e.account? = some name ↔ e = .stock name := by
  cases e <;> simp [account?]

/-! ## Exact amounts -/

section Exact

variable {α : Type} [AddCommGroup α]

/-- The sum of the amounts in a ledger. -/
def Table.total (ledger : Table α) : α := (ledger.entries.map Prod.snd).sum

/-- The sum of the amounts along the flows that a condition holds of. -/
def sumAlong (p : Flow → Prop) [DecidablePred p] (moves : List (Flow × α)) : α :=
  (moves.map fun e => if p e.1 then e.2 else 0).sum

theorem sumAlong_cons (p : Flow → Prop) [DecidablePred p] (e : Flow × α)
    (moves : List (Flow × α)) :
    sumAlong p (e :: moves) = (if p e.1 then e.2 else 0) + sumAlong p moves := by
  simp [sumAlong]

theorem sumAlong_perm (p : Flow → Prop) [DecidablePred p] {moves others : List (Flow × α)}
    (h : moves.Perm others) : sumAlong p moves = sumAlong p others :=
  (h.map _).sum_eq

theorem sumAlong_eq_zero {p : Flow → Prop} [DecidablePred p] {moves : List (Flow × α)}
    (h : ∀ e ∈ moves, ¬ p e.1) : sumAlong p moves = 0 := by
  refine List.sum_eq_zero fun x hx => ?_
  obtain ⟨e, he, rfl⟩ := List.mem_map.1 hx
  exact if_neg (h e he)

theorem Transfer.get?_moving (ledger : Table α) (f : Flow) (x : α) (name : String) :
    (Transfer.apply ledger (f.moving x)).get? name = (ledger.get? name).map fun y =>
      y + ((if f.target = .stock name then x else 0) -
        (if f.source = .stock name then x else 0)) := by
  rw [Transfer.apply, Transfer.get?_onAccount, Transfer.get?_onAccount, Option.map_map]
  refine congrArg (Option.map · _) (funext fun y => ?_)
  simp only [Function.comp, Flow.moving, Endpoint.account?_eq_some_iff]
  split <;> split <;> abel

/-- Each account changes by what flows in less what flows out. -/
theorem Table.get?_afterMoves (name : String) : ∀ (moves : List (Flow × α)) (ledger : Table α),
    (ledger.afterMoves moves).get? name = (ledger.get? name).map fun x =>
      x + (sumAlong (·.target = .stock name) moves - sumAlong (·.source = .stock name) moves)
  | [], ledger => by
    have hsame : ledger.afterMoves [] = ledger := rfl
    simp [hsame, sumAlong]
  | e :: moves, ledger => by
    have hcons : ledger.afterMoves (e :: moves) =
        (Transfer.apply ledger (e.1.moving e.2)).afterMoves moves := rfl
    rw [hcons, Table.get?_afterMoves name moves, Transfer.get?_moving, Option.map_map]
    refine congrArg (Option.map · _) (funext fun y => ?_)
    simp only [Function.comp, sumAlong_cons]
    abel

theorem Table.afterMoves_perm {moves others : List (Flow × α)} (h : others.Perm moves)
    (ledger : Table α) : ledger.afterMoves others = ledger.afterMoves moves := by
  refine Table.eq_of_get? ?_ fun name => ?_
  · rw [Table.names_afterMoves, Table.names_afterMoves]
  · rw [Table.get?_afterMoves, Table.get?_afterMoves, sumAlong_perm _ h, sumAlong_perm _ h]

theorem sum_modify {name : String} (x : α) : ∀ {es : List (String × α)},
    (es.map Prod.fst).Nodup → name ∈ es.map Prod.fst →
      (es.map fun e => if e.1 = name then e.2 + x else e.2).sum = (es.map Prod.snd).sum + x
  | [], _, h => absurd h List.not_mem_nil
  | e :: es, hnodup, h => by
    obtain ⟨hnot, hrest⟩ := List.nodup_cons.1 hnodup
    simp only [List.map_cons, List.sum_cons]
    by_cases he : e.1 = name
    -- The names are distinct, so the rest stays as it is.
    · have hsame : (es.map fun e => if e.1 = name then e.2 + x else e.2) = es.map Prod.snd := by
        refine List.map_congr_left fun o ho => if_neg fun heq => hnot ?_
        rw [he, ← heq]
        exact List.mem_map_of_mem ho
      rw [if_pos he, hsame]
      abel
    · have hmem : name ∈ es.map Prod.fst := (List.mem_cons.1 h).resolve_left fun heq => he heq.symm
      rw [if_neg he, sum_modify x hrest hmem]
      abel

theorem Transfer.total_onAccount {ledger : Table α} {e : Endpoint} (he : e.Lies ledger.names)
    (x : α) : (Transfer.onAccount e.account? (· + x) ledger).total =
      ledger.total + if e = .outside then 0 else x := by
  rcases e with _ | name | name
  · simp [Endpoint.account?, Transfer.onAccount]
  · have hsum := sum_modify x ledger.nodup he
    simpa [Endpoint.account?, Transfer.onAccount, Table.modify, Table.total, Function.comp_def]
      using hsum
  · exact he.elim

/-- What flows between two accounts does not change the sum. -/
theorem Transfer.total_moving {ledger : Table α} {f : Flow} (hf : f.Joins ledger.names) (x : α) :
    (Transfer.apply ledger (f.moving x)).total = ledger.total +
      ((if f.source = .outside ∧ f.target ≠ .outside then x else 0) -
        (if f.source ≠ .outside ∧ f.target = .outside then x else 0)) := by
  have htarget : f.target.Lies
      (Transfer.onAccount f.source.account? (· + -x) ledger).names := by
    rw [Transfer.names_onAccount]
    exact hf.2
  -- What flows out is the negative amount flowing in, so one lemma serves for both ends.
  have hsub : (fun y : α => y - x) = (· + -x) := funext fun y => sub_eq_add_neg y x
  simp only [Transfer.apply, Flow.moving, hsub]
  rw [Transfer.total_onAccount htarget, Transfer.total_onAccount hf.1]
  by_cases hs : f.source = .outside <;> by_cases ht : f.target = .outside <;> simp [hs, ht]

theorem Table.total_afterMoves : ∀ (moves : List (Flow × α)) (ledger : Table α),
    (∀ e ∈ moves, e.1.Joins ledger.names) →
      (ledger.afterMoves moves).total = ledger.total +
        (sumAlong (fun f => f.source = .outside ∧ f.target ≠ .outside) moves -
          sumAlong (fun f => f.source ≠ .outside ∧ f.target = .outside) moves)
  | [], ledger, _ => by
    have hsame : ledger.afterMoves [] = ledger := rfl
    simp [hsame, sumAlong]
  | e :: moves, ledger, h => by
    have hcons : ledger.afterMoves (e :: moves) =
        (Transfer.apply ledger (e.1.moving e.2)).afterMoves moves := rfl
    have hnames : (Transfer.apply ledger (e.1.moving e.2)).names = ledger.names :=
      Transfer.names_apply ledger _
    rw [hcons, Table.total_afterMoves moves _ fun o ho => by rw [hnames]; exact h o (.tail _ ho),
      Transfer.total_moving (h e (.head _)), sumAlong_cons, sumAlong_cons]
    abel

end Exact

namespace Model

/-! ## Ends of flows -/

/-- Every flow joins stocks of the model or the outside. -/
def Joined (m : Model) : Prop := ∀ e ∈ m.flows.entries, e.2.Joins m.stocks.names

theorem endAmong_lies (stocks : Table Stock) (d : Declaration) (key : String) :
    (endAmong stocks (endOf d key)).Lies stocks.names := by
  unfold endOf
  split
  · trivial
  · unfold endAmong
    simp only
    split
    · trivial
    · split
      · rename_i h
        exact Table.contains_iff.1 h
      · trivial

theorem names_of_design {m n : Model} (h : n.design = m.design) :
    n.stocks.names = m.stocks.names := by
  have hnames : (n.stocks.map Stock.emptied).names = (m.stocks.map Stock.emptied).names :=
    congrArg (·.stocks.names) h
  rwa [Table.map, Table.map, Table.names_mapWithName, Table.names_mapWithName] at hnames

/-- In a model that has been reached from a text, every flow joins its stocks or the outside. -/
theorem Reachable.joined {c : Capacities} {text : String} {m : Model} (h : Reachable c text m) :
    m.Joined := by
  intro e he
  obtain ⟨⟨d, hsource⟩, ⟨d', htarget⟩, -⟩ := h.loaded e he
  exact ⟨hsource ▸ endAmong_lies m.stocks d "from", htarget ▸ endAmong_lies m.stocks d' "to"⟩

/-! ## Steps and runs -/

section Runs

variable {α : Type}

/-- The flows of the model, in their order, with an amount each. -/
def flowsWith (m : Model) (amounts : List α) : List (Flow × α) :=
  (m.flows.entries.map Prod.snd).zip amounts

/-- A ledger of the stocks put back into their bounds. -/
def withinBounds [LT α] [DecidableLT α] (read : Float → α) (m : Model) (ledger : Table α) :
    Table α :=
  ledger.mapWithName fun name x =>
    match m.stocks.get? name with
    | some s => clamp (s.least.map read) (s.greatest.map read) x
    | none => x

variable [Add α] [Sub α] [LT α] [DecidableLT α]

/-- What a step makes of a ledger of the stocks, given the amounts that the flows move. -/
def ledgerStep (read : Float → α) (m : Model) (ledger : Table α) (amounts : List α) : Table α :=
  m.withinBounds read (ledger.afterMoves (m.flowsWith amounts))

/-- What a run makes of it, given the amounts of each step. -/
def ledgerRun (read : Float → α) (m : Model) (ledger : Table α) (turns : List (List α)) :
    Table α :=
  turns.foldl (m.ledgerStep read) ledger

theorem ledgerStep_of_design (read : Float → α) {m n : Model} (h : n.design = m.design) :
    n.ledgerStep read = m.ledgerStep read := by
  simp only [design, Model.mk.injEq, true_and, and_true] at h
  obtain ⟨hemptied, -, hflows, -⟩ := h
  have hbounds (name : String) : (n.stocks.get? name).map Stock.emptied =
      (m.stocks.get? name).map Stock.emptied := by
    rw [← Table.get?_map, ← Table.get?_map, hemptied]
  funext ledger amounts
  unfold ledgerStep flowsWith withinBounds
  rw [hflows]
  refine congrArg (Table.mapWithName · _) (funext fun name => funext fun x => ?_)
  have hname := hbounds name
  -- The design keeps which stocks there are, and their bounds.
  rcases hn : n.stocks.get? name with _ | s <;> rcases ht : m.stocks.get? name with _ | t <;>
    rw [hn, ht] at hname
  · cases hname
  · cases hname
  · have hemptied : s.emptied = t.emptied := Option.some.inj hname
    have hleast : s.least = t.least := (congrArg Stock.least hemptied :)
    have hgreatest : s.greatest = t.greatest := (congrArg Stock.greatest hemptied :)
    simp only [hleast, hgreatest]

end Runs

/-- The amounts that the flows move in a step. -/
def amounts (m : Model) (dt : StepSize) : List Float := (m.found dt).2.map Transfer.amount

/-- The amounts that the flows move in each step of a run. -/
def amountsOfRun (dt : StepSize) : Nat → Model → List (List Float)
  | 0, _ => []
  | n + 1, m =>
    if m.isTerminated then [] else m.amounts dt :: amountsOfRun dt n (m.step dt).result

theorem transfersIn_moving (dt : Float) (s : Scope) : ∀ (es : List (String × Flow))
    (slots : List Slot), ((es.map Prod.snd).zip ((transfersIn dt s es slots).1.map
      Transfer.amount)).map (fun e => e.1.moving e.2) = (transfersIn dt s es slots).1
  | [], _ => rfl
  | _ :: es, _ => congrArg (_ :: ·) (transfersIn_moving dt s es _)

/-- A step does to the stocks what it does to their ledger. -/
theorem step_ledger {m : Model} (hrun : m.isTerminated = false) (dt : StepSize) :
    (m.step dt).result.stockValues = m.ledgerStep id m.stockValues (m.amounts dt) := by
  have hmoves : m.stockValues.afterMoves (m.flowsWith (m.amounts dt)) =
      Transfer.applyAll m.stockValues (m.found dt).2 := by
    rw [Table.afterMoves, flowsWith, amounts, found_transfers, stepTransfers, transfersIn_moving]
  refine Table.eq_of_get? ?_ fun name => ?_
  · rw [ledgerStep, withinBounds, Table.names_mapWithName, Table.names_afterMoves, stockValues,
      stockValues, Table.map, Table.map, Table.names_mapWithName, Table.names_mapWithName]
    exact names_of_design (m.step_design dt)
  · rw [ledgerStep, hmoves, withinBounds, Table.get?_mapWithName, Transfer.get?_applyAll,
      stockValues, stockValues, Table.get?_map, Table.get?_map, step_stock hrun]
    rcases m.stocks.get? name with _ | s
    · rfl
    · simp only [Option.map_some, Option.map_id, id, Stock.constrain_clamp]
      rfl

theorem run_ledger (dt : StepSize) : ∀ (steps : Nat) (m : Model),
    (run dt steps m).result.1.stockValues =
      m.ledgerRun id m.stockValues (amountsOfRun dt steps m)
  | 0, _ => rfl
  | steps + 1, m => by
    rcases hrun : m.isTerminated with _ | _
    · have hstep := ledgerStep_of_design (α := Float) id (m.step_design dt)
      rw [run_running hrun, run_ledger dt steps, step_ledger hrun]
      simp only [ledgerRun, amountsOfRun, hrun, hstep]
      rfl
    · rw [run_terminated hrun]
      simp only [amountsOfRun, hrun]
      rfl

/-- No stock has a bound. -/
def Unbounded (m : Model) : Prop :=
  ∀ e ∈ m.stocks.entries, e.2.least = none ∧ e.2.greatest = none

/-- No flow comes from the outside or leads there. -/
def Closed (m : Model) : Prop :=
  ∀ e ∈ m.flows.entries, e.2.source ≠ .outside ∧ e.2.target ≠ .outside

theorem Unbounded.withinBounds {α : Type} [LT α] [DecidableLT α] {m : Model} (hm : m.Unbounded)
    (read : Float → α) (ledger : Table α) : m.withinBounds read ledger = ledger := by
  have hsame : (fun name x =>
      match m.stocks.get? name with
      | some s => clamp (s.least.map read) (s.greatest.map read) x
      | none => x) = fun _ x => x := by
    funext name x
    rcases hs : m.stocks.get? name with _ | s
    · rfl
    · obtain ⟨hleast, hgreatest⟩ := hm (name, s) (m.stocks.get?_eq_some_iff.1 hs)
      simp only at hleast hgreatest
      simp only [hleast, hgreatest]
      rfl
  rw [Model.withinBounds, hsame]
  ext1
  exact List.map_id _

theorem exists_of_mem_flowsWith {α : Type} {m : Model} {amounts : List α} {e : Flow × α}
    (he : e ∈ m.flowsWith amounts) : ∃ o ∈ m.flows.entries, o.2 = e.1 :=
  List.mem_map.1 (List.of_mem_zip he).1

theorem Joined.flowsWith {α : Type} {m : Model} (hm : m.Joined) {ledger : Table α}
    (hledger : ledger.names = m.stocks.names) (amounts : List α) :
    ∀ e ∈ m.flowsWith amounts, e.1.Joins ledger.names := by
  intro e he
  obtain ⟨o, ho, heq⟩ := exists_of_mem_flowsWith he
  rw [hledger, ← heq]
  exact hm o ho

/-- Without bounds and an outside, no step changes the sum of the stocks, so no run does. -/
theorem Joined.total_ledgerRun {m : Model} (hm : m.Joined) (hunbounded : m.Unbounded)
    (hclosed : m.Closed) (read : Float → ℚ) : ∀ (turns : List (List ℚ)) {ledger : Table ℚ},
      ledger.names = m.stocks.names → (m.ledgerRun read ledger turns).total = ledger.total
  | [], _, _ => rfl
  | amounts :: turns, ledger, hledger => by
    have hstep : m.ledgerStep read ledger amounts = ledger.afterMoves (m.flowsWith amounts) :=
      hunbounded.withinBounds read _
    have hinside : ∀ e ∈ m.flowsWith amounts, e.1.source ≠ .outside ∧ e.1.target ≠ .outside := by
      intro e he
      obtain ⟨o, ho, heq⟩ := exists_of_mem_flowsWith he
      exact heq ▸ hclosed o ho
    have hjoins := hm.flowsWith hledger amounts
    have hrun : m.ledgerRun read ledger (amounts :: turns) =
        m.ledgerRun read (ledger.afterMoves (m.flowsWith amounts)) turns := by
      rw [← hstep]
      rfl
    rw [hrun, hm.total_ledgerRun hunbounded hclosed read turns
      ((Table.names_afterMoves _ _).trans hledger), Table.total_afterMoves _ _ hjoins,
      sumAlong_eq_zero fun e he h => (hinside e he).1 h.1,
      sumAlong_eq_zero fun e he h => (hinside e he).2 h.2]
    simp

/-- In a model that has been reached from a text, every flow joins its stocks or the outside. On an
exact ledger of the stocks, moving amounts along the flows, in any order, changes each stock by what
flows in less what flows out, and the sum by what comes from the outside less what goes there. So
without bounds and flows from or to the outside the sum is the same after every run. Over
floating-point amounts, the runs of the ledger are the runs of the model. -/
theorem Reachable.conserves {c : Capacities} {text : String} {m : Model} (hm : Reachable c text m)
    {ledger : Table ℚ} (hledger : ledger.names = m.stocks.names) :
    m.Joined ∧
    (∀ (amounts : List ℚ) (moves : List (Flow × ℚ)), moves.Perm (m.flowsWith amounts) →
      ledger.afterMoves moves = ledger.afterMoves (m.flowsWith amounts) ∧
      (∀ name x, ledger.get? name = some x → (ledger.afterMoves moves).get? name =
        some (x + (sumAlong (·.target = .stock name) moves -
          sumAlong (·.source = .stock name) moves))) ∧
      (ledger.afterMoves moves).total = ledger.total +
        (sumAlong (fun f => f.source = .outside ∧ f.target ≠ .outside) moves -
          sumAlong (fun f => f.source ≠ .outside ∧ f.target = .outside) moves)) ∧
    (m.Unbounded → m.Closed → ∀ (read : Float → ℚ) (turns : List (List ℚ)),
      (m.ledgerRun read ledger turns).total = ledger.total) ∧
    ∀ (dt : StepSize) (steps : Nat), (run dt steps m).result.1.stockValues =
      m.ledgerRun id m.stockValues (amountsOfRun dt steps m) := by
  have hjoined := hm.joined
  refine ⟨hjoined, fun amounts moves hperm => ?_, fun hunbounded hclosed read turns => ?_,
    fun dt steps => run_ledger dt steps m⟩
  · have hjoins : ∀ e ∈ moves, e.1.Joins ledger.names := fun e he =>
      hjoined.flowsWith hledger amounts e (hperm.mem_iff.1 he)
    refine ⟨Table.afterMoves_perm hperm ledger, fun name x hx => ?_,
      Table.total_afterMoves moves ledger hjoins⟩
    rw [Table.get?_afterMoves, hx]
    rfl
  · exact hjoined.total_ledgerRun hunbounded hclosed read turns hledger

/-- Two stocks with a flow each way and one that leads back to where it comes from. -/
def circuit : String :=
  "stock A \x7b\n\x7d\nstock B \x7b\n\x7d\nflow F \x7b\nfrom: A\nto: B\n\x7d\n" ++
  "flow G \x7b\nfrom: B\nto: A\n\x7d\nflow H \x7b\nfrom: A\nto: A\n\x7d"

/-- Exact amounts for the two stocks. -/
def exchange : Table ℚ := ⟨[("A", 1 / 3), ("B", 5)], by decide⟩

theorem Reachable.conserves_circuit :
    Reachable .default circuit (ofText .default circuit).result ∧
      exchange.names = (ofText .default circuit).result.stocks.names ∧
      exchange.afterMoves ((ofText .default circuit).result.flowsWith [1 / 7, 2, 3]).reverse =
        exchange.afterMoves ((ofText .default circuit).result.flowsWith [1 / 7, 2, 3]) ∧
      ((ofText .default circuit).result.ledgerRun (fun _ => 0) exchange
        [[1 / 7, 2, 3], [1 / 3, 1 / 2]]).total = 16 / 3 := by
  have hm : Reachable .default circuit (ofText .default circuit).result := ⟨[], rfl⟩
  have hnames : exchange.names = (ofText .default circuit).result.stocks.names := by decide +kernel
  have hunbounded : (ofText .default circuit).result.Unbounded := by
    unfold Unbounded
    decide +kernel
  have hclosed : (ofText .default circuit).result.Closed := by
    unfold Closed
    decide +kernel
  obtain ⟨-, hmoves, hruns, -⟩ := Reachable.conserves hm hnames
  refine ⟨hm, hnames, (hmoves _ _ (List.reverse_perm _)).1, ?_⟩
  rw [hruns hunbounded hclosed]
  decide +kernel

end Model

end SystemDynamics
