import SystemDynamics.Proofs.Declared
import SystemDynamics.Proofs.Restart

/-!
# Bounds of stocks

A step first moves amounts, without looking at bounds, and then puts each stock back into its
bounds. Putting back works by two comparisons, so it does what it should to every number, and
nothing to what is no number (`Stock.constrain_least`, `Stock.constrain_greatest`). The bounds that
a text declares are numbers, and so are the amounts that flows move, if perhaps infinite ones. So
after a step a stock respects its bounds exactly if the sum of what was moved is a number, and it
is one unless an infinite amount was moved or the stock held no number before
(`Model.step_bounds`). A text makes stocks that hold numbers, so they respect their bounds after
every step as long as finite amounts are moved (`Model.Calm.step_within`).
-/

namespace SystemDynamics

namespace Stock

/-- The stock with another amount. -/
def holding (s : Stock) (x : Float) : Stock := { s with value := x }

/-- A number moved up to a least one. -/
def raised (least : Option Float) (x : Float) : Float :=
  match least with
  | some low => if x < low then low else x
  | none => x

/-- A number moved down to a greatest one. -/
def lowered (greatest : Option Float) (x : Float) : Float :=
  match greatest with
  | some high => if high < x then high else x
  | none => x

theorem constrain_value (s : Stock) :
    s.constrain.value = lowered s.greatest (raised s.least s.value) := rfl

section Moved

variable {x low : Float} {least greatest : Option Float}

theorem raised_nan (h : x.isNaN = true) : raised least x = x := by
  rcases least with _ | low
  · rfl
  · exact if_neg (not_lt_nan h)

theorem lowered_nan (h : x.isNaN = true) : lowered greatest x = x := by
  rcases greatest with _ | high
  · rfl
  · exact if_neg (not_nan_lt h)

theorem raised_number (h : x.isNaN = false) (hleast : ∀ low, least = some low → low.isNaN = false) :
    (raised least x).isNaN = false := by
  rcases least with _ | low
  · exact h
  · unfold raised
    simp only
    split
    · exact hleast low rfl
    · exact h

theorem lowered_number (h : x.isNaN = false)
    (hgreatest : ∀ high, greatest = some high → high.isNaN = false) :
    (lowered greatest x).isNaN = false := by
  rcases greatest with _ | high
  · exact h
  · unfold lowered
    simp only
    split
    · exact hgreatest high rfl
    · exact h

theorem le_raised (h : x.isNaN = false) (hlow : low.isNaN = false) : low ≤ raised (some low) x := by
  unfold raised
  simp only
  split
  · exact le_self hlow
  · rename_i hlt
    exact le_of_not_lt h hlow hlt

theorem lowered_le {high : Float} (h : x.isNaN = false) (hhigh : high.isNaN = false) :
    lowered (some high) x ≤ high := by
  unfold lowered
  simp only
  split
  · exact le_self hhigh
  · rename_i hlt
    exact le_of_not_lt hhigh h hlt

theorem le_lowered (h : low ≤ x) (hgreatest : ∀ high, greatest = some high → low ≤ high) :
    low ≤ lowered greatest x := by
  rcases greatest with _ | high
  · exact h
  · unfold lowered
    simp only
    split
    · exact hgreatest high rfl
    · exact h

end Moved

variable {s : Stock} {low high : Float}

theorem constrain_nan (h : s.value.isNaN = true) : s.constrain.value = s.value := by
  rw [constrain_value, raised_nan h, lowered_nan h]

/-- Putting a stock back into its bounds gets it over the lower one exactly if its amount is a
number. -/
theorem constrain_least (hleast : s.least = some low) (hlow : low.isNaN = false)
    (hordered : ∀ high, s.greatest = some high → low ≤ high) :
    low ≤ s.constrain.value ↔ s.value.isNaN = false := by
  constructor
  · intro hle
    refine Bool.eq_false_iff.2 fun hnan => ?_
    rw [constrain_nan hnan] at hle
    exact Bool.false_ne_true ((not_nan_of_le hle).2.symm.trans hnan)
  · intro h
    rw [constrain_value, hleast]
    exact le_lowered (le_raised h hlow) hordered

/-- Putting a stock back into its bounds gets it under the upper one exactly if its amount is a
number. -/
theorem constrain_greatest (hgreatest : s.greatest = some high) (hhigh : high.isNaN = false)
    (hleast : ∀ low, s.least = some low → low.isNaN = false) :
    s.constrain.value ≤ high ↔ s.value.isNaN = false := by
  constructor
  · intro hle
    refine Bool.eq_false_iff.2 fun hnan => ?_
    rw [constrain_nan hnan] at hle
    exact Bool.false_ne_true ((not_nan_of_le hle).1.symm.trans hnan)
  · intro h
    rw [constrain_value, hgreatest]
    exact lowered_le (raised_number h hleast) hhigh

end Stock

namespace Transfer

/-- What a transfer makes of the amount in an account. -/
def on (name : String) (x : Float) (t : Transfer Float) : Float :=
  let left := if t.source = some name then x - t.amount else x
  if t.target = some name then left + t.amount else left

/-- What transfers make of the amount in an account, one after the other. -/
def balance (name : String) (ts : List (Transfer Float)) (x : Float) : Float :=
  ts.foldl (on name) x

/-- The transfer takes from the account or adds to it. -/
def Touches (t : Transfer Float) (name : String) : Prop :=
  t.source = some name ∨ t.target = some name

theorem get?_onAccount {α : Type} (account : Option String) (change : α → α) (ledger : Table α)
    (name : String) : (onAccount account change ledger).get? name =
      (ledger.get? name).map fun x => if account = some name then change x else x := by
  rcases account with _ | n
  · simp [onAccount]
  · simp only [onAccount, Table.modify, Table.get?_mapWithName, Option.some.injEq, eq_comm]

theorem get?_apply (ledger : Table Float) (t : Transfer Float) (name : String) :
    (apply ledger t).get? name = (ledger.get? name).map fun x => t.on name x := by
  rw [apply, get?_onAccount, get?_onAccount, Option.map_map]
  rfl

theorem get?_applyAll (name : String) : ∀ (ts : List (Transfer Float)) (ledger : Table Float),
    (applyAll ledger ts).get? name = (ledger.get? name).map (balance name ts)
  | [], ledger => by
    rcases h : ledger.get? name with _ | x <;> simp [applyAll, balance, h]
  | t :: ts, ledger => by
    have happly : applyAll ledger (t :: ts) = applyAll (apply ledger t) ts := rfl
    rw [happly, get?_applyAll name ts, get?_apply, Option.map_map]
    rfl

variable {name : String} {x : Float}

theorem on_nan {t : Transfer Float} (h : (t.on name x).isNaN = true)
    (ht : t.amount.isNaN = false) :
    x.isNaN = true ∨ (t.Touches name ∧ t.amount.isInf = true) := by
  have hleft : (if t.source = some name then x - t.amount else x).isNaN = true →
      x.isNaN = true ∨ (t.Touches name ∧ t.amount.isInf = true) := by
    intro h
    split at h
    · rename_i hsource
      rcases isNaN_sub h with h | h | h
      · exact .inl h
      · exact (Bool.false_ne_true (ht.symm.trans h)).elim
      · exact .inr ⟨.inl hsource, h.2⟩
    · exact .inl h
  unfold on at h
  simp only at h
  split at h
  · rename_i htarget
    rcases isNaN_add h with h | h | h
    · exact hleft h
    · exact (Bool.false_ne_true (ht.symm.trans h)).elim
    · exact .inr ⟨.inr htarget, h.2⟩
  · exact hleft h

/-- Transfers of numbers turn a number into none only if one of them is infinite. -/
theorem balance_nan : ∀ {ts : List (Transfer Float)} {x : Float},
    (balance name ts x).isNaN = true → (∀ t ∈ ts, t.amount.isNaN = false) →
      x.isNaN = true ∨ ∃ t ∈ ts, t.Touches name ∧ t.amount.isInf = true
  | [], _, h, _ => .inl h
  | t :: ts, x, h, hts => by
    rcases balance_nan (x := t.on name x) h fun u hu => hts u (.tail _ hu) with h | ⟨u, hu, h⟩
    · exact (on_nan h (hts t (.head _))).imp_right fun h => ⟨t, .head _, h⟩
    · exact .inr ⟨u, .tail _ hu, h⟩

end Transfer

theorem Purpose.fallback_finite (p : Purpose) : p.fallback.amount.isFinite = true := by
  rcases p with _ | _ <;> decide

theorem Formula.answer_finite {s : Scope} {c : Code} {p : Purpose} {m : Memory} {v : Answer}
    (h : ((Formula.answer s c p).run m).1 = .ok v) : v.amount.isFinite = true := by
  rcases p with _ | _
  · simp only [Formula.answer, run_bind] at h
    rcases hx : (c.evalNumber s).run m with ⟨e | x, m'⟩ <;> rw [hx] at h <;> cases h
    exact Code.evalNumber_finite (congrArg Prod.fst hx)
  · simp only [Formula.answer, run_bind] at h
    rcases hb : (c.evalTruth s).run m with ⟨e | b, m'⟩ <;> rw [hb] at h <;> cases h
    cases b <;> decide

/-- The amount of a formula is finite. -/
theorem Formula.read_finite (f : Formula) (s : Scope) (slots : List Slot) :
    (f.read s slots).1.amount.isFinite = true := by
  rcases hb : f.body with e | c
  · simp only [read, evaluate, hb]
    exact f.purpose.fallback_finite
  · rw [read_of_body hb]
    rcases hr : ((Formula.answer s c f.purpose).run ⟨slots, []⟩).1 with e | v
    · exact f.purpose.fallback_finite
    · exact Formula.answer_finite hr

theorem StepSize.isNaN_mul (dt : StepSize) {x : Float} (hx : x.isNaN = false) :
    (x * dt.value).isNaN = false := by
  refine Bool.eq_false_iff.2 fun h => ?_
  have hnan := SystemDynamics.isNaN_mul h dt.finite (dt.positive.mpr rfl)
  exact Bool.false_ne_true (hx.symm.trans hnan)

/-- The amount that a flow moves in a step is a number if its rate is. -/
theorem Flow.isNaN_amountIn {f : Flow} (hf : ∀ x, f.rate = .fixed x → x.isNaN = false)
    (dt : StepSize) (s : Scope) (slots : List Slot) :
    (f.amountIn dt.value s slots).1.isNaN = false := by
  unfold amountIn
  rcases hr : f.rate with x | g | p
  · exact dt.isNaN_mul (hf x hr)
  · exact dt.isNaN_mul (isNaN_of_finite (g.read_finite s slots))
  · simp only [Supplied.amount]
    split
    · decide
    · split
      · rename_i hx
        exact dt.isNaN_mul (isNaN_of_finite hx)
      · decide

namespace Model

/-- What is fixed about the stocks and the flows are numbers. -/
structure Numbered (m : Model) : Prop where
  least : ∀ e ∈ m.stocks.entries, ∀ x, e.2.least = some x → x.isNaN = false
  greatest : ∀ e ∈ m.stocks.entries, ∀ x, e.2.greatest = some x → x.isNaN = false
  rates : ∀ e ∈ m.flows.entries, ∀ x, e.2.rate = .fixed x → x.isNaN = false
  initial : ∀ e ∈ m.initial.entries, e.2.isNaN = false

theorem numbered_empty (historyCapacity : Int) (diagnostics : Diagnostics) :
    (empty historyCapacity diagnostics).Numbered := by
  constructor
  · exact fun e he => (List.not_mem_nil he).elim
  · exact fun e he => (List.not_mem_nil he).elim
  · exact fun e he => (List.not_mem_nil he).elim
  · exact fun e he => (List.not_mem_nil he).elim

theorem gives_number {d : Declaration} (hd : d.Proper) {x : Float} (h : d.Gives x) :
    x.isNaN = false := by
  rcases h with h | ⟨key, h⟩
  · exact isNaN_of_finite h
  · exact hd _ (d.properties.get?_eq_some_iff.1 h) x rfl

theorem Loads.numbered {d : Declaration} (hd : d.Proper) {m n : Model} (h : Loads d m n)
    (hm : m.Numbered) : n.Numbered := by
  cases h with
  | data => exact ⟨hm.least, hm.greatest, hm.rates, hm.initial⟩
  | stock s diagnostics hvalue hleast hgreatest =>
    refine ⟨fun e he x hx => ?_, fun e he x hx => ?_, fun e he x hx => ?_, fun e he => ?_⟩
    · rcases Table.mem_put he with rfl | he
      · exact gives_number hd (hleast x hx)
      · exact hm.least e he x hx
    · rcases Table.mem_put he with rfl | he
      · exact gives_number hd (hgreatest x hx)
      · exact hm.greatest e he x hx
    · obtain ⟨o, ho, rfl⟩ := List.mem_map.1 he
      exact hm.rates o ho x hx
    · rcases Table.mem_put he with rfl | he
      · exact gives_number hd hvalue
      · exact hm.initial e he
  | flow f slots diagnostics _ _ hrate =>
    refine ⟨hm.least, hm.greatest, fun e he x hx => ?_, hm.initial⟩
    rcases Table.mem_put he with rfl | he
    · exact gives_number hd (hrate x hx)
    · exact hm.rates e he x hx
  | ending => exact ⟨hm.least, hm.greatest, hm.rates, hm.initial⟩

theorem Numbered.of_design {m n : Model} (hm : m.Numbered) (h : n.design = m.design) :
    n.Numbered := by
  simp only [design, Model.mk.injEq, true_and, and_true] at h
  obtain ⟨hemptied, hinitial, hflows, -⟩ := h
  have hstocks : ∀ e ∈ n.stocks.entries, ∃ o ∈ m.stocks.entries,
      o.2.emptied = e.2.emptied := by
    intro e he
    have hmem : (e.1, e.2.emptied) ∈ (m.stocks.map Stock.emptied).entries := by
      rw [← hemptied]
      exact List.mem_map_of_mem he
    obtain ⟨o, ho, heq⟩ := List.mem_map.1 hmem
    exact ⟨o, ho, congrArg Prod.snd heq⟩
  constructor
  · intro e he x hx
    obtain ⟨o, ho, heq⟩ := hstocks e he
    exact hm.least o ho x ((congrArg Stock.least heq).trans hx)
  · intro e he x hx
    obtain ⟨o, ho, heq⟩ := hstocks e he
    exact hm.greatest o ho x ((congrArg Stock.greatest heq).trans hx)
  · rw [hflows]
    exact hm.rates
  · rw [hinitial]
    exact hm.initial

theorem Reachable.numbered {c : Capacities} {text : String} {m : Model}
    (h : Reachable c text m) : m.Numbered :=
  h.of_design (numbered_empty _ _)
    (fun d hd _ _ hloads hm => hloads.numbered (Declaration.ofText_proper text d hd) hm)
    fun hm hdesign => hm.of_design hdesign

theorem Numbered.transfersIn {dt : StepSize} {s : Scope} : ∀ {es : List (String × Flow)}
    {slots : List Slot}, (∀ e ∈ es, ∀ x, e.2.rate = .fixed x → x.isNaN = false) →
      ∀ t ∈ (transfersIn dt.value s es slots).1, t.amount.isNaN = false
  | [], _, _, t, ht => nomatch ht
  | (name, f) :: rest, slots, hrates, t, ht => by
    rcases List.mem_cons.1 ht with rfl | ht
    · exact Flow.isNaN_amountIn (hrates (name, f) (.head _)) dt s slots
    · exact Numbered.transfersIn (fun e he => hrates e (.tail _ he)) t ht

/-- The amounts that a step moves are numbers. -/
theorem Numbered.found {m : Model} (hm : m.Numbered) (dt : StepSize) :
    ∀ t ∈ (m.found dt).2, t.amount.isNaN = false := by
  rw [found_transfers]
  exact Numbered.transfersIn hm.rates

/-- A stock of the model, whatever it holds now, is put back into its bounds exactly if it holds a
number. -/
theorem Numbered.constrain {m : Model} (hm : m.Numbered) {name : String} {s : Stock}
    (hs : m.stocks.get? name = some s)
    (hordered : ∀ low high, s.least = some low → s.greatest = some high → low ≤ high)
    (x : Float) :
    (∀ low, s.least = some low → (low ≤ (s.holding x).constrain.value ↔ x.isNaN = false)) ∧
      ∀ high, s.greatest = some high →
        ((s.holding x).constrain.value ≤ high ↔ x.isNaN = false) := by
  have hmem : (name, s) ∈ m.stocks.entries := m.stocks.get?_eq_some_iff.1 hs
  have hleast := hm.least _ hmem
  have hgreatest := hm.greatest _ hmem
  constructor
  · intro low hlow
    exact Stock.constrain_least (s := s.holding x) hlow (hleast low hlow)
      fun high => hordered low high hlow
  · intro high hhigh
    exact Stock.constrain_greatest (s := s.holding x) hhigh (hgreatest high hhigh) hleast

theorem get?_withValues (stocks : Table Stock) (values : Table Float) (name : String) :
    (withValues stocks values).get? name =
      (stocks.get? name).map fun s => s.holding ((values.get? name).getD s.value) :=
  stocks.get?_mapWithName _ name

/-- A step moves amounts to and from a stock and puts it back into its bounds. -/
theorem step_stock {m : Model} (hrun : m.isTerminated = false) (dt : StepSize) (name : String) :
    (m.step dt).result.stocks.get? name = (m.stocks.get? name).map fun s =>
      (s.holding (Transfer.balance name (m.found dt).2 s.value)).constrain := by
  have hstocks : (m.step dt).result.stocks =
      (withValues m.stocks (Transfer.applyAll m.stockValues (m.found dt).2)).map
        Stock.constrain := by
    rw [step_stocks hrun, found_transfers]
    rfl
  have hvalues : (Transfer.applyAll m.stockValues (m.found dt).2).get? name =
      (m.stocks.get? name).map fun s => Transfer.balance name (m.found dt).2 s.value := by
    rw [Transfer.get?_applyAll, stockValues, Table.get?_map, Option.map_map]
    rfl
  rw [hstocks, Table.get?_map, get?_withValues, hvalues]
  rcases m.stocks.get? name with _ | s <;> rfl

/-- After a step that is made, a stock keeps to its bounds exactly if what the step has moved to
and from it leaves a number. It does so unless the stock held no number before, or an infinite
amount was moved. -/
theorem step_bounds {c : Capacities} {text : String} {m : Model} (hm : Reachable c text m)
    (hrun : m.isTerminated = false) (dt : StepSize) {name : String} {before : Stock}
    (hbefore : m.stocks.get? name = some before)
    (hordered : ∀ low high, before.least = some low → before.greatest = some high → low ≤ high) :
    ∃ after, (m.step dt).result.stocks.get? name = some after ∧
      after.least = before.least ∧ after.greatest = before.greatest ∧
      (∀ low, before.least = some low → (low ≤ after.value ↔
        (Transfer.balance name (m.found dt).2 before.value).isNaN = false)) ∧
      (∀ high, before.greatest = some high → (after.value ≤ high ↔
        (Transfer.balance name (m.found dt).2 before.value).isNaN = false)) ∧
      ((Transfer.balance name (m.found dt).2 before.value).isNaN = true →
        before.value.isNaN = true ∨
          ∃ t ∈ (m.found dt).2, t.Touches name ∧ t.amount.isInf = true) := by
  have hafter : (m.step dt).result.stocks.get? name =
      some (before.holding (Transfer.balance name (m.found dt).2 before.value)).constrain := by
    rw [step_stock hrun, hbefore]
    rfl
  obtain ⟨hleast, hgreatest⟩ := hm.numbered.constrain hbefore hordered
    (Transfer.balance name (m.found dt).2 before.value)
  exact ⟨_, hafter, rfl, rfl, hleast, hgreatest,
    fun hnan => Transfer.balance_nan hnan (hm.numbered.found dt)⟩

/-- The models that a text leads to by resets and by steps that move finite amounts. -/
inductive Calm (c : Capacities) (text : String) : Model → Prop
  | start : Calm c text (ofText c text).result
  | step {m : Model} (dt : StepSize) (hm : Calm c text m)
      (hfinite : ∀ t ∈ (m.found dt).2, t.amount.isInf = false) : Calm c text (m.step dt).result
  | reset {m : Model} (hm : Calm c text m) : Calm c text m.reset.result

theorem Calm.reachable {c : Capacities} {text : String} {m : Model} (h : Calm c text m) :
    Reachable c text m := by
  induction h with
  | start => exact ⟨[], rfl⟩
  | step dt _ _ ih =>
    obtain ⟨rs, rfl⟩ := ih
    exact ⟨rs ++ [.step dt], by simp [serveAll, serve]⟩
  | reset _ ih =>
    obtain ⟨rs, rfl⟩ := ih
    exact ⟨rs ++ [.reset], by simp [serveAll, serve]⟩

/-- A step that moves finite amounts leaves a number in a stock that held one. -/
theorem balance_number {c : Capacities} {text : String} {m : Model} (hm : Reachable c text m)
    {dt : StepSize} (hfinite : ∀ t ∈ (m.found dt).2, t.amount.isInf = false) (name : String)
    {x : Float} (hx : x.isNaN = false) :
    (Transfer.balance name (m.found dt).2 x).isNaN = false := by
  refine Bool.eq_false_iff.2 fun hnan => ?_
  rcases Transfer.balance_nan hnan (hm.numbered.found dt) with h | ⟨t, ht, -, hinf⟩
  · exact Bool.false_ne_true (hx.symm.trans h)
  · exact Bool.false_ne_true ((hfinite t ht).symm.trans hinf)

/-- As long as steps move finite amounts, all stocks hold numbers. -/
theorem Calm.number {c : Capacities} {text : String} {m : Model} (h : Calm c text m) :
    ∀ {name : String} {s : Stock}, m.stocks.get? name = some s → s.value.isNaN = false := by
  induction h with
  | start =>
    intro name s hs
    obtain ⟨m, hm, hpristine⟩ := ofText_pristine c text
    have hinitial : (ofText c text).result.initial.get? name = some s.value := by
      have hvalues : (ofText c text).result.initial = (ofText c text).result.stockValues := by
        rw [hm]
        exact hpristine.initial
      rw [hvalues, stockValues, Table.get?_map, hs]
      rfl
    have hmem := (ofText c text).result.initial.get?_eq_some_iff.1 hinitial
    have hstart : Calm c text (ofText c text).result := .start
    exact hstart.reachable.numbered.initial (name, s.value) hmem
  | @step m dt hm hfinite ih =>
    intro name s hs
    rcases hrun : m.isTerminated with _ | _
    · rw [step_stock hrun] at hs
      obtain ⟨before, hbefore, rfl⟩ := Option.map_eq_some_iff.1 hs
      have hmem : (name, before) ∈ m.stocks.entries := m.stocks.get?_eq_some_iff.1 hbefore
      have hnumbered := hm.reachable.numbered
      have hbalance := balance_number hm.reachable hfinite name (ih hbefore)
      rw [Stock.constrain_value]
      exact Stock.lowered_number (Stock.raised_number hbalance (hnumbered.least _ hmem))
        (hnumbered.greatest _ hmem)
    · rw [step_terminated hrun] at hs
      exact ih hs
  | @reset m hm ih =>
    intro name s hs
    have hreset : m.reset.result.stocks = withValues m.stocks m.initial := rfl
    rw [hreset, get?_withValues] at hs
    obtain ⟨before, hbefore, rfl⟩ := Option.map_eq_some_iff.1 hs
    rcases hi : m.initial.get? name with _ | x
    · exact ih hbefore
    · exact hm.reachable.numbered.initial (name, x) (m.initial.get?_eq_some_iff.1 hi)

/-- As long as steps move finite amounts, each of them leaves every stock within its bounds. -/
theorem Calm.step_within {c : Capacities} {text : String} {m : Model} (hm : Calm c text m)
    (hrun : m.isTerminated = false) (dt : StepSize)
    (hfinite : ∀ t ∈ (m.found dt).2, t.amount.isInf = false) {name : String} {after : Stock}
    (hafter : (m.step dt).result.stocks.get? name = some after)
    (hordered : ∀ low high, after.least = some low → after.greatest = some high → low ≤ high) :
    (∀ low, after.least = some low → low ≤ after.value) ∧
      ∀ high, after.greatest = some high → after.value ≤ high := by
  rw [step_stock hrun] at hafter
  obtain ⟨before, hbefore, rfl⟩ := Option.map_eq_some_iff.1 hafter
  have hbalance := balance_number hm.reachable hfinite name (hm.number hbefore)
  obtain ⟨hleast, hgreatest⟩ := hm.reachable.numbered.constrain hbefore hordered
    (Transfer.balance name (m.found dt).2 before.value)
  exact ⟨fun low hlow => (hleast low hlow).2 hbalance,
    fun high hhigh => (hgreatest high hhigh).2 hbalance⟩

/-- A stock between its bounds that a flow fills over the upper one. -/
def basin : String :=
  "stock S \x7b\ninitial: 4\nmin: 0\nmax: 5\n\x7d\nflow A \x7b\nto: S\nrate: 3\n\x7d"

theorem step_bounds_basin :
    Reachable .default basin (ofText .default basin).result ∧
      (ofText .default basin).result.isTerminated = false ∧
      (ofText .default basin).result.stocks.get? "S" = some ⟨4.0, some 0.0, some 5.0, none⟩ ∧
      (0.0 : Float) ≤ 5.0 ∧
      ∃ after, ((ofText .default basin).result.step
          ⟨1.0, by decide, by decide⟩).result.stocks.get? "S" = some after ∧
        after.greatest = some 5.0 ∧
        (after.value ≤ 5.0 ↔ (Transfer.balance "S" ((ofText .default basin).result.found
          ⟨1.0, by decide, by decide⟩).2 4.0).isNaN = false) := by
  have hm : Reachable .default basin (ofText .default basin).result := ⟨[], rfl⟩
  have hrun : (ofText .default basin).result.isTerminated = false := by decide +kernel
  have hbefore : (ofText .default basin).result.stocks.get? "S" =
      some ⟨4.0, some 0.0, some 5.0, none⟩ := by decide +kernel
  have hle : (0.0 : Float) ≤ 5.0 := by decide
  obtain ⟨after, hafter, -, hgreatest, -, hbound, -⟩ := step_bounds hm hrun
    ⟨1.0, by decide, by decide⟩ hbefore fun low high hlow hhigh => by
      cases hlow
      cases hhigh
      exact hle
  exact ⟨hm, hrun, hbefore, hle, after, hafter, hgreatest, hbound 5.0 rfl⟩

/-- A stock with one value that it may have, from which an infinite amount is taken and to which
one is added. -/
def spring : String :=
  "stock S \x7b\nmin: 5\nmax: 5\n\x7d\nflow A \x7b\nfrom: S\nrate: 1e999\n\x7d\n" ++
  "flow B \x7b\nto: S\nrate: 1e999\n\x7d"

/-- After a step of the spring its stock is under the lower bound and over the upper one, as far as
comparing can tell. -/
theorem step_bounds_spring :
    ((ofText .default spring).result.step ⟨1.0, by decide, by decide⟩).result.stocks.get? "S" =
        some ⟨0.0 / 0.0, some 5.0, some 5.0, none⟩ ∧
      ¬ (5.0 : Float) ≤ 0.0 / 0.0 ∧ ¬ (0.0 / 0.0 : Float) ≤ 5.0 := by
  refine ⟨?_, by decide, by decide⟩
  decide +kernel

end Model

end SystemDynamics
