import SystemDynamics.Proofs.Conservation
import SystemDynamics.Proofs.Exact

/-!
# Flows from a stock to itself

A flow from a stock to the same stock takes its amount away and adds it again. In a model whose
flows are all of this kind a step puts every stock back into its bounds after its own amounts have
been taken away and added again, one after the other (`Transfer.balance_loops`). A stock within its
bounds keeps its value then if the differences are numbers of binary64 (`returned_of_exact`), and in
general exactly if the value comes back or passes a bound that it is on (`clamp_eq_iff`). So a step
leaves such a model as it is unless rounding gets in the way (`Model.step_loops`), which it can
(`Model.step_loops_whirl`).
-/

namespace SystemDynamics

section Clamped

variable {x v : Float} {least greatest : Option Float}

/-- Putting a number into the bounds of another one that is within them gives this one exactly if
they are equal, or if the bound is where the other one is and is passed. -/
theorem clamp_eq_iff (hv : v.isNaN = false) (hleast : ∀ low, least = some low → low ≤ v)
    (hgreatest : ∀ high, greatest = some high → v ≤ high) :
    (clamp least greatest x == v) = true ↔ (x == v) = true ∨
      (x < v ∧ ∃ low, least = some low ∧ (low == v) = true) ∨
      (v < x ∧ ∃ high, greatest = some high ∧ (high == v) = true) := by
  simp only [lt_iff_standing, eq_iff_standing, hv, true_and]
  rcases least with _ | low
  · rcases greatest with _ | high
    · simp [clamp]
    · have hhigh := le_iff_standing.1 (hgreatest high rfl)
      simp only [clamp, lt_iff_standing]
      split_ifs <;> grind
  · have hlow := le_iff_standing.1 (hleast low rfl)
    rcases greatest with _ | high
    · simp only [clamp, lt_iff_standing]
      split_ifs <;> grind
    · have hhigh := le_iff_standing.1 (hgreatest high rfl)
      simp only [clamp, lt_iff_standing]
      split_ifs <;> grind

end Clamped

/-- What is left of a number when amounts are taken away and added again, one after the other. -/
def returned (amounts : List Float) (x : Float) : Float := amounts.foldl (fun y a => y - a + a) x

theorem returned_alike {amounts : List Float} {x y : Float} (h : Alike x y) :
    Alike (returned amounts x) (returned amounts y) := by
  induction amounts generalizing x y with
  | nil => exact h
  | cons a amounts ih => exact ih ((h.sub (.refl a)).add (.refl a))

/-- Amounts whose differences from the number are numbers of binary64 leave it as it is. -/
theorem returned_of_exact {amounts : List Float} {x : Float} (hx : x.isFinite = true)
    (h : ∀ a ∈ amounts, a.isFinite = true ∧
      ∃ d : Float, d.isFinite = true ∧ atoms d = atoms x - atoms a) :
    Alike (returned amounts x) x := by
  induction amounts with
  | nil => exact .refl x
  | cons a amounts ih =>
    obtain ⟨⟨ha, d, hd, hexact⟩, hrest⟩ := List.forall_mem_cons.1 h
    have hfirst : Alike (returned amounts (x - a + a)) (returned amounts x) :=
      returned_alike (sub_add_cancel_of_exact hx ha hd hexact)
    exact UpToZero.trans hfirst (ih hrest)

namespace Transfer

/-- The amounts that are moved from an account to itself. -/
def loopAmounts (name : String) (ts : List (Transfer Float)) : List Float :=
  (ts.filter fun t => t.source = some name).map amount

/-- Transfers from accounts to themselves only take their amounts away and add them again. -/
theorem balance_loops (name : String) : ∀ {ts : List (Transfer Float)} {x : Float},
    (∀ t ∈ ts, t.source = t.target) → balance name ts x = returned (loopAmounts name ts) x
  | [], _, _ => rfl
  | t :: ts, x, h => by
    have hcons : balance name (t :: ts) x = balance name ts (t.on name x) := rfl
    have hsame : t.target = t.source := (h t (.head _)).symm
    rw [hcons, balance_loops name fun u hu => h u (.tail _ hu), on, hsame]
    by_cases ht : t.source = some name
    · simp [loopAmounts, ht, returned]
    · simp [loopAmounts, ht]

end Transfer

namespace Model

theorem transfersIn_loops (dt : Float) (s : Scope) : ∀ {es : List (String × Flow)}
    {slots : List Slot}, (∀ e ∈ es, e.2.isLoop = true) →
      ∀ t ∈ (transfersIn dt s es slots).1, t.source = t.target
  | [], _, _, t, ht => nomatch ht
  | (name, f) :: rest, slots, h, t, ht => by
    rcases List.mem_cons.1 ht with rfl | ht
    · have hloop : f.source = f.target :=
        eq_of_beq (Bool.and_eq_true_iff.1 (h (name, f) (.head _))).2
      exact congrArg Endpoint.account? hloop
    · exact transfersIn_loops dt s (fun e he => h e (.tail _ he)) t ht

/-- What a stock of a name has after the flows from it to itself have taken their amounts from a
value and given them back. -/
def cycled (m : Model) (dt : StepSize) (name : String) (x : Float) : Float :=
  returned (Transfer.loopAmounts name (m.found dt).2) x

/-- Let all flows of a model lead from a stock to the same stock. A step that is made takes the
amounts of these flows away from each stock and adds them again, and puts it back into its bounds.
A stock that is within its bounds keeps its value exactly if it comes back, or is on the bound that
it passes. It comes back if its differences from the amounts are numbers of binary64. After the end
of a run a step leaves the stock as it is. -/
theorem step_loops {m : Model} (hloops : ∀ e ∈ m.flows.entries, e.2.isLoop = true)
    (dt : StepSize) {name : String} {before : Stock} (hbefore : m.stocks.get? name = some before)
    (hfinite : before.value.isFinite = true)
    (hleast : ∀ low, before.least = some low → low ≤ before.value)
    (hgreatest : ∀ high, before.greatest = some high → before.value ≤ high) :
    ∃ after, (m.step dt).result.stocks.get? name = some after ∧
      (m.isTerminated = true → after = before) ∧
      (m.isTerminated = false →
        after.value = clamp before.least before.greatest (m.cycled dt name before.value) ∧
        ((after.value == before.value) = true ↔
          (m.cycled dt name before.value == before.value) = true ∨
          (m.cycled dt name before.value < before.value ∧
            ∃ low, before.least = some low ∧ (low == before.value) = true) ∨
          (before.value < m.cycled dt name before.value ∧
            ∃ high, before.greatest = some high ∧ (high == before.value) = true)) ∧
        ((∀ a ∈ Transfer.loopAmounts name (m.found dt).2, a.isFinite = true ∧
            ∃ d : Float, d.isFinite = true ∧ atoms d = atoms before.value - atoms a) →
          (after.value == before.value) = true)) := by
  rcases hrun : m.isTerminated with _ | _
  · have hbalance : Transfer.balance name (m.found dt).2 before.value =
        m.cycled dt name before.value := by
      refine Transfer.balance_loops name fun t ht => ?_
      rw [found_transfers] at ht
      exact transfersIn_loops dt.value _ hloops t ht
    refine ⟨(before.holding (m.cycled dt name before.value)).constrain, ?_, nofun, fun _ => ?_⟩
    · rw [step_stock hrun, hbefore, ← hbalance]
      rfl
    · have hiff := clamp_eq_iff (x := m.cycled dt name before.value) (isNaN_of_finite hfinite)
        hleast hgreatest
      rw [Stock.constrain_clamp]
      refine ⟨rfl, hiff, fun hexact => hiff.2 (.inl ?_)⟩
      refine (alike_iff.1 (returned_of_exact hfinite hexact)).resolve_right fun hnan => ?_
      exact Bool.false_ne_true ((isNaN_of_finite hfinite).symm.trans hnan.2)
  · refine ⟨before, ?_, fun _ => rfl, nofun⟩
    rw [step_terminated hrun]
    exact hbefore

/-- A stock with two flows to itself. -/
def eddy : String :=
  "stock S \x7b\ninitial: 5\nmax: 9\n\x7d\n" ++
  "flow A \x7b\nfrom: S\nto: S\nrate: 7\n\x7d\n" ++
  "flow B \x7b\nfrom: S\nto: S\nrate: S / 4\n\x7d"

theorem step_loops_eddy : ∃ after,
    ((ofText .default eddy).result.step ⟨1.0, by decide, by decide⟩).result.stocks.get? "S" =
      some after ∧ (after.value == 5.0) = true := by
  have hbefore : (ofText .default eddy).result.stocks.get? "S" =
      some ⟨5.0, none, some 9.0, none⟩ := by
    decide +kernel
  have hamounts : Transfer.loopAmounts "S"
      ((ofText .default eddy).result.found ⟨1.0, by decide, by decide⟩).2 = [7.0, 1.25] := by
    decide +kernel
  obtain ⟨after, hafter, -, hstep⟩ := step_loops (by decide +kernel) ⟨1.0, by decide, by decide⟩
    hbefore (by decide) nofun fun high hhigh => by
      cases hhigh
      decide
  obtain ⟨-, -, hexact⟩ := hstep (by decide +kernel)
  refine ⟨after, hafter, hexact ?_⟩
  rw [hamounts]
  simp only [List.forall_mem_cons, List.not_mem_nil, false_implies, implies_true, and_true]
  exact ⟨⟨by decide, -2.0, by decide, by decide +kernel⟩,
    by decide, 3.75, by decide, by decide +kernel⟩

/-- A stock with a flow to itself whose rate is far greater than what it holds. -/
def whirl : String :=
  "stock S \x7b\ninitial: 1\n\x7d\nflow Loop \x7b\nfrom: S\nto: S\nrate: 1e20\n\x7d"

/-- A step loses what the stock holds, although it is said that the flow changes nothing. -/
theorem step_loops_whirl :
    (∀ e ∈ (ofText .default whirl).result.flows.entries, e.2.isLoop = true) ∧
      (ofText .default whirl).result.stocks.get? "S" = some ⟨1.0, none, none, none⟩ ∧
      ((ofText .default whirl).result.step ⟨1.0, by decide, by decide⟩).result.stocks.get? "S" =
        some ⟨0.0, none, none, none⟩ ∧
      (ofText .default whirl).result.diagnostics.records.entries.map (·.message) =
        ["from and to are both 'S'; net change is zero"] := by
  decide +kernel

end Model

end SystemDynamics
