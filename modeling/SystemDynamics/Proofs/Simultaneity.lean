import SystemDynamics.Proofs.Restart

/-!
# The flows of a step move at once

In a model that a text makes, no two flows own a slot together, and none owns a slot of the
condition that ends a run (`Reachable.separate`); this is a matter of the design, so it stays. A
flow therefore finds its own slots as they were before the step, whatever has been evaluated before
it, and moves the amount that it would move alone (`transfersIn_alone`). The order of the flows does
not matter for the amounts, nor for what finding them leaves in the slots
(`step_simultaneous`).

It does matter for the sums that the stocks hold after the step, since adding rounds; so it can
matter for a slot of the condition, which is asked with these sums (`step_order_end`).
-/

namespace SystemDynamics

/-- The flows own slots apart from each other's. -/
def Apart (es : List (String × Flow)) : Prop :=
  es.Pairwise fun e e' => ∀ i ∈ e.2.owned, i ∉ e'.2.owned

section Transfers

variable {dt : Float} {s : Scope}

/-- Each flow moves the amount that it moves from the slots at the start, when they agree with the
slots at hand on what the flows own. -/
theorem transfersIn_of_agree : ∀ {es : List (String × Flow)} {slots others : List Slot},
    Apart es → (∀ e ∈ es, AgreeOn e.2.owned slots others) →
      (transfersIn dt s es others).1 =
        es.map fun e => e.2.transfer (e.2.amountIn dt s slots).1
  | [], _, _, _, _ => rfl
  | (name, f) :: rest, slots, others, hapart, hagree => by
    obtain ⟨hfirst, hrest⟩ := List.pairwise_cons.1 hapart
    have hf := f.usesOnly_amountIn dt s
    have hamount := (hf.determined (hagree (name, f) (.head _))).1
    have hothers : (transfersIn dt s rest (f.amountIn dt s others).2).1 =
        rest.map fun e => e.2.transfer (e.2.amountIn dt s slots).1 :=
      transfersIn_of_agree hrest fun e he => (hagree e (.tail _ he)).trans
        (hf.agree_after (fun i hi hmem => hfirst e he i hmem hi) others).symm
    simp only [transfersIn, List.map_cons, hothers, hamount]

/-- Each flow moves the amount that it moves alone. -/
theorem transfersIn_alone {es : List (String × Flow)} (hapart : Apart es) (slots : List Slot) :
    (transfersIn dt s es slots).1 =
      es.map fun e => e.2.transfer (e.2.amountIn dt s slots).1 :=
  transfersIn_of_agree hapart fun _ _ _ _ => rfl

/-- The slots that no flow owns stay. -/
theorem transfersIn_frame : ∀ {es : List (String × Flow)} {slots : List Slot} {i : Nat},
    (∀ e ∈ es, i ∉ e.2.owned) → (transfersIn dt s es slots).2[i]? = slots[i]?
  | [], _, _, _ => rfl
  | (name, f) :: _, slots, i, hi =>
    (transfersIn_frame fun e he => hi e (.tail _ he)).trans
      ((f.usesOnly_amountIn dt s).frame slots i (hi (name, f) (.head _)))

/-- The slots of a flow are left as the flow leaves them alone. -/
theorem transfersIn_owned : ∀ {es : List (String × Flow)} {slots others : List Slot},
    Apart es → (∀ e ∈ es, AgreeOn e.2.owned slots others) → ∀ e ∈ es,
      AgreeOn e.2.owned (transfersIn dt s es others).2 (e.2.amountIn dt s slots).2
  | [], _, _, _, _, e, he => nomatch he
  | (name, f) :: rest, slots, others, hapart, hagree, e, he => by
    obtain ⟨hfirst, hrest⟩ := List.pairwise_cons.1 hapart
    have hf := f.usesOnly_amountIn dt s
    rcases List.mem_cons.1 he with rfl | he
    · intro i hi
      have hafter : (transfersIn dt s ((name, f) :: rest) others).2[i]? =
          (f.amountIn dt s others).2[i]? :=
        transfersIn_frame fun e he => hfirst e he i hi
      rw [hafter]
      exact ((hf.determined (hagree (name, f) (.head _))).2 i hi).symm
    · exact transfersIn_owned hrest (fun e he => (hagree e (.tail _ he)).trans
        (hf.agree_after (fun i hi hmem => hfirst e he i hmem hi) others).symm) e he

/-- In whatever order the flows come, they leave the same slots. -/
theorem transfersIn_perm {es others : List (String × Flow)} (hapart : Apart es)
    (hapart' : Apart others) (hperm : others.Perm es) (slots : List Slot) :
    (transfersIn dt s others slots).2 = (transfersIn dt s es slots).2 := by
  refine List.ext_getElem? fun i => ?_
  by_cases hi : ∃ e ∈ es, i ∈ e.2.owned
  · obtain ⟨e, he, hi⟩ := hi
    rw [transfersIn_owned hapart (fun _ _ _ _ => rfl) e he i hi,
      transfersIn_owned hapart' (fun _ _ _ _ => rfl) e (hperm.mem_iff.2 he) i hi]
  · have hnot : ∀ e ∈ es, i ∉ e.2.owned := fun e he hmem => hi ⟨e, he, hmem⟩
    rw [transfersIn_frame hnot, transfersIn_frame fun e he => hnot e (hperm.mem_iff.1 he)]

end Transfers

namespace Model

/-- Every slot is owned by one flow or by the condition that ends a run, at most. -/
structure Separate (m : Model) : Prop where
  flows : ∀ e ∈ m.flows.entries, ∀ e' ∈ m.flows.entries, e.1 ≠ e'.1 →
    ∀ i ∈ e.2.owned, i ∉ e'.2.owned
  ending : ∀ e ∈ m.flows.entries, ∀ i ∈ e.2.owned, i ∉ ownedByEnd m.termination
  bounded : ∀ e ∈ m.flows.entries, ∀ i ∈ e.2.owned, i < m.slots.length
  bounded_end : ∀ i ∈ ownedByEnd m.termination, i < m.slots.length

theorem separate_empty (historyCapacity : Int) (diagnostics : Diagnostics) :
    (empty historyCapacity diagnostics).Separate := by
  constructor
  · exact fun e he => (List.not_mem_nil he).elim
  · exact fun e he => (List.not_mem_nil he).elim
  · exact fun e he => (List.not_mem_nil he).elim
  · exact fun i hi => (List.not_mem_nil hi).elim

theorem Loads.separate {d : Declaration} {m n : Model} (h : Loads d m n) (hm : m.Separate) :
    n.Separate := by
  cases h with
  | data => exact ⟨hm.flows, hm.ending, hm.bounded, hm.bounded_end⟩
  | stock s =>
    -- The flows only forget the stock that is replaced.
    have hkept : ∀ e ∈ (m.forgetStock d.name).flows.entries,
        ∃ o ∈ m.flows.entries, o.1 = e.1 ∧ o.2.owned = e.2.owned := by
      intro e he
      obtain ⟨o, ho, rfl⟩ := List.mem_map.1 he
      exact ⟨o, ho, rfl, rfl⟩
    refine ⟨fun e he e' he' hne => ?_, fun e he => ?_, fun e he => ?_, hm.bounded_end⟩
    · obtain ⟨o, ho, hname, howned⟩ := hkept e he
      obtain ⟨o', ho', hname', howned'⟩ := hkept e' he'
      rw [← howned, ← howned']
      exact hm.flows o ho o' ho' (by rwa [hname, hname'])
    · obtain ⟨o, ho, -, howned⟩ := hkept e he
      rw [← howned]
      exact hm.ending o ho
    · obtain ⟨o, ho, -, howned⟩ := hkept e he
      rw [← howned]
      exact hm.bounded o ho
  | flow f slots diagnostics hext hclaimed =>
    have hle := hext.length_le
    have hnew : NewIn m.slots slots f.owned := f.map_delays ▸ hclaimed.newIn
    refine ⟨fun e he e' he' hne i hi hi' => ?_, fun e he i hi hi' => ?_, fun e he i hi => ?_,
      fun i hi => ?_⟩
    · rcases Table.mem_put he with rfl | he <;> rcases Table.mem_put he' with rfl | he'
      · exact hne rfl
      · have := (hnew i hi).1
        have := hm.bounded e' he' i hi'
        omega
      · have := (hnew i hi').1
        have := hm.bounded e he i hi
        omega
      · exact hm.flows e he e' he' hne i hi hi'
    · have hend := hm.bounded_end i hi'
      rcases Table.mem_put he with rfl | he
      · have := (hnew i hi).1
        omega
      · exact hm.ending e he i hi hi'
    · rcases Table.mem_put he with rfl | he
      · exact (hnew i hi).2
      · exact Nat.lt_of_lt_of_le (hm.bounded e he i hi) hle
    · exact Nat.lt_of_lt_of_le (hm.bounded_end i hi) hle
  | ending c text slots diagnostics hext hclaimed =>
    have hle := hext.length_le
    have hnew : NewIn m.slots slots c.owned := c.map_delays ▸ hclaimed.newIn
    refine ⟨hm.flows, fun e he i hi hi' => ?_, fun e he i hi => ?_, fun i hi => (hnew i hi).2⟩
    · have := (hnew i hi').1
      have := hm.bounded e he i hi
      omega
    · exact Nat.lt_of_lt_of_le (hm.bounded e he i hi) hle

theorem Separate.of_design {m n : Model} (hm : m.Separate) (h : n.design = m.design) :
    n.Separate := by
  simp only [design, Model.mk.injEq, true_and, and_true] at h
  obtain ⟨-, -, hflows, -, -, -, -, htermination, -, hclear, -⟩ := h
  have hlength : n.slots.length = m.slots.length := by simpa using congrArg List.length hclear
  obtain ⟨h₁, h₂, h₃, h₄⟩ := hm
  constructor
  · rwa [hflows]
  · rwa [hflows, htermination]
  · rwa [hflows, hlength]
  · rwa [htermination, hlength]

/-- In every model that can be reached from a text, no slot has two owners. -/
theorem Reachable.separate {c : Capacities} {text : String} {m : Model}
    (h : Reachable c text m) : m.Separate :=
  h.of_design (separate_empty _ _) (fun _ _ _ _ hloads hm => hloads.separate hm)
    fun hm hdesign => hm.of_design hdesign

theorem Separate.apart {m : Model} (hm : m.Separate) {flows : Table Flow}
    (hperm : flows.entries.Perm m.flows.entries) : Apart flows.entries := by
  have hnames : flows.entries.Pairwise fun e e' => e.1 ≠ e'.1 := List.pairwise_map.1 flows.nodup
  refine hnames.imp_of_mem fun {e e'} he he' hne => ?_
  exact hm.flows e (hperm.mem_iff.1 he) e' (hperm.mem_iff.1 he') hne

/-- The model with other flows. -/
def withFlows (m : Model) (flows : Table Flow) : Model := { m with flows }

theorem moved_scope {m : Model} {flows : Table Flow} {dt : Float}
    (h : ((m.withFlows flows).moved dt).stocks = (m.moved dt).stocks) :
    ((m.withFlows flows).moved dt).scope = (m.moved dt).scope := by
  have hscope : ((m.withFlows flows).moved dt).scope = { (m.moved dt).scope with
      stock? := fun name => (((m.withFlows flows).moved dt).stocks.get? name).map (·.value) } := rfl
  rw [hscope, h]
  rfl

/-- In a model that has been reached from a text, with its flows in any order, a step moves for
every flow the amount that the flow moves alone. Finding the amounts leaves the same slots; after
the step those of the condition may differ, but only if the stocks do. -/
theorem step_simultaneous {c : Capacities} {text : String} {m : Model} (hm : Reachable c text m)
    (hrun : m.isTerminated = false) {flows : Table Flow}
    (hperm : flows.entries.Perm m.flows.entries) (dt : StepSize) :
    ((m.withFlows flows).found dt).2 = flows.entries.map (fun e =>
        e.2.transfer ((m.withStepSize dt.value).flowAmount dt.value e.1 e.2).result.2) ∧
      ((m.withFlows flows).step dt).result.stocks =
        (m.move ((m.withFlows flows).found dt).2).stocks ∧
      ((m.withFlows flows).found dt).1.slots = (m.found dt).1.slots ∧
      (∀ i ∉ ownedByEnd m.termination,
        ((m.withFlows flows).step dt).result.slots[i]? = (m.step dt).result.slots[i]?) ∧
      (((m.withFlows flows).step dt).result.stocks = (m.step dt).result.stocks →
        ((m.withFlows flows).step dt).result.slots = (m.step dt).result.slots) := by
  have hrun' : (m.withFlows flows).isTerminated = false := hrun
  have hapart := hm.separate.apart hperm
  have hslots : ((m.withFlows flows).stepTransfers dt.value).2 = (m.stepTransfers dt.value).2 :=
    transfersIn_perm (hm.separate.apart (.refl _)) hapart hperm m.slots
  refine ⟨?_, ?_, ?_, fun i hi => ?_, fun hstocks => ?_⟩
  · simp only [flowAmount_value, found_transfers]
    exact transfersIn_alone hapart m.slots
  · rw [step_stocks hrun', found_transfers]
    rfl
  · rw [found_slots, found_slots, hslots]
  · have hother := (usesOnly_endIn m.termination ((m.withFlows flows).moved dt.value).scope).frame
      (m.stepTransfers dt.value).2 i hi
    have hsame := (usesOnly_endIn m.termination (m.moved dt.value).scope).frame
      (m.stepTransfers dt.value).2 i hi
    rw [step_slots hrun', step_slots hrun, hslots]
    exact hother.trans hsame.symm
  · rw [step_stocks hrun', step_stocks hrun] at hstocks
    rw [step_slots hrun', step_slots hrun, hslots, moved_scope hstocks]
    rfl

/-- The flows in the opposite order. -/
def reversed (m : Model) : Model := m.withFlows ⟨m.flows.entries.reverse, by
  rw [List.map_reverse]
  exact (List.reverse_perm _).nodup_iff.2 m.flows.nodup⟩

theorem reversed_perm (m : Model) : m.reversed.flows.entries.Perm m.flows.entries :=
  List.reverse_perm m.flows.entries

/-- A tank with an inflow that is too small to show in it, an outflow that empties it, and a
condition that follows it. -/
def tank : String :=
  "stock S \x7b\ninitial: 1e16\n\x7d\nflow A \x7b\nto: S\nrate: SMOOTH(1, 1)\n\x7d\n" ++
  "flow B \x7b\nfrom: S\nrate: 1e16\n\x7d\nterminate \x7b\nwhen: SMOOTH(S, 1) > 1\n\x7d"

/-- The two flows of the tank in the opposite order. -/
theorem step_simultaneous_tank :
    Reachable .default tank (ofText .default tank).result ∧
      (ofText .default tank).result.isTerminated = false ∧
      (ofText .default tank).result.reversed.flows.entries.Perm
        (ofText .default tank).result.flows.entries ∧
      ((ofText .default tank).result.reversed.found ⟨1.0, by decide, by decide⟩).1.slots =
        ((ofText .default tank).result.found ⟨1.0, by decide, by decide⟩).1.slots := by
  have hm : Reachable .default tank (ofText .default tank).result := ⟨[], rfl⟩
  have hrun : (ofText .default tank).result.isTerminated = false := by decide +kernel
  have hperm := (ofText .default tank).result.reversed_perm
  exact ⟨hm, hrun, hperm, (step_simultaneous hm hrun hperm ⟨1.0, by decide, by decide⟩).2.2.1⟩

/-- If the inflow comes first, it is lost in the tank, and the condition sees the tank empty. If the
outflow comes first, the inflow is left in the tank, and the slot of the condition holds that. -/
theorem step_order_end :
    (ofText .default tank).result.reversed.flows.entries.Perm
        (ofText .default tank).result.flows.entries ∧
      ((ofText .default tank).result.reversed.step
          ⟨1.0, by decide, by decide⟩).result.slots.map Slot.state ≠
        ((ofText .default tank).result.step
          ⟨1.0, by decide, by decide⟩).result.slots.map Slot.state := by
  refine ⟨reversed_perm _, ?_⟩
  decide +kernel

end Model

end SystemDynamics
