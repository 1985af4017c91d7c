import SystemDynamics.Proofs.Loading

/-!
# Starting again

Steps and resets leave the design of a model as it is: all but its amounts, its clock, its phase,
its memory and its diagnostics (`serveAll_design`). A reset sets the rest from the design alone,
to what a text makes in the first place. So a model that has been reset is the model that its text
makes again, but for the diagnostics, and answers every request as that does
(`reset_serveAll_agrees`).
-/

namespace SystemDynamics

namespace Stock

/-- The stock without its amount. -/
def emptied (s : Stock) : Stock := { s with value := 0.0 }

end Stock

namespace Model

/-- What no step and no reset changes. -/
def design (m : Model) : Model :=
  { m with
    stocks := m.stocks.map Stock.emptied
    clock := .start
    phase := .running
    slots := m.slots.map Slot.clear
    history := m.history.clear
    diagnostics := .withCapacity Diagnostics.defaultCapacity .warning }

theorem withValues_emptied (stocks : Table Stock) (values : Table Float) :
    (withValues stocks values).map Stock.emptied = stocks.map Stock.emptied := by
  ext1
  simp only [withValues, Table.entries_map, Table.entries_mapWithName, List.map_map]
  rfl

theorem move_emptied (m : Model) (ts : List (Transfer Float)) :
    (m.move ts).stocks.map Stock.emptied = m.stocks.map Stock.emptied := by
  have hconstrain : (m.move ts).stocks.map Stock.emptied =
      (withValues m.stocks (Transfer.applyAll m.stockValues ts)).map Stock.emptied := by
    ext1
    simp only [move, Table.entries_map, List.map_map]
    rfl
  rw [hconstrain, withValues_emptied]

theorem clear_map_clear (slots : List Slot) :
    (slots.map Slot.clear).map Slot.clear = slots.map Slot.clear := by
  rw [List.map_map]
  rfl

theorem advanced_design (m : Model) (dt : Float) : (m.advanced dt).design = m.design := by
  have hstocks : (m.advanced dt).stocks.map Stock.emptied = m.stocks.map Stock.emptied :=
    move_emptied _ _
  have hslots : (m.advanced dt).slots.map Slot.clear = m.slots.map Slot.clear :=
    ((usesOnly_endIn m.termination (m.moved dt).scope).labels _).trans
      (transfersIn_labels dt _ _ _)
  simp only [design, hstocks, hslots]
  rfl

theorem step_design (m : Model) (dt : StepSize) : (m.step dt).result.design = m.design := by
  rcases hm : m.isTerminated with _ | _
  · obtain ⟨d, hd⟩ := m.advance_result dt
    rw [step_running hm, hd]
    exact m.advanced_design dt.value
  · rw [step_terminated hm]
    rfl

/-- The design decides which stocks there are. -/
theorem contains_of_design {m n : Model} (h : n.design = m.design) (name : String) :
    n.stocks.contains name = m.stocks.contains name := by
  have hsome : ((n.stocks.map Stock.emptied).get? name).isSome =
      ((m.stocks.map Stock.emptied).get? name).isSome :=
    congrArg (fun m : Model => (m.stocks.get? name).isSome) h
  rwa [Table.get?_map, Table.get?_map, Option.isSome_map, Option.isSome_map] at hsome

/-- The model that a reset leaves, but for its snapshot. -/
def restarted (m : Model) : Model :=
  { m with
    stocks := withValues m.stocks m.initial
    clock := .start
    phase := .running
    history := m.history.clear
    slots := m.slots.map Slot.clear }

theorem reset_result (m : Model) : m.reset.result = m.restarted.record := rfl

theorem record_design (m : Model) : m.record.design = m.design := rfl

theorem reset_design (m : Model) : m.reset.result.design = m.design := by
  have hstocks : m.restarted.stocks.map Stock.emptied = m.stocks.map Stock.emptied :=
    withValues_emptied _ _
  have hslots : m.restarted.slots.map Slot.clear = m.slots.map Slot.clear := clear_map_clear _
  rw [reset_result, record_design, design, hstocks, hslots]
  rfl

theorem serveAll_design (m : Model) (rs : List Request) : (m.serveAll rs).design = m.design :=
  serveAll_kept (P := fun n => n.design = m.design)
    (fun {n} dt h => (n.step_design dt).trans h) (fun {n} h => n.reset_design.trans h) rfl rs

/-- What a text makes without its first snapshot and the design decides holds of every model that
can be reached. -/
theorem Reachable.of_text {P : Model → Prop} {c : Capacities} {text : String} {m : Model}
    (hm : Reachable c text m) (htext : ∃ m, (ofText c text).result = m.record ∧ P m)
    (hdesign : ∀ {m n : Model}, P m → n.design = m.design → P n) : P m := by
  obtain ⟨rs, rfl⟩ := hm
  obtain ⟨m, hm, hp⟩ := htext
  refine hdesign hp ?_
  rw [serveAll_design, hm, record_design]

/-- What the empty model has, loading keeps and the design decides holds of every model that can
be reached. -/
theorem Reachable.of_design {P : Model → Prop} {c : Capacities} {text : String} {m : Model}
    (hm : Reachable c text m)
    (hempty : P (empty c.history (.withCapacity c.diagnostics .warning)))
    (hloads : ∀ d ∈ (Declaration.ofText text).result, ∀ m n, Loads d m n → P m → P n)
    (hdesign : ∀ {m n : Model}, P m → n.design = m.design → P n) : P m :=
  hm.of_text (ofText_kept c text hempty hloads) hdesign

/-- A model on which nothing has been done yet, and which has no snapshot. -/
structure Pristine (m : Model) : Prop where
  initial : m.initial = m.stockValues
  slots : m.slots.map Slot.clear = m.slots
  clock : m.clock = .start
  phase : m.phase = .running
  history : m.history.clear = m.history

theorem Extends.clear {s t : List Slot} (h : Extends s t) (hs : s.map Slot.clear = s) :
    t.map Slot.clear = t := by
  obtain ⟨added, rfl, hadded⟩ := h
  rw [List.map_append, hs]
  have hsame : added.map Slot.clear = added := by
    refine (List.map_congr_left fun place hp => ?_).trans (List.map_id _)
    have hnone := hadded place hp
    rcases place with ⟨kind, label, state⟩
    simp only at hnone
    rw [hnone]
    rfl
  rw [hsame]

theorem pristine_empty (historyCapacity : Int) (diagnostics : Diagnostics) :
    (empty historyCapacity diagnostics).Pristine :=
  ⟨rfl, rfl, rfl, rfl, rfl⟩

theorem Loads.pristine {d : Declaration} {m n : Model} (h : Loads d m n) (hm : m.Pristine) :
    n.Pristine := by
  cases h with
  | data => exact ⟨hm.initial, hm.slots, hm.clock, hm.phase, hm.history⟩
  | stock s =>
    refine ⟨?_, hm.slots, hm.clock, hm.phase, hm.history⟩
    change m.initial.insert d.name s.value = (m.stocks.insert d.name s).map (·.value)
    rw [Table.map_insert, hm.initial]
    rfl
  | flow f slots diagnostics hext =>
    exact ⟨hm.initial, Extends.clear hext hm.slots, hm.clock, hm.phase, hm.history⟩
  | ending c text slots diagnostics hext =>
    exact ⟨hm.initial, Extends.clear hext hm.slots, hm.clock, hm.phase, hm.history⟩

theorem ofText_pristine (c : Capacities) (text : String) :
    ∃ m : Model, (ofText c text).result = m.record ∧ m.Pristine :=
  ofText_kept c text (pristine_empty _ _) fun _ _ _ _ h hm => h.pristine hm

/-- A model is made running. -/
theorem ofText_running (c : Capacities) (text : String) :
    (ofText c text).result.isTerminated = false := by
  obtain ⟨m, hm, hpristine⟩ := ofText_pristine c text
  have hphase : (ofText c text).result.phase = .running := by
    rw [hm]
    exact hpristine.phase
  rw [isTerminated, hphase]
  rfl

/-- Stocks that have the design of others and get their amounts are those others. -/
theorem withValues_of_emptied {s t : Table Stock}
    (h : s.map Stock.emptied = t.map Stock.emptied) : withValues s (t.map (·.value)) = t := by
  have hentries : s.entries.map (fun e => (e.1, e.2.emptied)) =
      t.entries.map (fun e => (e.1, e.2.emptied)) := congrArg Table.entries h
  have hlength : s.entries.length = t.entries.length := by
    simpa using congrArg List.length hentries
  ext1
  refine List.ext_getElem (by simpa [withValues] using hlength) fun i hi hi' => ?_
  have hs : i < s.entries.length := hlength ▸ hi'
  have hat : (s.entries[i].1, s.entries[i].2.emptied) =
      (t.entries[i].1, t.entries[i].2.emptied) := by
    have hget := congrArg (fun es : List (String × Stock) => es[i]?) hentries
    simpa [List.getElem?_eq_getElem hs, List.getElem?_eq_getElem hi'] using hget
  obtain ⟨hname, hemptied⟩ := Prod.mk.injEq .. ▸ hat
  have hvalue : (t.map (·.value)).get? t.entries[i].1 = some t.entries[i].2.value := by
    have hget : t.get? t.entries[i].1 = some t.entries[i].2 :=
      t.get?_eq_some_iff.2 (List.getElem_mem hi')
    rw [Table.get?_map, hget]
    rfl
  simp only [withValues, Table.entries_mapWithName, List.getElem_map, hname, hvalue]
  refine Prod.ext rfl ?_
  exact congrArg (fun r : Stock => { r with value := t.entries[i].2.value }) hemptied

theorem restarted_of_design {m n : Model} (hm : m.Pristine) (h : n.design = m.design) :
    m.Agrees n.restarted := by
  simp only [design, Model.mk.injEq, true_and, and_true] at h
  obtain ⟨hemptied, hinitial, hflows, hconstants, hcurves, hsurfaces, hgraphs, htermination, htext,
    hclear, hhistory⟩ := h
  have hstocks : withValues n.stocks n.initial = m.stocks := by
    rw [hinitial, hm.initial]
    exact withValues_of_emptied hemptied
  have hslots : n.slots.map Slot.clear = m.slots := hclear.trans hm.slots
  refine ⟨n.diagnostics, ?_⟩
  simp only [restarted, Model.mk.injEq, and_true]
  exact ⟨hstocks, hinitial, hflows, hconstants, hcurves, hsurfaces, hgraphs, htermination, htext,
    hm.clock.symm, hm.phase.symm, hslots, hhistory.trans hm.history⟩

/-- After any requests, a reset leaves the model that the text makes again, but for the
diagnostics, and the same requests from there on have the same outcome. -/
theorem reset_serveAll_agrees (c : Capacities) (text : String) (rs : List Request) :
    (ofText c text).result.Agrees ((ofText c text).result.serveAll rs).reset.result ∧
      ∀ later, ((ofText c text).result.serveAll later).Agrees
        (((ofText c text).result.serveAll rs).reset.result.serveAll later) := by
  obtain ⟨m, hm, hpristine⟩ := ofText_pristine c text
  have hdesign : ((ofText c text).result.serveAll rs).design = m.design := by
    rw [serveAll_design, hm, record_design]
  have hagrees : (ofText c text).result.Agrees
      ((ofText c text).result.serveAll rs).reset.result := by
    obtain ⟨d, hd⟩ := restarted_of_design hpristine hdesign
    rw [reset_result, hd, hm]
    exact ⟨d, rfl⟩
  exact ⟨hagrees, fun later => hagrees.serveAll later⟩

end Model

end SystemDynamics
