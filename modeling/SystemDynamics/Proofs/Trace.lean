import SystemDynamics.Proofs.Calls

/-!
# The trace of a run

The trace of a model since it was last reset begins with its initial values and has one snapshot
for every step that a model makes that has not ended: the time after the step and the amounts that
it moves, put back into the bounds (`Model.nextSnapshot`). It is told from the models before the
steps, without their histories. The history that a model has is what is left of this trace when
all but its last entries are dropped (`Traced`), through all steps and resets
(`Pristine.traced`); and it has as many entries as it has room for, but never more than there
have been steps and one.
-/

namespace SystemDynamics

namespace Model

/-- The snapshot that the next step should leave. -/
def nextSnapshot (m : Model) (dt : StepSize) : Snapshot :=
  ⟨m.clock.time + dt.value, (m.move (m.found dt).2).stockValues⟩

/-- The snapshot of the values that a reset goes back to. -/
def firstSnapshot (m : Model) : Snapshot := ⟨0.0, m.initial⟩

/-- The snapshots since the last reset after some acts, where `seen` are those before the acts. -/
def trace : List Act → Model → List Snapshot → List Snapshot
  | [], _, seen => seen
  | .step dt :: acts, m, seen =>
    trace acts (m.step dt).result (if m.isTerminated then seen else seen ++ [m.nextSnapshot dt])
  | .reset :: acts, m, _ => trace acts m.reset.result [m.firstSnapshot]

/-- The history holds the last snapshots of the trace, and the trace ends with the model as it
is. -/
structure Traced (m : Model) (trace : List Snapshot) : Prop where
  history : m.history = trace.foldl Recent.push m.history.clear
  length : trace.length = m.clock.step + 1
  last : trace.getLast? = some ⟨m.clock.time, m.stockValues⟩

/-- A model after its snapshot is traced, if it was before but for that snapshot. -/
theorem Traced.record {m : Model} {seen : List Snapshot}
    (hhistory : m.history = seen.foldl Recent.push m.history.clear)
    (hlength : seen.length = m.clock.step) :
    m.record.Traced (seen ++ [⟨m.clock.time, m.stockValues⟩]) := by
  refine ⟨?_, ?_, List.getLast?_concat⟩
  · rw [List.foldl_append]
    exact congrArg (Recent.push · _) hhistory
  · rw [List.length_append, hlength]
    rfl

theorem moved_record (m : Model) (dt : StepSize) :
    ∃ n : Model, m.moved dt.value = n.record ∧ n.history = m.history ∧
      n.clock.step = m.clock.step + 1 ∧ ⟨n.clock.time, n.stockValues⟩ = m.nextSnapshot dt := by
  refine ⟨_, rfl, rfl, rfl, ?_⟩
  rw [nextSnapshot, found_transfers]
  rfl

theorem Traced.step {m : Model} {seen : List Snapshot} (h : m.Traced seen)
    (hrun : m.isTerminated = false) (dt : StepSize) :
    (m.step dt).result.Traced (seen ++ [m.nextSnapshot dt]) := by
  obtain ⟨d, hd⟩ := m.advance_result dt
  obtain ⟨n, hn, hhistory, hstep, hsnapshot⟩ := m.moved_record dt
  have hrecord : n.record.Traced (seen ++ [m.nextSnapshot dt]) := by
    rw [← hsnapshot]
    refine .record ?_ (by rw [hstep, h.length])
    rw [hhistory]
    exact h.history
  rw [step_running hrun, hd]
  rw [← hn] at hrecord
  exact ⟨hrecord.history, hrecord.length, hrecord.last⟩

/-- A reset gives the stocks the initial values. -/
theorem Pristine.restarted_values {m n : Model} (hm : m.Pristine) (h : n.design = m.design) :
    n.restarted.stockValues = n.initial := by
  have hinitial : n.design.initial = m.design.initial := by rw [h]
  obtain ⟨d, hd⟩ := restarted_of_design hm h
  rw [hd]
  exact hm.initial.symm.trans hinitial.symm

theorem Traced.reset {n : Model} (h : n.restarted.stockValues = n.initial) :
    n.reset.result.Traced [n.firstSnapshot] := by
  have hrecord : n.restarted.record.Traced
      ([] ++ [⟨n.restarted.clock.time, n.restarted.stockValues⟩]) := .record rfl rfl
  rw [h] at hrecord
  exact hrecord

theorem Pristine.traced {m : Model} (hm : m.Pristine) :
    ∀ (acts : List Act) {n : Model} {seen : List Snapshot}, n.design = m.design → n.Traced seen →
      (n.actAll acts).Traced (trace acts n seen)
  | [], _, _, _, h => h
  | .step dt :: acts, n, seen, hdesign, h => by
    have hnext : (n.step dt).result.Traced
        (if n.isTerminated then seen else seen ++ [n.nextSnapshot dt]) := by
      rcases hrun : n.isTerminated with _ | _
      · exact h.step hrun dt
      · rw [step_terminated hrun]
        exact h
    exact hm.traced acts ((n.step_design dt).trans hdesign) hnext
  | .reset :: acts, n, _, hdesign, _ =>
    hm.traced acts (n.reset_design.trans hdesign) (.reset (hm.restarted_values hdesign))

/-- What a text makes is traced by its first snapshot. -/
theorem Pristine.traced_record {m : Model} (hm : m.Pristine) :
    m.record.Traced [m.record.firstSnapshot] := by
  have hrecord : m.record.Traced ([] ++ [⟨m.clock.time, m.stockValues⟩]) :=
    .record hm.history.symm (by rw [hm.clock]; rfl)
  rw [hm.clock, ← hm.initial] at hrecord
  exact hrecord

theorem Traced.entries {m : Model} {trace : List Snapshot} (h : m.Traced trace) :
    m.history.entries = Recent.lastOf (min m.history.capacity (m.clock.step + 1)) trace := by
  rw [← h.length, Recent.lastOf_min]
  refine (congrArg Recent.entries h.history).trans ?_
  rw [Recent.entries_foldl_push]
  rfl

theorem Traced.latest {m : Model} {trace : List Snapshot} (h : m.Traced trace) :
    m.history.latest? = some ⟨m.clock.time, m.stockValues⟩ := by
  have hpositive := m.history.positive
  rw [Recent.latest?, h.entries, Recent.lastOf, ← h.last]
  refine List.getLast?_drop.trans (if_neg ?_)
  rw [h.length]
  omega

theorem capacity_of_design {m n : Model} (h : n.design = m.design) :
    n.history.capacity = m.history.capacity := by
  have hclear : n.design.history.capacity = m.design.history.capacity := by rw [h]
  exact hclear

theorem ofText_capacity (c : Capacities) (text : String) :
    (ofText c text).result.history.capacity = max 1 c.history.toNat := by
  obtain ⟨m, hm, hcapacity⟩ := ofText_kept
    (P := fun m => m.history.capacity = max 1 c.history.toNat) c text rfl
    fun _ _ _ _ hloads h => by cases hloads <;> exact h
  rw [hm]
  exact hcapacity

/-- The snapshots since the last reset of the model that a text makes, after some calls. -/
def snapshots (c : Capacities) (text : String) (calls : List Invocation) : List Snapshot :=
  trace (calls.flatMap Invocation.acts) (ofText c text).result
    [(ofText c text).result.firstSnapshot]

/-- After any calls, the history of a model that a text makes is the last part of its trace since
the last reset, as long as the capacity allows and with no more entries than the steps since then
and one. Its latest entry shows the model as it is. -/
theorem after_history (c : Capacities) (text : String) (calls : List Invocation) :
    (after c text calls).history.entries =
        Recent.lastOf (min (max 1 c.history.toNat) ((after c text calls).clock.step + 1))
          (snapshots c text calls) ∧
      (snapshots c text calls).length = (after c text calls).clock.step + 1 ∧
      (after c text calls).history.latest? =
        some ⟨(after c text calls).clock.time, (after c text calls).stockValues⟩ := by
  obtain ⟨m, hm, hpristine⟩ := ofText_pristine c text
  have hstart : (ofText c text).result.Traced [(ofText c text).result.firstSnapshot] := by
    rw [hm]
    exact hpristine.traced_record
  have htraced : (after c text calls).Traced (snapshots c text calls) := by
    rw [after, invokeAll_acts]
    exact hpristine.traced _ (by rw [hm, record_design]) hstart
  have hcapacity : (after c text calls).history.capacity = max 1 c.history.toNat :=
    (capacity_of_design (after_design c text calls)).trans (ofText_capacity c text)
  refine ⟨?_, htraced.length, htraced.latest⟩
  rw [← hcapacity]
  exact htraced.entries

/-- A history of two snapshots after a run, a reset and another run. -/
example : (after ⟨2, 2⟩ "stock S \x7b\ninitial: 1\n\x7d"
      [.run (.whole 3) (.real 1.0), .reset, .runBatched (.whole 3) (.real 0.5) none]
    ).history.entries.map (·.time) = [1.0, 1.5] := by
  rw [after, invokeAll_acts]
  decide +kernel

end Model

end SystemDynamics
