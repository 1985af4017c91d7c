import SystemDynamics.Observers
import SystemDynamics.Proofs.Ending
import SystemDynamics.Proofs.Trace

/-!
# What observers are told

Making a model from a text announces nothing (`Declaration.ofText_silent`,
`Model.ofDeclarations_silent`). Neither does finding amounts or asking for the end of a run
(`Model.transfersOf_silent`, `Model.endReached_silent`), so a step announces the snapshot that it
leaves, and its end if the condition is met (`Model.advance_events`). Over all steps and resets
these announcements are numbered from one since the last reset, and what changes nothing announces
nothing (`Model.enactAll_told`).

Observers are told what is announced in this order, whoever of them fails
(`Registry.Recorded.deliver`), and it makes no difference whether they are told at each announcement
or after the call (`Registry.tell_bind`, `Registry.tell_advance`). So as long as they only record or
fail, an observer who records has a record of the announcements of all calls
(`Watched.callEach_told`). The model is the one that nobody observes, whatever the observers do
(`Watched.callEach_model`).
-/

namespace SystemDynamics

theorem Notice.events_append (ns later : List Notice) :
    Notice.events (ns ++ later) = Notice.events ns ++ Notice.events later :=
  List.filterMap_append

namespace Noted

variable {α β : Type}

/-- Nothing is announced on the way. -/
def Silent (x : Noted α) : Prop := Notice.events x.notices = []

theorem silent_pure (a : α) : (pure a : Noted α).Silent := rfl

theorem Silent.bind {x : Noted α} {f : α → Noted β} (hx : x.Silent) (hf : ∀ a, (f a).Silent) :
    (x >>= f).Silent := by
  rw [Silent, notices_bind, Notice.events_append, hx, hf x.result]
  rfl

theorem logged_silent (a : α) (entries : List LogEntry) : (logged a entries).Silent := by
  refine List.filterMap_eq_nil_iff.2 fun n hn => ?_
  obtain ⟨entry, -, rfl⟩ := List.mem_map.1 hn
  rfl

end Noted

open Noted

/-! ## Making a model -/

namespace Reader

variable (r : Reader) (number : Nat)

theorem closeBlock_silent : (r.closeBlock number).Silent := by
  unfold closeBlock
  split <;> exact logged_silent _ _

theorem feedBlock_silent (d : Declaration) (line : List Char) :
    (r.feedBlock d number line).Silent := by
  unfold feedBlock
  split
  · split <;> exact logged_silent _ _
  · split
    · exact logged_silent _ _
    · split
      · exact r.closeBlock_silent number
      · exact logged_silent _ _

theorem feed_silent (raw : List Char) : (r.feed number raw).Silent := by
  unfold feed
  dsimp only
  split
  · exact logged_silent _ _
  · exact logged_silent _ _
  · exact logged_silent _ _
  · split
    · exact r.feedBlock_silent number _ _
    · split
      · exact r.closeBlock_silent number
      · exact logged_silent _ _

end Reader

theorem Reader.feedAll_silent : ∀ (lines : List (List Char)) (r : Reader) (number : Nat),
    (r.feedAll number lines).Silent
  | [], _, _ => silent_pure _
  | line :: rest, r, number =>
    Silent.bind (r.feed_silent number line) fun r => feedAll_silent rest r (number + 1)

theorem Declaration.ofText_silent (text : String) : (ofText text).Silent :=
  Silent.bind (Reader.feedAll_silent _ _ _) fun _ => logged_silent _ _

namespace Model

section Making

variable (m : Model)

theorem reportAtRest_silent (source message : String) : (m.reportAtRest source message).Silent :=
  logged_silent _ _

theorem compile_silent (text source : String) (purpose : Purpose) :
    (m.compile text source purpose).Silent := by
  unfold compile
  dsimp only
  split
  · exact silent_pure _
  · exact Silent.bind (reportAtRest_silent ..) fun _ => silent_pure _

theorem endpoint_silent (flow : String) (e : EndpointSource) : (m.endpoint flow e).Silent := by
  unfold endpoint
  split
  · exact silent_pure _
  · exact silent_pure _
  · split
    · exact silent_pure _
    · split
      · exact silent_pure _
      · exact Silent.bind (reportAtRest_silent ..) fun _ => silent_pure _

theorem rate_silent (flow : String) (rateText : Option String) :
    ∀ r : RateSource, (m.rate flow rateText r).Silent
  | .text s => Silent.bind (m.compile_silent s _ _) fun _ => silent_pure _
  | .datum _ | .supplied _ => silent_pure _

theorem putFlow_silent (name : String) (f : Flow) : (m.putFlow name f).Silent := by
  unfold putFlow
  split
  · exact Silent.bind (logged_silent () [_]) fun _ =>
      Silent.bind (reportAtRest_silent ..) fun _ => silent_pure _
  · exact silent_pure _

theorem addFlow_silent (name : String) (source target : EndpointSource) (rate : RateSource)
    (rateText units : Option String) :
    (m.addFlow name source target rate rateText units).Silent := by
  refine Silent.bind (endpoint_silent ..) fun a => Silent.bind (endpoint_silent ..) fun b =>
    Silent.bind (rate_silent ..) fun r => ?_
  split
  · exact silent_pure _
  · exact Silent.bind (putFlow_silent ..) fun _ => silent_pure _

theorem constantOf_silent (label : String) (default : Option Float) (v : Option PropertyValue) :
    (m.constantOf label default v).Silent := by
  unfold constantOf
  split
  · exact silent_pure _
  · exact silent_pure _
  · split
    · exact silent_pure _
    · exact Silent.bind (logged_silent () [_]) fun _ =>
        Silent.bind (reportAtRest_silent ..) fun _ => silent_pure _

theorem load_silent (d : Declaration) : (m.load d).Silent := by
  unfold load
  split
  · exact Silent.bind (constantOf_silent ..) fun _ => silent_pure _
  · exact Silent.bind (constantOf_silent ..) fun _ => Silent.bind (constantOf_silent ..) fun _ =>
      Silent.bind (constantOf_silent ..) fun _ => silent_pure _
  · exact Silent.bind (addFlow_silent ..) fun _ => silent_pure _
  · unfold loadTermination
    split
    · exact silent_pure _
    · exact Silent.bind (compile_silent ..) fun _ => silent_pure _
  · exact silent_pure _
  · exact silent_pure _
  · exact silent_pure _

theorem loadAll_silent : ∀ (ds : List Declaration) (m : Model), (loadAll ds m).Silent
  | [], _ => silent_pure _
  | d :: ds, m => Silent.bind (m.load_silent d) fun n => loadAll_silent ds n

theorem ofDeclarations_silent (c : Capacities) (ds : List Declaration) :
    (ofDeclarations c ds).Silent :=
  Silent.bind (loadAll_silent _ _) fun _ => Silent.bind (loadAll_silent _ _) fun _ => silent_pure _

end Making

/-! ## Steps -/

theorem reportNow_silent (m : Model) (source message : String) :
    (m.reportNow source message).Silent := logged_silent _ _

theorem evaluate_silent (m : Model) (f : Formula) : (m.evaluate f).Silent :=
  Silent.bind (logged_silent _ _) fun _ => silent_pure _

theorem suppliedAmount_silent (m : Model) (name : String) (dt : Float) (s : Supplied) :
    (m.suppliedAmount name dt s).Silent := by
  unfold suppliedAmount
  split
  · exact Silent.bind (reportNow_silent ..) fun _ => silent_pure _
  · split
    · exact silent_pure _
    · exact Silent.bind (reportNow_silent ..) fun _ => silent_pure _

theorem flowAmount_silent (m : Model) (dt : Float) (name : String) (f : Flow) :
    (m.flowAmount dt name f).Silent := by
  unfold flowAmount
  split
  · exact silent_pure _
  · exact suppliedAmount_silent ..
  · refine Silent.bind (evaluate_silent ..) fun r => ?_
    split <;> exact silent_pure _

theorem transfersOf_silent (dt : Float) : ∀ (es : List (String × Flow)) (m : Model),
    (transfersOf dt es m).Silent
  | [], _ => silent_pure _
  | (name, f) :: rest, m =>
    Silent.bind (m.flowAmount_silent dt name f) fun r =>
      Silent.bind (transfersOf_silent dt rest r.1) fun _ => silent_pure _

theorem endReached_silent (m : Model) : m.endReached.Silent := by
  unfold endReached
  split
  · exact silent_pure _
  · split
    · exact silent_pure _
    · exact Silent.bind (reportNow_silent ..) fun _ => silent_pure _
  · refine Silent.bind (evaluate_silent ..) fun r => ?_
    split <;> exact silent_pure _

section Step

variable (m : Model) (dt : StepSize)

/-- When the end of the run is asked for, the clock and the stocks are those of the snapshot that
the step leaves. -/
theorem asked_snapshot :
    (m.asked dt).clock.step = m.clock.step + 1 ∧
      (m.asked dt).clock.time = (m.nextSnapshot dt).time ∧
      (m.asked dt).stockValues = (m.nextSnapshot dt).values := by
  obtain ⟨d, hd⟩ := transfersOf_result dt.value m.flows.entries (m.withStepSize dt.value)
  rw [asked, nextSnapshot, found, hd]
  exact ⟨rfl, rfl, rfl⟩

/-- A step of a model that has not ended announces the snapshot that it leaves, and its end if the
condition is met. -/
theorem advance_events :
    Notice.events (m.advance dt).notices =
      .step (m.nextSnapshot dt).time (m.clock.step + 1) (m.nextSnapshot dt).values ::
        if m.endsNext dt then [.terminated (m.nextSnapshot dt).time (m.clock.step + 1)] else [] := by
  obtain ⟨hstep, htime, hvalues⟩ := m.asked_snapshot dt
  have hclock : (m.asked dt).endReached.result.1.clock = (m.asked dt).clock := by
    obtain ⟨d, hd⟩ := (m.asked dt).endReached_result
    rw [hd]
  have hparts : Notice.events (m.advance dt).notices =
      Notice.events (transfersOf dt.value m.flows.entries (m.withStepSize dt.value)).notices ++
        Notice.events (Noted.announce (.step (m.asked dt).clock.time (m.asked dt).clock.step
          (m.asked dt).stockValues) >>= fun _ => (m.asked dt).endReached >>= _).notices :=
    Notice.events_append _ _
  rw [hparts, transfersOf_silent, Noted.notices_bind, Notice.events_append, Noted.notices_bind,
    Notice.events_append, endReached_silent]
  rcases hend : (m.asked dt).endReached.result with ⟨n, reached⟩
  have hmet : m.endsNext dt = reached := congrArg Prod.snd hend
  rw [hend] at hclock
  rw [hmet, ← hstep, ← htime, ← hvalues, ← hclock]
  rcases reached with _ | _ <;> rfl

/-- A step of a model that has not ended appends the snapshot that it should leave to the
history. -/
theorem advance_history : (m.advance dt).result.history = m.history.push (m.nextSnapshot dt) := by
  obtain ⟨d, hd⟩ := m.advance_result dt
  obtain ⟨n, hn, hhistory, -, hsnapshot⟩ := m.moved_record dt
  rw [hd, ← hsnapshot, ← hhistory]
  exact congrArg history hn

end Step

/-- The events that acts have to announce, one after the other, where `n` steps have been made since
the last reset. -/
inductive Told : Nat → Model → List Act → List Event → Prop
  | done {n : Nat} {m : Model} : Told n m [] []
  /-- A step of a model that has ended. -/
  | idle {n : Nat} {m : Model} {dt : StepSize} {acts : List Act} {es : List Event} :
    m.isTerminated = true → Told n m acts es → Told n m (.step dt :: acts) es
  /-- A step that does not end the run, and appends a snapshot to the history. -/
  | going {n : Nat} {m : Model} {dt : StepSize} {s : Snapshot} {acts : List Act}
    {es : List Event} :
    m.isTerminated = false → m.endsNext dt = false →
    (m.step dt).result.history = m.history.push s →
    Told (n + 1) (m.step dt).result acts es →
    Told n m (.step dt :: acts) (.step s.time (n + 1) s.values :: es)
  /-- A step at which the condition that ends a run is met. -/
  | ending {n : Nat} {m : Model} {dt : StepSize} {s : Snapshot} {acts : List Act}
    {es : List Event} :
    m.isTerminated = false → m.endsNext dt = true →
    (m.step dt).result.history = m.history.push s →
    Told (n + 1) (m.step dt).result acts es →
    Told n m (.step dt :: acts)
      (.step s.time (n + 1) s.values :: .terminated s.time (n + 1) :: es)
  | reset {n : Nat} {m : Model} {acts : List Act} {es : List Event} :
    Told 0 m.reset.result acts es → Told n m (.reset :: acts) (.reset 0.0 0 :: es)

/-- Steps and resets announce what they have to. -/
theorem enactAll_told : ∀ (acts : List Act) (m : Model),
    Told m.clock.step m acts (Notice.events (enactAll acts m).notices)
  | [], _ => .done
  | .reset :: acts, m => .reset (enactAll_told acts m.reset.result)
  | .step dt :: acts, m => by
    rw [enactAll, enact, Noted.notices_bind, Notice.events_append]
    have hlater := enactAll_told acts (m.step dt).result
    rcases hrun : m.isTerminated with _ | _
    · have hstep : (m.step dt).result.clock.step = m.clock.step + 1 := by
        obtain ⟨d, hd⟩ := m.advance_result dt
        rw [step_running hrun, hd]
        rfl
      have hhistory : (m.step dt).result.history = m.history.push (m.nextSnapshot dt) := by
        rw [step_running hrun]
        exact m.advance_history dt
      rw [hstep] at hlater
      have hevents : Notice.events (m.step dt).notices = _ :=
        (congrArg (Notice.events ·.notices) (step_running hrun dt)).trans (m.advance_events dt)
      rw [hevents]
      rcases hmet : m.endsNext dt with _ | _
      · exact .going hrun hmet hhistory hlater
      · exact .ending hrun hmet hhistory hlater
    · rw [step_terminated hrun] at hlater ⊢
      exact .idle hrun hlater

end Model

namespace Registry

variable {κ σ : Type} [DecidableEq κ]

/-- One observer is registered once and records every event in a journal. The others leave the
journal alone, and none of them changes the registry; any of them may fail. -/
structure Recorded (b : Behaviour κ σ Event) (r : Registry κ) (recorder : κ)
    (journal : σ → List Event) : Prop where
  once : r.observers.count recorder = 1
  records : ∀ s e, journal (b.react s recorder e).1 = journal s ++ [e]
  apart : ∀ k ∈ r.observers, k ≠ recorder → ∀ s e, journal (b.react s k e).1 = journal s
  settled : ∀ k ∈ r.observers, ∀ s e, (b.react s k e).2.changes = []

variable {b : Behaviour κ σ Event} {r : Registry κ} {recorder : κ} {journal : σ → List Event}

/-- Observers who are called with an event: the recorder writes it down as often as it is among
them. -/
theorem Recorded.callAll (h : Recorded b r recorder journal) (e : Event) :
    ∀ (ks : List κ) (s : σ), ks ⊆ r.observers →
      (callAll b e ks r s).1 = r ∧
      journal (callAll b e ks r s).2.1 = journal s ++ List.replicate (ks.count recorder) e
  | [], s, _ => ⟨rfl, (List.append_nil _).symm⟩
  | k :: ks, s, hks => by
    obtain ⟨hk, hrest⟩ := List.cons_subset.1 hks
    obtain ⟨hregistry, hjournal⟩ := h.callAll e ks (b.react s k e).1 hrest
    have hchanges : (b.react s k e).2.changes.foldl change r = r := by
      rw [h.settled k hk]
      rfl
    simp only [Registry.callAll, hchanges]
    refine ⟨hregistry, hjournal.trans ?_⟩
    by_cases hrecorder : k = recorder
    · subst hrecorder
      rw [h.records, List.count_cons_self, List.append_assoc]
      rfl
    · rw [h.apart k hk hrecorder, List.count_cons_of_ne hrecorder]

theorem Recorded.publish (h : Recorded b r recorder journal) (e : Event) (s : σ) :
    (publish b r e s).1 = r ∧ journal (publish b r e s).2.1 = journal s ++ [e] := by
  have hcall := h.callAll e r.observers s (List.Subset.refl _)
  rw [h.once] at hcall
  exact hcall

/-- Observers who are told of notices in two parts are told of them all. -/
theorem deliver_append (b : Behaviour κ σ Event) (later : List Notice) :
    ∀ (ns : List Notice) (r : Registry κ) (s : σ),
      deliver b (ns ++ later) r s =
        let first := deliver b ns r s
        let second := deliver b later first.1 first.2.1
        (second.1, second.2.1, first.2.2 ++ second.2.2)
  | [], _, _ => rfl
  | .log entry :: ns, r, s => by
    simp only [List.cons_append, deliver, deliver_append b later ns r s]
  | .event e :: ns, r, s => by
    simp only [List.cons_append, deliver, deliver_append b later ns, List.append_assoc]

/-- A computation with observers, who change the registry, their own affairs and the log. -/
abbrev Observed (κ σ : Type) := StateM (Registry κ × σ × List LogEntry)

/-- A computation, of whose notices observers are told when it is done. -/
def tell {α : Type} (b : Behaviour κ σ Event) (x : Noted α) : Observed κ σ α :=
  fun (r, s, entries) =>
    let told := deliver b x.notices r s
    (x.result, told.1, told.2.1, entries ++ told.2.2)

/-- Tells observers of an event at once. -/
def tellNow (b : Behaviour κ σ Event) (e : Event) : Observed κ σ Unit :=
  fun (r, s, entries) =>
    let told := publish b r e s
    ((), told.1, told.2.1, entries ++ told.2.2)

theorem tell_announce (b : Behaviour κ σ Event) (e : Event) :
    tell b (announce e) = tellNow b e := by
  funext ⟨r, s, entries⟩
  simp only [tell, tellNow, announce, deliver, List.append_nil]

theorem tell_pure {α : Type} (b : Behaviour κ σ Event) (a : α) : tell b (pure a) = pure a := by
  funext ⟨r, s, entries⟩
  exact congrArg (fun log => (a, r, s, log)) (List.append_nil entries)

/-- It makes no difference whether observers are told of a part before the rest begins. -/
theorem tell_bind {α β : Type} (b : Behaviour κ σ Event) (x : Noted α) (f : α → Noted β) :
    tell b (x >>= f) = tell b x >>= fun a => tell b (f a) := by
  funext ⟨r, s, entries⟩
  simp only [tell, notices_bind, result_bind, deliver_append, ← List.append_assoc]
  rfl

/-- A step, of whose events observers are told where they are announced. -/
theorem tell_advance (b : Behaviour κ σ Event) (m : Model) (dt : StepSize) :
    tell b (m.advance dt) = (do
      let (m, ts) ← tell b (Model.transfersOf dt.value m.flows.entries (m.withStepSize dt.value))
      let m := ((m.move ts).tick dt.value).record
      tellNow b (.step m.clock.time m.clock.step m.stockValues)
      let (m, reached) ← tell b m.endReached
      if reached then
        tell b (Noted.log ⟨.info, .model, "Simulation terminated at t=" ++
          messageText m.clock.time ++ " after " ++ toString m.clock.step ++ " steps"⟩)
        tellNow b (.terminated m.clock.time m.clock.step)
        return { m with phase := .terminated }
      else
        return m) := by
  unfold Model.advance
  simp only [tell_bind, tell_announce]
  refine congrArg _ (funext fun r => congrArg _ (funext fun _ => congrArg _ (funext fun q => ?_)))
  split
  · simp only [tell_bind, tell_announce, tell_pure]
  · exact tell_pure b _

/-- What is announced is recorded in its order, and the registry stays as it is. -/
theorem Recorded.deliver (h : Recorded b r recorder journal) : ∀ (ns : List Notice) (s : σ),
    (deliver b ns r s).1 = r ∧
      journal (deliver b ns r s).2.1 = journal s ++ Notice.events ns
  | [], s => ⟨rfl, (List.append_nil _).symm⟩
  | .log _ :: ns, s => h.deliver ns s
  | .event e :: ns, s => by
    obtain ⟨hregistry, hjournal⟩ := h.publish e s
    obtain ⟨hregistry', hjournal'⟩ := h.deliver ns (Registry.publish b r e s).2.1
    simp only [Registry.deliver, hregistry]
    refine ⟨hregistry', hjournal'.trans ?_⟩
    rw [hjournal, List.append_assoc]
    rfl

end Registry

/-- A model with those who observe it, and their affairs. -/
structure Watched (κ σ : Type) where
  model : Model
  registry : Registry κ
  affairs : σ

namespace Watched

open Model Registry

variable {κ σ : Type} [DecidableEq κ]

/-- A call, of which the observers are told what it announces. They are told when it is done, which
comes to the same as to tell them at each announcement (`Registry.tell_bind`): an observer changes
the registry and its own affairs, and a failing one is passed over, so nothing that it does counts
for the rest of the call. -/
def call (b : Behaviour κ σ Event) (w : Watched κ σ) (c : Invocation) : Watched κ σ :=
  let told := deliver b (w.model.call c).notices w.registry w.affairs
  ⟨(w.model.call c).result, told.1, told.2.1⟩

/-- Several calls, one after the other. -/
def callEach (b : Behaviour κ σ Event) (w : Watched κ σ) (calls : List Invocation) :
    Watched κ σ :=
  calls.foldl (call b) w

/-- Whoever observes a model, and whatever they do then, the model is the one that nobody
observes. -/
theorem callEach_model (b : Behaviour κ σ Event) : ∀ (calls : List Invocation) (w : Watched κ σ),
    (w.callEach b calls).model = w.model.invokeAll calls
  | [], _ => rfl
  | c :: calls, w => by
    have hcall : (w.call b c).model = w.model.invoke c := w.model.call_result c
    exact (callEach_model b calls (w.call b c)).trans (congrArg (·.invokeAll calls) hcall)

variable {b : Behaviour κ σ Event} {recorder : κ} {journal : σ → List Event}

/-- The journal gets what the steps and resets of the calls announce. -/
theorem callEach_recorded : ∀ (calls : List Invocation) (w : Watched κ σ),
    Recorded b w.registry recorder journal →
      (w.callEach b calls).registry = w.registry ∧
      journal (w.callEach b calls).affairs = journal w.affairs ++
        Notice.events (enactAll (calls.flatMap Invocation.acts) w.model).notices
  | [], _, _ => ⟨rfl, (List.append_nil _).symm⟩
  | c :: calls, w, h => by
    obtain ⟨hregistry, hjournal⟩ := h.deliver (w.model.call c).notices w.affairs
    have hcall : (w.call b c).registry = w.registry := hregistry
    obtain ⟨hregistry', hjournal'⟩ := callEach_recorded calls (w.call b c) (hcall ▸ h)
    refine ⟨hregistry'.trans hcall, hjournal'.trans ?_⟩
    have haffairs : journal (w.call b c).affairs =
        journal w.affairs ++ Notice.events (w.model.call c).notices := hjournal
    have hmodel : (w.call b c).model = (w.model.call c).result := rfl
    rw [haffairs, hmodel, List.append_assoc, List.flatMap_cons, enactAll_append,
      Noted.notices_bind, Notice.events_append, call_acts]

/-- Whatever calls a model that a text makes gets, an observer who only records has recorded
exactly the events that the calls have to announce, as long as the other observers only record or
fail. The registry stays as it is, and the model is the one that has no observers. -/
theorem callEach_told (c : Capacities) (text : String) (calls : List Invocation)
    {r : Registry κ} (h : Recorded b r recorder journal) (s : σ) :
    (∃ es, Told 0 (ofText c text).result (calls.flatMap Invocation.acts) es ∧
      journal (callEach b ⟨(ofText c text).result, r, s⟩ calls).affairs = journal s ++ es) ∧
    (callEach b ⟨(ofText c text).result, r, s⟩ calls).registry = r ∧
    (callEach b ⟨(ofText c text).result, r, s⟩ calls).model =
      (callEach b ⟨(ofText c text).result, .empty, s⟩ calls).model := by
  obtain ⟨hregistry, hjournal⟩ := callEach_recorded calls ⟨(ofText c text).result, r, s⟩ h
  have hstart : (ofText c text).result.clock.step = 0 := by
    obtain ⟨m, hm, hpristine⟩ := ofText_pristine c text
    have hclock : m.record.clock = .start := hpristine.clock
    rw [hm, hclock]
    rfl
  have htold := enactAll_told (calls.flatMap Invocation.acts) (ofText c text).result
  rw [hstart] at htold
  refine ⟨⟨_, htold, hjournal⟩, hregistry, ?_⟩
  rw [callEach_model, callEach_model]

/-- One observer, `log`, who records, and others, who fail. -/
def crew : Behaviour String (List Event) Event where
  react seen k e := if k = "log" then (seen ++ [e], ⟨[], false⟩) else (seen, ⟨[], true⟩)
  display := id
  eventName := Event.name

/-- Nine steps of a model that ends after five, a reset, and one step more. -/
def watch : List Invocation := [.run (.whole 9) (.real 1.0), .reset, .step (.real 0.5)]

theorem callEach_told_counter :
    Recorded crew ⟨["bell", "log", "bell"]⟩ "log" id ∧
      ∃ es, Told 0 (ofText .default counter).result (watch.flatMap Invocation.acts) es ∧
        (callEach crew ⟨(ofText .default counter).result, ⟨["bell", "log", "bell"]⟩, []⟩
          watch).affairs = es := by
  have hrecorded : Recorded crew ⟨["bell", "log", "bell"]⟩ "log" id := by
    constructor
    · rfl
    · intro s e
      rfl
    · intro k hk hother s e
      exact congrArg Prod.fst (if_neg hother)
    · intro k hk s e
      simp only [crew]
      split <;> rfl
  obtain ⟨es, hes, hjournal⟩ := (callEach_told .default counter watch hrecorded []).1
  exact ⟨hrecorded, es, hes, hjournal⟩

example : ((callEach crew ⟨(ofText .default counter).result, ⟨["bell", "log", "bell"]⟩, []⟩
      watch).affairs.map fun e => (e.name, match e with
        | .step t n _ | .terminated t n | .reset t n => (t, n))) =
    [("step", 1.0, 1), ("step", 2.0, 2), ("step", 3.0, 3), ("step", 4.0, 4), ("step", 5.0, 5),
      ("terminated", 5.0, 5), ("reset", 0.0, 0), ("step", 0.5, 1)] := by
  decide +kernel

end Watched

end SystemDynamics
