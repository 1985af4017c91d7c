import SystemDynamics.Proofs.Sums
import SystemDynamics.Proofs.Calls
import SystemDynamics.Proofs.DelayRange

/-!
# What the delay slots hold

A slot that is in use holds a state of its own kind, with samples in the order of their times, none
later than the clock; a smoothing slot has an output exactly if it has a sample, and the others have
none (`DelayState.Sound`). Each kernel keeps this when it is called at the time of the clock
(`DelayKind.advance_sound`): it adds its sample at the end and drops the oldest ones only, and
smoothing never drops the sample it has just added, since a difference is not rounded up beyond its
first number. A delay call in a formula always has a slot of its own kind, since loading has claimed
it so (`Loads.ofKinds`), and the clock never goes back. So all slots are sound after any calls
(`Model.after_arena`).
-/

namespace SystemDynamics

/-- What a delay can remember at a time. -/
structure DelayState.Sound (now : Float) (s : DelayState Float) : Prop where
  ascending : s.samples.Pairwise fun p q => p.1 ≤ q.1
  past : ∀ p ∈ s.samples, p.1 ≤ now
  smoothing : s.kind = DelayKind.smooth.name → (s.smoothed.isSome = true ↔ s.samples ≠ [])
  other : s.kind = DelayKind.transport.name ∨ s.kind = DelayKind.gradual.name → s.smoothed = none

/-- A slot is empty, or holds what a delay of its kind can remember at a time. -/
def Slot.Sound (now : Float) (place : Slot) : Prop :=
  ∀ s, place.state = some s → s.kind = place.kind ∧ s.Sound now

namespace DelayState

variable {s : DelayState Float} {now value parameter : Float}

theorem sound_fresh (now : Float) (kind : String) : (fresh kind : DelayState Float).Sound now where
  ascending := .nil
  past _ hp := absurd hp List.not_mem_nil
  smoothing _ := iff_of_false Bool.false_ne_true fun h => h rfl
  other _ := rfl

/-- Time goes on. -/
theorem Sound.later {later : Float} (h : s.Sound now) (hle : now ≤ later) : s.Sound later :=
  ⟨h.ascending, fun p hp => le_of_le_of_le (h.past p hp) hle, h.smoothing, h.other⟩

/-- A state whose samples are some of those before and one that is taken now. -/
theorem Sound.of_sublist (h : s.Sound now) (hnow : now ≤ now) {t : DelayState Float}
    (hsamples : t.samples.Sublist (s.add now value).samples)
    (hsmoothing : t.kind = DelayKind.smooth.name → (t.smoothed.isSome = true ↔ t.samples ≠ []))
    (hother : t.kind = DelayKind.transport.name ∨ t.kind = DelayKind.gradual.name →
      t.smoothed = none) : t.Sound now := by
  have hlast : ∀ p ∈ s.samples, ∀ q ∈ [(now, value)], p.1 ≤ q.1 := by
    intro p hp q hq
    rw [List.mem_singleton.1 hq]
    exact h.past p hp
  have hascending : (s.add now value).samples.Pairwise fun p q => p.1 ≤ q.1 :=
    List.pairwise_append.2 ⟨h.ascending, List.pairwise_singleton _ _, hlast⟩
  refine ⟨hascending.sublist hsamples, fun p hp => ?_, hsmoothing, hother⟩
  rcases List.mem_append.1 (hsamples.subset hp) with hp | hp
  · exact h.past p hp
  · rw [List.mem_singleton.1 hp]
    exact hnow

/-- A sample that was not taken before the time is not dropped. -/
theorem dropBefore_ne_nil {time : Float} (h : ¬ now < time) :
    dropBefore time (s.add now value).samples ≠ [] := by
  intro hnil
  have hall := List.dropWhile_eq_nil_iff.1 hnil
  exact h (of_decide_eq_true (hall (now, value) (List.mem_append_right _ (.head _))))

/-- Smoothing drops samples, but not the one that it has just added. -/
theorem Sound.smooth (h : s.Sound now) (hkind : s.kind = DelayKind.smooth.name)
    (hnow : 0.0 ≤ now) (value parameter dt : Float) :
    (s.smooth value parameter now dt).1.Sound now := by
  have hself := le_self (not_nan_of_le hnow).2
  have hother : ¬ (s.kind = DelayKind.transport.name ∨ s.kind = DelayKind.gradual.name) := by
    rw [hkind]
    decide
  have hkept : ∀ {time output : Float}, ¬ now < time →
      ({ s.add now value with
          samples := dropBefore time (s.add now value).samples
          smoothed := some output } : DelayState Float).Sound now := by
    intro time output htime
    refine h.of_sublist hself (dropBefore_sublist time _) (fun _ => ?_) fun hkind' =>
      absurd hkind' hother
    exact ⟨fun _ => dropBefore_ne_nil htime, fun _ => rfl⟩
  unfold DelayState.smooth
  simp only
  split
  · exact hkept (not_lt_of_le hself)
  · rename_i hparameter
    have hretention : NonNegative (smoothRetention : Float).toModel.unpack :=
      nonNegative_of_le (by decide)
    refine hkept (not_lt_sub hnow (notNegative_mul hretention ?_))
    exact notNegative_of_not_le fun hle => hparameter (decide_eq_true hle)

/-- The other delays have no output of their own to keep. -/
theorem Sound.of_kept (h : s.Sound now) (hnow : now ≤ now) (hkind : s.kind ≠ DelayKind.smooth.name)
    (hother : s.smoothed = none) {kept : List (Float × Float)}
    (hkept : kept.Sublist (s.add now value).samples) :
    ({ s.add now value with samples := kept } : DelayState Float).Sound now :=
  h.of_sublist hnow hkept (fun hkind' => absurd hkind' hkind) fun _ => hother

theorem Sound.transport (h : s.Sound now) (hkind : s.kind = DelayKind.transport.name)
    (hnow : now ≤ now) (value lag : Float) : (s.transport value lag now).1.Sound now := by
  have hne : s.kind ≠ DelayKind.smooth.name := by
    rw [hkind]
    decide
  have hother := h.other (.inl hkind)
  unfold DelayState.transport
  simp only
  split
  · exact h.of_kept hnow hne hother (dropBefore_sublist _ _)
  · exact h.of_kept hnow hne hother (dropUpTo_sublist _ _)

theorem Sound.gradual (h : s.Sound now) (hkind : s.kind = DelayKind.gradual.name)
    (hnow : now ≤ now) (bell : Float → Float) (value lag : Float) :
    (s.gradual bell value lag now).1.Sound now := by
  have hne : s.kind ≠ DelayKind.smooth.name := by
    rw [hkind]
    decide
  have hother := h.other (.inr hkind)
  unfold DelayState.gradual
  simp only
  split <;> exact h.of_kept hnow hne hother (dropBefore_sublist _ _)

theorem smooth_kind (s : DelayState Float) (value parameter now dt : Float) :
    (s.smooth value parameter now dt).1.kind = s.kind := by
  unfold smooth
  simp only
  split <;> rfl

theorem transport_kind (s : DelayState Float) (value lag now : Float) :
    (s.transport value lag now).1.kind = s.kind := by
  unfold transport
  simp only
  split <;> rfl

theorem gradual_kind (s : DelayState Float) (bell : Float → Float) (value lag now : Float) :
    (s.gradual bell value lag now).1.kind = s.kind := by
  unfold gradual
  simp only
  split <;> rfl

end DelayState

/-- A transport delay without an output fails, and leaves its state all the same. -/
theorem DelayKind.advance_transport (time dt : Float) (s : DelayState Float) (value lag : Float) :
    transport.advance time dt s value lag = ((s.transport value lag time).1,
      (s.transport value lag time).2.elim (.error .noSuchSample) .ok) := by
  unfold advance
  rcases s.transport value lag time with ⟨t, _ | y⟩ <;> rfl

/-- A delay leaves a sound state of its kind, whether it gives an output or not. -/
theorem DelayKind.advance_sound (kind : DelayKind) {s : DelayState Float} {now : Float}
    (h : s.Sound now) (hkind : s.kind = kind.name) (hnow : 0.0 ≤ now)
    (dt value parameter : Float) :
    (kind.advance now dt s value parameter).1.kind = s.kind ∧
      (kind.advance now dt s value parameter).1.Sound now := by
  have hself := le_self (not_nan_of_le hnow).2
  rcases kind with _ | _ | _
  · exact ⟨s.smooth_kind value parameter now dt, h.smooth hkind hnow value parameter dt⟩
  · rw [advance_transport]
    exact ⟨s.transport_kind value parameter now, h.transport hkind hself value parameter⟩
  · exact ⟨s.gradual_kind Float.exp value parameter now,
      h.gradual hkind hself Float.exp value parameter⟩

namespace Slot

variable {place : Slot} {now : Float}

theorem sound_clear (place : Slot) (now : Float) : place.clear.Sound now := fun _ h => nomatch h

theorem Sound.current (h : place.Sound now) :
    place.current.kind = place.kind ∧ place.current.Sound now := by
  rcases hs : place.state with _ | s
  · rw [Slot.current, hs]
    exact ⟨rfl, DelayState.sound_fresh now _⟩
  · rw [Slot.current, hs]
    exact h s hs

theorem Sound.later {later : Float} (h : place.Sound now) (hle : now ≤ later) :
    place.Sound later := fun s hs => ⟨(h s hs).1, (h s hs).2.later hle⟩

end Slot

namespace Evaluation

/-- A delay call leaves a sound slot of its kind, whatever comes of it. -/
theorem delayed_sound {c : Clock} (hc : 0.0 ≤ c.time) {kind : DelayKind} {place : Slot}
    (h : place.Sound c.time) (hkind : place.kind = kind.name)
    (value parameter : Except Fault Float) :
    (delayed c kind value parameter place).2.Sound c.time := by
  have hwake : place.wake.Sound c.time := by
    intro s hs
    obtain rfl : place.current = s := Option.some.inj hs
    exact h.current
  rcases value with e | x
  · exact hwake
  · rcases parameter with e | y
    · exact hwake
    · intro s hs
      obtain rfl := Option.some.inj hs
      have hcurrent : place.wake.current = place.current := rfl
      rw [hcurrent]
      obtain ⟨hsame, hsound⟩ := h.current
      obtain ⟨hkept, hnext⟩ := kind.advance_sound hsound (hsame.trans hkind) hc c.dt x y
      exact ⟨hkept.trans hsame, hnext⟩

end Evaluation

/-- The delay calls have slots of their kinds. -/
def OfKinds (calls : List (DelayKind × Nat)) (slots : List Slot) : Prop :=
  ∀ d ∈ calls, slots[d.2]?.map Slot.kind = some d.1.name

/-- The slots of an arena at a time: the delay calls have slots of their kinds, and all slots are
sound. -/
structure SoundArena (now : Float) (calls : List (DelayKind × Nat)) (slots : List Slot) : Prop where
  kinds : OfKinds calls slots
  sound : ∀ place ∈ slots, place.Sound now

/-- The kinds of the slots are a matter of what they are labelled with. -/
theorem OfKinds.of_clear {calls : List (DelayKind × Nat)} {s t : List Slot} (h : OfKinds calls s)
    (hclear : t.map Slot.clear = s.map Slot.clear) : OfKinds calls t := by
  intro d hd
  have hget := congrArg (fun places : List Slot => places[d.2]?.map Slot.kind) hclear
  simp only [List.getElem?_map, Option.map_map] at hget
  exact Eq.trans hget (h d hd)

namespace SoundArena

variable {now : Float} {calls : List (DelayKind × Nat)} {slots : List Slot} {s : Scope} {c : Clock}

theorem later {later : Float} (h : SoundArena now calls slots) (hle : now ≤ later) :
    SoundArena later calls slots :=
  ⟨h.kinds, fun place hp => (h.sound place hp).later hle⟩

theorem set (h : SoundArena now calls slots) {i : Nat} {place other : Slot}
    (hplace : slots[i]? = some place) (hclear : other.clear = place.clear)
    (hother : other.Sound now) : SoundArena now calls (slots.set i other) where
  kinds := h.kinds.of_clear (Evaluation.set_map_clear hplace hclear)
  sound p hp := by
    rcases List.mem_or_eq_of_mem_set hp with hp | rfl
    · exact h.sound p hp
    · exact hother

/-- What evaluating is made of keeps the arena sound at the time of the clock. -/
theorem closed (hs : s.clock = some c) (hc : 0.0 ≤ c.time) (calls : List (DelayKind × Nat)) :
    Evaluation.Closed s calls fun _ e => ∀ m : Memory, SoundArena c.time calls m.slots →
      SoundArena c.time calls (e.run m).2.slots where
  bind {α β e f} he hf m h := by
    have hnext := he m h
    rw [run_bind]
    rcases hr : e.run m with ⟨x | a, n⟩ <;> rw [hr] at hnext
    · exact hnext
    · exact hf a n hnext
  outcome _ _ h := h
  failLookup _ _ _ h := h
  delay kind slot value parameter hcall m h := by
    rw [hs]
    rcases hplace : m.slots[slot]? with _ | place
    · rw [Evaluation.delay_run_none hplace]
      exact h
    · have hkind := h.kinds _ hcall
      rw [hplace] at hkind
      rw [Evaluation.delay_run hplace]
      exact h.set hplace (Evaluation.delayed_clear c kind value parameter place)
        (Evaluation.delayed_sound hc (h.sound place (List.mem_of_getElem? hplace))
          (Option.some.inj hkind) value parameter)

theorem read (h : SoundArena c.time calls slots) (hs : s.clock = some c) (hc : 0.0 ≤ c.time)
    {f : Formula} (hf : f.delays ⊆ calls) : SoundArena c.time calls (f.read s slots).2 := by
  rcases hb : f.body with e | code
  · have hread : f.read s slots = (f.purpose.fallback, slots) := by
      simp only [Formula.read, Formula.evaluate, hb]
    rw [hread]
    exact h
  · rw [Formula.delays, hb] at hf
    rw [Formula.read_of_body hb]
    exact (closed hs hc calls).answer hf f.purpose ⟨slots, []⟩ h

theorem amountIn (h : SoundArena c.time calls slots) (hs : s.clock = some c) (hc : 0.0 ≤ c.time)
    {f : Flow} (hf : f.delays ⊆ calls) (dt : Float) :
    SoundArena c.time calls (f.amountIn dt s slots).2 := by
  unfold Flow.delays at hf
  unfold Flow.amountIn
  rcases hr : f.rate with x | g | p
  · exact h
  · rw [hr] at hf
    exact h.read hs hc hf
  · exact h

theorem transfersIn (hs : s.clock = some c) (hc : 0.0 ≤ c.time) (dt : Float) :
    ∀ (es : List (String × Flow)) {slots : List Slot}, (∀ e ∈ es, e.2.delays ⊆ calls) →
      SoundArena c.time calls slots → SoundArena c.time calls (transfersIn dt s es slots).2
  | [], _, _, h => h
  | (name, f) :: rest, _, hes, h =>
    transfersIn hs hc dt rest (fun e he => hes e (.tail _ he))
      (h.amountIn hs hc (hes (name, f) (.head _)) dt)

theorem endIn (h : SoundArena c.time calls slots) (hs : s.clock = some c) (hc : 0.0 ≤ c.time)
    {condition : Option Condition} (hcalls : ∀ d ∈ condition, d.delays ⊆ calls) :
    SoundArena c.time calls (endIn s slots condition).2 := by
  rcases condition with _ | f | p
  · exact h
  · exact h.read hs hc (hcalls _ rfl)
  · exact h

end SoundArena

namespace Model

/-- The delay calls of the flows and of the condition that ends a run. -/
def delays (m : Model) : List (DelayKind × Nat) :=
  m.flows.entries.flatMap (fun e => e.2.delays) ++ m.termination.toList.flatMap Condition.delays

theorem flow_delays_subset (m : Model) : ∀ e ∈ m.flows.entries, e.2.delays ⊆ m.delays :=
  fun e he _ hd => List.mem_append_left _ (List.mem_flatMap.2 ⟨e, he, hd⟩)

theorem ending_delays_subset (m : Model) : ∀ c ∈ m.termination, c.delays ⊆ m.delays :=
  fun c hc _ hd => List.mem_append_right _ (List.mem_flatMap.2 ⟨c, Option.mem_toList.2 hc, hd⟩)

theorem Loads.ofKinds {d : Declaration} {m n : Model} (h : Loads d m n)
    (hm : OfKinds m.delays m.slots) : OfKinds n.delays n.slots := by
  intro call hcall
  cases h with
  | data => exact hm call hcall
  | stock s =>
    refine hm call ?_
    have hflows : (m.flows.map fun f => { f with
        source := f.source.forget d.name
        target := f.target.forget d.name }).entries.flatMap (fun e => e.2.delays) =
          m.flows.entries.flatMap (fun e => e.2.delays) :=
      List.flatMap_map ..
    unfold delays
    rw [← hflows]
    exact hcall
  | flow f slots diagnostics hext hclaimed =>
    rcases List.mem_append.1 hcall with hflow | hend
    · obtain ⟨e, he, hd⟩ := List.mem_flatMap.1 hflow
      rcases Table.mem_put he with rfl | he
      · exact (hclaimed call hd).2
      · exact hext.kind_kept (hm call (m.flow_delays_subset e he hd))
    · exact hext.kind_kept (hm call (List.mem_append_right _ hend))
  | ending c text slots diagnostics hext hclaimed =>
    rcases List.mem_append.1 hcall with hflow | hend
    · exact hext.kind_kept (hm call (List.mem_append_left _ hflow))
    · obtain ⟨condition, hcondition, hd⟩ := List.mem_flatMap.1 hend
      obtain rfl := List.mem_singleton.1 hcondition
      exact (hclaimed call hd).2

/-- The clock shows a time from zero on, and the arena is sound at that time. -/
structure Sound (m : Model) : Prop where
  time : 0.0 ≤ m.clock.time
  arena : SoundArena m.clock.time m.delays m.slots

/-- The flows are asked at the time before the step, the condition at the time after it. -/
theorem Sound.step {m : Model} (h : m.Sound) (dt : StepSize) : (m.step dt).result.Sound := by
  have hstart : (0.0 : Float) ≤ dt.value :=
    le_iff_order.2 (.inl (lt_iff_order.1 (dt.positive.mpr rfl)))
  rcases hrun : m.isTerminated with _ | _
  · have hlater : m.clock.time ≤ m.clock.time + dt.value := le_add h.time hstart
    have htime : 0.0 ≤ m.clock.time + dt.value := le_of_le_of_le h.time hlater
    have hfound : SoundArena m.clock.time m.delays (m.stepTransfers dt.value).2 :=
      SoundArena.transfersIn (c := (m.withStepSize dt.value).clock) rfl h.time dt.value _
        m.flow_delays_subset h.arena
    have hend : SoundArena (m.clock.time + dt.value) m.delays
        (endIn (m.moved dt.value).scope (m.stepTransfers dt.value).2 m.termination).2 :=
      (hfound.later hlater).endIn (c := (m.moved dt.value).clock) rfl htime
        m.ending_delays_subset
    obtain ⟨d, hd⟩ := m.advance_result dt
    rw [step_running hrun, hd]
    exact ⟨htime, hend⟩
  · rw [step_terminated hrun]
    exact h

theorem sound_of_clear {now : Float} {slots : List Slot} (h : slots.map Slot.clear = slots) :
    ∀ place ∈ slots, place.Sound now := by
  intro place hp
  rw [← h] at hp
  obtain ⟨other, -, rfl⟩ := List.mem_map.1 hp
  exact other.sound_clear now

/-- A reset empties the slots. -/
theorem Sound.reset {m : Model} (h : m.Sound) : m.reset.result.Sound where
  time := show (0.0 : Float) ≤ 0.0 by decide
  arena := ⟨h.arena.kinds.of_clear (clear_map_clear _), sound_of_clear (clear_map_clear _)⟩

theorem ofText_sound (c : Capacities) (text : String) : (ofText c text).result.Sound := by
  have hempty : OfKinds (empty c.history (.withCapacity c.diagnostics .warning)).delays [] :=
    fun _ hd => absurd hd List.not_mem_nil
  obtain ⟨m, hm, hpristine, hkinds⟩ := ofText_kept
    (P := fun m => m.Pristine ∧ OfKinds m.delays m.slots) c text ⟨pristine_empty _ _, hempty⟩
    fun _ _ _ _ hloads h => ⟨hloads.pristine h.1, hloads.ofKinds h.2⟩
  rw [hm]
  refine ⟨?_, hkinds, sound_of_clear hpristine.slots⟩
  change 0.0 ≤ m.clock.time
  rw [hpristine.clock]
  decide

/-- After any calls, the slots of a model that a text makes are those that the text has claimed,
labelled as they were, and what each one holds is what a delay of its kind can remember at the time
of the clock. -/
theorem after_arena (c : Capacities) (text : String) (calls : List Invocation) :
    (after c text calls).slots.map (fun place => (place.kind, place.label)) =
        (ofText c text).result.slots.map (fun place => (place.kind, place.label)) ∧
      ∀ place ∈ (after c text calls).slots, place.Sound (after c text calls).clock.time := by
  have hsound : (after c text calls).Sound := by
    rw [after, invokeAll_acts]
    exact actAll_kept (P := Sound) (fun dt h => h.step dt) (fun h => h.reset) _
      (ofText_sound c text)
  refine ⟨?_, hsound.arena.sound⟩
  have hclear : (after c text calls).slots.map Slot.clear =
      (ofText c text).result.slots.map Slot.clear :=
    congrArg slots (after_design c text calls)
  have hlabels := congrArg (List.map fun place => (place.kind, place.label)) hclear
  rw [List.map_map, List.map_map] at hlabels
  exact hlabels

/-- After a step the slot of a flow has a sample of the time before it, that of the condition one of
the time after it. -/
example : (after .default ("flow F \x7b\nrate: SMOOTH(1, 1)\n\x7d\n" ++
      "terminate \x7b\nwhen: DELAY(1, 1) > 1\n\x7d") [.step (.real 1.0)]).slots.map
    (fun place => (place.kind, place.current.samples.map Prod.fst)) =
      [("SMOOTH", [0.0]), ("DELAY", [1.0])] := by
  decide +kernel

end Model

end SystemDynamics
