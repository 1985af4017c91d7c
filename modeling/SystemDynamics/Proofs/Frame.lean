import SystemDynamics.Proofs.Evaluating
import SystemDynamics.Proofs.Outcome

/-!
# The slots that an expression uses

The delay calls of an expression own slots of the arena. Evaluating the expression changes no
other slot and depends on no other (`Evaluation.within_answer`), whether it fails or not, and it
never changes what a slot is labelled with. So what formulas, flows and conditions come to, and what
they leave in their slots, is not changed by whoever uses other slots before them.
-/

namespace SystemDynamics

/-- The slots at the places are the same in both arenas. -/
def AgreeOn (places : List Nat) (s t : List Slot) : Prop := ∀ i ∈ places, s[i]? = t[i]?

/-- The computation uses the slots at the places and no others. -/
structure Evaluation.Within {α : Type} (places : List Nat) (e : Evaluation α) : Prop where
  labels : ∀ m, (e.run m).2.slots.map Slot.clear = m.slots.map Slot.clear
  frame : ∀ m, ∀ i ∉ places, (e.run m).2.slots[i]? = m.slots[i]?
  determined : ∀ {m n}, AgreeOn places m.slots n.slots →
    (e.run m).1 = (e.run n).1 ∧ AgreeOn places (e.run m).2.slots (e.run n).2.slots

namespace Evaluation

variable {α β : Type} {places : List Nat}

theorem Within.bind {e : Evaluation α} {f : α → Evaluation β} (he : Within places e)
    (hf : ∀ a, Within places (f a)) : Within places (e >>= f) where
  labels m := by
    rw [run_bind, ← he.labels m]
    rcases e.run m with ⟨x | a, n⟩
    · rfl
    · exact (hf a).labels n
  frame m i hi := by
    rw [run_bind, ← he.frame m i hi]
    rcases e.run m with ⟨x | a, n⟩
    · rfl
    · exact (hf a).frame n i hi
  determined {m n} hmn := by
    rw [run_bind, run_bind]
    obtain ⟨hr, hs⟩ := he.determined hmn
    rcases hm : e.run m with ⟨x | a, m'⟩ <;> rcases hn : e.run n with ⟨y | b, n'⟩ <;>
      rw [hm, hn] at hr hs <;> cases hr
    · exact ⟨rfl, hs⟩
    · exact (hf a).determined hs

/-- A computation that leaves the slots as they are, and does not read them. -/
theorem within_of_slots {e : Evaluation α} (hs : ∀ m, (e.run m).2.slots = m.slots)
    (hr : ∀ m n, (e.run m).1 = (e.run n).1) : Within places e where
  labels m := by rw [hs]
  frame m i _ := by rw [hs]
  determined {m n} hmn := ⟨hr m n, by rwa [hs, hs]⟩

theorem within_outcome (r : Except Fault α) : Within places (outcome r) :=
  within_of_slots (fun _ => rfl) fun _ _ => rfl

theorem within_failLookup (source message : String) (time : Option Float) :
    Within places (failLookup source message time) :=
  within_of_slots (fun _ => rfl) fun _ _ => rfl

/-- What a delay call gives and what its slot holds from then on. -/
def delayed (c : Clock) (kind : DelayKind) (value parameter : Except Fault Float)
    (place : Slot) : Except Fault (Output Float) × Slot :=
  match value, parameter with
  | .error e, _ => (.error e, place.wake)
  | .ok _, .error e => (.error e, place.wake)
  | .ok x, .ok y =>
    ((kind.advance c.time c.dt place.wake.current x y).2,
      { place.wake with state := some (kind.advance c.time c.dt place.wake.current x y).1 })

theorem delay_run {c : Clock} {m : Memory} {slot : Nat} {place : Slot}
    (h : m.slots[slot]? = some place) (kind : DelayKind) (value parameter : Except Fault Float) :
    (delay (some c) kind slot value parameter).run m =
      ((delayed c kind value parameter place).1,
        { m with slots := m.slots.set slot (delayed c kind value parameter place).2 }) := by
  have hget : (get : Evaluation Memory).run m = (.ok m, m) := rfl
  unfold delay
  rw [run_bind, hget]
  simp only [h]
  rcases value with e | x
  · rfl
  · rcases parameter with e | y
    · rfl
    · change (_, ({ m with slots := (m.slots.set slot place.wake).set slot _ } : Memory)) = _
      rw [List.set_set]
      rfl

theorem delayed_clear (c : Clock) (kind : DelayKind) (value parameter : Except Fault Float)
    (place : Slot) : (delayed c kind value parameter place).2.clear = place.clear := by
  rcases value with _ | _ <;> rcases parameter with _ | _ <;> rfl

theorem delay_run_none {m : Memory} {slot : Nat} (h : m.slots[slot]? = none) (clock : Option Clock)
    (kind : DelayKind) (value parameter : Except Fault Float) :
    (delay clock kind slot value parameter).run m = (.error .noSuchElement, m) := by
  have hget : (get : Evaluation Memory).run m = (.ok m, m) := rfl
  unfold delay
  rw [run_bind, hget]
  simp only [h]
  rcases clock with _ | c <;> rfl

theorem set_map_clear {slots : List Slot} {i : Nat} {place other : Slot}
    (h : slots[i]? = some place) (hclear : other.clear = place.clear) :
    (slots.set i other).map Slot.clear = slots.map Slot.clear := by
  refine List.ext_getElem? fun j => ?_
  rw [List.getElem?_map, List.getElem?_map, List.getElem?_set]
  split
  · rename_i hij
    subst hij
    obtain ⟨hi, -⟩ := List.getElem?_eq_some_iff.1 h
    rw [if_pos hi, h, Option.map_some, Option.map_some, hclear]
  · rfl

theorem within_delay (clock : Option Clock) (kind : DelayKind) {slot : Nat}
    (hslot : slot ∈ places) (value parameter : Except Fault Float) :
    Within places (delay clock kind slot value parameter) := by
  rcases clock with _ | c
  · exact within_of_slots (fun _ => rfl) fun _ _ => rfl
  constructor
  · intro m
    rcases h : m.slots[slot]? with _ | place
    · rw [delay_run_none h]
    · rw [delay_run h]
      exact set_map_clear h (delayed_clear _ _ _ _ _)
  · intro m i hi
    have hne : slot ≠ i := fun heq => hi (heq ▸ hslot)
    rcases h : m.slots[slot]? with _ | place
    · rw [delay_run_none h]
    · rw [delay_run h]
      exact List.getElem?_set_ne hne
  · intro m n hmn
    rcases h : m.slots[slot]? with _ | place
    · rw [delay_run_none h, delay_run_none ((hmn slot hslot).symm.trans h)]
      exact ⟨rfl, hmn⟩
    · have h' := (hmn slot hslot).symm.trans h
      rw [delay_run h, delay_run h']
      refine ⟨rfl, fun i hi => ?_⟩
      simp only [List.getElem?_set, (List.getElem?_eq_some_iff.1 h).1,
        (List.getElem?_eq_some_iff.1 h').1, hmn i hi]

/-- The computations that evaluating is made of use the slots of their delay calls only. -/
theorem closed_within (s : Scope) (calls : List (DelayKind × Nat)) :
    Closed s calls fun _ e => Within (calls.map Prod.snd) e where
  bind := Within.bind
  outcome := within_outcome
  failLookup message _ := within_failLookup _ message _
  delay kind _ value parameter hcall :=
    within_delay _ kind (List.mem_map_of_mem hcall) value parameter

/-- Evaluating an expression uses the slots of its own delay calls only. -/
theorem within_answer (s : Scope) (c : Code) (purpose : Purpose) :
    Within c.owned (Formula.answer s c purpose) := by
  rw [← c.map_delays]
  exact (closed_within s c.delays).answer (List.Subset.refl _) purpose

end Evaluation

/-- The function of the arena uses the slots at the places and no others. -/
structure UsesOnly {α : Type} (places : List Nat) (g : List Slot → α × List Slot) : Prop where
  labels : ∀ slots, (g slots).2.map Slot.clear = slots.map Slot.clear
  frame : ∀ slots, ∀ i ∉ places, (g slots).2[i]? = slots[i]?
  determined : ∀ {slots others}, AgreeOn places slots others →
    (g slots).1 = (g others).1 ∧ AgreeOn places (g slots).2 (g others).2

theorem AgreeOn.symm {places : List Nat} {s t : List Slot} (h : AgreeOn places s t) :
    AgreeOn places t s := fun i hi => (h i hi).symm

theorem AgreeOn.trans {places : List Nat} {s t u : List Slot} (h : AgreeOn places s t)
    (h' : AgreeOn places t u) : AgreeOn places s u := fun i hi => (h i hi).trans (h' i hi)

namespace UsesOnly

variable {α β : Type} {places : List Nat} {g : List Slot → α × List Slot}

theorem of_unused (a : α) : UsesOnly places fun slots => (a, slots) :=
  ⟨fun _ => rfl, fun _ _ _ => rfl, fun h => ⟨rfl, h⟩⟩

theorem map (h : UsesOnly places g) (f : α → β) :
    UsesOnly places fun slots => (f (g slots).1, (g slots).2) :=
  ⟨h.labels, h.frame, fun hs =>
    ⟨congrArg f (h.determined hs).1, (h.determined hs).2⟩⟩

/-- Slots that the function does not use agree after it where they did before. -/
theorem agree_after (h : UsesOnly places g) {others : List Nat}
    (hapart : ∀ i ∈ others, i ∉ places) (slots : List Slot) :
    AgreeOn others (g slots).2 slots := fun i hi => h.frame slots i (hapart i hi)

end UsesOnly

/-- The slots of the delay calls in a formula. -/
def Formula.owned (f : Formula) : List Nat :=
  match f.body with
  | .ok c => c.owned
  | .error _ => []

/-- The slots of the delay calls in the rate of a flow. -/
def Flow.owned (f : Flow) : List Nat :=
  match f.rate with
  | .formula g => g.owned
  | .fixed _ | .supplied _ => []

/-- The slots of the delay calls in a condition. -/
def Condition.owned : Condition → List Nat
  | formula f => f.owned
  | supplied _ => []

/-- The slots of the delay calls in the condition that ends a run. -/
def ownedByEnd : Option Condition → List Nat
  | none => []
  | some c => c.owned

/-- The kinds and the slots of the delay calls in a formula. -/
def Formula.delays (f : Formula) : List (DelayKind × Nat) :=
  match f.body with
  | .ok c => c.delays
  | .error _ => []

/-- The kinds and the slots of the delay calls in the rate of a flow. -/
def Flow.delays (f : Flow) : List (DelayKind × Nat) :=
  match f.rate with
  | .formula g => g.delays
  | .fixed _ | .supplied _ => []

/-- The kinds and the slots of the delay calls in a condition. -/
def Condition.delays : Condition → List (DelayKind × Nat)
  | formula f => f.delays
  | supplied _ => []

theorem Formula.map_delays (f : Formula) : f.delays.map Prod.snd = f.owned := by
  unfold delays owned
  rcases f.body with e | c
  · rfl
  · exact c.map_delays

theorem Flow.map_delays (f : Flow) : f.delays.map Prod.snd = f.owned := by
  unfold delays owned
  rcases f.rate with x | g | p
  · rfl
  · exact g.map_delays
  · rfl

theorem Condition.map_delays : ∀ c : Condition, c.delays.map Prod.snd = c.owned
  | formula f => f.map_delays
  | supplied _ => rfl

/-- The answer of a formula, the one without fault if there is one. -/
def Formula.settled (f : Formula) : Except Fault Answer → Answer
  | .ok v => v
  | .error _ => f.purpose.fallback

theorem Formula.read_of_body {f : Formula} {c : Code} (h : f.body = .ok c) (s : Scope)
    (slots : List Slot) :
    f.read s slots =
      (f.settled ((Formula.answer s c f.purpose).run ⟨slots, []⟩).1,
        ((Formula.answer s c f.purpose).run ⟨slots, []⟩).2.slots) := by
  simp only [read, evaluate, h]
  rcases (Formula.answer s c f.purpose).run ⟨slots, []⟩ with ⟨e | v, m⟩ <;> rfl

theorem Formula.usesOnly_read (f : Formula) (s : Scope) : UsesOnly f.owned (f.read s) := by
  rcases hb : f.body with e | c
  · have hread : f.read s = fun slots => (f.purpose.fallback, slots) := by
      funext slots
      simp only [read, evaluate, hb]
    rw [hread]
    exact .of_unused _
  · have howned : f.owned = c.owned := by simp only [owned, hb]
    have hw := Evaluation.within_answer s c f.purpose
    rw [howned]
    constructor
    · intro slots
      rw [read_of_body hb]
      exact hw.labels _
    · intro slots i hi
      rw [read_of_body hb]
      exact hw.frame _ i hi
    · intro slots others hs
      rw [read_of_body hb, read_of_body hb]
      obtain ⟨hr, ha⟩ := hw.determined (m := ⟨slots, []⟩) (n := ⟨others, []⟩) hs
      exact ⟨congrArg f.settled hr, ha⟩

theorem Flow.usesOnly_amountIn (f : Flow) (dt : Float) (s : Scope) :
    UsesOnly f.owned fun slots => f.amountIn dt s slots := by
  unfold amountIn owned
  rcases f.rate with x | g | p
  · exact .of_unused _
  · exact (g.usesOnly_read s).map fun a => a.amount * dt
  · exact .of_unused _

theorem usesOnly_endIn (c : Option Condition) (s : Scope) :
    UsesOnly (ownedByEnd c) fun slots => endIn s slots c := by
  rcases c with _ | f | p
  · exact .of_unused _
  · exact (f.usesOnly_read s).map Answer.holds
  · exact .of_unused _

theorem transfersIn_labels (dt : Float) (s : Scope) :
    ∀ (es : List (String × Flow)) (slots : List Slot),
      (transfersIn dt s es slots).2.map Slot.clear = slots.map Slot.clear
  | [], _ => rfl
  | (_, f) :: rest, slots =>
    (transfersIn_labels dt s rest (f.amountIn dt s slots).2).trans
      ((f.usesOnly_amountIn dt s).labels slots)

end SystemDynamics
