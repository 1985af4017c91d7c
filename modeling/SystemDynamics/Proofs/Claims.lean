import SystemDynamics.Proofs.Frame
import SystemDynamics.Proofs.Places

/-!
# The slots that an expression claims

Compiling a text only adds empty slots at the end of the arena, and keeps those that it has added if
it fails (`Formula.compiled`). Every delay call in the resolved expression has one of them, of its
own kind (`Formula.compile_claims`), so two expressions that are compiled one after the other never
share a slot.
-/

namespace SystemDynamics

/-- The second arena is the first with empty slots behind it. -/
def Extends (s t : List Slot) : Prop :=
  ∃ added, t = s ++ added ∧ ∀ place ∈ added, place.state = none

theorem Extends.refl (s : List Slot) : Extends s s := ⟨[], by simp⟩

theorem Extends.length_le {s t : List Slot} (h : Extends s t) : s.length ≤ t.length := by
  obtain ⟨a, rfl, -⟩ := h
  simp

/-- A slot that is there keeps its kind. -/
theorem Extends.kind_kept {s t : List Slot} (h : Extends s t) {i : Nat} {kind : String}
    (hi : s[i]?.map Slot.kind = some kind) : t[i]?.map Slot.kind = some kind := by
  obtain ⟨added, rfl, -⟩ := h
  obtain ⟨place, hplace, -⟩ := Option.map_eq_some_iff.1 hi
  rwa [List.getElem?_append_left (List.getElem?_eq_some_iff.1 hplace).1]

/-- All the places have been added between the two arenas. -/
def NewIn (s t : List Slot) (places : List Nat) : Prop := ∀ i ∈ places, s.length ≤ i ∧ i < t.length

/-- The delay calls have slots that have been added between the two arenas, each one of its own
kind. -/
def Claimed (s t : List Slot) (calls : List (DelayKind × Nat)) : Prop :=
  ∀ d ∈ calls, s.length ≤ d.2 ∧ t[d.2]?.map Slot.kind = some d.1.name

theorem Claimed.nil (s t : List Slot) : Claimed s t [] := fun _ hd => absurd hd List.not_mem_nil

theorem Claimed.newIn {s t : List Slot} {calls : List (DelayKind × Nat)} (h : Claimed s t calls) :
    NewIn s t (calls.map Prod.snd) := by
  intro i hi
  obtain ⟨d, hd, rfl⟩ := List.mem_map.1 hi
  obtain ⟨hlow, hkind⟩ := h d hd
  obtain ⟨place, hplace, -⟩ := Option.map_eq_some_iff.1 hkind
  exact ⟨hlow, (List.getElem?_eq_some_iff.1 hplace).1⟩

/-- What reading a text and resolving its calls comes to, and the slots that there are then: a text
that is not read leaves them as they are, and one that is refused keeps those that it has claimed up
to the refused place. -/
inductive Formula.Compiled (site : Site) (text : String) (slots : List Slot) :
    Except SyntaxError Code × List Slot → Prop where
  | unread {e : SyntaxError} : Expr.parse text = .error e →
      Compiled site text slots (.error e, slots)
  | refused {x : Expr} {before after : List Place} {p : Place} {m : Misuse} :
      Expr.parse text = .ok x → x.places .operand = before ++ p :: after →
      (∀ q ∈ before, q.misuse? site.inModel = none) → p.misuse? site.inModel = some m →
      Compiled site text slots
        (.error (.misuse m), slots ++ Slot.numbered site.source [] (Place.kinds before))
  | resolved {x : Expr} {code : Code} : Expr.parse text = .ok x →
      (∀ p ∈ x.places .operand, p.misuse? site.inModel = none) →
      Allotted site slots.length (x.places .operand) code.calls →
      Compiled site text slots
        (.ok code, slots ++ Slot.numbered site.source [] (Place.kinds (x.places .operand)))

theorem Formula.compiled (site : Site) (text : String) (slots : List Slot) :
    Compiled site text slots (compile site text slots) := by
  unfold compile
  rcases hparse : Expr.parse text with e | x
  · exact .unread hparse
  · rcases (Expr.resolve_walks site).1 x ⟨slots, []⟩ with ⟨hall, code, hrun, hcode⟩ |
      ⟨before, p, after, m, hplaces, hbefore, hp, hrun⟩
    · simp only [hrun]
      exact .resolved hparse hall hcode
    · simp only [hrun]
      exact .refused hparse hplaces hbefore hp

theorem Slot.extends_numbered (slots : List Slot) (source : String)
    (earlier kinds : List DelayKind) : Extends slots (slots ++ numbered source earlier kinds) := by
  refine ⟨_, rfl, fun place hplace => ?_⟩
  obtain ⟨i, hi, rfl⟩ := List.mem_mapIdx.1 hplace
  rfl

namespace Code

/-- The kind and the slot of a delay call. -/
def claim? : Code → Option (DelayKind × Nat)
  | delay kind slot _ _ => some (kind, slot)
  | _ => none

mutual

theorem calls_claims : ∀ c : Code, c.calls.filterMap claim? = c.delays
  | number _ | name _ => rfl
  | unary _ x | math _ x | lookup x _ => calls_claims x
  | binary _ x y | logical _ x y | power x y | surfaceLookup x y _ => by
    simp only [calls, delays, List.filterMap_append, calls_claims x, calls_claims y]
  | choice x y z => by
    simp only [calls, delays, List.filterMap_append, calls_claims x, calls_claims y,
      calls_claims z]
  | extremum _ x xs => by
    simp only [calls, delays, List.filterMap_append, calls_claims x, calls_claimsOfAll xs]
  | delay kind slot x y => by
    simp only [calls, delays, List.filterMap_cons, claim?, List.filterMap_append, calls_claims x,
      calls_claims y]
  | inlineLookup x xs _ => by
    simp only [calls, delays, List.filterMap_append, calls_claims x, calls_claimsOfAll xs]

theorem calls_claimsOfAll : ∀ cs : List Code, (callsOfAll cs).filterMap claim? = delaysOfAll cs
  | [] => rfl
  | x :: xs => by
    simp only [callsOfAll, delaysOfAll, List.filterMap_append, calls_claims x,
      calls_claimsOfAll xs]

end

end Code

/-- The slots of delay calls go up from the number of those before. -/
theorem Allotted.claims {site : Site} {n : Nat} {ps : List Place} {codes : List Code}
    (h : Allotted site n ps codes) : codes.filterMap Code.claim? = (Place.kinds ps).zipIdx n := by
  unfold Allotted at h
  unfold Place.kinds
  generalize Place.calls ps = xs at h ⊢
  induction xs generalizing n codes with
  | nil =>
    cases h
    rfl
  | cons x xs ih =>
    rw [List.zipIdx_cons] at h
    cases h with
    | cons hx hxs =>
      cases hx with
      | call hkind _ _ =>
        rw [List.filterMap_cons, List.filterMap_cons, ih hxs]
        simp only [Code.claim?, Expr.delayKind?, hkind, List.zipIdx_cons]

/-- The delay calls of a formula have new slots; if its text is no expression, it may still have
claimed some. -/
theorem Formula.compile_claims (site : Site) (text : String) (slots : List Slot) :
    Extends slots (Formula.compile site text slots).2 ∧
      ∀ code, (Formula.compile site text slots).1 = .ok code →
        Claimed slots (Formula.compile site text slots).2 code.delays := by
  have hcompiled := compiled site text slots
  generalize compile site text slots = result at hcompiled ⊢
  cases hcompiled with
  | unread => exact ⟨.refl _, nofun⟩
  | refused => exact ⟨Slot.extends_numbered _ _ _ _, nofun⟩
  | @resolved x code _ _ hcode =>
    refine ⟨Slot.extends_numbered _ _ _ _, ?_⟩
    rintro _ ⟨⟩ d hd
    rw [← code.calls_claims, hcode.claims, List.mem_zipIdx_iff_le_and_getElem?_sub] at hd
    obtain ⟨hle, hd⟩ := hd
    refine ⟨hle, ?_⟩
    rw [List.getElem?_append_right hle, Slot.numbered, List.getElem?_mapIdx, hd]
    rfl

/-- A formula owns new slots only; if its text is no expression, it may still have claimed some. -/
theorem Formula.compile_ensures (site : Site) (text : String) (slots : List Slot) :
    Extends slots (Formula.compile site text slots).2 ∧
      ∀ code, (Formula.compile site text slots).1 = .ok code →
        NewIn slots (Formula.compile site text slots).2 code.owned := by
  obtain ⟨hext, hclaimed⟩ := compile_claims site text slots
  refine ⟨hext, fun code h => ?_⟩
  rw [← code.map_delays]
  exact (hclaimed code h).newIn

end SystemDynamics
