import Mathlib.Data.List.Forall2
import SystemDynamics.Proofs.Evaluating
/-!
# The places of an expression

Resolving an expression goes through its nodes in the order of the text, a call before what it is
called with, inline tables included (`Expr.places`). At each place it is clear from the node and
from the part that it plays whether it is refused (`Place.misuse?`). So resolving comes to its end
exactly if no place is refused, and otherwise fails as the first refused place does; either way it
has claimed one slot for every delay call that it has come across (`Expr.resolve_walks`).
-/

namespace SystemDynamics

/-! ## Nodes and their parts -/

/-- The part that a node plays: a value, the table of a lookup, a point of such a table, or the
name of a surface. -/
inductive Role where
  | operand | table | point | surface
  deriving DecidableEq

namespace Role

/-- The part of an argument of a function. -/
def argument (b : Option Builtin) (index : Nat) : Role :=
  match b, index with
  | some .lookup, 1 => table
  | some .surfaceLookup, 2 => surface
  | _, _ => operand

/-- The part of the items of a list. -/
def item : Role → Role
  | table => point
  | operand | point | surface => operand

end Role

/-- A node of an expression in its part. -/
structure Place where
  role : Role
  node : Expr

namespace Expr

mutual

/-- The nodes of an expression with their parts, each before those below it. -/
def places (role : Role) : Expr → List Place
  | .number x => [⟨role, .number x⟩]
  | .text s => [⟨role, .text s⟩]
  | .name n => [⟨role, .name n⟩]
  | .unary op x => ⟨role, .unary op x⟩ :: places .operand x
  | .binary op x y => ⟨role, .binary op x y⟩ :: (places .operand x ++ places .operand y)
  | .logical op x y => ⟨role, .logical op x y⟩ :: (places .operand x ++ places .operand y)
  | .choice x y z =>
    ⟨role, .choice x y z⟩ :: (places .operand x ++ (places .operand y ++ places .operand z))
  | .call f xs => ⟨role, .call f xs⟩ :: placesOfAll (Role.argument (Builtin.ofName? f)) xs
  | .list xs => ⟨role, .list xs⟩ :: placesOfAll (fun _ => role.item) xs

/-- The nodes of several expressions. -/
def placesOfAll (roles : Nat → Role) : List Expr → List Place
  | [] => []
  | x :: xs => places (roles 0) x ++ placesOfAll (fun i => roles (i + 1)) xs

end

/-- The kind of delay that a call is for. -/
def delayKind? : Expr → Option DelayKind
  | .call f _ => DelayKind.ofName? f
  | _ => none

end Expr

/-- Why a place is refused. -/
def Place.misuse? (inModel : Bool) (p : Place) : Option Misuse :=
  match p.role with
  | .operand =>
    match p.node with
    | .text s => some (.textOutsideTableName s)
    | .list _ => some .listOutsideTable
    | .call f xs =>
      match Builtin.ofName? f with
      | none => some (.unknownFunction f)
      | some b => b.misuse? f xs.length inModel
    | _ => none
  | .table =>
    match p.node with
    | .name _ | .text _ | .list _ => none
    | _ => some .notATable
  | .point =>
    match p.node with
    | .list [_, _] => none
    | _ => some .notAPoint
  | .surface =>
    match p.node with
    | .name _ | .text _ => none
    | _ => some .notASurfaceName

namespace Place

/-- The delay calls among the places. -/
def calls (ps : List Place) : List Expr := (ps.map node).filter fun x => x.delayKind?.isSome

/-- The kinds of the delay calls among the places. -/
def kinds (ps : List Place) : List DelayKind := (calls ps).filterMap Expr.delayKind?

variable {p : Place} {ps qs : List Place}

theorem calls_append : calls (ps ++ qs) = calls ps ++ calls qs := by simp [calls]

theorem kinds_append : kinds (ps ++ qs) = kinds ps ++ kinds qs := by simp [kinds, calls_append]

theorem calls_cons_none (h : p.node.delayKind? = none) : calls (p :: ps) = calls ps := by
  simp [calls, h]

theorem calls_cons_some {kind : DelayKind} (h : p.node.delayKind? = some kind) :
    calls (p :: ps) = p.node :: calls ps := by
  simp [calls, h]

theorem kinds_cons_none (h : p.node.delayKind? = none) : kinds (p :: ps) = kinds ps := by
  rw [kinds, calls_cons_none h, kinds]

theorem kinds_cons_some {kind : DelayKind} (h : p.node.delayKind? = some kind) :
    kinds (p :: ps) = kind :: kinds ps := by
  rw [kinds, calls_cons_some h, List.filterMap_cons, h, kinds]

theorem kinds_length : (kinds ps).length = (calls ps).length := by
  induction ps with
  | nil => rfl
  | cons p ps ih =>
    rcases h : p.node.delayKind? with _ | kind
    · rw [kinds_cons_none h, calls_cons_none h, ih]
    · rw [kinds_cons_some h, calls_cons_some h, List.length_cons, List.length_cons, ih]

end Place

mutual

/-- The delay calls of resolved code, each before those in its arguments. -/
def Code.calls : Code → List Code
  | number _ | name _ => []
  | unary _ x | math _ x | lookup x _ => calls x
  | binary _ x y | logical _ x y | power x y | surfaceLookup x y _ => calls x ++ calls y
  | choice x y z => calls x ++ (calls y ++ calls z)
  | extremum _ x xs => calls x ++ callsOfAll xs
  | delay kind slot x y => delay kind slot x y :: (calls x ++ calls y)
  | inlineLookup x coordinates _ => calls x ++ callsOfAll coordinates

/-- The delay calls of several pieces of code. -/
def Code.callsOfAll : List Code → List Code
  | [] => []
  | x :: xs => calls x ++ callsOfAll xs

end

/-! ## Claiming slots -/

/-- The slots for delay calls of these kinds, behind earlier ones of the same expression: each is
labelled with the number of the calls of its kind before it. -/
def Slot.numbered (source : String) (earlier kinds : List DelayKind) : List Slot :=
  kinds.mapIdx fun i kind => .claimed kind.name
    (source ++ ":" ++ kind.name ++ "#" ++ toString ((earlier ++ kinds.take i).count kind))

/-- The claims behind those of delay calls of these kinds. -/
def Claims.after (source : String) (c : Claims) (kinds : List DelayKind) : Claims :=
  ⟨c.slots ++ Slot.numbered source c.claimed kinds, c.claimed ++ kinds⟩

theorem Claims.after_nil (source : String) (c : Claims) : c.after source [] = c := by
  simp [after, Slot.numbered]

theorem Claims.after_singleton (source : String) (c : Claims) (kind : DelayKind) :
    c.after source [kind] =
      ⟨c.slots ++ [.claimed kind.name
        (source ++ ":" ++ kind.name ++ "#" ++ toString (c.claimed.count kind))],
        c.claimed ++ [kind]⟩ := by
  simp [after, Slot.numbered]

theorem Claims.after_append (source : String) (c : Claims) (kinds more : List DelayKind) :
    c.after source (kinds ++ more) = (c.after source kinds).after source more := by
  induction kinds generalizing c with
  | nil => rw [List.nil_append, after_nil]
  | cons kind kinds ih =>
    have hcons : ∀ ks, c.after source (kind :: ks) = (c.after source [kind]).after source ks := by
      intro ks
      simp [after, Slot.numbered]
    rw [List.cons_append, hcons, hcons kinds, ih]

theorem Claims.after_length (source : String) (c : Claims) (kinds : List DelayKind) :
    (c.after source kinds).slots.length = c.slots.length + kinds.length := by
  simp [after, Slot.numbered]

/-- The expression is resolved to the code, behind claims of some kind. -/
def Expr.Resolves (site : Site) (x : Expr) (code : Code) : Prop :=
  ∃ c, ((x.resolve site).run c).1 = .ok code

/-- The code is that of a delay call with a slot, its arguments resolved in their order. -/
inductive Code.Binds (site : Site) : Expr × Nat → Code → Prop where
  | call {f : String} {kind : DelayKind} {x y : Expr} {slot : Nat} {v w : Code} :
      DelayKind.ofName? f = some kind → x.Resolves site v → y.Resolves site w →
      Binds site (.call f [x, y], slot) (.delay kind slot v w)

/-- The delay calls among the places have the slots from a number on, one after the other. -/
def Allotted (site : Site) (n : Nat) (ps : List Place) (codes : List Code) : Prop :=
  List.Forall₂ (Code.Binds site) ((Place.calls ps).zipIdx n) codes

namespace Allotted

variable {site : Site} {n : Nat} {ps qs : List Place} {codes others : List Code}

theorem nil : Allotted site n [] [] := List.Forall₂.nil

/-- The slots of the places behind others are those behind the slots of the others. -/
theorem append {c : Claims} (h : Allotted site c.slots.length ps codes)
    (h' : Allotted site (c.after site.source (Place.kinds ps)).slots.length qs others) :
    Allotted site c.slots.length (ps ++ qs) (codes ++ others) := by
  rw [Claims.after_length, Place.kinds_length] at h'
  rw [Allotted, Place.calls_append, List.zipIdx_append]
  exact List.rel_append h h'

theorem skip {p : Place} (hp : p.node.delayKind? = none) (h : Allotted site n ps codes) :
    Allotted site n (p :: ps) codes := by
  rwa [Allotted, Place.calls_cons_none hp]

theorem concat {c : Claims} (h : Allotted site c.slots.length ps codes) {p : Place}
    (hp : p.node.delayKind? = none) : Allotted site c.slots.length (ps ++ [p]) codes := by
  simpa using h.append (nil.skip hp)

theorem claim {p : Place} {code : Code} (hp : Code.Binds site (p.node, n) code)
    (h : Allotted site (n + 1) ps codes) : Allotted site n (p :: ps) (code :: codes) := by
  obtain ⟨kind, hkind⟩ : ∃ kind, p.node.delayKind? = some kind := by
    obtain ⟨role, node⟩ := p
    cases hp with
    | call hkind _ _ => exact ⟨_, hkind⟩
  rw [Allotted, Place.calls_cons_some hkind, List.zipIdx_cons]
  exact .cons hp h

end Allotted

/-! ## Walking through the places -/

/-- The computation goes through the places. If none is refused it gives something, and otherwise it
fails as the first refused one does. It has claimed the slots of the delay calls that it has come
across. -/
def Resolution.Walks {α : Type} (site : Site) (c : Claims) (e : Resolution α) (ps : List Place)
    (post : α → Prop) : Prop :=
  ((∀ p ∈ ps, p.misuse? site.inModel = none) ∧
      ∃ a, e.run c = (.ok a, c.after site.source (Place.kinds ps)) ∧ post a) ∨
    ∃ before p after m, ps = before ++ p :: after ∧
      (∀ q ∈ before, q.misuse? site.inModel = none) ∧ p.misuse? site.inModel = some m ∧
      e.run c = (.error m, c.after site.source (Place.kinds before))

/-- From any claims on, the computation goes through the places, and the delay calls among them have
the next slots. -/
def Resolution.Allots {α : Type} (site : Site) (e : Resolution α) (ps : List Place)
    (calls : α → List Code) : Prop :=
  ∀ c, Walks site c e ps fun a => Allotted site c.slots.length ps (calls a)

namespace Resolution

variable {α β : Type} {site : Site} {c : Claims} {e : Resolution α} {ps qs : List Place}
  {mid : α → Prop} {post : β → Prop}

theorem Walks.bind {f : α → Resolution β} (he : Walks site c e ps mid)
    (hf : ∀ a, (e.run c).1 = .ok a → mid a →
      Walks site (c.after site.source (Place.kinds ps)) (f a) qs post) :
    Walks site c (e >>= f) (ps ++ qs) post := by
  rcases he with ⟨hps, a, hrun, ha⟩ | ⟨before, p, after, m, rfl, hbefore, hp, hrun⟩
  · have hbind : (e >>= f).run c = (f a).run (c.after site.source (Place.kinds ps)) := by
      rw [run_bind, hrun]
    rw [Walks, hbind]
    rcases hf a (by rw [hrun]) ha with ⟨hqs, b, hrun', hb⟩ |
      ⟨before, p, after, m, rfl, hbefore, hp, hrun'⟩
    · refine .inl ⟨List.forall_mem_append.2 ⟨hps, hqs⟩, b, ?_, hb⟩
      rw [hrun', Place.kinds_append, Claims.after_append]
    · refine .inr ⟨ps ++ before, p, after, m, by rw [List.append_assoc],
        List.forall_mem_append.2 ⟨hps, hbefore⟩, hp, ?_⟩
      rw [hrun', Place.kinds_append, Claims.after_append]
  · refine .inr ⟨before, p, after ++ qs, m, by simp, hbefore, hp, ?_⟩
    rw [run_bind, hrun]

theorem walks_pure {b : β} (h : post b) : Walks site c (pure b) [] post :=
  .inl ⟨nofun, b, by rw [show Place.kinds [] = [] from rfl, Claims.after_nil]; rfl, h⟩

theorem Walks.bind_pure {g : α → β} (he : Walks site c e ps mid)
    (hg : ∀ a, (e.run c).1 = .ok a → mid a → post (g a)) :
    Walks site c (e >>= fun a => pure (g a)) ps post := by
  have h : Walks site c (e >>= fun a => pure (g a)) (ps ++ []) post :=
    he.bind fun a hrun ha => walks_pure (hg a hrun ha)
  rwa [List.append_nil] at h

/-- A place that is not refused and is no delay call is passed by. -/
theorem Walks.visit {p : Place} (hp : p.misuse? site.inModel = none)
    (hkind : p.node.delayKind? = none) (he : Walks site c e ps mid) :
    Walks site c e (p :: ps) mid := by
  rcases he with ⟨hps, a, hrun, ha⟩ | ⟨before, q, after, m, rfl, hbefore, hq, hrun⟩
  · exact .inl ⟨List.forall_mem_cons.2 ⟨hp, hps⟩, a, by rwa [Place.kinds_cons_none hkind], ha⟩
  · exact .inr ⟨p :: before, q, after, m, rfl, List.forall_mem_cons.2 ⟨hp, hbefore⟩, hq,
      by rwa [Place.kinds_cons_none hkind]⟩

theorem walks_throw {p : Place} {m : Misuse} (hp : p.misuse? site.inModel = some m) :
    Walks site c (throw m) (p :: ps) post :=
  .inr ⟨[], p, ps, m, rfl, nofun, hp,
    by rw [show Place.kinds [] = [] from rfl, Claims.after_nil]; rfl⟩

/-- A delay call claims its slot before the places behind it are visited. -/
theorem Walks.claim {p : Place} {kind : DelayKind} {f : Nat → Resolution β}
    (hp : p.misuse? site.inModel = none) (hkind : p.node.delayKind? = some kind)
    (hf : Walks site (c.after site.source [kind]) (f c.slots.length) ps post) :
    Walks site c (Resolution.claim site.source kind >>= f) (p :: ps) post := by
  have hrun : (Resolution.claim site.source kind >>= f).run c =
      (f c.slots.length).run (c.after site.source [kind]) := by
    have hclaim : (Resolution.claim site.source kind).run c =
        (.ok c.slots.length, c.after site.source [kind]) := by
      rw [Claims.after_singleton]
      rfl
    rw [run_bind, hclaim]
  have hkinds : ∀ qs, Place.kinds (p :: qs) = [kind] ++ Place.kinds qs := fun _ =>
    Place.kinds_cons_some hkind
  rw [Walks, hrun]
  rcases hf with ⟨hps, b, hrun', hb⟩ | ⟨before, q, after, m, rfl, hbefore, hq, hrun'⟩
  · refine .inl ⟨List.forall_mem_cons.2 ⟨hp, hps⟩, b, ?_, hb⟩
    rw [hrun', hkinds, Claims.after_append]
  · refine .inr ⟨p :: before, q, after, m, rfl, List.forall_mem_cons.2 ⟨hp, hbefore⟩, hq, ?_⟩
    rw [hrun', hkinds, Claims.after_append]

end Resolution

/-! ## Functions -/

theorem Builtin.ofName?_eq_delay_iff {f : String} {kind : DelayKind} :
    Builtin.ofName? f = some (.delay kind) ↔ DelayKind.ofName? f = some kind := by
  constructor
  · intro h
    unfold Builtin.ofName? at h
    split at h
    · cases h
    · cases h
    · cases h
      assumption
    · split at h <;> cases h
  · intro h
    unfold DelayKind.ofName? at h
    split at h <;> cases h <;> decide

/-- A function that is no delay. -/
theorem Builtin.delayKind?_eq_none {f : String} {b : Builtin} (hb : Builtin.ofName? f = some b)
    (hdelay : ∀ kind, b ≠ .delay kind) : DelayKind.ofName? f = none := by
  refine Option.eq_none_iff_forall_ne_some.2 fun kind h => hdelay kind ?_
  rw [Builtin.ofName?_eq_delay_iff.2 h] at hb
  exact (Option.some.inj hb).symm

/-- A call that is in order has as many arguments as the function takes. -/
theorem Builtin.count_of_misuse? {b : Builtin} {f : String} {count : Nat} {inModel : Bool}
    (h : b.misuse? f count inModel = none) :
    (∀ n, b.arity? = some n → count = n) ∧ (b.arity? = none → 0 < count) := by
  unfold misuse? at h
  split at h
  · cases h
  · cases harity : b.arity? with
    | none => simp_all [Nat.pos_iff_ne_zero]
    | some n => simp_all

namespace Expr

open Resolution

/-- An expression comes before what is below it. -/
theorem exists_places (role : Role) (x : Expr) : ∃ below, places role x = ⟨role, x⟩ :: below := by
  cases x <;> exact ⟨_, rfl⟩

theorem call_misuse? {site : Site} {f : String} {b : Builtin} {xs : List Expr} {r : Option Misuse}
    (hb : Builtin.ofName? f = some b) (hm : b.misuse? f xs.length site.inModel = r) :
    Place.misuse? site.inModel ⟨.operand, .call f xs⟩ = r := by
  simp only [Place.misuse?, hb, hm]

/-- Resolving goes through the places of an expression, of the points of a table, or of several
expressions, and the delay calls in what it gives have the slots in their order. -/
theorem resolve_walks (site : Site) :
    (∀ x, Allots site (resolve site x) (places .operand x) Code.calls) ∧
    (∀ items, Allots site (resolvePoints site items) (placesOfAll (fun _ => .point) items)
      Code.callsOfAll) ∧
    (∀ xs, Allots site (resolveAll site xs) (placesOfAll (fun _ => .operand) xs)
      Code.callsOfAll) := by
  apply resolve.mutual_induct site
    (fun x => Allots site (resolve site x) (places .operand x) Code.calls)
    (fun items => Allots site (resolvePoints site items) (placesOfAll (fun _ => .point) items)
      Code.callsOfAll)
    (fun xs => Allots site (resolveAll site xs) (placesOfAll (fun _ => .operand) xs)
      Code.callsOfAll)
  -- Numbers, names, signs, operators and choices.
  case case1 | case3 =>
    intro x c
    rw [resolve, places]
    exact .visit rfl rfl (walks_pure (.skip rfl .nil))
  case case4 =>
    intro op x hx c
    rw [resolve, places]
    exact .visit rfl rfl ((hx c).bind_pure fun _ _ h => .skip rfl h)
  case case5 | case6 =>
    intro op x y hx hy c
    rw [resolve, places]
    exact .visit rfl rfl ((hx c).bind fun _ _ h => (hy _).bind_pure fun _ _ h' =>
      .skip rfl (h.append h'))
  case case7 =>
    intro x y z hx hy hz c
    rw [resolve, places]
    exact .visit rfl rfl ((hx c).bind fun _ _ h => (hy _).bind fun _ _ h' =>
      (hz _).bind_pure fun _ _ h'' => .skip rfl (h.append (h'.append h'')))
  -- Texts and lists that are no table, and calls that are refused.
  case case2 | case8 =>
    intro x c
    rw [resolve, places]
    exact walks_throw rfl
  case case9 =>
    intro f arguments hb c
    simp only [resolve, hb, places]
    exact walks_throw (by simp only [Place.misuse?, hb])
  case case10 =>
    intro f arguments b hb m hm c
    simp only [resolve, hb, hm, places]
    exact walks_throw (call_misuse? hb hm)
  -- Calls of functions that only read numbers.
  case case11 =>
    intro f g x hb hm hx c
    simp only [resolve, hb, hm, places, placesOfAll, Role.argument, List.append_nil]
    have hkind := Builtin.delayKind?_eq_none hb nofun
    exact .visit (call_misuse? hb hm) hkind ((hx c).bind_pure fun _ _ h => .skip hkind h)
  case case12 =>
    intro f x y hb hm hx hy c
    simp only [resolve, hb, hm, places, placesOfAll, Role.argument, List.append_nil]
    have hkind := Builtin.delayKind?_eq_none hb nofun
    exact .visit (call_misuse? hb hm) hkind ((hx c).bind fun _ _ h =>
      (hy _).bind_pure fun _ _ h' => .skip hkind (h.append h'))
  case case13 =>
    intro f e x xs hb hm hx hxs c
    simp only [resolve, hb, hm, places, placesOfAll, Role.argument]
    have hkind := Builtin.delayKind?_eq_none hb nofun
    exact .visit (call_misuse? hb hm) hkind ((hx c).bind fun _ _ h =>
      (hxs _).bind_pure fun _ _ h' => .skip hkind (h.append h'))
  -- A delay call, which claims its own slot before its arguments claim theirs.
  case case14 =>
    intro f kind x y hb hm hx hy c
    simp only [resolve, hb, hm, places, placesOfAll, Role.argument, List.append_nil]
    have hkind := Builtin.ofName?_eq_delay_iff.1 hb
    have hslots : (c.after site.source [kind]).slots.length = c.slots.length + 1 :=
      c.after_length _ _
    exact .claim (call_misuse? hb hm) hkind ((hx _).bind fun v hv h =>
      (hy _).bind_pure fun w hw h' =>
        .claim (.call hkind ⟨_, hv⟩ ⟨_, hw⟩) (hslots ▸ h.append h'))
  -- Lookups, whose points may claim slots too.
  case case15 =>
    intro f x table hb hm hx htable c
    simp only [resolve, hb, hm, places, placesOfAll, Role.argument, List.append_nil]
    have hkind := Builtin.delayKind?_eq_none hb nofun
    refine .visit (call_misuse? hb hm) hkind ((hx c).bind fun _ _ h => ?_)
    cases table
    case name | text => exact .visit rfl rfl (walks_pure (.skip hkind (h.concat rfl)))
    case list items =>
      exact .visit rfl rfl ((htable _).bind_pure fun _ _ h' =>
        .skip hkind (h.append (.skip rfl h')))
    all_goals
      rw [places]
      exact walks_throw rfl
  case case16 =>
    intro f x y table hb hm hx hy c
    simp only [resolve, hb, hm, places, placesOfAll, Role.argument, List.append_nil]
    have hkind := Builtin.delayKind?_eq_none hb nofun
    refine .visit (call_misuse? hb hm) hkind ((hx c).bind fun _ _ h => (hy _).bind fun _ _ h' => ?_)
    cases table
    case name | text =>
      exact .visit rfl rfl (walks_pure (.skip hkind (h.append (h'.concat rfl))))
    all_goals
      rw [places]
      exact walks_throw rfl
  -- A call that is in order fits a function.
  case case17 =>
    intro f arguments b hb hm h1 h2 h3 h4 h5 h6 c
    have hcount := Builtin.count_of_misuse? hm
    cases b with
    | math g =>
      obtain ⟨x, rfl⟩ := List.length_eq_one_iff.1 (hcount.1 1 rfl)
      exact (h1 g x rfl rfl).elim
    | power =>
      obtain ⟨x, y, rfl⟩ := List.length_eq_two.1 (hcount.1 2 rfl)
      exact (h2 x y rfl rfl).elim
    | extremum e =>
      obtain ⟨x, xs, rfl⟩ := List.exists_cons_of_ne_nil (List.length_pos_iff.1 (hcount.2 rfl))
      exact (h3 e x xs rfl rfl).elim
    | delay kind =>
      obtain ⟨x, y, rfl⟩ := List.length_eq_two.1 (hcount.1 2 rfl)
      exact (h4 kind x y rfl rfl).elim
    | lookup =>
      obtain ⟨x, table, rfl⟩ := List.length_eq_two.1 (hcount.1 2 rfl)
      exact (h5 x table rfl rfl).elim
    | surfaceLookup =>
      obtain ⟨x, y, table, rfl⟩ := List.length_eq_three.1 (hcount.1 3 rfl)
      exact (h6 x y table rfl rfl).elim
  -- The points of a table.
  case case18 =>
    intro c
    rw [resolvePoints]
    exact walks_pure .nil
  case case19 =>
    intro items x y hx hy hitems c
    simp only [resolvePoints, places, placesOfAll, Role.item, List.append_nil, List.cons_append,
      List.append_assoc]
    exact .visit rfl rfl ((hx c).bind fun _ _ h => (hy _).bind fun _ _ h' =>
      (hitems _).bind_pure fun _ _ h'' => .skip rfl (h.append (h'.append h'')))
  case case20 =>
    intro x xs hx c
    have hthrow : resolvePoints site (x :: xs) = throw .notAPoint := by
      rw [resolvePoints]
      exact hx
    have hpoint : Place.misuse? site.inModel ⟨.point, x⟩ = some .notAPoint := by
      unfold Place.misuse?
      dsimp only
      split
      · exact (hx _ _ rfl).elim
      · rfl
    obtain ⟨below, hbelow⟩ := exists_places .point x
    rw [hthrow, placesOfAll, hbelow]
    exact walks_throw hpoint
  -- Several expressions.
  case case21 =>
    intro c
    rw [resolveAll]
    exact walks_pure .nil
  case case22 =>
    intro x xs hx hxs c
    rw [resolveAll, placesOfAll]
    exact (hx c).bind fun _ _ h => (hxs _).bind_pure fun _ _ h' => h.append h'

end Expr

end SystemDynamics
