import Mathlib.Data.List.Basic
import SystemDynamics.Declaration.Reader
import SystemDynamics.Proofs.Lines
/-!
# What lines declare

Which declarations a list of lines makes is described line by line, without a reader: a line
declares a constant if it writes one, and a closing brace declares the block `i` if line `i` opens
a block and no line between is a brace or opens another. `Declares` says what the declaration is.

`Declaration.ofLines_iff` shows that reading finds these declarations, in the order of the lines
that complete them. What one line does to a reader keeps the invariant `Reads`: the declarations
found are those of the lines read, and the open block is the one a closing brace would declare now.
-/

namespace SystemDynamics

variable {α β : Type}

/-- The values that a relation gives for the elements of a list, in their order. An element for
which it gives none is passed over. -/
inductive Picked (R : α → β → Prop) : List α → List β → Prop where
  | nil : Picked R [] []
  | pick {a as b bs} : R a b → Picked R as bs → Picked R (a :: as) (b :: bs)
  | pass {a as bs} : (∀ b, ¬ R a b) → Picked R as bs → Picked R (a :: as) bs

namespace Picked

variable {R : α → β → Prop}

theorem append {as as' : List α} {bs bs' : List β} (h : Picked R as bs) (h' : Picked R as' bs') :
    Picked R (as ++ as') (bs ++ bs') := by
  induction h with
  | nil => exact h'
  | pick hR _ ih => exact .pick hR ih
  | pass hR _ ih => exact .pass hR ih

theorem singleton {a : α} {b? : Option β} (h : ∀ b, b? = some b ↔ R a b) :
    Picked R [a] b?.toList := by
  cases b? with
  | none => exact .pass (fun b hb => nomatch (h b).2 hb) .nil
  | some b => exact .pick ((h b).1 rfl) .nil

theorem filterMap {f : α → Option β} : ∀ {as : List α}, (∀ a ∈ as, ∀ b, f a = some b ↔ R a b) →
    Picked R as (as.filterMap f)
  | [], _ => .nil
  | a :: as, hf => by
    obtain ⟨ha, has⟩ := List.forall_mem_cons.1 hf
    rw [List.filterMap_cons]
    split
    · rename_i hn
      exact .pass (fun b hb => nomatch hn.symm.trans ((ha b).2 hb)) (filterMap has)
    · rename_i b hb
      exact .pick ((ha b).1 hb) (filterMap has)

theorem mem {as : List α} {bs : List β} (h : Picked R as bs) {b : β} (hb : b ∈ bs) :
    ∃ a ∈ as, R a b := by
  induction h with
  | nil => exact absurd hb List.not_mem_nil
  | pick hR _ ih =>
    rcases List.mem_cons.1 hb with rfl | hb
    · exact ⟨_, .head _, hR⟩
    · obtain ⟨a, ha, hab⟩ := ih hb
      exact ⟨a, .tail _ ha, hab⟩
  | pass _ _ ih =>
    obtain ⟨a, ha, hab⟩ := ih hb
    exact ⟨a, .tail _ ha, hab⟩

theorem unique : ∀ {as : List α} {bs bs' : List β},
    (∀ a ∈ as, ∀ b b', R a b → R a b' → b = b') → Picked R as bs → Picked R as bs' → bs = bs'
  | [], _, _, _, .nil, .nil => rfl
  | _ :: _, _, _, hR, .pick h t, .pick h' t' => by
    rw [hR _ (.head _) _ _ h h', unique (List.forall_mem_cons.1 hR).2 t t']
  | _ :: _, _, _, _, .pick h _, .pass hn _ => absurd h (hn _)
  | _ :: _, _, _, _, .pass hn _, .pick h _ => absurd h (hn _)
  | _ :: _, _, _, hR, .pass _ t, .pass _ t' => unique (List.forall_mem_cons.1 hR).2 t t'

theorem iff_filterMap {f : α → Option β} {as : List α} {bs : List β}
    (hf : ∀ a ∈ as, ∀ b, f a = some b ↔ R a b) : Picked R as bs ↔ bs = as.filterMap f :=
  ⟨fun h => unique (fun a ha b b' hb hb' =>
      Option.some.inj (((hf a ha b).2 hb).symm.trans ((hf a ha b').2 hb'))) h (filterMap hf),
    fun h => h ▸ filterMap hf⟩

end Picked

/-! ## Tables of entries -/

namespace Table

/-- The table holds each name of the entries, in the place of its first entry and with the value
of its last. -/
structure Collects (t : Table α) (es : List (String × α)) : Prop where
  names : t.names = (es.map Prod.fst).eraseDups
  get? : ∀ name, t.get? name = es.reverse.lookup name

theorem map_fst_put (name : String) (v : α) : ∀ es : List (String × α),
    (put name v es).map Prod.fst =
      if name ∈ es.map Prod.fst then es.map Prod.fst else es.map Prod.fst ++ [name]
  | [] => rfl
  | (k, w) :: rest => by
    unfold put
    split
    · rename_i hk
      rw [if_pos (hk ▸ List.mem_map_of_mem (.head _))]
      rfl
    · rename_i hk
      rw [List.map_cons, map_fst_put name v rest]
      simp only [List.map_cons, List.mem_cons, Ne.symm hk, false_or]
      split <;> rfl

theorem find?_put (name : String) (v : α) (k : String) : ∀ es : List (String × α),
    find? k (put name v es) = if k = name then some v else find? k es
  | [] => by
    simp only [put, find?, eq_comm]
  | (k', w) :: rest => by
    unfold put
    split
    · rename_i hk
      subst hk
      simp only [find?, eq_comm]
      split <;> rfl
    · rename_i hk
      simp only [find?]
      rw [find?_put name v k rest]
      split
      · rename_i hkk
        rw [if_neg fun h => hk (hkk.trans h)]
      · rfl

theorem contains_insert (t : Table α) (name : String) (v : α) (k : String) :
    (t.insert name v).contains k = true ↔ t.contains k = true ∨ name = k := by
  have hget : (t.insert name v).get? k = if k = name then some v else t.get? k :=
    find?_put name v k t.entries
  rw [contains, hget]
  by_cases hk : k = name
  · simp [hk]
  · simp [hk, contains, Ne.symm hk]

theorem Collects.empty : Collects (.empty : Table α) [] := ⟨rfl, fun _ => rfl⟩

theorem Collects.insert {t : Table α} {es : List (String × α)} (h : t.Collects es) (name : String)
    (v : α) : (t.insert name v).Collects (es ++ [(name, v)]) := by
  constructor
  · have hn : (t.insert name v).names = if name ∈ t.names then t.names else t.names ++ [name] :=
      map_fst_put name v t.entries
    rw [hn, h.names, List.map_append, List.eraseDups_append]
    simp only [List.mem_eraseDups, List.map_cons, List.map_nil, List.removeAll, List.filter_cons,
      List.filter_nil]
    split
    · rename_i hm
      simp [hm]
    · rename_i hm
      simp [hm, List.eraseDups_cons]
  · intro k
    have hg : (t.insert name v).get? k = if k = name then some v else t.get? k :=
      find?_put name v k t.entries
    rw [hg, h.get?, List.reverse_append, List.reverse_singleton, List.singleton_append,
      List.lookup_cons]
    by_cases hk : k = name
    · rw [if_pos hk, beq_iff_eq.2 hk]
    · rw [if_neg hk, beq_false_of_ne hk]

theorem Collects.insertAll : ∀ {es' es : List (String × α)} {t : Table α}, t.Collects es →
    (t.insertAll es').Collects (es ++ es')
  | [], es, t, h => by rwa [List.append_nil]
  | (name, v) :: es', es, t, h => by
    rw [List.append_cons]
    exact insertAll (h.insert name v)

/-- The names of a table and what it holds under them are the whole table. -/
theorem filterMap_names (t : Table α) :
    t.names.filterMap (fun name => (t.get? name).map (name, ·)) = t.entries := by
  rw [names, List.filterMap_map]
  refine (List.filterMap_congr fun e he => ?_).trans List.filterMap_some
  exact congrArg (Option.map (e.1, ·)) (t.get?_eq_some_iff.2 he)

theorem eq_of_get? {s t : Table α} (hnames : s.names = t.names)
    (hget : ∀ name, s.get? name = t.get? name) : s = t := by
  have hg : s.get? = t.get? := funext hget
  ext1
  rw [← s.filterMap_names, ← t.filterMap_names, hnames, hg]

theorem contains_iff {t : Table α} {name : String} : t.contains name = true ↔ name ∈ t.names := by
  rw [contains, Option.isSome_iff_exists, names, List.mem_map]
  constructor
  · rintro ⟨v, hv⟩
    exact ⟨(name, v), t.get?_eq_some_iff.1 hv, rfl⟩
  · rintro ⟨e, he, rfl⟩
    exact ⟨e.2, t.get?_eq_some_iff.2 he⟩

theorem collects_iff {t : Table α} {es : List (String × α)} :
    t.Collects es ↔ t = .ofList es := by
  have ho : (ofList es).Collects es := Collects.empty.insertAll
  refine ⟨fun h => ?_, fun h => h ▸ ho⟩
  exact eq_of_get? (h.names.trans ho.names.symm) fun name => (h.get? name).trans (ho.get? name).symm

theorem ofList_append (es : List (String × α)) (name : String) (v : α) :
    ofList (es ++ [(name, v)]) = (ofList es).insert name v := by
  rw [ofList, insertAll, List.foldl_append]
  rfl

end Table

/-! ## The description -/

namespace Line

/-- A line inside a block of a kind that gives an entry of its properties. Where a block holds
points, a line with a bracket in front is none of a property. -/
def GivesProperty (kind : BlockKind) (cs : List Char) (e : String × PropertyValue) : Prop :=
  Is cs .other ∧ ¬ (kind.holdsPoints = true ∧ ∃ rest, cs = '[' :: rest) ∧
    WritesProperty cs e.1 e.2

/-- A line inside a block of a kind that gives a point. -/
def GivesPoint (kind : BlockKind) (cs : List Char) (point : List Float) : Prop :=
  kind.holdsPoints = true ∧ WritesPoint kind cs point

/-- A line at which a block ends or is given up. -/
def Bounds (cs : List Char) : Prop := cs = ['}'] ∨ ∃ kind name, Is cs (.opening kind name)

end Line

namespace Declaration

open Line

/-- The lines behind line `i` and before line `j`. -/
def between (lines : List (List Char)) (i j : Nat) : List (List Char) :=
  (lines.take j).drop (i + 1)

/-- Line `i` opens the block, which is still open before line `j`, and the lines between give its
properties and its points. -/
structure Block (lines : List (List Char)) (i j : Nat) (d : Declaration) : Prop where
  lt : i < j
  opened : ∃ cs, lines[i]? = some cs ∧ Is cs (.opening d.kind d.name)
  unbounded : ∀ cs ∈ between lines i j, ¬ Bounds cs
  properties : ∃ es, Picked (GivesProperty d.kind) (between lines i j) es ∧ d.properties.Collects es
  points : Picked (GivesPoint d.kind) (between lines i j) d.points
  line : d.line = i + 1

/-- What line `j` completes: a constant, or the block that a closing brace ends. -/
inductive Declares (lines : List (List Char)) (j : Nat) : Declaration → Prop where
  | constant {cs name value} : lines[j]? = some cs → Is cs (.constant name value) →
      Declares lines j ⟨.const, name, .ofList [("value", value)], [], j + 1⟩
  | block {i d} : lines[j]? = some ['}'] → Block lines i j d → Declares lines j d

end Declaration

/-! ## One line inside a block -/

namespace Line

/-- The entry that a line inside a block of the kind gives. -/
def propertyIn (kind : BlockKind) (cs : List Char) : Option (String × PropertyValue) :=
  if read cs = .other ∧ ¬ (kind.holdsPoints = true ∧ cs.head? = some '[') then property? cs
  else none

/-- The point that a line inside a block of the kind gives. -/
def pointIn (kind : BlockKind) (cs : List Char) : Option (List Float) :=
  if kind.holdsPoints then point? kind cs else none

theorem propertyIn_iff {kind : BlockKind} {cs : List Char} (hc : Stripped cs)
    (e : String × PropertyValue) : propertyIn kind cs = some e ↔ GivesProperty kind cs e := by
  have hb : cs.head? = some '[' ↔ ∃ rest, cs = '[' :: rest := List.head?_eq_some_iff
  unfold propertyIn GivesProperty
  rw [is_iff hc, ← hb, ← property?_eq_some_iff, ← and_assoc]
  split
  · exact (and_iff_right ‹_›).symm
  · exact ⟨nofun, fun h => absurd h.1 ‹_›⟩

theorem pointIn_iff {kind : BlockKind} {cs : List Char} (p : List Float) :
    pointIn kind cs = some p ↔ GivesPoint kind cs p := by
  unfold pointIn GivesPoint
  rw [← point?_eq_some_iff]
  split
  · exact (and_iff_right ‹_›).symm
  · exact ⟨nofun, fun h => absurd h.1 ‹_›⟩

/-- A point starts with a bracket. -/
theorem WritesPoint.head {kind : BlockKind} {cs : List Char} {p : List Float}
    (h : WritesPoint kind cs p) : cs.head? = some '[' := by
  obtain ⟨_, _, _, ⟨_, _, _, rfl, -⟩, -⟩ := h
  rfl

theorem read_of_head {cs : List Char} (h : cs.head? = some '[') : read cs = .other := by
  obtain ⟨rest, rfl⟩ := List.head?_eq_some_iff.1 h
  rfl

end Line

/-! ## The open block, line by line -/

namespace Declaration

open Line

/-- The block that the lines behind its opening fill. -/
def gather (kind : BlockKind) (name : String) (number : Nat) (ls : List (List Char)) :
    Declaration :=
  ⟨kind, name, .ofList (ls.filterMap (propertyIn kind)), ls.filterMap (pointIn kind), number⟩

/-- The block with what one more line adds to it. -/
def withLine (d : Declaration) (cs : List Char) : Declaration :=
  { d with
    properties := (propertyIn d.kind cs).elim d.properties fun e => d.properties.insert e.1 e.2
    points := d.points ++ (pointIn d.kind cs).toList }

theorem gather_append (kind : BlockKind) (name : String) (number : Nat) (ls : List (List Char))
    (cs : List Char) :
    gather kind name number (ls ++ [cs]) = (gather kind name number ls).withLine cs := by
  unfold gather withLine
  simp only [List.filterMap_append, List.filterMap_cons, List.filterMap_nil]
  congr 1
  cases propertyIn kind cs with
  | none => exact congrArg _ (List.append_nil _)
  | some e => exact Table.ofList_append _ e.1 e.2

/-- A line of a class of its own adds nothing to the block around it. -/
theorem withLine_of_read_ne {d : Declaration} {cs : List Char} (h : Line.read cs ≠ .other) :
    d.withLine cs = d := by
  have hprop : propertyIn d.kind cs = none := if_neg fun ⟨ho, _⟩ => h ho
  have hpoint : pointIn d.kind cs = none := by
    refine Option.eq_none_iff_forall_ne_some.2 fun p hp => h (read_of_head ?_)
    exact ((pointIn_iff p).1 hp).2.head
  rw [withLine, hprop, hpoint]
  exact congrArg (fun ps => { d with points := ps }) (List.append_nil _)

theorem between_self (lines : List (List Char)) (n : Nat) : between lines n (n + 1) = [] :=
  List.drop_eq_nil_of_le (List.length_take_le _ _)

variable {lines : List (List Char)} {cs : List Char} {i n : Nat} {d : Declaration}

theorem between_succ (hi : i < n) (hn : lines[n]? = some cs) :
    between lines i (n + 1) = between lines i n ++ [cs] := by
  have hlen : n < lines.length := (List.getElem?_eq_some_iff.1 hn).1
  unfold between
  rw [List.take_add_one, hn, Option.toList_some, List.drop_append_of_le_length]
  rw [List.length_take]
  omega

/-- A block is what its opening and the lines behind it make. -/
theorem block_iff (hl : ∀ cs ∈ lines, Stripped cs) :
    Block lines i n d ↔ i < n ∧ (∀ cs ∈ between lines i n, ¬ Bounds cs) ∧
      ∃ cs kind name, lines[i]? = some cs ∧ Is cs (.opening kind name) ∧
        d = gather kind name (i + 1) (between lines i n) := by
  have hb : ∀ cs ∈ between lines i n, Stripped cs := fun cs hcs =>
    hl cs (List.mem_of_mem_take (List.mem_of_mem_drop hcs))
  have hprop : ∀ {kind : BlockKind} {es : List (String × PropertyValue)},
      Picked (GivesProperty kind) (between lines i n) es ↔
        es = (between lines i n).filterMap (propertyIn kind) :=
    Picked.iff_filterMap fun cs hcs e => propertyIn_iff (hb cs hcs) e
  have hpoint : ∀ {kind : BlockKind} {ps : List (List Float)},
      Picked (GivesPoint kind) (between lines i n) ps ↔
        ps = (between lines i n).filterMap (pointIn kind) :=
    Picked.iff_filterMap fun cs _ p => pointIn_iff p
  constructor
  · rintro ⟨hlt, ⟨cs, hcs, hopen⟩, hun, ⟨es, hes, htable⟩, hpoints, hline⟩
    refine ⟨hlt, hun, cs, d.kind, d.name, hcs, hopen, ?_⟩
    rw [gather, ← hprop.1 hes, ← Table.collects_iff.1 htable, ← hpoint.1 hpoints, ← hline]
  · rintro ⟨hlt, hun, cs, kind, name, hcs, hopen, rfl⟩
    exact ⟨hlt, ⟨cs, hcs, hopen⟩, hun, ⟨_, hprop.2 rfl, Table.collects_iff.2 rfl⟩, hpoint.2 rfl, rfl⟩

/-- One more line opens a block in the place of any other, or ends the open one, or adds to it. -/
theorem block_succ (hl : ∀ cs ∈ lines, Stripped cs) (hn : lines[n]? = some cs) :
    (∃ i, Block lines i (n + 1) d) ↔
      (∃ kind name, Is cs (.opening kind name) ∧ d = ⟨kind, name, .empty, [], n + 1⟩) ∨
        ¬ Bounds cs ∧ ∃ e, (∃ i, Block lines i n e) ∧ d = e.withLine cs := by
  simp only [block_iff hl]
  constructor
  · rintro ⟨i, hlt, hun, head, kind, name, hhead, hopen, rfl⟩
    rcases Nat.lt_or_eq_of_le (Nat.le_of_lt_succ hlt) with hi | rfl
    · rw [between_succ hi hn] at hun ⊢
      rw [gather_append]
      obtain ⟨hun, hb⟩ := List.forall_mem_append.1 hun
      exact .inr ⟨hb cs (.head _), _, ⟨i, hi, hun, head, kind, name, hhead, hopen, rfl⟩, rfl⟩
    · obtain rfl := Option.some.inj (hhead.symm.trans hn)
      rw [between_self]
      exact .inl ⟨kind, name, hopen, rfl⟩
  · rintro (⟨kind, name, hopen, rfl⟩ | ⟨hb, e, ⟨i, hi, hun, head, kind, name, hhead, hopen, rfl⟩, rfl⟩)
    · refine ⟨n, Nat.lt_succ_self n, ?_, cs, kind, name, hn, hopen, ?_⟩
      · rw [between_self]
        exact nofun
      · rw [between_self]
        rfl
    · refine ⟨i, Nat.lt_succ_of_lt hi, ?_, head, kind, name, hhead, hopen, ?_⟩
      · rw [between_succ hi hn]
        exact List.forall_mem_append.2 ⟨hun, List.forall_mem_singleton.2 hb⟩
      · rw [between_succ hi hn, gather_append]

end Declaration

/-! ## Reading a line -/

namespace Reader

open Line Declaration

/-- The declaration that a line completes. -/
def completed (r : Reader) (number : Nat) (cs : List Char) : Option Declaration :=
  match Line.read cs with
  | .constant name value => some ⟨.const, name, .ofList [("value", value)], [], number⟩
  | .other => if cs = ['}'] then r.current else none
  | .ignored | .opening _ _ => none

/-- The block that is open behind a line. -/
def opened (r : Reader) (number : Nat) (cs : List Char) : Option Declaration :=
  match Line.read cs with
  | .opening kind name => some ⟨kind, name, .empty, [], number⟩
  | _ => if cs = ['}'] then none else r.current.map (·.withLine cs)

/-- In an open block a line counts as a point, a property or a closing brace, in this order. -/
theorem result_feedBlock (r : Reader) {d : Declaration} (number : Nat) {cs : List Char}
    (hr : r.current = some d) (ho : Line.read cs = .other) :
    (r.feedBlock d number cs).result =
      if cs = ['}'] then ⟨r.declarations ++ [d], none⟩
      else ⟨r.declarations, some (d.withLine cs)⟩ := by
  have hself : r = ⟨r.declarations, some d⟩ := hr ▸ rfl
  unfold feedBlock
  by_cases hp : d.kind.holdsPoints = true ∧ cs.head? = some '['
  · have hbrace : cs ≠ ['}'] := fun h => by simp [h] at hp
    have hprop : propertyIn d.kind cs = none := if_neg fun h => h.2 hp
    have hpoint : pointIn d.kind cs = point? d.kind cs := if_pos hp.1
    rw [if_pos (by simp [hp]), if_neg hbrace, withLine, hprop, hpoint]
    cases point? d.kind cs with
    | none =>
      rw [Option.toList_none, List.append_nil]
      exact hself
    | some p => rfl
  · have hprop : propertyIn d.kind cs = property? cs := if_pos ⟨ho, hp⟩
    have hpoint : pointIn d.kind cs = none := by
      refine Option.eq_none_iff_forall_ne_some.2 fun p h => hp ?_
      obtain ⟨hk, hw⟩ := (pointIn_iff p).1 h
      exact ⟨hk, hw.head⟩
    rw [if_neg (by simpa using hp), withLine, hprop, hpoint, Option.toList_none, List.append_nil]
    cases hv : property? cs with
    | some e =>
      have hbrace : cs ≠ ['}'] := fun h => nomatch (h ▸ hv : property? ['}'] = some e)
      rw [if_neg hbrace, if_neg hbrace]
      rfl
    | none =>
      dsimp only
      split
      · rw [closeBlock, hr]
        rfl
      · exact hself

/-- What a line does to a reader. -/
theorem result_feed (r : Reader) (number : Nat) (raw : List Char) :
    (r.feed number raw).result =
      ⟨r.declarations ++ (r.completed number (Text.strip raw)).toList,
        r.opened number (Text.strip raw)⟩ := by
  unfold feed completed opened
  dsimp only
  generalize Text.strip raw = cs
  have hkeep : Line.read cs ≠ .other →
      (if cs = ['}'] then none else r.current.map (·.withLine cs)) = r.current := by
    intro h
    rw [if_neg fun hb : cs = ['}'] => h (hb ▸ rfl)]
    cases r.current with
    | none => rfl
    | some d => exact congrArg some (withLine_of_read_ne h)
  cases hread : Line.read cs with
  | ignored =>
    rw [hkeep (hread ▸ nofun), Option.toList_none, List.append_nil]
    rfl
  | constant name value =>
    rw [hkeep (hread ▸ nofun)]
    rfl
  | opening kind name =>
    rw [Option.toList_none, List.append_nil]
    rfl
  | other =>
    obtain ⟨ds, _ | d⟩ := r
    · dsimp only
      rw [ite_self, Option.toList_none, List.append_nil, Option.map_none, ite_self]
      split <;> rfl
    · dsimp only
      rw [result_feedBlock _ number rfl hread]
      split
      · rfl
      · rw [Option.toList_none, List.append_nil]
        rfl

/-- What a reader that has read lines holds: what they declare, and the block that is open behind
them. -/
structure Reads (lines : List (List Char)) (n : Nat) (r : Reader) : Prop where
  declarations : Picked (Declares lines) (List.range n) r.declarations
  current : ∀ d, r.current = some d ↔ ∃ i, Block lines i n d

variable {lines : List (List Char)} {n : Nat} {r : Reader}

theorem Reads.completed_iff (h : Reads lines n r) (hl : ∀ cs ∈ lines, Stripped cs) {cs : List Char}
    (hn : lines[n]? = some cs) {d : Declaration} :
    r.completed (n + 1) cs = some d ↔ Declares lines n d := by
  have his : ∀ {l : Line}, Is cs l ↔ Line.read cs = l := is_iff (hl cs (List.mem_of_getElem? hn))
  constructor
  · intro hd
    unfold completed at hd
    split at hd
    · rename_i name value hread
      cases hd
      exact .constant hn (his.2 hread)
    · split at hd
      · rename_i hb
        obtain ⟨i, hi⟩ := (h.current d).1 hd
        exact .block (hb ▸ hn) hi
      · exact nomatch hd
    · exact nomatch hd
    · exact nomatch hd
  · intro hd
    unfold completed
    cases hd with
    | constant hcs hc =>
      cases hn.symm.trans hcs
      rw [his.1 hc]
    | block hcs hi =>
      cases hn.symm.trans hcs
      exact (h.current d).2 ⟨_, hi⟩

theorem opened_eq_some_iff (r : Reader) (number : Nat) (cs : List Char) {d : Declaration} :
    r.opened number cs = some d ↔
      (∃ kind name, Line.read cs = .opening kind name ∧ d = ⟨kind, name, .empty, [], number⟩) ∨
        ¬ (cs = ['}'] ∨ ∃ kind name, Line.read cs = .opening kind name) ∧
          ∃ e, r.current = some e ∧ d = e.withLine cs := by
  unfold opened
  split
  · rename_i kind name hread
    refine ⟨fun h => .inl ⟨kind, name, hread, (Option.some.inj h).symm⟩, ?_⟩
    rintro (⟨k, n, hk, rfl⟩ | ⟨hb, -⟩)
    · cases hread.symm.trans hk
      rfl
    · exact absurd (.inr ⟨kind, name, hread⟩) hb
  · rename_i hne
    have hne : ¬ ∃ kind name, Line.read cs = .opening kind name := fun ⟨k, n, hk⟩ => hne k n hk
    split
    · rename_i hb
      exact ⟨nofun, fun h => h.elim (fun ⟨k, n, hk, _⟩ => absurd ⟨k, n, hk⟩ hne)
        fun h => absurd (.inl hb) h.1⟩
    · rename_i hb
      rw [Option.map_eq_some_iff]
      constructor
      · rintro ⟨e, he, rfl⟩
        exact .inr ⟨not_or.2 ⟨hb, hne⟩, e, he, rfl⟩
      · rintro (⟨k, n, hk, -⟩ | ⟨-, e, he, rfl⟩)
        · exact absurd ⟨k, n, hk⟩ hne
        · exact ⟨e, he, rfl⟩

theorem Reads.opened_iff (h : Reads lines n r) (hl : ∀ cs ∈ lines, Stripped cs) {cs : List Char}
    (hn : lines[n]? = some cs) {d : Declaration} :
    r.opened (n + 1) cs = some d ↔ ∃ i, Block lines i (n + 1) d := by
  have his : ∀ {l : Line}, Is cs l ↔ Line.read cs = l := is_iff (hl cs (List.mem_of_getElem? hn))
  rw [opened_eq_some_iff, block_succ hl hn]
  simp only [Bounds, his, ← h.current]

/-- One line keeps what holds of a reader. -/
theorem Reads.feed (h : Reads lines n r) (hl : ∀ cs ∈ lines, Stripped cs) {raw : List Char}
    (hn : lines[n]? = some (Text.strip raw)) : Reads lines (n + 1) (r.feed (n + 1) raw).result := by
  rw [result_feed]
  refine ⟨?_, fun d => h.opened_iff hl hn⟩
  rw [List.range_succ]
  exact h.declarations.append (.singleton fun d => h.completed_iff hl hn)

theorem reads_start (lines : List (List Char)) : Reads lines 0 start :=
  ⟨.nil, fun _ => ⟨nofun, fun ⟨_, h⟩ => absurd h.lt (Nat.not_lt_zero _)⟩⟩

/-- So do all lines in turn. -/
theorem Reads.feedAll (hl : ∀ cs ∈ lines, Stripped cs) : ∀ {raws : List (List Char)} {n : Nat}
    {r : Reader}, Reads lines n r → raws.map Text.strip <+: lines.drop n →
      Reads lines (n + raws.length) (r.feedAll (n + 1) raws).result
  | [], _, _, h, _ => h
  | raw :: raws, n, r, h, ⟨rest, hd⟩ => by
    have hn : lines[n]? = some (Text.strip raw) := by
      rw [← List.head?_drop, ← hd]
      rfl
    have hd' : raws.map Text.strip <+: lines.drop (n + 1) := by
      rw [← List.tail_drop, ← hd]
      exact List.prefix_append _ _
    rw [List.length_cons, Nat.add_comm raws.length, ← Nat.add_assoc]
    exact feedAll hl (h.feed hl hn) hd'

end Reader

namespace Declaration

open Reader

theorem stripped_lines (raws : List (List Char)) :
    ∀ cs ∈ raws.map Text.strip, Line.Stripped cs := by
  intro cs hcs
  obtain ⟨raw, -, rfl⟩ := List.mem_map.1 hcs
  exact Line.stripped_strip raw

/-- Behind some of the lines, a reader holds what these declare. -/
theorem reads_take (raws : List (List Char)) {n : Nat} (hn : n ≤ raws.length) :
    Reads (raws.map Text.strip) n (Reader.start.feedAll 1 (raws.take n)).result := by
  have h := (reads_start (raws.map Text.strip)).feedAll (stripped_lines raws)
    ((List.take_prefix n raws).map Text.strip)
  rwa [Nat.zero_add, List.length_take_of_le hn] at h

/-- Every declaration of a text is completed by one of its lines. -/
theorem exists_declares {text : String} {d : Declaration} (hd : d ∈ (ofText text).result) :
    ∃ j, Declares ((Text.lines text.toList).map Text.strip) j d := by
  have hreads := (reads_take (Text.lines text.toList) (Nat.le_refl _)).declarations
  rw [List.take_length] at hreads
  obtain ⟨j, -, hj⟩ := hreads.mem hd
  exact ⟨j, hj⟩

theorem Declares.unique {raws : List (List Char)} {j : Nat} (hj : j < raws.length)
    {d d' : Declaration} (h : Declares (raws.map Text.strip) j d)
    (h' : Declares (raws.map Text.strip) j d') : d = d' := by
  have hreads := reads_take raws (Nat.le_of_lt hj)
  have hline : (raws.map Text.strip)[j]? = some (Text.strip raws[j]) := by
    rw [List.getElem?_map, List.getElem?_eq_getElem hj]
    rfl
  have hiff : ∀ d, _ ↔ Declares (raws.map Text.strip) j d := fun d =>
    hreads.completed_iff (stripped_lines raws) hline
  exact Option.some.inj (((hiff d).2 h).symm.trans ((hiff d').2 h'))

/-- Reading lines makes exactly what the lines, without the blanks around them, complete, in the
order of the lines. -/
theorem ofLines_iff (raws : List (List Char)) (ds : List Declaration) :
    (ofLines raws).result = ds ↔
      Picked (Declares (raws.map Text.strip)) (List.range raws.length) ds := by
  have h : Picked (Declares (raws.map Text.strip)) (List.range raws.length)
      (ofLines raws).result := by
    have hreads := (reads_take raws (Nat.le_refl _)).declarations
    rwa [List.take_length] at hreads
  refine ⟨fun hds => hds ▸ h, fun hds => h.unique (fun j hj d d' => ?_) hds⟩
  exact Declares.unique (List.mem_range.1 hj)

-- a block given up, a constant inside a block, a key written twice and a brace that closes nothing
example : (ofText "stock A \x7b\nflow F \x7b\nto: A\nconst k = 2\nrate: 1\nto: B\n\x7d\n\x7d").result =
    [⟨.const, "k", .ofList [("value", .number 2)], [], 4⟩,
      ⟨.flow, "F", .ofList [("to", .expression "B"), ("rate", .number 1)], [], 2⟩] := by
  decide +kernel

end Declaration

end SystemDynamics
