/-!
# Tables

A table lists values by name in the order in which the names first came. Writing to a name that
is there keeps its place; a name that is erased and written again goes to the end. No name
stands twice.
-/

namespace SystemDynamics

/-- Values by name, in order of arrival. -/
structure Table (α : Type) where
  entries : List (String × α)
  nodup : (entries.map Prod.fst).Nodup

namespace Table

variable {α β : Type}

instance [DecidableEq α] : DecidableEq (Table α) := fun s t =>
  decidable_of_iff (s.entries = t.entries)
    ⟨fun h => by cases s; cases t; cases h; rfl, congrArg _⟩

def empty : Table α := ⟨[], .nil⟩

def names (t : Table α) : List String := t.entries.map Prod.fst

def size (t : Table α) : Nat := t.entries.length

/-- The value under a name in a list of entries. -/
def find? (name : String) : List (String × α) → Option α
  | [] => none
  | (k, v) :: rest => if k = name then some v else find? name rest

def get? (t : Table α) (name : String) : Option α := find? name t.entries

def contains (t : Table α) (name : String) : Bool := (t.get? name).isSome

/-- Writes a value under a name, in its place if the name is there, else at the end. -/
def put (name : String) (v : α) : List (String × α) → List (String × α)
  | [] => [(name, v)]
  | (k, w) :: rest => if k = name then (k, v) :: rest else (k, w) :: put name v rest

theorem mem_put_names {name : String} {v : α} :
    ∀ {es : List (String × α)} {k : String},
      k ∈ (put name v es).map Prod.fst → k = name ∨ k ∈ es.map Prod.fst
  | [], k, h => by simpa [put] using h
  | (k', w) :: rest, k, h => by
    unfold put at h
    split at h
    · exact .inr h
    · simp only [List.map_cons, List.mem_cons] at h ⊢
      rcases h with h | h
      · exact .inr (.inl h)
      · exact (mem_put_names h).imp_right .inr

theorem nodup_put {name : String} {v : α} :
    ∀ {es : List (String × α)}, (es.map Prod.fst).Nodup → ((put name v es).map Prod.fst).Nodup
  | [], _ => by simp [put]
  | (k, w) :: rest, h => by
    simp only [List.map_cons, List.nodup_cons] at h
    unfold put
    split
    · simpa using h
    · rename_i hk
      simp only [List.map_cons, List.nodup_cons]
      exact ⟨fun hm => (mem_put_names hm).elim hk h.1, nodup_put h.2⟩

def insert (t : Table α) (name : String) (v : α) : Table α :=
  ⟨put name v t.entries, nodup_put t.nodup⟩

def erase (t : Table α) (name : String) : Table α :=
  ⟨t.entries.filter (·.1 ≠ name), t.nodup.sublist (List.filter_sublist.map _)⟩

/-- Changes each value, given its name. -/
def mapWithName (f : String → α → β) (t : Table α) : Table β :=
  ⟨t.entries.map fun e => (e.1, f e.1 e.2), by
    rw [List.map_map]; exact t.nodup⟩

def map (f : α → β) (t : Table α) : Table β := t.mapWithName fun _ => f

/-- Changes the value under a name, if there is one. -/
def modify (t : Table α) (name : String) (f : α → α) : Table α :=
  t.mapWithName fun k v => if k = name then f v else v

/-- Writes the entries one after the other. -/
def insertAll (t : Table α) (es : List (String × α)) : Table α :=
  es.foldl (fun t e => t.insert e.1 e.2) t

/-- The table of the entries, a later value in the place of an earlier one of the name. -/
def ofList (es : List (String × α)) : Table α := empty.insertAll es

@[ext] theorem ext {s t : Table α} (h : s.entries = t.entries) : s = t := by
  cases s
  cases t
  cases h
  rfl

@[simp] theorem entries_mapWithName (f : String → α → β) (t : Table α) :
    (t.mapWithName f).entries = t.entries.map fun e => (e.1, f e.1 e.2) := rfl

@[simp] theorem entries_map (f : α → β) (t : Table α) :
    (t.map f).entries = t.entries.map fun e => (e.1, f e.2) := rfl

theorem find?_eq_some_iff {name : String} {v : α} :
    ∀ {es : List (String × α)}, (es.map Prod.fst).Nodup →
      (find? name es = some v ↔ (name, v) ∈ es)
  | [], _ => by simp [find?]
  | (k, w) :: rest, h => by
    simp only [List.map_cons, List.nodup_cons] at h
    unfold find?
    split
    · rename_i hk
      subst hk
      have hrest : (k, v) ∉ rest := fun hm => h.1 (List.mem_map_of_mem hm)
      simp [hrest, eq_comm]
    · rename_i hk
      have hne : (name, v) ≠ (k, w) := fun he => hk (congrArg Prod.fst he).symm
      simp [find?_eq_some_iff h.2, hne]

theorem get?_eq_some_iff (t : Table α) {name : String} {v : α} :
    t.get? name = some v ↔ (name, v) ∈ t.entries :=
  find?_eq_some_iff t.nodup

theorem get?_mapWithName (f : String → α → β) (t : Table α) (name : String) :
    (t.mapWithName f).get? name = (t.get? name).map (f name) := by
  unfold get?
  rw [entries_mapWithName]
  induction t.entries with
  | nil => rfl
  | cons e es ih =>
    simp only [List.map_cons, find?]
    split
    · rename_i hk
      rw [← hk]
      rfl
    · exact ih

theorem get?_map (f : α → β) (t : Table α) (name : String) :
    (t.map f).get? name = (t.get? name).map f :=
  t.get?_mapWithName (fun _ => f) name

theorem mem_put {name : String} {v : α} :
    ∀ {es : List (String × α)} {e : String × α}, e ∈ put name v es → e = (name, v) ∨ e ∈ es
  | [], e, h => .inl (List.mem_singleton.1 h)
  | (k, w) :: rest, e, h => by
    unfold put at h
    split at h
    · rename_i hk
      rcases List.mem_cons.1 h with h | h
      · exact .inl (hk ▸ h)
      · exact .inr (.tail _ h)
    · rcases List.mem_cons.1 h with h | h
      · exact .inr (h ▸ .head _)
      · exact (mem_put h).imp_right (.tail _)

theorem map_put (f : α → β) (name : String) (v : α) :
    ∀ es : List (String × α),
      (put name v es).map (fun e => (e.1, f e.2)) = put name (f v) (es.map fun e => (e.1, f e.2))
  | [] => rfl
  | (k, w) :: rest => by
    simp only [put, List.map_cons]
    split
    · rfl
    · rw [List.map_cons, map_put f name v rest]

theorem map_insert (f : α → β) (t : Table α) (name : String) (v : α) :
    (t.insert name v).map f = (t.map f).insert name (f v) :=
  ext (map_put f name v t.entries)

end Table

end SystemDynamics
