/-!
# The most recent entries

A bounded record keeps the last entries that were added to it, as many as its capacity, which
is at least one. The oldest goes first. No record in memory can have a capacity above
`Datum.greatestSize`; whoever makes one for a capacity that is given to them has it checked before
(`Datum.toCapacity`). What is proved about records holds of every capacity.
-/

namespace SystemDynamics

/-- At most `capacity` entries, the oldest first. -/
structure Recent (α : Type) where
  capacity : Nat
  positive : 0 < capacity
  entries : List α
  bounded : entries.length ≤ capacity
  deriving DecidableEq

namespace Recent

variable {α : Type}

/-- An empty record; a capacity below one counts as one. One above `Datum.greatestSize` has been
refused before. -/
def withCapacity (n : Int) : Recent α := ⟨max 1 n.toNat, by omega, [], by simp⟩

/-- The last `n` entries of a list. -/
def lastOf (n : Nat) (xs : List α) : List α := xs.drop (xs.length - n)

theorem length_lastOf (n : Nat) (xs : List α) : (lastOf n xs).length = min n xs.length := by
  simp [lastOf]
  omega

/-- More than there are is all that there are. -/
theorem lastOf_min (n : Nat) (xs : List α) : lastOf (min n xs.length) xs = lastOf n xs := by
  unfold lastOf
  congr 1
  omega

def push (r : Recent α) (x : α) : Recent α where
  capacity := r.capacity
  positive := r.positive
  entries := lastOf r.capacity (r.entries ++ [x])
  bounded := by
    rw [length_lastOf]
    omega

def clear (r : Recent α) : Recent α := ⟨r.capacity, r.positive, [], by simp⟩

def latest? (r : Recent α) : Option α := r.entries.getLast?

def size (r : Recent α) : Nat := r.entries.length

@[simp] theorem entries_withCapacity (n : Int) : (withCapacity n : Recent α).entries = [] := rfl

@[simp] theorem entries_push (r : Recent α) (x : α) :
    (r.push x).entries = lastOf r.capacity (r.entries ++ [x]) := rfl

@[simp] theorem capacity_push (r : Recent α) (x : α) : (r.push x).capacity = r.capacity := rfl

@[simp] theorem entries_clear (r : Recent α) : r.clear.entries = [] := rfl

theorem clear_foldl_push (r : Recent α) (xs : List α) : (xs.foldl push r).clear = r.clear := by
  induction xs generalizing r with
  | nil => rfl
  | cons x xs ih => exact ih (r.push x)

/-- A record made by pushing holds the last of all that was pushed. -/
theorem entries_foldl_push (r : Recent α) (xs : List α) :
    (xs.foldl push r).entries = lastOf r.capacity (r.entries ++ xs) := by
  induction xs generalizing r with
  | nil =>
    have h := r.bounded
    simp [lastOf, Nat.sub_eq_zero_of_le h]
  | cons x xs ih =>
    rw [List.foldl_cons, ih, capacity_push, entries_push]
    simp only [lastOf, List.length_append, List.length_drop, List.length_cons, List.length_nil]
    have h : r.entries ++ x :: xs = (r.entries ++ [x]) ++ xs := by simp
    rw [h, ← List.drop_append_of_le_length (by simp), List.drop_drop]
    congr 1
    omega

/-- The entry at an index; a negative index counts from the end. -/
def at? (xs : List α) (i : Int) : Option α :=
  if 0 ≤ i then xs[i.toNat]?
  else if -i ≤ xs.length then xs[(xs.length + i).toNat]?
  else none

end Recent

end SystemDynamics
