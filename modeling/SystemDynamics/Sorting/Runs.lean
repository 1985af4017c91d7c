import SystemDynamics.Sorting.Merge
/-!
# Sorting by runs

A list is cut into runs, stretches that ascend or strictly descend; a short run is filled up by
insertion. Runs are put on a stack, and neighbouring runs are merged by the depth at which their
middles part in the binary subdivision of the whole list. If the order is one in which all items
can be compared, this sorts stably. Where it is not, as with numbers that are none, the outcome
depends on which items are compared, and that is what the definitions fix.
-/

namespace SystemDynamics

namespace Sorting

variable {β : Type} (before : β → β → Bool)

/-- The items that follow one as long as a relation holds from each to the next, and the
others. -/
def run (holds : β → β → Bool) (x : β) : List β → List β × List β
  | [] => ([], [])
  | y :: rest =>
    if holds x y then
      let (more, others) := run holds y rest
      (y :: more, others)
    else ([], y :: rest)

/-- Puts an item among sorted ones, behind those that are not after it. -/
def insert (sorted : List β) (x : β) : List β :=
  let i := Search.bisect (fun i => sorted[i]?.any (before x)) sorted.length 0 sorted.length
  sorted.take i ++ x :: sorted.drop i

/-- The first run of a list in ascending order, and the rest. A run that is shorter than `least`
is filled up. -/
def firstRun (least : Nat) : List β → List β × List β
  | x :: y :: rest =>
    let descends := before y x
    let (more, others) := run (fun x y => before y x == descends) x (y :: rest)
    let found := if descends then (x :: more).reverse else x :: more
    let missing := least - found.length
    ((others.take missing).foldl (insert before) found, others.drop missing)
  | items => (items, [])

/-- From this length on a list is cut into several runs. -/
def manyItems : Nat := 64

/-- The least length of a run in a list of so many items: the number itself below `manyItems`,
else its six leading binary digits, and one more if `extra` or any other digit is one. -/
def leastRun (extra count : Nat) : Nat :=
  if count < manyItems then count + extra else leastRun (max extra (count % 2)) (count / 2)
termination_by count
decreasing_by simp only [manyItems] at *; omega

/-- A run that waits to be merged, and the depth of the border to the run that follows it. -/
structure Pending (β : Type) where
  items : List β
  depth : Nat

/-- The depth of a border: the number of binary digits up to the first in which the middles of
the runs beside it differ, as parts of the whole. `left` and `right` are twice the middles, and
so many digits are looked at. -/
def depthOf (whole : Nat) : Nat → Nat → Nat → Nat
  | 0, _, _ => 0
  | digits + 1, left, right =>
    if whole ≤ left then depthOf whole digits (2 * (left - whole)) (2 * (right - whole)) + 1
    else if whole ≤ right then 1
    else depthOf whole digits (2 * left) (2 * right) + 1

/-- The number of digits of a depth that are looked at. -/
def depthLimit : Nat := 64

/-- What has been sorted so far: the waiting runs, the last one first, and how many items in a
row make the next merge gallop. -/
structure Stack (β : Type) where
  runs : List (Pending β)
  patience : Nat

namespace Stack

/-- Merges the last two runs as long as the border between them is deeper than another one; at
most so often. -/
def collapse (depth : Nat) : Nat → Stack β → Stack β
  | 0, s => s
  | limit + 1, s =>
    match s.runs with
    | last :: previous :: rest =>
      if depth < previous.depth then
        let (items, patience) := merge before previous.items last.items s.patience
        collapse depth limit ⟨⟨items, previous.depth⟩ :: rest, patience⟩
      else s
    | _ => s

/-- Adds a run that follows the others, `start` being the place where it begins. -/
def push (whole start : Nat) (items : List β) (s : Stack β) : Stack β :=
  match s.runs with
  | [] => ⟨[⟨items, 0⟩], s.patience⟩
  | last :: _ =>
    let left := 2 * start - last.items.length
    let depth := depthOf whole depthLimit left (left + last.items.length + items.length)
    let s := s.collapse before depth s.runs.length
    match s.runs with
    | [] => ⟨[⟨items, 0⟩], s.patience⟩
    | last :: rest => ⟨⟨items, 0⟩ :: { last with depth } :: rest, s.patience⟩

/-- Merges all runs from the end, the shorter neighbour of the last but one first; at most so
many merges. -/
def mergeAll : Nat → Stack β → List β
  | 0, s => s.runs.reverse.flatMap (·.items)
  | limit + 1, s =>
    match s.runs with
    | [] => []
    | [last] => last.items
    | last :: middle :: first :: rest =>
      if first.items.length < last.items.length then
        let (items, patience) := merge before first.items middle.items s.patience
        mergeAll limit ⟨last :: ⟨items, 0⟩ :: rest, patience⟩
      else
        let (items, patience) := merge before middle.items last.items s.patience
        mergeAll limit ⟨⟨items, 0⟩ :: first :: rest, patience⟩
    | [last, first] =>
      let (items, patience) := merge before first.items last.items s.patience
      mergeAll limit ⟨[⟨items, 0⟩], patience⟩

end Stack

/-- Puts the runs of a list on the stack, at most so many. -/
def pushRuns (whole least : Nat) : Nat → Nat → List β → Stack β → Stack β
  | 0, _, _, s => s
  | limit + 1, start, items, s =>
    if items.isEmpty then s
    else
      let (found, others) := firstRun before least items
      pushRuns whole least limit (start + found.length) others
        (s.push before whole start found)

/-- The items sorted by runs. -/
def sortByRuns (items : List β) : List β :=
  let count := items.length
  (pushRuns before count (leastRun 0 count) count 0 items ⟨[], Merging.gain⟩).mergeAll before count

end Sorting

end SystemDynamics
