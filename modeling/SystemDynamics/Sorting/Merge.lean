import SystemDynamics.Sorting.Search
/-!
# Merging

Two neighbouring runs are merged from the front or from the back. One of them is kept aside, the
other is moved up to it; the merge ends when the moved run is used up or one of the kept is left.
While the runs take turns, one item is taken at a time. After several items from one run in a
row the merge gallops: it searches how many items to take at once, as long as that pays. The
number of items that counts as several is learnt from one merge to the next.
-/

namespace SystemDynamics

namespace Sorting

variable {β : Type}

/-- What merging from an end looks at. -/
structure Direction (β : Type) where
  /-- Whether the next moved item comes first, given the next kept one. -/
  movedNext : β → β → Bool
  /-- How many of the kept items come before a moved one. -/
  keptBefore : β → List β → Nat
  /-- How many of the moved items come before a kept one. -/
  movedBefore : β → List β → Nat
  /-- Whether galloping begins in the kept run. -/
  keptFirst : Bool

/-- From the front: the left run is kept, and an item of it comes before its equals. -/
def forward (before : β → β → Bool) : Direction β where
  movedNext kept moved := before moved kept
  keptBefore moved xs := Search.fromFront (fun i => xs[i]?.any (!before moved ·)) xs.length
  movedBefore kept ys := Search.fromFront (fun i => ys[i]?.any (before · kept)) ys.length
  keptFirst := true

/-- From the back, over reversed runs: the right run is kept, and an item of it comes behind its
equals. -/
def backward (before : β → β → Bool) : Direction β where
  movedNext kept moved := before kept moved
  keptBefore moved xs :=
    xs.length -
      Search.fromBack (fun i => xs[xs.length - 1 - i]?.any (before · moved)) xs.length
  movedBefore kept ys :=
    ys.length -
      Search.fromBack (fun i => ys[ys.length - 1 - i]?.any (!before kept ·)) ys.length
  keptFirst := false

/-- The state of a merge: the output so far, the last item first, what is left of both runs, and
how many items in a row make it gallop. -/
structure Merging (β : Type) where
  output : List β
  kept : List β
  moved : List β
  patience : Nat

namespace Merging

def takeKept (m : Merging β) (count : Nat) : Merging β :=
  { m with output := (m.kept.take count).reverse ++ m.output, kept := m.kept.drop count }

def takeMoved (m : Merging β) (count : Nat) : Merging β :=
  { m with output := (m.moved.take count).reverse ++ m.output, moved := m.moved.drop count }

/-- Whether the rest needs no more comparing. -/
def isOver (m : Merging β) : Bool := m.moved.isEmpty || decide (m.kept.length ≤ 1)

/-- The merged run; the rest of the moved run comes before that of the kept one. -/
def result (m : Merging β) : List β := m.output.reverse ++ m.moved ++ m.kept

/-- Takes the kept items that come before the next moved one, then that one; with the number of
those items. -/
def gallopKept (d : Direction β) (m : Merging β) : Merging β × Nat :=
  match m.moved with
  | [] => (m, 0)
  | y :: _ =>
    let count := d.keptBefore y m.kept
    let m := m.takeKept count
    (if m.isOver then m else m.takeMoved 1, count)

/-- Takes the moved items that come before the next kept one, then that one; with the number of
those items. -/
def gallopMoved (d : Direction β) (m : Merging β) : Merging β × Nat :=
  match m.kept with
  | [] => (m, 0)
  | x :: _ =>
    let count := d.movedBefore x m.moved
    let m := m.takeMoved count
    (if m.isOver then m else m.takeKept 1, count)

/-- The number of items at once that makes galloping pay. -/
def gain : Nat := 7

/-- How a merge goes on: item by item, with the numbers of kept and of moved items taken last in
a row, or galloping. -/
inductive Pace where
  | walking (kept moved : Nat)
  | galloping

/-- The pace after so many items in a row: `walking`, or galloping if they are many and the merge
is not over. -/
def pace (m : Merging β) (kept moved : Nat) : Merging β × Pace :=
  if !m.isOver && (m.patience ≤ kept || m.patience ≤ moved) then
    ({ m with patience := m.patience + 1 }, .galloping)
  else (m, .walking kept moved)

/-- The next item, and the pace after it. -/
def walk (d : Direction β) (kept moved : Nat) (m : Merging β) : Merging β × Pace :=
  match m.kept, m.moved with
  | x :: _, y :: _ =>
    if d.movedNext x y then (m.takeMoved 1).pace 0 (moved + 1)
    else (m.takeKept 1).pace (kept + 1) 0
  | _, _ => (m, .walking kept moved)

/-- Gallops once in both runs, and the pace after it. -/
def gallop (d : Direction β) (m : Merging β) : Merging β × Pace :=
  let m := { m with patience := if 1 < m.patience then m.patience - 1 else m.patience }
  let (first, second) :=
    if d.keptFirst then (gallopKept d, gallopMoved d) else (gallopMoved d, gallopKept d)
  let (m, taken) := first m
  if m.isOver then (m, .galloping)
  else
    let (m, more) := second m
    if m.isOver || gain ≤ taken || gain ≤ more then (m, .galloping)
    else ({ m with patience := m.patience + 1 }, .walking 0 0)

/-- Goes on until the merge is over, for at most so many paces. -/
def finish (d : Direction β) : Nat → Merging β × Pace → Merging β
  | 0, (m, _) => m
  | limit + 1, (m, p) =>
    if m.isOver then m
    else
      finish d limit
        (match p with
        | .walking kept moved => m.walk d kept moved
        | .galloping => m.gallop d)

/-- The merge of two runs; the first moved item is known to come first. Each pace takes an item
at least. -/
def ofRuns (d : Direction β) (kept moved : List β) (patience : Nat) : Merging β :=
  finish d (kept.length + moved.length)
    ((Merging.mk [] kept moved patience).takeMoved 1, .walking 0 0)

end Merging

/-- The merge of two neighbouring runs, and how many items in a row make the next merge gallop.
What lies at the left end before the right run, and at the right end behind the left run, stays;
of the rest the shorter run is kept. -/
def merge (before : β → β → Bool) (left right : List β) (patience : Nat) : List β × Nat :=
  match right with
  | [] => (left, patience)
  | y :: _ =>
    let settled := (forward before).keptBefore y left
    let rest := left.drop settled
    match rest.getLast? with
    | none => (left ++ right, patience)
    | some x =>
      let unsettled := Search.fromBack (fun i => right[i]?.any (before · x)) right.length
      let moving := right.take unsettled
      if moving.isEmpty then (left ++ right, patience)
      else if rest.length ≤ moving.length then
        let m := Merging.ofRuns (forward before) rest moving patience
        (left.take settled ++ m.result ++ right.drop unsettled, m.patience)
      else
        let m := Merging.ofRuns (backward before) moving.reverse rest.reverse patience
        (left.take settled ++ m.result.reverse ++ right.drop unsettled, m.patience)

end Sorting

end SystemDynamics
