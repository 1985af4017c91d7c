import SystemDynamics.Fault
import SystemDynamics.Recent
import SystemDynamics.Table
/-!
# History

The history of a model holds its most recent snapshots: the values of all stocks at a time.
-/

namespace SystemDynamics

structure Snapshot where
  time : Float
  values : Table Float
  deriving DecidableEq

/-- The most recent snapshots, the oldest first. -/
abbrev History := Recent Snapshot

namespace Snapshot

/-- The snapshot as one table: the time under the name `time`, then the values. A value under
that very name takes the place of the time. -/
def record (s : Snapshot) : Table Float :=
  (Table.empty.insert "time" s.time).insertAll s.values.entries

end Snapshot

namespace History

/-- The number of snapshots kept where no other is set. -/
def defaultCapacity : Int := 1000

/-- The values under a name, in order, from the snapshots that have one. -/
def series (h : History) (name : String) : List Float :=
  h.entries.filterMap (·.values.get? name)

def times (h : History) : List Float := h.entries.map (·.time)

def records (h : History) : List (Table Float) := h.entries.map (·.record)

/-- The snapshot at an index; a negative index counts from the end. -/
def snapshotAt (h : History) (index : Datum) : Except Fault Snapshot := do
  match Recent.at? h.entries (← index.toIndex .badSampleIndex) with
  | some s => return s
  | none => throw .noSuchSample

end History

end SystemDynamics
