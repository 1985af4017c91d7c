import SystemDynamics.Recent
import SystemDynamics.Log
import SystemDynamics.Number.Decimal
/-!
# Diagnostics

The record of the failures that a simulation absorbs. The last ones are kept, all are counted,
and each is logged: at the record's level when its source and message come for the first time
since the record was last cleared, else for debugging only.
-/

namespace SystemDynamics

/-- A failure: where it arose, what it was, and when, if the clock was running. -/
structure Diagnostic where
  source : String
  message : String
  time : Option Float
  deriving DecidableEq

structure Diagnostics where
  level : Level
  records : Recent Diagnostic
  /-- The sources and messages since the last clear, the latest first. -/
  seen : List (String × String)
  total : Nat
  deriving DecidableEq

namespace Diagnostics

/-- The capacity of a record that none is set for. -/
def defaultCapacity : Int := 200

/-- An empty record; a capacity below one counts as one. -/
def withCapacity (n : Int) (level : Level) : Diagnostics := ⟨level, .withCapacity n, [], 0⟩

/-- How the log shows a failure. -/
def logText (d : Diagnostic) : String :=
  match d.time with
  | none => d.source ++ ": " ++ d.message
  | some t => d.source ++ " @ t=" ++ messageText t ++ ": " ++ d.message

/-- The level that the next report of a source and message is logged at. -/
def nextLevel (ds : Diagnostics) (source message : String) : Level :=
  if (source, message) ∈ ds.seen then .debug else ds.level

/-- Records a failure, and gives its log entry. -/
def report (ds : Diagnostics) (d : Diagnostic) : Diagnostics × LogEntry :=
  ({ ds with
      records := ds.records.push d
      seen :=
        if (d.source, d.message) ∈ ds.seen then ds.seen
        else (d.source, d.message) :: ds.seen
      total := ds.total + 1 },
    ⟨ds.nextLevel d.source d.message, .diagnostics, logText d⟩)

/-- Records failures in order. -/
def reportAll (ds : Diagnostics) : List Diagnostic → Diagnostics × List LogEntry
  | [] => (ds, [])
  | d :: rest =>
    let (ds, entry) := ds.report d
    let (ds, entries) := ds.reportAll rest
    (ds, entry :: entries)

def clear (ds : Diagnostics) : Diagnostics :=
  { ds with records := ds.records.clear, seen := [], total := 0 }

end Diagnostics

end SystemDynamics
