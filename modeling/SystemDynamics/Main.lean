import SystemDynamics.Command.Execute
import SystemDynamics.Report.Layout
/-!
# The program

Reads the files that the arguments name, carries out the request, and prints its outcome and
what the settings let through of the log.
-/

open SystemDynamics

/-- What can be read at a path. -/
def readEntry (path : String) : IO Command.Entry := do
  try
    return .file (← IO.FS.readFile path)
  catch
    | .inappropriateType _ _ _ => return .directory
    | _ => return .absent

def printBlock : Command.Block → IO Unit
  | .line text => IO.println text
  | .raw text => IO.print text
  | .table title header rows => do
    for line in Layout.titleLines title (header :: rows) ++ Layout.lines (header :: rows) do
      IO.println line

/-- The files that the arguments name, with their texts. -/
def filesOf (request : Command.Request) : IO Command.Files := do
  let paths := (request.modelPath :: request.configPath.toList).map Command.tidyPath
  let stations := paths.flatMap fun path => (Command.stations path).map (·.2)
  let entries ← stations.mapM fun path => do return (path, ← readEntry path)
  return fun path => ((entries.find? (·.1 == path)).map (·.2)).getD .absent

/-- Carries out a request and gives the exit status. -/
def runRequest (request : Command.Request) : IO UInt32 := do
  let files ← filesOf request
  let outcome := Command.execute files request
  let shows (entry : LogEntry) : Bool :=
    match Command.settings files request with
    | .ok s => s.logs entry.level
    | .error _ => false
  for entry in (Notice.entries outcome.notices).filter shows do
    IO.eprintln entry.message
  for block in outcome.result.blocks do
    printBlock block
  for failure in outcome.result.failure.toList do
    IO.eprintln (failure.kind ++ ": " ++ failure.message)
  return outcome.result.status.toUInt32

def main (arguments : List String) : IO UInt32 :=
  match Command.Request.ofArguments? arguments with
  | some request => runRequest request
  | none => do
    IO.eprintln "usage: (run | inspect | summary) MODEL [OPTIONS]"
    return 2
