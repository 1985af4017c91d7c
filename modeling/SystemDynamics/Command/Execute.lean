import SystemDynamics.Command.Arguments
import SystemDynamics.Model.Batch
import SystemDynamics.Model.Limited
import SystemDynamics.Model.Summary
import SystemDynamics.Report.Json
import SystemDynamics.Report.Markup
import SystemDynamics.Settings.Load
/-!
# Executing requests

A request is carried out against the files that it may read and gives what is printed, the exit
status, and the failure that ended it, if one did.
-/

namespace SystemDynamics.Command

/-- A printed piece: a line, a table, or a text as it is. -/
inductive Block where
  | line (text : String)
  | table (title : String) (header : List String) (rows : List (List String))
  | raw (text : String)

/-- A failure that is nobody's concern but the caller's. -/
structure Failure where
  kind : String
  message : String
  deriving DecidableEq

/-- What comes of a request. -/
structure Outcome where
  status : Nat
  blocks : List Block
  failure : Option Failure

namespace Outcome

/-- Nothing but an exit status. -/
def exit (status : Nat) : Outcome := ⟨status, [], none⟩

def failed (kind message : String) : Outcome := ⟨1, [], some ⟨kind, message⟩⟩

end Outcome

/-- The text that shows of a part of a table, if its styles can be printed. -/
def textOf (t : Markup.Shown) : Except Markup.Error String :=
  match t.fault? (t.text.any fun c => c = '\t' || c = '\n') with
  | some f => .error (.badNumber f)
  | none => .ok (String.ofList t.text)

/-- A table as it shows. Its columns are measured one after the other, and so looked through for
flaws, before it is printed line by line. -/
def shownTable (title : String) (header : List String) (rows : List (List String)) :
    Except Markup.Error Block := do
  let columns ← header.zipIdx.mapM fun (name, i) =>
    (name :: rows.map (·.getD i "")).mapM Markup.shown
  let title ← textOf (← Markup.shown title)
  let cells ← (List.range (rows.length + 1)).mapM fun k =>
    columns.mapM fun column => textOf (column.getD k ⟨[], []⟩)
  return .table title (cells.headD []) cells.tail

/-- A block as it shows. -/
def Block.shown : Block → Except Markup.Error Block
  | line text => return line (← Markup.printed text)
  | table title header rows => shownTable title header rows
  | raw text => return raw text

/-- Prints blocks up to the first that cannot be shown. -/
def printed : List Block → Nat → Outcome
  | [], status => ⟨status, [], none⟩
  | b :: rest, status =>
    match b.shown with
    | .error e => .failed e.kind e.message
    | .ok b =>
      let o := printed rest status
      { o with blocks := b :: o.blocks }

/-- What stands at a path: nothing, a directory, or a file with its text. -/
inductive Entry where
  | absent
  | directory
  | file (text : String)

/-- What can be read, by its path. -/
abbrev Files := String → Entry

/-- A directory where a file should be. -/
def directoryFailure (path : String) : Failure :=
  ⟨"IsADirectoryError", "[Errno 21] Is a directory: " ++ Text.quoted path⟩

/-- A path or a name in it that is too long for any file. -/
def lengthFailure (path : String) : Failure :=
  ⟨"OSError", "[Errno 36] File name too long: " ++ Text.quoted path⟩

/-- The greatest lengths of a path and of a name in it, in bytes. -/
def longestPath : Nat := 4095

def longestName : Nat := 255

/-- The names in a path, each with the path up to it. -/
def stations (path : String) : List (List Char × String) :=
  let cs := path.toList
  let root := cs.takeWhile (· = '/')
  let names := ((cs.drop root.length).splitOn '/').filter (!·.isEmpty)
  if names.isEmpty then [([], path)]
  else
    (List.range names.length).map fun i =>
      (names.getD i [], String.ofList (root ++ ['/'].intercalate (names.take (i + 1))))

/-- What stands at the last of stations. Nothing does behind what is no directory, and a name that
is too long is only met where the names before it are directories. -/
def entryAt (files : Files) : List (List Char × String) → Option Entry
  | [] => some .absent
  | (name, path) :: rest =>
    if longestName < (String.ofList name).utf8ByteSize then none
    else
      match files path, rest with
      | entry, [] => some entry
      | .directory, rest => entryAt files rest
      | .absent, _ | .file _, _ => some .absent

/-- The text of the file at a tidy path, if there is one. No file has a zero character in its
path. -/
def textAt (files : Files) (path : String) : Except Failure (Option String) :=
  if path.toList.contains '\x00' then .ok none
  else if longestPath < path.utf8ByteSize then .error (lengthFailure path)
  else
    match entryAt files (stations path) with
    | none => .error (lengthFailure path)
    | some .absent => .ok none
    | some (.file text) => .ok (some text)
    | some .directory => .error (directoryFailure path)

/-- The slashes that a path keeps in front. Two of them are not the same as one. -/
def rootOf : List Char → String
  | '/' :: '/' :: '/' :: _ => "/"
  | '/' :: '/' :: _ => "//"
  | '/' :: _ => "/"
  | _ => ""

/-- A path without the parts that say nothing. -/
def tidyPath (s : String) : String :=
  let parts := (s.toList.splitOn '/').filter fun p => p ≠ [] && p ≠ ['.']
  let path := rootOf s.toList ++ String.ofList (['/'].intercalate parts)
  if path = "" then "." else path

/-- The last part of a tidy path. -/
def fileName (path : String) : String :=
  String.ofList (((path.toList.splitOn '/').getLast?).getD [])

/-- A number in a listing: four significant digits, or a dash for none. -/
def listed : Option Float → String
  | none => "-"
  | some x => roundedText 4 x

/-- An amount in a table: four places. -/
def amount (x : Float) : String := fixedText 4 x

/-- The number of steps and the step size that a request and the settings give. -/
def Request.total (r : Request) (s : Settings) : Int := r.steps.getD s.steps

def Request.stepSize (r : Request) (s : Settings) : Float := r.dt.getD s.dt

/-- The whole of a run as a datum. -/
def runData (m : Model) (s : Settings) : Datum :=
  let numbers (t : Table Float) : Datum := .record (t.entries.map fun e => (e.1, .real e.2))
  .record [
    ("time", .real m.clock.time),
    ("steps", .whole m.clock.step),
    ("terminated", .truth m.isTerminated),
    ("config", .record s.dump),
    ("stocks", numbers m.stockValues),
    ("history", .list (m.history.records.map numbers)),
    ("diagnostics", .list (m.diagnostics.records.entries.map fun d =>
      .record [("source", .text d.source), ("message", .text d.message),
        ("time", match d.time with | some t => .real t | none => .null)]))]

/-- What a run prints. -/
def runBlocks (path : String) (m : Model) (taken : Nat) : List Block :=
  let rows := m.stocks.entries.map fun (name, s) => [name, amount s.value, s.units.getD ""]
  let status := if m.isTerminated then "[yellow]terminated[/yellow]" else "[green]running[/green]"
  [.table (fileName path ++ " after " ++ toString taken ++ " steps") ["Stock", "Value", "Units"]
      rows,
    .line ("time=" ++ messageText m.clock.time ++ " step=" ++ toString m.clock.step ++
      " status=" ++ status)] ++
  if m.diagnostics.total = 0 then []
  else [.line ("[yellow]" ++ toString m.diagnostics.total ++
    " diagnostic(s) recorded; rerun with --json for details[/yellow]")]

/-- The row of a flow in the listing of a model. -/
def flowRow (name : String) (f : Flow) : List String :=
  let rate :=
    match f.rateText, f.rate with
    | some text, _ => text
    | none, .fixed x => listed (some x)
    | none, _ => listed none
  [name, f.source.name?.getD "source", f.target.name?.getD "sink", rate,
    ", ".intercalate f.dependencies]

/-- What the listing of a model prints. -/
def inspectBlocks (m : Model) : List Block :=
  let stockRows := m.initial.entries.filterMap fun (name, x) =>
    (m.stocks.get? name).map fun s =>
      [name, listed (some x), listed s.least, listed s.greatest, s.units.getD ""]
  let flowRows := m.flows.entries.map fun (name, f) => flowRow name f
  [.table "Stocks" ["Name", "Initial", "Min", "Max", "Units"] stockRows,
    .table "Flows" ["Name", "From", "To", "Rate", "Reads"] flowRows] ++
  (m.constants.entries.map fun (name, x) =>
    .line ("const [cyan]" ++ name ++ "[/cyan] = " ++ messageText x)) ++
  (m.curves.entries.map fun (name, c) =>
    .line ("lookup [cyan]" ++ name ++ "[/cyan]: " ++ toString c.points.length ++ " point(s)")) ++
  (m.surfaces.entries.map fun (name, s) =>
    .line ("lookup2d [cyan]" ++ name ++ "[/cyan]: " ++ toString s.points.length ++ " point(s)")) ++
  (m.graphs.entries.map fun (name, g) =>
    .line ("graph [cyan]" ++ name ++ "[/cyan] (" ++ g.type ++ "): " ++
      ", ".intercalate g.series)) ++
  match m.terminationText with
  | none | some "" => []
  | some text => [.line ("terminate when [magenta]" ++ text ++ "[/magenta]")]

/-- What the summary of a run prints. -/
def summaryBlocks (path : String) (m : Model) : List Block :=
  [.table (fileName path ++ " summary") ["Stock", "Min", "Max", "Last", "Avg"]
    (m.summarise.map fun (name, s) => name :: s.entries.map fun e => amount e.2)]

/-- Runs the model of a request and prints what `report` makes of it. -/
def runAndReport (r : Request) (s : Settings) (m : Model)
    (report : Model → Nat → Outcome) : Noted Outcome :=
  let dt := r.stepSize s
  if dt ≤ 0.0 then return printed [.line "[red]--dt must be positive[/red]"] 1
  else
    let total := r.total s
    match m.runBatchedWith (.whole total) (.real dt) (some (s.effectiveBatchSize (some total))) with
    | .error e => return .failed e.kind e.message
    | .ok run => do
      let b ← run
      return report b.model b.completed

/-- What a run prints as JSON. -/
def jsonOutcome (m : Model) (s : Settings) : Outcome :=
  let data := runData m s
  match Json.unwritable? data with
  | some u => .failed u.kind u.message
  | none => ⟨0, [.raw (Json.write 0 data ++ "\n")], none⟩

/-- Carries out a request whose settings and model are at hand. -/
def perform (r : Request) (path : String) (s : Settings) (m : Model) : Noted Outcome :=
  match r.task with
  | .inspect => return printed (inspectBlocks m) 0
  | .summary => runAndReport r s m fun m _ => printed (summaryBlocks path m) 0
  | .run => runAndReport r s m fun m taken =>
    if r.json then jsonOutcome m s else printed (runBlocks path m taken) 0

/-- The settings of a request. -/
def settings (files : Files) (r : Request) : Except Failure Settings :=
  match r.configPath.map tidyPath with
  | none => .ok .default
  | some path => do
    let text ← textAt files path
    (Settings.ofFile path text).mapError fun e => ⟨e.kind, e.message⟩

/-- Builds the model that a text declares under the capacities of the settings, if these are
possible and nothing in the text nests too deeply, and works with it. -/
def withModel (s : Settings) (text : String) (work : Model → Noted Outcome) : Noted Outcome := do
  let ds ← Declaration.ofText text
  match Model.Capacities.check s.historyCapacity s.diagnosticsCapacity with
  | .error e => return .failed e.kind e.message
  | .ok c =>
    match ← Model.ofDeclarationsWithin Depth.standard c ds with
    | .error e => return .failed e.kind e.message
    | .ok m => work m

/-- Carries out a request. -/
def execute (files : Files) (r : Request) : Noted Outcome :=
  let path := tidyPath r.modelPath
  match settings files r, textAt files path with
  | .error f, _ | .ok _, .error f => return .failed f.kind f.message
  | .ok _, .ok none => return printed [.line ("[red]Model file not found:[/red] " ++ path)] 1
  | .ok s, .ok (some text) => withModel s text (perform r path s)

/-- Carries out what the arguments ask for; the status of improper arguments is two. -/
def ofArguments (files : Files) (arguments : List String) : Noted Outcome :=
  match Request.ofArguments? arguments with
  | none => return .exit 2
  | some r => execute files r

end SystemDynamics.Command
