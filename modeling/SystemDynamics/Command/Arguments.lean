import SystemDynamics.Settings.Basic
/-!
# Arguments

The command line names a task and a model file and may set options. Options and the file may come
in any order, a value may be joined to its option, and of several values of one option the last
counts. After two dashes nothing is an option any more.
-/

namespace SystemDynamics.Command

/-- The options of a task. -/
inductive OptionName where
  | steps | dt | json | configPath
  deriving DecidableEq

namespace OptionName

def ofLong? : String → Option OptionName
  | "--steps" => some steps
  | "--dt" => some dt
  | "--json" => some json
  | "--config-path" => some configPath
  | _ => none

/-- Whether the option is followed by a value. -/
def takesValue : OptionName → Bool
  | json => false
  | steps | dt | configPath => true

end OptionName

/-- The tasks. -/
inductive Task where
  | run | inspect | summary
  deriving DecidableEq

namespace Task

def ofName? : String → Option Task
  | "run" => some run
  | "inspect" => some inspect
  | "summary" => some summary
  | _ => none

/-- The options that a task has. -/
def options : Task → List OptionName
  | run => [.steps, .dt, .json, .configPath]
  | inspect => [.configPath]
  | summary => [.steps, .dt, .configPath]

end Task

/-- What stands on the command line behind the task. -/
structure Parsed where
  files : List String
  values : List (OptionName × String)
  json : Bool

/-- A word of the command line. -/
inductive Word where
  | file (path : String)
  | endOfOptions
  | flag (o : OptionName)
  | joined (o : OptionName) (value : String)
  | separate (o : OptionName)
  | unknown

/-- The option of a name, and the value that may be joined to it. -/
def optionWord (options : List OptionName) (o : Option OptionName) (value : Option String) : Word :=
  match o with
  | none => .unknown
  | some o =>
    if !options.contains o then .unknown
    else
      match o.takesValue, value with
      | true, some v => .joined o v
      | true, none => .separate o
      | false, none => .flag o
      | false, some _ => .unknown

/-- What a word is. -/
def word (options : List OptionName) (s : String) : Word :=
  match s.toList with
  | ['-'] => .file s
  | ['-', '-'] => .endOfOptions
  | '-' :: '-' :: cs =>
    let name := String.ofList ('-' :: '-' :: cs.takeWhile (· ≠ '='))
    match cs.dropWhile (· ≠ '=') with
    | [] => optionWord options (OptionName.ofLong? name) none
    | _ :: value => optionWord options (OptionName.ofLong? name) (some (String.ofList value))
  | ['-', 'n'] => optionWord options (some .steps) none
  | '-' :: 'n' :: value => optionWord options (some .steps) (some (String.ofList value))
  | '-' :: _ => .unknown
  | _ => .file s

/-- Reads the words behind the task. -/
def parseWords (options : List OptionName) (p : Parsed) : List String → Option Parsed
  | [] => some p
  | s :: rest =>
    match word options s with
    | .file path => parseWords options { p with files := p.files ++ [path] } rest
    | .endOfOptions => some { p with files := p.files ++ rest }
    | .flag _ => parseWords options { p with json := true } rest
    | .joined o v => parseWords options { p with values := p.values ++ [(o, v)] } rest
    | .separate o =>
      match rest with
      | [] => none
      | v :: rest => parseWords options { p with values := p.values ++ [(o, v)] } rest
    | .unknown => none

/-- What the command line asks for. -/
structure Request where
  task : Task
  modelPath : String
  steps : Option Int
  dt : Option Float
  json : Bool
  configPath : Option String

/-- The last value of an option. -/
def Parsed.value? (p : Parsed) (o : OptionName) : Option String :=
  (p.values.reverse.find? (·.1 == o)).map (·.2)

/-- The value of an option as it is to be read, none if it cannot be read that way. -/
def readValue {α : Type} (read : List Char → Option α) : Option String → Option (Option α)
  | none => some none
  | some s => (read s.toList).map some

/-- A number of steps, as settings read one. -/
def steps? (cs : List Char) : Option Int :=
  match Settings.whole cs with
  | .number n => some n
  | .tooLong _ | .unreadable => none

/-- The request of a task, none if it is not made properly. -/
def Parsed.request? (p : Parsed) (task : Task) : Option Request :=
  match p.files, readValue steps? (p.value? .steps), readValue Settings.number? (p.value? .dt) with
  | [modelPath], some steps, some dt =>
    some { task, modelPath, steps, dt, json := p.json, configPath := p.value? .configPath }
  | _, _, _ => none

/-- The request of a command line, none if it is not made properly. -/
def Request.ofArguments? : List String → Option Request
  | [] => none
  | name :: rest =>
    let (name, rest) :=
      match name, rest with
      | "--", name :: rest => (name, rest)
      | _, _ => (name, rest)
    (Task.ofName? name).bind fun task =>
      (parseWords task.options ⟨[], [], false⟩ rest).bind (·.request? task)

end SystemDynamics.Command
