import SystemDynamics.Settings.Basic
import SystemDynamics.Settings.Yaml
/-!
# Loading settings

Settings are loaded from the text of a file: from its section for the simulation if it has one,
else from the whole of it. Without a file, and from one that holds nothing, they are the
defaults.
-/

namespace SystemDynamics

/-- What is wrong with a settings file. -/
inductive SettingsError where
  | invalid (issues : List (String × Issue))
  | notAMapping (path : String)
  | sectionNotAMapping (typeName : String)
  /-- A key of the section is no text. -/
  | keyNotAText
  | badDocument (path : String) (problem : Yaml.Problem)
  deriving DecidableEq

namespace SettingsError

/-- The kind of the error, as reports name it. -/
def kind : SettingsError → String
  | invalid _ => "ValidationError"
  | notAMapping _ => "ValueError"
  | sectionNotAMapping _ | keyNotAText => "TypeError"
  | badDocument _ problem => problem.kind

def message : SettingsError → String
  | invalid issues =>
    "; ".intercalate (issues.map fun (field, issue) => field ++ ": " ++ issue.message)
  | notAMapping path => "config file " ++ path ++ " must contain a mapping"
  | sectionNotAMapping typeName =>
    "stockflow.config.schema.SimulationConfig() argument after ** must be a mapping, not "
      ++ typeName
  | keyNotAText => "keywords must be strings"
  | badDocument path problem => problem.message path

end SettingsError

namespace Settings

/-- The entries under their names, none if a key is no text. -/
def named? : List (Key × Datum) → Option (List (String × Datum))
  | [] => some []
  | (.text name, d) :: rest => (named? rest).map ((name, d) :: ·)
  | _ => none

/-- The settings of a section. -/
def ofSection : Datum → Except SettingsError Settings
  | .mapping entries =>
    match named? entries with
    | none => .error .keyNotAText
    | some entries =>
      match ofEntries entries with
      | .ok s => .ok s
      | .error issues => .error (.invalid issues)
  | d => .error (.sectionNotAMapping d.typeName)

/-- The settings that a document holds. -/
def ofDocument (path : String) (d : Datum) : Except SettingsError Settings :=
  if !d.holds then ofSection (.mapping [])
  else
    match d with
    | .mapping entries => ofSection ((Datum.lookup? entries "simulation").getD d)
    | _ => .error (.notAMapping path)

/-- The settings in a file, the defaults if there is no file. -/
def ofFile (path : String) : Option String → Except SettingsError Settings
  | none => .ok default
  | some text =>
    match Yaml.read text with
    | .ok d => ofDocument path d
    | .error problem => .error (.badDocument path problem)

end Settings

end SystemDynamics
