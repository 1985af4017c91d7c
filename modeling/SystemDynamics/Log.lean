/-!
# The log

What parts of the library note while they work. An entry has a level, the part that notes it,
and a message.
-/

namespace SystemDynamics

/-- How much an entry matters: the more, the higher the number. -/
structure Level where
  rank : Int
  deriving DecidableEq

namespace Level

def debug : Level := ⟨10⟩

def info : Level := ⟨20⟩

def warning : Level := ⟨30⟩

/-- The name of a level, with its number if it has no name of its own. -/
def name (l : Level) : String :=
  match l.rank with
  | 0 => "NOTSET"
  | 10 => "DEBUG"
  | 20 => "INFO"
  | 30 => "WARNING"
  | 40 => "ERROR"
  | 50 => "CRITICAL"
  | n => "Level " ++ toString n

end Level

/-- The parts that write to the log. -/
inductive LogSource where
  | declarations | loading | model | expressions | diagnostics | observers
  deriving DecidableEq

structure LogEntry where
  level : Level
  source : LogSource
  message : String
  deriving DecidableEq

end SystemDynamics
