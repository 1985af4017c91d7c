import SystemDynamics.Notice
/-!
# Observers

A registry lists observers in the order of their registrations; one observer may be registered
several times. Publishing calls every registration that is there when it begins. An observer may
change the registry while it is called, which is felt by the next publication; one that fails is
logged and passed over.
-/

namespace SystemDynamics

/-- A change of a registry. -/
inductive RegistryChange (κ : Type) where
  | subscribe (k : κ)
  | unsubscribe (k : κ)
  deriving DecidableEq

/-- What an observer does when it is called, apart from its own affairs. -/
structure Reaction (κ : Type) where
  changes : List (RegistryChange κ)
  failed : Bool

/-- The registrations, the oldest first. -/
structure Registry (κ : Type) where
  observers : List κ
  deriving DecidableEq

namespace Registry

variable {κ σ ε : Type} [DecidableEq κ]

def empty : Registry κ := ⟨[]⟩

def size (r : Registry κ) : Nat := r.observers.length

def subscribe (r : Registry κ) (k : κ) : Registry κ := ⟨r.observers ++ [k]⟩

/-- Removes the oldest registration of an observer, if there is one. -/
def unsubscribe (r : Registry κ) (k : κ) : Registry κ := ⟨r.observers.erase k⟩

def change (r : Registry κ) : RegistryChange κ → Registry κ
  | .subscribe k => r.subscribe k
  | .unsubscribe k => r.unsubscribe k

/-- The log entry of a failing observer. -/
def failureEntry (observer event : String) : LogEntry :=
  ⟨.warning, .observers, "Observer " ++ observer ++ " failed on '" ++ event ++ "'"⟩

/-- How observers behave and show: `react` gives the new state of the observers' own affairs and
what the called one does to the registry. -/
structure Behaviour (κ σ ε : Type) where
  react : σ → κ → ε → σ × Reaction κ
  display : κ → String
  eventName : ε → String

/-- Calls observers one after the other with an event. -/
def callAll (b : Behaviour κ σ ε) (e : ε) : List κ → Registry κ → σ →
    Registry κ × σ × List LogEntry
  | [], r, s => (r, s, [])
  | k :: rest, r, s =>
    let (s, reaction) := b.react s k e
    let (r, s, entries) := callAll b e rest (reaction.changes.foldl change r) s
    (r, s, if reaction.failed then failureEntry (b.display k) (b.eventName e) :: entries
      else entries)

/-- Calls every registration with an event. -/
def publish (b : Behaviour κ σ ε) (r : Registry κ) (e : ε) (s : σ) :
    Registry κ × σ × List LogEntry :=
  callAll b e r.observers r s

/-- Publishes the events among notices and gives the log entries in order, those of failing
observers where they arise. -/
def deliver (b : Behaviour κ σ Event) : List Notice → Registry κ → σ →
    Registry κ × σ × List LogEntry
  | [], r, s => (r, s, [])
  | .log entry :: rest, r, s =>
    let (r, s, entries) := deliver b rest r s
    (r, s, entry :: entries)
  | .event e :: rest, r, s =>
    let (r, s, entries) := publish b r e s
    let (r, s, later) := deliver b rest r s
    (r, s, entries ++ later)

end Registry

end SystemDynamics
