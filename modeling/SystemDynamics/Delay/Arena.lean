import SystemDynamics.Delay.Kernel
import SystemDynamics.Fault
/-!
# The delay arena

Every delay call of an expression owns a slot in the arena of its model. A slot is labelled when
it is claimed and empty until the call is first evaluated; from then on the evaluations of the
call share what the slot remembers.
-/

namespace SystemDynamics

/-- The kinds of delay. -/
inductive DelayKind where
  | smooth | transport | gradual
  deriving DecidableEq

namespace DelayKind

/-- The function that calls for the kind of delay. -/
def name : DelayKind → String
  | smooth => "SMOOTH"
  | transport => "DELAY"
  | gradual => "DELAY_GRADUAL"

def ofName? : String → Option DelayKind
  | "SMOOTH" => some smooth
  | "DELAY" => some transport
  | "DELAY_GRADUAL" => some gradual
  | _ => none

/-- The output of a delay at a time, and what it remembers from then on. -/
def advance (kind : DelayKind) (time dt : Float) (s : DelayState Float) (value parameter : Float) :
    DelayState Float × Except Fault (Output Float) :=
  match kind with
  | smooth =>
    let (s, y) := s.smooth value parameter time dt
    (s, .ok y)
  | transport =>
    match s.transport value parameter time with
    | (s, some y) => (s, .ok y)
    | (s, none) => (s, .error .noSuchSample)
  | gradual =>
    let (s, y) := DelayState.gradual Float.exp s value parameter time
    (s, .ok y)

end DelayKind

/-- A place for what one delay call remembers. -/
structure Slot where
  kind : String
  label : String
  state : Option (DelayState Float)

namespace Slot

/-- A slot that has been claimed and not yet used. -/
def claimed (kind label : String) : Slot := ⟨kind, label, none⟩

/-- What the slot remembers, nothing yet if it is empty. -/
def current (s : Slot) : DelayState Float := s.state.getD (.fresh s.kind)

/-- The slot with a state in it. -/
def wake (s : Slot) : Slot := { s with state := some s.current }

def clear (s : Slot) : Slot := { s with state := none }

end Slot

end SystemDynamics
