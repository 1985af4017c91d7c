import SystemDynamics.Table
import SystemDynamics.Log
/-!
# Notices

What comes out of working with a model besides its new state, in the order in which it arises:
entries for the log, and events for the observers of the model.
-/

namespace SystemDynamics

/-- What a model announces. -/
inductive Event where
  | step (time : Float) (step : Nat) (values : Table Float)
  | terminated (time : Float) (step : Nat)
  | reset (time : Float) (step : Nat)
  deriving DecidableEq

def Event.name : Event → String
  | step _ _ _ => "step"
  | terminated _ _ => "terminated"
  | reset _ _ => "reset"

inductive Notice where
  | log (entry : LogEntry)
  | event (e : Event)
  deriving DecidableEq

namespace Notice

/-- The events among notices. -/
def events (ns : List Notice) : List Event :=
  ns.filterMap fun
    | event e => some e
    | log _ => none

/-- The log entries among notices. -/
def entries (ns : List Notice) : List LogEntry :=
  ns.filterMap fun
    | log entry => some entry
    | event _ => none

end Notice

/-- A result and what was noted on the way to it. -/
structure Noted (α : Type) where
  result : α
  notices : List Notice

namespace Noted

variable {α β : Type}

/-- The notices of a computation come before those of what follows it. -/
instance : Monad Noted where
  pure a := ⟨a, []⟩
  map f x := ⟨f x.result, x.notices⟩
  bind x f :=
    let y := f x.result
    ⟨y.result, x.notices ++ y.notices⟩

/-- A result with log entries. -/
def logged (a : α) (entries : List LogEntry) : Noted α := ⟨a, entries.map .log⟩

/-- Nothing but a log entry. -/
def log (entry : LogEntry) : Noted Unit := ⟨(), [.log entry]⟩

/-- Nothing but an event. -/
def announce (e : Event) : Noted Unit := ⟨(), [.event e]⟩

@[simp] theorem result_pure (a : α) : (pure a : Noted α).result = a := rfl

@[simp] theorem notices_pure (a : α) : (pure a : Noted α).notices = [] := rfl

@[simp] theorem result_map (f : α → β) (x : Noted α) : (f <$> x).result = f x.result := rfl

@[simp] theorem notices_map (f : α → β) (x : Noted α) : (f <$> x).notices = x.notices := rfl

@[simp] theorem result_bind (x : Noted α) (f : α → Noted β) :
    (x >>= f).result = (f x.result).result := rfl

@[simp] theorem notices_bind (x : Noted α) (f : α → Noted β) :
    (x >>= f).notices = x.notices ++ (f x.result).notices := rfl

@[ext] theorem ext {x y : Noted α} (hr : x.result = y.result) (hn : x.notices = y.notices) :
    x = y := by
  cases x
  cases y
  simp_all

/-- What follows a computation counts only at its result. -/
theorem bind_congr {x : Noted α} {f g : α → Noted β} (h : f x.result = g x.result) :
    x >>= f = x >>= g := by
  ext1
  · rw [result_bind, result_bind, h]
  · rw [notices_bind, notices_bind, h]

instance : LawfulMonad Noted where
  map_const := rfl
  id_map _ := rfl
  seqLeft_eq x y := by ext <;> simp [SeqLeft.seqLeft, Seq.seq]
  seqRight_eq x y := by ext <;> simp [SeqRight.seqRight, Seq.seq]
  pure_seq f x := by ext <;> simp [Seq.seq]
  bind_pure_comp f x := by ext <;> simp
  bind_map f x := rfl
  pure_bind a f := by ext <;> simp
  bind_assoc x f g := by ext <;> simp

end Noted

end SystemDynamics
