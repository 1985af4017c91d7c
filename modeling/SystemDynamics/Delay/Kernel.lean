import SystemDynamics.Curve
/-!
# Delays

Three ways in which an output follows an input late. Each keeps samples of its input, the oldest
first, and drops those too old to matter: exponential smoothing, whose output moves towards the
input; a transport delay, whose output is the input some time ago; and a gradual delay, whose
output is a mean of the samples with weights around that time.
-/

namespace SystemDynamics

/-- What one delay remembers. -/
structure DelayState (α : Type) where
  kind : String
  /-- Time and input of the samples kept. -/
  samples : List (α × α)
  /-- The output of smoothing. -/
  smoothed : Option α
  deriving DecidableEq

/-- What a delay puts out: its input as it is, or a number that it has computed. -/
inductive Output (α : Type) where
  | input
  | computed (y : α)

/-- The number that is put out for an input. -/
def Output.value {α : Type} (input : α) : Output α → α
  | .input => input
  | .computed y => y

namespace DelayState

variable {α : Type} [Scalar α]

/-- A delay that has not been read. -/
def fresh (kind : String) : DelayState α := ⟨kind, [], none⟩

/-- Without the oldest samples as far as they were taken before the time. -/
def dropBefore (time : α) (samples : List (α × α)) : List (α × α) :=
  samples.dropWhile fun s => Scalar.lt s.1 time

/-- With one sample more. -/
def add (s : DelayState α) (time value : α) : DelayState α :=
  { s with samples := s.samples ++ [(time, value)] }

/-- How many time constants of samples smoothing keeps. -/
def smoothRetention : α := Scalar.ofNat 5

/-- How many delay times of samples a gradual delay keeps. -/
def gradualRetention : α := Scalar.ofNat 4

/-- Exponential smoothing. The first input is adopted; later the output moves to the input by
the share `dt / constant` of the gap. A constant of zero or less means no smoothing. -/
def smooth (s : DelayState α) (value constant time dt : α) : DelayState α × Output α :=
  let s := s.add time value
  if Scalar.le constant (Scalar.ofNat 0) then
    ({ s with samples := dropBefore time s.samples, smoothed := some value }, .input)
  else
    let kept := dropBefore (time - smoothRetention * constant) s.samples
    let output :=
      match s.smoothed with
      | none => Output.input
      | some y => .computed (y + (value - y) * (dt / constant))
    ({ s with samples := kept, smoothed := some (output.value value) }, output)

/-- Drops the oldest sample as long as the next one too was taken at or before the time. -/
def dropUpTo (time : α) : List (α × α) → List (α × α)
  | a :: b :: rest => if Scalar.le b.1 time then dropUpTo time (b :: rest) else a :: b :: rest
  | samples => samples

/-- A sample whose time and input are settled. -/
def settled (p : α × α) : α × α := (Scalar.settle p.1, Scalar.settle p.2)

/-- The input `lag` ago, linear between samples. While the samples do not reach back that far
the delay counts as filled with the current input. There is no output when the time asked for
is that of the only sample left. -/
def transport (s : DelayState α) (value lag time : α) :
    DelayState α × Option (Output α) :=
  let s := s.add time value
  if Scalar.le lag (Scalar.ofNat 0) then
    ({ s with samples := dropBefore time s.samples }, some .input)
  else
    let target := time - lag
    let kept := dropUpTo target s.samples
    let output :=
      match kept with
      | [] => none
      | first :: rest =>
        if Scalar.lt target first.1 then some Output.input
        else
          match rest with
          | [] => none
          | second :: _ =>
            (Curve.valueOn? (Scalar.settle target) [settled first, settled second]).map .computed
    ({ s with samples := kept }, output)

/-- The mean of the samples with weights around the time `lag` ago, by a bell curve with a
standard deviation of a third of the lag. `bell` gives the weight from minus half the squared
distance in standard deviations. While the samples do not reach back that far, and where the
weights have no usable sum, the output is the current input. -/
def gradual (bell : α → α) (s : DelayState α) (value lag time : α) :
    DelayState α × Output α :=
  let s := s.add time value
  if Scalar.le lag (Scalar.ofNat 0) then
    ({ s with samples := dropBefore time s.samples }, .input)
  else
    let kept := dropBefore (time - gradualRetention * lag) s.samples
    let center := time - lag
    let deviation := lag / Scalar.ofNat 3
    let spread := Scalar.ofNat 2 * deviation * deviation
    let weighted := kept.map fun p =>
      let gap := Scalar.settle p.1 - Scalar.settle center
      (bell (-(gap * gap) / spread), Scalar.settle p.2)
    let total := weighted.foldl (fun sum w => sum + w.1) (Scalar.ofNat 0)
    let dot := weighted.foldl (fun sum w => sum + w.1 * w.2) (Scalar.ofNat 0)
    let output :=
      match kept with
      | [] => Output.input
      | first :: _ =>
        if Scalar.lt center first.1 then .input
        else if Scalar.le total (Scalar.ofNat 0) || !Scalar.isFinite total then .input
        else .computed (dot / total)
    ({ s with samples := kept }, output)

end DelayState

end SystemDynamics
