import SystemDynamics.Expr.Formula

/-!
# What holds of every evaluation

Evaluating an expression is made of outcomes that need no memory, failed lookups and delay calls,
one after the other. So a property of computations that these have, and that is kept when one
computation follows another, is a property of every evaluation (`Evaluation.Closed.eval`). The
delay calls are those of the expression: each has its kind and a slot that the expression owns
(`Code.delays`, `Code.owned`).
-/

namespace SystemDynamics

theorem run_bind {ε σ α β : Type} (e : ExceptT ε (StateM σ) α) (f : α → ExceptT ε (StateM σ) β)
    (m : σ) :
    (e >>= f).run m =
      match e.run m with
      | (.ok a, n) => (f a).run n
      | (.error x, n) => (.error x, n) := by
  simp only [ExceptT.run, bind, ExceptT.bind, ExceptT.mk, StateT.bind]
  rcases e m with ⟨_ | _, _⟩ <;> rfl

namespace Code

mutual

/-- The slots of the delay calls in an expression. -/
def owned : Code → List Nat
  | number _ | name _ => []
  | unary _ x | math _ x | lookup x _ => owned x
  | binary _ x y | logical _ x y | power x y | surfaceLookup x y _ => owned x ++ owned y
  | choice x y z => owned x ++ (owned y ++ owned z)
  | extremum _ x xs => owned x ++ ownedByAll xs
  | delay _ slot x y => slot :: (owned x ++ owned y)
  | inlineLookup x coordinates _ => owned x ++ ownedByAll coordinates

/-- The slots of the delay calls in several expressions. -/
def ownedByAll : List Code → List Nat
  | [] => []
  | x :: xs => owned x ++ ownedByAll xs

end

mutual

/-- The kinds and the slots of the delay calls in an expression. -/
def delays : Code → List (DelayKind × Nat)
  | number _ | name _ => []
  | unary _ x | math _ x | lookup x _ => delays x
  | binary _ x y | logical _ x y | power x y | surfaceLookup x y _ => delays x ++ delays y
  | choice x y z => delays x ++ (delays y ++ delays z)
  | extremum _ x xs => delays x ++ delaysOfAll xs
  | delay kind slot x y => (kind, slot) :: (delays x ++ delays y)
  | inlineLookup x coordinates _ => delays x ++ delaysOfAll coordinates

/-- The kinds and the slots of the delay calls in several expressions. -/
def delaysOfAll : List Code → List (DelayKind × Nat)
  | [] => []
  | x :: xs => delays x ++ delaysOfAll xs

end

mutual

/-- The slots that an expression owns are those of its delay calls. -/
theorem map_delays : ∀ c : Code, c.delays.map Prod.snd = c.owned
  | number _ | name _ => rfl
  | unary _ x | math _ x | lookup x _ => map_delays x
  | binary _ x y | logical _ x y | power x y | surfaceLookup x y _ => by
    simp only [delays, owned, List.map_append, map_delays x, map_delays y]
  | choice x y z => by
    simp only [delays, owned, List.map_append, map_delays x, map_delays y, map_delays z]
  | extremum _ x xs => by
    simp only [delays, owned, List.map_append, map_delays x, map_delaysOfAll xs]
  | delay _ _ x y => by
    simp only [delays, owned, List.map_cons, List.map_append, map_delays x, map_delays y]
  | inlineLookup x xs _ => by
    simp only [delays, owned, List.map_append, map_delays x, map_delaysOfAll xs]

theorem map_delaysOfAll : ∀ cs : List Code, (delaysOfAll cs).map Prod.snd = ownedByAll cs
  | [] => rfl
  | x :: xs => by
    simp only [delaysOfAll, ownedByAll, List.map_append, map_delays x, map_delaysOfAll xs]

end

end Code

namespace Evaluation

/-- The functions whose failures are reported while an evaluation goes on. -/
def tableFunctions : List String := ["LOOKUP", "LOOKUP2D"]

/-- The property holds of the computations that evaluating in a scope is made of, with these delay
calls, and is kept when one follows another. -/
structure Closed (s : Scope) (calls : List (DelayKind × Nat))
    (P : (α : Type) → Evaluation α → Prop) : Prop where
  bind {α β : Type} {e : Evaluation α} {f : α → Evaluation β} :
    P α e → (∀ a, P β (f a)) → P β (e >>= f)
  outcome {α : Type} (r : Except Fault α) : P α (outcome r)
  failLookup {source : String} (message : String) :
    source ∈ tableFunctions → P Float (failLookup source message s.time?)
  delay (kind : DelayKind) {slot : Nat} (value parameter : Except Fault Float) :
    (kind, slot) ∈ calls → P (Output Float) (delay s.clock kind slot value parameter)

namespace Closed

variable {s : Scope} {calls : List (DelayKind × Nat)} {P : (α : Type) → Evaluation α → Prop}
  (h : Closed s calls P)
include h

theorem pure {α : Type} (a : α) : P α (Pure.pure a) := h.outcome (.ok a)

theorem throw {α : Type} (e : Fault) : P α (throw e) := h.outcome (.error e)

theorem orReport {source : String} (hsource : source ∈ tableFunctions) (r : Except Fault Float) :
    P Float (orReport source s.time? r) := by
  rcases r with e | y
  · exact h.failLookup _ hsource
  · exact h.pure y

theorem onCurve (c : Curve Float) (x : Except Fault Float) : P Float (onCurve s.time? c x) := by
  unfold Evaluation.onCurve
  split
  · exact h.orReport (.head _) _
  · exact h.bind (h.outcome x) fun _ => h.orReport (.head _) _

theorem lookup (x : Except Fault Float) (name : String) : P Float (lookup s x name) := by
  unfold Evaluation.lookup
  split
  · exact h.failLookup _ (.head _)
  · exact h.onCurve _ _

theorem inlineLookup (x : Except Fault Float) (points : Except Fault (List (GivenPoint Float)))
    (label : String) : P Float (inlineLookup s.time? x points label) :=
  h.bind (h.outcome points) fun _ => h.onCurve _ _

theorem onSurface (t : Surface Float) (x y : Except Fault Float) :
    P Float (onSurface s.time? t x y) := by
  unfold Evaluation.onSurface
  split
  · exact h.orReport (.tail _ (.head _)) _
  · exact h.bind (h.outcome x) fun _ => h.bind (h.outcome y) fun _ =>
      h.orReport (.tail _ (.head _)) _

theorem surfaceLookup (x y : Except Fault Float) (name : String) :
    P Float (surfaceLookup s x y name) := by
  unfold Evaluation.surfaceLookup
  split
  · exact h.failLookup _ (.tail _ (.head _))
  · exact h.onSurface _ _ _

mutual

/-- The property holds of evaluating an expression that has these delay calls only. -/
theorem eval : ∀ c : Code, c.delays ⊆ calls → P Value (c.eval s)
  | .number x, _ => by
    rw [Code.eval]
    exact h.pure _
  | .name n, _ => by
    rw [Code.eval]
    exact h.outcome _
  | .unary op x, hc => by
    rw [Code.eval]
    exact h.bind (eval x hc) fun _ => h.pure _
  | .math f x, hc => by
    rw [Code.eval]
    exact h.bind (eval x hc) fun _ => h.outcome _
  | .lookup x table, hc => by
    rw [Code.eval]
    exact h.bind (eval x hc) fun _ => h.bind (h.lookup _ _) fun _ => h.pure _
  | .binary op x y, hc => by
    obtain ⟨hx, hy⟩ := List.append_subset.1 hc
    rw [Code.eval]
    exact h.bind (eval x hx) fun _ => h.bind (eval y hy) fun _ => h.outcome _
  | .logical op x y, hc => by
    obtain ⟨hx, hy⟩ := List.append_subset.1 hc
    rw [Code.eval]
    refine h.bind (eval x hx) fun v => ?_
    split
    · exact eval y hy
    · exact eval y hy
    · exact h.pure _
  | .power x y, hc => by
    obtain ⟨hx, hy⟩ := List.append_subset.1 hc
    rw [Code.eval]
    exact h.bind (eval x hx) fun _ => h.bind (eval y hy) fun _ => h.outcome _
  | .surfaceLookup x y table, hc => by
    obtain ⟨hx, hy⟩ := List.append_subset.1 hc
    rw [Code.eval]
    exact h.bind (eval x hx) fun _ => h.bind (eval y hy) fun _ =>
      h.bind (h.surfaceLookup _ _ _) fun _ => h.pure _
  | .choice x y z, hc => by
    obtain ⟨hx, hyz⟩ := List.append_subset.1 hc
    obtain ⟨hy, hz⟩ := List.append_subset.1 hyz
    rw [Code.eval]
    refine h.bind (eval x hx) fun v => ?_
    split
    · exact eval y hy
    · exact eval z hz
  | .extremum e x xs, hc => by
    obtain ⟨hx, hxs⟩ := List.append_subset.1 hc
    rw [Code.eval]
    exact h.bind (eval x hx) fun _ => h.bind (evalAll xs hxs) fun _ => h.pure _
  | .inlineLookup x xs label, hc => by
    obtain ⟨hx, hxs⟩ := List.append_subset.1 hc
    rw [Code.eval]
    exact h.bind (eval x hx) fun _ => h.bind (evalAll xs hxs) fun _ =>
      h.bind (h.inlineLookup _ _ _) fun _ => h.pure _
  | .delay kind slot x y, hc => by
    obtain ⟨hslot, hxy⟩ := List.cons_subset.1 hc
    obtain ⟨hx, hy⟩ := List.append_subset.1 hxy
    rw [Code.eval]
    refine h.bind (eval x hx) fun v => h.bind (eval y hy) fun w =>
      h.bind (h.delay kind _ _ hslot) fun output => ?_
    rcases output with _ | _
    · exact h.outcome _
    · exact h.pure _

theorem evalAll : ∀ cs : List Code, Code.delaysOfAll cs ⊆ calls →
    P (List Value) (Code.evalAll s cs)
  | [], _ => by
    rw [Code.evalAll]
    exact h.pure _
  | x :: xs, hc => by
    obtain ⟨hx, hxs⟩ := List.append_subset.1 hc
    rw [Code.evalAll]
    exact h.bind (eval x hx) fun _ => h.bind (evalAll xs hxs) fun _ => h.pure _

end

theorem evalNumber {c : Code} (hc : c.delays ⊆ calls) : P Float (c.evalNumber s) := by
  refine h.bind (h.eval c hc) fun v => h.bind (h.outcome _) fun x => ?_
  split
  · exact h.pure _
  · exact h.throw _

theorem evalTruth {c : Code} (hc : c.delays ⊆ calls) : P Bool (c.evalTruth s) := by
  refine h.bind (h.eval c hc) fun v => ?_
  split <;> exact h.pure _

theorem answer {c : Code} (hc : c.delays ⊆ calls) (purpose : Purpose) :
    P Answer (Formula.answer s c purpose) := by
  rcases purpose with _ | _
  · exact h.bind (h.evalNumber hc) fun _ => h.pure _
  · exact h.bind (h.evalTruth hc) fun _ => h.pure _

end Closed

end Evaluation

end SystemDynamics
