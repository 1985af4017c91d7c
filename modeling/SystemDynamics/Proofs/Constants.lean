import SystemDynamics.Proofs.Loading

/-!
# Expressions over constants

A text can be evaluated over constants alone, or as a formula of a model. Without a model the
functions that need one are refused wherever they stand, so what is resolved is plain: it has no
delay calls and looks nothing up. A plain expression is resolved alike in a model, without claiming
slots (`Expr.resolve_all_carries`), and evaluating it touches no memory. A model gives every name
that has a value over its constants the same value, unless the clock takes the name away from a
constant. So a value over constants is the value of the formula in every model that has them
(`Code.eval_carries`, `Model.compile_constant`). Only the names and calls that are evaluated
count: a branch that is not taken may name what only the model knows.
-/

namespace SystemDynamics

/-- Whatever value the first computation gives, it gives it without touching the state, and so does
the second from any state of its own. -/
def Carries {ε σ α : Type} (e e' : ExceptT ε (StateM σ) α) (post : α → Prop) : Prop :=
  ∀ m n a m', e.run m = (.ok a, m') → m' = m ∧ e'.run n = (.ok a, n) ∧ post a

section Carries

variable {ε σ α β : Type}

theorem Carries.bind {e e' : ExceptT ε (StateM σ) α} {f f' : α → ExceptT ε (StateM σ) β}
    {mid : α → Prop} {post : β → Prop} (he : Carries e e' mid)
    (hf : ∀ a, mid a → Carries (f a) (f' a) post) : Carries (e >>= f) (e' >>= f') post := by
  intro m n b m' h
  rw [run_bind] at h
  rcases hr : e.run m with ⟨x | a, k⟩ <;> rw [hr] at h
  · cases h
  · obtain ⟨rfl, hsame, hmid⟩ := he m n a k hr
    obtain ⟨hstate, hsame', hpost⟩ := hf a hmid k n b m' h
    refine ⟨hstate, ?_, hpost⟩
    rw [run_bind, hsame]
    exact hsame'

theorem carries_pure {a : α} {post : α → Prop} (h : post a) :
    Carries (pure a : ExceptT ε (StateM σ) α) (pure a) post := by
  intro m n b m' hb
  cases hb
  exact ⟨rfl, rfl, h⟩

theorem carries_throw {x : ε} {e' : ExceptT ε (StateM σ) α} {post : α → Prop} :
    Carries (throw x) e' post := by
  intro m n a m' h
  cases h

end Carries

namespace Code

mutual

/-- Whether an expression has neither delay calls nor lookups. -/
def isPlain : Code → Bool
  | number _ | name _ => true
  | unary _ x | math _ x => isPlain x
  | binary _ x y | logical _ x y | power x y => isPlain x && isPlain y
  | choice x y z => isPlain x && (isPlain y && isPlain z)
  | extremum _ x xs => isPlain x && areAllPlain xs
  | delay _ _ _ _ | lookup _ _ | inlineLookup _ _ _ | surfaceLookup _ _ _ => false

/-- Whether several expressions have neither. -/
def areAllPlain : List Code → Bool
  | [] => true
  | x :: xs => isPlain x && areAllPlain xs

end

end Code

/-! ## Resolving -/

/-- A call that is in order without a model needs none, and is in order in one. -/
theorem Builtin.misuse?_of_none {b : Builtin} {f : String} {count : Nat}
    (h : b.misuse? f count false = none) :
    b.needsModel = false ∧ b.misuse? f count true = none := by
  unfold misuse? at h ⊢
  by_cases hb : b.needsModel = true
  · simp [hb] at h
  · simp only [Bool.not_eq_true] at hb
    simp only [hb, Bool.false_and, Bool.false_eq_true, if_false] at h ⊢
    exact ⟨trivial, h⟩

namespace Expr

/-- What is resolved without a model is plain, and is resolved alike in a model. -/
theorem resolve_all_carries (source source' : String) :
    (∀ x, Carries (resolve ⟨false, source⟩ x) (resolve ⟨true, source'⟩ x)
      fun c => c.isPlain = true) ∧
    (∀ items, Carries (resolvePoints ⟨false, source⟩ items) (resolvePoints ⟨true, source'⟩ items)
      fun cs => Code.areAllPlain cs = true) ∧
    (∀ xs, Carries (resolveAll ⟨false, source⟩ xs) (resolveAll ⟨true, source'⟩ xs)
      fun cs => Code.areAllPlain cs = true) := by
  apply resolve.mutual_induct ⟨false, source⟩
    (fun x => Carries (resolve ⟨false, source⟩ x) (resolve ⟨true, source'⟩ x)
      fun c => c.isPlain = true)
    (fun items => Carries (resolvePoints ⟨false, source⟩ items)
      (resolvePoints ⟨true, source'⟩ items) fun cs => Code.areAllPlain cs = true)
    (fun xs => Carries (resolveAll ⟨false, source⟩ xs) (resolveAll ⟨true, source'⟩ xs)
      fun cs => Code.areAllPlain cs = true)
  -- Numbers, texts, names, signs, operators and choices.
  case case1 =>
    intro x
    rw [resolve, resolve]
    exact carries_pure rfl
  case case2 =>
    intro s
    rw [resolve]
    exact carries_throw
  case case3 =>
    intro n
    rw [resolve, resolve]
    exact carries_pure rfl
  case case4 =>
    intro op x hx
    rw [resolve, resolve]
    exact hx.bind fun c hc => carries_pure hc
  case case5 =>
    intro op l r hl hr
    rw [resolve, resolve]
    exact hl.bind fun c hc => hr.bind fun d hd => carries_pure (by simp [Code.isPlain, hc, hd])
  case case6 =>
    intro op l r hl hr
    rw [resolve, resolve]
    exact hl.bind fun c hc => hr.bind fun d hd => carries_pure (by simp [Code.isPlain, hc, hd])
  case case7 =>
    intro x y z hx hy hz
    rw [resolve, resolve]
    exact hx.bind fun c hc => hy.bind fun d hd => hz.bind fun e he =>
      carries_pure (by simp [Code.isPlain, hc, hd, he])
  -- A list that is no table, and calls that are refused.
  case case8 =>
    intro items
    rw [resolve]
    exact carries_throw
  case case9 =>
    intro f arguments hb
    simp only [resolve, hb]
    exact carries_throw
  case case10 =>
    intro f arguments b hb m hm
    simp only [resolve, hb, hm]
    exact carries_throw
  -- Calls of functions that only read numbers.
  case case11 =>
    intro f g x hb hm hx
    simp only [resolve, hb, hm, (Builtin.misuse?_of_none hm).2]
    exact hx.bind fun c hc => carries_pure hc
  case case12 =>
    intro f x y hb hm hx hy
    simp only [resolve, hb, hm, (Builtin.misuse?_of_none hm).2]
    exact hx.bind fun c hc => hy.bind fun d hd => carries_pure (by simp [Code.isPlain, hc, hd])
  case case13 =>
    intro f e x xs hb hm hx hxs
    simp only [resolve, hb, hm, (Builtin.misuse?_of_none hm).2]
    exact hx.bind fun c hc => hxs.bind fun ds hds => carries_pure (by simp [Code.isPlain, hc, hds])
  -- Calls of functions that need a model are refused without one.
  case case14 =>
    intro f kind x y hb hm
    cases (Builtin.misuse?_of_none hm).1
  case case15 =>
    intro f x table hb hm
    cases (Builtin.misuse?_of_none hm).1
  case case16 =>
    intro f x y table hb hm
    cases (Builtin.misuse?_of_none hm).1
  -- A call that fits no function.
  case case17 =>
    intro f arguments b hb hm h1 h2 h3 h4 h5 h6
    simp only [resolve, hb, hm]
    exact carries_throw
  -- The points of a table.
  case case18 =>
    rw [resolvePoints, resolvePoints]
    exact carries_pure rfl
  case case19 =>
    intro items x y hx hy hitems
    rw [resolvePoints, resolvePoints]
    exact hx.bind fun c hc => hy.bind fun d hd => hitems.bind fun es hes =>
      carries_pure (by simp [Code.areAllPlain, hc, hd, hes])
  case case20 =>
    intro x xs hx
    have hthrow : resolvePoints ⟨false, source⟩ (x :: xs) = throw .notAPoint := by
      rw [resolvePoints]
      exact hx
    rw [hthrow]
    exact carries_throw
  -- Several expressions.
  case case21 =>
    rw [resolveAll, resolveAll]
    exact carries_pure rfl
  case case22 =>
    intro x xs hx hxs
    rw [resolveAll, resolveAll]
    exact hx.bind fun c hc => hxs.bind fun ds hds =>
      carries_pure (by simp [Code.areAllPlain, hc, hds])

end Expr

/-! ## Evaluating -/

theorem carries_outcome {α : Type} {r r' : Except Fault α} (h : ∀ a, r = .ok a → r' = .ok a) :
    Carries (Evaluation.outcome r) (Evaluation.outcome r') fun _ => True := by
  intro m n a m' hr
  rcases r with x | b
  · cases hr
  · cases hr
    rw [h a rfl]
    exact ⟨rfl, rfl, trivial⟩

namespace Scope

/-- Every name that has a value in the first scope has it in the second. -/
def Within (s t : Scope) : Prop := ∀ name v, s.resolve name = .ok v → t.resolve name = .ok v

/-- The names of the clock's values. -/
def clockNames : List String := ["TIME", "$time", "dt", "$step"]

theorem ofClock?_eq_none {name : String} (h : name ∉ clockNames) (c : Clock) :
    ofClock? c name = none := by
  simp only [clockNames, List.mem_cons, List.not_mem_nil, or_false, not_or] at h
  obtain ⟨h₁, h₂, h₃, h₄⟩ := h
  unfold ofClock?
  split <;> first | contradiction | rfl

/-- Constants keep their values when a clock and stocks come in, unless they have a name of the
clock's. -/
theorem ofConstants_within {s : Scope} {constant? : String → Option Value}
    (hconstants : s.constant? = constant?) (hclock : ∀ name ∈ clockNames, constant? name = none) :
    (ofConstants constant?).Within s := by
  intro name v h
  rw [resolve] at h ⊢
  rw [hconstants]
  rcases hu : universal? name with _ | x
  · rcases hc : constant? name with _ | w
    · simp [ofConstants, hu, hc] at h
    · have hname : name ∉ clockNames := fun hmem => by simp [hclock name hmem] at hc
      have hnone : s.clock.bind (ofClock? · name) = none :=
        Option.bind_eq_none_iff.2 fun c _ => ofClock?_eq_none hname c
      simp only [ofConstants, hu, hc, hnone, Option.bind_none] at h ⊢
      exact h
  · simpa [hu] using h

end Scope

namespace Code

section Within

variable {s t : Scope}

mutual

/-- The value of a plain expression is its value where its names have the same values. -/
theorem eval_carries (h : s.Within t) : ∀ c : Code, c.isPlain = true →
    Carries (c.eval s) (c.eval t) fun _ => True
  | number x, _ => by
    rw [eval, eval]
    exact carries_pure trivial
  | name n, _ => by
    rw [eval, eval]
    exact carries_outcome (h n)
  | unary op x, hc => by
    rw [eval, eval]
    exact (eval_carries h x hc).bind fun _ _ => carries_pure trivial
  | math f x, hc => by
    rw [eval, eval]
    exact (eval_carries h x hc).bind fun _ _ => carries_outcome fun _ => id
  | binary op x y, hc => by
    obtain ⟨hx, hy⟩ := Bool.and_eq_true_iff.1 hc
    rw [eval, eval]
    exact (eval_carries h x hx).bind fun _ _ => (eval_carries h y hy).bind fun _ _ =>
      carries_outcome fun _ => id
  | power x y, hc => by
    obtain ⟨hx, hy⟩ := Bool.and_eq_true_iff.1 hc
    rw [eval, eval]
    exact (eval_carries h x hx).bind fun _ _ => (eval_carries h y hy).bind fun _ _ =>
      carries_outcome fun _ => id
  -- The operand that decides is the same in both, so the same operands are evaluated.
  | logical op x y, hc => by
    obtain ⟨hx, hy⟩ := Bool.and_eq_true_iff.1 hc
    rw [eval, eval]
    refine (eval_carries h x hx).bind fun v _ => ?_
    split
    · exact eval_carries h y hy
    · exact eval_carries h y hy
    · exact carries_pure trivial
  | choice x y z, hc => by
    obtain ⟨hx, hyz⟩ := Bool.and_eq_true_iff.1 hc
    obtain ⟨hy, hz⟩ := Bool.and_eq_true_iff.1 hyz
    rw [eval, eval]
    refine (eval_carries h x hx).bind fun v _ => ?_
    split
    · exact eval_carries h y hy
    · exact eval_carries h z hz
  | extremum e x xs, hc => by
    obtain ⟨hx, hxs⟩ := Bool.and_eq_true_iff.1 hc
    rw [eval, eval]
    exact (eval_carries h x hx).bind fun _ _ => (evalAll_carries h xs hxs).bind fun _ _ =>
      carries_pure trivial

theorem evalAll_carries (h : s.Within t) : ∀ cs : List Code, areAllPlain cs = true →
    Carries (evalAll s cs) (evalAll t cs) fun _ => True
  | [], _ => by
    rw [evalAll, evalAll]
    exact carries_pure trivial
  | x :: xs, hc => by
    obtain ⟨hx, hxs⟩ := Bool.and_eq_true_iff.1 hc
    rw [evalAll, evalAll]
    exact (eval_carries h x hx).bind fun _ _ => (evalAll_carries h xs hxs).bind fun _ _ =>
      carries_pure trivial

end

theorem evalNumber_carries (h : s.Within t) {c : Code} (hc : c.isPlain = true) :
    Carries (c.evalNumber s) (c.evalNumber t) fun _ => True := by
  refine (eval_carries h c hc).bind fun v _ => (carries_outcome fun _ => id).bind fun x _ => ?_
  split
  · exact carries_pure trivial
  · exact carries_throw

end Within

end Code

/-! ## Formulas of a model -/

/-- The constants of a table, as expressions see them. -/
def Table.constant? (constants : Table Float) (name : String) : Option Value :=
  (constants.get? name).map (.ofNamed name)

/-- A text that has a value over constants is resolved alike in a model, to a plain expression, and
claims nothing there. -/
theorem compile_of_constantValue {text : String} {constant? : String → Option Value} {v : Float}
    (h : constantValue text constant? = .ok v) (source : String) (slots : List Slot) :
    ∃ c : Code, c.isPlain = true ∧
      Formula.compile ⟨true, source⟩ text slots = (.ok c, slots) ∧
      ((c.evalNumber (.ofConstants constant?)).run ⟨[], []⟩).1 = .ok v := by
  obtain ⟨c, hc, hvalue⟩ := exists_code_of_constantValue h
  unfold Formula.compile at hc ⊢
  rcases hx : Expr.parse text with e | x
  · simp [hx] at hc
  · simp only [hx] at hc ⊢
    rcases hr : (x.resolve ⟨false, "const"⟩).run ⟨[], []⟩ with ⟨m | d, claims⟩
    · simp [hr] at hc
    · obtain ⟨-, hsame, hplain⟩ :=
        (Expr.resolve_all_carries "const" source).1 x _ ⟨slots, []⟩ d claims hr
      simp only [hr, Except.ok.injEq] at hc
      subst hc
      exact ⟨d, hplain, by rw [hsame], hvalue⟩

namespace Model

theorem remember_memory (m : Model) : m.remember m.memory = pure m := rfl

/-- A text that has a value over the constants of a model makes a formula of the model, without a
report and without claiming slots, and in every model with these constants the formula has this
value, and evaluating it changes and reports nothing. The model may have stocks and tables of any
names. -/
theorem compile_constant {text : String} {constants : Table Float} {v : Float}
    (hclock : ∀ name ∈ Scope.clockNames, constants.contains name = false)
    (h : constantValue text constants.constant? = .ok v) (source : String) (m : Model)
    (hm : m.constants = constants) :
    ∃ f : Formula, m.compile text source .number = pure (m, f) ∧
      m.compileStrict text source .number = (m, .ok f) ∧ f.isOk = true ∧
      ∀ n : Model, n.constants = constants → n.evaluate f = pure (n, .number v) := by
  subst hm
  obtain ⟨c, hplain, hcompile, hvalue⟩ := compile_of_constantValue h source m.slots
  refine ⟨⟨text, source, .number, .ok c⟩, ?_, ?_, rfl, fun n hn => ?_⟩
  · simp only [compile, hcompile]
  · simp only [compileStrict, hcompile]
    rfl
  · have hwithin : (Scope.ofConstants m.constants.constant?).Within n.scope := by
      refine Scope.ofConstants_within (by rw [← hn]; rfl) fun name hname => ?_
      have habsent := hclock name hname
      simp only [Table.contains, Option.isSome_eq_false_iff, Option.isNone_iff_eq_none] at habsent
      simp [Table.constant?, habsent]
    rcases hrun : (c.evalNumber (.ofConstants m.constants.constant?)).run ⟨[], []⟩ with ⟨r, k⟩
    rw [hrun] at hvalue
    cases hvalue
    obtain ⟨-, hsame, -⟩ := Code.evalNumber_carries hwithin hplain ⟨[], []⟩ n.memory v k hrun
    have hanswer : (Formula.answer n.scope c .number).run n.memory =
        (.ok (.number v), n.memory) := by
      simp only [Formula.answer, run_bind, hsame]
      rfl
    simp only [evaluate, Formula.evaluate, hanswer, remember_memory]
    rfl

/-- A model with a stock that a constant hides, and another that has the name of a number. -/
def hiddenModel : Model :=
  (ofText .default
    "const B = 2\nstock B \x7b\ninitial: 9\n\x7d\nstock PI \x7b\ninitial: 1\n\x7d").result

theorem compile_constant_hidden :
    hiddenModel.stocks.names = ["B", "PI"] ∧
      constantValue "B > 1 ? min(B, PI) * floor(2.5) : TIME" hiddenModel.constants.constant? =
        .ok 4.0 ∧
      ∃ f : Formula,
        hiddenModel.compile "B > 1 ? min(B, PI) * floor(2.5) : TIME" "a rate" .number =
          pure (hiddenModel, f) ∧
        hiddenModel.evaluate f = pure (hiddenModel, .number 4.0) := by
  have hclock : ∀ name ∈ Scope.clockNames, hiddenModel.constants.contains name = false := by
    decide +kernel
  have hvalue : constantValue "B > 1 ? min(B, PI) * floor(2.5) : TIME"
      hiddenModel.constants.constant? = .ok 4.0 := by
    rw [constantValue, Formula.compileWithin_of_calls (by decide)]
    rfl
  obtain ⟨f, hcompile, -, -, heval⟩ := compile_constant hclock hvalue "a rate" hiddenModel rfl
  exact ⟨by decide +kernel, hvalue, f, hcompile, heval hiddenModel rfl⟩

end Model

end SystemDynamics
