import SystemDynamics.Model.Limited
import SystemDynamics.Proofs.Claims
import SystemDynamics.Proofs.Descent

/-!
# Compiling within a limit

Every expression takes a number of calls (`Expr.calls`). With so many, resolving it comes to what it
comes to without a limit; with fewer it fails for want of them, unless it is refused for something
else before (`Expr.resolve_all_keeps`). Together with what reading takes this is the number for a
text (`Formula.calls`, `Formula.compileWithin_cases`). Whatever happens, only empty slots are added,
and a formula that is not made leaves nothing else in a model (`Model.compileWithin_cases`).
-/

namespace SystemDynamics

theorem Extends.trans {s t u : List Slot} (h : Extends s t) (h' : Extends t u) : Extends s u := by
  obtain ⟨added, rfl, hadded⟩ := h
  obtain ⟨more, rfl, hmore⟩ := h'
  refine ⟨added ++ more, List.append_assoc _ _ _, fun place hplace => ?_⟩
  exact (List.mem_append.1 hplace).elim (hadded place) (hmore place)

namespace Limited

variable {α β : Type} {n n' : Nat}

theorem run_free (r : Resolution α) (c : Claims) :
    (free r).run c =
      match r.run c with
      | (.ok a, c) => (.ok a, c)
      | (.error m, c) => (.error (.badExpression (.misuse m)), c) := rfl

theorem run_enter (k calls : Nat) (c : Claims) :
    (enter k calls).run c =
      if calls < k then (.error .nestedTooDeeply, c) else (.ok (calls - k), c) := by
  unfold enter
  split_ifs <;> rfl

/-- With `n` calls and more the first computation comes to what the second one does. With fewer it
opens too many, unless the second one fails. It only adds empty slots. -/
def Keeps (n : Nat) (f : Nat → Limited α) (g : Resolution α) : Prop :=
  ∀ calls c, Extends c.slots ((f calls).run c).2.slots ∧
    (((f calls).run c = (free g).run c ∧ (n ≤ calls ∨ ∃ m, (g.run c).1 = .error m)) ∨
      (((f calls).run c).1 = .error .nestedTooDeeply ∧ calls < n))

theorem keeps_free {r : Resolution α} (hr : ∀ c, Extends c.slots (r.run c).2.slots) :
    Keeps 0 (fun _ => free r) r := by
  intro calls c
  refine ⟨?_, .inl ⟨rfl, .inl (Nat.zero_le _)⟩⟩
  have h := hr c
  rw [run_free]
  rcases hrun : r.run c with ⟨m | a, c'⟩ <;> rw [hrun] at h <;> exact h

theorem keeps_pure (a : α) : Keeps 0 (fun _ => (pure a : Limited α)) (pure a) :=
  keeps_free (r := pure a) fun c => .refl c.slots

theorem keeps_misuse (m : Misuse) : Keeps 0 (fun _ => (misuse m : Limited α)) (throw m) :=
  keeps_free fun c => .refl c.slots

/-- Where there is nothing but a failure, any greater number serves. -/
theorem Keeps.of_throw {f : Nat → Limited α} {m : Misuse} (h : Keeps n f (throw m)) (hn : n ≤ n') :
    Keeps n' f (throw m) := by
  intro calls c
  obtain ⟨hext, hrun⟩ := h calls c
  exact ⟨hext, hrun.imp (fun hsame => ⟨hsame.1, .inr ⟨m, rfl⟩⟩)
    fun hdeep => ⟨hdeep.1, Nat.lt_of_lt_of_le hdeep.2 hn⟩⟩

theorem Keeps.bind {f : Nat → Limited α} {g : Resolution α} {f' : α → Nat → Limited β}
    {g' : α → Resolution β} (hf : Keeps n f g) (hk : ∀ a, Keeps n' (f' a) (g' a)) :
    Keeps (max n n') (fun calls => f calls >>= fun a => f' a calls) (g >>= g') := by
  intro calls c
  obtain ⟨hext, hrun⟩ := hf calls c
  simp only [run_bind, run_free] at hrun ⊢
  rcases hrun with ⟨hsame, hfirst⟩ | ⟨hdeep, hcalls⟩
  · rcases hg : g.run c with ⟨m | a, c'⟩ <;> rw [hg] at hsame hfirst <;> rw [hsame] at hext ⊢
    · exact ⟨hext, .inl ⟨rfl, .inr ⟨m, rfl⟩⟩⟩
    · obtain ⟨hext', hrun'⟩ := hk a calls c'
      refine ⟨hext.trans hext', ?_⟩
      rcases hrun' with ⟨hsame', hsecond⟩ | ⟨hdeep', hcalls'⟩
      · refine .inl ⟨hsame'.trans (run_free _ _), ?_⟩
        rcases hfirst with hn | ⟨m, hm⟩
        · exact hsecond.imp_left fun hn' => Nat.max_le.2 ⟨hn, hn'⟩
        · cases hm
      · exact .inr ⟨hdeep', Nat.lt_of_lt_of_le hcalls' (Nat.le_max_right _ _)⟩
  · rcases hfail : (f calls).run c with ⟨e | a, c'⟩ <;> rw [hfail] at hdeep hext <;> cases hdeep
    exact ⟨hext, .inr ⟨rfl, Nat.lt_of_lt_of_le hcalls (Nat.le_max_left _ _)⟩⟩

theorem Keeps.bind_pure {f : Nat → Limited α} {g : Resolution α} (h : Keeps n f g) (b : α → β) :
    Keeps n (fun calls => f calls >>= fun a => pure (b a)) (g >>= fun a => pure (b a)) := by
  have hbind : Keeps (max n 0) (fun calls => f calls >>= fun a => pure (b a))
      (g >>= fun a => pure (b a)) := h.bind fun a => keeps_pure (b a)
  rwa [Nat.max_zero] at hbind

theorem Keeps.enter {f : Nat → Limited α} {g : Resolution α} (k : Nat) (h : Keeps n f g) :
    Keeps (n + k) (fun calls => Limited.enter k calls >>= f) g := by
  intro calls c
  rw [run_bind, run_enter]
  split_ifs
  · exact ⟨.refl _, .inr ⟨rfl, by omega⟩⟩
  · obtain ⟨hext, hrun⟩ := h (calls - k) c
    refine ⟨hext, hrun.imp (fun hsame => ⟨hsame.1, hsame.2.imp_left fun hn => ?_⟩)
      fun hdeep => ⟨hdeep.1, ?_⟩⟩ <;> omega

end Limited

namespace Expr

mutual

/-- The most calls that are open at once while the calls of an expression are resolved. -/
def calls : Expr → Nat
  | number _ | text _ | list _ => 1
  | name _ => 2
  | unary _ x => calls x + 2
  | binary _ l r | logical _ l r => max (calls l) (calls r) + 1
  | choice c t e => max (calls c) (max (calls t) (calls e)) + 1
  | call f arguments =>
    match Builtin.ofName? f with
    | some (.delay _) => callsOfAll arguments + 1 + 3
    | some .lookup => callsOfLookup arguments + 3
    | some .surfaceLookup => callsOfSurface arguments + 3
    | _ => callsOfAll arguments + 3

/-- The most for expressions one after the other. -/
def callsOfAll : List Expr → Nat
  | [] => 0
  | x :: xs => max (calls x) (callsOfAll xs)

/-- The most for the arguments of a lookup, the last of which is no part of the expression. -/
def callsOfLookup : List Expr → Nat
  | [x, list items] => max (calls x) (callsOfPoints items + 1)
  | [x, _] => calls x
  | _ => 0

/-- The most for the arguments of a lookup on a surface, the last of which names it. -/
def callsOfSurface : List Expr → Nat
  | [x, y, _] => max (calls x) (calls y)
  | _ => 0

/-- The most for the coordinates of a table. -/
def callsOfPoints : List Expr → Nat
  | [] => 0
  | list [x, y] :: items => max (calls x) (max (calls y) (callsOfPoints items))
  | _ :: _ => 0

end

theorem le_calls_call (f : String) (arguments : List Expr) {n : Nat} (hn : n ≤ 3) :
    n ≤ (call f arguments).calls := by
  unfold calls
  split <;> omega

open Limited

theorem extends_claim (source : String) (kind : DelayKind) (c : Claims) :
    Extends c.slots ((Resolution.claim source kind).run c).2.slots :=
  ⟨_, rfl, fun place hplace => by rw [List.mem_singleton.1 hplace]; rfl⟩

theorem resolve_all_keeps (site : Site) :
    (∀ x, Keeps (calls x) (fun calls => resolveWithin site x calls) (resolve site x)) ∧
    (∀ items, Keeps (callsOfPoints items) (fun calls => resolvePointsWithin site items calls)
      (resolvePoints site items)) ∧
    (∀ xs, Keeps (callsOfAll xs) (fun calls => resolveAllWithin site xs calls)
      (resolveAll site xs)) := by
  apply resolve.mutual_induct site
    (fun x => Keeps (calls x) (fun calls => resolveWithin site x calls) (resolve site x))
    (fun items => Keeps (callsOfPoints items) (fun calls => resolvePointsWithin site items calls)
      (resolvePoints site items))
    (fun xs => Keeps (callsOfAll xs) (fun calls => resolveAllWithin site xs calls)
      (resolveAll site xs))
  -- Numbers, texts, names, signs, operators and choices.
  case case1 =>
    intro x
    simp only [resolveWithin, resolve, calls]
    exact (keeps_pure _).enter 1
  case case2 =>
    intro s
    simp only [resolveWithin, resolve, calls]
    exact (keeps_misuse _).enter 1
  case case3 =>
    intro n
    simp only [resolveWithin, resolve, calls]
    exact (keeps_pure _).enter 2
  case case4 =>
    intro op x hx
    simp only [resolveWithin, resolve, calls]
    exact (Keeps.bind_pure hx _).enter 2
  case case5 =>
    intro op l r hl hr
    simp only [resolveWithin, resolve, calls]
    exact (Keeps.bind hl fun c => Keeps.bind_pure hr _).enter 1
  case case6 =>
    intro op l r hl hr
    simp only [resolveWithin, resolve, calls]
    exact (Keeps.bind hl fun c => Keeps.bind_pure hr _).enter 1
  case case7 =>
    intro x y z hx hy hz
    simp only [resolveWithin, resolve, calls]
    exact (Keeps.bind hx fun c => Keeps.bind hy fun d => Keeps.bind_pure hz _).enter 1
  -- A list that is no table, and calls that are refused.
  case case8 =>
    intro items
    simp only [resolveWithin, resolve, calls]
    exact (keeps_misuse _).enter 1
  case case9 =>
    intro f arguments hb
    simp only [resolveWithin, resolve, hb]
    exact ((keeps_misuse _).enter 2).of_throw (le_calls_call f arguments (by decide))
  case case10 =>
    intro f arguments b hb m hm
    simp only [resolveWithin, resolve, hb, hm]
    exact ((keeps_misuse _).enter 2).of_throw (le_calls_call f arguments (by decide))
  -- Calls of functions that are known.
  case case11 =>
    intro f g x hb hm hx
    simp only [resolveWithin, resolve, calls, callsOfAll, Nat.max_zero, hb, hm]
    exact ((Keeps.bind_pure hx _).enter 1).enter 2
  case case12 =>
    intro f x y hb hm hx hy
    simp only [resolveWithin, resolve, calls, callsOfAll, Nat.max_zero, hb, hm]
    exact ((Keeps.bind hx fun c => Keeps.bind_pure hy _).enter 1).enter 2
  case case13 =>
    intro f e x xs hb hm hx hxs
    simp only [resolveWithin, resolve, calls, callsOfAll, hb, hm]
    exact ((Keeps.bind hx fun c => Keeps.bind_pure hxs _).enter 1).enter 2
  case case14 =>
    intro f kind x y hb hm hx hy
    simp only [resolveWithin, resolve, calls, callsOfAll, Nat.max_zero, hb, hm]
    have harguments := fun slot => (Keeps.bind hx fun c =>
      Keeps.bind_pure hy (Code.delay kind slot c)).enter 1
    have hclaim := (keeps_free (extends_claim site.source kind)).bind harguments
    rw [Nat.zero_max] at hclaim
    exact (hclaim.enter 1).enter 2
  case case15 =>
    intro f x table hb hm hx htable
    simp only [resolveWithin, resolve, hb, hm]
    cases table
    case name n | text n =>
      simp only [calls, callsOfLookup, hb]
      exact ((Keeps.bind_pure hx _).enter 1).enter 2
    case list items =>
      simp only [calls, callsOfLookup, hb]
      exact ((Keeps.bind hx fun c => (Keeps.bind_pure htable _).enter 1).enter 1).enter 2
    all_goals
      simp only [calls, callsOfLookup, hb]
      have hrefused := Keeps.bind hx fun c => keeps_misuse (α := Code) .notATable
      rw [Nat.max_zero] at hrefused
      exact (hrefused.enter 1).enter 2
  case case16 =>
    intro f x y table hb hm hx hy
    simp only [resolveWithin, resolve, calls, callsOfSurface, hb, hm]
    cases table.tableName?
    · have hrefused := Keeps.bind hy fun c => keeps_misuse (α := Code) .notASurfaceName
      rw [Nat.max_zero] at hrefused
      exact ((Keeps.bind hx fun c => hrefused).enter 1).enter 2
    · exact ((Keeps.bind hx fun c => Keeps.bind_pure hy _).enter 1).enter 2
  -- A call that fits no function.
  case case17 =>
    intro f arguments b hb hm h1 h2 h3 h4 h5 h6
    simp only [resolveWithin, resolve, hb, hm]
    exact (((keeps_misuse _).enter 1).enter 2).of_throw (le_calls_call f arguments (by decide))
  -- The points of a table.
  case case18 =>
    simp only [resolvePointsWithin, resolvePoints, callsOfPoints]
    exact keeps_pure _
  case case19 =>
    intro items x y hx hy hitems
    simp only [resolvePointsWithin, resolvePoints, callsOfPoints]
    exact Keeps.bind hx fun c => Keeps.bind hy fun d => Keeps.bind_pure hitems _
  case case20 =>
    intro x xs hx
    have hthrow : resolvePoints site (x :: xs) = throw .notAPoint := by
      rw [resolvePoints]
      exact hx
    have hmisuse : (fun calls => resolvePointsWithin site (x :: xs) calls) =
        fun _ => misuse .notAPoint := by
      funext calls
      rw [resolvePointsWithin]
      exact hx
    rw [hthrow, hmisuse]
    exact (keeps_misuse _).of_throw (Nat.zero_le _)
  -- Several expressions.
  case case21 =>
    simp only [resolveAllWithin, resolveAll, callsOfAll]
    exact keeps_pure _
  case case22 =>
    intro x xs hx hxs
    simp only [resolveAllWithin, resolveAll, callsOfAll]
    exact Keeps.bind hx fun c => Keeps.bind_pure hxs _

end Expr

namespace Formula

/-- The most calls of the parser's rules that are open at once while a text is compiled; those for
its tree count from further out. -/
def calls (text : String) : Nat :=
  match Expr.parse text with
  | .ok x => max (Expr.parseCalls text) (x.calls - Depth.besideRules)
  | .error _ => Expr.parseCalls text

theorem parseCalls_le_calls (text : String) : Expr.parseCalls text ≤ calls text := by
  unfold calls
  split
  · exact Nat.le_max_left _ _
  · exact Nat.le_refl _

/-- With the calls that a text takes, compiling it comes to what it comes to without a limit. With
fewer it fails for want of them, unless the text is no expression, and claims empty slots. -/
theorem compileWithin_cases (calls : Nat) (site : Site) (text : String) (slots : List Slot) :
    (compileWithin calls site text slots =
        (.ok (compile site text slots).1, (compile site text slots).2) ∧
      (Formula.calls text ≤ calls ∨ ∃ e, (compile site text slots).1 = .error e)) ∨
    (∃ claimed : List Slot, (∀ place ∈ claimed, place.state = none) ∧
      compileWithin calls site text slots = (.error .nestedTooDeeply, slots ++ claimed) ∧
      calls < Formula.calls text) := by
  have hle := parseCalls_le_calls text
  rw [compileWithin, Expr.parseWithin_eq]
  split_ifs with hcalls
  · refine .inr ⟨[], fun place hplace => absurd hplace List.not_mem_nil, ?_,
      Nat.lt_of_lt_of_le hcalls hle⟩
    rw [List.append_nil]
    rfl
  · rw [Formula.calls, compile]
    rcases Expr.parse text with e | x
    · exact .inl ⟨rfl, .inr ⟨e, rfl⟩⟩
    · obtain ⟨⟨claimed, hclaimed, hempty⟩, hrun⟩ :=
        (Expr.resolve_all_keeps site).1 x (calls + Depth.besideRules) ⟨slots, []⟩
      dsimp only [Except.mapError]
      rcases hrun with ⟨hsame, hneed⟩ | ⟨hdeep, hneed⟩
      · rw [hsame, Limited.run_free]
        refine .inl ?_
        rcases hr : (x.resolve site).run ⟨slots, []⟩ with ⟨m | c, claims⟩
        · exact ⟨rfl, .inr ⟨_, rfl⟩⟩
        · refine ⟨rfl, .inl ?_⟩
          rw [hr] at hneed
          rcases hneed with hneed | ⟨m, hm⟩
          · omega
          · cases hm
      · exact .inr ⟨claimed, hempty, Prod.ext (congrArg verdict hdeep) hclaimed, by omega⟩

theorem compileWithin_of_calls {calls : Nat} {text : String} (h : Formula.calls text ≤ calls)
    (site : Site) (slots : List Slot) :
    compileWithin calls site text slots =
      (.ok (compile site text slots).1, (compile site text slots).2) := by
  rcases compileWithin_cases calls site text slots with ⟨hsame, -⟩ | ⟨-, -, -, hlt⟩
  · exact hsame
  · exact absurd h (Nat.not_le.2 hlt)

/-- A text that takes too many calls to read claims no slots. -/
theorem compileWithin_of_parseCalls {calls : Nat} {text : String}
    (h : calls < Expr.parseCalls text) (site : Site) (slots : List Slot) :
    compileWithin calls site text slots = (.error .nestedTooDeeply, slots) := by
  rw [compileWithin, Expr.parseWithin_eq, if_pos h]
  rfl

end Formula

/-- A value over constants is that of the expression, which a text has without a limit too. -/
theorem exists_code_of_constantValue {text : String} {constant? : String → Option Value} {v : Float}
    (h : constantValue text constant? = .ok v) :
    ∃ c, (Formula.compile ⟨false, "const"⟩ text []).1 = .ok c ∧
      ((c.evalNumber (.ofConstants constant?)).run ⟨[], []⟩).1 = .ok v := by
  unfold constantValue at h
  rcases Formula.compileWithin_cases Depth.standard ⟨false, "const"⟩ text [] with
    ⟨hsame, -⟩ | ⟨_, -, hdeep, -⟩
  · rw [hsame] at h
    rcases hc : (Formula.compile ⟨false, "const"⟩ text []).1 with e | c <;> rw [hc] at h
    · cases h
    · exact ⟨c, rfl, h⟩
  · rw [hdeep] at h
    cases h

namespace Model

variable (calls : Nat) (m : Model) (text source : String) (purpose : Purpose)

/-- In a model a text makes the formula that it makes without a limit, or it makes none, takes more
calls, and leaves nothing behind but the slots that it has claimed. -/
theorem compileWithin_cases :
    (m.compileWithin calls text source purpose =
        (fun made => (made.1, .ok made.2)) <$> m.compile text source purpose ∧
      (Formula.calls text ≤ calls ∨
        ∃ e, (Formula.compile ⟨true, source⟩ text m.slots).1 = .error e)) ∨
    (∃ claimed : List Slot, (∀ place ∈ claimed, place.state = none) ∧
      m.compileWithin calls text source purpose =
        pure ({ m with slots := m.slots ++ claimed }, .error .nestedTooDeeply) ∧
      calls < Formula.calls text) := by
  rw [compileWithin]
  rcases Formula.compileWithin_cases calls ⟨true, source⟩ text m.slots with
    ⟨hsame, hfits⟩ | ⟨claimed, hempty, hdeep, hcalls⟩
  · refine .inl ⟨?_, hfits⟩
    rw [hsame, compile]
    rcases Formula.compile ⟨true, source⟩ text m.slots with ⟨e | c, slots⟩ <;> rfl
  · exact .inr ⟨claimed, hempty, by rw [hdeep], hcalls⟩

/-- So it is where whatever is wrong with the text is the caller's concern. -/
theorem compileStrictWithin_cases :
    (m.compileStrictWithin calls text source purpose =
        (m.compileStrict text source purpose).map id (·.mapError .badExpression) ∧
      (Formula.calls text ≤ calls ∨
        ∃ e, (Formula.compile ⟨true, source⟩ text m.slots).1 = .error e)) ∨
    (∃ claimed : List Slot, (∀ place ∈ claimed, place.state = none) ∧
      m.compileStrictWithin calls text source purpose =
        ({ m with slots := m.slots ++ claimed }, .error .nestedTooDeeply) ∧
      calls < Formula.calls text) := by
  rw [compileStrictWithin]
  rcases Formula.compileWithin_cases calls ⟨true, source⟩ text m.slots with
    ⟨hsame, hfits⟩ | ⟨claimed, hempty, hdeep, hcalls⟩
  · refine .inl ⟨?_, hfits⟩
    rw [hsame, compileStrict]
    rcases Formula.compile ⟨true, source⟩ text m.slots with ⟨e | c, slots⟩ <;> rfl
  · exact .inr ⟨claimed, hempty, by rw [hdeep], hcalls⟩

end Model

end SystemDynamics
