import SystemDynamics.Expr.Descent
import SystemDynamics.Proofs.Parsing

/-!
# The calls that a text takes

Rules that call each other have calls open for the constructs that have begun (`Parser.opened`) and,
where an operand starts, for the rules from the first down to the one that takes its token. So the
most calls that a text takes are read off the parser's run (`Parser.demand`), and no text takes more
than eleven for each of its tokens (`Parser.calls_le`). What comes of the parser when no more may be
open than a bound is told token by token (`Parser.outcome`).
-/

namespace SystemDynamics

namespace Parser

/-! ## Open calls -/

/-- The calls that stay open for a construct while its missing part is read. -/
def Frame.calls : Frame → Nat
  | unary _ | consequence _ | alternative _ _ => 1
  | join _ _ => 0
  | group | arguments _ _ => 10
  | items _ => 11

/-- The calls that are open for the constructs that have begun. -/
def opened : List Frame → Nat
  | [] => 0
  | f :: fs => f.calls + opened fs

theorem opened_cons (f : Frame) (fs : List Frame) : opened (f :: fs) = f.calls + opened fs := rfl

/-- Whether a token ends a list that has no member. -/
def endsEmpty : List Frame → Token → Bool
  | .arguments _ [] :: _, .closeParen | .items [] :: _, .closeBracket => true
  | _, _ => false

/-- The calls from the first rule down to the one that takes a token where an operand starts. -/
def reach (fs : List Frame) (t : Token) : Nat :=
  if endsEmpty fs t then 0 else if (Descent.sign? t).isSome then 8 else 10

theorem reach_le (fs : List Frame) (t : Token) : reach fs t ≤ 10 := by
  unfold reach
  split_ifs <;> decide

/-- The calls that are open where the parser looks at a token. Behind an operand they are fewer than
where the operand started. -/
def openAt (s : State) (t : Token) : Nat :=
  match s.focus with
  | .nothing => opened s.frames + reach s.frames t
  | .name _ | .operand _ => 0

/-- The most calls that are open at once while the parser reads on. -/
def demand (s : State) : List Placed → Nat
  | [] => 0
  | p :: rest =>
    max (openAt s p.token)
      (match step s p.token with
      | .ok s' => demand s' rest
      | .error _ => 0)

/-- The most calls that are open at once while the tokens of a text are read. -/
def calls (tokens : List Placed) : Nat :=
  match tokens with
  | ⟨.finish, _⟩ :: _ => 0
  | _ => demand .start tokens

theorem calls_cons {p : Placed} {rest : List Placed} (hp : p.token ≠ .finish) :
    calls (p :: rest) = demand .start (p :: rest) := by
  unfold calls
  split
  · rename_i heq
    cases heq
    exact absurd rfl hp
  · rfl

theorem parseTokens_cons {p : Placed} {rest : List Placed} (hp : p.token ≠ .finish) :
    parseTokens (p :: rest) = run .start (p :: rest) := by
  unfold parseTokens
  split
  · rename_i heq
    cases heq
    exact absurd rfl hp
  · rfl

/-- What comes of reading on, when so many calls may be open at once. -/
def outcome (text : String) (calls : Nat) (s : State) (ps : List Placed) : Except Fault Expr :=
  if calls < demand s ps then .error .nestedTooDeeply
  else
    match run s ps with
    | .ok x => .ok x
    | .error (c, position) => .error (.badExpression (.located c text position))

section Outcome

variable {text : String} {calls n : Nat} {s s' : State} {t : Token} {fs : List Frame}
  {x y : Expr} {rest : List Placed}

theorem outcome_deep (h : calls < openAt s t) :
    outcome text calls s (⟨t, n⟩ :: rest) = .error .nestedTooDeeply :=
  if_pos (Nat.lt_of_lt_of_le h (Nat.le_max_left _ _))

/-- One token, which is not the end. -/
theorem outcome_step (h : openAt s t ≤ calls) (ht : t ≠ .finish) (hs : step s t = .ok s') :
    outcome text calls s (⟨t, n⟩ :: rest) = outcome text calls s' rest := by
  have hdemand : calls < demand s (⟨t, n⟩ :: rest) ↔ calls < demand s' rest := by
    simp only [demand, hs]
    omega
  simp only [outcome, hdemand, run_cons ht, hs]

theorem outcome_stuck {c : Complaint} (h : openAt s t ≤ calls) (hs : step s t = .error c)
    (hfinish : t = .finish → finish s = .error c) :
    outcome text calls s (⟨t, n⟩ :: rest) = .error (.badExpression (.located c text n)) := by
  have hdemand : ¬ calls < demand s (⟨t, n⟩ :: rest) := by
    simp only [demand, hs]
    omega
  rw [outcome, if_neg hdemand]
  by_cases ht : t = .finish
  · subst ht
    simp only [run, hfinish rfl]
  · simp only [run_cons ht, hs]

end Outcome

/-! ## Tokens where an operand starts and behind one -/

theorem stepOperand_stuck {fs : List Frame} {t : Token} (hstarted : endsEmpty fs t = false)
    (hsign : Descent.sign? t = none) (hnumber : ∀ l, t ≠ .number l) (htext : ∀ s, t ≠ .text s)
    (hname : ∀ n, t ≠ .name n) (hparen : t ≠ .openParen) (hbracket : t ≠ .openBracket) :
    stepOperand fs t = .error (.unexpectedToken t.shown) := by
  unfold stepOperand
  split
  · exact absurd rfl (hnumber _)
  · exact absurd rfl (htext _)
  · exact absurd rfl (hname _)
  · exact absurd rfl hparen
  · exact absurd rfl hbracket
  · cases hstarted
  · cases hstarted
  · rename_i s
    have hunary : s.unary? = none := hsign
    rw [hunary]
  · rfl

/-- The level of the rule that goes on with a token behind what it has read. -/
def taker? : Token → Option Nat
  | .symbol .question => some 0
  | .symbol s => s.join?.map Join.level
  | _ => none

/-- A token that a rule of the level, or of one above, does not go on with. -/
def Ends (level : Nat) (t : Token) : Prop := ∀ k, taker? t = some k → k < level

/-- The level that a token closes the constructs before it to. -/
def closing (t : Token) : Nat :=
  match taker? t with
  | some k => max k 1
  | none => 0

theorem taker?_lt {t : Token} {k : Nat} (h : taker? t = some k) : k < 7 := by
  unfold taker? at h
  split at h
  · cases h
    decide
  · obtain ⟨j, -, rfl⟩ := Option.map_eq_some_iff.1 h
    have := j.level_bounds
    omega
  · cases h

theorem closing_join {s : Symbol} {j : Join} (h : s.join? = some j) :
    closing (.symbol s) = j.level := by
  cases s <;> cases h <;> rfl

theorem closing_other {t : Token} (h : Ends 0 t) : closing t = 0 := by
  unfold closing
  split
  · rename_i k hk
    exact absurd (h k hk) (Nat.not_lt_zero k)
  · rfl

theorem closing_lt {level : Nat} {t : Token} (h : Ends (level + 1) t) (hlevel : 1 ≤ level) :
    closing t ≤ level := by
  unfold closing
  split
  · rename_i k hk
    have := h k hk
    omega
  · omega

theorem ends_of_seven_le {level : Nat} (h : 7 ≤ level) (t : Token) : Ends level t :=
  fun _ hk => Nat.lt_of_lt_of_le (taker?_lt hk) h

theorem ends_of_not_question {t : Token} (h : Ends 1 t) (hquestion : t ≠ .symbol .question) :
    Ends 0 t := by
  intro k hk
  have hlt := h k hk
  have hzero : k = 0 := by omega
  subst hzero
  unfold taker? at hk
  split at hk
  · exact absurd rfl hquestion
  · obtain ⟨j, -, hj⟩ := Option.map_eq_some_iff.1 hk
    have := j.level_bounds
    omega
  · cases hk

/-- What a token does behind an operand depends on the constructs that it leaves open. -/
theorem stepAfter_congr {t : Token} {fs gs : List Frame} {x y : Expr}
    (h : settle (closing t) fs x = settle (closing t) gs y) :
    stepAfter fs x t = stepAfter gs y t := by
  have hclosed : ∀ k, closing t = k → settle k fs x = settle k gs y := fun _ hk => hk ▸ h
  cases t with
  | symbol s =>
    rcases hj : s.join? with _ | j
    · cases s <;> cases hj
      · simp only [stepAfter, Symbol.join?, hclosed 0 rfl]
      · simp only [stepAfter, hclosed 1 rfl]
      · simp only [stepAfter, Symbol.join?, hclosed 0 rfl]
    · have h := hclosed j.level (closing_join hj)
      cases s <;> cases hj <;> simp only [stepAfter, Symbol.join?, h]
  | _ => simp only [stepAfter, hclosed 0 rfl]

theorem step_operand (fs : List Frame) (x : Expr) (t : Token) :
    step ⟨fs, .operand x⟩ t = stepAfter fs x t := by
  cases t <;> rfl

/-- A construct that the token closes is closed at once. -/
theorem outcome_close {text : String} {calls : Nat} {f : Frame} {fs : List Frame} {x y : Expr}
    {p : Placed} {rest : List Placed} (h : f.close? (closing p.token) x = some y) :
    outcome text calls ⟨f :: fs, .operand x⟩ (p :: rest) =
      outcome text calls ⟨fs, .operand y⟩ (p :: rest) := by
  obtain ⟨t, n⟩ := p
  have hsettle : settle (closing t) (f :: fs) x = settle (closing t) fs y := settle_of_close h fs
  have hstep : step ⟨f :: fs, .operand x⟩ t = step ⟨fs, .operand y⟩ t := by
    rw [step_operand, step_operand, stepAfter_congr hsettle]
  have hdemand : demand ⟨f :: fs, .operand x⟩ (⟨t, n⟩ :: rest) =
      demand ⟨fs, .operand y⟩ (⟨t, n⟩ :: rest) := by
    simp only [demand, openAt, hstep]
  have hrun : run ⟨f :: fs, .operand x⟩ (⟨t, n⟩ :: rest) =
      run ⟨fs, .operand y⟩ (⟨t, n⟩ :: rest) := by
    by_cases ht : t = .finish
    · subst ht
      have hsettle : settle 0 (f :: fs) x = settle 0 fs y := hsettle
      simp only [run, finish, hsettle]
    · simp only [run_cons ht, hstep]
  rw [outcome, outcome, hdemand, hrun]

/-- A name that no parenthesis follows is an operand. -/
theorem outcome_name {text : String} {calls : Nat} {fs : List Frame} {f : String} {p : Placed}
    {rest : List Placed} (h : p.token ≠ .openParen) :
    outcome text calls ⟨fs, .name f⟩ (p :: rest) =
      outcome text calls ⟨fs, .operand (.name f)⟩ (p :: rest) := by
  obtain ⟨t, n⟩ := p
  have hstep : step ⟨fs, .name f⟩ t = step ⟨fs, .operand (.name f)⟩ t := by
    rw [step_operand]
    exact step_of_operand rfl h
  have hrun : run ⟨fs, .name f⟩ (⟨t, n⟩ :: rest) =
      run ⟨fs, .operand (.name f)⟩ (⟨t, n⟩ :: rest) := by
    by_cases ht : t = .finish
    · subst ht
      rfl
    · simp only [run_cons ht, hstep]
  have hdemand : demand ⟨fs, .name f⟩ (⟨t, n⟩ :: rest) =
      demand ⟨fs, .operand (.name f)⟩ (⟨t, n⟩ :: rest) := by
    simp only [demand, openAt, hstep]
  rw [outcome, outcome, hdemand, hrun]

theorem stepAfter_closed {t : Token} {fs gs : List Frame} {x y : Expr} (ht : Ends 0 t)
    (h : settle 0 fs x = (gs, y)) : stepAfter fs x t = stepClosed t gs y := by
  cases t with
  | symbol s =>
    have hs : ∀ k, taker? (.symbol s) = some k → False := fun k hk => Nat.not_lt_zero k (ht k hk)
    cases s <;> first
      | exact (hs _ rfl).elim
      | simp only [stepAfter, Symbol.join?, h]
  | _ => simp only [stepAfter, h]

theorem stepClosed_nil (t : Token) (x : Expr) :
    stepClosed t [] x = .error (.unexpectedToken t.value) := by
  cases t with
  | symbol s => cases s <;> rfl
  | _ => rfl

theorem settle_of_wanted {f : Frame} {wanted : String} (h : f.wanted? = some wanted)
    (fs : List Frame) (x : Expr) : settle 0 (f :: fs) x = (f :: fs, x) := by
  refine settle_of_open ?_ fs
  cases f <;> first | rfl | cases h

/-- A token behind an operand that is not the one that the innermost construct waits for. -/
theorem outcome_expected {text : String} {calls n : Nat} {f : Frame} {fs : List Frame} {x : Expr}
    {t : Token} {rest : List Placed} {wanted : String} (hf : f.wanted? = some wanted)
    (ht : Ends 0 t) (hclosed : stepClosed t (f :: fs) x = .error (misplaced (f :: fs) t)) :
    outcome text calls ⟨f :: fs, .operand x⟩ (⟨t, n⟩ :: rest) =
      .error (.badExpression (.located (.expected wanted t.shown) text n)) := by
  have hmisplaced : misplaced (f :: fs) t = .expected wanted t.shown := by
    simp only [misplaced, List.head?_cons, Option.bind_some, hf]
  rw [← hmisplaced]
  refine outcome_stuck (Nat.zero_le _) ?_ ?_
  · rw [step_operand, stepAfter_closed ht (settle_of_wanted hf fs x), hclosed]
  · rintro rfl
    simp only [finish, settle_of_wanted hf fs x]

/-! ## How many calls a text can take -/

theorem opened_settle_le (k : Nat) : ∀ (fs : List Frame) (x : Expr),
    opened (settle k fs x).1 ≤ opened fs
  | [], _ => Nat.le_refl _
  | f :: fs, x => by
    rcases hf : f.close? k x with _ | y
    · exact Nat.le_of_eq (by rw [settle_of_open hf])
    · rw [settle_of_close hf, opened_cons]
      exact Nat.le_add_left_of_le (opened_settle_le k fs y)

theorem opened_stepOperand_le {fs : List Frame} {t : Token} {s : State}
    (h : stepOperand fs t = .ok s) : opened s.frames ≤ opened fs + 11 := by
  unfold stepOperand at h
  split at h
  case h_8 =>
    split at h <;> cases h
    simp only [opened_cons, Frame.calls]
    omega
  all_goals
    cases h <;> simp only [opened_cons, Frame.calls] <;> omega

theorem opened_stepClosed_le {fs : List Frame} {x : Expr} {t : Token} {s : State}
    (h : stepClosed t fs x = .ok s) : opened s.frames ≤ opened fs := by
  unfold stepClosed at h
  split at h <;> cases h <;> simp only [opened_cons, Frame.calls] <;> omega

theorem opened_stepAfter_le {fs : List Frame} {x : Expr} {t : Token} {s : State}
    (h : stepAfter fs x t = .ok s) : opened s.frames ≤ opened fs + 11 := by
  have hsettle := fun k => opened_settle_le k fs x
  unfold stepAfter at h
  split at h
  · cases h
    have := hsettle 1
    simp only [opened_cons, Frame.calls]
    omega
  · split at h
    · rename_i op _
      cases h
      have := hsettle op.level
      simp only [opened_cons, Frame.calls]
      omega
    · exact Nat.le_add_right_of_le (Nat.le_trans (opened_stepClosed_le h) (hsettle 0))
  · exact Nat.le_add_right_of_le (Nat.le_trans (opened_stepClosed_le h) (hsettle 0))

/-- A token opens eleven calls at most. -/
theorem opened_step_le {s s' : State} {t : Token} (h : step s t = .ok s') :
    opened s'.frames ≤ opened s.frames + 11 := by
  obtain ⟨fs, focus⟩ := s
  unfold step at h
  split at h
  · exact opened_stepOperand_le h
  · cases h
    simp only [opened_cons, Frame.calls]
    omega
  · exact opened_stepAfter_le h
  · exact opened_stepAfter_le h

theorem openAt_le (s : State) (t : Token) : openAt s t ≤ opened s.frames + 10 := by
  have := reach_le s.frames t
  unfold openAt
  split <;> omega

theorem demand_le : ∀ (ps : List Placed) (s : State),
    demand s ps ≤ opened s.frames + 11 * ps.length
  | [], _ => Nat.zero_le _
  | p :: ps, s => by
    have hhere := openAt_le s p.token
    refine Nat.max_le.2 ⟨by rw [List.length_cons]; omega, ?_⟩
    rw [List.length_cons]
    split
    · rename_i s' hs
      have hstep := opened_step_le hs
      have hrest := demand_le ps s'
      omega
    · omega

/-- A text takes eleven calls for each of its tokens at most. -/
theorem calls_le (tokens : List Placed) : calls tokens ≤ 11 * tokens.length := by
  unfold calls
  split
  · exact Nat.zero_le _
  · have h := demand_le tokens .start
    rwa [State.start, show opened [] = 0 from rfl, Nat.zero_add] at h

end Parser

end SystemDynamics
