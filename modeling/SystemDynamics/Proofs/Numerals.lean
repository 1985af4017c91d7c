import SystemDynamics.Proofs.Answers
import SystemDynamics.Proofs.Declared
import SystemDynamics.Proofs.Parsing

/-!
# Numerals

A numeral is a decimal literal, perhaps behind a sign. A text that is read as a number is a numeral
with blanks around it (`Reading.number?_eq_some`). It is an expression too, by itself and in
brackets (`Reading.Numeral.parse_text`, `parse_bracketed`): one that claims no slot, reads no
name and has the number for its value in every scope (`Reading.Numeral.eval_code`). So an expression
and a number agree wherever the number is finite; one that is not is refused as the value of an
expression (`constantValue_bracketed`).
-/

namespace SystemDynamics

open Text

/-! ## Blanks at the end -/

namespace Line

/-- A text is what is left without the blanks at its end, and these blanks. -/
theorem exists_stripRight (cs : List Char) :
    ∃ space, cs = stripRight cs ++ space ∧ Blanks space := by
  obtain ⟨space, hcs, hs⟩ := exists_stripLeft cs.reverse
  refine ⟨space.reverse, ?_, fun c hc => hs c (List.mem_reverse.1 hc)⟩
  rw [stripRight, ← stripLeft, ← List.reverse_append, ← hcs, List.reverse_reverse]

/-- A text is what is left without the blanks around it, and these blanks. -/
theorem exists_strip (cs : List Char) :
    ∃ before after, cs = before ++ (strip cs ++ after) ∧ Blanks before ∧ Blanks after := by
  obtain ⟨before, hbefore, hb⟩ := exists_stripLeft cs
  obtain ⟨after, hafter, ha⟩ := exists_stripRight (stripLeft cs)
  refine ⟨before, after, ?_, hb, ha⟩
  rw [strip, ← hafter, ← hbefore]

end Line

namespace Reading

/-! ## What follows a literal -/

theorem Literal.ends_nil (l : Literal) : l.Ends [] := Lexer.ends_of_isBlank (.number l) nofun

/-- A literal ends in front of blanks and a bracket behind them. -/
theorem Literal.ends_closing (l : Literal) {gap : List Char} (hgap : Line.Blanks gap)
    (rest : List Char) : l.Ends (gap ++ ')' :: rest) := by
  rcases gap with _ | ⟨c, gap⟩
  · refine ⟨by rintro _ ⟨⟩; decide, by rintro - - _ ⟨⟩; decide, ?_⟩
    rintro - mark power after hcs ⟨⟨e, sign, rfl, he, -⟩, -⟩
    cases (List.cons.inj hcs).1
    rcases he with he | he <;> cases he
  · exact Lexer.ends_of_isBlank (.number l) fun d hd => by cases hd; exact hgap c (.head _)

/-! ## Numerals -/

/-- A text in brackets. -/
def bracketed (cs : List Char) : List Char := '(' :: (cs ++ [')'])

/-- A literal, perhaps behind a sign. -/
inductive Numeral where
  | bare (l : Literal)
  | plus (l : Literal)
  | minus (l : Literal)

namespace Numeral

def literal : Numeral → Literal
  | bare l | plus l | minus l => l

/-- The spelling. -/
def text : Numeral → List Char
  | bare l => l.text
  | plus l => '+' :: l.text
  | minus l => '-' :: l.text

def value : Numeral → Float
  | bare l | plus l => l.value
  | minus l => -l.value

def tokens : Numeral → List Token
  | bare l => [.number l]
  | plus l => [.symbol .plus, .number l]
  | minus l => [.symbol .minus, .number l]

/-- The expression that the numeral is. -/
def expr : Numeral → Expr
  | bare l => .number l.value
  | plus l => .unary .keep (.number l.value)
  | minus l => .unary .negate (.number l.value)

/-- The expression when its calls, of which it has none, are resolved. -/
def code : Numeral → Code
  | bare l => .number l.value
  | plus l => .unary .keep (.number l.value)
  | minus l => .unary .negate (.number l.value)

/-- The numeral is spelt as one. -/
def Proper (n : Numeral) : Prop := n.literal.Proper

theorem isNaN_value (n : Numeral) : n.value.isNaN = false := by
  cases n with
  | bare l | plus l => exact Literal.isNaN_value l
  | minus l => exact (isNaN_neg l.value).trans (Literal.isNaN_value l)

theorem derives (n : Numeral) : Grammar.Derives 0 n.tokens n.expr := by
  have hliteral : ∀ l : Literal, Grammar.Derives 8 [.number l] (.number l.value) := .number
  cases n with
  | bare l => exact (hliteral l).loosen (by decide) (by decide)
  | plus l =>
    have hsigned := Grammar.Derives.sign .plus ((hliteral l).loosen (by decide) (by decide))
    exact hsigned.loosen (by decide) (by decide)
  | minus l =>
    have hsigned := Grammar.Derives.sign .minus ((hliteral l).loosen (by decide) (by decide))
    exact hsigned.loosen (by decide) (by decide)

theorem reads_literal {l : Literal} (h : l.Proper) : Lexer.Reads (some (.number l)) l.text :=
  ⟨h, String.toList_ofList.symm⟩

/-- A numeral does not begin with a blank. -/
theorem exists_text {n : Numeral} (h : n.Proper) :
    ∃ c more, n.text = c :: more ∧ isBlank c = false := by
  cases n with
  | bare l =>
    obtain ⟨c, more, htext, hstarts⟩ := (reads_literal h).starts
    exact ⟨c, more, htext, hstarts.isBlank⟩
  | plus l => exact ⟨'+', l.text, rfl, rfl⟩
  | minus l => exact ⟨'-', l.text, rfl, rfl⟩

/-- A numeral is cut into its sign and its literal. -/
theorem cuts {n : Numeral} (h : n.Proper) {rest : List Char} {ts : List Token}
    (hends : n.literal.Ends rest) (hrest : Lexer.Cuts rest ts) :
    Lexer.Cuts (n.text ++ rest) (n.tokens ++ ts) := by
  have hliteral : ∀ {l : Literal}, l.Proper → l.Ends rest →
      Lexer.Cuts (l.text ++ rest) (.number l :: ts) :=
    fun hl hends => .token (reads_literal hl) hends hrest
  cases n with
  | bare l => exact hliteral h hends
  | plus l => exact .mark (t := .symbol .plus) trivial rfl (fun _ => rfl) (hliteral h hends)
  | minus l => exact .mark (t := .symbol .minus) trivial rfl (fun _ => rfl) (hliteral h hends)

/-- A numeral by itself is an expression. -/
theorem parse_text {n : Numeral} (h : n.Proper) :
    Expr.parse (String.ofList n.text) = .ok n.expr := by
  have hcuts := n.cuts h n.literal.ends_nil .nil
  rw [List.append_nil, List.append_nil] at hcuts
  rw [← String.toList_ofList (l := n.text)] at hcuts
  exact (Expr.parse_of_cuts hcuts _).2 n.derives

section Bracketed

variable (n : Numeral) {before after : List Char}

/-- A numeral in brackets, perhaps with blanks around it. -/
theorem cuts_bracketed (h : n.Proper) (hbefore : Line.Blanks before) (hafter : Line.Blanks after) :
    Lexer.Cuts (String.ofList (bracketed (before ++ (n.text ++ after)))).toList
      (.openParen :: (n.tokens ++ [.closeParen])) := by
  have hclose : Lexer.Cuts (after ++ [')']) [.closeParen] := by
    refine .gap hafter (by rintro _ ⟨⟩; rfl) ?_
    exact .mark (t := .closeParen) trivial rfl (fun _ => rfl) .nil
  have hstart : ∀ c ∈ (n.text ++ (after ++ [')'])).head?, isBlank c = false := by
    obtain ⟨c, more, htext, hc⟩ := exists_text h
    rw [htext]
    rintro _ ⟨⟩
    exact hc
  rw [String.toList_ofList, bracketed, List.append_assoc, List.append_assoc]
  exact .mark (t := .openParen) trivial rfl (fun _ => rfl)
    (.gap hbefore hstart (n.cuts h (n.literal.ends_closing hafter []) hclose))

/-- It is the same expression. -/
theorem parse_bracketed (h : n.Proper) (hbefore : Line.Blanks before)
    (hafter : Line.Blanks after) :
    Expr.parse (String.ofList (bracketed (before ++ (n.text ++ after)))) = .ok n.expr :=
  (Expr.parse_of_cuts (n.cuts_bracketed h hbefore hafter) _).2
    ((Grammar.Derives.group n.derives).loosen (by decide) (by decide))

/-- It takes few calls. -/
theorem calls_bracketed (h : n.Proper) (hbefore : Line.Blanks before)
    (hafter : Line.Blanks after) :
    Formula.calls (String.ofList (bracketed (before ++ (n.text ++ after)))) ≤ Depth.standard := by
  have hparse := Expr.parseCalls_of_cuts (n.cuts_bracketed h hbefore hafter)
  have htokens : (Token.openParen :: (n.tokens ++ [.closeParen])).length ≤ 4 := by
    cases n <;> simp [tokens]
  have hexpr : n.expr.calls ≤ 3 := by
    cases n <;> simp only [expr, Expr.calls] <;> decide
  have hstandard : Depth.standard = 990 := rfl
  simp only [Formula.calls, n.parse_bracketed h hbefore hafter, Nat.max_le]
  omega

end Bracketed

theorem resolve_expr (n : Numeral) (site : Site) (c : Claims) :
    (n.expr.resolve site).run c = (.ok n.code, c) := by
  cases n <;> simp only [expr, code, Expr.resolve] <;> rfl

theorem compile_of_parse {n : Numeral} {text : String} (h : Expr.parse text = .ok n.expr)
    (site : Site) (slots : List Slot) :
    Formula.compile site text slots = (.ok n.code, slots) := by
  simp only [Formula.compile, h, n.resolve_expr]

/-- In every scope the expression has the number for its value, and leaves the memory alone. -/
theorem eval_code (n : Numeral) (s : Scope) (m : Memory) :
    (n.code.eval s).run m = (.ok (.real n.value), m) := by
  cases n <;> simp only [code, Code.eval] <;> rfl

theorem attempt_code (n : Numeral) (p : Purpose) (s : Scope) (m : Memory) :
    Formula.attempt p n.code s m = p.answerOf (.real n.value) := by
  rw [Formula.attempt, n.eval_code]
  rfl

end Numeral

/-- A text that is read as a number is a numeral with blanks around it. -/
theorem number?_eq_some {cs : List Char} {x : Float} (h : number? cs = some x) :
    ∃ n : Numeral, n.Proper ∧ strip cs = n.text ∧ n.value = x := by
  unfold number? at h
  generalize strip cs = word at h ⊢
  rcases hsign : sign word with ⟨negative, body⟩
  rw [hsign] at h
  dsimp only at h
  split at h
  · rename_i l hl
    obtain ⟨hproper, hbody, -⟩ := literal?_eq_some_iff.1 hl
    rw [List.append_nil] at hbody
    subst hbody
    cases h
    unfold sign at hsign
    split at hsign <;> cases hsign
    · exact ⟨.minus l, hproper, rfl, rfl⟩
    · exact ⟨.plus l, hproper, rfl, rfl⟩
    · exact ⟨.bare l, hproper, rfl, rfl⟩
  · cases h

/-- In brackets it is an expression that takes few calls, claims no slot and has the number for its
value. -/
theorem compile_bracketed {cs : List Char} {x : Float} (h : number? cs = some x) :
    ∃ n : Numeral, n.value = x ∧
      Formula.calls (String.ofList (bracketed cs)) ≤ Depth.standard ∧
      ∀ site slots,
        Formula.compile site (String.ofList (bracketed cs)) slots = (.ok n.code, slots) := by
  obtain ⟨n, hproper, hstrip, hvalue⟩ := number?_eq_some h
  obtain ⟨before, after, hcs, hbefore, hafter⟩ := Line.exists_strip cs
  refine ⟨n, hvalue, ?_, n.compile_of_parse ?_⟩ <;> rw [hcs, hstrip]
  · exact n.calls_bracketed hproper hbefore hafter
  · exact n.parse_bracketed hproper hbefore hafter

end Reading

open Reading

/-! ## Values -/

theorem Code.evalNumber_numeral (n : Numeral) (s : Scope) (m : Memory) :
    (n.code.evalNumber s).run m =
      (if n.value.isFinite then .ok n.value else .error (.nonFinite n.value), m) := by
  have hreal : (Evaluation.outcome (Value.real n.value).toReal).run m = (.ok n.value, m) := rfl
  rw [evalNumber, run_bind, n.eval_code]
  dsimp only
  rw [run_bind, hreal]
  dsimp only
  split <;> rfl

/-- The value of a number in brackets is the number, if it is finite. -/
theorem constantValue_bracketed {cs : List Char} {x : Float} (h : number? cs = some x)
    (constant? : String → Option Value) :
    constantValue (String.ofList (bracketed cs)) constant? =
      if x.isFinite then .ok x else .error (.nonFinite x) := by
  obtain ⟨n, rfl, hcalls, hcompile⟩ := compile_bracketed h
  simp only [constantValue, Formula.compileWithin_of_calls hcalls, hcompile,
    Code.evalNumber_numeral]

namespace Formula

variable {f : Formula} {n : Numeral}

theorem references_numeral (hbody : f.body = .ok n.code) : f.references = [] := by
  simp only [references, hbody]
  cases n <;> rfl

/-- A formula of a finite number always has it for its value. -/
theorem evaluate_numeral (hbody : f.body = .ok n.code) (hpurpose : f.purpose = .number)
    (hfinite : n.value.isFinite = true) (s : Scope) (m : Memory) :
    f.evaluate s m = (.number n.value, m) := by
  have hanswer : Purpose.number.answerOf (.real n.value) = .ok (.number n.value) :=
    if_pos hfinite
  rw [evaluate_of_body hbody, hpurpose, n.attempt_code, hanswer, n.eval_code]

/-- A condition of a number is met unless the number is zero. -/
theorem evaluate_condition_numeral (hbody : f.body = .ok n.code)
    (hpurpose : f.purpose = .condition) (s : Scope) (m : Memory) :
    f.evaluate s m = (.truth (!(n.value == 0.0)), m) := by
  have hanswer : Purpose.condition.answerOf (.real n.value) =
      .ok (.truth (!(n.value == 0.0))) := by
    rw [Purpose.answerOf, n.isNaN_value]
    rfl
  rw [evaluate_of_body hbody, hpurpose, n.attempt_code, hanswer, n.eval_code]

end Formula

end SystemDynamics
