import SystemDynamics.Expr.Parser
/-!
# The grammar of expressions

Which words of tokens are expressions, and which trees they stand for, by levels: level 0 is a
choice, the levels 1 to 6 are chains of operators that group from the left, level 7 has the signs
in front of an operand, and level 8 calls, literals, names and brackets. A word of one level is
one of every lower level too.
-/

namespace SystemDynamics

namespace Grammar

/-- The operators of the chains, by level, with the trees that they make. -/
inductive Chain : Nat → Symbol → (Expr → Expr → Expr) → Prop
  | or : Chain 1 .or (.logical .or)
  | and : Chain 2 .and (.logical .and)
  | equal : Chain 3 .equal (.binary .equal)
  | unequal : Chain 3 .unequal (.binary .unequal)
  | less : Chain 4 .less (.binary .less)
  | greater : Chain 4 .greater (.binary .greater)
  | atMost : Chain 4 .atMost (.binary .atMost)
  | atLeast : Chain 4 .atLeast (.binary .atLeast)
  | plus : Chain 5 .plus (.binary .add)
  | minus : Chain 5 .minus (.binary .subtract)
  | times : Chain 6 .times (.binary .multiply)
  | divide : Chain 6 .divide (.binary .divide)
  | remainder : Chain 6 .remainder (.binary .remainder)

/-- The operators in front of an operand. -/
inductive Sign : Symbol → UnaryOp → Prop
  | not : Sign .not .not
  | minus : Sign .minus .negate
  | plus : Sign .plus .keep

mutual

/-- The words of a level and the trees that they stand for. -/
inductive Derives : Nat → List Token → Expr → Prop
  | tighter {k : Nat} {w : List Token} {x : Expr} :
      k < 8 → Derives (k + 1) w x → Derives k w x
  | choice {u v w : List Token} {c t e : Expr} :
      Derives 1 u c → Derives 0 v t → Derives 0 w e →
      Derives 0 (u ++ .symbol .question :: (v ++ .symbol .colon :: w)) (.choice c t e)
  | chain {k : Nat} {s : Symbol} {f : Expr → Expr → Expr} {u v : List Token} {l r : Expr} :
      Chain k s f → Derives k u l → Derives (k + 1) v r → Derives k (u ++ .symbol s :: v) (f l r)
  | sign {s : Symbol} {op : UnaryOp} {w : List Token} {x : Expr} :
      Sign s op → Derives 7 w x → Derives 7 (.symbol s :: w) (.unary op x)
  | emptyCall (f : String) : Derives 8 [.name f, .openParen, .closeParen] (.call f [])
  | call {f : String} {w : List Token} {xs : List Expr} :
      DerivesAll w xs → Derives 8 (.name f :: .openParen :: (w ++ [.closeParen])) (.call f xs)
  | number (l : Reading.Literal) : Derives 8 [.number l] (.number l.value)
  | text (s : String) : Derives 8 [.text s] (.text s)
  | name (n : String) : Derives 8 [.name n] (.name n)
  | group {w : List Token} {x : Expr} :
      Derives 0 w x → Derives 8 (.openParen :: (w ++ [.closeParen])) x
  | emptyList : Derives 8 [.openBracket, .closeBracket] (.list [])
  | list {w : List Token} {xs : List Expr} :
      DerivesAll w xs → Derives 8 (.openBracket :: (w ++ [.closeBracket])) (.list xs)

/-- The words of one expression or of several with commas between them. -/
inductive DerivesAll : List Token → List Expr → Prop
  | one {w : List Token} {x : Expr} : Derives 0 w x → DerivesAll w [x]
  | more {w v : List Token} {x : Expr} {xs : List Expr} :
      Derives 0 w x → DerivesAll v xs → DerivesAll (w ++ .comma :: v) (x :: xs)

end

theorem Derives.loosen {j k : Nat} {w : List Token} {x : Expr} (hjk : j ≤ k) (hk : k ≤ 8)
    (h : Derives k w x) : Derives j w x := by
  induction hjk with
  | refl => exact h
  | step hjm ih => exact ih (by omega) (h.tighter (by omega))

/-- The operator that a symbol of a chain is to the parser. -/
theorem Chain.join {k : Nat} {s : Symbol} {f : Expr → Expr → Expr} (h : Chain k s f) :
    ∃ j : Join, s.join? = some j ∧ j.level = k ∧ ∀ l r, j.apply l r = f l r := by
  cases h <;> exact ⟨_, rfl, rfl, fun _ _ => rfl⟩

theorem chain_of_join {s : Symbol} {j : Join} (h : s.join? = some j) :
    Chain j.level s (fun l r => j.apply l r) := by
  cases s <;> cases h <;> constructor

theorem Chain.bounds {k : Nat} {s : Symbol} {f : Expr → Expr → Expr} (h : Chain k s f) :
    1 ≤ k ∧ k ≤ 6 := by
  cases h <;> decide

theorem sign_iff {s : Symbol} {op : UnaryOp} : Sign s op ↔ s.unary? = some op := by
  constructor
  · intro h
    cases h <;> rfl
  · intro h
    cases s <;> cases h <;> constructor

end Grammar

end SystemDynamics
