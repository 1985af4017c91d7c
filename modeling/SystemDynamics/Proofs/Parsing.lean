import Mathlib.Tactic.SplitIfs
import Mathlib.Tactic.Tauto
import SystemDynamics.Proofs.Grammar
import SystemDynamics.Proofs.Tokenizing
/-!
# The parser reads the grammar

The parser accepts the words of level 0 of the grammar and no others, with the trees that they
stand for (`parse_iff_derives`).

What the parser has begun says which tokens it has read (`Begins`): each open construct holds its
parts at the levels that the grammar asks for, and asks itself for a level of what is still
missing (`hole`). A token keeps this (`Holds.step`), so an accepted word is derived. The other
way, a word of a level is read from any constructs that ask for no more than that level, and
leaves them as if its tree had been read at once (`Reads`); this is shown production by production.
-/

namespace SystemDynamics

theorem Join.level_bounds (j : Join) : 1 ≤ j.level ∧ j.level ≤ 6 := by
  rcases j with op | op <;> cases op <;> decide

namespace Parser

open Grammar

/-! ## What constructs ask for -/

/-- The level that a construct asks for in its missing part. -/
def Frame.hole : Frame → Nat
  | .unary _ => 7
  | .join op _ => op.level + 1
  | .consequence _ | .alternative _ _ | .group | .arguments _ _ | .items _ => 0

/-- The level that the innermost construct asks for. -/
def hole : List Frame → Nat
  | [] => 0
  | f :: _ => f.hole

theorem hole_le : ∀ fs : List Frame, hole fs ≤ 7
  | [] => by simp [hole]
  | f :: _ => by
    cases f with
    | join op left => have := op.level_bounds; simp only [hole, Frame.hole]; omega
    | _ => simp [hole, Frame.hole]

theorem hole_ne_one : ∀ fs : List Frame, hole fs ≠ 1
  | [] => by simp [hole]
  | f :: _ => by
    cases f with
    | join op left => have := op.level_bounds; simp only [hole, Frame.hole]; omega
    | _ => simp [hole, Frame.hole]

theorem settle_of_close {k : Nat} {f : Frame} {x y : Expr} (h : f.close? k x = some y)
    (fs : List Frame) : settle k (f :: fs) x = settle k fs y := by
  simp only [settle, h]

theorem settle_of_open {k : Nat} {f : Frame} {x : Expr} (h : f.close? k x = none)
    (fs : List Frame) : settle k (f :: fs) x = (f :: fs, x) := by
  simp only [settle, h]

/-- What asks for no more than a level of the chains is not closed at that level. -/
theorem settle_of_hole_le {k : Nat} (h1 : 1 ≤ k) (h6 : k ≤ 6) (x : Expr) :
    ∀ {fs : List Frame}, hole fs ≤ k → settle k fs x = (fs, x)
  | [], _ => rfl
  | f :: fs, h => by
    refine settle_of_open ?_ fs
    cases f <;> simp only [hole, Frame.hole, Frame.close?] at h ⊢ <;> split_ifs <;>
      first | rfl | omega

/-! ## What has been read -/

/-- Expressions with a comma behind each. -/
inductive Listed : List Token → List Expr → Prop
  | nil : Listed [] []
  | snoc {u v : List Token} {xs : List Expr} {x : Expr} :
      Listed u xs → Derives 0 v x → Listed (u ++ (v ++ [.comma])) (xs ++ [x])

theorem Listed.derivesAll {u : List Token} {xs : List Expr} (h : Listed u xs) :
    ∀ {v : List Token} {ys : List Expr}, DerivesAll v ys → DerivesAll (u ++ v) (xs ++ ys) := by
  induction h with
  | nil => exact id
  | snoc _ hx ih =>
    intro v ys hv
    simpa using ih (.more hx hv)

/-- The tokens that constructs which have begun have read, with a word of each part that they
hold. -/
inductive Begins : List Frame → List Token → Prop
  | nil : Begins [] []
  | unary {fs : List Frame} {u : List Token} {s : Symbol} {op : UnaryOp} :
      Begins fs u → Sign s op → Begins (.unary op :: fs) (u ++ [.symbol s])
  | join {fs : List Frame} {u v : List Token} {s : Symbol} {op : Join} {l : Expr} :
      Begins fs u → hole fs ≤ op.level → s.join? = some op → Derives op.level v l →
      Begins (.join op l :: fs) (u ++ (v ++ [.symbol s]))
  | consequence {fs : List Frame} {u v : List Token} {c : Expr} :
      Begins fs u → hole fs = 0 → Derives 1 v c →
      Begins (.consequence c :: fs) (u ++ (v ++ [.symbol .question]))
  | alternative {fs : List Frame} {u v w : List Token} {c t : Expr} :
      Begins fs u → hole fs = 0 → Derives 1 v c → Derives 0 w t →
      Begins (.alternative c t :: fs)
        (u ++ (v ++ .symbol .question :: (w ++ [.symbol .colon])))
  | group {fs : List Frame} {u : List Token} :
      Begins fs u → Begins (.group :: fs) (u ++ [.openParen])
  | arguments {fs : List Frame} {u v : List Token} {f : String} {before : List Expr} :
      Begins fs u → Listed v before →
      Begins (.arguments f before :: fs) (u ++ (.name f :: .openParen :: v))
  | items {fs : List Frame} {u v : List Token} {before : List Expr} :
      Begins fs u → Listed v before →
      Begins (.items before :: fs) (u ++ (.openBracket :: v))

/-- Closing constructs as far as a level reaches makes a word of that level, in constructs that
ask for no more. -/
theorem Begins.settle {k : Nat} (hk : k ≤ 6) :
    ∀ {fs : List Frame} {u v : List Token} {n : Nat} {x : Expr},
      Begins fs u → Derives n v x → hole fs ≤ n → k ≤ n → n ≤ 8 →
      ∃ u' v', u ++ v = u' ++ v' ∧ Begins (settle k fs x).1 u' ∧
        Derives k v' (settle k fs x).2 ∧ hole (settle k fs x).1 ≤ k := by
  intro fs
  induction fs with
  | nil =>
    intro u v n x hb hd _ hkn hn
    exact ⟨u, v, rfl, hb, hd.loosen hkn hn, by simp [Parser.settle, hole]⟩
  | cons f fs ih =>
    intro u v n x hb hd hh hkn hn
    have stop : hole (f :: fs) ≤ k → f.close? k x = none → ∃ u' v', u ++ v = u' ++ v' ∧
        Begins (Parser.settle k (f :: fs) x).1 u' ∧ Derives k v' (Parser.settle k (f :: fs) x).2 ∧
        hole (Parser.settle k (f :: fs) x).1 ≤ k := by
      intro hle hc
      rw [settle_of_open hc]
      exact ⟨u, v, rfl, hb, hd.loosen hkn hn, hle⟩
    cases hb with
    | @unary _ u s op hb hs =>
      have hx : Derives 7 v x := hd.loosen hh hn
      obtain ⟨u', v', he, h⟩ := ih hb (.sign hs hx) (hole_le _) (by omega) (by omega)
      rw [settle_of_close (f := .unary op) (if_pos (by omega))]
      exact ⟨u', v', by simpa using he, h⟩
    | @join _ u w s op l hb hle hs hl =>
      by_cases hop : k ≤ op.level
      · have hx : Derives (op.level + 1) v x := hd.loosen hh hn
        have hop6 := op.level_bounds.2
        obtain ⟨u', v', he, h⟩ :=
          ih hb (.chain (chain_of_join hs) hl hx) hle hop (by omega)
        rw [settle_of_close (f := .join op l) (if_pos hop)]
        exact ⟨u', v', by simpa using he, h⟩
      · exact stop (by simp only [hole, Frame.hole]; omega) (if_neg hop)
    | @alternative _ u w w' c t hb hz hc ht =>
      by_cases h0 : k ≤ 0
      · have hx : Derives 0 v x := hd.loosen (by omega) hn
        obtain ⟨u', v', he, h⟩ := ih hb (.choice hc ht hx) (by omega) h0 (by omega)
        rw [settle_of_close (f := .alternative c t) (if_pos h0)]
        exact ⟨u', v', by simpa using he, h⟩
      · exact stop (by simp [hole, Frame.hole]) (if_neg h0)
    | consequence | group | arguments | items => exact stop (by simp [hole, Frame.hole]) rfl

/-- The same behind an operand, which is of the last level. -/
theorem Begins.settle_operand {k : Nat} (hk : k ≤ 6) {fs : List Frame} {u v : List Token}
    {x : Expr} (hb : Begins fs u) (hx : Derives 8 v x) :
    ∃ u' v', u ++ v = u' ++ v' ∧ Begins (Parser.settle k fs x).1 u' ∧
      Derives k v' (Parser.settle k fs x).2 ∧ hole (Parser.settle k fs x).1 ≤ k := by
  have := hole_le fs
  exact hb.settle hk hx (by omega) (by omega) (by omega)

/-- The tokens that the parser has read where it stands. -/
inductive Holds : State → List Token → Prop
  | nothing {fs : List Frame} {u : List Token} : Begins fs u → Holds ⟨fs, .nothing⟩ u
  | name {fs : List Frame} {u : List Token} (n : String) :
      Begins fs u → Holds ⟨fs, .name n⟩ (u ++ [.name n])
  | operand {fs : List Frame} {u v : List Token} {x : Expr} :
      Begins fs u → Derives 8 v x → Holds ⟨fs, .operand x⟩ (u ++ v)

theorem Listed.eq_nil {v : List Token} (h : Listed v []) : v = [] := by
  generalize hxs : ([] : List Expr) = xs at h
  cases h with
  | nil => rfl
  | snoc _ _ => simp at hxs

theorem Holds.stepOperand {fs : List Frame} {u : List Token} {t : Token} {s : State}
    (hb : Begins fs u) (h : stepOperand fs t = .ok s) : Holds s (u ++ [t]) := by
  unfold Parser.stepOperand at h
  split at h
  · cases h
    exact .operand hb (.number _)
  · cases h
    exact .operand hb (.text _)
  · cases h
    exact .name _ hb
  · cases h
    exact .nothing hb.group
  · cases h
    exact .nothing (hb.items .nil)
  · cases h
    cases hb with
    | arguments hb hv =>
      cases hv.eq_nil
      simpa using Holds.operand hb (.emptyCall _)
  · cases h
    cases hb with
    | items hb hv =>
      cases hv.eq_nil
      simpa using Holds.operand hb .emptyList
  · split at h
    · rename_i hop
      cases h
      exact .nothing (hb.unary (sign_iff.2 hop))
    · cases h
  · cases h

theorem Holds.stepClosed {fs : List Frame} {u v : List Token} {x : Expr} {t : Token} {s : State}
    (hb : Begins fs u) (hx : Derives 0 v x) (h : stepClosed t fs x = .ok s) :
    Holds s (u ++ (v ++ [t])) := by
  unfold Parser.stepClosed at h
  split at h
  · cases h
    cases hb with
    | consequence hb hz hc => simpa using Holds.nothing (hb.alternative hz hc hx)
  · cases h
    cases hb with
    | group hb => simpa using Holds.operand hb (.group hx)
  · cases h
    cases hb with
    | arguments hb hl => simpa using Holds.operand hb (.call (hl.derivesAll (.one hx)))
  · cases h
    cases hb with
    | items hb hl => simpa using Holds.operand hb (.list (hl.derivesAll (.one hx)))
  · cases h
    cases hb with
    | arguments hb hl => simpa using Holds.nothing (hb.arguments (hl.snoc hx))
  · cases h
    cases hb with
    | items hb hl => simpa using Holds.nothing (hb.items (hl.snoc hx))
  · cases h

theorem Holds.stepAfter {fs : List Frame} {u v : List Token} {x : Expr} {t : Token} {s : State}
    (hb : Begins fs u) (hx : Derives 8 v x) (h : stepAfter fs x t = .ok s) :
    Holds s (u ++ v ++ [t]) := by
  have closed : Parser.stepClosed t (settle 0 fs x).1 (settle 0 fs x).2 = .ok s →
      Holds s (u ++ v ++ [t]) := by
    intro hs
    obtain ⟨u', v', he, hb', hx', -⟩ := hb.settle_operand (Nat.zero_le 6) hx
    rw [he, List.append_assoc]
    exact Holds.stepClosed hb' hx' hs
  unfold Parser.stepAfter at h
  split at h
  · cases h
    obtain ⟨u', v', he, hb', hx', hh⟩ := hb.settle_operand (by decide : 1 ≤ 6) hx
    have hz := hole_ne_one (Parser.settle 1 fs x).1
    rw [he, List.append_assoc]
    exact .nothing (hb'.consequence (by omega) hx')
  · split at h
    · rename_i j hj
      cases h
      obtain ⟨u', v', he, hb', hx', hh⟩ := hb.settle_operand j.level_bounds.2 hx
      rw [he, List.append_assoc]
      exact .nothing (hb'.join hh hj hx')
    · exact closed h
  · exact closed h

/-- A token keeps what has been read, and adds itself. -/
theorem Holds.step {s s' : State} {u : List Token} {t : Token} (hs : Holds s u)
    (h : step s t = .ok s') : Holds s' (u ++ [t]) := by
  cases hs with
  | nothing hb => exact Holds.stepOperand hb h
  | @name fs u n hb =>
    cases t with
    | openParen =>
      cases h
      simpa using Holds.nothing (hb.arguments (f := n) .nil)
    | _ => exact Holds.stepAfter hb (.name n) h
  | @operand fs u v x hb hx =>
    have h : Parser.stepAfter fs x t = .ok s' := by cases t <;> exact h
    exact Holds.stepAfter hb hx h

/-- An expression that ends where the parser stands has been derived. -/
theorem Holds.finish {s : State} {u : List Token} {x : Expr} (hs : Holds s u)
    (h : finish s = .ok x) : Derives 0 u x := by
  have close : ∀ {fs : List Frame} {u v : List Token} {y : Expr}, Begins fs u → Derives 8 v y →
      settle 0 fs y = ([], x) → Derives 0 (u ++ v) x := by
    intro fs u v y hb hy he
    obtain ⟨u', v', hw, hb', hx, -⟩ := hb.settle_operand (Nat.zero_le 6) hy
    rw [he] at hb' hx
    cases hb'
    rw [hw]
    exact hx
  cases hs with
  | nothing hb => cases h
  | name n hb =>
    simp only [Parser.finish] at h
    split at h
    · rename_i y he
      cases h
      exact close hb (.name n) he
    · cases h
  | operand hb hx =>
    simp only [Parser.finish] at h
    split at h
    · rename_i y he
      cases h
      exact close hb hx he
    · cases h

/-! ## Reading words -/

/-- The parser stands at the second place after the tokens, none of which has stopped it. -/
inductive Feeds : State → List Token → State → Prop
  | nil (s : State) : Feeds s [] s
  | cons {s s' s'' : State} {t : Token} {ts : List Token} :
      step s t = .ok s' → Feeds s' ts s'' → Feeds s (t :: ts) s''

theorem Feeds.append {s s' s'' : State} {u v : List Token} (h : Feeds s u s')
    (h' : Feeds s' v s'') : Feeds s (u ++ v) s'' := by
  induction h with
  | nil => exact h'
  | cons hs _ ih => exact .cons hs (ih h')

theorem Feeds.holds {s s' : State} {w : List Token} (h : Feeds s w s') :
    ∀ {u : List Token}, Holds s u → Holds s' (u ++ w) := by
  induction h with
  | nil s => simp
  | cons hs _ ih =>
    intro u hu
    simpa using ih (hu.step hs)

/-- The operand that has been read, if one has. -/
def Focus.operand? : Focus → Option Expr
  | .nothing => none
  | .name n => some (.name n)
  | .operand x => some x

theorem step_of_operand {s : State} {x : Expr} {t : Token} (h : s.focus.operand? = some x)
    (ht : t ≠ .openParen) : step s t = stepAfter s.frames x t := by
  obtain ⟨fs, focus⟩ := s
  cases focus with
  | nothing => cases h
  | name n =>
    cases h
    cases t <;> first | rfl | exact absurd rfl ht
  | operand y =>
    cases h
    cases t <;> rfl

/-- The parser stands as if it had read the tree at once in these constructs, for all tokens
that bind no tighter than the level. -/
def Stands (k : Nat) (fs : List Frame) (x : Expr) (s : State) : Prop :=
  ∃ y, s.focus.operand? = some y ∧ ∀ j ≤ k, settle j s.frames y = settle j fs x

section Following

variable {k : Nat} {fs gs : List Frame} {x z : Expr} {s : State}

theorem Stands.step_question (h : Stands k fs x s) (hk : 1 ≤ k) (hs : settle 1 fs x = (gs, z)) :
    step s (.symbol .question) = .ok ⟨.consequence z :: gs, .nothing⟩ := by
  obtain ⟨y, hy, hset⟩ := h
  rw [step_of_operand hy (by simp)]
  simp only [stepAfter, hset 1 hk, hs]

theorem Stands.step_join {t : Symbol} {j : Join} (h : Stands k fs x s) (ht : t.join? = some j)
    (hk : j.level ≤ k) (hs : settle j.level fs x = (gs, z)) :
    step s (.symbol t) = .ok ⟨.join j z :: gs, .nothing⟩ := by
  obtain ⟨y, hy, hset⟩ := h
  rw [step_of_operand hy (by simp)]
  cases t <;> cases ht <;> simp only [stepAfter, Symbol.join?, hset _ hk, hs]

theorem Stands.step_closed {t : Token} (h : Stands k fs x s) (hs : settle 0 fs x = (gs, z))
    (ht : t = .symbol .colon ∨ t = .closeParen ∨ t = .closeBracket ∨ t = .comma) :
    step s t = stepClosed t gs z := by
  obtain ⟨y, hy, hset⟩ := h
  rw [step_of_operand hy (by rcases ht with rfl | rfl | rfl | rfl <;> simp)]
  rcases ht with rfl | rfl | rfl | rfl <;>
    simp only [stepAfter, Symbol.join?, hset 0 (Nat.zero_le k), hs]

end Following

/-- From constructs that ask for no more than the level, the word is read as the tree. -/
def Reads (k : Nat) (w : List Token) (x : Expr) : Prop :=
  ∀ fs : List Frame, hole fs ≤ k → ∃ s, Feeds ⟨fs, .nothing⟩ w s ∧ Stands k fs x s

/-- A construct that holds a list of expressions. -/
inductive Lists : (List Expr → Frame) → Prop
  | arguments (f : String) : Lists (.arguments f)
  | items : Lists .items

theorem Lists.settle {F : List Expr → Frame} (hF : Lists F) (before : List Expr)
    (fs : List Frame) (x : Expr) : settle 0 (F before :: fs) x = (F before :: fs, x) := by
  cases hF <;> rfl

/-- In a construct that holds a list, the word is read as more expressions of the list, the last
of them not yet in it. -/
def ReadsAll (w : List Token) (xs : List Expr) : Prop :=
  ∀ (F : List Expr → Frame) (before : List Expr) (fs : List Frame), Lists F →
    ∃ s ys y, Feeds ⟨F before :: fs, .nothing⟩ w s ∧ xs = ys ++ [y] ∧
      Stands 0 (F (before ++ ys) :: fs) y s

/-! ### One lemma for each production -/

theorem reads_tighter {k : Nat} {w : List Token} {x : Expr} (h : Reads (k + 1) w x) :
    Reads k w x := by
  intro fs hh
  obtain ⟨s, hf, y, hy, hset⟩ := h fs (by omega)
  exact ⟨s, hf, y, hy, fun j hj => hset j (by omega)⟩

theorem reads_choice {u v w : List Token} {c t e : Expr} (hu : Reads 1 u c) (hv : Reads 0 v t)
    (hw : Reads 0 w e) :
    Reads 0 (u ++ .symbol .question :: (v ++ .symbol .colon :: w)) (.choice c t e) := by
  intro fs hh
  obtain ⟨s₁, hf₁, hs₁⟩ := hu fs (by omega)
  have hq := hs₁.step_question (Nat.le_refl _)
    (settle_of_hole_le (Nat.le_refl _) (by decide) c (by omega))
  obtain ⟨s₂, hf₂, hs₂⟩ := hv (.consequence c :: fs) (Nat.le_refl _)
  have hc := hs₂.step_closed (t := .symbol .colon) (settle_of_open rfl fs) (.inl rfl)
  obtain ⟨s₃, hf₃, y, hy, hset⟩ := hw (.alternative c t :: fs) (Nat.le_refl _)
  refine ⟨s₃, hf₁.append (.cons hq (hf₂.append (.cons hc hf₃))), y, hy, fun j hj => ?_⟩
  rw [hset j hj, settle_of_close (f := .alternative c t) (if_pos hj)]

theorem reads_chain {k : Nat} {s : Symbol} {f : Expr → Expr → Expr} {u v : List Token}
    {l r : Expr} (hc : Chain k s f) (hu : Reads k u l) (hv : Reads (k + 1) v r) :
    Reads k (u ++ .symbol s :: v) (f l r) := by
  intro fs hh
  obtain ⟨j, hj, rfl, hf⟩ := hc.join
  obtain ⟨s₁, hf₁, hs₁⟩ := hu fs hh
  have ht := hs₁.step_join hj (Nat.le_refl _) (settle_of_hole_le hc.bounds.1 hc.bounds.2 l hh)
  obtain ⟨s₂, hf₂, y, hy, hset⟩ := hv (.join j l :: fs) (Nat.le_refl _)
  refine ⟨s₂, hf₁.append (.cons ht hf₂), y, hy, fun i hi => ?_⟩
  rw [hset i (by omega), settle_of_close (f := .join j l) (if_pos hi), hf]

theorem reads_sign {s : Symbol} {op : UnaryOp} {w : List Token} {x : Expr} (hs : Sign s op)
    (hw : Reads 7 w x) : Reads 7 (.symbol s :: w) (.unary op x) := by
  intro fs _
  obtain ⟨s₁, hf₁, y, hy, hset⟩ := hw (.unary op :: fs) (Nat.le_refl _)
  have ht : step ⟨fs, .nothing⟩ (.symbol s) = .ok ⟨.unary op :: fs, .nothing⟩ := by
    cases hs <;> rfl
  refine ⟨s₁, .cons ht hf₁, y, hy, fun j hj => ?_⟩
  rw [hset j hj, settle_of_close (f := .unary op) (if_pos hj)]

/-- A word whose last token leaves its tree as an operand. -/
theorem reads_operand {w : List Token} {x : Expr}
    (h : ∀ fs, ∃ s, Feeds ⟨fs, .nothing⟩ w s ∧ s.frames = fs ∧ s.focus.operand? = some x) :
    Reads 8 w x := by
  intro fs _
  obtain ⟨s, hf, hfs, hx⟩ := h fs
  exact ⟨s, hf, x, hx, fun j _ => by rw [hfs]⟩

theorem reads_list {F : List Expr → Frame} {w : List Token} {xs : List Expr} {x : Expr}
    {t : Token} (opening : List Token) (hF : Lists F) (hw : ReadsAll w xs)
    (ht : t = .closeParen ∨ t = .closeBracket)
    (hopen : ∀ fs, Feeds ⟨fs, .nothing⟩ opening ⟨F [] :: fs, .nothing⟩)
    (hclose : ∀ ys y fs, xs = ys ++ [y] → stepClosed t (F ys :: fs) y = .ok ⟨fs, .operand x⟩) :
    Reads 8 (opening ++ (w ++ [t])) x := by
  refine reads_operand fun fs => ?_
  obtain ⟨s, ys, y, hf, hxs, hs⟩ := hw F [] fs hF
  have hc := hs.step_closed (t := t) (hF.settle _ fs y) (by tauto)
  rw [List.nil_append, hclose ys y fs hxs] at hc
  exact ⟨_, (hopen fs).append (hf.append (.cons hc (.nil _))), rfl, rfl⟩

theorem readsAll_one {w : List Token} {x : Expr} (h : Reads 0 w x) : ReadsAll w [x] := by
  intro F before fs hF
  obtain ⟨s, hf, hs⟩ := h (F before :: fs) (by cases hF <;> exact Nat.le_refl 0)
  exact ⟨s, [], x, hf, rfl, by rwa [List.append_nil]⟩

theorem readsAll_more {w v : List Token} {x : Expr} {xs : List Expr} (hw : Reads 0 w x)
    (hv : ReadsAll v xs) : ReadsAll (w ++ .comma :: v) (x :: xs) := by
  intro F before fs hF
  obtain ⟨s₁, hf₁, hs₁⟩ := hw (F before :: fs) (by cases hF <;> exact Nat.le_refl 0)
  have hc := hs₁.step_closed (t := .comma) (hF.settle _ fs x) (by simp)
  have hn : stepClosed .comma (F before :: fs) x = .ok ⟨F (before ++ [x]) :: fs, .nothing⟩ := by
    cases hF <;> rfl
  obtain ⟨s₂, ys, y, hf₂, hxs, hs₂⟩ := hv F (before ++ [x]) fs hF
  refine ⟨s₂, x :: ys, y, hf₁.append (.cons (hc.trans hn) hf₂), by rw [hxs]; rfl, ?_⟩
  rwa [List.append_assoc] at hs₂

/-- A word of a level is read as each tree that it stands for. -/
theorem reads_of_derives {k : Nat} {w : List Token} {x : Expr} (h : Derives k w x) :
    Reads k w x := by
  refine @Derives.rec (fun k w x _ => Reads k w x) (fun w xs _ => ReadsAll w xs) ?tighter ?choice
    ?chain ?sign ?emptyCall ?call ?number ?text ?name ?group ?emptyList ?list ?one ?more k w x h
  case tighter => exact fun _ _ ih => reads_tighter ih
  case choice => exact fun _ _ _ hu hv hw => reads_choice hu hv hw
  case chain => exact fun hc _ _ hu hv => reads_chain hc hu hv
  case sign => exact fun hs _ hw => reads_sign hs hw
  case emptyCall =>
    exact fun f => reads_operand fun fs => ⟨⟨fs, .operand (.call f [])⟩,
      .cons rfl (.cons rfl (.cons rfl (.nil _))), rfl, rfl⟩
  case call =>
    exact fun {f w xs} _ hw => reads_list [.name f, .openParen] (.arguments f) hw (.inl rfl)
      (fun fs => .cons rfl (.cons rfl (.nil _))) fun ys y fs h => by rw [h]; rfl
  case number =>
    exact fun l => reads_operand fun fs =>
      ⟨⟨fs, .operand (.number l.value)⟩, .cons rfl (.nil _), rfl, rfl⟩
  case text =>
    exact fun s => reads_operand fun fs =>
      ⟨⟨fs, .operand (.text s)⟩, .cons rfl (.nil _), rfl, rfl⟩
  case name =>
    exact fun n => reads_operand fun fs => ⟨⟨fs, .name n⟩, .cons rfl (.nil _), rfl, rfl⟩
  case group =>
    intro w x _ hw
    refine reads_operand fun fs => ?_
    obtain ⟨s, hf, hs⟩ := hw (.group :: fs) (Nat.le_refl _)
    have hc := hs.step_closed (t := .closeParen) (settle_of_open rfl fs) (by simp)
    exact ⟨_, .cons rfl (hf.append (.cons hc (.nil _))), rfl, rfl⟩
  case emptyList =>
    exact reads_operand fun fs => ⟨⟨fs, .operand (.list [])⟩,
      .cons rfl (.cons rfl (.nil _)), rfl, rfl⟩
  case list =>
    exact fun _ hw => reads_list [.openBracket] .items hw (.inr rfl)
      (fun fs => .cons rfl (.nil _)) fun ys y fs h => by rw [h]; rfl
  case one => exact fun _ h => readsAll_one h
  case more => exact fun _ _ hw hv => readsAll_more hw hv

/-- The tokens that are read from the start and make an expression are the words of level 0. -/
theorem derives_iff_feeds {w : List Token} {x : Expr} :
    Derives 0 w x ↔ ∃ s, Feeds .start w s ∧ finish s = .ok x := by
  constructor
  · intro h
    obtain ⟨s, hf, y, hy, hset⟩ := reads_of_derives h [] (Nat.le_refl _)
    refine ⟨s, hf, ?_⟩
    have h0 : settle 0 s.frames y = ([], x) := hset 0 (Nat.le_refl _)
    obtain ⟨fs, focus⟩ := s
    cases focus <;> cases hy <;> simp only [finish, h0]
  · rintro ⟨s, hf, hx⟩
    exact (hf.holds (.nothing .nil)).finish hx

/-! ## The tokens of a text -/

theorem run_cons {s : State} {t : Token} (ht : t ≠ .finish) (n : Nat) (rest : List Placed) :
    run s (⟨t, n⟩ :: rest) =
      match step s t with
      | .ok s' => run s' rest
      | .error c => .error (c, n) := by
  cases t <;> first | rfl | exact absurd rfl ht

theorem run_eq_ok_iff {n : Nat} {x : Expr} :
    ∀ {ps : List Placed} {s : State}, (∀ p ∈ ps, p.token ≠ .finish) →
      (run s (ps ++ [⟨.finish, n⟩]) = .ok x ↔
        ∃ s', Feeds s (ps.map Placed.token) s' ∧ finish s' = .ok x)
  | [], s, _ => by
    constructor
    · intro h
      refine ⟨s, .nil s, ?_⟩
      simp only [List.nil_append, run] at h
      split at h
      · rename_i hx
        cases h
        exact hx
      · cases h
    · rintro ⟨s', hf, hx⟩
      cases hf
      simp only [List.nil_append, run, hx]
  | p :: ps, s, hps => by
    have hp : p.token ≠ .finish := hps p List.mem_cons_self
    have hrest : ∀ q ∈ ps, q.token ≠ .finish := fun q hq => hps q (List.mem_cons_of_mem _ hq)
    have ih := fun s' => run_eq_ok_iff (n := n) (x := x) (s := s') hrest
    rw [List.cons_append, run_cons hp]
    constructor
    · intro h
      split at h
      · rename_i s' hs
        obtain ⟨s'', hf, hx⟩ := (ih s').1 h
        exact ⟨s'', .cons hs hf, hx⟩
      · cases h
    · rintro ⟨s'', hf, hx⟩
      cases hf with
      | cons hs hf =>
        simp only [hs]
        exact (ih _).2 ⟨s'', hf, hx⟩

/-- The parser cannot go on with the token, and complains about it. -/
def Stuck (s : State) (t : Token) (c : Complaint) : Prop :=
  if t = .finish then finish s = .error c else step s t = .error c

/-- The parser reads the tokens up to one that it cannot go on with, which stands at the
position. -/
def Fails (s : State) (tokens : List Placed) (c : Complaint) (position : Nat) : Prop :=
  ∃ before p after s', tokens = before ++ p :: after ∧
    Feeds s (before.map Placed.token) s' ∧ Stuck s' p.token c ∧ p.position = position

/-- A failure comes from one of the tokens, at the latest from the end. -/
theorem run_error {n q : Nat} {c : Complaint} :
    ∀ {ps : List Placed} {s : State}, (∀ p ∈ ps, p.token ≠ .finish) →
      run s (ps ++ [⟨.finish, n⟩]) = .error (c, q) → Fails s (ps ++ [⟨.finish, n⟩]) c q
  | [], s, _, h => by
    simp only [List.nil_append, run] at h
    split at h
    · cases h
    · rename_i hend
      cases h
      exact ⟨[], ⟨.finish, n⟩, [], s, rfl, .nil s, (if_pos rfl).mpr hend, rfl⟩
  | p :: ps, s, hps, h => by
    have hp : p.token ≠ .finish := hps p List.mem_cons_self
    rw [List.cons_append, run_cons hp] at h
    split at h
    · rename_i s' hs
      obtain ⟨before, r, after, s'', hw, hf, hstuck, hq⟩ :=
        run_error (fun q hq => hps q (List.mem_cons_of_mem _ hq)) h
      exact ⟨p :: before, r, after, s'', congrArg (p :: ·) hw, .cons hs hf, hstuck, hq⟩
    · rename_i hs
      cases h
      exact ⟨[], p, ps ++ [⟨.finish, n⟩], s, rfl, .nil s, (if_neg hp).mpr hs, rfl⟩

end Parser

/-- The tokens of a text end with its end, which stands nowhere else among them. -/
theorem tokenize_ok {text : String} {tokens : List Placed} (h : tokenize text = .ok tokens) :
    ∃ ps n, tokens = ps ++ [⟨.finish, n⟩] ∧ ∀ p ∈ ps, p.token ≠ .finish := by
  obtain ⟨ps, rfl, hps⟩ := (tokenize_spells h).closed
  exact ⟨ps, _, rfl, hps⟩

namespace Parser

open Grammar

/-- The tokens without the end of the text. -/
def bare (tokens : List Placed) : List Token := tokens.dropLast.map Placed.token

theorem parseTokens_eq_ok_iff {ps : List Placed} {n : Nat} {x : Expr}
    (hps : ∀ p ∈ ps, p.token ≠ .finish) :
    parseTokens (ps ++ [⟨.finish, n⟩]) = .ok x ↔ Derives 0 (ps.map Placed.token) x := by
  rw [derives_iff_feeds]
  cases ps with
  | nil =>
    constructor
    · intro h
      cases h
    · rintro ⟨s, hf, hx⟩
      cases hf
      cases hx
  | cons p ps =>
    rw [← run_eq_ok_iff (n := n) hps]
    obtain ⟨t, m⟩ := p
    have ht : t ≠ .finish := hps ⟨t, m⟩ List.mem_cons_self
    cases t <;> first | rfl | exact absurd rfl ht

theorem parseTokens_error {ps : List Placed} {n q : Nat} {c : Complaint}
    (hps : ∀ p ∈ ps, p.token ≠ .finish) (h : parseTokens (ps ++ [⟨.finish, n⟩]) = .error (c, q)) :
    (ps = [] ∧ c = .emptyExpression ∧ q = 0) ∨ Fails .start (ps ++ [⟨.finish, n⟩]) c q := by
  cases ps with
  | nil =>
    cases h
    exact .inl ⟨rfl, rfl, rfl⟩
  | cons p ps =>
    refine .inr (run_error (s := .start) (c := c) hps ?_)
    obtain ⟨t, m⟩ := p
    have ht : t ≠ .finish := hps ⟨t, m⟩ List.mem_cons_self
    cases t <;> first | exact h | exact absurd rfl ht

end Parser

theorem Expr.parse_of_tokens {text : String} {tokens : List Placed}
    (h : tokenize text = .ok tokens) (x : Expr) :
    Expr.parse text = .ok x ↔ Parser.parseTokens tokens = .ok x := by
  simp only [Expr.parse, h]
  split <;> simp_all

/-- The expressions that a text stands for are those of its tokens. -/
theorem Expr.parse_of_cuts {text : String} {ts : List Token} (h : Lexer.Cuts text.toList ts)
    (x : Expr) : Expr.parse text = .ok x ↔ Grammar.Derives 0 ts x := by
  obtain ⟨ps, stop, hscan, rfl⟩ := h 0
  have htokens : tokenize text = .ok (ps ++ [⟨.finish, stop⟩]) := by rw [tokenize, hscan]
  obtain ⟨qs, n, hqs, hfinish⟩ := tokenize_ok htokens
  obtain ⟨rfl, hstop⟩ := List.append_inj' hqs rfl
  rw [Expr.parse_of_tokens htokens, Parser.parseTokens_eq_ok_iff hfinish]

/-- The parser accepts exactly the words of level 0, with the trees that they stand for. A text
has at most one tree; one without a tree is an error, which comes from the first token that the
parser cannot go on with or, if there is none at all, says so. -/
theorem Expr.parse_iff_derives (text : String) (tokens : List Placed)
    (h : tokenize text = .ok tokens) :
    (∀ x, Expr.parse text = .ok x ↔ Grammar.Derives 0 (Parser.bare tokens) x) ∧
    (∀ x y, Grammar.Derives 0 (Parser.bare tokens) x → Grammar.Derives 0 (Parser.bare tokens) y →
      x = y) ∧
    ((∀ x, ¬ Grammar.Derives 0 (Parser.bare tokens) x) →
      ∃ complaint position, Expr.parse text = .error (.located complaint text position) ∧
        ((Parser.bare tokens = [] ∧ complaint = .emptyExpression ∧ position = 0) ∨
          Parser.Fails .start tokens complaint position)) := by
  obtain ⟨ps, n, rfl, hps⟩ := tokenize_ok h
  have hbare : Parser.bare (ps ++ [⟨.finish, n⟩]) = ps.map Placed.token := by
    simp [Parser.bare]
  have hiff : ∀ x, Expr.parse text = .ok x ↔ Grammar.Derives 0 (ps.map Placed.token) x :=
    fun x => (Expr.parse_of_tokens h x).trans (Parser.parseTokens_eq_ok_iff hps)
  rw [hbare]
  refine ⟨hiff, fun x y hx hy => ?_, fun hnone => ?_⟩
  · have hxy := ((hiff x).2 hx).symm.trans ((hiff y).2 hy)
    cases hxy
    rfl
  · rcases hp : Parser.parseTokens (ps ++ [⟨.finish, n⟩]) with ⟨c, q⟩ | x
    · refine ⟨c, q, by simp only [Expr.parse, h, hp], ?_⟩
      rcases Parser.parseTokens_error hps hp with ⟨rfl, hc, hq⟩ | hq
      · exact .inl ⟨rfl, hc, hq⟩
      · exact .inr hq
    · exact absurd ((Parser.parseTokens_eq_ok_iff hps).1 hp) (hnone x)

end SystemDynamics
