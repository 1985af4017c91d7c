import SystemDynamics.Proofs.Parsing

/-!
# Errors point at the first impossible token

What the parser has read without stopping is the start of an expression: an operand, if one is
missing, and then one token for each open construct that waits for one, the innermost first, make
it whole (`Stands.completes`). A token that stops the parser stops it whatever comes after. So the
position of an error is that of the first token with which the tokens before it start no
expression, or of the end if all of them start one and are none (`Expr.parse_error_position`).
-/

namespace SystemDynamics

namespace Parser

open Grammar

/-! ## Accepted sequences of tokens -/

/-- The tokens are an expression, wherever they and the end stand in the text. -/
def Accepts (w : List Token) : Prop :=
  .finish ∉ w ∧ ∃ x, ∀ ps n, ps.map Placed.token = w → parseTokens (ps ++ [⟨.finish, n⟩]) = .ok x

theorem step_finish (s s' : State) : step s .finish ≠ .ok s' := by
  have hafter : ∀ fs x, stepAfter fs x .finish ≠ .ok s' := by
    intro fs x h
    simp only [stepAfter, stepClosed] at h
    cases h
  obtain ⟨fs, focus⟩ := s
  intro h
  cases focus with
  | nothing =>
    simp only [step, stepOperand] at h
    cases h
  | name n => exact hafter fs _ h
  | operand x => exact hafter fs _ h

theorem Feeds.finish_notMem {s s' : State} {w : List Token} (h : Feeds s w s') : .finish ∉ w := by
  induction h with
  | nil => simp
  | cons hs _ ih =>
    intro hmem
    rcases List.mem_cons.1 hmem with rfl | hmem
    · exact step_finish _ _ hs
    · exact ih hmem

theorem accepts_iff_feeds {w : List Token} :
    Accepts w ↔ ∃ s x, Feeds .start w s ∧ finish s = .ok x := by
  have hrun : .finish ∉ w → ∀ {ps : List Placed} {n : Nat} {x : Expr}, ps.map Placed.token = w →
      (parseTokens (ps ++ [⟨.finish, n⟩]) = .ok x ↔ ∃ s, Feeds .start w s ∧ finish s = .ok x) := by
    rintro hw ps n x rfl
    have hps : ∀ p ∈ ps, p.token ≠ .finish := fun p hp h => hw (h ▸ List.mem_map_of_mem hp)
    rw [parseTokens_eq_ok_iff hps, derives_iff_feeds]
  constructor
  · rintro ⟨hw, x, hx⟩
    -- Where the tokens stand does not matter, so they may all stand at the start.
    have hplaced : (w.map (⟨·, 0⟩) : List Placed).map Placed.token = w := by
      rw [List.map_map]
      exact List.map_id w
    obtain ⟨s, hs⟩ := (hrun hw hplaced).1 (hx _ 0 hplaced)
    exact ⟨s, x, hs⟩
  · rintro ⟨s, x, hf, hx⟩
    have hw := hf.finish_notMem
    exact ⟨hw, x, fun ps n hps => (hrun hw hps).2 ⟨s, hf, hx⟩⟩

/-! ## What has been read can be completed -/

/-- Some more tokens make an expression. -/
def Completes (s : State) : Prop := ∃ w s' x, Feeds s w s' ∧ finish s' = .ok x

theorem Completes.of_step {s s' : State} {t : Token} (h : step s t = .ok s')
    (hs : Completes s') : Completes s := by
  obtain ⟨w, s'', x, hf, hx⟩ := hs
  exact ⟨t :: w, s'', x, .cons h hf, hx⟩

theorem finish_of_operand {s : State} {x y : Expr} (h : s.focus.operand? = some x)
    (hs : settle 0 s.frames x = ([], y)) : finish s = .ok y := by
  obtain ⟨fs, focus⟩ := s
  cases focus <;> cases h <;> simp only [finish, hs]

theorem Frame.closes {f : Frame} (h : f.wanted? = none) (x : Expr) :
    ∃ y, f.close? 0 x = some y := by
  cases f <;> simp [wanted?, close?] at h ⊢

theorem Stands.of_close {fs : List Frame} {f : Frame} {x y : Expr} {s : State}
    (h : Stands 0 (f :: fs) x s) (hc : f.close? 0 x = some y) : Stands 0 fs y s := by
  obtain ⟨z, hz, hset⟩ := h
  refine ⟨z, hz, fun j hj => ?_⟩
  obtain rfl : j = 0 := Nat.le_zero.1 hj
  rw [hset 0 hj, settle_of_close hc]

theorem stands_operand (fs : List Frame) (x : Expr) : Stands 0 fs x ⟨fs, .operand x⟩ :=
  ⟨x, rfl, fun _ _ => rfl⟩

theorem stands_name (fs : List Frame) (n : String) : Stands 0 fs (.name n) ⟨fs, .name n⟩ :=
  ⟨.name n, rfl, fun _ _ => rfl⟩

theorem Stands.completes : ∀ {fs : List Frame} {x : Expr} {s : State}, Stands 0 fs x s →
    Completes s
  | [], x, s, h => by
    obtain ⟨y, hy, hset⟩ := h
    exact ⟨[], s, x, .nil s, finish_of_operand hy (hset 0 (Nat.le_refl 0))⟩
  | f :: fs, x, s, h => by
    -- By induction on the open constructs: one token, and for a choice an operand more, ends the
    -- innermost, which is then the operand of the next.
    rcases hw : f.wanted? with _ | wanted
    · obtain ⟨y, hy⟩ := Frame.closes hw x
      exact (h.of_close hy).completes
    · cases f with
      | unary | join | alternative => cases hw
      | consequence c =>
        have hcolon := h.step_closed (t := .symbol .colon) (settle_of_open rfl fs) (by simp)
        have hname : Stands 0 (.alternative c x :: fs) (.name "x") ⟨_, .name "x"⟩ :=
          stands_name _ _
        refine .of_step hcolon (.of_step (t := .name "x") rfl ?_)
        exact (hname.of_close rfl).completes
      | group =>
        have hclose := h.step_closed (t := .closeParen) (settle_of_open rfl fs) (by simp)
        exact .of_step hclose (stands_operand fs x).completes
      | arguments g before =>
        have hclose := h.step_closed (t := .closeParen) (settle_of_open rfl fs) (by simp)
        exact .of_step hclose (stands_operand fs _).completes
      | items before =>
        have hclose := h.step_closed (t := .closeBracket) (settle_of_open rfl fs) (by simp)
        exact .of_step hclose (stands_operand fs _).completes

theorem completes (s : State) : Completes s := by
  obtain ⟨fs, focus⟩ := s
  cases focus with
  | nothing => exact .of_step (t := .name "x") rfl (stands_name fs "x").completes
  | name n => exact (stands_name fs n).completes
  | operand x => exact (stands_operand fs x).completes

/-! ## What stops the parser stops it for good -/

theorem Feeds.unique {s s₁ s₂ : State} {w : List Token} (h₁ : Feeds s w s₁) (h₂ : Feeds s w s₂) :
    s₁ = s₂ := by
  induction h₁ with
  | nil => cases h₂; rfl
  | cons hs _ ih =>
    cases h₂ with
    | cons hs' h₂ =>
      rw [hs] at hs'
      cases hs'
      exact ih h₂

theorem Feeds.split {u v : List Token} : ∀ {s s' : State}, Feeds s (u ++ v) s' →
    ∃ m, Feeds s u m ∧ Feeds m v s' := by
  induction u with
  | nil => exact fun h => ⟨_, .nil _, h⟩
  | cons t u ih =>
    intro s s' h
    cases h with
    | cons hs h =>
      obtain ⟨m, hu, hv⟩ := ih h
      exact ⟨m, .cons hs hu, hv⟩

theorem accepts_of_feeds {u : List Token} {s : State} (h : Feeds .start u s) :
    ∃ more, Accepts (u ++ more) := by
  obtain ⟨w, s', x, hf, hx⟩ := completes s
  exact ⟨w, accepts_iff_feeds.2 ⟨s', x, h.append hf, hx⟩⟩

theorem not_accepts_of_stuck {u : List Token} {s : State} {t : Token} {c : Complaint}
    (hu : Feeds .start u s) (ht : t ≠ .finish) (h : Stuck s t c) (more : List Token) :
    ¬ Accepts (u ++ t :: more) := by
  intro ha
  obtain ⟨s', x, hf, -⟩ := accepts_iff_feeds.1 ha
  obtain ⟨m, hm, hrest⟩ := hf.split
  obtain rfl := hm.unique hu
  rw [Stuck, if_neg ht] at h
  cases hrest with
  | cons hs _ =>
    rw [h] at hs
    cases hs

theorem not_accepts_of_unfinished {u : List Token} {s : State} {c : Complaint}
    (hu : Feeds .start u s) (h : Stuck s .finish c) : ¬ Accepts u := by
  intro ha
  obtain ⟨s', x, hf, hx⟩ := accepts_iff_feeds.1 ha
  obtain rfl := hf.unique hu
  rw [Stuck, if_pos rfl, hx] at h
  cases h

theorem bare_of_finish {ps before after : List Placed} {p : Placed} {n : Nat}
    (hps : ∀ p ∈ ps, p.token ≠ .finish) (hsplit : ps ++ [⟨.finish, n⟩] = before ++ p :: after)
    (hp : p.token = .finish) : before = ps := by
  rcases List.append_eq_append_iff.1 hsplit with ⟨u, hbefore, hrest⟩ | ⟨u, hps', hrest⟩
  · cases u with
    | nil => simpa using hbefore
    | cons q u => simp at hrest
  · cases u with
    | nil => simpa using hps'.symm
    | cons q u =>
      obtain ⟨rfl, -⟩ := List.cons.inj hrest
      exact absurd hp (hps p (by simp [hps']))

end Parser

open SystemDynamics.Parser

/-- If a text of some tokens is no expression, the error has the text, and the position of the
first of its tokens with which the tokens before it start no expression, though without it they
do. It has the position of the end if all tokens start an expression and are none. -/
theorem Expr.parse_error_position (text : String) (tokens : List Placed) (e : SyntaxError)
    (htokens : tokenize text = .ok tokens) (hsome : bare tokens ≠ [])
    (herror : Expr.parse text = .error e) :
    e.text = text ∧ ∃ before p after, tokens = before ++ p :: after ∧
      e.position? = some p.position ∧
      (∃ more, Accepts (before.map Placed.token ++ more)) ∧
      (p.token ≠ .finish → ∀ more, ¬ Accepts (before.map Placed.token ++ p.token :: more)) ∧
      (p.token = .finish →
        before.map Placed.token = bare tokens ∧ ¬ Accepts (bare tokens)) := by
  obtain ⟨ps, n, rfl, hps⟩ := tokenize_ok htokens
  have hbare : bare (ps ++ [⟨.finish, n⟩]) = ps.map Placed.token := by simp [bare]
  rw [hbare] at hsome ⊢
  simp only [Expr.parse, htokens] at herror
  split at herror
  · cases herror
  · rename_i c q hc
    cases herror
    refine ⟨rfl, ?_⟩
    rcases parseTokens_error hps hc with ⟨hnone, -⟩ | hfails
    · exact absurd (by rw [hnone]; rfl) hsome
    · obtain ⟨before, p, after, s, hsplit, hfed, hstuck, rfl⟩ := hfails
      refine ⟨before, p, after, hsplit, rfl, accepts_of_feeds hfed,
        fun ht => not_accepts_of_stuck hfed ht hstuck, fun ht => ?_⟩
      obtain rfl := bare_of_finish hps hsplit ht
      rw [ht] at hstuck
      exact ⟨rfl, not_accepts_of_unfinished hfed hstuck⟩

/-- The tokens of a text in which a comma stands where a choice waits for its colon. -/
def crossed : List Placed :=
  [⟨.name "f", 0⟩, ⟨.openParen, 1⟩, ⟨.name "a", 2⟩, ⟨.symbol .question, 4⟩, ⟨.name "b", 6⟩,
    ⟨.comma, 7⟩, ⟨.name "c", 9⟩, ⟨.closeParen, 10⟩, ⟨.finish, 11⟩]

theorem Expr.parse_error_position_crossed :
    tokenize "f(a ? b, c)" = .ok crossed ∧ bare crossed ≠ [] ∧
    Expr.parse "f(a ? b, c)" = .error (.located (.expected ":" ",") "f(a ? b, c)" 7) ∧
    (∃ more, Accepts ((crossed.take 5).map Placed.token ++ more)) ∧
    ∀ more, ¬ Accepts ((crossed.take 5).map Placed.token ++ .comma :: more) := by
  have htokens : tokenize "f(a ? b, c)" = .ok crossed := rfl
  have hsome : bare crossed ≠ [] := List.cons_ne_nil _ _
  have herror : Expr.parse "f(a ? b, c)" =
      .error (.located (.expected ":" ",") "f(a ? b, c)" 7) := rfl
  refine ⟨htokens, hsome, herror, ?_⟩
  obtain ⟨-, before, p, after, hsplit, hp, hmore, hnone, -⟩ :=
    Expr.parse_error_position _ _ _ htokens hsome herror
  have hplaces : ∀ i (h : i < 9), crossed[i].position = 7 → i = 5 := by decide
  have hget : crossed[before.length]? = some p := by simp [hsplit]
  obtain ⟨hlt, rfl⟩ := List.getElem?_eq_some_iff.1 hget
  have hfive := hplaces _ hlt (Option.some.inj hp).symm
  have hbefore : before = crossed.take 5 := by rw [← hfive, hsplit, List.take_left]
  subst hbefore
  exact ⟨hmore, hnone nofun⟩

end SystemDynamics
