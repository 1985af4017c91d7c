import SystemDynamics.Proofs.OpenCalls

/-!
# The descent reads as the parser does

The rules that call each other read what the parser reads token by token, as long as no more calls
are open at once than there may be (`Expr.parseWithin_eq`). So they read the words of the grammar
that do not take more (`Expr.parseWithin_iff_derives`).

A rule that is called within constructs agrees with the parser that stands in them (`Matches`):
either both fail alike, or the parser comes to stand behind what the rule has read, at a token that
the rule does not go on with. This is shown by induction on the calls that may still be opened, with
a lemma for each rule. No rule looks past the end of the text on the way, for the parser has no such
failure.
-/

namespace SystemDynamics

namespace Descent

open SystemDynamics.Parser

/-! ## Looking at tokens -/

theorem ok_bind {α β : Type} (a : α) (f : α → Except Fault β) : Except.ok a >>= f = f a := rfl

/-- Tokens that end with the end of the text, which stands nowhere else among them. -/
def Closed (tokens : List Placed) : Prop :=
  ∃ ps n, tokens = ps ++ [⟨.finish, n⟩] ∧ ∀ p ∈ ps, p.token ≠ .finish

section Tokens

variable {text : String} {tokens : List Placed} {i : Nat} {p : Placed}

theorem exists_next (hclosed : Closed tokens) (hp : tokens[i]? = some p)
    (hfinish : p.token ≠ .finish) : ∃ q, tokens[i + 1]? = some q := by
  obtain ⟨ps, n, rfl, -⟩ := hclosed
  obtain ⟨hi, rfl⟩ := List.getElem?_eq_some_iff.1 hp
  rw [List.length_append, List.length_singleton] at hi
  have hne : i ≠ ps.length := by
    rintro rfl
    simp at hfinish
  exact ⟨_, List.getElem?_eq_getElem (by rw [List.length_append, List.length_singleton]; omega)⟩

theorem drop_eq (hp : tokens[i]? = some p) : tokens.drop i = p :: tokens.drop (i + 1) := by
  obtain ⟨hi, rfl⟩ := List.getElem?_eq_some_iff.1 hp
  exact List.drop_eq_getElem_cons hi

theorem tokenAt_eq (hp : tokens[i]? = some p) : tokenAt tokens i = .ok p := by
  rw [tokenAt, hp]

theorem advance_eq (hp : tokens[i]? = some p) (hfinish : p.token ≠ .finish) :
    advance tokens i = .ok (i + 1) := by
  rw [advance, tokenAt_eq hp, ok_bind, if_neg hfinish]
  rfl

theorem fail_eq {α : Type} (hp : tokens[i]? = some p) (c : Token → Complaint) :
    (fail text tokens i c : Except Fault α) =
      .error (.badExpression (.located (c p.token) text p.position)) := by
  rw [fail, tokenAt_eq hp]
  rfl

theorem expect_eq {t : Token} (hp : tokens[i]? = some p) (ht : p.token = t)
    (hfinish : t ≠ .finish) : expect text tokens t i = .ok (i + 1) := by
  rw [expect, tokenAt_eq hp, ok_bind, if_pos ht, advance_eq hp (ht ▸ hfinish)]

theorem expect_ne {t : Token} (hp : tokens[i]? = some p) (ht : p.token ≠ t) :
    expect text tokens t i =
      .error (.badExpression (.located (.expected (wanted t) p.token.shown) text p.position)) := by
  rw [expect, tokenAt_eq hp, ok_bind, if_neg ht, fail_eq hp]

end Tokens

/-! ## Agreement -/

section Agreement

variable (text : String) (tokens : List Placed) (bound : Nat)

/-- What comes of the parser where it stands, within constructs, before the token at an index. -/
abbrev ahead (s : State) (i : Nat) : Except Fault Expr := outcome text bound s (tokens.drop i)

/-- What a rule of the level has read from an index on, within constructs, agrees with what comes
of the parser: either both fail alike, or the parser comes to stand behind what has been read, at a
token that the rule does not go on with. -/
def Matches (out : Except Fault Expr) (fs : List Frame) (level i : Nat) :
    Except Fault (Expr × Nat) → Prop
  | .error e => out = .error e
  | .ok (x, j) => i < j ∧ ∃ p, tokens[j]? = some p ∧ Ends level p.token ∧
      out = ahead text tokens bound ⟨fs, .operand x⟩ j

/-- A rule of the level is called within constructs, where an operand has to start, when so many
calls may still be opened. The rules below the signs are called where there is none, and the last
one where there is no call. -/
structure Entry (fs : List Frame) (level calls i : Nat) (p : Placed) : Prop where
  here : tokens[i]? = some p
  budget : opened fs + level + calls = bound
  level_le : level ≤ 9
  hole : Parser.hole fs ≤ level
  started : endsEmpty fs p.token = false
  unsigned : 8 ≤ level → sign? p.token = none
  uncalled : 9 ≤ level → ∀ f q, p.token = .name f → tokens[i + 1]? = some q →
    q.token ≠ .openParen

/-- The rules agree with the parser when so many calls may still be opened. -/
def Agrees (calls : Nat) (enter : Nat → Rule) : Prop :=
  ∀ fs level i p, Entry tokens bound fs level calls i p →
    Matches text tokens bound (ahead text tokens bound ⟨fs, .nothing⟩ i) fs level i (enter level i)

/-- The constructs that hold lists, with the brackets behind the last member, and the expressions
that they make. -/
inductive Encloses : (List Expr → Frame) → Token → (List Expr → Expr) → Prop
  | arguments (f : String) : Encloses (.arguments f) .closeParen (.call f)
  | items : Encloses .items .closeBracket .list

/-- The reading of a list agrees with the parser when so many calls may still be opened. -/
def AgreesAll (calls : Nat) (members : Token → Nat → Except Fault (List Expr × Nat)) : Prop :=
  ∀ F closer build fs i p, Encloses F closer build → tokens[i]? = some p →
    opened (F [] :: fs) + calls = bound + 1 →
    Matches text tokens bound (ahead text tokens bound ⟨F [] :: fs, .nothing⟩ i) fs 9 i
      (members closer i >>= fun r => pure (build r.1, r.2))

end Agreement

section Rules

variable {text : String} {tokens : List Placed} {bound calls level i : Nat} {fs : List Frame}
  {p : Placed} {out : Except Fault Expr}

theorem Matches.bind {gs : List Frame} {level' i' : Nat} {r : Except Fault (Expr × Nat)}
    {k : Expr × Nat → Except Fault (Expr × Nat)}
    (h : Matches text tokens bound out fs level i r)
    (hk : ∀ x j q, i < j → tokens[j]? = some q → Ends level q.token →
      out = ahead text tokens bound ⟨fs, .operand x⟩ j →
      Matches text tokens bound out gs level' i' (k (x, j))) :
    Matches text tokens bound out gs level' i' (r >>= k) := by
  rcases r with e | ⟨x, j⟩
  · exact h
  · obtain ⟨hij, q, hq, hends, hout⟩ := h
    exact hk x j q hij hq hends hout

theorem Matches.loosen {level' : Nat} {r : Except Fault (Expr × Nat)}
    (h : Matches text tokens bound out fs level i r) (hends : ∀ t, Ends level t → Ends level' t) :
    Matches text tokens bound out fs level' i r := by
  rcases r with e | ⟨x, j⟩
  · exact h
  · obtain ⟨hij, q, hq, hq', hout⟩ := h
    exact ⟨hij, q, hq, hends _ hq', hout⟩

theorem Matches.advanced {i' : Nat} {r : Except Fault (Expr × Nat)} (hi : i ≤ i')
    (h : Matches text tokens bound out fs level i' r) :
    Matches text tokens bound out fs level i r := by
  rcases r with e | ⟨x, j⟩
  · exact h
  · exact ⟨Nat.lt_of_le_of_lt hi h.1, h.2⟩

/-- The parser's step where an operand starts, if enough calls may be opened to look at it. -/
theorem Entry.ahead_step {s : State} (h : Entry tokens bound fs level calls i p)
    (hreach : reach fs p.token ≤ level + calls) (hfinish : p.token ≠ .finish)
    (hs : step ⟨fs, .nothing⟩ p.token = .ok s) :
    ahead text tokens bound ⟨fs, .nothing⟩ i = ahead text tokens bound s (i + 1) := by
  have hbudget := h.budget
  rw [ahead, drop_eq h.here]
  exact outcome_step (show opened fs + reach fs p.token ≤ bound by omega) hfinish hs

theorem ahead_step {s s' : State} (hp : tokens[i]? = some p) (ho : openAt s p.token = 0)
    (hfinish : p.token ≠ .finish) (hs : step s p.token = .ok s') :
    ahead text tokens bound s i = ahead text tokens bound s' (i + 1) := by
  rw [ahead, drop_eq hp]
  exact outcome_step (by omega) hfinish hs

/-- Without calls a rule is not entered, and the parser does not look at the token. -/
theorem agrees_zero (enter : Nat → Rule)
    (henter : ∀ level i, enter level i = .error .nestedTooDeeply) :
    Agrees text tokens bound 0 enter := by
  intro fs level i p h
  rw [henter]
  have hbudget := h.budget
  have hlevel := h.level_le
  change ahead text tokens bound ⟨fs, .nothing⟩ i = .error .nestedTooDeeply
  rw [ahead, drop_eq h.here]
  refine outcome_deep (show bound < opened fs + reach fs p.token from ?_)
  rw [reach, h.started, if_neg Bool.false_ne_true]
  split
  · rename_i hsign
    have : ¬ 8 ≤ level := fun h8 => by
      rw [h.unsigned h8] at hsign
      cases hsign
    omega
  · omega

/-- The rule of the next level, where a rule of a level is. -/
theorem Entry.next (h : Entry tokens bound fs level (calls + 1) i p) (hlevel : level + 1 ≤ 9)
    (hunsigned : 8 ≤ level + 1 → sign? p.token = none)
    (huncalled : 9 ≤ level + 1 → ∀ f q, p.token = .name f → tokens[i + 1]? = some q →
      q.token ≠ .openParen) : Entry tokens bound fs (level + 1) calls i p where
  here := h.here
  budget := by have := h.budget; omega
  level_le := hlevel
  hole := Nat.le_succ_of_le h.hole
  started := h.started
  unsigned := hunsigned
  uncalled := huncalled

/-- The rule of a part, in a construct that has begun. -/
theorem Entry.inside {gs : List Frame} {q : Placed} {j : Nat} (hq : tokens[j]? = some q)
    (hbudget : opened gs + level + calls = bound) (hlevel : level ≤ 7)
    (hhole : Parser.hole gs ≤ level) (hstarted : endsEmpty gs q.token = false) :
    Entry tokens bound gs level calls j q where
  here := hq
  budget := hbudget
  level_le := by omega
  hole := hhole
  started := hstarted
  unsigned := fun h => by omega
  uncalled := fun h => by omega

/-- A construct that is begun and asks for a part of level 0. -/
theorem Entry.begun {f : Frame} {q : Placed} {j : Nat} (hq : tokens[j]? = some q)
    (hbudget : f.calls + opened fs + calls = bound) (hhole : f.hole = 0)
    (hstarted : endsEmpty (f :: fs) q.token = false) :
    Entry tokens bound (f :: fs) 0 calls j q :=
  .inside hq (by rw [opened_cons]; omega) (by decide) (Nat.le_of_eq hhole) hstarted

/-- A token that has to stand behind an operand, in the construct that waits for it. -/
theorem expect_matches {f : Frame} {x : Expr} {t : Token} {j : Nat} {q : Placed}
    {k : Nat → Except Fault (Expr × Nat)} (hclosed : Closed tokens) (hq : tokens[j]? = some q)
    (hends : Ends 0 q.token) (hf : f.wanted? = some (wanted t)) (ht : t ≠ .finish)
    (hout : out = ahead text tokens bound ⟨f :: fs, .operand x⟩ j)
    (hstuck : q.token ≠ t → stepClosed q.token (f :: fs) x = .error (misplaced (f :: fs) q.token))
    (hk : ∀ q', q.token = t → tokens[j + 1]? = some q' →
      Matches text tokens bound out fs level i (k (j + 1))) :
    Matches text tokens bound out fs level i (expect text tokens t j >>= k) := by
  by_cases hqt : q.token = t
  · obtain ⟨q', hq'⟩ := exists_next hclosed hq (hqt ▸ ht)
    rw [expect_eq hq hqt ht, ok_bind]
    exact hk q' hqt hq'
  · rw [expect_ne hq hqt]
    change out = _
    rw [hout, ahead, drop_eq hq]
    exact outcome_expected hf hends (hstuck hqt)

theorem choice_matches {enter : Nat → Rule} (hclosed : Closed tokens)
    (henter : Agrees text tokens bound calls enter)
    (h : Entry tokens bound fs 0 (calls + 1) i p) :
    Matches text tokens bound (ahead text tokens bound ⟨fs, .nothing⟩ i) fs 0 i
      (choice text tokens enter i) := by
  have hbudget := h.budget
  have hhole : Parser.hole fs ≤ 1 := Nat.le_succ_of_le h.hole
  refine (henter fs 1 i p (h.next (by decide) (by omega) (by omega))).bind
    fun c j q hij hq hends hout => ?_
  simp only [tokenAt_eq hq, ok_bind]
  split
  · rename_i hquestion
    have hfinish : q.token ≠ .finish := by rw [hquestion]; decide
    obtain ⟨q₁, hq₁⟩ := exists_next hclosed hq hfinish
    have hstep : step ⟨fs, .operand c⟩ q.token = .ok ⟨.consequence c :: fs, .nothing⟩ := by
      rw [hquestion]
      exact Stands.step_question (k := 1) ⟨c, rfl, fun _ _ => rfl⟩ (Nat.le_refl _)
        (settle_of_hole_le (Nat.le_refl _) (by decide) c hhole)
    rw [advance_eq hq hfinish, ok_bind, hout, ahead_step hq rfl hfinish hstep]
    refine (henter (.consequence c :: fs) 0 (j + 1) q₁
      (.begun hq₁ (by simp only [Frame.calls]; omega) rfl rfl)).bind
        fun x j₂ q₂ hj₂ hq₂ hends₂ hout₂ => ?_
    refine expect_matches (f := .consequence c) hclosed hq₂ hends₂ rfl (by decide) hout₂
      (fun hne => ?_) fun q₃ hcolon hq₃ => ?_
    · unfold stepClosed
      split <;> first | rfl | simp_all
    have hstep₂ : step ⟨.consequence c :: fs, .operand x⟩ q₂.token =
        .ok ⟨.alternative c x :: fs, .nothing⟩ := by
      rw [hcolon]
      rfl
    rw [hout₂, ahead_step hq₂ rfl (by rw [hcolon]; decide) hstep₂]
    refine (henter (.alternative c x :: fs) 0 (j₂ + 1) q₃
      (.begun hq₃ (by simp only [Frame.calls]; omega) rfl rfl)).bind
        fun y j₃ q₄ hj₃ hq₄ hends₄ hout₄ => ?_
    refine ⟨by omega, q₄, hq₄, hends₄, ?_⟩
    rw [hout₄, ahead, ahead, drop_eq hq₄]
    exact outcome_close (if_pos (Nat.le_of_eq (closing_other hends₄)))
  · rename_i hquestion
    exact ⟨hij, q, hq, ends_of_not_question hends hquestion, hout⟩

theorem joinAt?_eq_some {t : Token} {op : Join} (h : joinAt? level t = some op) :
    ∃ s, t = .symbol s ∧ s.join? = some op ∧ op.level = level := by
  unfold joinAt? at h
  split at h
  · obtain ⟨hj, hlevel⟩ := Option.filter_eq_some_iff.1 h
    exact ⟨_, rfl, hj, of_decide_eq_true hlevel⟩
  · cases h

theorem ends_of_joinAt?_eq_none {t : Token} (h : joinAt? level t = none)
    (hends : Ends (level + 1) t) (hlevel : 1 ≤ level) : Ends level t := by
  intro k hk
  have hlt := hends k hk
  refine Nat.lt_of_le_of_ne (Nat.le_of_lt_succ hlt) ?_
  rintro rfl
  unfold taker? at hk
  split at hk
  · cases hk
    omega
  · obtain ⟨j, hj, hjk⟩ := Option.map_eq_some_iff.1 hk
    simp [joinAt?, hj, hjk] at h
  · cases hk

/-- The operators of a level. Each turn reads an operator and what stands behind it. -/
theorem chain_matches {enter : Nat → Rule} (hclosed : Closed tokens)
    (henter : Agrees text tokens bound calls enter) (hlevel : 1 ≤ level ∧ level ≤ 6)
    (hhole : Parser.hole fs ≤ level) (hbudget : opened fs + level + (calls + 1) = bound) :
    ∀ (turns : Nat) (out : Except Fault Expr) (left : Expr) (j : Nat) (q : Placed),
      tokens[j]? = some q →
      Ends (level + 1) q.token → tokens.length ≤ turns + j → i < j →
      out = ahead text tokens bound ⟨fs, .operand left⟩ j →
      Matches text tokens bound out fs level i
        (chain tokens (enter (level + 1)) level turns left j)
  | 0, _, left, j, q, hq, _, hturns, _, _ => by
    have := (List.getElem?_eq_some_iff.1 hq).1
    omega
  | turns + 1, out, left, j, q, hq, hends, hturns, hij, hout => by
    simp only [chain, tokenAt_eq hq, ok_bind]
    split
    · rename_i op hop
      obtain ⟨s, hs, hjoin, hop⟩ := joinAt?_eq_some hop
      have hfinish : q.token ≠ .finish := by rw [hs]; simp
      obtain ⟨q₁, hq₁⟩ := exists_next hclosed hq hfinish
      have hstep : step ⟨fs, .operand left⟩ q.token = .ok ⟨.join op left :: fs, .nothing⟩ := by
        rw [hs]
        exact Stands.step_join (k := op.level) ⟨left, rfl, fun _ _ => rfl⟩ hjoin (Nat.le_refl _)
          (settle_of_hole_le (by omega) (by omega) left (hop.symm ▸ hhole))
      rw [advance_eq hq hfinish, ok_bind, hout, ahead_step hq rfl hfinish hstep]
      refine (henter (.join op left :: fs) (level + 1) (j + 1) q₁
        (.inside hq₁ (by rw [opened_cons, Frame.calls]; omega) (by omega)
          (Nat.le_of_eq (congrArg Nat.succ hop)) rfl)).bind
          fun right j₂ q₂ hj₂ hq₂ hends₂ hout₂ => ?_
      refine chain_matches hclosed henter hlevel hhole hbudget turns _ _ j₂ q₂ hq₂ hends₂ (by omega)
        (by omega) ?_
      rw [hout₂, ahead, ahead, drop_eq hq₂]
      exact outcome_close (if_pos (hop ▸ closing_lt hends₂ hlevel.1))
    · rename_i hop
      exact ⟨hij, q, hq, ends_of_joinAt?_eq_none hop hends hlevel.1, hout⟩

theorem sign?_eq_some {t : Token} {op : UnaryOp} (h : sign? t = some op) :
    ∃ s, t = .symbol s ∧ s.unary? = some op := by
  unfold sign? at h
  split at h
  · exact ⟨_, rfl, h⟩
  · cases h

theorem signed_matches {enter : Nat → Rule} (hclosed : Closed tokens)
    (henter : Agrees text tokens bound calls enter)
    (h : Entry tokens bound fs 7 (calls + 1) i p) :
    Matches text tokens bound (ahead text tokens bound ⟨fs, .nothing⟩ i) fs 7 i
      (signed tokens enter i) := by
  have hbudget := h.budget
  simp only [signed, tokenAt_eq h.here, ok_bind]
  split
  · rename_i op hop
    obtain ⟨s, hs, hunary⟩ := sign?_eq_some hop
    have hfinish : p.token ≠ .finish := by rw [hs]; simp
    obtain ⟨q, hq⟩ := exists_next hclosed h.here hfinish
    have hstep : step ⟨fs, .nothing⟩ p.token = .ok ⟨.unary op :: fs, .nothing⟩ := by
      rw [hs]
      simp only [step, stepOperand, hunary]
    have hreach : reach fs p.token ≤ 7 + (calls + 1) := by
      simp only [reach, h.started, hop, Option.isSome_some, Bool.false_eq_true, if_false, if_true]
      omega
    have hoperand : Entry tokens bound (.unary op :: fs) 7 calls (i + 1) q :=
      .inside hq (by rw [opened_cons, Frame.calls]; omega) (Nat.le_refl 7) (Nat.le_refl 7) rfl
    rw [advance_eq h.here hfinish, ok_bind, h.ahead_step hreach hfinish hstep]
    refine (henter (.unary op :: fs) 7 (i + 1) q hoperand).bind fun x j q' hj hq' hends hout => ?_
    refine ⟨by omega, q', hq', hends, ?_⟩
    rw [hout, ahead, ahead, drop_eq hq']
    refine outcome_close (if_pos (Nat.le_succ_of_le ?_))
    exact closing_lt (ends_of_seven_le (Nat.le_refl 7) _) (by decide)
  · rename_i hsign
    refine (henter fs 8 i p (h.next (by decide) (fun _ => hsign) (by omega))).loosen ?_
    exact fun t _ => ends_of_seven_le (Nat.le_refl 7) t

/-- A name and a parenthesis begin a call, unless its list lies too deep. -/
theorem ahead_call {f : String} {q q' : Placed} (h : Entry tokens bound fs 8 (calls + 1) i p)
    (hp : p.token = .name f) (hq : tokens[i + 1]? = some q) (hparen : q.token = .openParen)
    (hq' : tokens[i + 2]? = some q') :
    ahead text tokens bound ⟨fs, .nothing⟩ i =
      ahead text tokens bound ⟨.arguments f [] :: fs, .nothing⟩ (i + 2) := by
  have hbudget := h.budget
  rcases Nat.eq_zero_or_pos calls with rfl | hcalls
  · have hreach : reach fs p.token = 10 := by
      rw [reach, h.started, hp]
      rfl
    have hdeep : bound < openAt ⟨fs, .nothing⟩ p.token := by
      simp only [openAt, hreach]
      omega
    have hdeep' : bound < openAt ⟨.arguments f [] :: fs, .nothing⟩ q'.token := by
      simp only [openAt, opened_cons, Frame.calls]
      omega
    rw [ahead, ahead, drop_eq h.here, drop_eq hq', outcome_deep hdeep, outcome_deep hdeep']
  · have hreach := reach_le fs p.token
    have hname : step ⟨fs, .nothing⟩ p.token = .ok ⟨fs, .name f⟩ := by rw [hp]; rfl
    have hopen : step ⟨fs, .name f⟩ q.token = .ok ⟨.arguments f [] :: fs, .nothing⟩ := by
      rw [hparen]
      rfl
    rw [h.ahead_step (by omega) (by rw [hp]; simp) hname,
      ahead_step hq rfl (by rw [hparen]; simp) hopen]

theorem call_matches {enter : Nat → Rule} {members : Token → Nat → Except Fault (List Expr × Nat)}
    (hclosed : Closed tokens) (henter : Agrees text tokens bound calls enter)
    (hmembers : AgreesAll text tokens bound calls members)
    (h : Entry tokens bound fs 8 (calls + 1) i p) :
    Matches text tokens bound (ahead text tokens bound ⟨fs, .nothing⟩ i) fs 8 i
      (call tokens enter members i) := by
  have hbudget := h.budget
  have hatom : (∀ f q, p.token = .name f → tokens[i + 1]? = some q → q.token ≠ .openParen) →
      Matches text tokens bound (ahead text tokens bound ⟨fs, .nothing⟩ i) fs 8 i (enter 9 i) :=
    fun hname => (henter fs 9 i p (h.next (Nat.le_refl 9) (fun _ => h.unsigned (Nat.le_refl 8))
      fun _ => hname)).loosen fun t _ => ends_of_seven_le (by decide) t
  simp only [call, tokenAt_eq h.here, ok_bind]
  split
  · rename_i f hf
    have hfinish : p.token ≠ .finish := by rw [hf]; simp
    obtain ⟨q, hq⟩ := exists_next hclosed h.here hfinish
    simp only [tokenAt_eq hq, ok_bind]
    split
    · rename_i hparen
      have hfinish' : q.token ≠ .finish := by rw [hparen]; simp
      obtain ⟨q', hq'⟩ := exists_next hclosed hq hfinish'
      rw [advance_eq h.here hfinish, ok_bind, advance_eq hq hfinish', ok_bind,
        ahead_call h hf hq hparen hq']
      have hopened : opened (Frame.arguments f [] :: fs) + calls = bound + 1 := by
        rw [opened_cons, Frame.calls]
        omega
      exact Matches.advanced (by omega)
        ((hmembers _ _ _ fs (i + 2) q' (.arguments f) hq' hopened).loosen
          fun t _ => ends_of_seven_le (by decide) t)
    · rename_i hparen
      refine hatom fun g q₁ _ hq₁ => ?_
      cases hq.symm.trans hq₁
      exact hparen
  · rename_i hname
    exact hatom fun f q hf _ => absurd hf (hname f)

/-- A token that is an operand of its own. -/
theorem atom_literal {x : Expr} (hclosed : Closed tokens)
    (h : Entry tokens bound fs 9 (calls + 1) i p) (hfinish : p.token ≠ .finish)
    (hout : ∀ q, tokens[i + 1]? = some q → ahead text tokens bound ⟨fs, .nothing⟩ i =
      ahead text tokens bound ⟨fs, .operand x⟩ (i + 1)) :
    Matches text tokens bound (ahead text tokens bound ⟨fs, .nothing⟩ i) fs 9 i
      (advance tokens i >>= fun j => pure (x, j)) := by
  obtain ⟨q, hq⟩ := exists_next hclosed h.here hfinish
  rw [advance_eq h.here hfinish, ok_bind]
  exact ⟨Nat.lt_succ_self i, q, hq, ends_of_seven_le (by decide) _, hout q hq⟩

theorem atom_matches {enter : Nat → Rule} {members : Token → Nat → Except Fault (List Expr × Nat)}
    (hclosed : Closed tokens) (henter : Agrees text tokens bound calls enter)
    (hmembers : AgreesAll text tokens bound calls members)
    (h : Entry tokens bound fs 9 (calls + 1) i p) :
    Matches text tokens bound (ahead text tokens bound ⟨fs, .nothing⟩ i) fs 9 i
      (atom text tokens enter members i) := by
  have hbudget := h.budget
  have hreach : reach fs p.token ≤ 9 + (calls + 1) := by
    have := reach_le fs p.token
    omega
  have hfirst : ∀ s, p.token ≠ .finish → step ⟨fs, .nothing⟩ p.token = .ok s →
      ahead text tokens bound ⟨fs, .nothing⟩ i = ahead text tokens bound s (i + 1) :=
    fun s hfinish hs => h.ahead_step hreach hfinish hs
  simp only [atom, tokenAt_eq h.here, ok_bind]
  split
  · rename_i l hl
    exact atom_literal hclosed h (by rw [hl]; simp) fun _ _ =>
      hfirst _ (by rw [hl]; simp) (by rw [hl]; rfl)
  · rename_i s hs
    exact atom_literal hclosed h (by rw [hs]; simp) fun _ _ =>
      hfirst _ (by rw [hs]; simp) (by rw [hs]; rfl)
  · rename_i n hn
    refine atom_literal hclosed h (by rw [hn]; simp) fun q hq => ?_
    rw [hfirst ⟨fs, .name n⟩ (by rw [hn]; simp) (by rw [hn]; rfl), ahead, ahead, drop_eq hq]
    exact outcome_name (h.uncalled (Nat.le_refl 9) n q hn hq)
  · rename_i hparen
    have hfinish : p.token ≠ .finish := by rw [hparen]; simp
    obtain ⟨q, hq⟩ := exists_next hclosed h.here hfinish
    rw [advance_eq h.here hfinish, ok_bind,
      hfirst ⟨.group :: fs, .nothing⟩ hfinish (by rw [hparen]; rfl)]
    refine (henter (.group :: fs) 0 (i + 1) q
      (.begun hq (by simp only [Frame.calls]; omega) rfl rfl)).bind
        fun x j q₁ hj hq₁ hends hout => ?_
    refine expect_matches (f := .group) hclosed hq₁ hends rfl (by decide) hout (fun hne => ?_)
      fun q₂ hclose hq₂ => ?_
    · unfold stepClosed
      split <;> first | rfl | simp_all
    · refine ⟨by omega, q₂, hq₂, ends_of_seven_le (by decide) _, ?_⟩
      rw [hout]
      exact ahead_step hq₁ rfl (by rw [hclose]; simp) (by rw [hclose]; rfl)
  · rename_i hbracket
    have hfinish : p.token ≠ .finish := by rw [hbracket]; simp
    obtain ⟨q, hq⟩ := exists_next hclosed h.here hfinish
    rw [advance_eq h.here hfinish, ok_bind,
      hfirst ⟨.items [] :: fs, .nothing⟩ hfinish (by rw [hbracket]; rfl)]
    refine Matches.advanced (Nat.le_succ i) (hmembers _ _ _ fs (i + 1) q .items hq ?_)
    rw [opened_cons, Frame.calls]
    omega
  · rename_i hnumber htext hname hparen hbracket
    rw [fail_eq h.here]
    change ahead text tokens bound ⟨fs, .nothing⟩ i = _
    rw [ahead, drop_eq h.here]
    have hstuck := stepOperand_stuck h.started (h.unsigned (by decide)) hnumber htext hname hparen
      hbracket
    refine outcome_stuck ?_ hstuck fun hfinish => ?_
    · simp only [openAt]
      omega
    · rw [hfinish]
      rfl

namespace Encloses

variable {F : List Expr → Frame} {closer : Token} {build : List Expr → Expr}

theorem hole_eq (h : Encloses F closer build) (before : List Expr) : (F before).hole = 0 := by
  cases h <;> rfl

theorem calls_eq (h : Encloses F closer build) (before : List Expr) :
    (F before).calls = (F []).calls := by
  cases h <;> rfl

theorem closer_ne (h : Encloses F closer build) : closer ≠ .finish ∧ closer ≠ .comma := by
  cases h <;> decide

theorem wanted_eq (h : Encloses F closer build) (before : List Expr) :
    (F before).wanted? = some (wanted closer) := by
  cases h <;> rfl

theorem endsEmpty_nil (h : Encloses F closer build) (t : Token) :
    endsEmpty (F [] :: fs) t = true ↔ t = closer := by
  cases h <;> cases t <;> simp [endsEmpty]

theorem endsEmpty_append (h : Encloses F closer build) (before : List Expr) (x : Expr) (t : Token) :
    endsEmpty (F (before ++ [x]) :: fs) t = false := by
  cases h <;> cases before <;> cases t <;> rfl

theorem step_nil (h : Encloses F closer build) :
    step ⟨F [] :: fs, .nothing⟩ closer = .ok ⟨fs, .operand (build [])⟩ := by
  cases h <;> rfl

theorem step_comma (h : Encloses F closer build) (before : List Expr) (x : Expr) :
    step ⟨F before :: fs, .operand x⟩ .comma = .ok ⟨F (before ++ [x]) :: fs, .nothing⟩ := by
  cases h <;> rfl

theorem step_closer (h : Encloses F closer build) (before : List Expr) (x : Expr) :
    step ⟨F before :: fs, .operand x⟩ closer = .ok ⟨fs, .operand (build (before ++ [x]))⟩ := by
  cases h <;> rfl

theorem stuck (h : Encloses F closer build) {before : List Expr} {x : Expr} {t : Token}
    (hcomma : t ≠ .comma) (hcloser : t ≠ closer) :
    stepClosed t (F before :: fs) x = .error (misplaced (F before :: fs) t) := by
  cases h <;> unfold stepClosed <;> split <;> first | rfl | simp_all

end Encloses

/-- The members of a list behind those before, and its end. -/
theorem sequence_matches {enter : Nat → Rule} {F : List Expr → Frame} {closer : Token}
    {build : List Expr → Expr} (hclosed : Closed tokens)
    (henter : Agrees text tokens bound calls enter) (hF : Encloses F closer build)
    (hbudget : opened (F [] :: fs) + calls = bound) :
    ∀ (turns : Nat) (out : Except Fault Expr) (before : List Expr) (j : Nat) (q : Placed),
      tokens[j]? = some q → endsEmpty (F before :: fs) q.token = false →
      tokens.length ≤ turns + j → i ≤ j →
      out = ahead text tokens bound ⟨F before :: fs, .nothing⟩ j →
      Matches text tokens bound out fs 9 i
        (sequence text tokens (enter 0) closer turns before j >>= fun r => pure (build r.1, r.2))
  | 0, _, _, j, q, hq, _, hturns, _, _ => by
    have := (List.getElem?_eq_some_iff.1 hq).1
    omega
  | turns + 1, out, before, j, q, hq, hstarted, hturns, hij, hout => by
    simp only [sequence, bind_assoc]
    rw [opened_cons] at hbudget
    rw [hout]
    refine (henter (F before :: fs) 0 j q (.begun hq (by rw [hF.calls_eq]; exact hbudget)
      (hF.hole_eq before) hstarted)).bind fun x j₁ q₁ hj₁ hq₁ hends hout₁ => ?_
    simp only [tokenAt_eq hq₁, ok_bind]
    split
    · rename_i hcomma
      have hfinish : q₁.token ≠ .finish := by rw [hcomma]; simp
      obtain ⟨q₂, hq₂⟩ := exists_next hclosed hq₁ hfinish
      simp only [advance_eq hq₁ hfinish, ok_bind]
      refine sequence_matches hclosed henter hF (by rw [opened_cons]; exact hbudget) turns _
        (before ++ [x]) (j₁ + 1) q₂ hq₂ (hF.endsEmpty_append _ _ _) (by omega) (by omega) ?_
      rw [hout₁]
      exact ahead_step hq₁ rfl hfinish (by rw [hcomma]; exact hF.step_comma _ _)
    · rename_i hcomma
      simp only [bind_assoc]
      refine expect_matches hclosed hq₁ hends (hF.wanted_eq before) hF.closer_ne.1 hout₁
        (fun hne => hF.stuck hcomma hne) fun q₂ hcloser hq₂ => ?_
      refine ⟨by omega, q₂, hq₂, ends_of_seven_le (by decide) _, ?_⟩
      rw [hout₁]
      exact ahead_step hq₁ rfl (by rw [hcloser]; exact hF.closer_ne.1)
        (by rw [hcloser]; exact hF.step_closer _ _)

end Rules

section Descending

variable {text : String} {tokens : List Placed} {bound : Nat}

theorem agreesAll_zero : AgreesAll text tokens bound 0 (members text tokens 0) := by
  intro F closer build fs i p hF hp hbudget
  change ahead text tokens bound ⟨F [] :: fs, .nothing⟩ i = .error .nestedTooDeeply
  rw [ahead, drop_eq hp]
  refine outcome_deep ?_
  simp only [openAt]
  omega

theorem agreesAll_succ {calls : Nat} (hclosed : Closed tokens)
    (henter : Agrees text tokens bound calls (descend text tokens calls)) :
    AgreesAll text tokens bound (calls + 1) (members text tokens (calls + 1)) := by
  intro F closer build fs i p hF hp hbudget
  simp only [members, tokenAt_eq hp, ok_bind]
  split
  · rename_i hcloser
    have hfinish : p.token ≠ .finish := by rw [hcloser]; exact hF.closer_ne.1
    obtain ⟨q, hq⟩ := exists_next hclosed hp hfinish
    have hempty : endsEmpty (F [] :: fs) p.token = true := (hF.endsEmpty_nil _).2 hcloser
    simp only [advance_eq hp hfinish, ok_bind]
    refine ⟨Nat.lt_succ_self i, q, hq, ends_of_seven_le (by decide) _, ?_⟩
    rw [ahead, drop_eq hp]
    refine outcome_step ?_ hfinish (by rw [hcloser]; exact hF.step_nil)
    simp only [openAt, reach, hempty, if_true]
    omega
  · rename_i hcloser
    have hstarted : endsEmpty (F [] :: fs) p.token = false :=
      Bool.eq_false_iff.2 fun h => hcloser ((hF.endsEmpty_nil _).1 h)
    exact sequence_matches hclosed henter hF (by omega) _ _ [] i p hp hstarted (by omega)
      (Nat.le_refl i) rfl

/-- The rules agree with the parser, however many calls may be opened. -/
theorem agrees (hclosed : Closed tokens) : ∀ calls,
    Agrees text tokens bound calls (descend text tokens calls) ∧
      AgreesAll text tokens bound calls (members text tokens calls)
  | 0 => ⟨agrees_zero _ fun _ _ => rfl, agreesAll_zero⟩
  | calls + 1 => by
    obtain ⟨henter, hmembers⟩ := agrees hclosed calls
    refine ⟨fun fs level i p h => ?_, agreesAll_succ hclosed henter⟩
    have hlevel := h.level_le
    unfold descend
    split
    · exact choice_matches hclosed henter h
    · exact signed_matches hclosed henter h
    · exact call_matches hclosed henter hmembers h
    · exact atom_matches hclosed henter hmembers h
    · rename_i h0 h7 h8 h9
      have hchain : 1 ≤ level ∧ level ≤ 6 := by
        have h7 : level ≠ 7 := h7
        have h8 : level ≠ 8 := h8
        have h9 : level ≠ 9 := h9
        exact ⟨Nat.one_le_iff_ne_zero.2 h0, by omega⟩
      refine (henter fs (level + 1) i p (h.next (by omega) (by omega) (by omega))).bind
        fun left j q hij hq hends hout => ?_
      exact chain_matches hclosed henter hchain h.hole h.budget _ _ left j q hq hends (by omega) hij
        hout

/-- The descent over the tokens of a text comes to what the parser does, if it may open enough
calls. -/
theorem parse_eq (hclosed : Closed tokens) (calls : Nat) :
    parse text tokens calls =
      if calls < Parser.calls tokens then .error .nestedTooDeeply
      else
        match parseTokens tokens with
        | .ok x => .ok x
        | .error (c, position) => .error (.badExpression (.located c text position)) := by
  obtain ⟨p, hp⟩ : ∃ p, tokens[0]? = some p := by
    obtain ⟨ps, n, rfl, -⟩ := hclosed
    cases ps <;> exact ⟨_, rfl⟩
  have hcons : tokens = p :: tokens.drop 1 := drop_eq hp
  by_cases hfinish : p.token = .finish
  · obtain ⟨t, n⟩ := p
    subst hfinish
    rw [parse, tokenAt_eq hp, ok_bind, if_pos rfl, hcons]
    rfl
  · have hcalls : Parser.calls tokens = demand .start tokens := by
      rw [hcons, calls_cons hfinish]
    have htokens : parseTokens tokens = run .start tokens := by
      rw [hcons, parseTokens_cons hfinish]
    rw [hcalls, htokens]
    change parse text tokens calls = ahead text tokens calls .start 0
    have hentry : Entry tokens calls [] 0 calls 0 p :=
      .inside hp (by rw [opened]; simp) (by decide) (Nat.le_refl 0) rfl
    have hagrees : Agrees text tokens calls calls (descend text tokens calls) :=
      (agrees hclosed calls).1
    have hmatches := hagrees [] 0 0 p hentry
    rw [parse, tokenAt_eq hp, ok_bind, if_neg hfinish]
    rcases hr : descend text tokens calls 0 0 with e | ⟨x, j⟩ <;> rw [hr] at hmatches
    · exact hmatches.symm
    · obtain ⟨hj, q, hq, hends, hout⟩ := hmatches
      simp only [ok_bind, tokenAt_eq hq]
      change _ = ahead text tokens calls ⟨[], .nothing⟩ 0
      rw [hout, ahead, drop_eq hq]
      obtain ⟨t, n⟩ := q
      split
      · rename_i hend
        subst hend
        rfl
      · rename_i hend
        rw [fail_eq hq]
        refine (outcome_stuck (Nat.zero_le _) ?_ fun h => absurd h hend).symm
        rw [step_operand, stepAfter_closed hends rfl]
        exact stepClosed_nil t x

end Descending

end Descent

/-! ## Texts -/

/-- The most calls that are open at once while a text is read. -/
def Expr.parseCalls (text : String) : Nat :=
  match tokenize text with
  | .ok tokens => Parser.calls tokens
  | .error _ => 0

theorem Expr.parseCalls_of_cuts {text : String} {ts : List Token}
    (h : Lexer.Cuts text.toList ts) : Expr.parseCalls text ≤ 11 * (ts.length + 1) := by
  obtain ⟨ps, stop, hscan, rfl⟩ := h 0
  have hcalls := Parser.calls_le (ps ++ [⟨.finish, stop⟩])
  rw [List.length_append, List.length_singleton] at hcalls
  rw [Expr.parseCalls, tokenize, hscan, List.length_map]
  exact hcalls

/-- Reading by descent fails for want of calls, or comes to what reading comes to. -/
theorem Expr.parseWithin_eq (calls : Nat) (text : String) :
    Expr.parseWithin calls text =
      if calls < Expr.parseCalls text then .error .nestedTooDeeply
      else (Expr.parse text).mapError .badExpression := by
  rw [Expr.parseWithin, Expr.parseCalls, Expr.parse]
  rcases h : tokenize text with e | tokens
  · rfl
  · simp only [Descent.parse_eq (tokenize_ok h)]
    split_ifs
    · rfl
    · rcases Parser.parseTokens tokens with ⟨c, position⟩ | x <;> rfl

/-- The descent accepts exactly the words of level 0, with the trees that they stand for, as long as
it may open the calls that the text takes, eleven for each token at most; with fewer it fails for
want of them. A text has at most one tree; one without a tree is an error, which comes from the
first token that cannot be gone on with or, if there is none at all, says so. No token is looked for
where there is none. -/
theorem Expr.parseWithin_iff_derives (text : String) (tokens : List Placed) (calls : Nat)
    (h : tokenize text = .ok tokens) :
    (Parser.calls tokens ≤ calls →
      (∀ x, Expr.parseWithin calls text = .ok x ↔ Grammar.Derives 0 (Parser.bare tokens) x) ∧
      ((∀ x, ¬ Grammar.Derives 0 (Parser.bare tokens) x) →
        ∃ complaint position,
          Expr.parseWithin calls text =
            .error (.badExpression (.located complaint text position)) ∧
          ((Parser.bare tokens = [] ∧ complaint = .emptyExpression ∧ position = 0) ∨
            Parser.Fails .start tokens complaint position))) ∧
    (calls < Parser.calls tokens → Expr.parseWithin calls text = .error .nestedTooDeeply) ∧
    Parser.calls tokens ≤ 11 * tokens.length ∧
    (∀ x y, Grammar.Derives 0 (Parser.bare tokens) x → Grammar.Derives 0 (Parser.bare tokens) y →
      x = y) ∧
    Expr.parseWithin calls text ≠ .error .noSuchElement := by
  obtain ⟨hiff, hunique, herror⟩ := Expr.parse_iff_derives text tokens h
  have hwithin := Expr.parseWithin_eq calls text
  rw [Expr.parseCalls, h] at hwithin
  refine ⟨fun hcalls => ?_, fun hcalls => by rw [hwithin, if_pos hcalls], Parser.calls_le tokens,
    hunique, ?_⟩
  · rw [if_neg (Nat.not_lt.2 hcalls)] at hwithin
    rw [hwithin]
    refine ⟨fun x => ?_, fun hnone => ?_⟩
    · rw [← hiff x]
      rcases Expr.parse text with e | y <;> simp [Except.mapError]
    · obtain ⟨c, n, hparse, hcause⟩ := herror hnone
      exact ⟨c, n, by rw [hparse]; rfl, hcause⟩
  · rw [hwithin]
    split_ifs
    · simp
    · rcases Expr.parse text with e | y <;> simp [Except.mapError]

/-- A text with a sign, a call, a list and a choice. -/
theorem Expr.parseWithin_iff_derives_choice :
    tokenize "-a ? f(b, c) : [d]" = .ok
      [⟨.symbol .minus, 0⟩, ⟨.name "a", 1⟩, ⟨.symbol .question, 3⟩, ⟨.name "f", 5⟩,
        ⟨.openParen, 6⟩, ⟨.name "b", 7⟩, ⟨.comma, 8⟩, ⟨.name "c", 10⟩, ⟨.closeParen, 11⟩,
        ⟨.symbol .colon, 13⟩, ⟨.openBracket, 15⟩, ⟨.name "d", 16⟩, ⟨.closeBracket, 17⟩,
        ⟨.finish, 18⟩] ∧
    Parser.calls
      [⟨.symbol .minus, 0⟩, ⟨.name "a", 1⟩, ⟨.symbol .question, 3⟩, ⟨.name "f", 5⟩,
        ⟨.openParen, 6⟩, ⟨.name "b", 7⟩, ⟨.comma, 8⟩, ⟨.name "c", 10⟩, ⟨.closeParen, 11⟩,
        ⟨.symbol .colon, 13⟩, ⟨.openBracket, 15⟩, ⟨.name "d", 16⟩, ⟨.closeBracket, 17⟩,
        ⟨.finish, 18⟩] ≤ Depth.standard ∧
    Expr.parseWithin Depth.standard "-a ? f(b, c) : [d]" = .ok
      (.choice (.unary .negate (.name "a")) (.call "f" [.name "b", .name "c"])
        (.list [.name "d"])) := by
  have h : tokenize "-a ? f(b, c) : [d]" = .ok
      [⟨.symbol .minus, 0⟩, ⟨.name "a", 1⟩, ⟨.symbol .question, 3⟩, ⟨.name "f", 5⟩,
        ⟨.openParen, 6⟩, ⟨.name "b", 7⟩, ⟨.comma, 8⟩, ⟨.name "c", 10⟩, ⟨.closeParen, 11⟩,
        ⟨.symbol .colon, 13⟩, ⟨.openBracket, 15⟩, ⟨.name "d", 16⟩, ⟨.closeBracket, 17⟩,
        ⟨.finish, 18⟩] := rfl
  obtain ⟨hread, -⟩ := Expr.parseWithin_iff_derives _ _ Depth.standard h
  refine ⟨h, by decide, ((hread (by decide)).1 _).2 ?_⟩
  rw [← Expr.parse_iff_derives _ _ h |>.1, Expr.parse_of_tokens h]
  rfl

/-! ## Nested parentheses -/

/-- The literal `1`. -/
def Reading.Literal.one : Reading.Literal := ⟨['1'], false, [], [], []⟩

/-- The number one in so many parentheses. -/
def Expr.nested (n : Nat) : String :=
  String.ofList (List.replicate n '(' ++ '1' :: List.replicate n ')')

/-- Its tokens. -/
def Expr.nestedTokens (n : Nat) : List Token :=
  List.replicate n .openParen ++ .number .one :: List.replicate n .closeParen

theorem Lexer.cuts_closing : ∀ n, Cuts (List.replicate n ')') (List.replicate n .closeParen)
  | 0 => .nil
  | n + 1 => .mark (t := .closeParen) trivial rfl (fun _ => rfl) (cuts_closing n)

theorem Lexer.cuts_opening {cs : List Char} {ts : List Token} (h : Cuts cs ts) : ∀ n,
    Cuts (List.replicate n '(' ++ cs) (List.replicate n .openParen ++ ts)
  | 0 => h
  | n + 1 => .mark (t := .openParen) trivial rfl (fun _ => rfl) (cuts_opening h n)

theorem Lexer.cuts_nested (n : Nat) : Cuts (Expr.nested n).toList (Expr.nestedTokens n) := by
  have hone : ∃ w rest, '1' :: List.replicate n ')' = w ++ rest ∧ rest = List.replicate n ')' ∧
      Reads (some (.number .one)) w ∧ Ends (some (.number .one)) rest := by
    have hlexeme : lexeme? ('1' :: List.replicate n ')') =
        some ⟨some (.number .one), ['1'], List.replicate n ')'⟩ := by
      cases n <;> rfl
    obtain ⟨hcut, hreads, hends⟩ := lexeme?_eq_some_iff.1 hlexeme
    exact ⟨_, _, hcut, rfl, hreads, hends⟩
  obtain ⟨w, rest, hcut, rfl, hreads, hends⟩ := hone
  rw [Expr.nested, String.toList_ofList, hcut]
  exact cuts_opening (.token hreads hends (cuts_closing n)) n

theorem Expr.derives_nested (n : Nat) :
    Grammar.Derives 0 (Expr.nestedTokens n) (.number Reading.Literal.one.value) := by
  induction n with
  | zero => exact (Grammar.Derives.number .one).loosen (by decide) (by decide)
  | succ n ih =>
    have hgroup := ih.group
    rw [nestedTokens, List.append_assoc, List.cons_append, ← List.replicate_succ',
      ← List.cons_append, ← List.replicate_succ] at hgroup
    exact hgroup.loosen (by decide) (by decide)

/-- Ten calls stay open for each parenthesis, and ten more are where the number is read. -/
theorem Parser.le_demand_nested {ts : List Token} :
    ∀ (n : Nat) (fs : List Frame) (ps : List Placed),
      ps.map Placed.token = List.replicate n .openParen ++ .number .one :: ts →
      opened fs + (10 * n + 10) ≤ demand ⟨fs, .nothing⟩ ps
  | n, fs, [], h => by
    cases n <;> cases h
  | 0, fs, p :: ps, h => by
    have hp : p.token = .number .one := (List.cons.inj h).1
    have hstarted : endsEmpty fs (.number .one) = false := by
      unfold endsEmpty
      split <;> first | rfl | contradiction
    have hreach : reach fs p.token = 10 := by
      rw [hp, reach, hstarted]
      rfl
    exact Nat.le_trans (Nat.le_of_eq (by rw [openAt, hreach])) (Nat.le_max_left _ _)
  | n + 1, fs, p :: ps, h => by
    have hp : p.token = .openParen := (List.cons.inj h).1
    have hstep : step ⟨fs, .nothing⟩ p.token = .ok ⟨.group :: fs, .nothing⟩ := by rw [hp]; rfl
    have hrest := le_demand_nested n (.group :: fs) ps (List.cons.inj h).2
    rw [opened_cons, Frame.calls] at hrest
    refine Nat.le_trans (Nat.le_trans ?_ hrest) (Nat.le_trans (Nat.le_of_eq ?_)
      (Nat.le_max_right _ _))
    · omega
    · rw [hstep]

/-- A number in parentheses takes ten calls for each of them, and ten more. -/
theorem Expr.le_parseCalls_nested (n : Nat) : 10 * n + 10 ≤ Expr.parseCalls (Expr.nested n) := by
  obtain ⟨ps, stop, hscan, hps⟩ := Lexer.cuts_nested n 0
  obtain ⟨p, qs, rfl⟩ : ∃ p qs, ps = p :: qs :=
    List.exists_cons_of_ne_nil (by rintro rfl; cases n <;> cases hps)
  have hp : p.token ≠ .finish := by
    cases n <;> rw [(List.cons.inj hps).1] <;> simp
  rw [Expr.parseCalls, tokenize, hscan]
  dsimp only
  rw [List.cons_append, Parser.calls_cons hp, ← List.cons_append]
  have htokens : (p :: qs ++ [(⟨.finish, stop⟩ : Placed)]).map Placed.token =
      List.replicate n .openParen ++
        .number .one :: (List.replicate n .closeParen ++ [.finish]) := by
    rw [List.map_append, hps, nestedTokens, List.append_assoc]
    rfl
  have hdemand := Parser.le_demand_nested n [] (p :: qs ++ [⟨.finish, stop⟩]) htokens
  exact Nat.le_trans (Nat.le_add_left _ _) hdemand

/-- The number one in 120 parentheses is an expression, and is not read for want of calls. -/
theorem Expr.parseWithin_iff_derives_nested :
    ¬ ∀ text tokens, tokenize text = .ok tokens → ∀ x,
      Expr.parseWithin Depth.standard text = .ok x ↔
        Grammar.Derives 0 (Parser.bare tokens) x := by
  intro h
  obtain ⟨ps, stop, hscan, hps⟩ := Lexer.cuts_nested 120 0
  have htokens : tokenize (Expr.nested 120) = .ok (ps ++ [⟨.finish, stop⟩]) := by
    rw [tokenize, hscan]
  have hbare : Parser.bare (ps ++ [⟨.finish, stop⟩]) = Expr.nestedTokens 120 := by
    rw [Parser.bare, List.dropLast_concat, hps]
  have hread := (h _ _ htokens _).2 (hbare ▸ Expr.derives_nested 120)
  rw [Expr.parseWithin_eq, if_pos (Nat.lt_of_lt_of_le (by decide) (Expr.le_parseCalls_nested 120))]
    at hread
  cases hread

end SystemDynamics
