import SystemDynamics.Proofs.Lexemes
/-!
# Tokens and gaps

A text is read from one lexeme to the next, so what it is cut into can be told lexeme by lexeme
(`Lexer.Cuts`), and as a lexeme has at least one character this ends. Either the text is spelled
from lexemes up to its end, or some character stands where no lexeme does (`Lexer.scan_outcome`). In
the first case the tokens lie in the text as they are written, one behind the other, with nothing
but blanks around them (`tokenize_lossless`). In the second the text before that character is
spelled in the same way: cutting a text off behind a lexeme leaves the lexemes before the cut as
they are.
-/

namespace SystemDynamics

open Text

/-! ## A whole text -/

/-- The number of characters that a token is written with. -/
def Token.width : Token → Nat
  | text s => s.toList.length + 2
  | t => t.value.toList.length

/-- The number of characters up to the end of the token. -/
def Placed.stop (p : Placed) : Nat := p.position + p.token.width

namespace Lexer

/-- A text that starts at a position is spelled from lexemes, the tokens each at its position. -/
inductive Spells : Nat → List Char → List Placed → Prop where
  | finish (n : Nat) : Spells n [] [⟨.finish, n⟩]
  | gap {n : Nat} {w rest : List Char} {tokens : List Placed} : Reads none w →
      Spells (n + w.length) rest tokens → Spells n (w ++ rest) tokens
  | token {n : Nat} {t : Token} {w rest : List Char} {tokens : List Placed} : Reads (some t) w →
      Spells (n + w.length) rest tokens → Spells n (w ++ rest) (⟨t, n⟩ :: tokens)

/-- The tokens lie in a text as they are written, one behind the other, and what lies outside of
them is blank. Behind them there is the end of the text. -/
structure Covers (cs : List Char) (tokens : List Placed) : Prop where
  written : ∀ p ∈ tokens, p.token ≠ .finish →
    p.token.Proper ∧ p.token.Spelling ((cs.drop p.position).take p.token.width)
  increasing : tokens.Pairwise fun p q => p.position < q.position
  apart : tokens.Pairwise fun p q => p.stop ≤ q.position
  between : ∀ i c, cs[i]? = some c → (∀ p ∈ tokens, ¬ (p.position ≤ i ∧ i < p.stop)) →
    isBlank c = true
  closed : ∃ ps, tokens = ps ++ [⟨.finish, cs.length⟩] ∧ ∀ p ∈ ps, p.token ≠ .finish

/-! ## From lexeme to lexeme -/

theorem Lexeme.Begins.rest_lt {l : Lexeme} {cs : List Char} (h : l.Begins cs) :
    l.rest.length < cs.length := by
  rw [h.cut, List.length_append]
  exact Nat.lt_add_of_pos_left (List.length_pos_iff.2 h.reads.ne_nil)

/-- Every text is read up to its end or to a place where no lexeme stands. -/
theorem lexeme_induction {P : List Char → Prop} (nil : P [])
    (stuck : ∀ c cs, lexeme? (c :: cs) = none → P (c :: cs))
    (more : ∀ t w rest, Lexeme.Begins ⟨t, w, rest⟩ (w ++ rest) → P rest → P (w ++ rest)) :
    ∀ cs, P cs
  | [] => nil
  | c :: cs => by
    rcases hl : lexeme? (c :: cs) with _ | ⟨t, w, rest⟩
    · exact stuck c cs hl
    · have hbegins := lexeme?_eq_some_iff.1 hl
      have hless : rest.length < (c :: cs).length := hbegins.rest_lt
      have hcut : c :: cs = w ++ rest := hbegins.cut
      rw [hcut] at hbegins ⊢
      exact more t w rest hbegins (lexeme_induction nil stuck more rest)
termination_by cs => cs.length
decreasing_by exact hless

/-- The rest of a lexeme is passed over. -/
theorem scan_skip : ∀ (taken rest : List Char) (position : Nat),
    scan taken.length position (taken ++ rest) = scan 0 (position + taken.length) rest
  | [], _, _ => rfl
  | _ :: taken, rest, position => by
    rw [List.length_cons, List.cons_append, scan, scan_skip taken rest (position + 1),
      Nat.add_right_comm, Nat.add_assoc]

/-- A text is read as the lexeme that it starts with and what stands behind it. -/
theorem scan_lexeme {l : Lexeme} {cs : List Char} (h : l.Begins cs) (position : Nat) :
    scan 0 position cs = (scan 0 (position + l.taken.length) l.rest).map
      (l.token.toList.map (⟨·, position⟩) ++ ·) := by
  have hl := lexeme?_eq_some_iff.2 h
  obtain ⟨t, w, rest⟩ := l
  obtain ⟨c, w, rfl⟩ := List.exists_cons_of_ne_nil h.reads.ne_nil
  obtain rfl : cs = c :: (w ++ rest) := h.cut
  simp only [scan, hl, List.length_cons, Nat.add_sub_cancel, scan_skip]
  rw [Nat.add_assoc, Nat.add_comm 1]
  rcases scan 0 (position + (w.length + 1)) rest with e | tokens <;> cases t <;> rfl

theorem scan_token {t : Token} {w rest : List Char} (hreads : Reads (some t) w)
    (hends : Ends (some t) rest) (position : Nat) :
    scan 0 position (w ++ rest) =
      (scan 0 (position + w.length) rest).map (⟨t, position⟩ :: ·) :=
  scan_lexeme (l := ⟨some t, w, rest⟩) ⟨rfl, hreads, hends⟩ position

/-- A mark that no longer symbol begins with is read in front of everything. -/
theorem scan_mark {t : Token} (ht : t.IsMark) {c : Char} (hc : t.value.toList = [c])
    (hlong : ∀ d, longSymbol? c d = none) (rest : List Char) (position : Nat) :
    scan 0 position (c :: rest) = (scan 0 (position + 1) rest).map (⟨t, position⟩ :: ·) := by
  refine scan_token (w := [c]) ((reads_mark ht).2 hc.symm)
    ((ends_mark ht).2 fun d _ s hs => ?_) position
  rw [hc, List.singleton_append, ← longSymbol?_eq_some_iff, hlong] at hs
  cases hs

theorem scan_gap {gap rest : List Char} (hgap : Line.Blanks gap)
    (hrest : ∀ c ∈ rest.head?, isBlank c = false) (position : Nat) :
    scan 0 position (gap ++ rest) = scan 0 (position + gap.length) rest := by
  rcases gap with _ | ⟨c, gap⟩
  · rfl
  · have hbegins : Lexeme.Begins ⟨none, c :: gap, rest⟩ (c :: gap ++ rest) :=
      ⟨rfl, ⟨List.cons_ne_nil c gap, hgap⟩, hrest⟩
    rw [scan_lexeme hbegins]
    rcases scan 0 (position + (c :: gap).length) rest with e | tokens <;> rfl

/-- Wherever the text begins, it is cut into these tokens. -/
def Cuts (cs : List Char) (ts : List Token) : Prop :=
  ∀ n, ∃ ps stop, scan 0 n cs = .ok (ps ++ [⟨.finish, stop⟩]) ∧ ps.map Placed.token = ts

theorem Cuts.nil : Cuts [] [] := fun n => ⟨[], n, rfl, rfl⟩

theorem Cuts.token {t : Token} {w rest : List Char} {ts : List Token} (hw : Reads (some t) w)
    (hends : Ends (some t) rest) (h : Cuts rest ts) : Cuts (w ++ rest) (t :: ts) := by
  intro n
  obtain ⟨ps, stop, hscan, rfl⟩ := h (n + w.length)
  refine ⟨⟨t, n⟩ :: ps, stop, ?_, rfl⟩
  rw [scan_token hw hends, hscan]
  rfl

theorem Cuts.gap {w rest : List Char} {ts : List Token} (hw : Line.Blanks w)
    (hrest : ∀ c ∈ rest.head?, isBlank c = false) (h : Cuts rest ts) : Cuts (w ++ rest) ts := by
  intro n
  rw [scan_gap hw hrest]
  exact h (n + w.length)

theorem Cuts.mark {t : Token} (ht : t.IsMark) {c : Char} (hc : t.value.toList = [c])
    (hlong : ∀ d, longSymbol? c d = none) {rest : List Char} {ts : List Token}
    (h : Cuts rest ts) : Cuts (c :: rest) (t :: ts) := by
  intro n
  obtain ⟨ps, stop, hscan, rfl⟩ := h (n + 1)
  refine ⟨⟨t, n⟩ :: ps, stop, ?_, rfl⟩
  rw [scan_mark ht hc hlong, hscan]
  rfl

/-- Reading spells a text to the end, or it ends in front of a character where no lexeme stands and
spells what stands before it. -/
theorem scan_outcome (cs : List Char) : ∀ n,
    (∃ tokens, scan 0 n cs = .ok tokens ∧ Spells n cs tokens) ∨
      ∃ before c after earlier, cs = before ++ c :: after ∧ lexeme? (c :: after) = none ∧
        scan 0 n cs = .error (c, n + before.length) ∧ scan 0 n before = .ok earlier := by
  induction cs using lexeme_induction with
  | nil => exact fun n => .inl ⟨_, rfl, .finish n⟩
  | stuck c cs h =>
    intro n
    refine .inr ⟨[], c, cs, [⟨.finish, n⟩], rfl, h, ?_, rfl⟩
    simp only [scan, h]
    rfl
  | more t w rest hl ih =>
    intro n
    rcases ih (n + w.length) with ⟨tokens, hscan, hspells⟩ |
      ⟨before, c, after, earlier, rfl, hnone, hscan, hbefore⟩
    · refine .inl ⟨t.toList.map (⟨·, n⟩) ++ tokens, ?_, ?_⟩
      · rw [scan_lexeme hl, hscan]
        rfl
      · cases t with
        | none => exact .gap hl.reads hspells
        | some t => exact .token hl.reads hspells
    · -- The lexeme is still one in front of a part of what stands behind it.
      have hpart : Lexeme.Begins ⟨t, w, before⟩ (w ++ before) :=
        ⟨rfl, hl.reads, hl.ends.mono (List.prefix_append before (c :: after))⟩
      refine .inr ⟨w ++ before, c, after, t.toList.map (⟨·, n⟩) ++ earlier,
        by rw [List.append_assoc], hnone, ?_, ?_⟩
      · rw [scan_lexeme hl, hscan, List.length_append, Nat.add_assoc]
        rfl
      · rw [scan_lexeme hpart, hbefore]
        rfl

/-! ## Where the tokens lie -/

theorem Reads.length {t : Token} {w : List Char} (h : Reads (some t) w) : w.length = t.width := by
  obtain ⟨-, hspelling⟩ := h
  cases t with
  | text s =>
    obtain ⟨q, -, -, rfl⟩ := hspelling
    simp [Token.width]
  | number | name | symbol | openParen | closeParen | openBracket | closeBracket | comma |
    finish => exact congrArg List.length hspelling

theorem Reads.ne_finish {t : Token} {w : List Char} (h : Reads (some t) w) : t ≠ .finish :=
  fun ht => (ht ▸ h.1 : Token.Proper .finish)

theorem Reads.width_pos {t : Token} {w : List Char} (h : Reads (some t) w) : 0 < t.width :=
  h.length ▸ List.length_pos_iff.2 h.ne_nil

namespace Spells

variable {n : Nat} {cs : List Char} {tokens : List Placed}

theorem position_le (h : Spells n cs tokens) : ∀ p ∈ tokens, n ≤ p.position := by
  induction h with
  | finish n => simp
  | gap _ _ ih => exact fun p hp => Nat.le_of_add_right_le (ih p hp)
  | token _ _ ih =>
    rintro p (_ | ⟨_, hp⟩)
    · exact Nat.le_refl _
    · exact Nat.le_of_add_right_le (ih p hp)

theorem closed (h : Spells n cs tokens) :
    ∃ ps, tokens = ps ++ [⟨.finish, n + cs.length⟩] ∧ ∀ p ∈ ps, p.token ≠ .finish := by
  induction h with
  | finish n => exact ⟨[], rfl, by simp⟩
  | gap _ _ ih =>
    obtain ⟨ps, rfl, hps⟩ := ih
    exact ⟨ps, by rw [List.length_append, Nat.add_assoc], hps⟩
  | token hreads _ ih =>
    obtain ⟨ps, rfl, hps⟩ := ih
    refine ⟨_ :: ps, by rw [List.length_append, Nat.add_assoc]; rfl, ?_⟩
    exact List.forall_mem_cons.2 ⟨hreads.ne_finish, hps⟩

/-- What stands at the place of a token is the token as it is written. -/
theorem reads (h : Spells n cs tokens) : ∀ p ∈ tokens, p.token ≠ .finish →
    Reads (some p.token) ((cs.drop (p.position - n)).take p.token.width) := by
  have hdrop : ∀ {n : Nat} {w rest : List Char} {p : Placed}, n + w.length ≤ p.position →
      (w ++ rest).drop (p.position - n) = rest.drop (p.position - (n + w.length)) := by
    intro n w rest p hp
    rw [List.drop_append, List.drop_eq_nil_of_le (by omega), Nat.sub_sub, List.nil_append]
  induction h with
  | finish n => simp
  | gap _ hrest ih =>
    intro p hp
    rw [hdrop (hrest.position_le p hp)]
    exact ih p hp
  | token hreads hrest ih =>
    rintro p (_ | ⟨_, hp⟩)
    · intro _
      simpa [← hreads.length] using hreads
    · rw [hdrop (hrest.position_le p hp)]
      exact ih p hp

theorem apart (h : Spells n cs tokens) :
    tokens.Pairwise fun p q => p.position < q.position ∧ p.stop ≤ q.position := by
  induction h with
  | finish n => simp
  | gap _ _ ih => exact ih
  | token hreads hrest ih =>
    refine List.pairwise_cons.2 ⟨fun q hq => ?_, ih⟩
    have hq := hrest.position_le q hq
    have hpos := hreads.width_pos
    rw [hreads.length] at hq
    exact ⟨Nat.lt_of_lt_of_le (Nat.lt_add_of_pos_right hpos) hq, hq⟩

theorem between (h : Spells n cs tokens) : ∀ i c, cs[i]? = some c →
    (∀ p ∈ tokens, ¬ (p.position ≤ n + i ∧ n + i < p.stop)) → isBlank c = true := by
  induction h with
  | finish n => simp
  | @gap n w rest _ hgap _ ih =>
    intro i c hc hout
    rcases Nat.lt_or_ge i w.length with hi | hi
    · rw [List.getElem?_append_left hi] at hc
      exact hgap.2 c (List.mem_of_getElem? hc)
    · rw [List.getElem?_append_right hi] at hc
      refine ih _ c hc fun p hp => ?_
      rw [Nat.add_assoc, Nat.add_sub_cancel' hi]
      exact hout p hp
  | @token n t w rest _ hreads _ ih =>
    intro i c hc hout
    have hi : w.length ≤ i := by
      have hself := hout _ (.head _)
      rw [Placed.stop, ← hreads.length] at hself
      dsimp only at hself
      omega
    rw [List.getElem?_append_right hi] at hc
    refine ih _ c hc fun p hp => ?_
    rw [Nat.add_assoc, Nat.add_sub_cancel' hi]
    exact hout p (.tail _ hp)

/-- In front of a token there are only blanks. -/
theorem exists_of_cons {m : Nat} {t : Token} (h : Spells n cs (⟨t, m⟩ :: tokens))
    (ht : t ≠ .finish) :
    ∃ gap w rest, cs = gap ++ (w ++ rest) ∧ Line.Blanks gap ∧ m = n + gap.length ∧
      Reads (some t) w ∧ Spells (m + w.length) rest tokens := by
  generalize hall : (⟨t, m⟩ :: tokens : List Placed) = all at h
  induction h with
  | finish n =>
    cases hall
    exact absurd rfl ht
  | gap hgap _ ih =>
    obtain ⟨more, w, rest, rfl, hmore, hm, hreads, hspells⟩ := ih hall
    refine ⟨_ ++ more, w, rest, (List.append_assoc _ _ _).symm,
      List.forall_mem_append.2 ⟨hgap.2, hmore⟩, ?_, hreads, hspells⟩
    rw [hm, List.length_append, Nat.add_assoc]
  | token hreads hspells _ =>
    cases hall
    exact ⟨[], _, _, rfl, nofun, rfl, hreads, hspells⟩

/-- Behind the last token there are only blanks. -/
theorem blanks_of_finish {m : Nat} (h : Spells n cs [⟨.finish, m⟩]) : Line.Blanks cs := by
  generalize hall : [(⟨.finish, m⟩ : Placed)] = all at h
  induction h with
  | finish n => exact nofun
  | gap hgap _ ih => exact List.forall_mem_append.2 ⟨hgap.2, ih hall⟩
  | token hreads _ _ =>
    cases hall
    exact absurd rfl hreads.ne_finish

theorem covers (h : Spells 0 cs tokens) : Covers cs tokens where
  written := h.reads
  increasing := h.apart.imp And.left
  apart := h.apart.imp And.right
  between i c hc hout := h.between i c hc (by simpa only [Nat.zero_add] using hout)
  closed := by simpa only [Nat.zero_add] using h.closed

end Spells

end Lexer

theorem tokenize_spells {text : String} {tokens : List Placed} (h : tokenize text = .ok tokens) :
    Lexer.Spells 0 text.toList tokens := by
  unfold tokenize at h
  rcases Lexer.scan_outcome text.toList 0 with ⟨tokens, hscan, hspells⟩ |
    ⟨before, c, after, earlier, -, -, hscan, -⟩
  · rw [hscan] at h
    cases h
    exact hspells
  · rw [hscan] at h
    cases h

/-- Each lexeme leaves less to read, so that reading ends. A text is spelled from lexemes, and then
its tokens lie in it one behind the other with nothing but blanks around them, or reading ends with
an error at a place where no lexeme is written, and the text before that place is spelled. -/
theorem tokenize_lossless (text : String) :
    (∀ cs l, Lexer.lexeme? cs = some l → l.rest.length < cs.length) ∧
    ((∃ tokens, tokenize text = .ok tokens ∧ Lexer.Spells 0 text.toList tokens ∧
        Lexer.Covers text.toList tokens) ∨
      ∃ before c after earlier, text.toList = before ++ c :: after ∧
        tokenize text = .error (.located (.unexpectedCharacter c) text before.length) ∧
        (∀ t w, w <+: c :: after → ¬ Lexer.Reads t w) ∧
        tokenize (String.ofList before) = .ok earlier) := by
  refine ⟨fun cs l hl => (Lexer.lexeme?_eq_some_iff.1 hl).rest_lt, ?_⟩
  rcases Lexer.scan_outcome text.toList 0 with ⟨tokens, hscan, hspells⟩ |
    ⟨before, c, after, earlier, htext, hnone, hscan, hbefore⟩
  · exact .inl ⟨tokens, by rw [tokenize, hscan], hspells, hspells.covers⟩
  · refine .inr ⟨before, c, after, earlier, htext, ?_, Lexer.lexeme?_eq_none_iff.1 hnone, ?_⟩
    · rw [tokenize, hscan, Nat.zero_add]
    · rw [tokenize, String.toList_ofList, hbefore]

end SystemDynamics
