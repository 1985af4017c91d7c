import SystemDynamics.Expr.Lexer
import SystemDynamics.Proofs.Lines
/-!
# What a lexeme is

The kinds of lexemes are described by what they are written of (`Lexer.Reads`) and by what they do
not go on with (`Lexer.Ends`): a number ends where it would have another digit, point or exponent,
a name where no character of a name follows, and a mark unless a longer one stands there.
`Lexer.lexeme?_eq_some_iff` shows that reading finds exactly the lexeme that a text begins with,
and `Lexer.lexeme?_eq_none_iff` that it finds none only where none is written at all. The second
does not follow from the first: a lexeme that goes on with what stands behind it is not the one
that is read there, but then a longer one is.
-/

namespace SystemDynamics

open Text

/-! ## Decimal literals -/

namespace Reading

/-- Nothing but digits. -/
def Digits (cs : List Char) : Prop := ∀ c ∈ cs, isDigit c = true

/-- The mark of an exponent, an e of either case with a sign or without, and its digits. -/
def IsExponent (mark power : List Char) : Prop :=
  (∃ e sign, mark = e :: sign ∧ (e = 'e' ∨ e = 'E') ∧ sign ∈ [[], ['-'], ['+']]) ∧
    power ≠ [] ∧ Digits power

/-- The parts of a decimal literal are what they are called, and it has a digit beside the point. -/
structure Literal.Proper (l : Literal) : Prop where
  whole : Digits l.whole
  fraction : Digits l.fraction
  digit : l.whole ≠ [] ∨ l.fraction ≠ []
  point : l.point = false → l.fraction = []
  exponent : l.mark = [] ∧ l.power = [] ∨ IsExponent l.mark l.power

/-- A decimal literal does not go on with what stands behind it. -/
structure Literal.Ends (l : Literal) (rest : List Char) : Prop where
  digit : ∀ c ∈ rest.head?, isDigit c = false
  point : l.point = false → l.mark = [] → ∀ c ∈ rest.head?, c ≠ '.'
  exponent : l.mark = [] → ∀ mark power after, rest = mark ++ (power ++ after) →
    ¬ IsExponent mark power

theorem spanDigits_eq : ∀ cs : List Char,
    spanDigits cs = (cs.takeWhile isDigit, cs.dropWhile isDigit)
  | [] => rfl
  | c :: cs => by
    rcases hc : isDigit c with _ | _ <;> simp [spanDigits, hc, spanDigits_eq cs]

theorem spanDigits_eq_iff {cs ds rest : List Char} :
    spanDigits cs = (ds, rest) ↔
      cs = ds ++ rest ∧ Digits ds ∧ ∀ c ∈ rest.head?, isDigit c = false := by
  rw [spanDigits_eq, Prod.mk.injEq, cut_iff]
  rfl

theorem spanSign_eq_iff {cs sign rest : List Char} :
    spanSign cs = (sign, rest) ↔ cs = sign ++ rest ∧ (sign = ['-'] ∨ sign = ['+'] ∨
      sign = [] ∧ ∀ c ∈ rest.head?, c ≠ '-' ∧ c ≠ '+') := by
  constructor
  · intro h
    unfold spanSign at h
    split at h <;> cases h
    · exact ⟨rfl, .inl rfl⟩
    · exact ⟨rfl, .inr (.inl rfl)⟩
    · rename_i hminus hplus
      refine ⟨rfl, .inr (.inr ⟨rfl, fun c hc => ?_⟩)⟩
      obtain ⟨more, rfl⟩ := List.head?_eq_some_iff.1 hc
      exact ⟨fun he => hminus more (he ▸ rfl), fun he => hplus more (he ▸ rfl)⟩
  · rintro ⟨rfl, rfl | rfl | ⟨rfl, hrest⟩⟩
    · rfl
    · rfl
    · unfold spanSign
      split
      · rename_i heq
        exact absurd rfl (hrest '-' (by rw [← List.nil_append rest, heq]; rfl)).1
      · rename_i heq
        exact absurd rfl (hrest '+' (by rw [← List.nil_append rest, heq]; rfl)).2
      · rfl

theorem exponent?_eq_some_iff {cs mark power after : List Char} :
    exponent? cs = some (mark, power, after) ↔ cs = mark ++ (power ++ after) ∧
      IsExponent mark power ∧ ∀ c ∈ after.head?, isDigit c = false := by
  constructor
  · intro h
    unfold exponent? at h
    split at h
    · cases h
    · rename_i e rest
      split at h
      · rename_i he
        split at h
        · cases h
        · rename_i ds after' hne hspan
          cases h
          obtain ⟨hrest, hdigits, hafter⟩ := spanDigits_eq_iff.1 hspan
          obtain ⟨hcs, hsign⟩ := spanSign_eq_iff.1 (Prod.eta (spanSign rest)).symm
          refine ⟨?_, ⟨⟨e, (spanSign rest).1, rfl, he, ?_⟩, hne, hdigits⟩, hafter⟩
          · rw [← hrest, List.cons_append, ← hcs]
          · rcases hsign with h | h | ⟨h, -⟩ <;> simp [h]
      · cases h
  · rintro ⟨rfl, ⟨⟨e, sign, rfl, he, hsign⟩, hpower, hdigits⟩, hafter⟩
    obtain ⟨d, ds, rfl⟩ := List.exists_cons_of_ne_nil hpower
    have hd : isDigit d = true := hdigits d (.head _)
    have hspanSign : spanSign (sign ++ (d :: ds ++ after)) = (sign, d :: ds ++ after) := by
      refine spanSign_eq_iff.2 ⟨rfl, ?_⟩
      simp only [List.mem_cons, List.not_mem_nil, or_false] at hsign
      rcases hsign with rfl | rfl | rfl
      · refine .inr (.inr ⟨rfl, fun c hc => ?_⟩)
        cases hc
        exact ⟨fun h => absurd (h ▸ hd) (by decide), fun h => absurd (h ▸ hd) (by decide)⟩
      · exact .inl rfl
      · exact .inr (.inl rfl)
    have hspan := spanDigits_eq_iff.2 ⟨rfl, hdigits, hafter⟩
    rw [List.cons_append, exponent?, if_pos he, hspanSign, hspan]

theorem exponent?_eq_none_iff {cs : List Char} :
    exponent? cs = none ↔ ∀ mark power after, cs = mark ++ (power ++ after) →
      ¬ IsExponent mark power := by
  constructor
  · rintro h mark power after rfl ⟨hmark, hne, hdigits⟩
    obtain ⟨hafter, htake, hdrop⟩ := spanDigits_eq_iff.1 (spanDigits_eq after)
    have hsome : exponent? (mark ++ (power ++ after)) =
        some (mark, power ++ after.takeWhile isDigit, after.dropWhile isDigit) :=
      exponent?_eq_some_iff.2 ⟨by rw [List.append_assoc, ← hafter],
        ⟨hmark, List.append_ne_nil_of_left_ne_nil hne _,
          List.forall_mem_append.2 ⟨hdigits, htake⟩⟩, hdrop⟩
    rw [h] at hsome
    cases hsome
  · intro h
    rcases he : exponent? cs with _ | ⟨mark, power, after⟩
    · rfl
    · obtain ⟨hcs, hexponent, -⟩ := exponent?_eq_some_iff.1 he
      exact absurd hexponent (h mark power after hcs)

theorem mantissa?_eq_some_iff {cs rest : List Char} {l : Literal} :
    mantissa? cs = some (l, rest) ↔ l.mark = [] ∧ l.power = [] ∧ l.Proper ∧ cs = l.text ++ rest ∧
      (∀ c ∈ rest.head?, isDigit c = false) ∧ (l.point = false → ∀ c ∈ rest.head?, c ≠ '.') := by
  constructor
  · intro h
    unfold mantissa? at h
    split at h
    · rename_i more hspan
      obtain ⟨rfl, -, -⟩ := spanDigits_eq_iff.1 hspan
      split at h
      · cases h
      · rename_i ds after hne hfraction
        cases h
        obtain ⟨rfl, hdigits, hafter⟩ := spanDigits_eq_iff.1 hfraction
        exact ⟨rfl, rfl, ⟨nofun, hdigits, .inr hne, nofun, .inl ⟨rfl, rfl⟩⟩,
          by simp [Literal.text], hafter, nofun⟩
    · cases h
    · rename_i ds more hne hspan
      cases h
      obtain ⟨rfl, hdigits, -⟩ := spanDigits_eq_iff.1 hspan
      obtain ⟨hmore, hfraction, hafter⟩ := spanDigits_eq_iff.1 (Prod.eta (spanDigits more)).symm
      refine ⟨rfl, rfl, ⟨hdigits, hfraction, .inl hne, nofun, .inl ⟨rfl, rfl⟩⟩, ?_, hafter,
        nofun⟩
      simp [Literal.text, ← hmore]
    · rename_i ds more _ hne hpoint hspan
      cases h
      obtain ⟨rfl, hdigits, hrest⟩ := spanDigits_eq_iff.1 hspan
      refine ⟨rfl, rfl, ⟨hdigits, nofun, .inl hne, fun _ => rfl, .inl ⟨rfl, rfl⟩⟩,
        by simp [Literal.text], hrest, fun _ c hc hpt => ?_⟩
      obtain ⟨tail, rfl⟩ := List.head?_eq_some_iff.1 hc
      exact hpoint tail (hpt ▸ rfl)
  · rintro ⟨hmark, hpower, hl, rfl, hdigit, hpoint⟩
    obtain ⟨whole, point, fraction, mark, power⟩ := l
    dsimp only at hmark hpower
    subst hmark hpower
    have hdot : ∀ c ∈ ('.' :: (fraction ++ rest)).head?, isDigit c = false := by
      intro c hc
      cases hc
      decide
    cases point with
    | false =>
      obtain rfl : fraction = [] := hl.point rfl
      have hwhole : whole ≠ [] := hl.digit.resolve_right (absurd rfl)
      have hspan := spanDigits_eq_iff.2 ⟨rfl, hl.whole, hdigit⟩
      simp only [Literal.text, List.append_nil, Bool.false_eq_true, if_false, mantissa?, hspan]
      split
      · rename_i heq
        cases heq
        exact absurd rfl hwhole
      · rename_i heq
        cases heq
        exact absurd rfl hwhole
      · rename_i heq
        cases heq
        exact absurd rfl (hpoint rfl '.' rfl)
      · rename_i heq
        cases heq
        rfl
    | true =>
      have hspan : spanDigits (whole ++ '.' :: (fraction ++ rest)) =
          (whole, '.' :: (fraction ++ rest)) := spanDigits_eq_iff.2 ⟨rfl, hl.whole, hdot⟩
      have hfraction : spanDigits (fraction ++ rest) = (fraction, rest) :=
        spanDigits_eq_iff.2 ⟨rfl, hl.fraction, hdigit⟩
      have htext : Literal.text ⟨whole, true, fraction, [], []⟩ ++ rest =
          whole ++ '.' :: (fraction ++ rest) := by simp [Literal.text]
      rw [htext, mantissa?, hspan]
      cases whole with
      | nil =>
        obtain ⟨d, ds, rfl⟩ := List.exists_cons_of_ne_nil (hl.digit.resolve_left (absurd rfl))
        simp only [hfraction]
      | cons d ds =>
        simp only [hfraction]

theorem literal?_eq_some_iff {cs rest : List Char} {l : Literal} :
    literal? cs = some (l, rest) ↔ l.Proper ∧ cs = l.text ++ rest ∧ l.Ends rest := by
  constructor
  · intro h
    unfold literal? at h
    split at h
    · cases h
    · rename_i k more hk
      obtain ⟨hmark, hpower, hl, rfl, hdigit, hpoint⟩ := mantissa?_eq_some_iff.1 hk
      split at h
      · rename_i mark power after he
        cases h
        obtain ⟨rfl, hexponent, hafter⟩ := exponent?_eq_some_iff.1 he
        have hne : mark ≠ [] := by
          obtain ⟨⟨e, sign, rfl, -⟩, -⟩ := hexponent
          exact List.cons_ne_nil _ _
        refine ⟨⟨hl.whole, hl.fraction, hl.digit, hl.point, .inr hexponent⟩, ?_,
          ⟨hafter, fun _ h => absurd h hne, fun h => absurd h hne⟩⟩
        simp [Literal.text, hmark, hpower]
      · rename_i he
        cases h
        exact ⟨hl, rfl, ⟨hdigit, fun h _ => hpoint h, fun _ => exponent?_eq_none_iff.1 he⟩⟩
  · rintro ⟨hl, rfl, hdigit, hpoint, hexponent⟩
    obtain ⟨whole, point, fraction, mark, power⟩ := l
    rcases hl.exponent with ⟨hmark, hpower⟩ | hmark
    · dsimp only at hmark hpower
      subst hmark hpower
      have hk := mantissa?_eq_some_iff.2 ⟨rfl, rfl, hl, rfl, hdigit, fun h => hpoint h rfl⟩
      rw [literal?, hk]
      dsimp only
      rw [exponent?_eq_none_iff.2 (hexponent rfl)]
    · -- The mark of the exponent ends the digits.
      have hhead : ∀ c ∈ (mark ++ (power ++ rest)).head?, c = 'e' ∨ c = 'E' := by
        obtain ⟨⟨e, sign, hmark, he, -⟩, -⟩ := hmark
        dsimp only at hmark
        subst hmark
        intro c hc
        cases hc
        exact he
      have hk : mantissa? (Literal.text ⟨whole, point, fraction, mark, power⟩ ++ rest) =
          some (⟨whole, point, fraction, [], []⟩, mark ++ (power ++ rest)) := by
        refine mantissa?_eq_some_iff.2 ⟨rfl, rfl,
          ⟨hl.whole, hl.fraction, hl.digit, hl.point, .inl ⟨rfl, rfl⟩⟩, ?_, fun c hc => ?_,
          fun _ c hc => ?_⟩
        · simp [Literal.text]
        · rcases hhead c hc with rfl | rfl <;> decide
        · rcases hhead c hc with rfl | rfl <;> decide
      have he := exponent?_eq_some_iff.2 ⟨rfl, hmark, hdigit⟩
      rw [literal?, hk]
      dsimp only at he ⊢
      rw [he]

theorem literal?_eq_none_iff {cs : List Char} : literal? cs = none ↔ mantissa? cs = none := by
  unfold literal?
  split
  · rename_i h
    exact iff_of_true rfl h
  · rename_i h
    refine iff_of_false ?_ (h ▸ Option.some_ne_none _)
    split <;> exact Option.some_ne_none _

/-- Where a literal is written one is read, which may be a longer one. -/
theorem literal?_ne_none {l : Literal} (hl : l.Proper) (rest : List Char) :
    literal? (l.text ++ rest) ≠ none := by
  rw [Ne, literal?_eq_none_iff]
  obtain ⟨whole, point, fraction, mark, power⟩ := l
  cases whole with
  | cons d ds =>
    have hd : isDigit d = true := hl.whole d (.head _)
    simp only [Literal.text, List.cons_append, mantissa?, spanDigits, if_pos hd]
    split <;> simp_all
  | nil =>
    obtain ⟨d, ds, hds⟩ := List.exists_cons_of_ne_nil (hl.digit.resolve_left (absurd rfl))
    dsimp only at hds
    subst hds
    have hd : isDigit d = true := hl.fraction d (.head _)
    have hpoint : point = true := by
      rcases hp : point with _ | _
      · exact absurd (hl.point hp) (List.cons_ne_nil _ _)
      · rfl
    have hdot : ¬ isDigit '.' = true := by decide
    simp only [Literal.text, hpoint, if_true, List.nil_append, List.cons_append, mantissa?,
      spanDigits, if_neg hdot, if_pos hd]
    exact Option.some_ne_none _

end Reading

/-! ## Characters -/

namespace Lexer

/-- The characters that marks are written with. -/
def markCharacters : List Char := "&|<=>!-+*/%?:()[],".toList

/-- The characters of tokens beside digits and those of names. -/
def signCharacters : List Char := '.' :: '"' :: '\'' :: '$' :: markCharacters

end Lexer

namespace Text

/-- What holds of the ASCII characters one by one holds of a character among them. -/
theorem of_ascii {P : Char → Prop} (h : ∀ n < 128, P (Char.ofNat n)) {c : Char}
    (hc : c.toNat < 128) : P c := by
  have hn := h c.toNat hc
  rwa [Char.ofNat_toNat] at hn

theorem toNat_of_isAlpha {c : Char} (h : c.isAlpha = true) : c.toNat < 128 := by
  rcases Bool.or_eq_true_iff.1 h with h | h
  · obtain ⟨-, hu⟩ : 'A'.val ≤ c.val ∧ c.val ≤ 'Z'.val := of_decide_eq_true h
    exact Nat.lt_of_le_of_lt hu (by decide)
  · exact Nat.lt_of_le_of_lt (of_decide_eq_true (Bool.and_eq_true_iff.1 h).2) (by decide)

theorem toNat_of_isNameStart {c : Char} (h : isNameStart c = true) : c.toNat < 128 := by
  rcases Bool.or_eq_true_iff.1 h with h | h
  · exact toNat_of_isAlpha h
  · rw [eq_of_beq h]
    decide

/-- A blank is nothing that a token is written with. -/
theorem of_isBlank {c : Char} (h : isBlank c = true) :
    isDigit c = false ∧ Lexer.isNameChar c = false ∧ c ∉ Lexer.signCharacters := by
  have hall : ∀ n ∈ blankRanges.flatMap fun r => List.range' r.1 (r.2 + 1 - r.1),
      isDigit (Char.ofNat n) = false ∧ Lexer.isNameChar (Char.ofNat n) = false ∧
        Char.ofNat n ∉ Lexer.signCharacters := by decide
  have hc := hall _ (isBlank_mem h)
  rwa [Char.ofNat_toNat] at hc

end Text

/-! ## Tokens as they are written -/

namespace Token

/-- The marks of one or two characters. -/
def IsMark : Token → Prop
  | symbol _ | openParen | closeParen | openBracket | closeBracket | comma => True
  | number _ | text _ | name _ | finish => False

end Token

namespace Lexer

/-- A name of ASCII letters, digits and underscores that starts with no digit, perhaps behind a
dollar sign. -/
def IsIdentifier (w : List Char) : Prop :=
  ∃ dollar c cs, w = dollar ++ c :: cs ∧ dollar ∈ [[], ['$']] ∧ isNameStart c = true ∧
    ∀ d ∈ cs, isNameChar d = true

end Lexer

/-- What a number or a name has to be written of. The end of a text is not written. -/
def Token.Proper : Token → Prop
  | number l => l.Proper
  | name n => Lexer.IsIdentifier n.toList
  | finish => False
  | text _ | symbol _ | openParen | closeParen | openBracket | closeBracket | comma => True

/-- How a token is written: a quoted text between two quotes of a kind that it does not contain, and
any other token by its value. -/
def Token.Spelling (t : Token) (w : List Char) : Prop :=
  match t with
  | text s => ∃ q, (q = '"' ∨ q = '\'') ∧ q ∉ s.toList ∧ w = q :: (s.toList ++ [q])
  | t => w = t.value.toList

namespace Lexer

/-- The characters are a lexeme: blanks, which are no token, or a token as it is written. -/
def Reads : Option Token → List Char → Prop
  | none, w => w ≠ [] ∧ Line.Blanks w
  | some t, w => t.Proper ∧ t.Spelling w

/-- A lexeme does not go on with what stands behind it. -/
def Ends : Option Token → List Char → Prop
  | none, rest => ∀ c ∈ rest.head?, isBlank c = false
  | some (.number l), rest => l.Ends rest
  | some (.name _), rest => ∀ c ∈ rest.head?, isNameChar c = false
  | some (.text _), _ => True
  | some t, rest => ∀ c ∈ rest.head?, ∀ s : Symbol, s.text.toList ≠ t.value.toList ++ [c]

/-- The lexeme is one that the text starts with, and is not cut short. -/
structure Lexeme.Begins (l : Lexeme) (cs : List Char) : Prop where
  cut : cs = l.taken ++ l.rest
  reads : Reads l.token l.taken
  ends : Ends l.token l.rest

/-! ## The kinds of lexemes -/

section Kinds

variable {cs w rest : List Char} {t : Option Token}

theorem blanks?_eq_some_iff :
    blanks? cs = some ⟨t, w, rest⟩ ↔ t = none ∧ Lexeme.Begins ⟨t, w, rest⟩ cs := by
  constructor
  · intro h
    unfold blanks? at h
    split at h
    · cases h
    · rename_i hne
      cases h
      obtain ⟨hcs, hblank, hrest⟩ := cut_iff.1 ⟨rfl, rfl⟩
      exact ⟨rfl, hcs, ⟨hne, hblank⟩, hrest⟩
  · rintro ⟨rfl, rfl, ⟨hne, hblank⟩, hrest⟩
    obtain ⟨c, w, rfl⟩ := List.exists_cons_of_ne_nil hne
    obtain ⟨htake, hdrop⟩ := cut_iff.2 ⟨rfl, hblank, hrest⟩
    unfold blanks?
    rw [htake, hdrop]

theorem number?_eq_some_iff :
    number? cs = some ⟨t, w, rest⟩ ↔
      (∃ n, t = some (.number n)) ∧ Lexeme.Begins ⟨t, w, rest⟩ cs := by
  constructor
  · intro h
    obtain ⟨⟨n, after⟩, hn, hl⟩ := Option.map_eq_some_iff.1 h
    cases hl
    obtain ⟨hproper, hcs, hends⟩ := Reading.literal?_eq_some_iff.1 hn
    exact ⟨⟨n, rfl⟩, hcs, ⟨hproper, String.toList_ofList.symm⟩, hends⟩
  · rintro ⟨⟨n, rfl⟩, rfl, ⟨hproper, hspelling⟩, hends⟩
    obtain rfl : w = n.text := hspelling.trans String.toList_ofList
    rw [number?, Reading.literal?_eq_some_iff.2 ⟨hproper, rfl, hends⟩]
    rfl

theorem quotedText?_eq_some_iff :
    quotedText? cs = some ⟨t, w, rest⟩ ↔
      (∃ s, t = some (.text s)) ∧ Lexeme.Begins ⟨t, w, rest⟩ cs := by
  constructor
  · intro h
    unfold quotedText? at h
    split at h
    · cases h
    · rename_i q more
      split at h
      · rename_i hq
        split at h
        · cases h
        · rename_i c after hdrop
          cases h
          obtain ⟨hcs, hinside, hc⟩ := Line.cut_at_iff.1 ⟨rfl, hdrop⟩
          obtain rfl := hc c rfl
          refine ⟨⟨_, rfl⟩, by simpa using hcs, ⟨trivial, c, hq, ?_, ?_⟩, trivial⟩
          · rwa [String.toList_ofList]
          · rw [String.toList_ofList]
      · cases h
  · rintro ⟨⟨s, rfl⟩, rfl, ⟨-, q, hq, hs, rfl⟩, -⟩
    obtain ⟨htake, hdrop⟩ := Line.cut_at_iff.2
      ⟨(rfl : s.toList ++ q :: rest = _), hs, fun c hc => (Option.some.inj hc).symm⟩
    simp only [List.cons_append, List.append_assoc, List.nil_append, quotedText?, if_pos hq, hdrop,
      htake, String.ofList_toList]

theorem name?_of_isNameStart {c : Char} (h : isNameStart c = true) :
    name? (c :: cs) = some ⟨some (.name (String.ofList (c :: cs.takeWhile isNameChar))),
      c :: cs.takeWhile isNameChar, cs.dropWhile isNameChar⟩ := by
  unfold name?
  split
  · rename_i heq
    cases heq
    exact absurd h (by decide)
  · rename_i heq
    cases heq
    exact if_pos h
  · rename_i heq
    cases heq

/-- What is read of a name, behind a dollar sign or not. -/
theorem begins_name {dollar : List Char} (hdollar : dollar ∈ [[], ['$']]) {c : Char}
    (hc : isNameStart c = true) (more : List Char) :
    Lexeme.Begins ⟨some (.name (String.ofList (dollar ++ c :: more.takeWhile isNameChar))),
      dollar ++ c :: more.takeWhile isNameChar, more.dropWhile isNameChar⟩
      (dollar ++ c :: more) := by
  obtain ⟨hmore, htaken, hrest⟩ := cut_iff.1
    ⟨(rfl : more.takeWhile isNameChar = _), (rfl : more.dropWhile isNameChar = _)⟩
  refine ⟨?_, ⟨?_, String.toList_ofList.symm⟩, hrest⟩
  · rw [List.append_assoc, List.cons_append, ← hmore]
  · exact ⟨dollar, c, more.takeWhile isNameChar, String.toList_ofList, hdollar, hc, htaken⟩

theorem name?_eq_some_iff :
    name? cs = some ⟨t, w, rest⟩ ↔
      (∃ n, t = some (.name n)) ∧ Lexeme.Begins ⟨t, w, rest⟩ cs := by
  constructor
  · intro h
    unfold name? at h
    split at h
    · split at h
      · rename_i hc
        cases h
        exact ⟨⟨_, rfl⟩, begins_name (.tail _ (.head _)) hc _⟩
      · cases h
    · split at h
      · rename_i hc
        cases h
        exact ⟨⟨_, rfl⟩, begins_name (.head _) hc _⟩
      · cases h
    · cases h
  · rintro ⟨⟨n, rfl⟩, rfl, ⟨⟨dollar, c, taken, hn, hdollar, hc, htaken⟩, hspelling⟩, hends⟩
    obtain rfl : w = dollar ++ c :: taken := hspelling.trans hn
    obtain rfl : n = String.ofList (dollar ++ c :: taken) := by rw [← hn, String.ofList_toList]
    obtain ⟨htake, hdrop⟩ : (taken ++ rest).takeWhile isNameChar = taken ∧
      (taken ++ rest).dropWhile isNameChar = rest := cut_iff.2 ⟨rfl, htaken, hends⟩
    simp only [List.mem_cons, List.not_mem_nil, or_false] at hdollar
    rcases hdollar with rfl | rfl
    · simp only [List.nil_append, List.cons_append]
      rw [name?_of_isNameStart hc, htake, hdrop]
    · simp only [List.nil_append, List.cons_append, name?]
      rw [if_pos (show (c.isAlpha || c == '_') = true from hc), htake, hdrop]

theorem longSymbol?_eq_some_iff {c d : Char} {s : Symbol} :
    longSymbol? c d = some s ↔ s.text.toList = [c, d] := by
  constructor
  · intro h
    unfold longSymbol? at h
    split at h <;> cases h <;> rfl
  · intro h
    cases s <;> cases h <;> rfl

theorem shortSymbol?_eq_some_iff {c : Char} {t : Token} :
    shortSymbol? c = some t ↔ t.IsMark ∧ t.value.toList = [c] := by
  constructor
  · intro h
    unfold shortSymbol? at h
    split at h <;> cases h <;> exact ⟨trivial, rfl⟩
  · rintro ⟨hmark, h⟩
    cases t with
    | symbol s => cases s <;> cases h <;> rfl
    | openParen | closeParen | openBracket | closeBracket | comma => cases h; rfl
    | number | text | name | finish => cases hmark

theorem symbol_length (s : Symbol) : s.text.toList.length ≤ 2 := by cases s <;> decide

theorem mark_cases {t : Token} (h : t.IsMark) :
    (∃ c, t.value.toList = [c]) ∨ ∃ s c d, t = .symbol s ∧ s.text.toList = [c, d] := by
  cases t with
  | symbol s =>
    cases s
    case and | or | atMost | atLeast | equal | unequal => exact .inr ⟨_, _, _, rfl, rfl⟩
    all_goals exact .inl ⟨_, rfl⟩
  | openParen | closeParen | openBracket | closeBracket | comma => exact .inl ⟨_, rfl⟩
  | number | text | name | finish => cases h

theorem reads_mark {t : Token} (h : t.IsMark) : Reads (some t) w ↔ w = t.value.toList := by
  cases t <;> first | exact h.elim | exact and_iff_right trivial

theorem ends_mark {t : Token} (h : t.IsMark) :
    Ends (some t) rest ↔ ∀ c ∈ rest.head?, ∀ s : Symbol, s.text.toList ≠ t.value.toList ++ [c] := by
  cases t <;> first | exact h.elim | exact Iff.rfl

theorem begins_mark {s : Token} (h : s.IsMark) :
    Lexeme.Begins ⟨some s, w, rest⟩ cs ↔ cs = w ++ rest ∧ w = s.value.toList ∧
      ∀ c ∈ rest.head?, ∀ s' : Symbol, s'.text.toList ≠ s.value.toList ++ [c] :=
  ⟨fun ⟨hcut, hreads, hends⟩ => ⟨hcut, (reads_mark h).1 hreads, (ends_mark h).1 hends⟩,
    fun ⟨hcut, hreads, hends⟩ => ⟨hcut, (reads_mark h).2 hreads, (ends_mark h).2 hends⟩⟩

theorem symbol?_eq_some_iff :
    symbol? cs = some ⟨t, w, rest⟩ ↔
      (∃ s, t = some s ∧ s.IsMark) ∧ Lexeme.Begins ⟨t, w, rest⟩ cs := by
  constructor
  · intro h
    unfold symbol? at h
    split at h
    · cases h
    · obtain ⟨s, hs, hl⟩ := Option.map_eq_some_iff.1 h
      cases hl
      obtain ⟨hmark, hvalue⟩ := shortSymbol?_eq_some_iff.1 hs
      exact ⟨⟨s, rfl, hmark⟩, (begins_mark hmark).2 ⟨rfl, hvalue.symm, nofun⟩⟩
    · rename_i c d more
      split at h
      · rename_i s hs
        cases h
        have hvalue := longSymbol?_eq_some_iff.1 hs
        have hmark : (Token.symbol s).IsMark := trivial
        refine ⟨⟨_, rfl, hmark⟩, (begins_mark hmark).2 ⟨rfl, hvalue.symm, fun e _ s' hs' => ?_⟩⟩
        have hlength := symbol_length s'
        rw [hs', Token.value, hvalue] at hlength
        exact Nat.not_succ_le_self 2 hlength
      · rename_i hlong
        obtain ⟨s, hs, hl⟩ := Option.map_eq_some_iff.1 h
        cases hl
        obtain ⟨hmark, hvalue⟩ := shortSymbol?_eq_some_iff.1 hs
        refine ⟨⟨s, rfl, hmark⟩, (begins_mark hmark).2 ⟨rfl, hvalue.symm, fun e he s' hs' => ?_⟩⟩
        cases he
        rw [hvalue] at hs'
        rw [longSymbol?_eq_some_iff.2 hs'] at hlong
        cases hlong
  · rintro ⟨⟨s, rfl, hmark⟩, hbegins⟩
    obtain ⟨rfl, rfl, hends⟩ := (begins_mark hmark).1 hbegins
    rcases mark_cases hmark with ⟨c, hc⟩ | ⟨s, c, d, rfl, hs⟩
    · have hshort := shortSymbol?_eq_some_iff.2 ⟨hmark, hc⟩
      rw [hc] at hends ⊢
      cases rest with
      | nil => simp only [List.append_nil, symbol?, hshort, Option.map_some]
      | cons d more =>
        have hlong : longSymbol? c d = none := Option.eq_none_iff_forall_ne_some.2 fun s hs =>
          hends d rfl s (longSymbol?_eq_some_iff.1 hs)
        simp only [List.cons_append, List.nil_append, symbol?, hlong, hshort, Option.map_some]
    · rw [Token.value, hs]
      simp only [List.cons_append, List.nil_append, symbol?, longSymbol?_eq_some_iff.2 hs]

theorem blanks?_eq_none {c : Char} (h : isBlank c = false) : blanks? (c :: cs) = none := by
  unfold blanks?
  rw [List.takeWhile_cons_of_neg (by simp [h])]

theorem number?_eq_none {c : Char} (hdigit : isDigit c = false) (hpoint : c ≠ '.') :
    number? (c :: cs) = none := by
  have hspan : Reading.spanDigits (c :: cs) = ([], c :: cs) := by
    rw [Reading.spanDigits, if_neg (by simp [hdigit])]
  have hmantissa : Reading.mantissa? (c :: cs) = none := by
    unfold Reading.mantissa?
    rw [hspan]
    split <;> simp_all
  rw [number?, Reading.literal?, hmantissa]
  rfl

theorem quotedText?_eq_none {c : Char} (hdouble : c ≠ '"') (hsingle : c ≠ '\'') :
    quotedText? (c :: cs) = none := by
  rw [quotedText?, if_neg (by simp [hdouble, hsingle])]

theorem name?_eq_none {c : Char} (hstart : isNameStart c = false) (hdollar : c ≠ '$') :
    name? (c :: cs) = none := by
  unfold name?
  split
  · rename_i heq
    cases heq
    exact absurd rfl hdollar
  · rename_i heq
    cases heq
    exact if_neg (Bool.eq_false_iff.1 hstart)
  · rfl

end Kinds

/-! ## First characters -/

/-- The characters that a token can start with. -/
def Starts (c : Char) : Token → Prop
  | .number _ => isDigit c = true ∨ c = '.'
  | .text _ => c = '"' ∨ c = '\''
  | .name _ => isNameStart c = true ∨ c = '$'
  | _ => c ∈ markCharacters

variable {cs w rest : List Char} {t : Option Token}

theorem Reads.starts {t : Token} (h : Reads (some t) w) : ∃ c more, w = c :: more ∧ Starts c t := by
  cases t with
  | number l =>
    obtain ⟨hl, hspelling⟩ := h
    obtain rfl : w = l.text := hspelling.trans String.toList_ofList
    obtain ⟨whole, point, fraction, mark, power⟩ := l
    cases whole with
    | cons d ds => exact ⟨_, _, rfl, .inl (hl.whole d (.head _))⟩
    | nil =>
      cases point with
      | true => exact ⟨_, _, rfl, .inr rfl⟩
      | false => exact absurd (hl.point rfl) (hl.digit.resolve_left (absurd rfl))
  | text s =>
    obtain ⟨-, q, hq, -, rfl⟩ := h
    exact ⟨q, _, rfl, hq⟩
  | name n =>
    obtain ⟨⟨dollar, c, cs, hn, hdollar, hc, -⟩, hspelling⟩ := h
    obtain rfl : w = dollar ++ c :: cs := hspelling.trans hn
    simp only [List.mem_cons, List.not_mem_nil, or_false] at hdollar
    rcases hdollar with rfl | rfl
    · exact ⟨c, _, rfl, .inl hc⟩
    · exact ⟨'$', _, rfl, .inr rfl⟩
  | symbol s =>
    obtain rfl : w = s.text.toList := h.2
    cases s <;> exact ⟨_, _, rfl, (by decide : _ ∈ markCharacters)⟩
  | openParen | closeParen | openBracket | closeBracket | comma =>
    obtain rfl := h.2
    exact ⟨_, _, rfl, (by decide : _ ∈ markCharacters)⟩
  | finish => exact h.1.elim

/-- What a token starts with is no blank. -/
theorem Starts.isBlank {c : Char} {t : Token} (h : Starts c t) : isBlank c = false := by
  refine Bool.eq_false_iff.2 fun hb => ?_
  obtain ⟨hdigit, -, hsign⟩ := of_isBlank hb
  simp only [signCharacters, List.mem_cons, not_or] at hsign
  obtain ⟨hpoint, hdouble, hsingle, hdollar, hmark⟩ := hsign
  cases t with
  | number l => exact h.elim (Bool.eq_false_iff.1 hdigit) hpoint
  | text s => exact h.elim hdouble hsingle
  | name n =>
    refine h.elim (fun hstart => ?_) hdollar
    have hword := isWordChar_of_isNameStart hstart
    rw [isWordChar_of_isBlank hb] at hword
    cases hword
  | symbol | openParen | closeParen | openBracket | closeBracket | comma | finish =>
    exact hmark h

theorem of_isNameStart {c : Char} (h : isNameStart c = true ∨ c = '$') :
    isDigit c = false ∧ c ≠ '.' ∧ c ≠ '"' ∧ c ≠ '\'' := by
  have hall : ∀ n < 128, isNameStart (Char.ofNat n) = true → isDigit (Char.ofNat n) = false ∧
      Char.ofNat n ≠ '.' ∧ Char.ofNat n ≠ '"' ∧ Char.ofNat n ≠ '\'' := by decide
  rcases h with h | rfl
  · exact of_ascii (P := fun c => isNameStart c = true → isDigit c = false ∧ c ≠ '.' ∧ c ≠ '"' ∧
      c ≠ '\'') hall (toNat_of_isNameStart h) h
  · decide

theorem of_mem_markCharacters {c : Char} (h : c ∈ markCharacters) :
    isDigit c = false ∧ c ≠ '.' ∧ c ≠ '"' ∧ c ≠ '\'' ∧ isNameStart c = false ∧ c ≠ '$' := by
  have hall : (markCharacters.all fun c => isDigit c = false ∧ c ≠ '.' ∧ c ≠ '"' ∧ c ≠ '\'' ∧
      isNameStart c = false ∧ c ≠ '$') = true := by decide
  exact of_decide_eq_true (List.all_eq_true.1 hall c h)

/-! ## Every kind -/

/-- A text starts with a lexeme exactly if it is read there. The kinds of lexemes are told apart by
their first characters, and how far each goes by what it does not go on with. -/
theorem lexeme?_eq_some_iff {l : Lexeme} : lexeme? cs = some l ↔ l.Begins cs := by
  obtain ⟨t, w, rest⟩ := l
  unfold lexeme?
  constructor
  · intro h
    simp only [Option.or_eq_some_iff, blanks?_eq_some_iff, number?_eq_some_iff,
      quotedText?_eq_some_iff, name?_eq_some_iff, symbol?_eq_some_iff] at h
    rcases h with h | ⟨-, h | ⟨-, h | ⟨-, h | ⟨-, h⟩⟩⟩⟩ <;> exact h.2
  · intro h
    cases t with
    | none => rw [blanks?_eq_some_iff.2 ⟨rfl, h⟩, Option.some_or]
    | some t =>
      obtain ⟨c, more, rfl, hstarts⟩ := h.reads.starts
      obtain rfl : cs = c :: (more ++ rest) := h.cut
      rw [blanks?_eq_none hstarts.isBlank, Option.none_or]
      cases t with
      | number l => rw [number?_eq_some_iff.2 ⟨⟨l, rfl⟩, h⟩, Option.some_or]
      | text s =>
        have hc : isDigit c = false ∧ c ≠ '.' := by rcases hstarts with rfl | rfl <;> decide
        rw [number?_eq_none hc.1 hc.2, quotedText?_eq_some_iff.2 ⟨⟨s, rfl⟩, h⟩, Option.none_or,
          Option.some_or]
      | name n =>
        obtain ⟨hdigit, hpoint, hdouble, hsingle⟩ := of_isNameStart hstarts
        rw [number?_eq_none hdigit hpoint, quotedText?_eq_none hdouble hsingle,
          name?_eq_some_iff.2 ⟨⟨n, rfl⟩, h⟩]
        rfl
      | finish => exact h.reads.1.elim
      | symbol | openParen | closeParen | openBracket | closeBracket | comma =>
        obtain ⟨hdigit, hpoint, hdouble, hsingle, hname, hdollar⟩ :=
          of_mem_markCharacters hstarts
        rw [number?_eq_none hdigit hpoint, quotedText?_eq_none hdouble hsingle,
          name?_eq_none hname hdollar, symbol?_eq_some_iff.2 ⟨⟨_, rfl, by exact trivial⟩, h⟩]
        rfl

theorem blanks?_ne_none (hw : w ≠ []) (hblanks : Line.Blanks w) (rest : List Char) :
    blanks? (w ++ rest) ≠ none := by
  obtain ⟨c, more, rfl⟩ := List.exists_cons_of_ne_nil hw
  rw [List.cons_append, blanks?, List.takeWhile_cons_of_pos (hblanks c (.head _))]
  exact Option.some_ne_none _

theorem symbol?_ne_none {s : Token} (hs : s.IsMark) (rest : List Char) :
    symbol? (s.value.toList ++ rest) ≠ none := by
  rcases mark_cases hs with ⟨c, hc⟩ | ⟨s, c, d, rfl, hc⟩
  · have hshort := shortSymbol?_eq_some_iff.2 ⟨hs, hc⟩
    rw [hc, List.cons_append, List.nil_append]
    cases rest with
    | nil => simp only [symbol?, hshort, Option.map_some, ne_eq, reduceCtorEq, not_false_eq_true]
    | cons d more =>
      rw [symbol?, hshort]
      split <;> exact Option.some_ne_none _
  · rw [Token.value, hc, List.cons_append, List.cons_append, symbol?,
      longSymbol?_eq_some_iff.2 hc]
    exact Option.some_ne_none _

/-- Where a lexeme is written something is read, which may be a longer one. -/
theorem Reads.lexeme?_ne_none (h : Reads t w) (rest : List Char) : lexeme? (w ++ rest) ≠ none := by
  intro hnone
  obtain ⟨hblanks, hnumber, htext, hname, hsymbol⟩ : blanks? (w ++ rest) = none ∧
      number? (w ++ rest) = none ∧ quotedText? (w ++ rest) = none ∧ name? (w ++ rest) = none ∧
      symbol? (w ++ rest) = none := by
    simpa only [lexeme?, Option.or_eq_none_iff] using hnone
  cases t with
  | none => exact blanks?_ne_none h.1 h.2 rest hblanks
  | some t =>
    cases t with
    | number l =>
      obtain ⟨hl, hspelling⟩ := h
      obtain rfl : w = l.text := hspelling.trans String.toList_ofList
      exact Reading.literal?_ne_none hl rest (Option.map_eq_none_iff.1 hnumber)
    | text s =>
      rw [quotedText?_eq_some_iff.2 ⟨⟨s, rfl⟩, rfl, h, trivial⟩] at htext
      cases htext
    | name n =>
      obtain ⟨⟨dollar, c, cs, hn, hdollar, hc, -⟩, hspelling⟩ := h
      obtain rfl : w = dollar ++ c :: cs := hspelling.trans hn
      rw [List.append_assoc, List.cons_append,
        name?_eq_some_iff.2 ⟨⟨_, rfl⟩, begins_name hdollar hc (cs ++ rest)⟩] at hname
      cases hname
    | finish => exact h.1
    | symbol | openParen | closeParen | openBracket | closeBracket | comma =>
      obtain rfl := h.2
      exact symbol?_ne_none (by exact trivial) rest hsymbol

/-- Nothing is read exactly where no lexeme is written. -/
theorem lexeme?_eq_none_iff : lexeme? cs = none ↔ ∀ t w, w <+: cs → ¬ Reads t w := by
  constructor
  · rintro h t w ⟨rest, rfl⟩ hreads
    exact hreads.lexeme?_ne_none rest h
  · intro h
    refine Option.eq_none_iff_forall_ne_some.2 fun l hl => ?_
    obtain ⟨rfl, hreads, -⟩ := lexeme?_eq_some_iff.1 hl
    exact h _ _ (List.prefix_append _ _) hreads

/-! ## What stands behind a lexeme -/

theorem Reads.ne_nil (h : Reads t w) : w ≠ [] := by
  cases t with
  | none => exact h.1
  | some t =>
    obtain ⟨c, more, rfl, -⟩ := h.starts
    exact List.cons_ne_nil c more

theorem forall_head?_mono {less : List Char} (h : less <+: rest) {P : Char → Prop}
    (hrest : ∀ c ∈ rest.head?, P c) : ∀ c ∈ less.head?, P c := by
  intro c hc
  obtain ⟨more, rfl⟩ := List.head?_eq_some_iff.1 hc
  obtain ⟨after, rfl⟩ := h
  exact hrest c rfl

/-- A lexeme that ends in front of a text ends in front of the first part of it. -/
theorem Ends.mono {less : List Char} (h : Ends t rest) (hless : less <+: rest) :
    Ends t less := by
  cases t with
  | none => exact forall_head?_mono hless h
  | some t =>
    cases t with
    | number l =>
      refine ⟨forall_head?_mono hless h.digit,
        fun hpoint hmark => forall_head?_mono hless (h.point hpoint hmark), ?_⟩
      rintro hmark mark power after rfl
      obtain ⟨more, rfl⟩ := hless
      exact h.exponent hmark mark power (after ++ more) (by simp only [List.append_assoc])
    | text => trivial
    | name | symbol | openParen | closeParen | openBracket | closeBracket | comma | finish =>
      exact forall_head?_mono hless h

/-- A token ends in front of a blank. -/
theorem ends_of_isBlank (t : Token) (hrest : ∀ c ∈ rest.head?, isBlank c = true) :
    Ends (some t) rest := by
  have hmark : ∀ c ∈ rest.head?, ∀ s : Symbol, s.text.toList ≠ t.value.toList ++ [c] := by
    intro c hc s hs
    have hall : (s.text.toList.all fun d => d ∈ signCharacters) = true := by
      cases s <;> rfl
    have hsign := List.all_eq_true.1 hall c (hs ▸ List.mem_append_right _ (.head _))
    exact (of_isBlank (hrest c hc)).2.2 (of_decide_eq_true hsign)
  cases t with
  | number l =>
    refine ⟨fun c hc => (of_isBlank (hrest c hc)).1, fun _ _ c hc he => ?_, ?_⟩
    · exact (of_isBlank (hrest c hc)).2.2 (he ▸ by decide)
    · rintro - mark power after rfl ⟨⟨e, sign, rfl, he, -⟩, -⟩
      have hblank := hrest e rfl
      rcases he with rfl | rfl <;> exact absurd hblank (by decide)
  | text => trivial
  | name => exact fun c hc => (of_isBlank (hrest c hc)).2.1
  | symbol | openParen | closeParen | openBracket | closeBracket | comma | finish => exact hmark

end Lexer

end SystemDynamics
