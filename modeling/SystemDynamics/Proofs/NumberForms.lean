import SystemDynamics.Proofs.BracketedTexts
import SystemDynamics.Proofs.Patterns
import SystemDynamics.Proofs.Tokenizing

/-!
# The two forms of a number

By itself, as the value of a property or a coordinate of a point, a number is read where its whole
text, without the blanks around it, has the form of a numeral (`Pattern.numeralPattern`). In an
expression it is read wherever a literal is found (`Pattern.literalPattern`), of which as much is
taken as the pattern takes first, and a sign is a token of its own. Both come to the same reader of
literals: the first way to match the pattern is the literal that is read
(`Reading.first?_literalPattern`), and a whole text matches exactly if it is a literal, perhaps
behind a sign (`Reading.isSome_numeralPattern_iff`). So a text is a number exactly if its tokens are
those of one, with the literal directly behind the sign (`Reading.number_forms_agree`).
-/

namespace SystemDynamics

open Text

namespace Pattern

/-! ## The patterns of numbers -/

def isMark (c : Char) : Bool := c == 'e' || c == 'E'

def isSign (c : Char) : Bool := c == '+' || c == '-'

/-- What digits may go on with: a point and digits. -/
def fractionPattern : Pattern := both (optional (one (· == '.'))) (many isDigit)

/-- Digits with a point between or behind them, or with one in front of them. -/
def mantissaPattern : Pattern :=
  either (both (row isDigit) fractionPattern) (both (one (· == '.')) (row isDigit))

def exponentPattern : Pattern := both (one isMark) (both (optional (one isSign)) (row isDigit))

/-- A decimal literal. -/
def literalPattern : Pattern := both mantissaPattern (optional exponentPattern)

/-- A decimal literal, perhaps behind a sign, up to the end of the text. -/
def numeralPattern : Pattern := both (optional (one isSign)) (both literalPattern finish)

end Pattern

namespace Reading

open Pattern

variable {cs ds rest : List Char}

/-! ## The longest literal is found first -/

theorem digits_nil : Digits [] := by rintro _ ⟨⟩

theorem first?_digits (cs : List Char) :
    (row isDigit).first? cs = match spanDigits cs with
      | ([], _) => none
      | (ds, rest) => some ⟨ds, [], rest⟩ := by
  rw [first?_row, spanDigits_eq]
  cases cs.takeWhile isDigit <;> rfl

theorem first?_digits_of_nil (h : spanDigits cs = ([], rest)) :
    (row isDigit).first? cs = none := by
  rw [first?_digits, h]

theorem first?_digits_of_ne_nil (h : spanDigits cs = (ds, rest)) (hne : ds ≠ []) :
    (row isDigit).first? cs = some ⟨ds, [], rest⟩ := by
  rw [first?_digits, h]
  split
  · rename_i heq
    exact absurd (Prod.mk.inj heq).1 hne
  · rename_i heq
    cases heq
    rfl

theorem first?_point_both (b : Pattern) (cs : List Char) :
    (both (one (· == '.')) b).first? ('.' :: cs) = (b.first? cs).map (Match.behind '.') :=
  first?_one_both_cons _ _ _ _

theorem first?_point_both_eq_none (h : ∀ more, cs ≠ '.' :: more) (b : Pattern) :
    (both (one (· == '.')) b).first? cs = none := by
  cases cs with
  | nil => rfl
  | cons c cs =>
    rw [first?_one_both_cons, if_neg]
    exact fun hc => h cs (congrArg (· :: cs) (eq_of_beq hc))

theorem first?_fractionPattern_point (cs : List Char) :
    fractionPattern.first? ('.' :: cs) =
      some ⟨'.' :: (spanDigits cs).1, [], (spanDigits cs).2⟩ := by
  rw [fractionPattern, first?_optional_both, first?_point_both, first?_many, spanDigits_eq]
  rfl

theorem first?_fractionPattern (hdigit : ∀ c ∈ cs.head?, isDigit c = false)
    (hpoint : ∀ more, cs ≠ '.' :: more) : fractionPattern.first? cs = some (.start cs) := by
  obtain ⟨htake, hdrop⟩ := cut_iff.2 ⟨(List.nil_append cs).symm, digits_nil, hdigit⟩
  rw [fractionPattern, first?_optional_both, first?_point_both_eq_none hpoint, Option.none_or,
    first?_many, htake, hdrop]
  rfl

/-- Digits with a point in front of them are tried only where there are none without. -/
theorem first?_mantissaPattern (cs : List Char) :
    mantissaPattern.first? cs = (mantissa? cs).map fun (l, rest) => ⟨l.text, [], rest⟩ := by
  rw [mantissaPattern, first?_either]
  unfold mantissa?
  split
  · rename_i more hspan
    obtain ⟨hcs, -, -⟩ := spanDigits_eq_iff.1 hspan
    rw [first?_both_of_none (first?_digits_of_nil hspan), Option.none_or, hcs, List.nil_append,
      first?_point_both]
    split
    · rename_i hmore
      rw [first?_digits_of_nil hmore]
      rfl
    · rename_i hne hmore
      rw [first?_digits_of_ne_nil hmore hne]
      simp [Match.behind, Literal.text]
  · rename_i hpoint hspan
    obtain ⟨hcs, -, -⟩ := spanDigits_eq_iff.1 hspan
    rw [first?_both_of_none (first?_digits_of_nil hspan), Option.none_or]
    exact first?_point_both_eq_none (hcs ▸ hpoint) _
  · rename_i more hne hspan
    rw [first?_both_of_some (first?_digits_of_ne_nil hspan hne) (first?_fractionPattern_point more),
      Option.some_or]
    simp [Match.followedBy, Literal.text]
  · rename_i hne hpoint hspan
    obtain ⟨-, -, hrest⟩ := spanDigits_eq_iff.1 hspan
    rw [first?_both_of_some (first?_digits_of_ne_nil hspan hne)
      (first?_fractionPattern hrest hpoint), Option.some_or]
    simp [Match.followedBy, Match.start, Literal.text]

/-- The digits behind a sign. -/
theorem first?_signedRow (cs : List Char) :
    (both (optional (one isSign)) (row isDigit)).first? cs =
      match spanDigits (spanSign cs).2 with
      | ([], _) => none
      | (ds, rest) => some ⟨(spanSign cs).1 ++ ds, [], rest⟩ := by
  have hsigned : ∀ (c : Char) (cs : List Char), isSign c = true → isDigit c = false →
      (both (optional (one isSign)) (row isDigit)).first? (c :: cs) =
        ((row isDigit).first? cs).map (Match.behind c) := by
    intro c cs hsign hdigit
    have hspan : spanDigits (c :: cs) = ([], c :: cs) := if_neg (by simp [hdigit])
    rw [first?_optional_both, first?_one_both_cons, if_pos hsign, first?_digits_of_nil hspan,
      Option.or_none]
  rcases hspan : spanSign cs with ⟨sign, body⟩
  obtain ⟨rfl, hsign⟩ := spanSign_eq_iff.1 hspan
  dsimp only
  rcases hsign with rfl | rfl | ⟨rfl, hbody⟩
  · refine (hsigned '-' body rfl (by decide)).trans ?_
    rw [first?_digits]
    split <;> rfl
  · refine (hsigned '+' body rfl (by decide)).trans ?_
    rw [first?_digits]
    split <;> rfl
  · have hnone : (both (one isSign) (row isDigit)).first? body = none := by
      cases body with
      | nil => rfl
      | cons c body =>
        obtain ⟨hminus, hplus⟩ := hbody c rfl
        rw [first?_one_both_cons, if_neg (by simp [isSign, hminus, hplus])]
    rw [List.nil_append, first?_optional_both, hnone, Option.none_or, first?_digits]
    rfl

theorem first?_exponentPattern (cs : List Char) :
    exponentPattern.first? cs =
      (exponent? cs).map fun (mark, power, rest) => ⟨mark ++ power, [], rest⟩ := by
  cases cs with
  | nil => rfl
  | cons e cs =>
    rw [exponentPattern, first?_one_both_cons, first?_signedRow, exponent?]
    simp only [isMark, Bool.or_eq_true, beq_iff_eq]
    split
    · split <;> simp_all [Match.behind]
    · rfl

/-- Without digits behind the mark of an exponent the literal ends in front of the mark. -/
theorem first?_literalPattern (cs : List Char) :
    literalPattern.first? cs = (literal? cs).map fun (l, rest) => ⟨l.text, [], rest⟩ := by
  have hmantissa := first?_mantissaPattern cs
  unfold literal?
  split
  · rename_i hnone
    rw [hnone] at hmantissa
    exact first?_both_of_none hmantissa
  · rename_i l rest hl
    rw [hl] at hmantissa
    obtain ⟨hmark, hpower, -⟩ := mantissa?_eq_some_iff.1 hl
    rw [literalPattern, first?_both_of_some hmantissa (first?_optional _ _),
      first?_exponentPattern]
    rcases exponent? rest with _ | ⟨mark, power, after⟩
    · simp [Match.followedBy, Match.start]
    · simp [Match.followedBy, Literal.text, hmark, hpower]

/-! ## What the patterns can take -/

theorem exists_mantissa {w : List Char} (h : mantissaPattern.Writes w) :
    ∃ l : Literal, l.Proper ∧ l.mark = [] ∧ l.power = [] ∧ w = l.text := by
  rcases h with ⟨ds, _, rfl, hds, point, fraction, rfl, hpoint, hfraction⟩ |
    ⟨_, fraction, rfl, ⟨c, rfl, hc⟩, hfraction⟩
  · obtain ⟨hne, hdigits⟩ := hds.of_row
    rcases hpoint with ⟨c, rfl, hc⟩ | rfl
    · rw [eq_of_beq hc]
      exact ⟨⟨ds, true, fraction, [], []⟩,
        ⟨hdigits, hfraction, .inl hne, by rintro ⟨⟩, .inl ⟨rfl, rfl⟩⟩, rfl, rfl,
        by simp [Literal.text]⟩
    · have hall : Digits (ds ++ fraction) := List.forall_mem_append.2 ⟨hdigits, hfraction⟩
      have hne : ds ++ fraction ≠ [] := List.append_ne_nil_of_left_ne_nil hne _
      exact ⟨⟨ds ++ fraction, false, [], [], []⟩,
        ⟨hall, digits_nil, .inl hne, fun _ => rfl, .inl ⟨rfl, rfl⟩⟩, rfl, rfl,
        by simp [Literal.text]⟩
  · obtain ⟨hne, hdigits⟩ := hfraction.of_row
    rw [eq_of_beq hc]
    exact ⟨⟨[], true, fraction, [], []⟩,
      ⟨digits_nil, hdigits, .inr hne, by rintro ⟨⟩, .inl ⟨rfl, rfl⟩⟩, rfl, rfl,
      by simp [Literal.text]⟩

theorem exists_sign {w : List Char} (h : (optional (one isSign)).Writes w) :
    w ∈ [[], ['-'], ['+']] := by
  rcases h with ⟨c, rfl, hc⟩ | rfl
  · simp only [isSign, Bool.or_eq_true, beq_iff_eq] at hc
    rcases hc with rfl | rfl <;> decide
  · exact .head _

theorem exists_exponent {w : List Char} (h : exponentPattern.Writes w) :
    ∃ mark power, IsExponent mark power ∧ w = mark ++ power := by
  obtain ⟨_, _, rfl, ⟨e, rfl, he⟩, sign, power, rfl, hsign, hpower⟩ := h
  simp only [isMark, Bool.or_eq_true, beq_iff_eq] at he
  exact ⟨e :: sign, power, ⟨⟨e, sign, rfl, he, exists_sign hsign⟩, hpower.of_row⟩, by simp⟩

theorem exists_literal {w : List Char} (h : literalPattern.Writes w) :
    ∃ l : Literal, l.Proper ∧ w = l.text := by
  obtain ⟨_, _, rfl, hmantissa, hexponent⟩ := h
  obtain ⟨l, hl, hmark, hpower, rfl⟩ := exists_mantissa hmantissa
  rcases hexponent with hwrites | rfl
  · obtain ⟨mark, power, hexponent, rfl⟩ := exists_exponent hwrites
    refine ⟨{ l with mark, power }, ⟨hl.whole, hl.fraction, hl.digit, hl.point, .inr hexponent⟩, ?_⟩
    simp [Literal.text, hmark, hpower]
  · exact ⟨l, hl, List.append_nil _⟩

theorem exists_numeral {w : List Char} (h : numeralPattern.Writes w) :
    ∃ n : Numeral, n.Proper ∧ w = n.text := by
  obtain ⟨sign, _, rfl, hsign, w, _, rfl, hliteral, rfl⟩ := h
  obtain ⟨l, hl, rfl⟩ := exists_literal hliteral
  rw [List.append_nil]
  have hsign := exists_sign hsign
  simp only [List.mem_cons, List.not_mem_nil, or_false] at hsign
  rcases hsign with rfl | rfl | rfl
  · exact ⟨.bare l, hl, rfl⟩
  · exact ⟨.minus l, hl, rfl⟩
  · exact ⟨.plus l, hl, rfl⟩

theorem Literal.Proper.literal?_text {l : Literal} (hl : l.Proper) :
    literal? l.text = some (l, []) :=
  literal?_eq_some_iff.2 ⟨hl, (List.append_nil _).symm, l.ends_nil⟩

/-- What is not blank at its end matches as a numeral exactly if it is one. -/
theorem isSome_numeralPattern_iff {w : List Char} (hw : Line.Stripped w) :
    (numeralPattern.first? w).isSome ↔ ∃ n : Numeral, n.Proper ∧ w = n.text := by
  constructor
  · intro h
    obtain ⟨m, hm⟩ := Option.isSome_iff_exists.1 h
    have hways := List.mem_of_head? hm
    obtain ⟨hcut, hwrites⟩ := of_mem_ways hways
    obtain ⟨_, _, hmore, hrest⟩ := exists_second hways
    obtain ⟨_, _, hend, hlast⟩ := exists_second hmore
    rcases rest_of_mem_finish hend with he | he <;> rw [← hrest, ← hlast, he] at hcut
    · rw [List.append_nil] at hcut
      exact hcut ▸ exists_numeral hwrites
    · exact absurd (hw '\n' ⟨m.taken, hcut.symm⟩) (by decide)
  · rintro ⟨n, hn, rfl⟩
    have hbody : ∀ l : Literal, l.Proper →
        (both literalPattern finish).first? l.text = some ⟨l.text, [], []⟩ := by
      intro l hl
      have hfirst : literalPattern.first? l.text = some ⟨l.text, [], []⟩ := by
        rw [first?_literalPattern, hl.literal?_text]
        rfl
      rw [first?_both_of_some (n := .start []) hfirst rfl]
      simp [Match.followedBy, Match.start]
    rw [numeralPattern, first?_optional_both]
    cases n with
    | bare l =>
      rw [Numeral.text, hbody l hn]
      cases (both (one isSign) (both literalPattern finish)).first? l.text <;> rfl
    | plus l | minus l =>
      rw [Numeral.text, first?_one_both_cons, hbody l hn]
      rfl

/-! ## The numbers that are written -/

/-- The characters of literals beside digits. -/
def literalSigns : List Char := ['.', 'e', 'E', '-', '+']

theorem Literal.Proper.mem_text {l : Literal} (hl : l.Proper) :
    ∀ c ∈ l.text, isDigit c = true ∨ c ∈ literalSigns := by
  intro c hc
  simp only [Literal.text, List.mem_append] at hc
  rcases hc with h | h | h | h | h
  · exact .inl (hl.whole c h)
  · split at h
    · obtain rfl := List.mem_singleton.1 h
      exact .inr (by decide)
    · cases h
  · exact .inl (hl.fraction c h)
  all_goals rcases hl.exponent with ⟨hmark, hpower⟩ | ⟨⟨e, sign, hmark, he, hsign⟩, -, hpower⟩
  · rw [hmark] at h
    cases h
  · have hall : ∀ d ∈ e :: sign, d ∈ literalSigns := by
      simp only [List.mem_cons, List.not_mem_nil, or_false] at hsign
      rcases he with rfl | rfl <;> rcases hsign with rfl | rfl | rfl <;> simp [literalSigns]
    exact .inr (hall c (hmark ▸ h))
  · rw [hpower] at h
    cases h
  · exact .inl (hpower c h)

theorem Literal.Proper.isBlank {l : Literal} (hl : l.Proper) : ∀ c ∈ l.text, isBlank c = false := by
  intro c hc
  rcases hl.mem_text c hc with h | h
  · refine Bool.eq_false_iff.2 fun hb => ?_
    rw [(of_isBlank hb).1] at h
    cases h
  · simp only [literalSigns, List.mem_cons, List.not_mem_nil, or_false] at h
    rcases h with rfl | rfl | rfl | rfl | rfl <;> rfl

theorem Literal.Proper.underscore_notMem {l : Literal} (hl : l.Proper) : '_' ∉ l.text := by
  intro hmem
  rcases hl.mem_text '_' hmem with h | h <;> exact absurd h (by decide)

/-- A numeral has no blanks around it. -/
theorem Numeral.solid_text {n : Numeral} (hn : n.Proper) : Line.Solid n.text := by
  refine ⟨n.exists_text hn, fun c hc => ?_⟩
  have hmem : c ∈ n.text := hc.subset (.head _)
  cases n with
  | bare l => exact hn.isBlank c hmem
  | plus l | minus l =>
    rcases List.mem_cons.1 hmem with rfl | hmem
    · decide
    · exact hn.isBlank c hmem

theorem Literal.Proper.exists_text {l : Literal} (hl : l.Proper) :
    ∃ c more, l.text = c :: more ∧ (isDigit c = true ∨ c = '.') :=
  (Numeral.reads_literal hl).starts

theorem Literal.Proper.sign_text {l : Literal} (hl : l.Proper) : sign l.text = (false, l.text) := by
  obtain ⟨c, more, htext, hc⟩ := hl.exists_text
  rw [htext]
  unfold sign
  split
  · rename_i heq
    cases heq
    exact absurd hc (by decide)
  · rename_i heq
    cases heq
    exact absurd hc (by decide)
  · rfl

/-- The sign of a numeral is told from its literal. -/
theorem Numeral.sign_text {n : Numeral} (hn : n.Proper) :
    ∃ negative, sign n.text = (negative, n.literal.text) ∧
      n.value = if negative then -n.literal.value else n.literal.value := by
  cases n with
  | bare l => exact ⟨false, Literal.Proper.sign_text hn, rfl⟩
  | plus l => exact ⟨false, rfl, rfl⟩
  | minus l => exact ⟨true, rfl, rfl⟩

/-- Exactly the numerals with blanks around them are read as numbers. -/
theorem number?_eq_some_iff {x : Float} :
    number? cs = some x ↔ ∃ n : Numeral, n.Proper ∧ strip cs = n.text ∧ n.value = x := by
  refine ⟨number?_eq_some, ?_⟩
  rintro ⟨n, hn, hstrip, rfl⟩
  obtain ⟨negative, hsign, hvalue⟩ := n.sign_text hn
  have hliteral : literal? n.literal.text = some (n.literal, []) := hn.literal?_text
  simp only [number?, hstrip, hsign, hliteral, hvalue]

theorem withoutUnderscores?_eq (previous : Bool) (cs : List Char) (h : '_' ∉ cs) :
    withoutUnderscores? previous cs = some cs := by
  fun_induction withoutUnderscores? previous cs with
  | case1 => rfl
  | case2 previous c cs hc ih => exact absurd (.head _) h
  | case3 => exact absurd (.head _) h
  | case4 => exact absurd (.head _) h
  | case5 previous c cs _ _ ih =>
    rw [ih fun hmem => h (.tail _ hmem)]
    rfl

theorem toLower_of_digit {c : Char} (h : isDigit c = true ∨ c = '.') :
    c.toLower ≠ 'i' ∧ c.toLower ≠ 'n' := by
  have hall : ∀ n < 128, isDigit (Char.ofNat n) = true ∨ Char.ofNat n = '.' →
      (Char.ofNat n).toLower ≠ 'i' ∧ (Char.ofNat n).toLower ≠ 'n' := by decide
  rcases Nat.lt_or_ge c.toNat 128 with hc | hc
  · exact of_ascii (P := fun c => isDigit c = true ∨ c = '.' → c.toLower ≠ 'i' ∧ c.toLower ≠ 'n')
      hall hc h
  · have hsame : c.toLower = c := by
      rw [Char.toLower, dif_neg]
      rintro ⟨-, hle⟩
      exact absurd (Nat.lt_of_le_of_lt hle (by decide : _ < 128)) (Nat.not_lt.2 hc)
    rw [hsame]
    constructor <;> rintro rfl <;> exact absurd hc (by decide)

/-- What begins with a digit or a point is no word for a number. -/
theorem namedValue?_eq_none {c : Char} (hc : isDigit c = true ∨ c = '.') (cs : List Char) :
    namedValue? (c :: cs) = none := by
  have hword : ∀ s : String, s.toList.head? ≠ some c.toLower →
      (String.ofList ((c :: cs).map Char.toLower) == s) = false := by
    intro s hs
    refine beq_false_of_ne fun he => hs ?_
    rw [← he, String.toList_ofList]
    rfl
  obtain ⟨hi, hn⟩ := toLower_of_digit hc
  have hinf := hword "inf" fun h => hi (Option.some.inj h).symm
  have hinfinity := hword "infinity" fun h => hi (Option.some.inj h).symm
  have hnan := hword "nan" fun h => hn (Option.some.inj h).symm
  simp only [namedValue?, hinf, hinfinity, hnan]
  rfl

theorem trim_of_solid (h : Line.Solid cs) : trim cs = cs := by
  obtain ⟨c, more, hcs, hc⟩ := h.starts
  obtain ⟨front, d, hfront, hd⟩ := h.exists_last
  have hstart : cs.dropWhile isWhiteSpace = cs := by
    rw [hcs]
    exact List.dropWhile_cons_of_neg (by simp [isWhiteSpace, hc])
  rw [trim, hstart, hfront, List.reverse_append, List.reverse_singleton, List.singleton_append,
    List.dropWhile_cons_of_neg (by simp [isWhiteSpace, hd]), List.reverse_cons,
    List.reverse_reverse]

/-- What a caller hands over as a numeral is read as its value. -/
theorem real?_text {n : Numeral} (hn : n.Proper) : real? n.text = some n.value := by
  obtain ⟨negative, hsign, hvalue⟩ := n.sign_text hn
  have htrim := trim_of_solid (n.solid_text hn)
  have hname : namedValue? n.literal.text = none := by
    obtain ⟨c, more, htext, hc⟩ := Literal.Proper.exists_text hn
    rw [htext]
    exact namedValue?_eq_none hc more
  have hplain := withoutUnderscores?_eq false n.literal.text (Literal.Proper.underscore_notMem hn)
  have hliteral : literal? n.literal.text = some (n.literal, []) := hn.literal?_text
  simp only [real?, htrim, hsign, hname, hplain, Option.bind_some, hliteral, Option.map_some, hvalue]

/-- The number of a text is the number that is handed over, if the text has the form of one. -/
theorem number?_eq_real? (cs : List Char) :
    number? cs = if (numeralPattern.first? (strip cs)).isSome then real? (strip cs) else none := by
  have hmatch := isSome_numeralPattern_iff (Line.stripped_strip cs)
  split
  · rename_i h
    obtain ⟨n, hn, htext⟩ := hmatch.1 h
    rw [htext, real?_text hn]
    exact number?_eq_some_iff.2 ⟨n, hn, htext, rfl⟩
  · rename_i h
    refine Option.eq_none_iff_forall_ne_some.2 fun x hx => h (hmatch.2 ?_)
    obtain ⟨n, hn, htext, -⟩ := number?_eq_some_iff.1 hx
    exact ⟨n, hn, htext⟩

/-! ## The tokens of a number -/

namespace Numeral

/-- The tokens of a numeral that begins at a place, the literal directly behind the sign. -/
def placed (n : Numeral) (place : Nat) : List Placed :=
  match n with
  | bare l => [⟨.number l, place⟩]
  | plus l => [⟨.symbol .plus, place⟩, ⟨.number l, place + 1⟩]
  | minus l => [⟨.symbol .minus, place⟩, ⟨.number l, place + 1⟩]

/-- A numeral in front of blanks is cut into its tokens. -/
theorem scan_text {n : Numeral} (hn : n.Proper) {after : List Char} (hafter : Line.Blanks after)
    (place : Nat) : Lexer.scan 0 place (n.text ++ after) =
      .ok (n.placed place ++ [⟨.finish, place + (n.text ++ after).length⟩]) := by
  have hfinish : ∀ place, Lexer.scan 0 place after = .ok [⟨.finish, place + after.length⟩] := by
    intro place
    have hgap : Lexer.scan 0 place (after ++ []) = .ok [⟨.finish, place + after.length⟩] :=
      Lexer.scan_gap hafter (by rintro _ ⟨⟩) place
    rwa [List.append_nil] at hgap
  have hliteral : ∀ {l : Literal}, l.Proper → ∀ place, Lexer.scan 0 place (l.text ++ after) =
      .ok [⟨.number l, place⟩, ⟨.finish, place + (l.text ++ after).length⟩] := by
    intro l hl place
    have hends := Lexer.ends_of_isBlank (.number l) fun c hc => hafter c (List.mem_of_head? hc)
    rw [Lexer.scan_token (reads_literal hl) hends, hfinish, List.length_append, Nat.add_assoc]
    rfl
  have hsigned : ∀ {l : Literal} {s : Symbol} {c : Char}, l.Proper → s.text.toList = [c] →
      (∀ d, Lexer.longSymbol? c d = none) → Lexer.scan 0 place (c :: l.text ++ after) =
        .ok [⟨.symbol s, place⟩, ⟨.number l, place + 1⟩,
          ⟨.finish, place + (c :: l.text ++ after).length⟩] := by
    intro l s c hl hs hlong
    rw [List.cons_append, Lexer.scan_mark (t := .symbol s) trivial hs hlong, hliteral hl,
      List.length_cons, Nat.add_assoc, Nat.add_comm 1]
    rfl
  cases n with
  | bare l => exact hliteral hn place
  | plus l => exact hsigned hn rfl fun _ => rfl
  | minus l => exact hsigned hn rfl fun _ => rfl

/-- What is cut into the tokens of a numeral is the numeral with blanks around it. -/
theorem exists_of_spells {n : Numeral} {place stop : Nat} {cs : List Char}
    (h : Lexer.Spells 0 cs (n.placed place ++ [⟨.finish, stop⟩])) :
    n.Proper ∧ ∃ before after, cs = before ++ (n.text ++ after) ∧ Line.Blanks before ∧
      Line.Blanks after := by
  have hliteral : ∀ {l : Literal} {place start : Nat} {cs : List Char},
      Lexer.Spells start cs [⟨.number l, place⟩, ⟨.finish, stop⟩] →
      l.Proper ∧ ∃ before after, cs = before ++ (l.text ++ after) ∧ Line.Blanks before ∧
        Line.Blanks after ∧ place = start + before.length := by
    intro l place start cs h
    obtain ⟨before, w, after, rfl, hbefore, hplace, ⟨hl, hw⟩, hafter⟩ := h.exists_of_cons nofun
    obtain rfl : w = l.text := hw.trans String.toList_ofList
    exact ⟨hl, before, after, rfl, hbefore, hafter.blanks_of_finish, hplace⟩
  have hsigned : ∀ {l : Literal} {s : Symbol} {c : Char}, s.text.toList = [c] →
      Lexer.Spells 0 cs [⟨.symbol s, place⟩, ⟨.number l, place + 1⟩, ⟨.finish, stop⟩] →
      l.Proper ∧ ∃ before after, cs = before ++ (c :: l.text ++ after) ∧ Line.Blanks before ∧
        Line.Blanks after := by
    intro l s c hs h
    obtain ⟨before, w, rest, rfl, hbefore, -, ⟨-, hw⟩, hrest⟩ := h.exists_of_cons nofun
    obtain ⟨hl, gap, after, rfl, -, hafter, hplace⟩ := hliteral hrest
    obtain rfl : w = [c] := hw.trans hs
    -- The literal begins where the sign ends.
    obtain rfl : gap = [] := List.eq_nil_of_length_eq_zero (Nat.add_left_cancel hplace).symm
    exact ⟨hl, before, after, rfl, hbefore, hafter⟩
  cases n with
  | bare l =>
    obtain ⟨hl, before, after, hcs, hbefore, hafter, -⟩ := hliteral h
    exact ⟨hl, before, after, hcs, hbefore, hafter⟩
  | plus l => exact hsigned rfl h
  | minus l => exact hsigned rfl h

end Numeral

/-- A text is read as a number exactly if its tokens are those of one. -/
theorem number?_iff_tokenize (text : String) (x : Float) :
    number? text.toList = some x ↔ ∃ (n : Numeral) (place : Nat), n.value = x ∧
      tokenize text = .ok (n.placed place ++ [⟨.finish, text.length⟩]) := by
  constructor
  · intro h
    obtain ⟨n, hn, hstrip, hvalue⟩ := number?_eq_some_iff.1 h
    obtain ⟨before, after, htext, hbefore, hafter⟩ := Line.exists_strip text.toList
    rw [hstrip] at htext
    refine ⟨n, before.length, hvalue, ?_⟩
    have hscan : Lexer.scan 0 0 text.toList =
        .ok (n.placed before.length ++ [⟨.finish, text.length⟩]) := by
      rw [← String.length_toList, htext, Lexer.scan_gap hbefore, n.scan_text hn hafter]
      · simp
      · obtain ⟨c, more, hc, hblank⟩ := n.exists_text hn
        rw [hc]
        rintro _ ⟨⟩
        exact hblank
    rw [tokenize, hscan]
  · rintro ⟨n, place, rfl, h⟩
    obtain ⟨hn, before, after, htext, hbefore, hafter⟩ :=
      Numeral.exists_of_spells (tokenize_spells h)
    refine number?_eq_some_iff.2 ⟨n, hn, ?_, rfl⟩
    rw [htext, (n.solid_text hn).strip_eq hbefore hafter]

/-- The number of a text is read by the pattern of numerals, the numbers in an expression by the
first way to match the pattern of literals, each with the value of its spelling. A text is a number
exactly if its tokens are those of a literal, or of a sign and a literal that begins at the very
next place, and then it is the number of the literal, negated behind a minus. -/
theorem number_forms_agree :
    (∀ cs, number? cs =
      if (numeralPattern.first? (strip cs)).isSome then real? (strip cs) else none) ∧
    (∀ cs, Lexer.number? cs = none ∧ literalPattern.first? cs = none ∨
      ∃ l rest, Lexer.number? cs = some ⟨some (.number l), l.text, rest⟩ ∧
        literalPattern.first? cs = some ⟨l.text, [], rest⟩ ∧ real? l.text = some l.value) ∧
    ∀ text x, number? text.toList = some x ↔
      ∃ (n : Numeral) (place : Nat), n.value = x ∧
        tokenize text = .ok (n.placed place ++ [⟨.finish, text.length⟩]) := by
  refine ⟨number?_eq_real?, fun cs => ?_, number?_iff_tokenize⟩
  rw [Lexer.number?, first?_literalPattern]
  rcases hl : literal? cs with _ | ⟨l, rest⟩
  · exact .inl ⟨rfl, rfl⟩
  · obtain ⟨hproper, -, -⟩ := literal?_eq_some_iff.1 hl
    exact .inr ⟨l, rest, rfl, rfl, real?_text (n := .bare l) hproper⟩

end Reading

end SystemDynamics
