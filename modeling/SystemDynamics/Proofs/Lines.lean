import SystemDynamics.Declaration.Line
/-!
# What a line is

The forms of a line are described by what they are written of: keyword, blanks, name, blanks,
mark. `Line.Is` classifies a line by these forms, in the order in which they take precedence, and
`Line.is_iff` shows that reading a line finds the class it is in.

Where the description leaves it open how a line is cut into blanks, name and mark, there is only
one way: blanks, the characters of a name and the marks exclude each other. Only the value of a
constant can be cut off from the blanks before it in several ways, and a value is read without
them. Properties and points, which depend on the block around a line, are described likewise.
-/

namespace SystemDynamics

open Text

namespace Line

/-- Nothing but blanks. -/
def Blanks (cs : List Char) : Prop := ∀ c ∈ cs, isBlank c = true

/-- No blank at the end. -/
def Stripped (cs : List Char) : Prop := ∀ c, [c] <:+ cs → isBlank c = false

/-- An ASCII letter or an underscore, then letters, numbers and underscores. -/
def IsName : List Char → Prop
  | [] => False
  | c :: cs => isNameStart c = true ∧ ∀ d ∈ cs, isWordChar d = true

/-- A keyword, a name that blanks divide from it, and a mark, perhaps behind blanks. -/
def Heads (keyword : String) (mark : Char) (cs name rest : List Char) : Prop :=
  ∃ gap space, cs = keyword.toList ++ (gap ++ (name ++ (space ++ mark :: rest))) ∧
    gap ≠ [] ∧ Blanks gap ∧ IsName name ∧ Blanks space

/-- A constant: its name, an equals sign, and a value that does not go over the end of a line. -/
def WritesConstant (cs : List Char) (name : String) (value : PropertyValue) : Prop :=
  ∃ n rest space source, Heads "const" '=' cs n rest ∧ rest = space ++ source ∧ Blanks space ∧
    source ≠ [] ∧ '\n' ∉ source ∧ name = String.ofList n ∧ value = .read source

/-- The opening of a block: a name and a brace, or only a brace behind the condition's keyword. -/
def WritesOpening (cs : List Char) (kind : BlockKind) (name : String) : Prop :=
  (kind ∈ namedKinds ∧ ∃ n rest, Heads kind.name '{' cs n rest ∧ name = String.ofList n) ∨
    kind = .terminate ∧ name = "terminate" ∧
      ∃ space rest, cs = "terminate".toList ++ (space ++ '{' :: rest) ∧ Blanks space

/-- Nothing, or a comment. -/
def Ignored (cs : List Char) : Prop := cs = [] ∨ ∃ rest, cs = '/' :: '/' :: rest

/-- What a line without blanks around it is. A form counts only if none before it fits. -/
inductive Is (cs : List Char) : Line → Prop where
  | ignored : Ignored cs → Is cs .ignored
  | constant {name value} : ¬ Ignored cs → WritesConstant cs name value →
      Is cs (.constant name value)
  | opening {kind name} : ¬ Ignored cs → (∀ n v, ¬ WritesConstant cs n v) →
      WritesOpening cs kind name → Is cs (.opening kind name)
  | other : ¬ Ignored cs → (∀ n v, ¬ WritesConstant cs n v) → (∀ k n, ¬ WritesOpening cs k n) →
      Is cs .other

/-- A key before the first colon, and the value behind it. -/
def WritesProperty (cs : List Char) (key : String) (value : PropertyValue) : Prop :=
  ∃ before after, cs = before ++ ':' :: after ∧ ':' ∉ before ∧
    key = String.ofList (strip before) ∧ value = .read after

/-- Brackets around two numbers with a comma between them, and perhaps further fields, which are
not looked at. -/
def WritesCoordinates (cs : List Char) (x y : Float) (rest : List Char) : Prop :=
  ∃ f g more, cs = '[' :: (f ++ ',' :: (g ++ (more ++ ']' :: rest))) ∧
    (∀ c ∈ f, c ≠ ',' ∧ c ≠ ']') ∧ (∀ c ∈ g, c ≠ ',' ∧ c ≠ ']') ∧
    (∀ c ∈ more.head?, c = ',') ∧ ']' ∉ more ∧
    Reading.number? f = some x ∧ Reading.number? g = some y

/-- A point: coordinates, and on a surface a colon and a number behind them. -/
def WritesPoint (kind : BlockKind) (cs : List Char) (point : List Float) : Prop :=
  ∃ x y rest, WritesCoordinates cs x y rest ∧
    if kind = .lookup2d then
      ∃ space value z, rest = space ++ ':' :: value ∧ Blanks space ∧
        Reading.number? value = some z ∧ point = [x, y, z]
    else point = [x, y]

end Line

theorem BlockKind.name_injective {k k' : BlockKind} (h : k.name = k'.name) : k = k' := by
  revert h
  cases k <;> cases k' <;> decide

/-! ## Characters -/

namespace Text

theorem mem_of_inRanges {n : Nat} : ∀ {ranges : List (Nat × Nat)},
    inRanges ranges n = true → ∃ r ∈ ranges, r.1 ≤ n ∧ n ≤ r.2
  | r :: rest, h => by
    unfold inRanges at h
    split at h
    · exact ⟨r, .head _, of_decide_eq_true h, ‹_›⟩
    · obtain ⟨s, hs, hn⟩ := mem_of_inRanges h
      exact ⟨s, .tail _ hs, hn⟩

/-- The blanks one by one. -/
theorem isBlank_mem {c : Char} (h : isBlank c = true) :
    c.toNat ∈ blankRanges.flatMap fun r => List.range' r.1 (r.2 + 1 - r.1) := by
  obtain ⟨r, hr, hc⟩ := mem_of_inRanges h
  exact List.mem_flatMap.2 ⟨r, hr, List.mem_range'_1.2 (by omega)⟩

theorem isWordChar_of_isBlank {c : Char} (h : isBlank c = true) : isWordChar c = false := by
  have hall : ∀ n ∈ blankRanges.flatMap fun r => List.range' r.1 (r.2 + 1 - r.1),
      n ≠ '_'.toNat ∧ inRanges alphanumericRanges n = false := by decide +kernel
  obtain ⟨hne, hr⟩ := hall _ (isBlank_mem h)
  have hc : (c == '_') = false := beq_false_of_ne fun he => hne (congrArg Char.toNat he)
  rw [isWordChar, hc, hr]
  rfl

theorem isWordChar_of_isNameStart {c : Char} (h : isNameStart c = true) : isWordChar c = true := by
  have hall : ∀ n ∈ List.range' 65 26 ++ List.range' 97 26,
      inRanges alphanumericRanges n = true := by decide
  unfold isNameStart at h
  unfold isWordChar
  rcases Bool.or_eq_true_iff.1 h with h | h
  · have hn : c.toNat ∈ List.range' 65 26 ++ List.range' 97 26 := by
      rcases Bool.or_eq_true_iff.1 (show (c.isUpper || c.isLower) = true from h) with h | h
      · obtain ⟨hl, hu⟩ : 'A'.val ≤ c.val ∧ c.val ≤ 'Z'.val := of_decide_eq_true h
        exact List.mem_append_left _ (List.mem_range'_1.2 ⟨hl, Nat.lt_succ_of_le hu⟩)
      · obtain ⟨hl, hu⟩ := Bool.and_eq_true_iff.1 h
        exact List.mem_append_right _ (List.mem_range'_1.2
          ⟨of_decide_eq_true hl, Nat.lt_succ_of_le (of_decide_eq_true hu)⟩)
    rw [hall _ hn, Bool.or_true]
  · rw [h, Bool.true_or]

/-- Where a text is cut off behind the characters of a kind that it starts with. -/
theorem cut_iff {p : Char → Bool} {cs word rest : List Char} :
    (cs.takeWhile p = word ∧ cs.dropWhile p = rest) ↔
      cs = word ++ rest ∧ (∀ c ∈ word, p c = true) ∧ ∀ c ∈ rest.head?, p c = false := by
  constructor
  · rintro ⟨rfl, rfl⟩
    refine ⟨List.takeWhile_append_dropWhile.symm,
      fun c hc => List.all_eq_true.1 List.all_takeWhile c hc, fun c hc => ?_⟩
    have hn := List.head?_dropWhile_not p cs
    rw [hc] at hn
    simpa using hn
  · rintro ⟨rfl, hw, hr⟩
    rw [List.takeWhile_append_of_pos hw, List.dropWhile_append_of_pos hw]
    cases rest with
    | nil => exact ⟨List.append_nil _, rfl⟩
    | cons c cs =>
      have hc : ¬ p c = true := by simp [hr c rfl]
      rw [List.takeWhile_cons_of_neg hc, List.append_nil]
      exact ⟨rfl, List.dropWhile_cons_of_neg hc⟩

end Text

namespace Line

theorem stripped_strip (cs : List Char) : Stripped (strip cs) := by
  rintro c ⟨front, h⟩
  have hc := List.head?_dropWhile_not isBlank (stripLeft cs).reverse
  have hd : (stripLeft cs).reverse.dropWhile isBlank = c :: front.reverse := by
    rw [← List.reverse_reverse (List.dropWhile _ _), ← stripRight, ← strip, ← h,
      List.reverse_append, List.reverse_singleton, List.singleton_append]
  rw [hd] at hc
  simpa using hc

theorem Blanks.stripLeft_append {space rest : List Char} (h : Blanks space) :
    stripLeft (space ++ rest) = stripLeft rest :=
  List.dropWhile_append_of_pos h

theorem stripLeft_eq_cons_iff {cs rest : List Char} {c : Char} :
    stripLeft cs = c :: rest ↔ ∃ space, cs = space ++ c :: rest ∧ Blanks space ∧
      isBlank c = false := by
  constructor
  · intro h
    obtain ⟨hcs, hs, hc⟩ := cut_iff.1 ⟨rfl, h⟩
    exact ⟨_, hcs, hs, hc c rfl⟩
  · rintro ⟨space, hcs, hs, hc⟩
    exact (cut_iff.2 ⟨hcs, hs, fun d hd => by cases hd; exact hc⟩).2

/-- A text is its blanks in front and what is left without them. -/
theorem exists_stripLeft (cs : List Char) :
    ∃ space, cs = space ++ stripLeft cs ∧ Blanks space := by
  obtain ⟨hcs, hs, -⟩ := cut_iff.1 ⟨rfl, rfl⟩
  exact ⟨cs.takeWhile isBlank, hcs, hs⟩

theorem IsName.word {name : List Char} (h : IsName name) : ∀ c ∈ name, isWordChar c = true := by
  match name, h with
  | d :: ds, ⟨hd, hds⟩ =>
    intro c hc
    rcases List.mem_cons.1 hc with rfl | hc
    · exact isWordChar_of_isNameStart hd
    · exact hds c hc

/-- A name does not start with a blank, so blanks in front of it are exactly those skipped. -/
theorem IsName.stripLeft {name : List Char} (h : IsName name) (rest : List Char) :
    Text.stripLeft (name ++ rest) = name ++ rest := by
  match name, h with
  | d :: ds, h =>
    refine List.dropWhile_cons_of_neg fun hb => ?_
    have hw := h.word d (.head _)
    rw [isWordChar_of_isBlank hb] at hw
    exact nomatch hw

/-! ## The forms of a line -/

theorem after?_eq_some_iff : ∀ {word cs rest : List Char},
    after? word cs = some rest ↔ cs = word ++ rest
  | [], cs, rest => by simp [after?]
  | w :: ws, [], rest => by simp [after?]
  | w :: ws, c :: cs, rest => by
    unfold after?
    split
    · rename_i hw
      rw [after?_eq_some_iff, hw, List.cons_append, List.cons.injEq]
      exact (and_iff_right rfl).symm
    · rename_i hw
      refine ⟨nofun, fun h => absurd ?_ hw⟩
      rw [List.cons_append, List.cons.injEq] at h
      exact h.1.symm

theorem afterKeyword?_eq_some_iff {keyword : String} {cs body : List Char} :
    afterKeyword? keyword cs = some body ↔ ∃ gap, cs = keyword.toList ++ (gap ++ body) ∧
      gap ≠ [] ∧ Blanks gap ∧ stripLeft body = body := by
  constructor
  · intro h
    unfold afterKeyword? at h
    split at h
    · rename_i c rest hcs
      split at h
      · rename_i hc
        cases h
        obtain ⟨space, hr, hs⟩ := exists_stripLeft rest
        refine ⟨c :: space, ?_, List.cons_ne_nil _ _, ?_, ?_⟩
        · rw [List.cons_append, ← hr]
          exact after?_eq_some_iff.1 hcs
        · exact List.forall_mem_cons.2 ⟨hc, hs⟩
        · rw [← hs.stripLeft_append, ← hr]
      · exact nomatch h
    · exact nomatch h
  · rintro ⟨gap, rfl, hne, hg, hb⟩
    match gap, hne, hg with
    | c :: gap, _, hg =>
      obtain ⟨hc, hg⟩ := List.forall_mem_cons.1 hg
      rw [afterKeyword?, after?_eq_some_iff.2 rfl]
      simp only [List.cons_append, hc, if_true]
      rw [Blanks.stripLeft_append hg, hb]

theorem name?_eq_some_iff {cs name rest : List Char} :
    name? cs = some (name, rest) ↔ cs = name ++ rest ∧ IsName name ∧
      ∀ c ∈ rest.head?, isWordChar c = false := by
  constructor
  · intro h
    unfold name? at h
    split at h
    · exact nomatch h
    · rename_i c cs
      split at h
      · rename_i hc
        cases h
        obtain ⟨hcs, hw, hr⟩ := cut_iff.1
          (⟨rfl, rfl⟩ : cs.takeWhile isWordChar = _ ∧ cs.dropWhile isWordChar = _)
        exact ⟨by rw [List.cons_append, ← hcs], ⟨hc, hw⟩, hr⟩
      · exact nomatch h
  · rintro ⟨rfl, hn, hr⟩
    match name, hn with
    | c :: cs, ⟨hc, hcs⟩ =>
      obtain ⟨ht, hd⟩ := cut_iff.2 ⟨rfl, hcs, hr⟩
      simp only [List.cons_append, name?, hc, if_true, ht, hd]

/-- The two marks are neither blanks nor parts of a name, so that the name before one of them and
the blanks around it are fixed. -/
theorem heads_iff {keyword : String} {mark : Char} {cs name rest : List Char}
    (hb : isBlank mark = false) (hw : isWordChar mark = false) :
    Heads keyword mark cs name rest ↔ ∃ tail,
      (afterKeyword? keyword cs).bind name? = some (name, tail) ∧
        stripLeft tail = mark :: rest := by
  constructor
  · rintro ⟨gap, space, rfl, hne, hg, hn, hs⟩
    refine ⟨space ++ mark :: rest, ?_, stripLeft_eq_cons_iff.2 ⟨space, rfl, hs, hb⟩⟩
    rw [afterKeyword?_eq_some_iff.2 ⟨gap, rfl, hne, hg, hn.stripLeft _⟩, Option.bind_some]
    refine name?_eq_some_iff.2 ⟨rfl, hn, fun c hc => ?_⟩
    cases space with
    | nil => cases hc; exact hw
    | cons d ds => cases hc; exact isWordChar_of_isBlank (hs _ (.head _))
  · rintro ⟨tail, hh, ht⟩
    obtain ⟨body, hk, hn⟩ := Option.bind_eq_some_iff.1 hh
    obtain ⟨gap, rfl, hne, hg, -⟩ := afterKeyword?_eq_some_iff.1 hk
    obtain ⟨rfl, hname, -⟩ := name?_eq_some_iff.1 hn
    obtain ⟨space, rfl, hs, -⟩ := stripLeft_eq_cons_iff.1 ht
    exact ⟨gap, space, rfl, hne, hg, hname, hs⟩

/-! ## Constants -/

/-- Blanks in front of a value do not count. -/
theorem Blanks.read_append {space : List Char} (h : Blanks space) (source : List Char) :
    PropertyValue.read (space ++ source) = .read source := by
  unfold PropertyValue.read
  rw [strip, h.stripLeft_append, strip]

theorem Heads.rest_suffix {keyword : String} {mark : Char} {cs name rest : List Char}
    (h : Heads keyword mark cs name rest) : rest <:+ cs := by
  obtain ⟨gap, space, rfl, -⟩ := h
  refine ⟨keyword.toList ++ gap ++ name ++ space ++ [mark], ?_⟩
  simp only [List.append_assoc, List.singleton_append]

variable {cs : List Char}

/-- The rest of a line behind an equals sign could be read as a value of blanks alone; a line
without blanks at its end has no such rest. -/
theorem constant?_eq_some_iff (hc : Stripped cs) {name : String} {value : PropertyValue} :
    constant? cs = some (name, value) ↔ WritesConstant cs name value := by
  constructor
  · intro h
    unfold constant? at h
    split at h
    · exact nomatch h
    · rename_i n tail hh
      split at h
      · rename_i rest ht
        obtain ⟨space, hr, hs⟩ := exists_stripLeft rest
        dsimp only at h
        split at h
        · exact nomatch h
        · rename_i hv
          cases h
          simp only [Bool.or_eq_true, List.isEmpty_iff, List.contains_iff_mem, not_or] at hv
          exact ⟨n, rest, space, stripLeft rest, (heads_iff rfl rfl).2 ⟨tail, hh, ht⟩, hr, hs, hv.1,
            hv.2, rfl, rfl⟩
      · exact nomatch h
  · rintro ⟨n, rest, space, source, hH, rfl, hs, hne, hl, rfl, rfl⟩
    obtain ⟨tail, hh, ht⟩ := (heads_iff rfl rfl).1 hH
    obtain ⟨more, hm, hmore⟩ := exists_stripLeft source
    have hv : stripLeft source ≠ [] := by
      intro h0
      rw [h0, List.append_nil] at hm
      have hlast : [source.getLast hne] <:+ source :=
        ⟨source.dropLast, List.dropLast_concat_getLast hne⟩
      have hb := hmore (source.getLast hne) (by rw [← hm]; exact List.getLast_mem hne)
      rw [hc _ ((hlast.trans (List.suffix_append _ _)).trans hH.rest_suffix)] at hb
      exact nomatch hb
    have hn : '\n' ∉ stripLeft source := fun h => hl (hm ▸ List.mem_append_right _ h)
    unfold constant?
    simp only [hh, ht, hs.stripLeft_append]
    rw [if_neg (by simpa using ⟨hv, hn⟩), ← hmore.read_append, ← hm]

/-! ## Openings -/

theorem openingOf?_eq_some_iff {kind k : BlockKind} {name : String} :
    openingOf? cs kind = some (k, name) ↔
      k = kind ∧ ∃ n rest, Heads kind.name '{' cs n rest ∧ name = String.ofList n := by
  constructor
  · intro h
    unfold openingOf? at h
    split at h
    · exact nomatch h
    · rename_i n tail hh
      split at h
      · rename_i rest ht
        cases h
        exact ⟨rfl, n, rest, (heads_iff rfl rfl).2 ⟨tail, hh, ht⟩, rfl⟩
      · exact nomatch h
  · rintro ⟨rfl, n, rest, hH, rfl⟩
    obtain ⟨tail, hh, ht⟩ := (heads_iff rfl rfl).1 hH
    simp only [openingOf?, hh, ht]

theorem terminateOpening?_eq_some_iff {k : BlockKind} {name : String} :
    terminateOpening? cs = some (k, name) ↔ k = .terminate ∧ name = "terminate" ∧
      ∃ space rest, cs = "terminate".toList ++ (space ++ '{' :: rest) ∧ Blanks space := by
  constructor
  · intro h
    unfold terminateOpening? at h
    split at h
    · rename_i rest ht
      cases h
      obtain ⟨tail, ha, ht⟩ := Option.map_eq_some_iff.1 ht
      obtain ⟨space, rfl, hs, -⟩ := stripLeft_eq_cons_iff.1 ht
      exact ⟨rfl, rfl, space, rest, after?_eq_some_iff.1 ha, hs⟩
    · exact nomatch h
  · rintro ⟨rfl, rfl, space, rest, rfl, hs⟩
    have ha : after? BlockKind.terminate.name.toList
        ("terminate".toList ++ (space ++ '{' :: rest)) = some (space ++ '{' :: rest) :=
      after?_eq_some_iff.2 rfl
    rw [terminateOpening?, ha, Option.map_some, stripLeft_eq_cons_iff.2 ⟨space, rfl, hs, rfl⟩]
    rfl

/-- The keyword of an opening is the text up to the first blank or brace. -/
theorem WritesOpening.keyword {kind : BlockKind} {name : String}
    (h : WritesOpening cs kind name) :
    cs.takeWhile (fun c => !isBlank c && c != '{') = kind.name.toList := by
  have hk : ∀ c ∈ kind.name.toList, (!isBlank c && c != '{') = true :=
    List.all_eq_true.1 (by cases kind <;> decide)
  rcases h with ⟨-, n, rest, ⟨gap, space, hcs, hne, hg, -⟩, -⟩ | ⟨rfl, -, space, rest, hcs, hs⟩
  · match gap, hne, hg with
    | d :: gap, _, hg =>
      refine (cut_iff.2 ⟨hcs, hk, fun c hc => ?_⟩).1
      cases hc
      rw [hg _ (.head _)]
      rfl
  · refine (cut_iff.2 ⟨hcs, hk, fun c hc => ?_⟩).1
    cases space with
    | nil => cases hc; rfl
    | cons d space =>
      cases hc
      rw [hs _ (.head _)]
      rfl

theorem WritesOpening.unique {k k' : BlockKind} {n n' : String} (h : WritesOpening cs k n)
    (h' : WritesOpening cs k' n') : (k, n) = (k', n') := by
  obtain rfl : k = k' :=
    BlockKind.name_injective (String.toList_inj.1 (h.keyword.symm.trans h'.keyword))
  rcases h with ⟨hm, m, rest, hH, rfl⟩ | ⟨rfl, rfl, -⟩
  · rcases h' with ⟨-, m', rest', hH', rfl⟩ | ⟨rfl, -⟩
    · obtain ⟨tail, hh, -⟩ := (heads_iff rfl rfl).1 hH
      obtain ⟨tail', hh', -⟩ := (heads_iff rfl rfl).1 hH'
      rw [hh] at hh'
      cases hh'
      rfl
    · exact absurd hm (by decide)
  · rcases h' with ⟨hm, -⟩ | ⟨-, rfl, -⟩
    · exact absurd hm (by decide)
    · rfl

/-- Reading takes the first kind that fits; as the keyword of an opening is fixed, no other
fits. -/
theorem opening?_eq_some_iff {kind : BlockKind} {name : String} :
    opening? cs = some (kind, name) ↔ WritesOpening cs kind name := by
  have sound : ∀ {k n}, opening? cs = some (k, n) → WritesOpening cs k n := by
    intro k n h
    rcases Option.or_eq_some_iff.1 h with h | ⟨-, h⟩
    · obtain ⟨kind, hm, h⟩ := List.exists_of_findSome?_eq_some h
      obtain ⟨rfl, h⟩ := openingOf?_eq_some_iff.1 h
      exact .inl ⟨hm, h⟩
    · exact .inr (terminateOpening?_eq_some_iff.1 h)
  refine ⟨sound, fun h => ?_⟩
  have hs : (opening? cs).isSome := by
    rw [opening?, Option.isSome_or, Bool.or_eq_true]
    rcases h with ⟨hm, h⟩ | h
    · refine .inl (List.findSome?_isSome_iff.2 ⟨kind, hm, ?_⟩)
      rw [openingOf?_eq_some_iff.2 ⟨rfl, h⟩]
      rfl
    · rw [terminateOpening?_eq_some_iff.2 h]
      exact .inr rfl
  obtain ⟨⟨k, n⟩, he⟩ := Option.isSome_iff_exists.1 hs
  rw [he, (sound he).unique h]

/-! ## Properties -/

/-- Where a text is cut off before a mark. -/
theorem cut_at_iff {mark : Char} {cs word rest : List Char} :
    (cs.takeWhile (· ≠ mark) = word ∧ cs.dropWhile (· ≠ mark) = rest) ↔
      cs = word ++ rest ∧ mark ∉ word ∧ ∀ c ∈ rest.head?, c = mark := by
  rw [cut_iff]
  simp only [ne_eq, decide_not, Bool.not_eq_true', decide_eq_false_iff_not, Bool.not_eq_false',
    decide_eq_true_eq]
  exact and_congr_right fun _ => and_congr_left fun _ =>
    ⟨fun h hm => h mark hm rfl, fun h c hc he => h (he ▸ hc)⟩

theorem property?_eq_some_iff {key : String} {value : PropertyValue} :
    property? cs = some (key, value) ↔ WritesProperty cs key value := by
  constructor
  · intro h
    unfold property? at h
    split at h
    · exact nomatch h
    · rename_i c after hd
      cases h
      obtain ⟨hcs, hb, hc⟩ := cut_at_iff.1 ⟨rfl, hd⟩
      obtain rfl := hc c rfl
      exact ⟨_, after, hcs, hb, rfl, rfl⟩
  · rintro ⟨before, after, hcs, hb, rfl, rfl⟩
    obtain ⟨ht, hd⟩ := cut_at_iff.2 ⟨hcs, hb, fun c hc => (Option.some.inj hc).symm⟩
    unfold property?
    rw [hd, ht]

/-! ## Points -/

theorem fields_ne_nil : ∀ cs : List Char, fields cs ≠ []
  | [] => List.cons_ne_nil _ _
  | c :: cs => by
    unfold fields
    split
    · exact List.cons_ne_nil _ _
    · split <;> exact List.cons_ne_nil _ _

theorem fields_comma (cs : List Char) : fields (',' :: cs) = [] :: fields cs := by
  obtain ⟨f, fs, h⟩ := List.exists_cons_of_ne_nil (fields_ne_nil cs)
  rw [fields, h]
  rfl

theorem fields_cons {c : Char} {f : List Char} {fs : List (List Char)} (hc : c ≠ ',')
    (h : fields cs = f :: fs) : fields (c :: cs) = (c :: f) :: fs := by
  rw [fields, h]
  exact if_neg hc

/-- The fields of a text are what stands before its first comma and the fields behind it. -/
theorem fields_eq (cs : List Char) :
    fields cs = cs.takeWhile (· ≠ ',') ::
      match cs.dropWhile (· ≠ ',') with
      | [] => []
      | _ :: rest => fields rest := by
  induction cs with
  | nil => rfl
  | cons c cs ih =>
    by_cases hc : c = ','
    · subst hc
      exact fields_comma cs
    · rw [fields_cons hc ih, List.takeWhile_cons_of_pos (by simpa using hc),
        List.dropWhile_cons_of_pos (by simpa using hc)]

theorem exists_fields_iff {f g : List Char} :
    (∃ more, fields cs = f :: g :: more) ↔
      ∃ more, cs = f ++ ',' :: (g ++ more) ∧ ',' ∉ f ∧ ',' ∉ g ∧ ∀ c ∈ more.head?, c = ',' := by
  constructor
  · rintro ⟨more, h⟩
    rw [fields_eq] at h
    obtain ⟨hf, h⟩ := List.cons.inj h
    split at h
    · exact nomatch h
    · rename_i c rest hd
      obtain ⟨hcs, hf, hc⟩ := cut_at_iff.1 ⟨hf, hd⟩
      obtain rfl := hc c rfl
      rw [fields_eq] at h
      obtain ⟨hrest, hg, hm⟩ := cut_at_iff.1 ⟨(List.cons.inj h).1, rfl⟩
      exact ⟨_, by rw [hcs, ← hrest], hf, hg, hm⟩
  · rintro ⟨more, hcs, hf, hg, hm⟩
    obtain ⟨ht, hd⟩ := cut_at_iff.2 ⟨hcs, hf, fun c hc => (Option.some.inj hc).symm⟩
    obtain ⟨hg, -⟩ := cut_at_iff.2 ⟨rfl, hg, hm⟩
    rw [fields_eq, ht, hd]
    dsimp only
    rw [fields_eq, hg]
    exact ⟨_, rfl⟩

theorem coordinates?_eq_some_iff {x y : Float} {rest : List Char} :
    coordinates? cs = some (x, y, rest) ↔ WritesCoordinates cs x y rest := by
  constructor
  · intro h
    unfold coordinates? at h
    split at h
    · rename_i body
      split at h
      · exact nomatch h
      · rename_i c tail hd
        split at h
        · rename_i f g more hf
          split at h
          · rename_i a b ha hb
            cases h
            obtain ⟨hbody, hin, hc⟩ := cut_at_iff.1 ⟨rfl, hd⟩
            obtain rfl := hc c rfl
            obtain ⟨more, hins, hf, hg, hm⟩ := exists_fields_iff.1 ⟨_, hf⟩
            rw [hins] at hbody hin
            simp only [List.mem_append, List.mem_cons, not_or] at hin
            refine ⟨f, g, more, ?_, fun c hc => ⟨?_, ?_⟩, fun c hc => ⟨?_, ?_⟩, hm, hin.2.2.2, ha, hb⟩
            · rw [hbody]
              simp only [List.append_assoc, List.cons_append]
            · exact fun he => hf (he ▸ hc)
            · exact fun he => hin.1 (he ▸ hc)
            · exact fun he => hg (he ▸ hc)
            · exact fun he => hin.2.2.1 (he ▸ hc)
          · exact nomatch h
        · exact nomatch h
    · exact nomatch h
  · rintro ⟨f, g, more, rfl, hf, hg, hm, hmore, hx, hy⟩
    have hin : ']' ∉ f ++ ',' :: (g ++ more) := by
      simp only [List.mem_append, List.mem_cons, not_or]
      exact ⟨fun h => (hf _ h).2 rfl, by decide, fun h => (hg _ h).2 rfl, hmore⟩
    obtain ⟨ht, hd⟩ := cut_at_iff.2
      ⟨(by simp only [List.append_assoc, List.cons_append] :
          f ++ ',' :: (g ++ (more ++ ']' :: rest)) = (f ++ ',' :: (g ++ more)) ++ ']' :: rest),
        hin, fun c hc => (Option.some.inj hc).symm⟩
    obtain ⟨tail, hfields⟩ := exists_fields_iff.2
      ⟨more, rfl, fun h => (hf _ h).1 rfl, fun h => (hg _ h).1 rfl, hm⟩
    unfold coordinates?
    simp only [hd, ht, hfields, hx, hy]

theorem point?_eq_some_iff {kind : BlockKind} {point : List Float} :
    point? kind cs = some point ↔ WritesPoint kind cs point := by
  constructor
  · intro h
    unfold point? at h
    split at h
    · exact nomatch h
    · rename_i x y rest hc
      refine ⟨x, y, rest, coordinates?_eq_some_iff.1 hc, ?_⟩
      split at h
      · rename_i hk
        rw [if_pos hk]
        split at h
        · rename_i value hv
          obtain ⟨z, hz, rfl⟩ := Option.map_eq_some_iff.1 h
          obtain ⟨space, rfl, hs, -⟩ := stripLeft_eq_cons_iff.1 hv
          exact ⟨space, value, z, rfl, hs, hz, rfl⟩
        · exact nomatch h
      · rename_i hk
        rw [if_neg hk]
        exact (Option.some.inj h).symm
  · rintro ⟨x, y, rest, hc, h⟩
    simp only [point?, coordinates?_eq_some_iff.2 hc]
    split at h
    · rename_i hk
      obtain ⟨space, value, z, rfl, hs, hz, rfl⟩ := h
      rw [if_pos hk, stripLeft_eq_cons_iff.2 ⟨space, rfl, hs, rfl⟩]
      simp only [hz, Option.map_some]
    · rename_i hk
      rw [if_neg hk, h]

/-! ## Every form -/

theorem isIgnored_iff : isIgnored cs = true ↔ Ignored cs := by
  constructor
  · intro h
    unfold isIgnored at h
    split at h
    · exact .inl rfl
    · exact .inr ⟨_, rfl⟩
    · exact nomatch h
  · rintro (rfl | ⟨rest, rfl⟩) <;> rfl

/-- The classes exclude each other in their order, as those of reading do. -/
theorem is_iff (hc : Stripped cs) {l : Line} :
    Is cs l ↔ read cs = l := by
  have hconst : constant? cs = none ↔ ∀ n v, ¬ WritesConstant cs n v := by
    simp only [Option.eq_none_iff_forall_ne_some, Prod.forall, ne_eq, constant?_eq_some_iff hc]
  have hopen : opening? cs = none ↔ ∀ k n, ¬ WritesOpening cs k n := by
    simp only [Option.eq_none_iff_forall_ne_some, Prod.forall, ne_eq, opening?_eq_some_iff]
  constructor
  · intro h
    cases h with
    | ignored hi => rw [read, if_pos (isIgnored_iff.2 hi)]
    | constant hi hw =>
      rw [read, if_neg (mt isIgnored_iff.1 hi), (constant?_eq_some_iff hc).2 hw]
    | opening hi hw ho =>
      rw [read, if_neg (mt isIgnored_iff.1 hi), hconst.2 hw, opening?_eq_some_iff.2 ho]
    | other hi hw ho => rw [read, if_neg (mt isIgnored_iff.1 hi), hconst.2 hw, hopen.2 ho]
  · rintro rfl
    unfold read
    split
    · exact .ignored (isIgnored_iff.1 ‹_›)
    · have hi := mt isIgnored_iff.2 ‹_›
      split
      · exact .constant hi ((constant?_eq_some_iff hc).1 ‹_›)
      · exact .opening hi (hconst.1 ‹_›) (opening?_eq_some_iff.1 ‹_›)
      · exact .other hi (hconst.1 ‹_›) (hopen.1 ‹_›)

end Line

end SystemDynamics
