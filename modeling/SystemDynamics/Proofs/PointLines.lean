import SystemDynamics.Proofs.Patterns
import SystemDynamics.Proofs.Numerals

/-!
# Lines with points

A point is found by a pattern (`Line.pointPattern`) that marks the texts of its numbers: two fields
between brackets with a comma between them, and on a surface the rest of the line behind a colon.
Matching it is no more than dividing the text between the brackets at its commas
(`Line.point?_splitOn`). A field goes as far as it can, since what follows it cannot begin in it or
does not care where it begins (`Pattern.Skips`). Only a field that is all blank is told apart: the
pattern gives one of the blanks in front of it back, so that it has something to mark, and this is
no number either (`Pattern.Skips.numbers?_blanks_row`).
-/

namespace SystemDynamics

open Text

/-! ## Numbers that are marked -/

namespace Reading

theorem number?_nil : number? [] = none := rfl

/-- A blank in front of a number does not count. -/
theorem number?_cons_of_isBlank {c : Char} (h : isBlank c = true) (cs : List Char) :
    number? (c :: cs) = number? cs := by
  unfold number?
  rw [strip, stripLeft, List.dropWhile_cons_of_pos h, strip, stripLeft]

/-- The numbers that texts write, if each writes one. -/
def numbers? (texts : List (List Char)) : Option (List Float) := texts.mapM number?

theorem numbers?_cons (text : List Char) (texts : List (List Char)) :
    numbers? (text :: texts) =
      (number? text).bind fun x => (numbers? texts).map (x :: ·) := by
  rw [numbers?, List.mapM_cons]
  rcases number? text with _ | x
  · rfl
  · rw [numbers?]
    rcases texts.mapM number? with _ | xs <;> rfl

end Reading

open Reading

namespace Pattern

/-- The numbers that a pattern marks, if all that it marks is a number. -/
def numbers? (a : Pattern) (cs : List Char) : Option (List Float) :=
  (a.groups? cs).bind Reading.numbers?

variable {p : Char → Bool} {b : Pattern} {cs : List Char}

theorem numbers?_one_cons (p : Char → Bool) (b : Pattern) (c : Char) (cs : List Char) :
    (both (one p) b).numbers? (c :: cs) = if p c then b.numbers? cs else none := by
  rw [numbers?, groups?_one_cons]
  split <;> rfl

theorem Skips.numbers?_row (h : Skips p b) (cs : List Char) :
    (both (group (row p)) b).numbers? cs =
      (number? (cs.takeWhile p)).bind fun x => (b.numbers? (cs.dropWhile p)).map (x :: ·) := by
  rw [numbers?, h.groups?_row]
  split
  · rename_i hnone
    rw [hnone, number?_nil]
    rfl
  · rw [numbers?, Option.bind_map]
    rcases b.groups? (cs.dropWhile p) with _ | gs
    · simp
    · simp [numbers?_cons, Function.comp_apply]

/-- Blanks in front of a marked row belong to the row or not: they do not count for its number. If
the row is all blank the pattern gives one of them back for it, which is no number. -/
theorem Skips.numbers?_blanks_row (h : Skips p b) : ∀ cs : List Char,
    (∀ c ∈ cs, isBlank c = true → p c = true) →
    (both (.many isBlank) (both (.group (.row p)) b)).numbers? cs =
      (number? (cs.takeWhile p)).bind fun x => (b.numbers? (cs.dropWhile p)).map (x :: ·)
  | [], _ => rfl
  | c :: cs, hblank => by
    have hrow := h.numbers?_row (c :: cs)
    rw [numbers?, groups?_many_cons]
    split
    · rename_i hc
      have hp := hblank c (.head _) hc
      have hmore := h.numbers?_blanks_row cs fun d hd => hblank d (.tail _ hd)
      rw [numbers?] at hmore
      rcases hfound : (both (.many isBlank) (both (.group (.row p)) b)).groups? cs with _ | gs
      · rw [Option.none_or]
        exact hrow
      · rw [Option.some_or, ← hfound, hmore, List.takeWhile_cons_of_pos hp,
          List.dropWhile_cons_of_pos hp, number?_cons_of_isBlank hc]
    · exact hrow

end Pattern

/-! ## The patterns of a line -/

namespace Line

/-- The characters of a field in brackets. -/
def inField (c : Char) : Bool := c != ',' && c != ']'

/-- The characters between brackets. -/
def inBrackets (c : Char) : Bool := c != ']'

/-- The characters of a line. -/
def inLine (c : Char) : Bool := c != '\n'

/-- Brackets around two fields with a comma between them, and whatever follows in them. -/
def bracketParts : List Pattern :=
  [.one (· == '['), .group (.row inField), .one (· == ','), .many isBlank, .group (.row inField),
    .many inBrackets, .one (· == ']')]

/-- A colon, perhaps between blanks, and the rest of the line. -/
def valueParts : List Pattern :=
  [.many isBlank, .one (· == ':'), .many isBlank, .group (.row inLine), .finish]

/-- What a line has to match that gives a point in a block of a kind. -/
def pointPattern (kind : BlockKind) : Pattern :=
  .seq (bracketParts ++ if kind = .lookup2d then valueParts else [])

/-- The text of the value behind the brackets: on a surface what stands behind the colon. -/
def valueTexts? (kind : BlockKind) (after : List Char) : Option (List (List Char)) :=
  if kind = .lookup2d then
    if (stripLeft after).head? = some ':' then some [(stripLeft after).tail] else none
  else some []

/-- The texts that have to be numbers, by the fields in the brackets and what follows these. -/
def pointTexts? (kind : BlockKind) (fields : List (List Char)) (after : List Char) :
    Option (List (List Char)) :=
  match fields with
  | f :: g :: _ => (valueTexts? kind after).map fun v => f :: g :: v
  | _ => none

theorem cut_all {p : Char → Bool} {cs : List Char} (h : ∀ c ∈ cs, p c = true) :
    cs.takeWhile p = cs ∧ cs.dropWhile p = [] :=
  cut_iff.2 ⟨(List.append_nil cs).symm, h, nofun⟩

theorem numbers?_pointTexts (kind : BlockKind) (f g : List Char) (more : List (List Char))
    (after : List Char) :
    (pointTexts? kind (f :: g :: more) after).bind numbers? =
      (number? f).bind fun x => (number? g).bind fun y =>
        ((valueTexts? kind after).bind numbers?).map fun zs => x :: y :: zs := by
  rw [pointTexts?]
  rcases valueTexts? kind after with _ | texts
  · simp
  · simp [numbers?_cons, Function.comp_def]

theorem splitOn_comma_eq (cs : List Char) : cs.splitOn ',' = fields cs := by
  induction cs with
  | nil => rfl
  | cons c cs ih =>
    rw [List.splitOn, List.splitOnP_cons_eq_if_modifyHead, ← List.splitOn, ih, fields]
    obtain ⟨f, fs, hfields⟩ := List.exists_cons_of_ne_nil (fields_ne_nil cs)
    simp [hfields]

section Value

variable {kind : BlockKind} {after : List Char}

theorem skips_inLine_finish : Pattern.Skips inLine (.both .finish .empty) := by
  intro c cs hc
  have hne : c ≠ '\n' := by simpa [inLine] using hc
  simp [Pattern.groups?, Pattern.first?, hne]

/-- A number that takes the rest of a line, perhaps behind blanks. -/
theorem numbers?_lineEnd {value : List Char} (hline : '\n' ∉ value) :
    (Pattern.seq [.many isBlank, .group (.row inLine), .finish]).numbers? value =
      numbers? [value] := by
  have hin : ∀ c ∈ value, inLine c = true := fun c hc => by
    simpa [inLine] using fun he : c = '\n' => hline (he ▸ hc)
  obtain ⟨htake, hdrop⟩ := cut_all hin
  have hend : (Pattern.both .finish .empty).numbers? [] = some [] := rfl
  refine (skips_inLine_finish.numbers?_blanks_row value fun c hc _ => hin c hc).trans ?_
  rw [htake, hdrop, hend, numbers?_cons]
  rfl

/-- Behind the brackets the pattern marks the value. -/
theorem numbers?_valueParts (hline : '\n' ∉ after) :
    (Pattern.seq (if kind = .lookup2d then valueParts else [])).numbers? after =
      (valueTexts? kind after).bind numbers? := by
  unfold valueTexts?
  split
  · have hcolon : ∀ c, isBlank c = true → (c == ':') = false := by
      rintro c hc
      exact beq_false_of_ne fun he => absurd (he ▸ hc) (by decide)
    have hskips := Pattern.skips_one hcolon
      (Pattern.seq [.many isBlank, .group (.row inLine), .finish])
    have hgroups := hskips.groups?_many after
    rw [← stripLeft] at hgroups
    obtain ⟨space, hspace, -⟩ := exists_stripLeft after
    rw [Pattern.numbers?, valueParts]
    refine (congrArg (Option.bind · _) hgroups).trans ?_
    rcases hrest : stripLeft after with _ | ⟨c, value⟩
    · rfl
    · rw [Pattern.groups?_one_cons]
      by_cases hc : c = ':'
      · subst hc
        have hvalue : '\n' ∉ value := fun h => hline (by
          rw [hspace, hrest]
          exact List.mem_append_right _ (.tail _ h))
        exact numbers?_lineEnd hvalue
      · rw [if_neg (by simpa using hc), List.head?_cons,
          if_neg fun h => hc (Option.some.inj h)]
  · rfl

end Value

section Brackets

variable {cs after : List Char}

/-- The first field of a text in brackets goes up to its first comma. -/
theorem cut_inField (h : ']' ∉ cs) (after : List Char) :
    (cs ++ ']' :: after).takeWhile inField = cs.takeWhile (· ≠ ',') ∧
      (cs ++ ']' :: after).dropWhile inField = cs.dropWhile (· ≠ ',') ++ ']' :: after := by
  obtain ⟨hcs, htake, hdrop⟩ := cut_at_iff.1 (⟨rfl, rfl⟩ :
    cs.takeWhile (· ≠ ',') = _ ∧ cs.dropWhile (· ≠ ',') = _)
  refine cut_iff.2 ⟨by rw [← List.append_assoc, ← hcs], fun c hc => ?_, fun c hc => ?_⟩
  · have hcomma : c ≠ ',' := fun he => htake (he ▸ hc)
    have hclose : c ≠ ']' := fun he => h (he ▸ List.takeWhile_subset _ hc)
    simp [inField, hcomma, hclose]
  · rcases hrest : cs.dropWhile (· ≠ ',') with _ | ⟨d, ds⟩ <;> rw [hrest] at hc hdrop <;> cases hc
    · rfl
    · rw [hdrop c rfl]
      rfl

theorem cut_inBrackets (h : ']' ∉ cs) (after : List Char) :
    (cs ++ ']' :: after).dropWhile inBrackets = ']' :: after := by
  refine (cut_iff.2 ⟨rfl, fun c hc => ?_, fun c hc => ?_⟩).2
  · simpa [inBrackets] using fun he : c = ']' => h (he ▸ hc)
  · cases hc
    rfl

end Brackets

/-! ## What a line marks -/

section Points

variable (kind : BlockKind)

/-- What a line has to match behind the second field. -/
def closingPattern : Pattern :=
  .both (.many inBrackets)
    (.both (.one (· == ']')) (.seq (if kind = .lookup2d then valueParts else [])))

/-- What a line has to match behind the comma. -/
def secondPattern : Pattern :=
  .both (.many isBlank) (.both (.group (.row inField)) (closingPattern kind))

theorem pointPattern_eq : pointPattern kind =
    .both (.one (· == '[')) (.both (.group (.row inField))
      (.both (.one (· == ',')) (secondPattern kind))) := rfl

theorem numbers?_closingPattern (cs : List Char) :
    (closingPattern kind).numbers? cs =
      (Pattern.both (.one (· == ']')) (.seq (if kind = .lookup2d then valueParts else []))).numbers?
        (cs.dropWhile inBrackets) := by
  have hskips : Pattern.Skips inBrackets
      (.both (.one (· == ']')) (.seq (if kind = .lookup2d then valueParts else []))) :=
    Pattern.skips_one (fun c hc => by simpa [inBrackets] using hc) _
  exact congrArg (Option.bind · _) (hskips.groups?_many cs)

/-- The second field may go on as far as it can: how the brackets go on behind it is the same
wherever it stops. -/
theorem numbers?_secondPattern (cs : List Char) :
    (secondPattern kind).numbers? cs =
      (number? (cs.takeWhile inField)).bind fun y =>
        ((closingPattern kind).numbers? (cs.dropWhile inField)).map (y :: ·) := by
  have hskips : Pattern.Skips inField (closingPattern kind) :=
    (Pattern.skips_one (fun c hc => by simpa [inBrackets] using hc) _).many
      fun c hc => (Bool.and_eq_true_iff.1 hc).2
  refine hskips.numbers?_blanks_row cs fun c _ hc => ?_
  have hcomma : c ≠ ',' := fun he => absurd (he ▸ hc) (by decide)
  have hclose : c ≠ ']' := fun he => absurd (he ▸ hc) (by decide)
  simp [inField, hcomma, hclose]

theorem numbers?_pointPattern (body : List Char) :
    (pointPattern kind).numbers? ('[' :: body) =
      (number? (body.takeWhile inField)).bind fun x =>
        ((Pattern.both (.one (· == ',')) (secondPattern kind)).numbers?
          (body.dropWhile inField)).map (x :: ·) := by
  have hskips : Pattern.Skips inField (.both (.one (· == ',')) (secondPattern kind)) :=
    Pattern.skips_one (fun c hc => by simpa using (Bool.and_eq_true_iff.1 hc).1) _
  rw [← hskips.numbers?_row, pointPattern_eq, Pattern.numbers?, Pattern.groups?_one_cons]
  rfl

/-- The second field goes up to the next comma or to the end of the brackets. -/
theorem numbers?_secondPattern_closed {more after : List Char} (hmore : ']' ∉ more)
    (hline : '\n' ∉ after) :
    (secondPattern kind).numbers? (more ++ ']' :: after) =
      (number? (more.takeWhile (· ≠ ','))).bind fun y =>
        ((valueTexts? kind after).bind numbers?).map (y :: ·) := by
  obtain ⟨htake, hdrop⟩ := cut_inField hmore after
  have htail : ']' ∉ more.dropWhile (· ≠ ',') :=
    fun h => hmore ((List.dropWhile_suffix _).subset h)
  rw [numbers?_secondPattern, htake, hdrop, numbers?_closingPattern, cut_inBrackets htail,
    Pattern.numbers?_one_cons, if_pos (beq_self_eq_true _), numbers?_valueParts hline]

/-- Up to the first closing bracket the pattern marks the first two fields, and the value. -/
theorem numbers?_pointPattern_closed {inside after : List Char} (hinside : ']' ∉ inside)
    (hline : '\n' ∉ after) :
    (pointPattern kind).numbers? ('[' :: (inside ++ ']' :: after)) =
      (pointTexts? kind (inside.splitOn ',') after).bind numbers? := by
  obtain ⟨htake, hdrop⟩ := cut_inField hinside after
  obtain ⟨hcut, -, hcomma⟩ := cut_at_iff.1 (⟨rfl, rfl⟩ :
    inside.takeWhile (· ≠ ',') = _ ∧ inside.dropWhile (· ≠ ',') = _)
  rw [numbers?_pointPattern, htake, hdrop, splitOn_comma_eq, fields_eq]
  rcases hrest : inside.dropWhile (· ≠ ',') with _ | ⟨c, more⟩
  · rw [List.nil_append, Pattern.numbers?_one_cons]
    exact Option.bind_fun_none _
  · rw [hrest] at hcut hcomma
    obtain rfl := hcomma c rfl
    have hmore : ']' ∉ more := fun h => hinside (hcut ▸ List.mem_append_right _ (.tail _ h))
    rw [List.cons_append, Pattern.numbers?_one_cons, if_pos (beq_self_eq_true _),
      numbers?_secondPattern_closed kind hmore hline]
    dsimp only
    rw [fields_eq more, numbers?_pointTexts]
    simp only [Option.map_bind, Option.map_map, Function.comp_def]

/-- Without a closing bracket the pattern does not match. -/
theorem numbers?_pointPattern_open {body : List Char} (hbody : ']' ∉ body) :
    (pointPattern kind).numbers? ('[' :: body) = none := by
  have hclosing : ∀ cs : List Char, ']' ∉ cs → (closingPattern kind).numbers? cs = none := by
    intro cs hcs
    have hall : cs.dropWhile inBrackets = [] := (cut_all fun c hc => by
      simpa [inBrackets] using fun he : c = ']' => hcs (he ▸ hc)).2
    rw [numbers?_closingPattern, hall]
    rfl
  rw [numbers?_pointPattern]
  rcases hrest : body.dropWhile inField with _ | ⟨c, more⟩
  · exact Option.bind_fun_none _
  · have hmore : ']' ∉ more.dropWhile inField := fun h => hbody
      ((List.dropWhile_suffix inField).subset
        (hrest ▸ .tail _ ((List.dropWhile_suffix inField).subset h)))
    rw [Pattern.numbers?_one_cons, numbers?_secondPattern, hclosing _ hmore]
    split <;> simp

theorem point?_open {body : List Char} (hbody : ']' ∉ body) : point? kind ('[' :: body) = none := by
  have hall : body.dropWhile (· ≠ ']') = [] := (cut_all fun c hc => by
    simpa using fun he : c = ']' => hbody (he ▸ hc)).2
  rw [point?, coordinates?, hall]

/-- Behind two coordinates a line has to give its value. -/
theorem point?_of_coordinates {line rest : List Char} {x y : Float}
    (h : coordinates? line = some (x, y, rest)) :
    point? kind line = ((valueTexts? kind rest).bind numbers?).map fun zs => x :: y :: zs := by
  rw [point?, h, valueTexts?]
  dsimp only
  split
  · rcases stripLeft rest with _ | ⟨c, value⟩
    · rfl
    · by_cases hc : c = ':'
      · subst hc
        change (number? value).map (fun z => [x, y, z]) = _
        rw [List.head?_cons, if_pos rfl, Option.bind_some, List.tail_cons, numbers?_cons]
        rcases number? value with _ | z <;> rfl
      · rw [List.head?_cons, if_neg fun h => hc (Option.some.inj h)]
        split
        · rename_i heq
          exact absurd (List.cons.inj heq).1 hc
        · rfl
  · rfl

theorem point?_closed {inside : List Char} (hinside : ']' ∉ inside) (after : List Char) :
    point? kind ('[' :: (inside ++ ']' :: after)) =
      (pointTexts? kind (inside.splitOn ',') after).bind numbers? := by
  obtain ⟨htake, hdrop⟩ := cut_at_iff.2 ⟨(rfl : inside ++ ']' :: after = _), hinside,
    fun c hc => (Option.some.inj hc).symm⟩
  rw [splitOn_comma_eq]
  rcases hfields : fields inside with _ | ⟨f, _ | ⟨g, more⟩⟩
  · rw [point?, coordinates?, htake, hdrop, hfields]
    rfl
  · rw [point?, coordinates?, htake, hdrop, hfields]
    rfl
  · have hcoordinates : coordinates? ('[' :: (inside ++ ']' :: after)) =
        (number? f).bind fun x => (number? g).map fun y => (x, y, after) := by
      rw [coordinates?, htake, hdrop, hfields]
      dsimp only
      rcases number? f with _ | x
      · rfl
      · rcases number? g with _ | y <;> rfl
    rw [numbers?_pointTexts]
    rcases hf : number? f with _ | x <;> rw [hf] at hcoordinates
    · rw [point?, hcoordinates]
      rfl
    · rcases hg : number? g with _ | y <;> rw [hg] at hcoordinates
      · rw [point?, hcoordinates]
        rfl
      · exact point?_of_coordinates kind hcoordinates

end Points

/-- The point of a line that begins with a bracket is what the pattern of its kind of block marks,
if that is all numbers. It is told by dividing the text as well: without a closing bracket there is
no point, and else the numbers are the first two of the fields that commas divide in the text up to
the first closing bracket, whatever else stands there, and on a surface the rest of the line behind
a colon, which only blanks may divide from the bracket. -/
theorem point?_splitOn (kind : BlockKind) {line : List Char} (hstart : line.head? = some '[')
    (hline : '\n' ∉ line) :
    point? kind line = (pointPattern kind).numbers? line ∧
    (']' ∉ line → point? kind line = none) ∧
    ∀ inside after, line = '[' :: (inside ++ ']' :: after) → ']' ∉ inside →
      point? kind line = (pointTexts? kind (inside.splitOn ',') after).bind numbers? := by
  obtain ⟨body, rfl⟩ := List.head?_eq_some_iff.1 hstart
  refine ⟨?_, fun h => point?_open kind fun hbody => h (.tail _ hbody), ?_⟩
  · by_cases hbody : ']' ∈ body
    · obtain ⟨inside, after, rfl, hinside⟩ := List.eq_append_cons_of_mem hbody
      have hafter : '\n' ∉ after := fun h => hline (by simp [h])
      rw [point?_closed kind hinside, numbers?_pointPattern_closed kind hinside hafter]
    · rw [point?_open kind hbody, numbers?_pointPattern_open kind hbody]
  · rintro inside after hcut hinside
    rw [hcut, point?_closed kind hinside]

/-- A blank field is no number, although the pattern marks a blank in it; fields behind the second
and blanks around the colon do not matter. -/
theorem point?_splitOn_jetty :
    let blank := "[1, \t, 2]".toList
    let full := "[1 ,2e1, x, 3] : 0.5".toList
    blank.head? = some '[' ∧ '\n' ∉ blank ∧ full.head? = some '[' ∧ '\n' ∉ full ∧
      (pointPattern .lookup).groups? blank = some [['1'], ['\t']] ∧
      point? .lookup blank = none ∧
      (pointPattern .lookup2d).numbers? full = some [1, 20, 0.5] := by
  have hblank : "[1, \t, 2]".toList.head? = some '[' ∧ '\n' ∉ "[1, \t, 2]".toList :=
    ⟨rfl, by decide⟩
  have hfull : "[1 ,2e1, x, 3] : 0.5".toList.head? = some '[' ∧
      '\n' ∉ "[1 ,2e1, x, 3] : 0.5".toList := ⟨rfl, by decide⟩
  obtain ⟨hpoint, -, -⟩ := point?_splitOn .lookup hblank.1 hblank.2
  obtain ⟨hmarks, -, htexts⟩ := point?_splitOn .lookup2d hfull.1 hfull.2
  have hnumbers : (pointTexts? .lookup2d ("1 ,2e1, x, 3".toList.splitOn ',')
      " : 0.5".toList).bind numbers? = some [1, 20, 0.5] := by decide +kernel
  refine ⟨hblank.1, hblank.2, hfull.1, hfull.2, by decide +kernel, ?_, ?_⟩
  · rw [hpoint]
    decide +kernel
  · rw [← hmarks, htexts "1 ,2e1, x, 3".toList " : 0.5".toList rfl (by decide), hnumbers]

end Line

end SystemDynamics
