import SystemDynamics.Proofs.Brackets

/-!
# Texts with numbers in brackets

On the line of a property or of a constant, a number may be put in brackets (`Line.Bracketed`).
Texts that differ in nothing but the brackets around finite numbers declare the same, but for these
(`Declaration.ofText_bracketed`), and the models that they make behave alike, whatever is asked of
these (`Model.brackets_behave`).

A number that is too great for binary64 is infinite if it stands by itself, and it is refused as the
value of an expression (`Model.brackets_overflow`).
-/

namespace SystemDynamics

open Text Reading

/-! ## Lines -/

namespace Text

/-- No line of a text has the end of a line in it. -/
theorem linesFrom_lineEnd (line cs : List Char) (hline : ∀ c ∈ line, isLineEnd c = false) :
    ∀ l ∈ linesFrom line cs, ∀ c ∈ l, isLineEnd c = false := by
  have hreverse : ∀ c ∈ line.reverse, isLineEnd c = false := fun c hc =>
    hline c (List.mem_reverse.1 hc)
  fun_induction linesFrom line cs with
  | case1 => exact nofun
  | case2 => exact List.forall_mem_singleton.2 hreverse
  | case3 line rest ih => exact List.forall_mem_cons.2 ⟨hreverse, ih nofun nofun⟩
  | case4 line c rest _ _ ih => exact List.forall_mem_cons.2 ⟨hreverse, ih nofun nofun⟩
  | case5 line c rest _ hc ih =>
    have hmore : ∀ d ∈ c :: line, isLineEnd d = false :=
      List.forall_mem_cons.2 ⟨Bool.eq_false_iff.2 hc, hline⟩
    exact ih hmore fun d hd => hmore d (List.mem_reverse.1 hd)

theorem newline_notMem_lines {cs l : List Char} (h : l ∈ lines cs) : '\n' ∉ l := fun hmem =>
  absurd (linesFrom_lineEnd [] cs (fun _ hc => nomatch hc) l h '\n' hmem) (by decide)

end Text

namespace Line

/-- Something without blanks around it. -/
structure Solid (cs : List Char) : Prop where
  starts : ∃ c rest, cs = c :: rest ∧ isBlank c = false
  ends : Stripped cs

theorem Solid.exists_last {cs : List Char} (h : Solid cs) :
    ∃ front d, cs = front ++ [d] ∧ isBlank d = false := by
  obtain ⟨⟨c, rest, hcs, -⟩, hends⟩ := h
  rcases List.eq_nil_or_concat cs with h | ⟨front, d, h⟩
  · exact absurd (hcs.symm.trans h) (List.cons_ne_nil _ _)
  · rw [List.concat_eq_append] at h
    exact ⟨front, d, h, hends d (h ▸ List.suffix_append _ _)⟩

theorem Solid.strip_eq {before cs after : List Char} (h : Solid cs) (hbefore : Blanks before)
    (hafter : Blanks after) : strip (before ++ (cs ++ after)) = cs := by
  obtain ⟨c, rest, hcs, hc⟩ := h.starts
  have hleft : stripLeft (cs ++ after) = cs ++ after := by
    rw [hcs]
    exact List.dropWhile_cons_of_neg (by simp [hc])
  rw [strip, hbefore.stripLeft_append, hleft, stripRight, List.reverse_append,
    List.dropWhile_append_of_pos fun c hc => hafter c (List.mem_reverse.1 hc)]
  obtain ⟨front, d, rfl, hd⟩ := h.exists_last
  rw [List.reverse_append, List.reverse_singleton, List.singleton_append,
    List.dropWhile_cons_of_neg (by simp [hd]), List.reverse_cons, List.reverse_reverse]

theorem Solid.strip_self {cs : List Char} (h : Solid cs) : strip cs = cs := by
  have hnil : Blanks [] := nofun
  have hstrip := h.strip_eq hnil hnil
  rwa [List.append_nil] at hstrip

theorem Solid.append {w cs : List Char} (hw : ∃ c rest, w = c :: rest ∧ isBlank c = false)
    (h : Solid cs) : Solid (w ++ cs) := by
  obtain ⟨c, rest, rfl, hc⟩ := hw
  refine ⟨⟨c, rest ++ cs, rfl, hc⟩, fun d hd => h.ends d ?_⟩
  obtain ⟨e, more, rfl, -⟩ := h.starts
  exact List.suffix_of_suffix_length_le hd (List.suffix_append _ _) (by simp)

/-- A word has no blanks around it. -/
theorem solid_word {cs : List Char} (hne : cs ≠ []) (h : ∀ c ∈ cs, isWordChar c = true) :
    Solid cs := by
  have hblank : ∀ c ∈ cs, isBlank c = false := by
    intro c hc
    rcases hb : isBlank c with _ | _
    · rfl
    · exact absurd ((isWordChar_of_isBlank hb).symm.trans (h c hc)) Bool.false_ne_true
  obtain ⟨c, rest, rfl⟩ := List.exists_cons_of_ne_nil hne
  exact ⟨⟨c, rest, rfl, hblank c (.head _)⟩, fun d hd => hblank d (hd.subset (.head _))⟩

theorem solid_number {cs : List Char} {x : Float} (h : number? cs = some x) : Solid (strip cs) := by
  obtain ⟨n, hproper, hstrip, -⟩ := number?_eq_some h
  exact ⟨hstrip ▸ n.exists_text hproper, stripped_strip cs⟩

theorem solid_bracketed (cs : List Char) : Solid (bracketed cs) := by
  refine ⟨⟨'(', cs ++ [')'], rfl, rfl⟩, fun c hc => ?_⟩
  have hlast : [')'] <:+ bracketed cs := ⟨'(' :: cs, rfl⟩
  have heq : [c] = [')'] :=
    (List.suffix_of_suffix_length_le hc hlast (by simp)).eq_of_length (by simp)
  rw [(List.cons.inj heq).1]
  rfl

end Line

/-! ## Values -/

/-- What begins like no number is none. -/
theorem Reading.number?_eq_none {cs rest : List Char} {c : Char} (hcs : strip cs = c :: rest)
    (hsign : sign (c :: rest) = (false, c :: rest)) (hdigit : isDigit c = false)
    (hpoint : c ≠ '.') : number? cs = none := by
  have hnone : literal? (c :: rest) = none := by
    rw [literal?_eq_none_iff, mantissa?, spanDigits, if_neg (by simp [hdigit])]
    split
    · rename_i heq
      cases heq
      exact absurd rfl hpoint
    · rfl
    · rename_i hne heq
      cases heq
      exact (hne rfl).elim
    · rename_i hne _ heq
      cases heq
      exact (hne rfl).elim
  simp only [number?, hcs, hsign, hnone]

namespace PropertyValue

/-- What is read as a number is a number. -/
theorem read_number {cs : List Char} {x : Float} (h : number? cs = some x) :
    read (strip cs) = .number x := by
  have hsolid := Line.solid_number h
  obtain ⟨c, rest, hcs, -⟩ := hsolid.starts
  have hstrip : strip (strip cs) = strip cs := hsolid.strip_self
  have hnumber : number? (strip cs) = some x := by rw [← h, number?, number?, hstrip]
  unfold read
  rw [hstrip]
  dsimp only
  split
  · rename_i hnil
    exact absurd (hcs.symm.trans hnil) (List.cons_ne_nil _ _)
  · rename_i hquote
    rw [number?_eq_none hquote rfl rfl (by decide)] at h
    cases h
  · rw [hnumber]

theorem read_bracketed (cs : List Char) :
    read (bracketed cs) = .expression (String.ofList (bracketed cs)) := by
  have hstrip : strip (bracketed cs) = bracketed cs := (Line.solid_bracketed cs).strip_self
  have hnone : number? (bracketed cs) = none :=
    number?_eq_none hstrip rfl rfl (by decide)
  unfold read
  rw [hstrip]
  simp only [hnone]
  rfl

end PropertyValue

namespace Line

/-- What stands on a line in front of a number. -/
inductive Lead : List Char → Prop
  | property {indent space gap : List Char} {key : String} (hkey : key ∈ numericKeys)
      (hindent : Blanks indent) (hspace : Blanks space) (hgap : Blanks gap) :
      Lead (indent ++ (key.toList ++ (space ++ ':' :: gap)))
  | constant {indent gap name space after : List Char} (hindent : Blanks indent) (hne : gap ≠ [])
      (hgap : Blanks gap) (hname : IsName name) (hspace : Blanks space) (hafter : Blanks after) :
      Lead (indent ++ ("const".toList ++ (gap ++ (name ++ (space ++ '=' :: after)))))

/-- The second line is the first or, if there is a finite number on this, has it in brackets. -/
inductive Bracketed : List Char → List Char → Prop
  | same (cs : List Char) : Bracketed cs cs
  | number {lead cs tail : List Char} {x : Float} (hlead : Lead lead) (htail : Blanks tail)
      (hx : number? cs = some x) (hfinite : x.isFinite = true) :
      Bracketed (lead ++ (cs ++ tail)) (lead ++ (bracketed cs ++ tail))

theorem numericKeys_spelling : ∀ key ∈ numericKeys, ∃ c rest, key.toList = c :: rest ∧
    c ∈ ['v', 'i', 'm', 'r', 'w'] ∧ ∀ d ∈ key.toList, isWordChar d = true := by
  have hword : ∀ key ∈ numericKeys, key.toList.all isWordChar = true := by decide
  intro key hkey
  have hall := List.all_eq_true.1 (hword key hkey)
  simp only [numericKeys, List.mem_cons, List.not_mem_nil, or_false] at hkey
  rcases hkey with rfl | rfl | rfl | rfl | rfl | rfl
  all_goals exact ⟨_, _, rfl, by decide, hall⟩

theorem read_of_mem {c : Char} (hc : c ∈ ['v', 'i', 'm', 'r', 'w']) (rest : List Char) :
    read (c :: rest) = .other := by
  simp only [List.mem_cons, List.not_mem_nil, or_false] at hc
  rcases hc with rfl | rfl | rfl | rfl | rfl <;> rfl

section Values

variable {indent space gap tail value : List Char}

/-- The line of a property is read as one, whatever solid text its value is. -/
theorem property_line {key : String} (hkey : key ∈ numericKeys) (hindent : Blanks indent)
    (hspace : Blanks space) (htail : Blanks tail) (hgap : Blanks gap) (hvalue : Solid value) :
    ∃ c rest, strip (indent ++ (key.toList ++ (space ++ ':' :: gap)) ++ (value ++ tail)) =
        c :: rest ∧ c ∈ ['v', 'i', 'm', 'r', 'w'] ∧
      property? (c :: rest) = some (key, .read value) := by
  obtain ⟨c, more, hspelling, hc, hword⟩ := numericKeys_spelling key hkey
  have hkeysolid : Solid key.toList := solid_word (by rw [hspelling]; exact nofun) hword
  have hsolid : Solid ((key.toList ++ (space ++ ':' :: gap)) ++ value) := by
    obtain ⟨d, rest, hd, hblank⟩ := hkeysolid.starts
    exact hvalue.append ⟨d, rest ++ (space ++ ':' :: gap), by rw [hd]; rfl, hblank⟩
  have hline := hsolid.strip_eq hindent htail
  have hcolon : ':' ∉ key.toList ++ space := by
    intro hmem
    rcases List.mem_append.1 hmem with hmem | hmem
    · exact absurd (hword _ hmem) (by decide)
    · exact absurd (hspace _ hmem) (by decide)
  have hnil : Blanks [] := nofun
  rw [List.append_assoc, ← List.append_assoc _ value tail, hline]
  refine ⟨c, more ++ (space ++ ':' :: gap) ++ value, by rw [hspelling]; rfl, hc,
    property?_eq_some_iff.2 ⟨key.toList ++ space, gap ++ value, ?_, hcolon, ?_,
      (hgap.read_append value).symm⟩⟩
  · rw [hspelling]
    simp only [List.cons_append, List.append_assoc]
  · have hstrip : strip (key.toList ++ space) = key.toList := hkeysolid.strip_eq hnil hspace
    rw [hstrip, String.ofList_toList]

/-- The line of a constant is read as one. -/
theorem constant_line {name after : List Char} (hindent : Blanks indent) (hne : gap ≠ [])
    (hgap : Blanks gap) (hname : IsName name) (hspace : Blanks space) (hafter : Blanks after)
    (htail : Blanks tail) (hvalue : Solid value) (hnewline : '\n' ∉ value) :
    read (strip (indent ++ ("const".toList ++ (gap ++ (name ++ (space ++ '=' :: after)))) ++
      (value ++ tail))) = .constant (String.ofList name) (.read value) := by
  have hsolid : Solid (("const".toList ++ (gap ++ (name ++ (space ++ '=' :: after)))) ++ value) :=
    hvalue.append ⟨'c', _, rfl, rfl⟩
  have hline := hsolid.strip_eq hindent htail
  obtain ⟨c, rest, hcons, -⟩ := hvalue.starts
  have hwrites : WritesConstant
      ("const".toList ++ (gap ++ (name ++ (space ++ '=' :: after))) ++ value)
      (String.ofList name) (.read value) := by
    refine ⟨name, after ++ value, after, value, ⟨gap, space, ?_, hne, hgap, hname, hspace⟩, rfl,
      hafter, by rw [hcons]; exact List.cons_ne_nil _ _, hnewline, rfl, rfl⟩
    simp only [List.cons_append, List.append_assoc]
  rw [List.append_assoc, ← List.append_assoc _ value tail, hline]
  exact (is_iff hsolid.ends).1 (.constant (by rintro (h | ⟨_, h⟩) <;> cases h) hwrites)

end Values

end Line

/-! ## Declarations -/

namespace Reader

/-- In what the second reader has read there may be numbers in brackets. -/
structure Bracketed (r s : Reader) : Prop where
  declarations : List.Forall₂ Declaration.Bracketed r.declarations s.declarations
  current : Option.Rel Declaration.Bracketed r.current s.current

theorem Bracketed.start : start.Bracketed start := ⟨.nil, .none⟩

variable {r s : Reader}

theorem Bracketed.add (h : r.Bracketed s) {d e : Declaration} (hde : d.Bracketed e) :
    Bracketed { r with declarations := r.declarations ++ [d] }
      { s with declarations := s.declarations ++ [e] } :=
  ⟨List.rel_append h.declarations (.cons hde .nil), h.current⟩

theorem Bracketed.closeBlock (h : r.Bracketed s) (number : Nat) :
    (r.closeBlock number).result.Bracketed (s.closeBlock number).result := by
  have hcurrent := h.current
  unfold Reader.closeBlock
  rcases hr : r.current with _ | d <;> rcases hs : s.current with _ | e <;>
    rw [hr, hs] at hcurrent <;> cases hcurrent
  · exact h
  · rename_i hde
    exact ⟨(h.add hde).declarations, .none⟩

theorem Bracketed.feedBlock (h : r.Bracketed s) {d e : Declaration} (hde : d.Bracketed e)
    (number : Nat) (line : List Char) :
    (r.feedBlock d number line).result.Bracketed (s.feedBlock e number line).result := by
  obtain ⟨properties, rfl, hproperties⟩ := hde
  unfold Reader.feedBlock
  dsimp only
  split
  · split
    · exact ⟨h.declarations, .some ⟨properties, rfl, hproperties⟩⟩
    · exact h
  · split
    · exact ⟨h.declarations, .some ⟨_, rfl, hproperties.insert (.same _)⟩⟩
    · split
      · exact h.closeBlock number
      · exact h

/-- A line that both read. -/
theorem Bracketed.feed_same (h : r.Bracketed s) (number : Nat) (raw : List Char) :
    (r.feed number raw).result.Bracketed (s.feed number raw).result := by
  have hcurrent := h.current
  unfold Reader.feed
  dsimp only
  split
  · exact h
  · exact h.add (.refl _)
  · exact ⟨h.declarations, .some (.refl _)⟩
  · rcases hr : r.current with _ | d <;> rcases hs : s.current with _ | e <;>
      rw [hr, hs] at hcurrent <;> cases hcurrent
    · dsimp only
      split
      · exact h.closeBlock number
      · exact h
    · rename_i hde
      exact h.feedBlock hde number _

/-- A property goes into the block that is open, if one is. -/
theorem feed_property (r : Reader) (number : Nat) {raw : List Char} {key : String}
    {v : PropertyValue} (hraw : ∃ c rest, strip raw = c :: rest ∧ c ∈ ['v', 'i', 'm', 'r', 'w'] ∧
      Line.property? (c :: rest) = some (key, v)) :
    (r.feed number raw).result = { r with
      current := r.current.map fun d =>
        { d with properties := d.properties.insert key v } } := by
  obtain ⟨c, rest, hstrip, hc, hproperty⟩ := hraw
  have hother : c ≠ '[' ∧ c ≠ '}' := by
    constructor <;> rintro rfl <;> exact absurd hc (by decide)
  obtain ⟨declarations, current⟩ := r
  unfold feed
  dsimp only
  rw [hstrip, Line.read_of_mem hc]
  rcases current with _ | d
  · dsimp only
    rw [if_neg (by simp [hother.2])]
    rfl
  · dsimp only [feedBlock]
    rw [if_neg (by simp [hother.1]), hproperty]
    rfl

theorem feed_constant (r : Reader) (number : Nat) {raw : List Char} {name : String}
    {v : PropertyValue} (hraw : Line.read (strip raw) = .constant name v) :
    (r.feed number raw).result = { r with declarations :=
      r.declarations ++ [⟨.const, name, .ofList [("value", v)], [], number⟩] } := by
  unfold feed
  dsimp only
  rw [hraw]
  rfl

/-- A line that has a number, and the line that has it in brackets. -/
theorem Bracketed.feed (h : r.Bracketed s) (number : Nat) {raw other : List Char}
    (hline : Line.Bracketed raw other) (hnewline : '\n' ∉ other) :
    (r.feed number raw).result.Bracketed (s.feed number other).result := by
  cases hline with
  | same => exact h.feed_same number raw
  | @number lead cs tail x hlead htail hx hfinite =>
    obtain ⟨before, after, hcs, hbefore, hafter⟩ := Line.exists_strip cs
    have hsolid := Line.solid_number hx
    have htail' : Line.Blanks (after ++ tail) := List.forall_mem_append.2 ⟨hafter, htail⟩
    -- The blanks around the number belong to what stands before and behind it.
    have hshift : lead ++ (cs ++ tail) = lead ++ (before ++ (strip cs ++ (after ++ tail))) := by
      conv_lhs => rw [hcs]
      simp only [List.append_assoc]
    rw [hshift]
    cases hlead with
    | @property indent space gap key hkey hindent hspace hgap =>
      have hgap' : Line.Blanks (gap ++ before) := List.forall_mem_append.2 ⟨hgap, hbefore⟩
      have hraw := Line.property_line hkey hindent hspace htail' hgap' hsolid
      have hother := Line.property_line hkey hindent hspace htail hgap (Line.solid_bracketed cs)
      rw [PropertyValue.read_number hx] at hraw
      rw [PropertyValue.read_bracketed] at hother
      simp only [List.append_assoc, List.cons_append] at hraw hother ⊢
      rw [feed_property r number hraw, feed_property s number hother]
      refine ⟨h.declarations, ?_⟩
      have hcurrent := h.current
      rcases hr : r.current with _ | d <;> rcases hs : s.current with _ | e <;>
        rw [hr, hs] at hcurrent <;> cases hcurrent
      · exact .none
      · rename_i hde
        obtain ⟨properties, rfl, hproperties⟩ := hde
        exact .some ⟨_, rfl, hproperties.insert (.number hkey hx hfinite)⟩
    | @constant indent gap name space gap' hindent hne hgap hname hspace hgap' =>
      have hafter' : Line.Blanks (gap' ++ before) := List.forall_mem_append.2 ⟨hgap', hbefore⟩
      have hbracketed : '\n' ∉ bracketed cs := fun hmem => hnewline
        (List.mem_append_right _ (List.mem_append_left tail hmem))
      have hnumber : '\n' ∉ strip cs := by
        intro hmem
        have hcs' : '\n' ∈ cs := by
          rw [hcs]
          exact List.mem_append_right _ (List.mem_append_left _ hmem)
        exact hbracketed (.tail _ (List.mem_append_left _ hcs'))
      have hraw := Line.constant_line hindent hne hgap hname hspace hafter' htail' hsolid hnumber
      have hother := Line.constant_line hindent hne hgap hname hspace hgap' htail
        (Line.solid_bracketed cs) hbracketed
      rw [PropertyValue.read_number hx] at hraw
      rw [PropertyValue.read_bracketed] at hother
      simp only [List.append_assoc, List.cons_append] at hraw hother ⊢
      rw [feed_constant r number hraw, feed_constant s number hother]
      exact h.add ⟨_, rfl, .cons ⟨rfl, .number (.head _) hx hfinite⟩ .nil⟩

theorem Bracketed.feedAll {raws others : List (List Char)}
    (hlines : List.Forall₂ Line.Bracketed raws others) (hnewline : ∀ l ∈ others, '\n' ∉ l)
    (h : r.Bracketed s) (number : Nat) :
    (r.feedAll number raws).result.Bracketed (s.feedAll number others).result := by
  induction hlines generalizing r s number with
  | nil => exact h
  | cons hline _ ih =>
    obtain ⟨hfirst, hrest⟩ := List.forall_mem_cons.1 hnewline
    exact ih hrest (h.feed number hline hfirst) (number + 1)

end Reader

/-- Texts that differ in nothing but the brackets around numbers declare the same, but for these. -/
theorem Declaration.ofText_bracketed {text other : String}
    (h : List.Forall₂ Line.Bracketed (Text.lines text.toList) (Text.lines other.toList)) :
    List.Forall₂ Declaration.Bracketed (Declaration.ofText text).result
      (Declaration.ofText other).result :=
  (Reader.Bracketed.feedAll h (fun _ => newline_notMem_lines) .start 1).declarations

namespace Model

/-- Texts that differ in nothing but the brackets around finite numbers make models that behave
alike, whatever is asked of these: each constant and each stock has the same value, the bounds are
the same, every flow moves the same amounts and the runs end in the same states. -/
theorem brackets_behave (c : Capacities) {text other : String}
    (h : List.Forall₂ Line.Bracketed (Text.lines text.toList) (Text.lines other.toList))
    (rs : List Request) :
    ((ofText c text).result.serveAll rs).BehavesAs ((ofText c other).result.serveAll rs) :=
  ((ofDeclarations_twin c (Declaration.ofText_bracketed h)).serveAll rs).behavesAs

/-- A millpond in which every number is spelt in some way. -/
def millpond (spelt : String → String) : String :=
  "const K = " ++ spelt "2" ++ "\nstock S \x7b\ninitial: " ++ spelt "+5" ++ "\nmin: " ++
    spelt "-1" ++ "\nmax: " ++ spelt "1e2" ++ "\n\x7d\nflow F \x7b\nto: S\nrate: " ++
    spelt ".5" ++ "\n\x7d\nterminate \x7b\nwhen: " ++ spelt "1e-400" ++ "\n\x7d"

/-- The millpond with its numbers as they are and in brackets. -/
theorem brackets_behave_millpond :
    List.Forall₂ Line.Bracketed (Text.lines (millpond id).toList)
        (Text.lines (millpond fun t => "(" ++ t ++ ")").toList) ∧
      ((ofText .default (millpond id)).result.serveAll
          [.run ⟨1.0, by decide, by decide⟩ 9]).BehavesAs
        ((ofText .default (millpond fun t => "(" ++ t ++ ")")).result.serveAll
          [.run ⟨1.0, by decide, by decide⟩ 9]) := by
  have hblank : Line.Blanks [' '] := by
    rintro c (_ | ⟨_, ⟨⟩⟩)
    rfl
  have hnil : Line.Blanks [] := nofun
  have hnumber : ∀ {key t : String} {x : Float}, key ∈ numericKeys →
      number? t.toList = some x → x.isFinite = true →
        Line.Bracketed (key.toList ++ (':' :: ' ' :: t.toList))
          (key.toList ++ (':' :: ' ' :: bracketed t.toList)) := by
    intro key t x hkey hx hfinite
    have hline := Line.Bracketed.number (Line.Lead.property hkey hnil hnil hblank) hnil hx hfinite
    simpa only [List.nil_append, List.append_nil, List.append_assoc, List.cons_append] using hline
  have hconstant : Line.Bracketed ("const K = ".toList ++ ("2".toList ++ []))
      ("const K = ".toList ++ (bracketed "2".toList ++ [])) :=
    .number (x := 2.0) (@Line.Lead.constant [] [' '] ['K'] [' '] [' '] hnil (List.cons_ne_nil _ _)
      hblank ⟨by decide, nofun⟩ hblank hblank) hnil rfl (by decide)
  have hlines : List.Forall₂ Line.Bracketed (Text.lines (millpond id).toList)
      (Text.lines (millpond fun t => "(" ++ t ++ ")").toList) := by
    have hbare : Text.lines (millpond id).toList =
        ["const K = ".toList ++ ("2".toList ++ []), "stock S \x7b".toList,
          "initial".toList ++ (':' :: ' ' :: "+5".toList),
          "min".toList ++ (':' :: ' ' :: "-1".toList),
          "max".toList ++ (':' :: ' ' :: "1e2".toList), ['\x7d'], "flow F \x7b".toList,
          "to: S".toList, "rate".toList ++ (':' :: ' ' :: ".5".toList), ['\x7d'],
          "terminate \x7b".toList, "when".toList ++ (':' :: ' ' :: "1e-400".toList), ['\x7d']] := by
      decide +kernel
    have hbrackets : Text.lines (millpond fun t => "(" ++ t ++ ")").toList =
        ["const K = ".toList ++ (bracketed "2".toList ++ []), "stock S \x7b".toList,
          "initial".toList ++ (':' :: ' ' :: bracketed "+5".toList),
          "min".toList ++ (':' :: ' ' :: bracketed "-1".toList),
          "max".toList ++ (':' :: ' ' :: bracketed "1e2".toList), ['\x7d'], "flow F \x7b".toList,
          "to: S".toList, "rate".toList ++ (':' :: ' ' :: bracketed ".5".toList), ['\x7d'],
          "terminate \x7b".toList, "when".toList ++ (':' :: ' ' :: bracketed "1e-400".toList),
          ['\x7d']] := by
      decide +kernel
    rw [hbare, hbrackets]
    exact .cons hconstant <| .cons (.same _) <|
      .cons (hnumber (x := 5.0) (by decide) rfl (by decide)) <|
      .cons (hnumber (x := -1.0) (by decide) rfl (by decide)) <|
      .cons (hnumber (x := 100.0) (by decide) rfl (by decide)) <|
      .cons (.same _) <| .cons (.same _) <| .cons (.same _) <|
      .cons (hnumber (x := 0.5) (by decide) rfl (by decide)) <|
      .cons (.same _) <| .cons (.same _) <|
      .cons (hnumber (x := 0.0) (by decide) (by decide +kernel) (by decide)) <|
      .cons (.same _) .nil
  exact ⟨hlines, brackets_behave .default hlines _⟩

/-- A stock with an inflow of a rate that is spelt in some way. -/
def torrent (rate : String) : String :=
  "stock S \x7b\n\x7d\nflow F \x7b\nto: S\nrate: " ++ rate ++ "\n\x7d"

/-- A number that is too great for binary64 moves an infinite amount if it stands by itself, and
nothing in brackets. -/
theorem brackets_overflow :
    number? "1e999".toList = some (1.0 / 0.0) ∧
      ((ofText .default (torrent "1e999")).result.serveAll
        [.step ⟨1.0, by decide, by decide⟩]).stockValues.entries = [("S", 1.0 / 0.0)] ∧
      ((ofText .default (torrent "(1e999)")).result.serveAll
        [.step ⟨1.0, by decide, by decide⟩]).stockValues.entries = [("S", 0.0)] ∧
      ¬ ((ofText .default (torrent "1e999")).result.serveAll
          [.step ⟨1.0, by decide, by decide⟩]).BehavesAs
        ((ofText .default (torrent "(1e999)")).result.serveAll
          [.step ⟨1.0, by decide, by decide⟩]) := by
  have hbare : ((ofText .default (torrent "1e999")).result.serveAll
      [.step ⟨1.0, by decide, by decide⟩]).stockValues.entries = [("S", 1.0 / 0.0)] := by
    decide +kernel
  have hbrackets : ((ofText .default (torrent "(1e999)")).result.serveAll
      [.step ⟨1.0, by decide, by decide⟩]).stockValues.entries = [("S", 0.0)] := by
    decide +kernel
  refine ⟨by decide +kernel, hbare, hbrackets, fun h => ?_⟩
  have hsame := congrArg (fun m : Model => m.stockValues.entries) h.holds
  exact absurd (hbrackets.symm.trans (hsame.trans hbare)) (by decide +kernel)

end Model

end SystemDynamics
