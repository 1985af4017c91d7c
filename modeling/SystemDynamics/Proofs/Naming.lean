import SystemDynamics.Proofs.Answers
import SystemDynamics.Proofs.Constants
import SystemDynamics.Proofs.Tokenizing
import SystemDynamics.Proofs.WellFormed

/-!
# Declared names in expressions

A declaration may name a constant or a stock by any word that starts with an ASCII letter or an
underscore and goes on with letters, numbers and underscores of all scripts. A name in an
expression goes on with ASCII characters only. So a declared name is an expression exactly if it is
an ASCII word (`Expr.parse_word`): behind the ASCII part of any other word stands a character that
starts no lexeme, or a digit of another script, which no expression has directly behind a name.
Where the name is an expression, its value is that of the constant or else of the stock
(`Model.Reachable.declared_name`).
-/

namespace SystemDynamics

/-! ## Characters -/

namespace Text

/-- ASCII characters only. -/
def Ascii (cs : List Char) : Prop := ∀ c ∈ cs, c.toNat < 128

instance (cs : List Char) : Decidable (Ascii cs) :=
  decidable_of_iff ((cs.all fun c => decide (c.toNat < 128)) = true)
    (List.all_eq_true.trans (forall₂_congr fun _ _ => decide_eq_true_iff))

end Text

open Text Line

namespace Lexer

/-- Of the characters that a declared name goes on with, a name in an expression goes on with those
of ASCII. -/
theorem isNameChar_iff {c : Char} (h : isWordChar c = true) :
    isNameChar c = true ↔ c.toNat < 128 := by
  constructor
  · intro hc
    rcases Bool.or_eq_true_iff.1 hc with hc | hc
    · rcases Bool.or_eq_true_iff.1 hc with hc | hc
      · exact toNat_of_isAlpha hc
      · exact Nat.lt_of_le_of_lt (of_decide_eq_true (Bool.and_eq_true_iff.1 hc).2) (by decide)
    · rw [eq_of_beq hc]
      decide
  · intro hc
    have hall : ∀ n < 128, isWordChar (Char.ofNat n) = true → isNameChar (Char.ofNat n) = true := by
      decide
    exact of_ascii (P := fun c => isWordChar c = true → isNameChar c = true) hall hc h

/-! ## Tokens -/

/-- A character beyond ASCII starts no token but a decimal literal. -/
theorem Starts.number {c : Char} {t : Token} (h : Starts c t) (hbeyond : ¬ c.toNat < 128) :
    ∃ l, t = .number l := by
  have hascii : Ascii markCharacters := by decide
  cases t with
  | number l => exact ⟨l, rfl⟩
  | text s => rcases h with rfl | rfl <;> exact absurd (by decide) hbeyond
  | name n =>
    rcases h with h | rfl
    · exact absurd (toNat_of_isNameStart h) hbeyond
    · exact absurd (by decide) hbeyond
  | symbol | openParen | closeParen | openBracket | closeBracket | comma | finish =>
    exact absurd (hascii c h) hbeyond

/-- A name in front of something that it does not go on with is a token. -/
theorem scan_name {c : Char} {taken rest : List Char} (hstart : isNameStart c = true)
    (htaken : ∀ d ∈ taken, isNameChar d = true) (hrest : ∀ d ∈ rest.head?, isNameChar d = false)
    (position : Nat) :
    scan 0 position (c :: (taken ++ rest)) =
      (scan 0 (position + (taken.length + 1)) rest).map
        (⟨.name (String.ofList (c :: taken)), position⟩ :: ·) := by
  obtain ⟨htake, hdrop⟩ := cut_iff.2 ⟨rfl, htaken, hrest⟩
  have hbegins := begins_name (.head _) hstart (taken ++ rest)
  rw [htake, hdrop] at hbegins
  exact scan_lexeme hbegins position

/-- Where a letter or number beyond ASCII stands, there is no token but a decimal literal. -/
theorem scan_wordChar {c : Char} (cs : List Char) (h : isWordChar c = true)
    (hc : isNameChar c = false) {position : Nat} {tokens : List Placed}
    (hscan : scan 0 position (c :: cs) = .ok tokens) :
    ∃ l more, tokens = ⟨.number l, position⟩ :: more := by
  have hbeyond : ¬ c.toNat < 128 := (isNameChar_iff h).not.1 (Bool.eq_false_iff.1 hc)
  rcases hl : lexeme? (c :: cs) with _ | ⟨t, w, rest⟩
  · simp only [scan, hl] at hscan
    cases hscan
  · have hbegins := lexeme?_eq_some_iff.1 hl
    obtain ⟨d, w, rfl⟩ := List.exists_cons_of_ne_nil hbegins.reads.ne_nil
    obtain ⟨rfl, rfl⟩ := List.cons.inj hbegins.cut
    cases t with
    | none =>
      rw [isWordChar_of_isBlank (hbegins.reads.2 c (.head _))] at h
      cases h
    | some t =>
      obtain ⟨d, more, hcs, hstarts⟩ := hbegins.reads.starts
      obtain ⟨rfl, rfl⟩ := List.cons.inj hcs
      obtain ⟨l, rfl⟩ := hstarts.number hbeyond
      rw [scan_lexeme hbegins] at hscan
      rcases hrest : scan 0 (position + (c :: w).length) rest with e | more
      · rw [hrest] at hscan
        cases hscan
      · rw [hrest] at hscan
        cases hscan
        exact ⟨l, more, rfl⟩

end Lexer

/-! ## Expressions -/

/-- A declared name is a name that expressions have and, unless it is in ASCII, a rest that starts
with another character. -/
theorem Line.IsName.exists_cut {word : List Char} (h : IsName word) :
    ∃ c taken rest, word = c :: (taken ++ rest) ∧ isNameStart c = true ∧
      (∀ d ∈ taken, Lexer.isNameChar d = true) ∧
      (∀ d ∈ rest.head?, Lexer.isNameChar d = false) ∧ (∀ d ∈ rest, isWordChar d = true) ∧
      (Ascii word ↔ rest = []) := by
  match word, h with
  | c :: cs, ⟨hstart, hcs⟩ =>
    obtain ⟨taken, rest, rfl, htaken, hrest⟩ : ∃ taken rest, cs = taken ++ rest ∧
        (∀ d ∈ taken, Lexer.isNameChar d = true) ∧
        ∀ d ∈ rest.head?, Lexer.isNameChar d = false :=
      ⟨_, _, cut_iff.1 ⟨rfl, rfl⟩⟩
    obtain ⟨htakenWord, hrestWord⟩ := List.forall_mem_append.1 hcs
    refine ⟨c, taken, rest, rfl, hstart, htaken, hrest, hrestWord, fun hascii => ?_, ?_⟩
    · cases rest with
      | nil => rfl
      | cons u more =>
        have hu := (Lexer.isNameChar_iff (hrestWord u (.head _))).2
          (hascii u (.tail _ (List.mem_append_right _ (.head _))))
        rw [hrest u rfl] at hu
        cases hu
    · rintro rfl d hd
      rw [List.append_nil] at hd
      rcases List.mem_cons.1 hd with rfl | hd
      · exact toNat_of_isNameStart hstart
      · exact (Lexer.isNameChar_iff (htakenWord d hd)).1 (htaken d hd)

/-- A declared name is an expression exactly if it is in ASCII, and then a name. -/
theorem Expr.parse_word {word : String} (h : IsName word.toList) :
    (Ascii word.toList → Expr.parse word = .ok (.name word)) ∧
      (¬ Ascii word.toList → ∃ e, Expr.parse word = .error e) := by
  obtain ⟨c, taken, rest, hword, hstart, htaken, hrest, hrestWord, hascii⟩ := h.exists_cut
  have hscan := Lexer.scan_name hstart htaken hrest 0
  rw [← hword] at hscan
  rw [hascii]
  constructor
  · rintro rfl
    rw [List.append_nil] at hword
    have hname : String.ofList (c :: taken) = word := by rw [← hword, String.ofList_toList]
    have htokens : tokenize word =
        .ok [⟨.name word, 0⟩, ⟨.finish, 0 + (taken.length + 1)⟩] := by
      rw [tokenize, hscan, hname]
      rfl
    simp only [parse, htokens]
    rfl
  · intro hne
    obtain ⟨u, more, rfl⟩ := List.exists_cons_of_ne_nil hne
    rcases hmore : Lexer.scan 0 (0 + (taken.length + 1)) (u :: more) with e | tokens
    · have htokens : tokenize word =
          .error (.located (.unexpectedCharacter e.1) word e.2) := by
        rw [tokenize, hscan, hmore]
        rfl
      simp only [parse, htokens]
      exact ⟨_, rfl⟩
    · -- A number directly behind a name.
      obtain ⟨l, later, rfl⟩ :=
        Lexer.scan_wordChar more (hrestWord u (.head _)) (hrest u rfl) hmore
      have htokens : tokenize word = .ok (⟨.name (String.ofList (c :: taken)), 0⟩ ::
          ⟨.number l, 0 + (taken.length + 1)⟩ :: later) := by
        rw [tokenize, hscan, hmore]
        rfl
      simp only [parse, htokens]
      exact ⟨_, rfl⟩

/-! ## Declarations -/

theorem Line.WritesOpening.isName {cs : List Char} {kind : BlockKind} {name : String}
    (h : WritesOpening cs kind name) : IsName name.toList := by
  rcases h with ⟨-, n, rest, ⟨-, -, -, -, -, hname, -⟩, rfl⟩ | ⟨-, rfl, -⟩
  · rwa [String.toList_ofList]
  · have hstart : ∀ d ∈ "terminate".toList, isNameStart d = true :=
      List.all_eq_true.1 rfl
    exact ⟨rfl, fun d hd => isWordChar_of_isNameStart (hstart d (.tail _ hd))⟩

theorem Line.WritesConstant.isName {cs : List Char} {name : String} {value : PropertyValue}
    (h : WritesConstant cs name value) : IsName name.toList := by
  obtain ⟨n, rest, space, source, ⟨-, -, -, -, -, hname, -⟩, -, -, -, -, rfl, -⟩ := h
  rwa [String.toList_ofList]

theorem Declaration.ofText_isName (text : String) :
    ∀ d ∈ (Declaration.ofText text).result, IsName d.name.toList := by
  intro d hd
  obtain ⟨j, hj⟩ := exists_declares hd
  cases hj with
  | constant _ hc =>
    cases hc with
    | constant _ hw => exact hw.isName
  | block _ hblock =>
    obtain ⟨cs, -, hopening⟩ := hblock.opened
    cases hopening with
    | opening _ _ hw => exact hw.isName

namespace Model

/-- Stocks, flows and conditions leave the constants alone. -/
theorem Loads.constants {d : Declaration} {m n : Model} (h : Loads d m n)
    (hkind : d.kind = .stock ∨ isDeferred d = true) : n.constants = m.constants := by
  cases h with
  | data _ _ _ _ _ hkept hother =>
    rcases hkind with hkind | hlast
    · exact absurd hkind hother.1
    · exact hkept hlast
  | stock | flow | ending => rfl

/-- Loading a declaration leaves the constants alone or writes the one that it names. -/
theorem load_constants (m : Model) (d : Declaration) :
    (m.load d).result.constants = m.constants ∨
      ∃ x, (m.load d).result.constants = m.constants.insert d.name x := by
  rcases hkind : d.kind
  case const =>
    obtain ⟨g, hg⟩ := (m.constantOf_result ("const " ++ d.name) (some 0.0)
      (d.properties.get? "value")).1
    simp only [load, hkind, loadConstant, Noted.result_bind, Noted.result_pure, hg]
    exact .inr ⟨_, rfl⟩
  case graph | lookup | lookup2d =>
    simp only [load, hkind]
    exact .inl rfl
  case stock => exact .inl ((m.load_loads d).constants (.inl hkind))
  case flow | terminate =>
    exact .inl ((m.load_loads d).constants (.inr (by rw [isDeferred, hkind]; rfl)))

/-- Constants and stocks have names that a declaration can give. -/
structure Named (m : Model) : Prop where
  constants : ∀ name, m.constants.contains name = true → IsName name.toList
  stocks : ∀ name, m.stocks.contains name = true → IsName name.toList

theorem Named.load {m : Model} (hm : m.Named) {d : Declaration} (hd : IsName d.name.toList) :
    (m.load d).result.Named := by
  constructor
  · intro name h
    rcases m.load_constants d with hsame | ⟨x, hput⟩
    · rw [hsame] at h
      exact hm.constants name h
    · rw [hput] at h
      rcases (Table.contains_insert _ _ _ _).1 h with h | rfl
      · exact hm.constants name h
      · exact hd
  · intro name h
    rcases ((m.load_loads d).contains name).1 h with h | ⟨-, rfl⟩
    · exact hm.stocks name h
    · exact hd

theorem Named.loadAll : ∀ {ds : List Declaration} {m : Model}, m.Named →
    (∀ d ∈ ds, IsName d.name.toList) → (loadAll ds m).result.Named
  | [], _, hm, _ => hm
  | d :: _, _, hm, hds =>
    (hm.load (hds d (.head _))).loadAll fun e he => hds e (.tail _ he)

theorem ofText_named (c : Capacities) (text : String) :
    ∃ m : Model, (ofText c text).result = m.record ∧ m.Named := by
  have hempty : (empty c.history (.withCapacity c.diagnostics .warning)).Named :=
    ⟨fun _ => nofun, fun _ => nofun⟩
  have hnames := Declaration.ofText_isName text
  exact ⟨_, rfl, (hempty.loadAll fun d hd => hnames d (List.mem_filter.1 hd).1).loadAll
    fun d hd => hnames d (List.mem_filter.1 hd).1⟩

theorem Named.of_design {m n : Model} (hm : m.Named) (h : n.design = m.design) : n.Named := by
  have hconstants : n.constants = m.constants := congrArg (·.constants) h
  refine ⟨hconstants ▸ hm.constants, fun name hname => hm.stocks name ?_⟩
  rwa [contains_of_design h] at hname

theorem Reachable.named {c : Capacities} {text : String} {m : Model} (h : Reachable c text m) :
    m.Named :=
  h.of_text (ofText_named c text) fun hm hdesign => hm.of_design hdesign

end Model

/-! ## Values -/

/-- In front of its constant and its stock a declared name stands for nothing, but for two universal
values and two of the clock. -/
theorem Scope.resolve_isName {name : String} (hname : IsName name.toList)
    (hfree : name ∉ ["PI", "E", "TIME", "dt"]) (s : Scope) :
    (∀ v, s.constant? name = some v → s.resolve name = .ok v) ∧
      ∀ x, s.constant? name = none → s.stock? name = some x →
        s.resolve name = .ok (.ofNamed name x) := by
  simp only [List.mem_cons, List.not_mem_nil, or_false, not_or] at hfree
  obtain ⟨hcircle, hbase, htime, hdt⟩ := hfree
  have huniversal : universal? name = none := by
    unfold universal?
    split <;> first | contradiction | rfl
  have hclock : s.clock.bind (ofClock? · name) = none := by
    refine Option.bind_eq_none_iff.2 fun c _ => ofClock?_eq_none (fun hmem => ?_) c
    simp only [clockNames, List.mem_cons, List.not_mem_nil, or_false] at hmem
    rcases hmem with rfl | rfl | rfl | rfl
    · exact htime rfl
    · exact absurd hname.1 (by decide)
    · exact hdt rfl
    · exact absurd hname.1 (by decide)
  constructor
  · intro v hv
    simp only [resolve, huniversal, hclock, hv]
  · intro x hnone hx
    simp only [resolve, huniversal, hclock, hnone, hx]

namespace Model

/-- The value of a formula that is a name. -/
theorem evaluate_name {f : Formula} {name : String} (hbody : f.body = .ok (.name name))
    (hpurpose : f.purpose = .number) {n : Model} {x : Float}
    (hvalue : n.scope.resolve name = .ok (.ofNamed name x)) (hx : x.isFinite = true) :
    n.evaluate f = pure (n, .number x) := by
  have hreal : Value.ofNamed name x = .real x :=
    if_neg (Bool.not_eq_true _ ▸ isNaN_of_finite hx)
  rw [hreal] at hvalue
  have heval : ((Code.name name).eval n.scope).run n.memory = (.ok (.real x), n.memory) := by
    rw [Code.eval, hvalue]
    rfl
  have hattempt : Formula.attempt f.purpose (.name name) n.scope n.memory = .ok (.number x) := by
    rw [Formula.attempt, heval, hpurpose]
    exact if_pos hx
  simp only [evaluate, Formula.evaluate_of_body hbody, hattempt, heval, remember_memory]
  rfl

/-- In a model that has been reached from a text, the name of a constant or of a stock is an
expression exactly if it is in ASCII. Then compiling it reports nothing and leaves the model as it
is, and the formula has the value of the constant or, where there is none, of the stock, in this
model and in all others. In place of any other name the value is zero. -/
theorem Reachable.declared_name {c : Capacities} {text : String} {m : Model}
    (hm : Reachable c text m) {name : String}
    (hname : m.constants.contains name = true ∨ m.stocks.contains name = true)
    (hfree : name ∉ ["PI", "E", "TIME", "dt"]) (source : String) :
    ∃ f : Formula, (m.compile name source .number).result.2 = f ∧
      (f.error? = none ↔ Ascii name.toList) ∧
      (Ascii name.toList → m.compile name source .number = pure (m, f) ∧ ∀ n : Model,
        (∀ x, n.constants.get? name = some x → x.isFinite = true →
          n.evaluate f = pure (n, .number x)) ∧
        ∀ s, n.constants.contains name = false → n.stocks.get? name = some s →
          s.value.isFinite = true → n.evaluate f = pure (n, .number s.value)) ∧
      (¬ Ascii name.toList → ∀ n : Model, n.evaluate f = pure (n, .number 0.0)) := by
  have hword : IsName name.toList := hname.elim (hm.named.constants name) (hm.named.stocks name)
  obtain ⟨hparse, hreject⟩ := Expr.parse_word hword
  by_cases hascii : Ascii name.toList
  · have hcompile : m.compile name source .number =
        pure (m, ⟨name, source, .number, .ok (.name name)⟩) := by
      simp only [compile, Formula.compile, hparse hascii]
      rfl
    refine ⟨_, rfl, ?_, fun _ => ⟨?_, fun n => ⟨fun x hx hfinite => ?_, ?_⟩⟩, (absurd hascii ·)⟩
    · rw [hcompile]
      exact iff_of_true rfl hascii
    · rw [hcompile]
      rfl
    · rw [hcompile]
      refine evaluate_name rfl rfl ((Scope.resolve_isName hword hfree n.scope).1 _ ?_) hfinite
      exact congrArg (Option.map (Value.ofNamed name)) hx
    · intro s hconstant hs hfinite
      rw [hcompile]
      have hnone : n.constants.get? name = none := Option.isNone_iff_eq_none.1
        (Option.isSome_eq_false_iff.1 hconstant)
      refine evaluate_name rfl rfl ((Scope.resolve_isName hword hfree n.scope).2 _ ?_ ?_) hfinite
      · exact congrArg (Option.map (Value.ofNamed name)) hnone
      · exact congrArg (Option.map (·.value)) hs
  · obtain ⟨e, he⟩ := hreject hascii
    have hformula : (m.compile name source .number).result.2 =
        ⟨name, source, .number, .error e⟩ := by
      simp only [compile, Formula.compile, he]
      rfl
    refine ⟨_, hformula, iff_of_false (Option.some_ne_none e) hascii, (absurd · hascii), fun _ n => ?_⟩
    simp only [evaluate, Formula.evaluate]
    rfl

/-- A constant that hides a stock, and a stock. -/
def lagoon : String :=
  "const K = 2\nstock K \x7b\ninitial: 9\n\x7d\nstock Level_1 \x7b\ninitial: 5\n\x7d"

theorem declared_name_lagoon : ∃ f g : Formula,
    ((ofText .default lagoon).result.compile "K" "a rate" .number).result.2 = f ∧
      (ofText .default lagoon).result.evaluate f =
        pure ((ofText .default lagoon).result, .number 2.0) ∧
      ((ofText .default lagoon).result.compile "Level_1" "a rate" .number).result.2 = g ∧
      (ofText .default lagoon).result.evaluate g =
        pure ((ofText .default lagoon).result, .number 5.0) := by
  have hreachable : Reachable .default lagoon (ofText .default lagoon).result := ⟨[], rfl⟩
  have hhidden : (ofText .default lagoon).result.constants.get? "K" = some 2.0 := by
    decide +kernel
  have hstock : (ofText .default lagoon).result.stocks.get? "Level_1" =
      some ⟨5.0, none, none, none⟩ := by
    decide +kernel
  have hnone : (ofText .default lagoon).result.constants.contains "Level_1" = false := by
    decide +kernel
  obtain ⟨f, hf, -, hvalue, -⟩ := hreachable.declared_name (.inl (Option.isSome_of_eq_some hhidden))
    (by decide) "a rate"
  obtain ⟨g, hg, -, hlevel, -⟩ := hreachable.declared_name (.inr (Option.isSome_of_eq_some hstock))
    (by decide) "a rate"
  exact ⟨f, g, hf, ((hvalue (by decide +kernel)).2 _).1 _ hhidden (by decide), hg,
    ((hlevel (by decide +kernel)).2 _).2 _ hnone hstock (by decide)⟩

/-- A stock whose name is not in ASCII. -/
def estuary : String := "stock Größe \x7b\ninitial: 3\n\x7d"

/-- The stock is there under its name, with a finite value, and no constant hides it; but its name
is no expression. -/
theorem declared_name_estuary :
    (ofText .default estuary).result.stocks.get? "Größe" = some ⟨3.0, none, none, none⟩ ∧
      (ofText .default estuary).result.constants.contains "Größe" = false ∧
      "Größe" ∉ ["PI", "E", "TIME", "dt"] ∧ (3.0 : Float).isFinite = true ∧
      ((ofText .default estuary).result.compile "Größe" "a rate" .number).result.2.error? =
        some (.located (.unexpectedCharacter 'ö') "Größe" 2) := by
  decide +kernel

end Model

end SystemDynamics
