import SystemDynamics.Proofs.BracketedTexts
import SystemDynamics.Proofs.LoadingLimits
import SystemDynamics.Proofs.WellFormed

/-!
# Texts that nest too deeply

A text makes a well-formed model unless a rate or a condition in it takes more calls than may be
opened (`Model.ofTextWithin_wellFormed`). A number in 99 parentheses is such a rate
(`Model.ofTextWithin_torrent`).
-/

namespace SystemDynamics

open Text Reading

namespace Model

/-- A text makes the model that it makes without a limit, which is well-formed, whatever its
capacities, or it makes none. It makes one where every rate and condition takes no more calls than
may be opened; those that are no expressions do not count. -/
theorem ofTextWithin_wellFormed (calls : Nat) (c : Capacities) (text : String) :
    (∃ m : Model, (ofTextWithin calls c text).result = .ok m ∧ m = (ofText c text).result ∧
        m.WellFormed (Declaration.ofText text).result ∧
        ∀ d ∈ (Declaration.ofText text).result, d.Fits calls) ∨
      ((ofTextWithin calls c text).result = .error .nestedTooDeeply ∧
        ∃ d ∈ (Declaration.ofText text).result, d.Deep calls) := by
  cases ofTextWithin_within calls c text with
  | same result hfits =>
    refine .inl ⟨_, ?_, rfl, ofText_wellFormed c text, hfits⟩
    rw [result, Noted.result_map]
  | failed result _ hdeep => exact .inr ⟨result, hdeep⟩

end Model

/-! ## A flow of a number in parentheses -/

theorem Expr.nested_succ (n : Nat) :
    Expr.nested (n + 1) = String.ofList (bracketed (Expr.nested n).toList) := by
  rw [Expr.nested, Expr.nested, String.toList_ofList, bracketed, List.append_assoc,
    List.cons_append, ← List.replicate_succ', ← List.cons_append, ← List.replicate_succ]

/-- What has no end of a line in it stays on its line. -/
theorem Text.linesFrom_append {cs : List Char} (hcs : ∀ c ∈ cs, isLineEnd c = false)
    (line rest : List Char) :
    linesFrom line (cs ++ rest) = linesFrom (cs.reverse ++ line) rest := by
  induction cs generalizing line with
  | nil => rfl
  | cons c cs ih =>
    have hc : isLineEnd c = false := hcs c (.head cs)
    have hreturn : c ≠ '\r' := by
      rintro rfl
      exact absurd hc (by decide)
    have hnext : linesFrom line (c :: (cs ++ rest)) = linesFrom (c :: line) (cs ++ rest) := by
      rw [linesFrom]
      · rw [if_neg (by rw [hc]; exact Bool.false_ne_true)]
      · rintro _ rfl
        exact absurd rfl hreturn
    rw [List.cons_append, hnext, ih fun d hd => hcs d (.tail c hd), List.reverse_cons,
      List.append_assoc]
    rfl

/-- A number in parentheses is an expression. -/
theorem Formula.not_refused_nested (n : Nat) : ¬ Formula.Refused (Expr.nested n) := by
  rintro ⟨source, slots, e, he⟩
  have hparse := (Expr.parse_of_cuts (Lexer.cuts_nested n) _).2 (Expr.derives_nested n)
  rw [compile, hparse] at he
  cases he

namespace Model

/-- The lines of the text of a flow in which a rate is spelt in some way. -/
def torrentLines (rate : List Char) : List (List Char) :=
  ["stock S \x7b".toList, ['\x7d'], "flow F \x7b".toList, "to: S".toList,
    "rate".toList ++ (':' :: ' ' :: rate), ['\x7d']]

theorem lines_torrent {rate : List Char} (hrate : ∀ c ∈ rate, isLineEnd c = false) :
    Text.lines (torrent (String.ofList rate)).toList = torrentLines rate := by
  have htext : (torrent (String.ofList rate)).toList =
      "stock S \x7b\n\x7d\nflow F \x7b\nto: S\nrate: ".toList ++ (rate ++ "\n\x7d".toList) := by
    unfold torrent
    rw [String.toList_append, String.toList_append, @String.toList_ofList rate, List.append_assoc]
  have hfront : ∀ rest,
      Text.lines ("stock S \x7b\n\x7d\nflow F \x7b\nto: S\nrate: ".toList ++ rest) =
        ["stock S \x7b".toList, ['\x7d'], "flow F \x7b".toList, "to: S".toList] ++
          linesFrom [' ', ':', 'e', 't', 'a', 'r'] rest := by
    intro rest
    rfl
  have hback : ∀ line, linesFrom line "\n\x7d".toList = [line.reverse, ['\x7d']] := fun _ => rfl
  rw [htext, hfront, linesFrom_append hrate, hback, List.reverse_append, List.reverse_reverse]
  rfl

/-- A rate in parentheses is declared as it is spelt. -/
theorem mem_ofText_torrent {cs : List Char} (hcs : ∀ c ∈ cs, isLineEnd c = false) :
    ∃ d ∈ (Declaration.ofText (torrent (String.ofList (bracketed cs)))).result,
      d.formula? = some (String.ofList (bracketed cs)) := by
  have hrate : ∀ c ∈ bracketed cs, isLineEnd c = false := by
    rintro c (_ | ⟨_, hc⟩)
    · rfl
    · rcases List.mem_append.1 hc with hc | hc
      · exact hcs c hc
      · rw [List.mem_singleton.1 hc]
        rfl
  -- The block of the flow is open when its rate is read.
  have hstart : ∀ rate, (Reader.start.feedAll 1 (torrentLines rate)).result =
      ((Reader.feed ⟨[⟨.stock, "S", .empty, [], 1⟩],
        some ⟨.flow, "F", .ofList [("to", .expression "S")], [], 3⟩⟩ 5
        ("rate".toList ++ (':' :: ' ' :: rate))).result.feed 6 ['\x7d']).result := by
    intro rate
    rfl
  have hproperty : ∃ c rest, strip ("rate".toList ++ (':' :: ' ' :: bracketed cs)) = c :: rest ∧
      c ∈ ['v', 'i', 'm', 'r', 'w'] ∧
      Line.property? (c :: rest) = some ("rate", .read (bracketed cs)) := by
    have hnil : Line.Blanks [] := nofun
    have hblank : Line.Blanks [' '] := by
      rintro c (_ | ⟨_, ⟨⟩⟩)
      rfl
    have hkey : "rate" ∈ numericKeys := by decide
    have hline := Line.property_line hkey hnil hnil hnil hblank (Line.solid_bracketed cs)
    simpa only [List.nil_append, List.append_nil, List.append_assoc, List.cons_append] using hline
  have hfeed := Reader.feed_property ⟨[⟨.stock, "S", .empty, [], 1⟩],
    some ⟨.flow, "F", .ofList [("to", .expression "S")], [], 3⟩⟩ 5 hproperty
  have hread : (Declaration.ofText (torrent (String.ofList (bracketed cs)))).result =
      (Reader.start.feedAll 1
        (Text.lines (torrent (String.ofList (bracketed cs))).toList)).result.declarations := rfl
  rw [lines_torrent hrate, hstart, hfeed, PropertyValue.read_bracketed] at hread
  rw [hread]
  exact ⟨_, .tail _ (.head _), rfl⟩

/-- A flow of a number in 99 parentheses or more cannot be loaded. -/
theorem ofTextWithin_torrent (c : Capacities) {n : Nat} (hn : 99 ≤ n) :
    (ofTextWithin Depth.standard c (torrent (Expr.nested n))).result =
      .error .nestedTooDeeply := by
  obtain ⟨k, rfl⟩ : ∃ k, n = k + 1 := ⟨n - 1, by omega⟩
  have hline : ∀ c ∈ (Expr.nested k).toList, isLineEnd c = false := by
    intro c hc
    rw [Expr.nested, String.toList_ofList] at hc
    simp only [List.mem_append, List.mem_cons, List.mem_replicate] at hc
    rcases hc with ⟨-, rfl⟩ | rfl | ⟨-, rfl⟩ <;> rfl
  obtain ⟨d, hd, hformula⟩ := mem_ofText_torrent hline
  rw [← Expr.nested_succ] at hd hformula
  cases ofTextWithin_within Depth.standard c (torrent (Expr.nested (k + 1))) with
  | same _ hfits =>
    have hcalls := (hfits d hd _ hformula).resolve_right (Formula.not_refused_nested _)
    have hle := Expr.le_parseCalls_nested (k + 1)
    have hparse := Formula.parseCalls_le_calls (Expr.nested (k + 1))
    have hstandard : Depth.standard = 990 := rfl
    omega
  | failed result => exact result

/-- Not every text makes a model. -/
theorem ofTextWithin_wellFormed_torrent :
    ¬ ∀ text : String, ∃ m, (ofTextWithin Depth.standard .default text).result = .ok m := by
  intro h
  obtain ⟨m, hm⟩ := h (torrent (Expr.nested 120))
  rw [ofTextWithin_torrent _ (by decide)] at hm
  cases hm

end Model

end SystemDynamics
