import Mathlib.Data.List.Forall2
import SystemDynamics.Proofs.Parsing
/-!
# Writing tokens out again

The words of a row of tokens with one space between them are read as the same tokens. Every word is
read whole and by its own kind, as it begins a lexeme in front of a space as well as at the end
(`Lexer.ends_of_isBlank`), whatever stood behind it before; and the space is a lexeme of its own,
since no token starts with a blank. What a text means is left to its tokens, so the text that is
written out has the tree of the first one, or like it none.
-/

namespace SystemDynamics

open Text

namespace Lexer

/-- Words with one space between them. -/
def spaced (words : List (List Char)) : List Char := [' '].intercalate words

theorem spaced_cons_cons (w v : List Char) (words : List (List Char)) :
    spaced (w :: v :: words) = w ++ ' ' :: spaced (v :: words) := rfl

/-- The words of tokens are read as these tokens. -/
theorem cuts_spaced {ts : List Token} {words : List (List Char)}
    (h : List.Forall₂ (fun t w => Reads (some t) w) ts words) : Cuts (spaced words) ts := by
  induction h with
  | nil => exact .nil
  | @cons t w ts words hreads hwords ih =>
    cases hwords with
    | nil => exact .token hreads (ends_of_isBlank t nofun) .nil
    | @cons u v us words hv hwords =>
      have hblank : isBlank ' ' = true := rfl
      have hstart : ∀ d ∈ (spaced (v :: words)).head?, isBlank d = false := by
        obtain ⟨c, more, rfl, hc⟩ := hv.starts
        have hhead : (spaced ((c :: more) :: words)).head? = some c := by
          cases words <;> rfl
        rw [hhead]
        rintro d ⟨⟩
        exact hc.isBlank
      have hspace : Line.Blanks [' '] := by
        rintro c (_ | ⟨_, ⟨⟩⟩)
        exact hblank
      rw [spaced_cons_cons]
      exact .token hreads (ends_of_isBlank t (by rintro c ⟨⟩; exact hblank))
        (.gap hspace hstart ih)

/-- The tokens in front of the end can be written. -/
theorem Spells.exists_words {n : Nat} {cs : List Char} {tokens : List Placed}
    (h : Spells n cs tokens) : ∃ ps stop words, tokens = ps ++ [⟨.finish, stop⟩] ∧
      List.Forall₂ (fun t w => Reads (some t) w) (ps.map Placed.token) words := by
  induction h with
  | finish n => exact ⟨[], n, [], rfl, .nil⟩
  | gap _ _ ih => exact ih
  | @token n t w _ _ hreads _ ih =>
    obtain ⟨ps, stop, words, rfl, hwords⟩ := ih
    exact ⟨⟨t, n⟩ :: ps, stop, w :: words, rfl, .cons hreads hwords⟩

end Lexer

/-- The tokens of a text can be written out, and however they are, with one space between them the
words have the same tokens and the same tree, if there is one. -/
theorem tokenize_respaced (text : String) (tokens : List Placed)
    (h : tokenize text = .ok tokens) :
    (∃ words, List.Forall₂ Token.Spelling (Parser.bare tokens) words) ∧
    ∀ words, List.Forall₂ Token.Spelling (Parser.bare tokens) words →
      ∃ again, tokenize (String.ofList (Lexer.spaced words)) = .ok again ∧
        again.map Placed.token = tokens.map Placed.token ∧
        ∀ x, Expr.parse (String.ofList (Lexer.spaced words)) = .ok x ↔ Expr.parse text = .ok x := by
  obtain ⟨ps, stop, words, rfl, hwords⟩ := (tokenize_spells h).exists_words
  have hbare : Parser.bare (ps ++ [⟨.finish, stop⟩]) = ps.map Placed.token := by
    simp [Parser.bare]
  rw [hbare]
  obtain ⟨hproper, hspelled⟩ := (List.forall₂_and_left _ _).1 hwords
  refine ⟨⟨words, hspelled⟩, fun words' hwords' => ?_⟩
  obtain ⟨qs, stop', hscan, hqs⟩ :=
    Lexer.cuts_spaced ((List.forall₂_and_left _ _).2 ⟨hproper, hwords'⟩) 0
  have hagain : tokenize (String.ofList (Lexer.spaced words')) =
      .ok (qs ++ [⟨.finish, stop'⟩]) := by
    rw [tokenize, String.toList_ofList, hscan]
  have hfinish : ∀ {rs : List Placed}, rs.map Placed.token = ps.map Placed.token →
      ∀ p ∈ rs, p.token ≠ .finish := fun hrs p hp ht =>
    (ht ▸ hproper p.token (hrs ▸ List.mem_map_of_mem hp) : Token.Proper .finish)
  refine ⟨_, hagain, by rw [List.map_append, List.map_append, hqs]; rfl, fun x => ?_⟩
  rw [Expr.parse_of_tokens hagain, Expr.parse_of_tokens h,
    Parser.parseTokens_eq_ok_iff (hfinish hqs), Parser.parseTokens_eq_ok_iff (hfinish rfl), hqs]

/-- A number with a point and an exponent directly in front of a mark of two characters, a name
behind a dollar sign, and texts in both kinds of quotes, each holding quotes of the other. -/
theorem tokenize_respaced_quotes :
    tokenize "1.e5<=$a?'x\"y':\"it's\"" = .ok
      [⟨.number ⟨['1'], true, [], ['e'], ['5']⟩, 0⟩, ⟨.symbol .atMost, 4⟩, ⟨.name "$a", 6⟩,
        ⟨.symbol .question, 8⟩, ⟨.text "x\"y", 9⟩, ⟨.symbol .colon, 14⟩, ⟨.text "it's", 15⟩,
        ⟨.finish, 21⟩] ∧
    ∃ again, tokenize "1.e5 <= $a ? 'x\"y' : \"it's\"" = .ok again ∧
      again.map Placed.token =
        [.number ⟨['1'], true, [], ['e'], ['5']⟩, .symbol .atMost, .name "$a", .symbol .question,
          .text "x\"y", .symbol .colon, .text "it's", .finish] ∧
      ∀ x, Expr.parse "1.e5 <= $a ? 'x\"y' : \"it's\"" = .ok x ↔
        Expr.parse "1.e5<=$a?'x\"y':\"it's\"" = .ok x := by
  have h : tokenize "1.e5<=$a?'x\"y':\"it's\"" = .ok
      [⟨.number ⟨['1'], true, [], ['e'], ['5']⟩, 0⟩, ⟨.symbol .atMost, 4⟩, ⟨.name "$a", 6⟩,
        ⟨.symbol .question, 8⟩, ⟨.text "x\"y", 9⟩, ⟨.symbol .colon, 14⟩, ⟨.text "it's", 15⟩,
        ⟨.finish, 21⟩] := by decide +kernel
  exact ⟨h, (tokenize_respaced _ _ h).2
    ["1.e5".toList, "<=".toList, "$a".toList, "?".toList, "'x\"y'".toList, ":".toList,
      "\"it's\"".toList]
    (.cons rfl (.cons rfl (.cons rfl (.cons rfl
      (.cons ⟨'\'', .inr rfl, by decide, rfl⟩ (.cons rfl
        (.cons ⟨'"', .inl rfl, by decide, rfl⟩ .nil)))))))⟩

end SystemDynamics
