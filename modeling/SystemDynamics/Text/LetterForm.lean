/-!
# Plain letters

Small letters are also written in other forms: as wide, raised, lowered or mathematical letters,
as Roman numbers and as ligatures. Two names are one if their plain letters are.
-/

namespace SystemDynamics.Text

/-- Runs of letters in another form: the first code point, the plain letter of the first, and how
many letters follow each other. -/
def letterForms : List (Nat × Char × Nat) :=
  [(0xAA, 'a', 1), (0xBA, 'o', 1), (0x17F, 's', 1), (0x2B0, 'h', 1), (0x2B2, 'j', 1),
   (0x2B3, 'r', 1), (0x2B7, 'w', 1), (0x2B8, 'y', 1), (0x2E1, 'l', 1), (0x2E2, 's', 1),
   (0x2E3, 'x', 1), (0x1D43, 'a', 1), (0x1D47, 'b', 1), (0x1D48, 'd', 2), (0x1D4D, 'g', 1),
   (0x1D4F, 'k', 1), (0x1D50, 'm', 1), (0x1D52, 'o', 1), (0x1D56, 'p', 1), (0x1D57, 't', 2),
   (0x1D5B, 'v', 1), (0x1D62, 'i', 1), (0x1D63, 'r', 1), (0x1D64, 'u', 2), (0x1D9C, 'c', 1),
   (0x1DA0, 'f', 1), (0x1DBB, 'z', 1), (0x2071, 'i', 1), (0x207F, 'n', 1), (0x2090, 'a', 1),
   (0x2091, 'e', 1), (0x2092, 'o', 1), (0x2093, 'x', 1), (0x2095, 'h', 1), (0x2096, 'k', 4),
   (0x209A, 'p', 1), (0x209B, 's', 2), (0x210A, 'g', 1), (0x210E, 'h', 1), (0x2113, 'l', 1),
   (0x212F, 'e', 1), (0x2134, 'o', 1), (0x2139, 'i', 1), (0x2146, 'd', 2), (0x2148, 'i', 2),
   (0x2170, 'i', 1), (0x2174, 'v', 1), (0x2179, 'x', 1), (0x217C, 'l', 1), (0x217D, 'c', 2),
   (0x217F, 'm', 1), (0x2C7C, 'j', 1), (0xFF41, 'a', 26), (0x107A5, 'q', 1), (0x1D41A, 'a', 26),
   (0x1D44E, 'a', 7), (0x1D456, 'i', 18), (0x1D482, 'a', 26), (0x1D4B6, 'a', 4), (0x1D4BB, 'f', 1),
   (0x1D4BD, 'h', 7), (0x1D4C5, 'p', 11), (0x1D4EA, 'a', 26), (0x1D51E, 'a', 26),
   (0x1D552, 'a', 26), (0x1D586, 'a', 26), (0x1D5BA, 'a', 26), (0x1D5EE, 'a', 26),
   (0x1D622, 'a', 26), (0x1D656, 'a', 26), (0x1D68A, 'a', 26)]

/-- Characters that stand for several letters. -/
def ligatures : List (Nat × String) :=
  [(0x133, "ij"), (0x1C9, "lj"), (0x1CC, "nj"), (0x1F3, "dz"), (0x2171, "ii"), (0x2172, "iii"),
   (0x2173, "iv"), (0x2175, "vi"), (0x2176, "vii"), (0x2177, "viii"), (0x2178, "ix"),
   (0x217A, "xi"), (0x217B, "xii"), (0xFB00, "ff"), (0xFB01, "fi"), (0xFB02, "fl"), (0xFB03, "ffi"),
   (0xFB04, "ffl"), (0xFB05, "st"), (0xFB06, "st")]

/-- The plain letters of a character, itself if it has no other form. -/
def plainLetters (c : Char) : List Char :=
  match letterForms.find? fun (first, _, count) => first ≤ c.toNat && c.toNat < first + count with
  | some (first, letter, _) => [Char.ofNat (letter.toNat + (c.toNat - first))]
  | none =>
    match ligatures.find? fun (code, _) => code = c.toNat with
    | some (_, letters) => letters.toList
    | none => [c]

end SystemDynamics.Text
