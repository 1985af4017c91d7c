import SystemDynamics.Text.CharacterName.AToC
import SystemDynamics.Text.CharacterName.DToK
import SystemDynamics.Text.CharacterName.LToR
import SystemDynamics.Text.CharacterName.SToZ
import SystemDynamics.Text.Range
/-!
# Names of characters

The characters of Unicode 14 have names. Most are listed. Ideographs of some scripts are named by
their code points, and Korean syllables by what they are put together from. Listed names may be
written in small letters, and so may names by code point that are not of the unified ideographs.
-/

namespace SystemDynamics.Text

/-- Whether a name is listed, `prior` being the name before the part of the list that is left,
`shared` how much of that the next name shares, and `added` what was read of its rest, the last
character first. -/
def isListed (name prior : List Char) (shared : Nat) (added : List Char) : List Char → Bool
  | [] => prior.take shared ++ added.reverse = name
  | c :: cs =>
    if c.isLower then
      let step := c.toNat - 'a'.toNat
      if added = [] then isListed name prior (shared + step) [] cs
      else
        let current := prior.take shared ++ added.reverse
        current = name || isListed name current step [] cs
    else isListed name prior shared (c :: added) cs

/-- The list that a name is in, if it is in any. -/
def namesLike (name : List Char) : List String :=
  match name with
  | [] => []
  | c :: _ =>
    if c ≤ 'C' then namesAToC else if c ≤ 'K' then namesDToK
    else if c ≤ 'R' then namesLToR else namesSToZ

/-- Ideographs that are named by their code points: how the names begin, and the ranges. -/
def ideographs : List (String × List (Nat × Nat)) :=
  [("CJK COMPATIBILITY IDEOGRAPH-", [(0xF900, 0xFA6D), (0xFA70, 0xFAD9), (0x2F800, 0x2FA1D)]),
   ("KHITAN SMALL SCRIPT CHARACTER-", [(0x18B00, 0x18CD5)]),
   ("NUSHU CHARACTER-", [(0x1B170, 0x1B2FB)])]

/-- The unified ideographs, whose names have four or five digits. -/
def unifiedIdeographs : String × List (Nat × Nat) :=
  ("CJK UNIFIED IDEOGRAPH-",
    [(0x3400, 0x4DBF), (0x4E00, 0x9FFF), (0x20000, 0x2A6DF), (0x2A700, 0x2B738),
     (0x2B740, 0x2B81D), (0x2B820, 0x2CEA1), (0x2CEB0, 0x2EBE0), (0x30000, 0x3134A)])

/-- What follows the beginning of a text. -/
def behind? (beginning : String) (name : List Char) : Option (List Char) :=
  if beginning.toList.isPrefixOf name then some (name.drop beginning.length) else none

/-- The code point that capital hexadecimal digits write. -/
def codePoint? (digits : List Char) : Option Nat :=
  if digits.all fun c => c.isDigit || ('A' ≤ c && c ≤ 'F') then
    some (digits.foldl (fun n c =>
      n * 16 + if c.isDigit then c.toNat - '0'.toNat else c.toNat - 'A'.toNat + 10) 0)
  else none

/-- Whether a name is that of a unified ideograph. -/
def namesUnified (name : List Char) : Bool :=
  match behind? unifiedIdeographs.1 name with
  | none => false
  | some digits =>
    (digits.length = 4 || digits.length = 5) &&
      (codePoint? digits).any (inRanges unifiedIdeographs.2)

/-- Whether a name is that of another ideograph. Its digits have no zeros in front. -/
def namesIdeograph (name : List Char) : Bool :=
  ideographs.any fun (beginning, ranges) =>
    match behind? beginning name with
    | none => false
    | some digits =>
      digits.head?.any (· ≠ '0') && (codePoint? digits).any (inRanges ranges)

/-- The parts of Korean syllables: consonants, vowels, and consonants at the end. -/
def initials : List String :=
  ["", "G", "GG", "N", "D", "DD", "R", "M", "B", "BB", "S", "SS", "J", "JJ", "C", "K", "T", "P",
   "H"]

def vowels : List String :=
  ["A", "AE", "YA", "YAE", "EO", "E", "YEO", "YE", "O", "WA", "WAE", "OE", "YO", "U", "WEO", "WE",
   "WI", "YU", "EU", "YI", "I"]

def finals : List String :=
  ["", "G", "GG", "GS", "N", "NJ", "NH", "D", "L", "LG", "LM", "LB", "LS", "LT", "LP", "LH", "M",
   "B", "BS", "S", "SS", "NG", "J", "C", "K", "T", "P", "H"]

/-- What follows the longest of some parts that a text begins with. -/
def behindLongest? (parts : List String) (name : List Char) : Option (List Char) :=
  let fitting := parts.filter fun p => p.toList.isPrefixOf name
  let longest := fitting.foldl (fun n p => max n p.length) 0
  if fitting = [] then none else some (name.drop longest)

/-- Whether a name is that of a Korean syllable. -/
def namesSyllable (name : List Char) : Bool :=
  (do
    let parts ← behind? "HANGUL SYLLABLE " name
    let parts ← behindLongest? initials parts
    let parts ← behindLongest? vowels parts
    behindLongest? finals parts) = some []

/-- Whether a character has the name. -/
def isCharacterName (name : List Char) : Bool :=
  let capitals := name.map Char.toUpper
  namesSyllable name || namesUnified name || namesIdeograph capitals ||
    isListed capitals [] 0 [] ((namesLike capitals).flatMap String.toList)

end SystemDynamics.Text
