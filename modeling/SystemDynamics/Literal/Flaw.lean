/-!
# Flaws of literals

What can be wrong with a text that should be a literal, each flaw with the words it is reported
in. A flaw inside the braces of a formatted text says so in front.
-/

namespace SystemDynamics.Literal

/-- What is wrong with an escape in a text: which one it is. -/
inductive EscapeFlaw where
  | short (written : String)
  | noCharacter
  | badName
  | unknownName
  deriving DecidableEq, Repr

/-- What is wrong with a formatted text. -/
inductive TemplateFlaw where
  | loneBrace
  | tooDeep
  | backslash
  | comment
  | tooManyBrackets
  | unmatched (bracket : Char)
  | mismatched (closing opening : Char)
  | openText
  | unended
  | empty
  | emptyBefore (c : Char)
  | badConversion
  deriving DecidableEq, Repr

/-- What is wrong with a text that should be a literal. -/
inductive Flaw where
  /-- Nothing that is known fits. -/
  | badForm
  | badNumber (kind : String)
  | badDigit (digit : Char) (kind : String)
  | leadingZeros
  | tooManyDigits (count : Nat)
  | openText (long : Bool)
  | backslash
  | tooManyBrackets
  | unmatched (bracket : Char)
  | mismatched (closing opening : Char)
  | neverClosed (bracket : Char)
  | badCharacter (c : Char)
  | hiddenCharacter (c : Char)
  | nullCharacter
  | notPlain
  | mixedTexts
  /-- An escape of a text, from one place up to another. -/
  | badEscape (first next : Nat) (flaw : EscapeFlaw)
  | badOctet (place : Nat)
  | template (flaw : TemplateFlaw)
  | inTemplate (flaw : Flaw)
  | missingComma
  | missingElse
  | notCalled (name : String)
  | badAssignment (target : String)
  | notAssignable (target : String)
  | notAssignableHere (target : String)
  | equalsMeant
  | comparisonMeant
  | unpackedAfterKeywords
  | openGenerator
  | positionAfterKeyword (unpacked : Bool)
  | unpackedGenerator
  | openTarget
  | unpackedEntries
  | noDefault
  | defaultBefore
  | parametersInBrackets
  | nothingBeforeSlash
  | secondSlash
  | slashBehindStar
  | noCommaBeforeStar
  | nothingBehindStar
  | starDefault
  | secondStar
  | doubleStarDefault
  | behindDoubleStar
  | nothingStarred
  | loneStar
  | loneDoubleStar
  | starredEntry
  | noEntry
  | noColon
  deriving DecidableEq, Repr

/-- A code point in hexadecimal digits, at least four. -/
def hexadecimal (c : Char) : String :=
  let digits := (Nat.toDigits 16 c.toNat).map Char.toUpper
  String.ofList (List.replicate (4 - digits.length) '0' ++ digits)

def EscapeFlaw.message : EscapeFlaw → String
  | .short written => "truncated \\" ++ written ++ " escape"
  | .noCharacter => "illegal Unicode character"
  | .badName => "malformed \\N character escape"
  | .unknownName => "unknown Unicode character name"

def TemplateFlaw.message : TemplateFlaw → String
  | .loneBrace => "f-string: single '\x7d' is not allowed"
  | .tooDeep => "f-string: expressions nested too deeply"
  | .backslash => "f-string expression part cannot include a backslash"
  | .comment => "f-string expression part cannot include '#'"
  | .tooManyBrackets => "f-string: too many nested parenthesis"
  | .unmatched c => "f-string: unmatched '" ++ toString c ++ "'"
  | .mismatched c o => "f-string: closing parenthesis '" ++ toString c ++
      "' does not match opening parenthesis '" ++ toString o ++ "'"
  | .openText => "f-string: unterminated string"
  | .unended => "f-string: expecting '\x7d'"
  | .empty => "f-string: empty expression not allowed"
  | .emptyBefore c => "f-string: expression required before '" ++ toString c ++ "'"
  | .badConversion => "f-string: invalid conversion character: expected 's', 'r', or 'a'"

/-- The words a flaw is reported in. -/
def Flaw.message : Flaw → String
  | .badForm => "invalid syntax"
  | .badNumber kind => "invalid " ++ kind ++ " literal"
  | .badDigit digit kind => "invalid digit '" ++ toString digit ++ "' in " ++ kind ++ " literal"
  | .leadingZeros => "leading zeros in decimal integer literals are not permitted; " ++
      "use an 0o prefix for octal integers"
  | .tooManyDigits count => "Exceeds the limit (4300 digits) for integer string conversion: " ++
      "value has " ++ toString count ++ " digits; use sys.set_int_max_str_digits() to increase " ++
      "the limit - Consider hexadecimal for huge integer literals to avoid decimal conversion " ++
      "limits."
  | .openText long => "unterminated " ++ (if long then "triple-quoted " else "") ++
      "string literal (detected at line 1)"
  | .backslash => "unexpected character after line continuation character"
  | .tooManyBrackets => "too many nested parentheses"
  | .unmatched c => "unmatched '" ++ toString c ++ "'"
  | .mismatched c o => "closing parenthesis '" ++ toString c ++
      "' does not match opening parenthesis '" ++ toString o ++ "'"
  | .neverClosed c => "'" ++ toString c ++ "' was never closed"
  | .badCharacter c => "invalid character '" ++ toString c ++ "' (U+" ++ hexadecimal c ++ ")"
  | .hiddenCharacter c => "invalid non-printable character U+" ++ hexadecimal c
  | .nullCharacter => "source code string cannot contain null bytes"
  | .notPlain => "bytes can only contain ASCII literal characters"
  | .mixedTexts => "cannot mix bytes and nonbytes literals"
  | .badEscape first next flaw => "(unicode error) 'unicodeescape' codec can't decode bytes in " ++
      "position " ++ toString first ++ "-" ++ toString (next - 1) ++ ": " ++ flaw.message
  | .badOctet place => "(value error) invalid \\x escape at position " ++ toString place
  | .template flaw => flaw.message
  | .inTemplate flaw => "f-string: " ++ flaw.message
  | .missingComma => "invalid syntax. Perhaps you forgot a comma?"
  | .missingElse => "expected 'else' after 'if' expression"
  | .notCalled name => "Missing parentheses in call to '" ++ name ++ "'. Did you mean " ++ name ++
      "(...)?"
  | .badAssignment target => "cannot use assignment expressions with " ++ target
  | .notAssignable target => "cannot assign to " ++ target
  | .notAssignableHere target => "cannot assign to " ++ target ++
      " here. Maybe you meant '==' instead of '='?"
  | .equalsMeant => "invalid syntax. Maybe you meant '==' or ':=' instead of '='?"
  | .comparisonMeant => "expression cannot contain assignment, perhaps you meant \"==\"?"
  | .unpackedAfterKeywords => "iterable argument unpacking follows keyword argument unpacking"
  | .openGenerator => "Generator expression must be parenthesized"
  | .positionAfterKeyword unpacked => "positional argument follows keyword argument" ++
      (if unpacked then " unpacking" else "")
  | .unpackedGenerator => "iterable unpacking cannot be used in comprehension"
  | .openTarget => "did you forget parentheses around the comprehension target?"
  | .unpackedEntries => "dict unpacking cannot be used in dict comprehension"
  | .noDefault => "expected default value expression"
  | .defaultBefore => "non-default argument follows default argument"
  | .parametersInBrackets => "Lambda expression parameters cannot be parenthesized"
  | .nothingBeforeSlash => "at least one argument must precede /"
  | .secondSlash => "/ may appear only once"
  | .slashBehindStar => "/ must be ahead of *"
  | .noCommaBeforeStar => "expected comma between / and *"
  | .nothingBehindStar => "named arguments must follow bare *"
  | .starDefault => "var-positional argument cannot have default value"
  | .secondStar => "* argument may appear only once"
  | .doubleStarDefault => "var-keyword argument cannot have default value"
  | .behindDoubleStar => "arguments cannot follow var-keyword argument"
  | .nothingStarred => "Invalid star expression"
  | .loneStar => "cannot use starred expression here"
  | .loneDoubleStar => "cannot use double starred expression here"
  | .starredEntry => "cannot use a starred expression in a dictionary value"
  | .noEntry => "expression expected after dictionary key and ':'"
  | .noColon => "':' expected after dictionary key"

end SystemDynamics.Literal
