import SystemDynamics.Literal.Expression
import SystemDynamics.Literal.Lexer
import SystemDynamics.Literal.Template
/-!
# The grammar of expressions

Every phrase of the grammar has forms, of which the first that fits is taken. A form is a row of
items, and what they read is put together or found to be a known mistake. Phrases for mistakes
only say what is wrong: a form that is nothing else is tried when a text is known not to be an
expression.
-/

namespace SystemDynamics.Literal

/-- What the grammar tells apart. -/
inductive Phrase where
  | whole
  | embedded
  | expressions
  | nextExpression
  | expression
  | plainExpression
  | yieldExpression
  | starExpressions
  | nextStarExpression
  | starExpression
  | starNamedExpressions
  | starNamedExpression
  | assignmentExpression
  | namedExpression
  | disjunction
  | nextConjunction
  | conjunction
  | nextInversion
  | inversion
  | comparison
  | comparedWith
  | equalTo
  | unequalTo
  | atMost
  | below
  | atLeast
  | above
  | notIn
  | inside
  | isNot
  | isSame
  | bitwiseOr
  | bitwiseXor
  | bitwiseAnd
  | shift
  | sum
  | term
  | factor
  | power
  | awaited
  | primary
  | atom
  | inBrackets
  | inBraces
  | group
  | grouped
  | tuple
  | tupleParts
  | set
  | dictionary
  | entries
  | entry
  | pair
  | loops
  | loop
  | condition
  | setComprehension
  | generator
  | generated
  | dictionaryComprehension
  | arguments
  | argumentList
  | argument
  | argumentValue
  | nextKeywords
  | keywordList
  | starredExpression
  | keywordOrStarred
  | keywordOrDoubleStarred
  | targets
  | nextTarget
  | targetParts
  | target
  | plainTarget
  | targetWithAtom
  | targetAtom
  | targetPrimary
  | targetGoesOn
  | lambda
  | parameters
  | parameterList
  | slashPlain
  | slashDefault
  | starParameters
  | doubleStarParameter
  | plainParameter
  | defaultParameter
  | anyParameter
  | parameter
  | default
  | texts
  | mistakenArguments
  | endingInKeywords
  | argumentsAndKeywords
  | starredAlone
  | furtherArguments
  | loopedExpression
  | mistakenKeyword
  | truthOrNothing
  | nameAndEquals
  | mistakenStatement
  | mistakenExpression
  | nameAndText
  | elseOrColon
  | mistakenAssignment
  | noTarget
  | equalsOrAssignment
  | mistakenComprehension
  | anyBracket
  | mistakenDictionaryComprehension
  | mistakenDefault
  | bracketOrComma
  | mistakenParameters
  | mistakenDefaults
  | anySlash
  | commaOrPlainParameter
  | plainParameterOrComma
  | mistakenStarParameters
  | nothingNamed
  | commaAndEnd
  | colonOrDoubleStar
  | mistakenDoubleStarParameter
  | starOrSlash
  | mistakenLoop
  | mistakenGroup
  | mistakenEntries
  | mistakenPair
  | braceOrComma
  deriving DecidableEq, Repr

/-- What an item of a form is about. -/
inductive Part where
  | symbol (s : Symbol)
  /-- A name that is a keyword in other places. -/
  | softKeyword
  | phrase (p : Phrase)

inductive Item where
  | one (p : Part)
  | optional (p : Part)
  | many (p : Part)
  | oneOrMore (p : Part)
  /-- One or more with commas between them. -/
  | separated (p : Part)
  | ahead (p : Part)
  | notAhead (p : Part)
  /-- From here on no other form is tried. -/
  | commit

/-- What becomes of a form that fits. -/
inductive Verdict where
  | read (parts : List Expression)
  /-- The phrase does not fit, and no other form of it is tried. -/
  | refused
  | flawed (f : Failure)

/-- A form of a phrase: its items, and what becomes of what they read. The number of brackets that
are open behind the last token is known. -/
structure Form where
  items : List Item
  verdict : (depth : Nat) → List Expression → Verdict

instance : Coe String Part := ⟨fun s => .symbol (.fixed s)⟩
instance : Coe Symbol Part := ⟨.symbol⟩
instance : Coe Phrase Part := ⟨.phrase⟩
instance : Coe String Item := ⟨fun s => .one (.symbol (.fixed s))⟩
instance : Coe Symbol Item := ⟨fun s => .one (.symbol s)⟩
instance : Coe Phrase Item := ⟨fun p => .one (.phrase p)⟩

namespace Form

/-- Keeps what the items read. -/
def keep (items : List Item) : Form := ⟨items, fun _ parts => .read parts⟩

/-- Puts together what the items read. -/
def make (kind : Kind) (items : List Item) : Form :=
  ⟨items, fun _ parts => .read [.compound kind parts]⟩

def constant (c : Constant) (items : List Item) : Form :=
  ⟨items, fun _ _ => .read [.constant c]⟩

end Form

namespace Phrase

/-- The phrases for mistakes. -/
def isMistake : Phrase → Bool
  | mistakenArguments | mistakenKeyword | mistakenStatement | mistakenExpression
  | mistakenAssignment | mistakenComprehension | mistakenDictionaryComprehension
  | mistakenDefault | mistakenParameters | mistakenDefaults | mistakenStarParameters
  | mistakenDoubleStarParameter | mistakenLoop | mistakenGroup | mistakenEntries
  | mistakenPair => true
  | _ => false

/-- The phrases that begin with themselves. -/
def beginsWithItself : Phrase → Bool
  | bitwiseOr | bitwiseXor | bitwiseAnd | shift | sum | term | primary | targetPrimary => true
  | _ => false

/-- The phrases whose reading at a place is remembered. -/
def isRemembered : Phrase → Bool
  | expression | starExpression | disjunction | conjunction | inversion | factor | awaited
  | arguments | target | targetWithAtom | texts | mistakenAssignment => true
  | p => p.beginsWithItself

section Forms

variable (report : Flaw → Failure)

/-- The form of a mistake. -/
def mistake (flaw : Flaw) (items : List Item) : Form := ⟨items, fun _ _ => .flawed (report flaw)⟩

/-- The form of a mistake that names its first part. -/
def mistakeIn (flaw : String → Flaw) (items : List Item) : Form :=
  ⟨items, fun _ parts =>
    match parts with
    | part :: _ => .flawed (report (flaw part.description))
    | [] => .refused⟩

/-- Two expressions in a row lack a comma if they are between brackets, unless the first is an old
statement. -/
def unseparated (depth : Nat) (parts : List Expression) : Verdict :=
  match parts with
  | first :: _ =>
    if first.oldStatement?.isSome || depth = 0 then .refused else .flawed (report .missingComma)
  | [] => .refused

/-- An old statement is called now. -/
def uncalled (parts : List Expression) : Verdict :=
  match parts.head?.bind Expression.oldStatement? with
  | some word => .flawed (report (.notCalled word))
  | none => .refused

/-- A generator among other arguments needs brackets. -/
def unbracketed (parts : List Expression) : Verdict :=
  match parts with
  | list :: _ => if list.positions ≤ 1 then .refused else .flawed (report .openGenerator)
  | [] => .refused

/-- Arguments by position do not follow keywords. -/
def misplaced (parts : List Expression) : Verdict :=
  .flawed (report (.positionAfterKeyword (parts.head?.any Expression.unpacksKeywords)))

/-- A loop runs through what can be assigned to. -/
def untargeted (parts : List Expression) : Verdict :=
  match parts.head?.bind Expression.unassignable? with
  | some e => .flawed (report (.notAssignable e.description))
  | none => .refused

open Form Item

/-- The forms of expressions down to their operands. -/
def expressionForms : Phrase → List Form
  | whole => [keep [expressions, many Symbol.lineEnd, Symbol.finish]]
  | embedded => [keep [starExpressions]]
  | expressions =>
    [make .tuple [expression, oneOrMore nextExpression, optional ","],
     make .tuple [expression, ","],
     keep [expression]]
  | nextExpression => [keep [",", expression]]
  | expression =>
    [keep [mistakenExpression],
     keep [mistakenStatement],
     make .conditional [disjunction, "if", disjunction, "else", expression],
     keep [disjunction],
     keep [lambda]]
  | plainExpression =>
    [make .conditional [disjunction, "if", disjunction, "else", expression],
     keep [disjunction],
     keep [lambda]]
  | yieldExpression =>
    [make .yielding ["yield", "from", expression],
     make .yielding ["yield", optional starExpressions]]
  | starExpressions =>
    [make .tuple [starExpression, oneOrMore nextStarExpression, optional ","],
     make .tuple [starExpression, ","],
     keep [starExpression]]
  | nextStarExpression => [keep [",", starExpression]]
  | starExpression => [make .starred ["*", bitwiseOr], keep [expression]]
  | starNamedExpressions => [keep [separated starNamedExpression, optional ","]]
  | starNamedExpression => [make .starred ["*", bitwiseOr], keep [namedExpression]]
  | assignmentExpression => [make .assignment [Symbol.name, ":=", commit, expression]]
  | namedExpression =>
    [keep [assignmentExpression],
     keep [mistakenAssignment],
     keep [expression, notAhead ":="]]
  | disjunction => [make .operation [conjunction, oneOrMore nextConjunction], keep [conjunction]]
  | nextConjunction => [keep ["or", conjunction]]
  | conjunction => [make .operation [inversion, oneOrMore nextInversion], keep [inversion]]
  | nextInversion => [keep ["and", inversion]]
  | inversion => [make .operation ["not", inversion], keep [comparison]]
  | comparison => [make .comparison [bitwiseOr, oneOrMore comparedWith], keep [bitwiseOr]]
  | comparedWith =>
    [keep [equalTo], keep [unequalTo], keep [atMost], keep [below], keep [atLeast], keep [above],
     keep [notIn], keep [inside], keep [isNot], keep [isSame]]
  | equalTo => [make .otherComparison ["==", bitwiseOr]]
  | unequalTo => [make .otherComparison ["!=", bitwiseOr]]
  | atMost => [make .otherComparison ["<=", bitwiseOr]]
  | below => [make .otherComparison ["<", bitwiseOr]]
  | atLeast => [make .otherComparison [">=", bitwiseOr]]
  | above => [make .otherComparison [">", bitwiseOr]]
  | notIn => [make .otherComparison ["not", "in", bitwiseOr]]
  | inside => [make .membership ["in", bitwiseOr]]
  | isNot => [make .otherComparison ["is", "not", bitwiseOr]]
  | isSame => [make .otherComparison ["is", bitwiseOr]]
  | bitwiseOr => [make .operation [bitwiseOr, "|", bitwiseXor], keep [bitwiseXor]]
  | bitwiseXor => [make .operation [bitwiseXor, "^", bitwiseAnd], keep [bitwiseAnd]]
  | bitwiseAnd => [make .operation [bitwiseAnd, "&", shift], keep [shift]]
  | shift =>
    [make .operation [shift, "<<", sum], make .operation [shift, ">>", sum], keep [sum]]
  | sum => [make .sum [sum, "+", term], make .difference [sum, "-", term], keep [term]]
  | term =>
    [make .operation [term, "*", factor], make .operation [term, "/", factor],
     make .operation [term, "//", factor], make .operation [term, "%", factor],
     make .operation [term, "@", factor], keep [factor]]
  | factor =>
    [make .plus ["+", factor], make .minus ["-", factor], make .operation ["~", factor],
     keep [power]]
  | power => [make .operation [awaited, "**", factor], keep [awaited]]
  | awaited => [make .awaiting ["await", primary], keep [primary]]
  | _ => []

/-- The forms of operands. -/
def operandForms : Phrase → List Form
  | primary =>
    [make .member [primary, ".", Symbol.name],
     make .call [primary, generator],
     make .call [primary, "(", optional arguments, ")"],
     keep [atom]]
  | atom =>
    [keep [Symbol.name],
     constant (.truth true) ["True"],
     constant (.truth false) ["False"],
     constant .nothing ["None"],
     keep [ahead Symbol.text, texts],
     keep [Symbol.number],
     keep [ahead "(", inBrackets],
     keep [ahead "\x7b", inBraces],
     constant .ellipsis ["..."]]
  | inBrackets => [keep [tuple], keep [group], keep [generator]]
  | inBraces =>
    [keep [dictionary], keep [set], keep [dictionaryComprehension], keep [setComprehension]]
  | group => [keep ["(", grouped, ")"], keep [mistakenGroup]]
  | grouped => [keep [yieldExpression], keep [namedExpression]]
  | tuple => [make .tuple ["(", optional tupleParts, ")"]]
  | tupleParts => [keep [starNamedExpression, ",", optional starNamedExpressions]]
  | set => [make .set ["\x7b", starNamedExpressions, "\x7d"]]
  | dictionary =>
    [make .dictionary ["\x7b", optional entries, "\x7d"],
     keep ["\x7b", mistakenEntries, "\x7d"]]
  | entries => [keep [separated entry, optional ","]]
  | entry => [make .unpackedEntries ["**", bitwiseOr], keep [pair]]
  | pair => [make .entry [expression, ":", expression]]
  | loops => [keep [oneOrMore loop]]
  | loop =>
    [make .loop ["async", "for", targets, "in", commit, disjunction, many condition],
     make .loop ["for", targets, "in", commit, disjunction, many condition],
     keep [mistakenLoop]]
  | condition => [keep ["if", disjunction]]
  | setComprehension =>
    [make .setComprehension ["\x7b", namedExpression, loops, "\x7d"], keep [mistakenComprehension]]
  | generator =>
    [make .generator ["(", generated, loops, ")"], keep [mistakenComprehension]]
  | generated => [keep [assignmentExpression], keep [expression, notAhead ":="]]
  | dictionaryComprehension =>
    [make .dictionaryComprehension ["\x7b", pair, loops, "\x7d"],
     keep [mistakenDictionaryComprehension]]
  | arguments => [keep [argumentList, optional ",", ahead ")"], keep [mistakenArguments]]
  | argumentList =>
    [make .arguments [separated argument, optional nextKeywords],
     make .arguments [keywordList]]
  | argument => [keep [starredExpression], keep [argumentValue, notAhead "="]]
  | argumentValue => [keep [assignmentExpression], keep [expression, notAhead ":="]]
  | nextKeywords => [keep [",", keywordList]]
  | keywordList =>
    [keep [separated keywordOrStarred, ",", separated keywordOrDoubleStarred],
     keep [separated keywordOrStarred],
     keep [separated keywordOrDoubleStarred]]
  | starredExpression =>
    [make .starred ["*", expression], mistake report .nothingStarred ["*"]]
  | keywordOrStarred =>
    [keep [mistakenKeyword],
     make .keyword [Symbol.name, "=", expression],
     keep [starredExpression]]
  | keywordOrDoubleStarred =>
    [keep [mistakenKeyword],
     make .keyword [Symbol.name, "=", expression],
     make .unpackedKeywords ["**", expression]]
  | targets =>
    [keep [target, notAhead ","],
     keep [target, many nextTarget, optional ","]]
  | nextTarget => [keep [",", target]]
  | targetParts => [keep [target, oneOrMore nextTarget, optional ","], keep [target, ","]]
  | target => [keep ["*", plainTarget], keep [targetWithAtom]]
  | plainTarget => [keep [notAhead "*", target]]
  | targetWithAtom =>
    [keep [targetPrimary, ".", Symbol.name, notAhead targetGoesOn], keep [targetAtom]]
  | targetAtom =>
    [keep [Symbol.name],
     keep ["(", targetWithAtom, ")"],
     keep ["(", optional targetParts, ")"]]
  | targetPrimary =>
    [keep [targetPrimary, ".", Symbol.name, ahead targetGoesOn],
     keep [targetPrimary, generator, ahead targetGoesOn],
     keep [targetPrimary, "(", optional arguments, ")", ahead targetGoesOn],
     keep [atom, ahead targetGoesOn]]
  | targetGoesOn => [keep ["("], keep ["."]]
  | lambda => [make .lambda ["lambda", optional parameters, ":", expression]]
  | parameters => [keep [mistakenParameters], keep [parameterList]]
  | parameterList =>
    [keep [slashPlain, many plainParameter, many defaultParameter, optional starParameters],
     keep [slashDefault, many defaultParameter, optional starParameters],
     keep [oneOrMore plainParameter, many defaultParameter, optional starParameters],
     keep [oneOrMore defaultParameter, optional starParameters],
     keep [starParameters]]
  | slashPlain =>
    [keep [oneOrMore plainParameter, "/", ","], keep [oneOrMore plainParameter, "/", ahead ":"]]
  | slashDefault =>
    [keep [many plainParameter, oneOrMore defaultParameter, "/", ","],
     keep [many plainParameter, oneOrMore defaultParameter, "/", ahead ":"]]
  | starParameters =>
    [keep [mistakenStarParameters],
     keep ["*", plainParameter, many anyParameter, optional doubleStarParameter],
     keep ["*", ",", oneOrMore anyParameter, optional doubleStarParameter],
     keep [doubleStarParameter]]
  | doubleStarParameter => [keep [mistakenDoubleStarParameter], keep ["**", plainParameter]]
  | plainParameter => [keep [parameter, ","], keep [parameter, ahead ":"]]
  | defaultParameter => [keep [parameter, default, ","], keep [parameter, default, ahead ":"]]
  | anyParameter =>
    [keep [parameter, optional default, ","], keep [parameter, optional default, ahead ":"]]
  | parameter => [keep [Symbol.name]]
  | default => [keep ["=", expression], keep [mistakenDefault]]
  | _ => []

/-- The forms of mistakes and of what they look for. -/
def mistakeForms : Phrase → List Form
  | mistakenArguments =>
    [mistake report .unpackedAfterKeywords [endingInKeywords, ",", separated starredAlone],
     mistake report .openGenerator [expression, loops, ",", optional furtherArguments],
     mistake report .equalsMeant [Symbol.name, "=", expression, loops],
     ⟨[argumentList, loops], fun _ => unbracketed report⟩,
     mistake report .openGenerator [argumentList, ",", expression, loops],
     ⟨[argumentList, ",", argumentList], fun _ => misplaced report⟩]
  | endingInKeywords => [keep [argumentsAndKeywords], keep [keywordList]]
  | argumentsAndKeywords => [keep [separated argument, ",", keywordList]]
  | starredAlone => [keep [starredExpression, notAhead "="]]
  | furtherArguments => [keep [argumentList], keep [expression, loops]]
  | mistakenKeyword =>
    [mistakeIn report .notAssignable [truthOrNothing, "="],
     mistake report .equalsMeant [Symbol.name, "=", expression, loops],
     mistake report .comparisonMeant [notAhead nameAndEquals, expression, "="]]
  | truthOrNothing =>
    [constant (.truth true) ["True"], constant (.truth false) ["False"],
     constant .nothing ["None"]]
  | nameAndEquals => [keep [Symbol.name, "="]]
  | mistakenStatement =>
    [⟨[Symbol.name, notAhead "(", starExpressions], fun _ => uncalled report⟩]
  | mistakenExpression =>
    [⟨[notAhead nameAndText, disjunction, plainExpression], unseparated report⟩,
     mistake report .missingElse [disjunction, "if", disjunction, notAhead elseOrColon]]
  | nameAndText => [keep [Symbol.name, Symbol.text], keep [one .softKeyword]]
  | elseOrColon => [keep ["else"], keep [":"]]
  | mistakenAssignment =>
    [mistakeIn report .badAssignment [expression, ":=", expression],
     mistake report .equalsMeant [Symbol.name, "=", bitwiseOr, notAhead equalsOrAssignment],
     mistakeIn report .notAssignableHere
       [notAhead noTarget, bitwiseOr, "=", bitwiseOr, notAhead equalsOrAssignment]]
  | noTarget => [keep [tuple], keep [generator], keep ["True"], keep ["None"], keep ["False"]]
  | equalsOrAssignment => [keep ["="], keep [":="]]
  | mistakenComprehension =>
    [mistake report .unpackedGenerator [anyBracket, starredExpression, loops],
     mistake report .openTarget ["\x7b", starNamedExpression, ",", starNamedExpressions, loops],
     mistake report .openTarget ["\x7b", starNamedExpression, ",", loops]]
  | anyBracket => [keep ["("], keep ["\x7b"]]
  | mistakenDictionaryComprehension =>
    [mistake report .unpackedEntries ["\x7b", "**", bitwiseOr, loops, "\x7d"]]
  | mistakenDefault => [mistake report .noDefault ["=", ahead bracketOrComma]]
  | bracketOrComma => [keep [")"], keep [","]]
  | mistakenParameters =>
    [mistake report .defaultBefore [many plainParameter, mistakenDefaults, plainParameter],
     mistake report .parametersInBrackets
       [many plainParameter, "(", separated parameter, optional ",", ")"],
     mistake report .nothingBeforeSlash ["/", ","],
     mistake report .secondSlash [anySlash, many anyParameter, "/"],
     mistake report .slashBehindStar
       [optional anySlash, many anyParameter, "*", commaOrPlainParameter, many anyParameter, "/"],
     mistake report .noCommaBeforeStar [oneOrMore anyParameter, "/", "*"]]
  | mistakenDefaults => [keep [slashDefault], keep [oneOrMore defaultParameter]]
  | anySlash => [keep [slashPlain], keep [slashDefault]]
  | commaOrPlainParameter => [keep [","], keep [plainParameter]]
  | plainParameterOrComma => [keep [plainParameter], keep [","]]
  | mistakenStarParameters =>
    [mistake report .nothingBehindStar ["*", nothingNamed],
     mistake report .starDefault ["*", parameter, "="],
     mistake report .secondStar
       ["*", plainParameterOrComma, many anyParameter, "*", plainParameterOrComma]]
  | nothingNamed => [keep [":"], keep [",", colonOrDoubleStar]]
  | colonOrDoubleStar => [keep [":"], keep ["**"]]
  | mistakenDoubleStarParameter =>
    [mistake report .doubleStarDefault ["**", parameter, "="],
     mistake report .behindDoubleStar ["**", parameter, ",", parameter],
     mistake report .behindDoubleStar ["**", parameter, ",", starOrSlash]]
  | starOrSlash => [keep ["*"], keep ["**"], keep ["/"]]
  | mistakenLoop => [⟨[optional "async", "for", starExpressions], fun _ => untargeted report⟩]
  | mistakenGroup =>
    [mistake report .loneStar ["(", starredExpression, ")"],
     mistake report .loneDoubleStar ["(", "**", expression, ")"]]
  | mistakenEntries =>
    [keep [separated entry, ",", mistakenPair],
     mistake report .starredEntry [expression, ":", "*", bitwiseOr],
     mistake report .noEntry [expression, ":", ahead braceOrComma]]
  | mistakenPair =>
    [mistake report .noColon [expression, notAhead ":"],
     mistake report .starredEntry [expression, ":", "*", bitwiseOr],
     mistake report .noEntry [expression, ":", ahead braceOrComma]]
  | braceOrComma => [keep ["\x7d"], keep [","]]
  | _ => []

end Forms

/-- The text that quoted texts are together. -/
def joined (join : List (List Char) → Except Failure Expression) (parts : List Expression) :
    Verdict :=
  let written := parts.filterMap fun
    | .quoted written => some written
    | _ => none
  match join written with
  | .ok e => .read [e]
  | .error f => .flawed f

/-- The forms of a phrase, in the order they are tried. Mistakes are reported by `report`, and
quoted texts are put together by `join`. -/
def forms (report : Flaw → Failure) (join : List (List Char) → Except Failure Expression)
    (p : Phrase) : List Form :=
  match p with
  | texts => [⟨[.oneOrMore Symbol.text], fun _ => joined join⟩]
  | _ =>
    match expressionForms p with
    | [] =>
      match operandForms report p with
      | [] => mistakeForms report p
      | forms => forms
    | forms => forms

end Phrase

/-- Whether a form is nothing but a mistake. -/
def Form.isMistake (f : Form) : Bool :=
  match f.items with
  | [.one (.phrase p)] => p.isMistake
  | _ => false

end SystemDynamics.Literal
