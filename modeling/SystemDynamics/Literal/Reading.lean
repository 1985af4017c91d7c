import SystemDynamics.Literal.Grammar
/-!
# Reading expressions

A text is read by the grammar, at most so many phrases within each other. Tokens are taken from
the text when they are asked for. If nothing fits, the text is read once more with the phrases for
mistakes. Whatever is found wrong, a flaw in a token further on is reported first.
-/

namespace SystemDynamics.Literal

/-- What a phrase reads: expressions, unless it does not fit. -/
abbrev Outcome := Option (List Expression)

/-- Why reading stops: the failure, and whether the tokens further on are looked at. -/
structure Stop where
  failure : Failure
  final : Bool

/-- The state of reading: how many tokens there are at most, those that were taken and where in
them the reader is, what was remembered at each place with the place behind it, and whether
mistakes are looked for. -/
structure State where
  most : Nat
  source : Lexer
  tokens : Array Token
  place : Nat
  remembered : Array (List (Phrase × Outcome × Nat))
  thorough : Bool

abbrev Reading := ExceptT Stop (StateM State)

namespace Reading

/-- The most phrases within each other. -/
def mostPhrases : Nat := 6000

variable (report : Flaw → Failure)

def stop {α : Type} (failure : Failure) : Reading α := throw ⟨failure, false⟩

def tooDeep {α : Type} : Reading α := throw ⟨.tooDeep, true⟩

/-- The token at the place of the reader. Flaws of tokens are reported as they are. -/
def token : Reading Token := do
  let s ← get
  match s.tokens[s.place]? with
  | some t => return t
  | none =>
    match s.source.next with
    | .ok (t, source) =>
      set { s with source, tokens := s.tokens.push t, remembered := s.remembered.push [] }
      return t
    | .error (.broken f) => throw ⟨.flaw f, true⟩
    | .error (.ended f) => throw ⟨report f, true⟩

def place : Reading Nat := return (← get).place

def goTo (place : Nat) : Reading Unit := modify ({ · with place })

/-- What a token reads, if it is the symbol. -/
def symbol (symbol : Symbol) : Reading Outcome := do
  let t ← token report
  if t.symbol ≠ symbol then return none
  goTo ((← place) + 1)
  match symbol with
  | .name => return some [.ofName t.written]
  | .text => return some [.quoted t.written]
  | .number =>
    match Number.of? t.written with
    | .ok n => return some [.constant (.number n)]
    | .error f => stop (report f)
  | _ => return some []

/-- The names that are keywords in other places. What they begin with passes for one too. -/
def softKeywords : List String := ["_", "case", "match"]

def softKeyword : Reading Outcome := do
  let t ← token report
  if t.symbol = .name && softKeywords.any fun w => t.written.isPrefixOf w.toList then
    goTo ((← place) + 1)
    return some []
  return none

/-- What was remembered of a phrase at the place of the reader, who goes on behind it. -/
def remembered? (p : Phrase) : Reading (Option Outcome) := do
  let s ← get
  match (s.remembered.getD s.place []).lookup p with
  | some (outcome, behind) =>
    goTo behind
    return some outcome
  | none => return none

/-- Remembers of a phrase at a place what it reads and where the reader goes on. -/
def remember (p : Phrase) (start : Nat) (outcome : Outcome) (behind : Nat) : Reading Unit :=
  modify fun s =>
    { s with remembered := s.remembered.modify start ((p, outcome, behind) :: ·) }

section Items

/-- Reads a phrase within so many others more. -/
abbrev Within := (more : Nat) → Phrase → Reading Outcome

variable (within : Within)

def part (more : Nat) : Part → Reading Outcome
  | .symbol s => symbol report s
  | .softKeyword => softKeyword report
  | .phrase p => within more p

/-- What a part reads as often as it fits, at most `fuel` times; `before` comes in front of it. -/
def repeated (more : Nat) (before : Reading Bool) (p : Part) :
    (fuel : Nat) → Reading (List Expression)
  | 0 => return []
  | fuel + 1 => do
    let start ← place
    let outcome ← do
      if ← before then part report within more p else pure none
    match outcome with
    | none =>
      goTo start
      return []
    | some first => return first ++ (← repeated more before p fuel)

/-- How many tokens there are at most. -/
def most : Reading Nat := return (← get).most

def comma : Reading Bool := return (← symbol report (.fixed ",")).isSome

/-- Fails if phrases are too deep within each other to go so many further. -/
def allowed (levels more : Nat) : Reading Unit := if levels < more then tooDeep else pure ()

/-- What an item reads; a list that is none or more is a phrase of its own. -/
def item (levels : Nat) : Item → Reading Outcome
  | .one p => part report within 0 p
  | .optional p => do
    let start ← place
    match ← part report within 0 p with
    | some es => return some es
    | none =>
      goTo start
      return some []
  | .many p => do
    allowed levels 1
    return some (← repeated report within 1 (pure true) p (← most))
  | .oneOrMore p => do
    allowed levels 1
    let start ← place
    let es ← repeated report within 1 (pure true) p (← most)
    return if (← place) = start then none else some es
  | .separated p => do
    allowed levels 1
    match ← part report within 1 p with
    | none => return none
    | some first =>
      allowed levels 2
      return some (first ++ (← repeated report within 2 (comma report) p (← most)))
  | .ahead p => do
    let start ← place
    let outcome ← part report within 0 p
    goTo start
    return outcome.map fun _ => []
  | .notAhead p => do
    let start ← place
    let outcome ← part report within 0 p
    goTo start
    return if outcome.isSome then none else some []
  | .commit => return some []

/-- What the items of a form read in a row, and whether no other form is tried. -/
def items (levels : Nat) (committed : Bool) (read : List Expression) :
    List Item → Reading (Outcome × Bool)
  | [] => return (some read, committed)
  | .commit :: rest => items levels true read rest
  | i :: rest => do
    match ← item report within levels i with
    | none => return (none, committed)
    | some es => items levels committed (read ++ es) rest

/-- How many brackets are open behind the last token that was read. -/
def depthBehind : Reading Nat := do
  let s ← get
  return ((s.tokens[s.place - 1]?).map Token.depth).getD 0

/-- What the first form that fits reads from a place on. -/
def forms (levels start : Nat) : List Form → Reading Outcome
  | [] => return none
  | form :: rest => do
    goTo start
    if form.isMistake && !(← get).thorough then forms levels start rest
    else
      match ← items report within levels false [] form.items with
      | (none, committed) =>
        goTo start
        if committed then return none else forms levels start rest
      | (some es, _) =>
        match form.verdict (← depthBehind) es with
        | .read es => return some es
        | .refused => return none
        | .flawed f => stop f

/-- Reads a phrase that begins with itself: with what was read so far as its beginning, as long as
that reads more. -/
def grown (p : Phrase) (levels start : Nat) (fs : List Form) :
    (fuel : Nat) → Outcome → Nat → Reading Outcome
  | 0, outcome, behind => do
    goTo behind
    return outcome
  | fuel + 1, outcome, behind => do
    remember p start outcome behind
    let more ← forms report within levels start fs
    let place ← place
    if more.isNone || place ≤ behind then
      goTo behind
      return outcome
    else grown p levels start fs fuel more place

end Items

/-- Reads a phrase, at most so many levels deep. -/
def phrase (join : List (List Char) → Except Failure Expression) (levels : Nat) (p : Phrase) :
    Reading Outcome :=
  match levels with
  | 0 => tooDeep
  | levels + 1 => do
    let start ← place
    let known ← if p.isRemembered then remembered? p else pure none
    match known with
    | some outcome => return outcome
    | none =>
      let _ ← token report
      let fs := p.forms report join
      if p.beginsWithItself then
        allowed levels 1
        let within : Within := fun more q => phrase join (levels - 1 - more) q
        grown report within p (levels - 1) start fs (← most) none start
      else
        let within : Within := fun more q => phrase join (levels - more) q
        let outcome ←
          if p = .plainExpression then do
            let thorough := (← get).thorough
            modify ({ · with thorough := false })
            let outcome ← forms report within levels start fs
            modify ({ · with thorough })
            pure outcome
          else forms report within levels start fs
        if p.isRemembered then remember p start outcome (← place)
        return outcome
termination_by levels

end Reading

/-- Reads a text as a phrase. -/
def read (report : Flaw → Failure) (join : List (List Char) → Except Failure Expression)
    (p : Phrase) (cs : List Char) : Except Failure Expression :=
  let attempt (s : State) := (Reading.phrase report join Reading.mostPhrases p).run.run s
  let failed (stop : Stop) (s : State) : Except Failure Expression :=
    match if stop.final then none else s.source.flaw? with
    | some f => .error (.flaw f)
    | none => .error stop.failure
  let start : State := ⟨cs.length + 1, ⟨cs, []⟩, #[], 0, #[], false⟩
  match attempt start with
  | (.ok (some (e :: _)), _) => .ok e
  | (.error stop, s) => failed stop s
  | (_, s) =>
    let again := { s with place := 0, remembered := s.tokens.map fun _ => [], thorough := true }
    match attempt again with
    | (.error stop, s) => failed stop s
    | (.ok _, s) => failed ⟨report .badForm, false⟩ s

end SystemDynamics.Literal
