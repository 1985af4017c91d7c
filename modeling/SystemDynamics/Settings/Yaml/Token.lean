import SystemDynamics.Settings.Yaml.Cursor
/-!
# Tokens

What a document is made of: its scalars, the marks between them, and the beginnings and ends of
blocks, which indentation stands for.
-/

namespace SystemDynamics.Yaml

/-- What a token is. -/
inductive Lexeme where
  /-- The version of the language, as its first number. -/
  | version (major : Nat)
  | handle (handle meaning : String)
  | otherDirective
  | documentStart
  | documentEnd
  | streamEnd
  | listStart
  | mappingStart
  | blockEnd
  | openBracket
  | openBrace
  | closeBracket
  | closeBrace
  | key
  | value
  | item
  | comma
  | reference (name : String)
  | anchor (name : String)
  | tag (handle : Option String) (ending : String)
  | scalar (text : String) (isPlain : Bool)
  deriving DecidableEq

namespace Lexeme

/-- The name of the token in messages. -/
def name : Lexeme → String
  | version _ | handle _ _ | otherDirective => "<directive>"
  | documentStart => "<document start>"
  | documentEnd => "<document end>"
  | streamEnd => "<stream end>"
  | listStart => "<block sequence start>"
  | mappingStart => "<block mapping start>"
  | blockEnd => "<block end>"
  | openBracket => "["
  | openBrace => "\x7b"
  | closeBracket => "]"
  | closeBrace => "\x7d"
  | key => "?"
  | value => ":"
  | item => "-"
  | comma => ","
  | reference _ => "<alias>"
  | anchor _ => "<anchor>"
  | tag _ _ => "<tag>"
  | scalar _ _ => "<scalar>"

end Lexeme

/-- A lexeme and where it begins and ends. -/
structure Token where
  lexeme : Lexeme
  start : Place
  stop : Place

end SystemDynamics.Yaml
