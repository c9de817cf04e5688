/-!
# Why a policy document is refused

Every error names a line: that of the offending token or bracket or, where the document ends too
soon, its last one.
-/

namespace ChatWarden.Policy

/-- What a document has to go on with at some place. -/
inductive Expected where
  | ruleWord
  | targetWord
  | openBracket
  | scopeStart
  | nameOrClose
  | close
  | propertyOrClose
  | propertyName
  | propertyValue
deriving DecidableEq, Repr

namespace Expected

def text : Expected → String
  | .ruleWord => "whitelist or blacklist"
  | .targetWord => "guild, channel, user or role"
  | .openBracket => "<"
  | .scopeStart => "scope type, name or >"
  | .nameOrClose => "name or >"
  | .close => ">"
  | .propertyOrClose => "`key=value` or >"
  | .propertyName => "property name"
  | .propertyValue => "property value"

end Expected

/-- Why a document is refused, and on which line. -/
inductive ParseError where
  | unexpectedToken (line : Nat) (expected : Expected) (found : String)
  | unexpectedEnd (line : Nat) (expected : Expected)
  | invalidId (line : Nat) (value : String)
  | duplicateGroup (line : Nat) (name : String)
deriving DecidableEq, Repr

namespace ParseError

def message : ParseError → String
  | .unexpectedToken line expected found =>
    s!"line {line}: expected {expected.text}, found `{found}`"
  | .unexpectedEnd line expected =>
    s!"line {line}: unexpected end of document, expected {expected.text}"
  | .invalidId line value => s!"line {line}: `{value}` is not a valid identifier"
  | .duplicateGroup line name => s!"line {line}: group `{name}` is declared more than once"

end ParseError

end ChatWarden.Policy
