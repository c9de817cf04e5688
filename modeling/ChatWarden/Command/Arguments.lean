import ChatWarden.Command.Param

/-!
# Arguments

The tokens after a command's segments become one value for each parameter. `shapeFits` is the quick
test that selects a command, `coerce` the exact conversion, which names the first position that
fails.
-/

namespace ChatWarden.Command

inductive CoercionCause where
  | token (token : String) (cause : ConversionError)
  | missing
deriving DecidableEq

/-- The position of the token that fails, counted from zero, and its parameter. -/
structure CoercionError where
  position : Nat
  name : String
  cause : CoercionCause
deriving DecidableEq

namespace CoercionError

def message (e : CoercionError) : String :=
  let place := s!"{e.position} ({e.name})"
  match e.cause with
  | .missing => s!"Missing required argument {place}."
  | .token token .notInt => s!"Argument {place}: `{token}` is not a valid integer."
  | .token token .notFlag => s!"Argument {place}: `{token}` is not true or false."
  | .token token (.noVariant expected) =>
    let names := ", ".intercalate expected
    s!"Argument {place}: `{token}` is not one of {names}."
  | .token _ (.refused reason) => s!"Argument {place}: {reason}"

end CoercionError

/-- The values of a call in the order of the parameters. -/
structure Arguments where
  values : List (String × Value) := []

namespace Arguments

def get? (a : Arguments) (name : String) : Option Value :=
  (a.values.find? (·.1 == name)).map (·.2)

def text? (a : Arguments) (name : String) : Option String :=
  (a.get? name).bind Value.asText?

def int? (a : Arguments) (name : String) : Option Int64 :=
  (a.get? name).bind Value.asInt?

def flag? (a : Arguments) (name : String) : Option Bool :=
  (a.get? name).bind Value.asFlag?

def list? (a : Arguments) (name : String) : Option (List Value) :=
  (a.get? name).bind Value.asList?

def size (a : Arguments) : Nat :=
  a.values.length

def isEmpty (a : Arguments) : Bool :=
  a.values.isEmpty

def toJson (a : Arguments) : Json :=
  .object [("values", .array (a.values.map fun (name, v) => .array [.string name, v.toJson]))]

end Arguments

/-- Whether tokens have the shape of the parameters. A variadic parameter takes whatever is left. -/
def shapeFits : List Param → List String → Bool
  | [], _ => true
  | p :: ps, tokens =>
    p.isVariadic ||
      match tokens with
      | [] => p.acceptsMissing && shapeFits ps []
      | token :: rest => p.type.accepts token && shapeFits ps rest

def coerceToken (p : Param) (position : Nat) (token : String) : Except CoercionError Value :=
  match p.type.convert token with
  | .ok v => .ok v
  | .error cause => .error ⟨position, p.name, .token token cause⟩

def coerceTail (p : Param) (position : Nat) : List String → Except CoercionError (List Value)
  | [] => .ok []
  | token :: rest => do
    let v ← coerceToken p position token
    let vs ← coerceTail p (position + 1) rest
    return v :: vs

/-- The value of a parameter, given the tokens from its position on. -/
def coerceParam (p : Param) (position : Nat) (tokens : List String) : Except CoercionError Value :=
  if p.isVariadic then (coerceTail p position tokens).map .list
  else
    match tokens with
    | token :: _ => coerceToken p position token
    | [] =>
      if p.acceptsMissing then .ok (p.fallback.getD .unset)
      else .error ⟨position, p.name, .missing⟩

def coerceFrom (position : Nat) :
    List Param → List String → Except CoercionError (List (String × Value))
  | [], _ => .ok []
  | p :: ps, tokens => do
    let v ← coerceParam p position tokens
    let vs ← coerceFrom (position + 1) ps tokens.tail
    return (p.name, v) :: vs

/-- The arguments that tokens give to parameters. Tokens beyond the last parameter are ignored. -/
def coerce (params : List Param) (tokens : List String) : Except CoercionError Arguments :=
  (coerceFrom 0 params tokens).map Arguments.mk

end ChatWarden.Command
