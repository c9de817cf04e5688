import ChatWarden.Json

/-!
# Argument values

A value is what a token, or its absence, has become under the type of a parameter.
-/

namespace ChatWarden.Command

inductive Value where
  | text (content : String)
  | int (number : Int64)
  | flag (holds : Bool)
  | variant (typeName name : String)
  /-- A value of a named type with a reader of its own. -/
  | custom (typeName : String) (content : Json)
  /-- The values of a parameter that takes all remaining tokens. -/
  | list (items : List Value)
  /-- No token and no default. -/
  | unset

namespace Value

instance : Inhabited Value := ⟨.unset⟩

def asText? : Value → Option String
  | .text content => some content
  | .variant _ name => some name
  | _ => none

def asInt? : Value → Option Int64
  | .int number => some number
  | _ => none

def asFlag? : Value → Option Bool
  | .flag holds => some holds
  | _ => none

def asList? : Value → Option (List Value)
  | .list items => some items
  | _ => none

def isUnset : Value → Bool
  | .unset => true
  | _ => false

mutual

def render : Value → String
  | .text content => content
  | .int number => toString number.toInt
  | .flag holds => if holds then "true" else "false"
  | .variant _ name => name
  | .custom _ content => content.compact
  | .list items => " ".intercalate (renderItems items)
  | .unset => ""

def renderItems : List Value → List String
  | [] => []
  | v :: vs => render v :: renderItems vs

end

mutual

/-- The content of a value; only named types keep their name. -/
def toJson : Value → Json
  | .text content => .string content
  | .int number => .int number.toInt
  | .flag holds => .bool holds
  | .variant typeName name => .object [("type_name", .string typeName), ("variant", .string name)]
  | .custom typeName content => .object [("type_name", .string typeName), ("value", content)]
  | .list items => .array (itemsToJson items)
  | .unset => .null

def itemsToJson : List Value → List Json
  | [] => []
  | v :: vs => toJson v :: itemsToJson vs

end

end Value

end ChatWarden.Command
