import ChatWarden.Command.Value
import ChatWarden.Text.AsciiCase
import ChatWarden.Text.Decimal
import ChatWarden.Text.LowerCase
import ChatWarden.Text.Quoted

/-!
# Parameters

A parameter has a type, and a type says which tokens it accepts (`accepts`) and what they become
(`convert`). The first is quick and takes the word of a custom type for it; the second is exact.
-/

namespace ChatWarden.Command

/-- A named list of words, written in any ASCII case. -/
structure EnumType where
  name : String
  variants : List String
deriving DecidableEq

namespace EnumType

/-- The first variant that a token names, as it was declared. -/
def resolve? (t : EnumType) (token : String) : Option String :=
  t.variants.find? (Text.sameIgnoringCase · token)

theorem mem_of_resolve? {t : EnumType} {token name : String} (h : t.resolve? token = some name) :
    name ∈ t.variants :=
  List.mem_of_find?_eq_some h

end EnumType

/-- A type with a reader of its own, which may refuse a token with a message. -/
structure CustomType where
  name : String
  read : String → Except String Json

namespace CustomType

/-- A custom type in a line, for people who look into a command. -/
def describe (t : CustomType) : String :=
  "CustomType \x7b name: " ++ Text.quoted t.name ++ ", parser: \"<parser>\" \x7d"

end CustomType

inductive ParamType where
  | text
  | int
  | flag
  | enumeration (t : EnumType)
  | custom (t : CustomType)

/-- Why a token is refused, or what is missing. -/
inductive ConversionError where
  | notInt
  | notFlag
  | noVariant (expected : List String)
  | refused (message : String)
deriving DecidableEq

namespace ParamType

def flag? (token : String) : Option Bool :=
  if Text.sameIgnoringCase token "true" then some true
  else if Text.sameIgnoringCase token "false" then some false
  else none

def shorthand : ParamType → String
  | .text => "string"
  | .int => "int"
  | .flag => "bool"
  | .enumeration t => Text.lowerCase t.name
  | .custom t => Text.lowerCase t.name

/-- Whether a token has the shape of the type. A custom type is not asked. -/
def accepts : ParamType → String → Bool
  | .text, _ => true
  | .custom _, _ => true
  | .int, token => (Text.int64? token).isSome
  | .flag, token => (flag? token).isSome
  | .enumeration t, token => (t.resolve? token).isSome

def convert : ParamType → String → Except ConversionError Value
  | .text, token => .ok (.text token)
  | .int, token =>
    match Text.int64? token with
    | some n => .ok (.int n)
    | none => .error .notInt
  | .flag, token =>
    match flag? token with
    | some b => .ok (.flag b)
    | none => .error .notFlag
  | .enumeration t, token =>
    match t.resolve? token with
    | some name => .ok (.variant t.name name)
    | none => .error (.noVariant t.variants)
  | .custom t, token =>
    match t.read token with
    | .ok content => .ok (.custom t.name content)
    | .error message => .error (.refused message)

/-- Only a custom type refuses a token of the right shape. -/
theorem convert_of_accepts {t : ParamType} {token : String} (h : t.accepts token = true)
    {e : ConversionError} (he : t.convert token = .error e) :
    ∃ message, e = .refused message := by
  cases t with
  | text => cases he
  | int => cases hn : Text.int64? token <;> simp_all [accepts, convert]
  | flag => cases hb : flag? token <;> simp_all [accepts, convert]
  | enumeration t => cases hr : t.resolve? token <;> simp_all [accepts, convert]
  | custom t =>
    cases hr : t.read token with
    | ok content => simp [convert, hr] at he
    | error message => exact ⟨message, by simp_all [convert]⟩

/-- A token of the wrong shape is never converted. -/
theorem exists_error_of_accepts_eq_false {t : ParamType} {token : String}
    (h : t.accepts token = false) : ∃ e, t.convert token = .error e := by
  cases t <;> simp_all [accepts, convert]

end ParamType

structure Param where
  name : String
  type : ParamType
  summary : Option String := none
  isOptional : Bool := false
  /-- The value that stands in for a missing token. -/
  fallback : Option Value := none
  isVariadic : Bool := false

namespace Param

def optional (p : Param) : Param :=
  { p with isOptional := true }

/-- Gives the parameter a default, which makes it optional. -/
def withDefault (p : Param) (value : Value) : Param :=
  { p with isOptional := true, fallback := some value }

def variadic (p : Param) : Param :=
  { p with isVariadic := true }

def describe (p : Param) (summary : String) : Param :=
  { p with summary := some summary }

def hasDefault (p : Param) : Bool :=
  p.fallback.isSome

def acceptsMissing (p : Param) : Bool :=
  p.isOptional || p.hasDefault

def usage (p : Param) : String :=
  let params := if p.isVariadic then "params " else ""
  "<" ++ params ++ p.type.shorthand ++ " " ++ Text.lowerCase p.name ++ ">"

end Param

end ChatWarden.Command
