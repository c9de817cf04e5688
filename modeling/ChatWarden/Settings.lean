import ChatWarden.Procedure
import ChatWarden.Toml.Parser

/-!
# Settings

Settings come from a TOML file. Every key is optional, unknown keys are passed over, and a file that
is not there leaves everything at its default. A group of settings may also be written as an array
of its values in order.
-/

namespace ChatWarden

structure Settings where
  /-- The sign that calls commands. -/
  sign : Char := '!'
  maintainer : Option Id := none
  directory : String := "permissions"
  extension : String := "prm"
  perPage : Nat := 20
deriving DecidableEq

namespace Settings

/-- What no type can rule out. -/
inductive Fault where
  | blankSign
  | noPerPage
  | emptyExtension
deriving DecidableEq

def Fault.message : Fault → String
  | .blankSign => "prefix must not be whitespace"
  | .noPerPage => "help.per_page must be at least 1"
  | .emptyExtension => "permissions.extension must not be empty"

def fault? (s : Settings) : Option Fault :=
  if Text.isBlank s.sign then some .blankSign
  else if s.perPage = 0 then some .noPerPage
  else if s.extension = "" then some .emptyExtension
  else none

/-- Passes settings on unless they have a fault. -/
def checked (s : Settings) : Except Failure Settings :=
  match s.fault? with
  | some f => .error (.settings f.message)
  | none => .ok s

inductive Error where
  | document (e : Toml.Error)
  | wrongType
deriving DecidableEq

def Error.message (path : String) (e : Error) : String :=
  let reason :=
    match e with
    | .document e => e.message
    | .wrongType => "a value has the wrong type"
  "Configuration error in " ++ path ++ ":\n  " ++ reason

/-! ## Reading values -/

open Toml (Item)

def character (i : Item) : Except Error Char :=
  match i with
  | .string content =>
    match content.toList with
    | [c] => .ok c
    | _ => .error .wrongType
  | _ => .error .wrongType

def text (i : Item) : Except Error String :=
  match i with
  | .string content => .ok content
  | _ => .error .wrongType

def count (i : Item) : Except Error Nat :=
  match i with
  | .int n => if n.toInt < 0 then .error .wrongType else .ok n.toInt.toNat
  | _ => .error .wrongType

/-- The values of a group, given the names of its keys. -/
def group (keys : List String) (i : Item) : Except Error (List (Option Item)) :=
  match i with
  | .table _ _ items => .ok (keys.map fun k => items.lookup k)
  | .inlineTable items => .ok (keys.map fun k => items.lookup k)
  | .array items => .ok (keys.mapIdx fun n _ => items[n]?)
  | .tables all => .ok (keys.mapIdx fun n _ => all[n]?.map fun items => .table false false items)
  | .moment => .ok (keys.map fun _ => none)
  | _ => .error .wrongType

def orDefault {α : Type} (fallback : α) (read : Item → Except Error α) :
    Option Item → Except Error α
  | none => .ok fallback
  | some i => read i

def permissionsGroup (s : Settings) (i : Item) : Except Error Settings := do
  match ← group ["directory", "extension"] i with
  | [directory, extension] =>
    return { s with
      directory := ← orDefault s.directory text directory
      extension := ← orDefault s.extension text extension }
  | _ => return s

def helpGroup (s : Settings) (i : Item) : Except Error Settings := do
  match ← group ["per_page"] i with
  | [perPage] => return { s with perPage := ← orDefault s.perPage count perPage }
  | _ => return s

def ofTable (t : Toml.Table) : Except Error Settings := do
  let defaults : Settings := {}
  let sign ← orDefault defaults.sign character (t.get? "prefix")
  let maintainer ← orDefault none (fun i => (count i).map fun n => some (UInt64.ofNat n))
    (t.get? "maintainer")
  let s := { defaults with sign, maintainer }
  let s ← orDefault s (permissionsGroup s) (t.get? "permissions")
  orDefault s (helpGroup s) (t.get? "help")

def parse (source : String) : Except Error Settings :=
  match Toml.parse source with
  | .ok t => ofTable t
  | .error e => .error (.document e)

def ofContent (path : String) (content : Except FileError ByteArray) : Except Failure Settings :=
  match content.bind decodeText with
  | .error e => .error (.file path e)
  | .ok source =>
    match parse source with
    | .error e => .error (.settings (e.message path))
    | .ok s => s.checked

def load (path : String) : Attempt Settings :=
  .isThere path fun isThere =>
    if isThere then .read path fun content => .done (ofContent path content)
    else .done (.ok {})

end Settings

end ChatWarden
