import ChatWarden.Command.Basic
import ChatWarden.SortedMap
import ChatWarden.Text.Blank
import ChatWarden.Text.Quoted

/-!
# Catalogs

A catalog holds commands with their handlers, in the order they were registered and, as an index,
by the number of segments and then of parameters. The builder accepts a command only if it is well
formed and no accepted command has the same key.

A handler is a value of any type; what it does is said where messages are dispatched.
-/

namespace ChatWarden

inductive RegistrationError where
  | emptyName (command : String)
  | emptySegment (command : String) (index : Nat)
  | variadicNotLast (command param : String)
  | duplicateParam (command param : String)
  | invalidDefault (command param : String)
  | duplicate (command owner : String)
deriving DecidableEq

namespace RegistrationError

def message : RegistrationError → String
  | .emptyName command => s!"command `{command}` has an empty display name"
  | .emptySegment command index => s!"command `{command}` has an empty structure segment at {index}"
  | .variadicNotLast command param =>
    s!"command `{command}`: variadic parameter `{param}` must be the last parameter"
  | .duplicateParam command param =>
    s!"command `{command}` declares parameter `{param}` more than once"
  | .invalidDefault command param =>
    s!"command `{command}`: default of `{param}` is not a valid value"
  | .duplicate command owner => s!"command `{command}` is already registered by `{owner}`"

end RegistrationError

namespace Command

def isBlankText (text : String) : Bool :=
  Text.allBlank text.toList

namespace Param

/-- Whether the default of an enumeration is none of its variants. -/
def hasInvalidDefault (p : Param) : Bool :=
  match p.type, p.fallback with
  | .enumeration t, some (.variant _ name) => (t.resolve? name).isNone
  | _, _ => false

end Param

/-- The first fault among parameters, given the names of those before them. -/
def paramFault? (command : String) (seen : List String) : List Param → Option RegistrationError
  | [] => none
  | p :: ps =>
    if p.isVariadic && !ps.isEmpty then some (.variadicNotLast command p.name)
    else if seen.contains p.name then some (.duplicateParam command p.name)
    else if p.hasInvalidDefault then some (.invalidDefault command p.name)
    else paramFault? command (p.name :: seen) ps

def fault? (c : Command) : Option RegistrationError :=
  if isBlankText c.name then some (.emptyName c.path)
  else
    match c.segments.findIdx? isBlankText with
    | some index => some (.emptySegment c.path index)
    | none => paramFault? c.path [] c.params

/-- What no two commands of a catalog have in common. -/
structure Key where
  owner : String
  method : String
  segments : List String
  paramCount : Nat
deriving DecidableEq

def key (c : Command) : Key :=
  ⟨c.owner, c.method, c.segments, c.params.length⟩

end Command

/-- A command, its handler and its place in the order of registration. -/
structure Entry (η : Type) where
  command : Command
  handler : η
  seq : Nat

namespace Entry

variable {η : Type}

def depth (e : Entry η) : Nat :=
  e.command.segments.length

def paramCount (e : Entry η) : Nat :=
  e.command.params.length

/-- An entry in a line, for people who look into a catalog. -/
def describe (e : Entry η) : String :=
  let path := Text.quoted e.command.path
  let owner := Text.quoted e.command.owner
  "CatalogEntry \x7b def: " ++ path ++ ", owner: " ++ owner ++ ", seq: " ++ toString e.seq
    ++ " \x7d"

end Entry

/-- Entries by the number of segments, then by the number of parameters. -/
abbrev Buckets (η : Type) := SortedMap Nat (SortedMap Nat (List (Entry η)))

namespace Buckets

variable {η : Type}

/-- Adds an entry at the end of its own bucket. -/
def add (buckets : Buckets η) (e : Entry η) : Buckets η :=
  let row := (buckets.get? e.depth).getD ∅
  let bucket := (row.get? e.paramCount).getD []
  buckets.insert e.depth (row.insert e.paramCount (bucket ++ [e]))

end Buckets

structure Catalog (η : Type) where
  /-- All entries in the order of registration. -/
  entries : List (Entry η) := []
  buckets : Buckets η := ∅

namespace Catalog

variable {η : Type}

/-- The entries whose segments fit into so many tokens: fewest segments first, then fewest
parameters, then in the order of registration. -/
def candidates (c : Catalog η) (tokenCount : Nat) : List (Entry η) :=
  (c.buckets.entries.filter (·.1 ≤ tokenCount)).flatMap fun row =>
    row.2.entries.flatMap (·.2)

def size (c : Catalog η) : Nat :=
  c.entries.length

def isEmpty (c : Catalog η) : Bool :=
  c.entries.isEmpty

end Catalog

/-- A catalog under construction and the keys it has used up. -/
structure CatalogBuilder (η : Type) where
  catalog : Catalog η := {}
  keys : List Command.Key := []

namespace CatalogBuilder

variable {η : Type}

def empty : CatalogBuilder η := {}

/-- Adds a command unless it has a fault or its key is taken. -/
def register (b : CatalogBuilder η) (command : Command) (handler : η) :
    Except RegistrationError (CatalogBuilder η) :=
  match command.fault? with
  | some e => .error e
  | none =>
    if b.keys.contains command.key then .error (.duplicate command.path command.owner)
    else
      let entry := ⟨command, handler, b.catalog.entries.length⟩
      .ok {
        catalog := {
          entries := b.catalog.entries ++ [entry]
          buckets := b.catalog.buckets.add entry }
        keys := command.key :: b.keys }

/-- Adds what can be added of a list of commands and collects the errors of the rest. -/
def registerAll (b : CatalogBuilder η) :
    List (Command × η) → CatalogBuilder η × List RegistrationError
  | [] => (b, [])
  | (command, handler) :: rest =>
    match b.register command handler with
    | .ok b => b.registerAll rest
    | .error e =>
      let (b, es) := b.registerAll rest
      (b, e :: es)

end CatalogBuilder

end ChatWarden
