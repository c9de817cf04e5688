import ChatWarden.Dispatch
import ChatWarden.Help
import ChatWarden.Policy.Printer

/-!
# Built-in commands

`help` lists the commands that the caller may run, or shows one of them. `permissions` shows the
policies. Both read nothing but their call.
-/

namespace ChatWarden

inductive Builtin where
  | help (perPage : Nat)
  | permissions
deriving DecidableEq

namespace Builtin

def helpCommand : Command :=
  { Command.ofSegments ["help"] with
    owner := "help"
    container := .help
    summary := some "Lists available commands or shows one command in detail."
    params := [{
      name := "query"
      type := .text
      isVariadic := true
      summary := some "Page number, or the command to describe with an optional index." }]
    examples := ["!help 2", "!help file list"] }

def permissionsCommand : Command :=
  { Command.ofSegments ["permissions"] with
    owner := "permissions"
    container := .internal
    summary := some "Shows the loaded permission policy of a command container."
    params := [{
      name := "container"
      type := .text
      isOptional := true
      summary := some "Container to show. Lists every loaded policy when left out." }]
    examples := ["!permissions Music"] }

def all (perPage : Nat) : List (Command × Builtin) :=
  [(helpCommand, .help (max perPage 1)), (permissionsCommand, .permissions)]

/-- Registers the built-in commands; the first that is refused ends it. What was registered before
stays. -/
def registerIn {η : Type} (wrap : Builtin → η) (b : CatalogBuilder η) :
    List (Command × Builtin) → CatalogBuilder η × Option RegistrationError
  | [] => (b, none)
  | (command, builtin) :: rest =>
    match b.register command (wrap builtin) with
    | .error e => (b, some e)
    | .ok b => registerIn wrap b rest

variable {η : Type}

/-- The commands of entries that help may show to the caller. -/
def visible (call : Call η) (entries : List (Entry η)) : List Command :=
  (entries.map Entry.command).filter fun c =>
    !c.isHidden && call.snapshot.policies.canRun c call.actor = .approved

/-- The page asked for, or the nearest there is. -/
def clampPage (requested : Int) (pages : Nat) : Nat :=
  (max 1 (min requested pages)).toNat

def helpListing (perPage : Nat) (call : Call η) (requested : Int) : String :=
  let commands := visible call call.snapshot.catalog.entries
  let page := clampPage requested (Help.pageCount commands.length perPage)
  Help.listing commands page perPage call.sign

/-- Splits a query into its words and the number at its end, if there is one. -/
def splitSelector (query : List String) : List String × Option Nat :=
  match query.getLast?.bind Text.uint64? with
  | some n => (query.dropLast, some n.toNat)
  | none => (query, none)

def helpDetail (call : Call η) (query : List String) : String :=
  let (words, selector) := splitSelector query
  let found := visible call (call.snapshot.catalog.agreeing words false)
  match found, selector with
  | [], _ => "Unknown command."
  | [c], _ => Help.detail c call.sign
  | found, none => Help.choices found call.sign
  | found, some index =>
    match if 1 ≤ index then found[index - 1]? else none with
    | some c => Help.detail c call.sign
    | none => Help.choices found call.sign

/-- The answer to a query: a page where it is empty or a single number, else one command. -/
def helpText (perPage : Nat) (call : Call η) (query : List String) : String :=
  match query with
  | [] => helpListing perPage call 1
  | [word] =>
    match Text.int64? word with
    | some page => helpListing perPage call page.toInt
    | none => helpDetail call query
  | query => helpDetail call query

def helpQuery (call : Call η) : List String :=
  ((call.arguments.list? "query").getD []).map Command.Value.render

def permissionsOutput (call : Call η) : Output :=
  let policies := call.snapshot.policies
  match call.arguments.text? "container" with
  | some name =>
    match policies.get? name with
    | some policy => .info (Text.trimEnd policy.render)
    | none => .error s!"No permission policy loaded for {name}."
  | none =>
    if policies.isEmpty then .info "No permission policies loaded."
    else
      let row (p : Policy) : List String :=
        [p.name, toString p.rules.length, toString p.groups.length]
      .table ["Class", "Rules", "Groups"] (policies.values.map row)

def behave (b : Builtin) (call : Call η) : Reaction :=
  match b with
  | .help perPage => .output (.info (helpText perPage call (helpQuery call)))
  | .permissions => .output (permissionsOutput call)

end Builtin

end ChatWarden
