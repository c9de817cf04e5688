import ChatWarden.Access
import ChatWarden.Invocation
import ChatWarden.Match
import ChatWarden.Output

/-!
# Dispatching messages

A message is searched for a command, the command is selected from the catalog, the actor is checked
against the policies, the arguments are converted, and only then the handler is called. Whatever
the handler does, the message has an outcome. `Dispatch` is everything that is done: the outcome,
the replies that are tried and the handler that is called. Tables are written out here as wide as
they are; a dispatch that breaks off in formatting one (`Dispatch.breaksOff`) does not get as far.
-/

namespace ChatWarden

/-- Everything a message is dispatched against. -/
structure Snapshot (η : Type) where
  catalog : Catalog η := {}
  policies : PolicySet := ∅

structure Call (η : Type) where
  actor : Actor
  command : Command
  arguments : Command.Arguments
  snapshot : Snapshot η
  /-- The sign that calls commands. -/
  sign : Char

/-- How a handler breaks down: with or without a text that says why. -/
inductive Fault where
  | described (text : String)
  | undescribed
deriving DecidableEq

namespace Fault

def reason : Fault → String
  | .described text => text
  | .undescribed => "handler panicked"

end Fault

inductive Reaction where
  | output (o : Output)
  | error (text : String)
  | fault (f : Fault)
deriving DecidableEq

/-- Whether a handler has said something that cannot be formatted. -/
def Reaction.breaksOff : Reaction → Bool
  | .output o => o.format?.isNone
  | .error _ => false
  | .fault _ => false

/-- What each handler does when it is called. -/
abbrev Behaviour (η : Type) := η → Call η → Reaction

inductive Outcome where
  | notACommand
  | notFound (isSilent : Bool)
  | denied (command : String)
  | invalidArguments (command : String) (error : Command.CoercionError)
  | completed (command : String)
  | failed (command reason : String)
deriving DecidableEq

namespace Outcome

def isCompleted : Outcome → Bool
  | .completed _ => true
  | _ => false

def members : Outcome → List (String × Json)
  | .notACommand => [("outcome", .string "not_a_command")]
  | .notFound isSilent => [("outcome", .string "not_found"), ("silent", .bool isSilent)]
  | .denied command => [("outcome", .string "denied"), ("command", .string command)]
  | .invalidArguments command error =>
    [("outcome", .string "invalid_arguments"), ("command", .string command),
      ("error", .string error.message)]
  | .completed command => [("outcome", .string "completed"), ("command", .string command)]
  | .failed command reason =>
    [("outcome", .string "failed"), ("command", .string command), ("reason", .string reason)]

def toJson (o : Outcome) : Json :=
  .object o.members

end Outcome

structure Send where
  channel : Id
  text : String
deriving DecidableEq

namespace Reply

def notFound : String := "Command not found."

def denied : String := "You do not have permission to run this command."

def failure : String := "Something went wrong while running this command."

end Reply

/-- All that dispatching a message does. -/
structure Dispatch (η : Type) where
  outcome : Outcome
  /-- The replies that are attempted, whether or not they arrive. -/
  sends : List Send := []
  /-- The entry whose handler is called, and what the handler is given. -/
  called : Option (Entry η × Call η) := none

namespace Dispatch

variable {η : Type}

/-- The entry that tokens select: the best match, or else, unless the command is silent, the entry
whose segments come closest. -/
def select? (catalog : Catalog η) (tokens : List String) (isSilent : Bool) : Option (Entry η) :=
  match catalog.find? tokens with
  | some m => some m.entry
  | none => if isSilent then none else catalog.closest? tokens

/-- The outcome and the reply of a handler that has ended. -/
def conclude (command : String) : Reaction → Outcome × Option String
  | .output o => (.completed command, o.render?)
  | .error text => (.failed command text, some Reply.failure)
  | .fault f => (.failed command f.reason, some Reply.failure)

def ofTokens (behave : Behaviour η) (snapshot : Snapshot η) (sign : Char) (actor : Actor)
    (isSilent : Bool) (tokens : List String) : Dispatch η :=
  let send (text : String) : List Send := [⟨actor.channel, text⟩]
  match select? snapshot.catalog tokens isSilent with
  | none =>
    { outcome := .notFound isSilent, sends := if isSilent then [] else send Reply.notFound }
  | some entry =>
    let command := entry.command
    match snapshot.policies.canRun command actor with
    | .denied => { outcome := .denied command.path, sends := send Reply.denied }
    | .approved =>
      match Command.coerce command.params (tokens.drop entry.depth) with
      | .error e => { outcome := .invalidArguments command.path e, sends := send e.message }
      | .ok arguments =>
        let call : Call η := { actor, command, arguments, snapshot, sign }
        let (outcome, reply) := conclude command.path (behave entry.handler call)
        { outcome, sends := (reply.map send).getD [], called := some (entry, call) }

def ofMessage (behave : Behaviour η) (snapshot : Snapshot η) (sign : Char) (actor : Actor)
    (message : String) : Dispatch η :=
  match Invocation.find? sign message.toList with
  | none => { outcome := .notACommand }
  | some invocation =>
    ofTokens behave snapshot sign actor invocation.isSilent invocation.tokens

/-- Whether the dispatch breaks off after the call, with no reply and no outcome, since what the
handler has said cannot be formatted. -/
def breaksOff (behave : Behaviour η) (d : Dispatch η) : Bool :=
  d.called.any fun (entry, call) => (behave entry.handler call).breaksOff

end Dispatch

end ChatWarden
