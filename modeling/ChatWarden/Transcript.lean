import ChatWarden.Dispatch
import ChatWarden.Failure

/-!
# Dispatching against the outside

Two things about a dispatch are decided outside the dispatcher: how a handler that is called ends,
and whether a reply that is tried arrives. `Dispatch.perform` takes these steps one after the other
and writes them down, whatever the outside makes of them. `Dispatch.ofMessage` is the same dispatch
seen as a whole (`perform_eq`).
-/

namespace ChatWarden

/-- One dealing with the outside. -/
inductive Event (η : Type) where
  /-- A handler is called, and ends. -/
  | call (entry : Entry η) (call : Call η) (reaction : Reaction)
  /-- A reply is tried, and arrives or does not. -/
  | send (send : Send) (arrival : Except Failure Unit)

namespace Event

variable {η : Type}

def call? : Event η → Option (Entry η × Call η × Reaction)
  | call entry given reaction => some (entry, given, reaction)
  | send _ _ => none

def send? : Event η → Option Send
  | call _ _ _ => none
  | send reply _ => some reply

/-- The handlers called, with what they were given and how they ended. -/
def calls (events : List (Event η)) : List (Entry η × Call η × Reaction) :=
  events.filterMap call?

/-- The replies tried, whether or not they arrived. -/
def sends (events : List (Event η)) : List Send :=
  events.filterMap send?

end Event

/-- What the outside does. Both answers may depend on everything that happened before. -/
structure Outside (η : Type) where
  react : List (Event η) → Behaviour η
  arrive : List (Event η) → Send → Except Failure Unit

/-- A course of action that deals with the outside and adds to what has happened. -/
abbrev Performing (η : Type) := ReaderT (Outside η) (StateM (List (Event η)))

namespace Dispatch

variable {η : Type}

/-- Calls the handler of an entry and waits for it to end. -/
def callHandler (entry : Entry η) (call : Call η) : Performing η Reaction := fun outside past =>
  let reaction := outside.react past entry.handler call
  (reaction, past ++ [.call entry call reaction])

/-- Tries to send a text to the channel of the actor. A text that does not arrive is given up. -/
def reply (actor : Actor) (text : String) : Performing η Unit := fun outside past =>
  let send : Send := ⟨actor.channel, text⟩
  ((), past ++ [.send send (outside.arrive past send)])

def answer (actor : Actor) (command : String) : Reaction → Performing η Outcome
  | .output o => do
    if let some text := o.render? then reply actor text
    return .completed command
  | .error text => do
    reply actor Reply.failure
    return .failed command text
  | .fault f => do
    reply actor Reply.failure
    return .failed command f.reason

/-- Dispatches a message, one step after the other. -/
def perform (snapshot : Snapshot η) (sign : Char) (actor : Actor) (message : String) :
    Performing η Outcome := do
  match Invocation.find? sign message.toList with
  | none => return .notACommand
  | some invocation =>
    let tokens := invocation.tokens
    match select? snapshot.catalog tokens invocation.isSilent with
    | none =>
      unless invocation.isSilent do reply actor Reply.notFound
      return .notFound invocation.isSilent
    | some entry =>
      let command := entry.command
      match snapshot.policies.canRun command actor with
      | .denied =>
        reply actor Reply.denied
        return .denied command.path
      | .approved =>
        match Command.coerce command.params (tokens.drop entry.depth) with
        | .error e =>
          reply actor e.message
          return .invalidArguments command.path e
        | .ok arguments =>
          let reaction ← callHandler entry { actor, command, arguments, snapshot, sign }
          answer actor command.path reaction

def trySends (outside : Outside η) (past : List (Event η)) (sends : List Send) : List (Event η) :=
  sends.foldl (fun past send => past ++ [.send send (outside.arrive past send)]) past

/-- What has happened once the dispatch as a whole is carried out: the call, then the replies. -/
def carryOut (outside : Outside η) (past : List (Event η)) (d : Dispatch η) : List (Event η) :=
  let called := d.called.toList.map fun (entry, call) =>
    .call entry call (outside.react past entry.handler call)
  trySends outside (past ++ called) d.sends

section Steps

variable {α β : Type} (outside : Outside η) (past : List (Event η))

@[simp] theorem pure_apply (a : α) : (pure a : Performing η α) outside past = (a, past) := rfl

@[simp] theorem bind_apply (x : Performing η α) (f : α → Performing η β) :
    (x >>= f) outside past = f (x outside past).1 outside (x outside past).2 := rfl

@[simp] theorem map_apply (f : α → β) (x : Performing η α) :
    (f <$> x) outside past = (f (x outside past).1, (x outside past).2) := rfl

@[simp] theorem reply_apply (actor : Actor) (text : String) :
    reply actor text outside past =
      ((), past ++ [.send ⟨actor.channel, text⟩ (outside.arrive past ⟨actor.channel, text⟩)]) := rfl

@[simp] theorem callHandler_apply (entry : Entry η) (call : Call η) :
    callHandler entry call outside past =
      (outside.react past entry.handler call,
        past ++ [.call entry call (outside.react past entry.handler call)]) := rfl

end Steps

theorem answer_apply (outside : Outside η) (past : List (Event η)) (actor : Actor)
    (command : String) (reaction : Reaction) :
    answer actor command reaction outside past =
      ((conclude command reaction).1, trySends outside past
        (((conclude command reaction).2.map fun text => [⟨actor.channel, text⟩]).getD [])) := by
  cases reaction with
  | output o => cases ho : o.render? <;> simp [answer, conclude, trySends, ho]
  | error text => simp [answer, conclude, trySends]
  | fault f => simp [answer, conclude, trySends]

/-- Step by step or as a whole, a dispatch has the same outcome and does the same. -/
theorem perform_eq (snapshot : Snapshot η) (sign : Char) (actor : Actor) (message : String)
    (outside : Outside η) (past : List (Event η)) :
    perform snapshot sign actor message outside past =
      let d := ofMessage (outside.react past) snapshot sign actor message
      (d.outcome, d.carryOut outside past) := by
  unfold perform ofMessage
  cases Invocation.find? sign message.toList with
  | none => simp [carryOut, trySends]
  | some invocation =>
      dsimp only
      unfold ofTokens
      cases select? snapshot.catalog invocation.tokens invocation.isSilent with
      | none => cases hs : invocation.isSilent <;> simp [carryOut, trySends]
      | some entry =>
          dsimp only
          cases snapshot.policies.canRun entry.command actor with
          | denied => simp [carryOut, trySends]
          | approved =>
              dsimp only
              cases Command.coerce entry.command.params (invocation.tokens.drop entry.depth) with
              | error e => simp [carryOut, trySends]
              | ok arguments =>
                  dsimp only
                  rw [bind_apply, callHandler_apply, answer_apply]
                  simp [carryOut]

end Dispatch

end ChatWarden
