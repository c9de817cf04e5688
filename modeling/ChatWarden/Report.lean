import ChatWarden.Dispatch

/-!
# Reports

A report says what became of one message and which replies it got. All messages share one outbox,
which is emptied after each of them, so that a report holds the replies to its own message.
-/

namespace ChatWarden

/-- Replies that have arrived and wait to be taken, oldest first. -/
structure Outbox where
  replies : List Send := []

namespace Outbox

/-- Lets replies arrive in order. -/
def deliver (box : Outbox) (sends : List Send) : Outbox :=
  ⟨box.replies ++ sends⟩

/-- Everything in the box, and the box without it. -/
def take (box : Outbox) : List Send × Outbox :=
  (box.replies, ⟨[]⟩)

end Outbox

structure Report where
  input : String
  outcome : Outcome
  replies : List String
deriving DecidableEq

/-- How reports are shown. -/
inductive Format where
  | text
  | json
deriving DecidableEq

namespace Report

variable {η : Type}

/-- Dispatches messages one after the other through a shared outbox. -/
def dispatchAllThrough (behave : Behaviour η) (snapshot : Snapshot η) (sign : Char)
    (actor : Actor) (box : Outbox) : List String → List Report
  | [] => []
  | input :: rest =>
    let dispatch := Dispatch.ofMessage behave snapshot sign actor input
    let (sends, box) := (box.deliver dispatch.sends).take
    ⟨input, dispatch.outcome, sends.map Send.text⟩
      :: dispatchAllThrough behave snapshot sign actor box rest

/-- Dispatches messages one after the other. -/
def dispatchAll (behave : Behaviour η) (snapshot : Snapshot η) (sign : Char) (actor : Actor)
    (messages : List String) : List Report :=
  dispatchAllThrough behave snapshot sign actor {} messages

def toJson (r : Report) : Json :=
  .object (("input", .string r.input) :: r.outcome.members
    ++ [("replies", .array (r.replies.map .string))])

/-- A report as text: the message behind a mark, then each reply. -/
def toText (r : Report) : String :=
  "> " ++ r.input ++ "\n" ++ String.join (r.replies.map (· ++ "\n"))

/-- Reports in a format. -/
def renderAll (format : Format) (reports : List Report) : String :=
  match format with
  | .text => String.join (reports.map toText)
  | .json => (Json.array (reports.map toJson)).pretty ++ "\n"

end Report

end ChatWarden
