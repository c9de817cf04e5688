import ChatWarden.Catalog
import ChatWarden.Command.Arguments

/-!
# Selecting a command

A command matches tokens when they begin with its segments and the rest has the shape of its
parameters. Its score prefers literal words to parameters; equal scores go to the command that was
registered first.
-/

namespace ChatWarden

namespace Command

/-- How specifically a command matches tokens; nothing if it does not. -/
def score? (c : Command) (tokens : List String) : Option Nat :=
  let depth := c.segments.length
  if tokens.take depth = c.segments ∧ shapeFits c.params (tokens.drop depth) = true then
    some (2 * depth + c.params.length)
  else none

/-- Whether segments and tokens agree as far as both go. -/
def agrees (c : Command) (tokens : List String) : Bool :=
  let shared := min c.segments.length tokens.length
  tokens.take shared == c.segments.take shared

end Command

structure Match (η : Type) where
  entry : Entry η
  score : Nat

namespace Match

variable {η : Type}

def arguments (m : Match η) (tokens : List String) : List String :=
  tokens.drop m.entry.depth

/-- Whether a match goes before the best one so far. -/
def beats (m best : Match η) : Bool :=
  best.score < m.score || (m.score == best.score && m.entry.seq < best.entry.seq)

/-- The better of the best match so far and an entry, if that matches. -/
def keepBest (tokens : List String) (best : Option (Match η)) (e : Entry η) : Option (Match η) :=
  match e.command.score? tokens, best with
  | none, best => best
  | some score, none => some ⟨e, score⟩
  | some score, some best =>
    let m : Match η := ⟨e, score⟩
    if m.beats best then some m else some best

end Match

namespace Entry

variable {η : Type}

def agrees (e : Entry η) (tokens : List String) : Bool :=
  e.command.agrees tokens

/-- Whether a non-empty list of segments begins the tokens. -/
def leads (e : Entry η) (tokens : List String) : Bool :=
  0 < e.depth && tokens.take e.depth == e.command.segments

/-- The entry with more segments; of two with as many, the one registered first. -/
def deeper (a b : Entry η) : Entry η :=
  if b.depth < a.depth ∨ (a.depth = b.depth ∧ a.seq < b.seq) then a else b

end Entry

namespace Catalog

variable {η : Type}

/-- The best match for tokens. -/
def find? (c : Catalog η) (tokens : List String) : Option (Match η) :=
  (c.candidates tokens.length).foldl (Match.keepBest tokens) none

/-- The entries whose segments agree with the tokens as far as both go, in the order of
registration. With `validate` they also have to match. -/
def agreeing (c : Catalog η) (tokens : List String) (validate : Bool) : List (Entry η) :=
  c.entries.filter fun e =>
    e.agrees tokens && (!validate || (e.command.score? tokens).isSome)

/-- The entry whose segments begin the tokens at the greatest length, whatever its parameters. -/
def closest? (c : Catalog η) (tokens : List String) : Option (Entry η) :=
  ((c.candidates tokens.length).filter (·.leads tokens)).foldl
    (fun best e => some ((best.map fun b => b.deeper e).getD e)) none

end Catalog

end ChatWarden
