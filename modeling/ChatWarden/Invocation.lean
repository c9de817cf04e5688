import ChatWarden.Text.Lines

/-!
# Finding a command in a message

A message that begins with the sign is a command as a whole. In any other message the first text in
braces is one, and a silent one: nobody is told when it is not found.
-/

namespace ChatWarden

structure Invocation where
  text : List Char
  isSilent : Bool
deriving DecidableEq

namespace Invocation

/-- The words of a command, as the catalog and the parameters see them. -/
def tokens (i : Invocation) : List String :=
  (Text.words i.text).map String.ofList

def openBrace : Char := '\x7b'

def closeBrace : Char := '\x7d'

/-- The text between the first opening brace and the next closing one. -/
def inBraces? (cs : List Char) : Option (List Char) :=
  match cs.dropWhile (· != openBrace) with
  | [] => none
  | _ :: rest =>
    if rest.contains closeBrace then some (rest.takeWhile (· != closeBrace)) else none

def dropSign (sign : Char) : List Char → List Char
  | [] => []
  | c :: cs => if c = sign then cs else c :: cs

def find? (sign : Char) (message : List Char) : Option Invocation :=
  if message.head? = some sign then some ⟨message.tail, false⟩
  else (inBraces? message).map fun inner => ⟨dropSign sign inner, true⟩

end Invocation

end ChatWarden
