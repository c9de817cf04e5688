import ChatWarden.Policy.Rule
import ChatWarden.SortedMap
import ChatWarden.Text.AsciiCase

/-!
# Scopes

A scope is a list of rules with named properties. Its rules decide about an actor by kind: first
those about the user, then the roles, then the channel, then the guild.
-/

namespace ChatWarden.Policy

/-- Named properties of a scope. -/
abbrev Properties := SortedMap String String

structure Scope where
  rules : List Rule := []
  properties : Properties := ∅
deriving DecidableEq

namespace Scope

/-- The property under which a scope leaves the scope above it out. -/
def ignoreAbove : String := "IgnoreAbove"

/-- The property that marks a scope as meant for direct messages. -/
def isDM : String := "IsDM"

/-- The verdict of rules in order, given that of the rules before them. A rule that denies ends the
search. -/
def verdictFrom (soFar : Verdict) (id : Option Id) : List Rule → Verdict
  | [] => soFar
  | r :: rs =>
    match r.verdict id with
    | .denied => .denied
    | v => verdictFrom v id rs

/-- The verdict of all rules about one kind of identifier; undecided if there are none. -/
def verdictFor (s : Scope) (target : Target) (id : Option Id) : Verdict :=
  verdictFrom .undecided id (s.rules.filter (·.target == target))

/-- The verdict of the rules about roles, given that of the roles before. One approved role is
enough. -/
def rolesVerdictFrom (s : Scope) (soFar : Verdict) : List Id → Verdict
  | [] => soFar
  | id :: ids =>
    match s.verdictFor .role (some id) with
    | .approved => .approved
    | .denied => s.rolesVerdictFrom .denied ids
    | .undecided => s.rolesVerdictFrom soFar ids

/-- The verdict about an actor: that of the first kind of identifier that decides. -/
def resolve (s : Scope) (actor : Actor) : Verdict :=
  match s.verdictFor .user (some actor.user) with
  | .undecided =>
    match s.rolesVerdictFrom .undecided actor.roles with
    | .undecided =>
      match s.verdictFor .channel (some actor.channel) with
      | .undecided => s.verdictFor .guild actor.guild
      | v => v
    | v => v
  | v => v

/-- A property that is true or false, in whatever case; nothing if it is absent or neither. -/
def flag (s : Scope) (key : String) : Option Bool :=
  (s.properties.get? key).bind fun value =>
    if Text.foldAscii value = "true".toList then some true
    else if Text.foldAscii value = "false".toList then some false
    else none

/-- Whether the rules of the scope above are left out where this one does not decide. -/
def ignoresAbove (s : Scope) : Bool :=
  (s.flag ignoreAbove).getD false

def addRule (s : Scope) (r : Rule) : Scope :=
  { s with rules := s.rules ++ [r] }

def setProperty (s : Scope) (key value : String) : Scope :=
  { s with properties := s.properties.insert key value }

end Scope

end ChatWarden.Policy
