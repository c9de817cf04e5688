import ChatWarden.Actor

/-!
# Rules

A rule admits or excludes the members of a list of identifiers. It speaks about one kind of
identifier, its target.
-/

namespace ChatWarden

/-- What a rule, or several of them, say about an actor. -/
inductive Verdict where
  | approved
  | denied
  | undecided
deriving DecidableEq

inductive Decision where
  | approved
  | denied
deriving DecidableEq

namespace Decision

def ofBool (allowed : Bool) : Decision :=
  if allowed then .approved else .denied

end Decision

namespace Verdict

/-- The decision, where nothing else decides, falls to the default. -/
def orDefault (v : Verdict) (allowed : Bool) : Decision :=
  match v with
  | .approved => .approved
  | .denied => .denied
  | .undecided => .ofBool allowed

end Verdict

namespace Policy

/-- Whether the listed identifiers are the ones that pass or the ones that do not. -/
inductive RuleKind where
  | whitelist
  | blacklist
deriving DecidableEq

/-- The kind of identifier that a rule lists. -/
inductive Target where
  | guild
  | channel
  | user
  | role
deriving DecidableEq

namespace RuleKind

def word : RuleKind → String
  | .whitelist => "whitelist"
  | .blacklist => "blacklist"

def ofWord? (text : String) : Option RuleKind :=
  [whitelist, blacklist].find? fun k => k.word == text

@[simp] theorem ofWord?_word (k : RuleKind) : ofWord? k.word = some k := by
  cases k <;> rfl

end RuleKind

namespace Target

def word : Target → String
  | .guild => "guild"
  | .channel => "channel"
  | .user => "user"
  | .role => "role"

def ofWord? (text : String) : Option Target :=
  [guild, channel, user, role].find? fun t => t.word == text

@[simp] theorem ofWord?_word (t : Target) : ofWord? t.word = some t := by
  cases t <;> rfl

end Target

structure Rule where
  kind : RuleKind
  target : Target
  ids : List Id
deriving DecidableEq

namespace Rule

/-- What the rule says about an actor that is listed, or is not. -/
def verdictOn (r : Rule) (listed : Bool) : Verdict :=
  match r.kind, listed with
  | .whitelist, true => .approved
  | .blacklist, false => .approved
  | .whitelist, false => .denied
  | .blacklist, true => .denied

/-- What the rule says about an identifier. -/
def check (r : Rule) (id : Id) : Verdict :=
  r.verdictOn (r.ids.contains id)

/-- What the rule says about an actor without an identifier of the rule's kind: it is a member of
nothing. -/
def checkAbsent (r : Rule) : Verdict :=
  r.verdictOn false

def verdict (r : Rule) : Option Id → Verdict
  | some id => r.check id
  | none => r.checkAbsent

/-- The line of a document that declares the rule. -/
def render (r : Rule) : String :=
  " ".intercalate (r.kind.word :: r.target.word :: r.ids.map toString)

end Rule

end Policy

end ChatWarden
