import ChatWarden.Policy.Scope

/-!
# Policies

The policy of a container of commands is a scope of its own with named groups below it. A group
speaks about the command whose method it is named after. The groups of a policy have different
names, which `addGroup?` sees to.
-/

namespace ChatWarden

namespace Policy

/-- What a bracket in a document opens: the policy as a whole, or a group of one of two kinds. -/
inductive ScopeKind where
  | whole
  | group
  | method
deriving DecidableEq

namespace ScopeKind

def word : ScopeKind → String
  | .whole => "class"
  | .group => "group"
  | .method => "method"

def ofWord? (text : String) : Option ScopeKind :=
  [whole, group, method].find? fun k => k.word == text

@[simp] theorem ofWord?_word (k : ScopeKind) : ofWord? k.word = some k := by
  cases k <;> rfl

end ScopeKind

structure Group extends Scope where
  owner : String
  name : String
  kind : ScopeKind
deriving DecidableEq

end Policy

/-- The rules of one container of commands. -/
structure Policy extends Policy.Scope where
  name : String
  groups : List Policy.Group := []
deriving DecidableEq

namespace Policy

def group? (p : Policy) (name : String) : Option Group :=
  p.groups.find? (·.name == name)

/-- Adds a group unless its name is taken. -/
def addGroup? (p : Policy) (g : Group) : Option Policy :=
  match p.group? g.name with
  | some _ => none
  | none => some { p with groups := p.groups ++ [g] }

/-- Changes the scope that lines of a document are added to: the last group, or the policy itself
if lines go there or no group is open. -/
def updateScope (p : Policy) (inGroup : Bool) (change : Scope → Scope) : Policy :=
  match inGroup, p.groups.getLast? with
  | true, some g =>
    { p with groups := p.groups.dropLast ++ [{ g with toScope := change g.toScope }] }
  | _, _ => { p with toScope := change p.toScope }

end Policy

/-- The policies in force, each under the name of its container. -/
abbrev PolicySet := SortedMap String Policy

namespace PolicySet

/-- Adds a policy under its own name; it replaces one of that name. -/
def add (set : PolicySet) (p : Policy) : PolicySet :=
  set.insert p.name p

end PolicySet

end ChatWarden
