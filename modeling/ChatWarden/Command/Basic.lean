import ChatWarden.Command.Param
import ChatWarden.Policy.Rule

/-!
# Commands

A command is addressed by its segments, the literal words at the front of a message, and described
by its parameters. It belongs to a container; the container's policy and the rules declared on the
command itself say who may run it.
-/

namespace ChatWarden

namespace Command

inductive Container where
  | module
  | internal
  | help
deriving DecidableEq

namespace Container

def allowsByDefault : Container → Bool
  | .internal => false
  | .module | .help => true

end Container

end Command

structure Command where
  segments : List String
  params : List Command.Param := []
  name : String
  /-- The name under which policies know the command. -/
  method : String
  summary : Option String := none
  examples : List String := []
  /-- The name of the container, which selects the policy. -/
  owner : String := ""
  container : Command.Container := .module
  dmOnly : Bool := false
  isHidden : Bool := false
  filters : List Policy.Rule := []

namespace Command

/-- A command with the given segments; its names are the last of them. -/
def ofSegments (segments : List String) : Command :=
  let last := segments.getLast?.getD ""
  { segments, name := last, method := last }

/-- A command under way, of which the name may or may not be settled. -/
structure Draft where
  command : Command
  isNamed : Bool

namespace Draft

def start (segments : List String) : Draft :=
  ⟨ofSegments segments, false⟩

/-- Sets the method, and the name with it until that is settled. -/
def method (d : Draft) (method : String) : Draft :=
  let name := if d.isNamed then d.command.name else method
  { d with command := { d.command with method, name } }

def name (d : Draft) (name : String) : Draft :=
  ⟨{ d.command with name }, true⟩

end Draft

def path (c : Command) : String :=
  " ".intercalate c.segments

/-- The usage line: the path, then the parameters. -/
def usage (c : Command) : String :=
  c.params.foldl
    (fun line p => (if line.isEmpty then line else line.push ' ') ++ p.usage) c.path

end Command

end ChatWarden
