import ChatWarden.Policy.Basic

/-!
# Writing policy documents

Each policy has one written form: its rules, its groups with their rules, and at the end its own
properties in a bracket. Properties come in the order of their keys.
-/

namespace ChatWarden.Policy

/-- The line that opens a scope. An empty name is left out. -/
def renderBracket (kind : ScopeKind) (name : String) (properties : Properties) : String :=
  "<" ++ kind.word ++ (if name = "" then "" else ": " ++ name)
    ++ String.join (properties.entries.map fun (key, value) => " " ++ key ++ "=" ++ value)
    ++ ">\n"

/-- A group: its bracket, then its rules, each two spaces in. -/
def renderGroup (g : Group) : String :=
  renderBracket g.kind g.name g.properties
    ++ String.join (g.rules.map fun r => "  " ++ r.render ++ "\n")

/-- The written form of a policy. -/
def render (p : Policy) : String :=
  String.join (p.rules.map fun r => r.render ++ "\n")
    ++ String.join (p.groups.map renderGroup)
    ++ (if p.properties.isEmpty then "" else renderBracket .whole "" p.properties)

end ChatWarden.Policy
