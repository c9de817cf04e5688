import ChatWarden.Policy.Item

/-!
# Reading policy documents

A document is a sequence of items. A rule or a property belongs to the scope that was opened last,
at first the policy itself; a bracket opens another. A token that begins no item is passed over.
`Draft.add` gives an item its meaning.
-/

namespace ChatWarden.Policy

/-- A policy under way and the kind of the scope that lines go to. -/
structure Draft where
  policy : Policy
  kind : ScopeKind

namespace Draft

def start (name : String) : Draft :=
  ⟨{ name }, .whole⟩

/-- Whether lines go to the last group. -/
def inGroup (d : Draft) : Bool :=
  d.kind != .whole

/-- Adds the meaning of an item. A bracket for the whole policy only adds its properties; any other
opens a group, whose name must be new. -/
def add (d : Draft) : Item → Except ParseError Draft
  | .rule r => .ok { d with policy := d.policy.updateScope d.inGroup (·.addRule r) }
  | .property key value =>
    .ok { d with policy := d.policy.updateScope d.inGroup (·.setProperty key value) }
  | .scope _ .whole _ properties =>
    .ok ⟨{ d.policy with properties := d.policy.properties.union properties }, .whole⟩
  | .scope line kind name properties =>
    match d.policy.addGroup? { owner := d.policy.name, name, kind, properties } with
    | none => .error (.duplicateGroup line name)
    | some policy => .ok ⟨policy, kind⟩
  | .stray => .ok d

/-- Reads items as long as there are tokens. -/
def readAll (endLine : Nat) (d : Draft) : List PolicyToken → Except ParseError Draft
  | [] => .ok d
  | t :: ts =>
    match _h : readItem endLine t ts with
    | .error e => .error e
    | .ok (item, rest) =>
      match d.add item with
      | .error e => .error e
      | .ok d => readAll endLine d rest
termination_by ts => ts.length
decreasing_by
  have := length_le_of_readItem _h
  simp only [List.length_cons]
  omega

end Draft

/-- The line of the last token of a document. -/
def endLine (tokens : List PolicyToken) : Nat :=
  (tokens.getLast?.map Token.line).getD 1

/-- The policy that tokens declare. -/
def ofTokens (name : String) (tokens : List PolicyToken) : Except ParseError Policy :=
  (Draft.readAll (endLine tokens) (.start name) tokens).map Draft.policy

/-- The policy that a document declares. -/
def parse (name source : String) : Except ParseError Policy :=
  ofTokens name (lexer.lex source)

end ChatWarden.Policy
