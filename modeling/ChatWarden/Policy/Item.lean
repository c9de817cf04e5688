import ChatWarden.Policy.Basic
import ChatWarden.Policy.Lexicon
import ChatWarden.Policy.ParseError
import ChatWarden.Text.Decimal

/-!
# The items of a policy document

An item is a rule, a property, a bracket or a token that begins none of them. `readItem` finds the
extent of one item. It never gives tokens back (`length_le_of_readItem`), which is why reading a
whole document ends.
-/

namespace ChatWarden.Policy

/-- A part of a document that has a meaning of its own. -/
inductive Item where
  | rule (r : Rule)
  /-- A bracket, with the line it opens on. -/
  | scope (line : Nat) (kind : ScopeKind) (name : String) (properties : Properties)
  | property (key value : String)
  /-- A token that begins nothing. -/
  | stray

/-- An item or a part of one, and the tokens after it. -/
abbrev Reading (α : Type) := Except ParseError (α × List PolicyToken)

def unexpected {α : Type} (t : PolicyToken) (expected : Expected) : Except ParseError α :=
  .error (.unexpectedToken t.line expected t.text)

/-- Whether an equals sign comes next. -/
def startsOperator : List PolicyToken → Bool
  | [] => false
  | t :: _ => t.kind == .operator

/-- The identifiers of a rule: as many numbers as there are. -/
def readIds : List PolicyToken → Reading (List Id)
  | [] => .ok ([], [])
  | t :: ts =>
    if t.kind = .number then
      match Text.uint64? t.text with
      | none => .error (.invalidId t.line t.text)
      | some id => (readIds ts).map fun (ids, rest) => (id :: ids, rest)
    else .ok ([], t :: ts)

/-- A rule, of which the first word is given. `endLine` is the last line of the document. -/
def readRule (endLine : Nat) (first : PolicyToken) (ts : List PolicyToken) : Reading Rule :=
  match RuleKind.ofWord? first.text with
  | none => unexpected first .ruleWord
  | some kind =>
    match ts with
    | [] => .error (.unexpectedEnd endLine .targetWord)
    | t :: ts =>
      match if t.kind = .targetWord then Target.ofWord? t.text else none with
      | none => unexpected t .targetWord
      | some target => (readIds ts).map fun (ids, rest) => (⟨kind, target, ids⟩, rest)

/-- The value of a property and its key, from the equals sign on. -/
def readProperty (endLine : Nat) (key : PolicyToken) (ts : List PolicyToken) :
    Reading (String × String) :=
  if key.kind.isWord then
    match ts.drop 1 with
    | [] => .error (.unexpectedEnd endLine .propertyValue)
    | value :: rest =>
      if value.kind.isWord then .ok ((key.text, value.text), rest)
      else unexpected value .propertyValue
  else unexpected key .propertyName

theorem length_le_of_readProperty {endLine : Nat} {key : PolicyToken} {ts rest : List PolicyToken}
    {pair : String × String} (h : readProperty endLine key ts = .ok (pair, rest)) :
    rest.length ≤ ts.length := by
  unfold readProperty unexpected at h
  split at h <;> try contradiction
  split at h <;> try contradiction
  rename_i value tail hd
  split at h <;> try contradiction
  cases h
  have := congrArg List.length hd
  simp only [List.length_drop, List.length_cons] at this
  omega

/-- The kind of a bracket; without a word for it, a method. -/
def readScopeKind (endLine : Nat) : List PolicyToken → Reading ScopeKind
  | [] => .error (.unexpectedEnd endLine .scopeStart)
  | t :: ts =>
    if t.kind = .scopeWord then
      match ts with
      | [] => .error (.unexpectedEnd endLine .nameOrClose)
      | ts => .ok ((ScopeKind.ofWord? t.text).getD .method, ts)
    else .ok (.method, t :: ts)

/-- Passes a colon; something has to follow it. -/
def skipColon (endLine : Nat) : List PolicyToken → Reading Unit
  | [] => .ok ((), [])
  | t :: ts =>
    if t.kind = .colon then
      match ts with
      | [] => .error (.unexpectedEnd endLine .nameOrClose)
      | ts => .ok ((), ts)
    else .ok ((), t :: ts)

/-- The name of a bracket. A word before an equals sign is no name but a key. -/
def takeName : List PolicyToken → String × List PolicyToken
  | [] => ("", [])
  | t :: ts => if t.kind.isWord && !startsOperator ts then (t.text, ts) else ("", t :: ts)

/-- The properties of a bracket up to its end, added to those already read. -/
def readProperties (endLine : Nat) (soFar : Properties) : List PolicyToken → Reading Properties
  | [] => .error (.unexpectedEnd endLine .close)
  | t :: ts =>
    if t.kind = .bracket ∧ t.text = ">" then .ok (soFar, ts)
    else if startsOperator ts then
      match _h : readProperty endLine t ts with
      | .error e => .error e
      | .ok ((key, value), rest) => readProperties endLine (soFar.insert key value) rest
    else unexpected t .propertyOrClose
termination_by ts => ts.length
decreasing_by
  have := length_le_of_readProperty _h
  simp only [List.length_cons]
  omega

/-- A bracket, of which the first token is given. -/
def readScope (endLine : Nat) (opening : PolicyToken) (ts : List PolicyToken) :
    Except ParseError (Item × List PolicyToken) :=
  if opening.text = "<" then do
    let (kind, ts) ← readScopeKind endLine ts
    let ((), ts) ← skipColon endLine ts
    let (name, ts) := takeName ts
    let (properties, ts) ← readProperties endLine ∅ ts
    return (.scope opening.line kind name properties, ts)
  else unexpected opening .openBracket

/-- The item that begins with the given token. -/
def readItem (endLine : Nat) (t : PolicyToken) (ts : List PolicyToken) : Reading Item :=
  match t.kind with
  | .ruleWord => (readRule endLine t ts).map fun (r, rest) => (.rule r, rest)
  | .bracket => readScope endLine t ts
  | _ =>
    if startsOperator ts then
      (readProperty endLine t ts).map fun ((key, value), rest) => (.property key value, rest)
    else .ok (.stray, ts)

/-! ## No item gives tokens back -/

theorem length_le_of_readIds {ts rest : List PolicyToken} {ids : List Id}
    (h : readIds ts = .ok (ids, rest)) : rest.length ≤ ts.length := by
  induction ts generalizing ids rest with
  | nil => cases h; simp
  | cons t ts ih =>
    unfold readIds at h
    split at h
    · split at h <;> try contradiction
      cases hr : readIds ts with
      | error e => simp [hr, Except.map] at h
      | ok pair =>
        obtain ⟨tail, left⟩ := pair
        simp only [hr, Except.map, Except.ok.injEq, Prod.mk.injEq] at h
        have := ih hr
        simp only [← h.2, List.length_cons]
        omega
    · cases h
      simp

theorem length_le_of_readRule {endLine : Nat} {t : PolicyToken} {ts rest : List PolicyToken}
    {r : Rule} (h : readRule endLine t ts = .ok (r, rest)) : rest.length ≤ ts.length := by
  unfold readRule unexpected at h
  split at h <;> try contradiction
  split at h <;> try contradiction
  rename_i kind _ u us
  split at h <;> try contradiction
  cases hr : readIds us with
  | error e => simp [hr, Except.map] at h
  | ok pair =>
    obtain ⟨ids, left⟩ := pair
    simp only [hr, Except.map, Except.ok.injEq, Prod.mk.injEq] at h
    have := length_le_of_readIds hr
    simp only [← h.2, List.length_cons]
    omega

theorem length_le_of_readScopeKind {endLine : Nat} {ts rest : List PolicyToken} {kind : ScopeKind}
    (h : readScopeKind endLine ts = .ok (kind, rest)) : rest.length ≤ ts.length := by
  unfold readScopeKind at h
  split at h <;> try contradiction
  split at h
  · split at h <;> try contradiction
    cases h
    simp
  · cases h
    simp

theorem length_le_of_skipColon {endLine : Nat} {ts rest : List PolicyToken} {u : Unit}
    (h : skipColon endLine ts = .ok (u, rest)) : rest.length ≤ ts.length := by
  unfold skipColon at h
  split at h
  · cases h
    simp
  · split at h
    · split at h <;> try contradiction
      cases h
      simp
    · cases h
      simp

theorem length_takeName_le (ts : List PolicyToken) : (takeName ts).2.length ≤ ts.length := by
  unfold takeName
  split
  · simp
  · split <;> simp

theorem length_le_of_readProperties {endLine : Nat} {soFar properties : Properties}
    {ts rest : List PolicyToken} (h : readProperties endLine soFar ts = .ok (properties, rest)) :
    rest.length ≤ ts.length := by
  fun_induction readProperties endLine soFar ts with
  | case1 => contradiction
  | case2 soFar t ts ht =>
    cases h
    simp
  | case3 => contradiction
  | case4 soFar t ts _ _ key value left hp ih =>
    have := length_le_of_readProperty hp
    have := ih h
    simp only [List.length_cons]
    omega
  | case5 => cases h

theorem length_le_of_readScope {endLine : Nat} {t : PolicyToken} {ts rest : List PolicyToken}
    {item : Item} (h : readScope endLine t ts = .ok (item, rest)) : rest.length ≤ ts.length := by
  unfold readScope unexpected at h
  split at h <;> try contradiction
  cases h₁ : readScopeKind endLine ts with
  | error e => rw [h₁] at h; contradiction
  | ok first =>
    obtain ⟨kind, ts₁⟩ := first
    cases h₂ : skipColon endLine ts₁ with
    | error e => simp only [h₁, bind, Except.bind, h₂] at h; contradiction
    | ok second =>
      obtain ⟨u, ts₂⟩ := second
      cases h₃ : readProperties endLine ∅ (takeName ts₂).2 with
      | error e => simp only [h₁, bind, Except.bind, h₂, h₃] at h; contradiction
      | ok third =>
        obtain ⟨properties, ts₃⟩ := third
        simp only [h₁, bind, Except.bind, h₂, h₃, pure, Except.pure, Except.ok.injEq,
          Prod.mk.injEq] at h
        have := length_le_of_readScopeKind h₁
        have := length_le_of_skipColon h₂
        have := length_takeName_le ts₂
        have := length_le_of_readProperties h₃
        rw [← h.2]
        omega

/-- Every item takes its first token at least. -/
theorem length_le_of_readItem {endLine : Nat} {t : PolicyToken} {ts rest : List PolicyToken}
    {item : Item} (h : readItem endLine t ts = .ok (item, rest)) : rest.length ≤ ts.length := by
  unfold readItem at h
  split at h
  · cases hr : readRule endLine t ts with
    | error e => simp [hr, Except.map] at h
    | ok pair =>
      simp only [hr, Except.map, Except.ok.injEq, Prod.mk.injEq] at h
      exact h.2 ▸ length_le_of_readRule hr
  · exact length_le_of_readScope h
  · split at h
    · cases hr : readProperty endLine t ts with
      | error e => simp [hr, Except.map] at h
      | ok pair =>
        simp only [hr, Except.map, Except.ok.injEq, Prod.mk.injEq] at h
        exact h.2 ▸ length_le_of_readProperty hr
    · cases h
      exact Nat.le_refl _

end ChatWarden.Policy
