import ChatWarden.Policy.Parser
import ChatWarden.Proofs.Policy.Lexeme

/-!
# The grammar of policy documents

A document is cut from left to right into clauses (`Cut`). How a clause is written is said by
`Written`, which also sees what comes after it: the numbers of a rule go on as long as there are
any, and a token before an equals sign is not passed over. `meaning` is the policy that a list of
clauses declares: lines go to the scope that was opened last.
-/

namespace ChatWarden.Policy

abbrev PolicyLexeme := Lexeme TokenKind

/-- A part of a document that has a meaning of its own, wherever it stands. -/
inductive Clause where
  | rule (r : Rule)
  | scope (kind : ScopeKind) (name : String) (properties : Properties)
  | property (key value : String)
  | stray

/-! ## How clauses are written -/

/-- The kind of the first lexeme. -/
def firstKind? (ls : List PolicyLexeme) : Option TokenKind :=
  ls.head?.map Prod.fst

/-- Texts that are read as numbers. -/
def numerals (texts : List String) : List PolicyLexeme :=
  texts.map fun text => (.number, text)

/-- A key and a value with an equals sign between them. -/
def assignment (pair : PolicyLexeme × PolicyLexeme) : List PolicyLexeme :=
  [pair.1, (.operator, "="), pair.2]

/-- Pairs of which both sides can stand in a property. -/
def AreWords (pairs : List (PolicyLexeme × PolicyLexeme)) : Prop :=
  ∀ pair ∈ pairs, pair.1.1.isWord = true ∧ pair.2.1.isWord = true

/-- The end of a bracket: its properties and what closes it. -/
def bracketEnd (pairs : List (PolicyLexeme × PolicyLexeme)) : List PolicyLexeme :=
  pairs.flatMap assignment ++ [(.bracket, ">")]

/-- What follows the kind of a bracket: a colon or none, a name or none, and the end. Next after
the name comes a key or what closes the bracket, never an equals sign. -/
def bracketBody (colon : Bool) (name? : Option PolicyLexeme)
    (pairs : List (PolicyLexeme × PolicyLexeme)) : List PolicyLexeme :=
  (if colon then [(.colon, ":")] else []) ++ (name?.toList ++ bracketEnd pairs)

/-- The properties that pairs declare; of two values for one key the later stays. -/
def declared (pairs : List (PolicyLexeme × PolicyLexeme)) : List (String × String) :=
  pairs.map fun pair => (pair.1.2, pair.2.2)

/-- `Written c ls rest` says that the lexemes `ls` with `rest` after them are the clause `c`. -/
inductive Written : Clause → List PolicyLexeme → List PolicyLexeme → Prop
  | rule {kind : RuleKind} {target : Target} {ids : List Id} {texts : List String}
      {rest : List PolicyLexeme}
      (hids : texts.map Text.decimal = ids.map UInt64.toNat)
      (hrest : firstKind? rest ≠ some .number) :
      Written (.rule ⟨kind, target, ids⟩)
        ((.ruleWord, kind.word) :: (.targetWord, target.word) :: numerals texts) rest
  | scope {kind? : Option ScopeKind} {colon : Bool} {name? : Option PolicyLexeme}
      {pairs : List (PolicyLexeme × PolicyLexeme)} {rest : List PolicyLexeme}
      (hkind : kind? = none → firstKind? (bracketBody colon name? pairs) ≠ some .scopeWord)
      (hname : ∀ l ∈ name?, l.1.isWord = true)
      (hpairs : AreWords pairs) :
      Written
        (.scope (kind?.getD .method) ((name?.map Prod.snd).getD "") (.ofList (declared pairs)))
        ((.bracket, "<") :: ((kind?.map fun k => (.scopeWord, k.word)).toList
          ++ bracketBody colon name? pairs))
        rest
  | property {key value : PolicyLexeme} {rest : List PolicyLexeme}
      (hkey : key.1.isWord = true) (hrule : key.1 ≠ .ruleWord) (hvalue : value.1.isWord = true) :
      Written (.property key.2 value.2) (assignment (key, value)) rest
  | stray {l : PolicyLexeme} {rest : List PolicyLexeme}
      (hrule : l.1 ≠ .ruleWord) (hbracket : l.1 ≠ .bracket)
      (hrest : firstKind? rest ≠ some .operator) :
      Written .stray [l] rest

/-- The lexemes of a document, cut into clauses. -/
inductive Cut : List Clause → List PolicyLexeme → Prop
  | nil : Cut [] []
  | cons {c : Clause} {cs : List Clause} {ls rest : List PolicyLexeme}
      (hc : Written c ls rest) (hcs : Cut cs rest) : Cut (c :: cs) (ls ++ rest)

/-! ## What clauses mean -/

/-- The name of the group that a clause opens. -/
def Clause.groupName? : Clause → Option String
  | .scope .whole _ _ => none
  | .scope _ name _ => some name
  | _ => none

/-- The names of the groups that clauses open. -/
def groupNames (cs : List Clause) : List String :=
  cs.filterMap Clause.groupName?

/-- A policy under way: its own scope, the groups that are finished and the one that lines go to.
Without such a group they go to the policy itself. -/
structure Outline where
  whole : Scope := {}
  closed : List Group := []
  current : Option Group := none

namespace Outline

def groups (o : Outline) : List Group :=
  o.closed ++ o.current.toList

def edit (o : Outline) (change : Scope → Scope) : Outline :=
  match o.current with
  | none => { o with whole := change o.whole }
  | some g => { o with current := some { g with toScope := change g.toScope } }

def add (owner : String) (o : Outline) : Clause → Outline
  | .rule r => o.edit fun s => { s with rules := s.rules ++ [r] }
  | .property key value => o.edit fun s => { s with properties := s.properties.insert key value }
  | .scope .whole _ properties =>
    ⟨{ o.whole with properties := o.whole.properties.union properties }, o.groups, none⟩
  | .scope kind name properties => ⟨o.whole, o.groups, some { owner, name, kind, properties }⟩
  | .stray => o

def policy (name : String) (o : Outline) : Policy :=
  { o.whole with name, groups := o.groups }

end Outline

/-- The policy of the given name that clauses declare. -/
def meaning (name : String) (cs : List Clause) : Policy :=
  (cs.foldl (Outline.add name) {}).policy name

end ChatWarden.Policy
