import ChatWarden.Text.Lines

/-!
# Lexers from rule tables

A text is cut into lines and each line into words. Inside a word the rules are tried in order at
the current place; the first that matches at least one character makes the token. Where no rule
matches, a single character becomes a token of the fallback kind, so lexing never fails.
-/

namespace ChatWarden

/-- A piece of text with its kind and the number of its line, counted from one. -/
structure Token (κ : Type) where
  kind : κ
  text : String
  line : Nat
deriving DecidableEq, Repr

/-- A kind of token with the length of its match at the front of a text. -/
structure LexRule (κ : Type) where
  kind : κ
  matchLength? : List Char → Option Nat

structure Lexer (κ : Type) where
  rules : List (LexRule κ)
  fallback : κ

namespace LexRule

variable {κ : Type}

/-- The number of characters the rule takes beyond the first; an empty match takes none at all. -/
def beyondFirst? (r : LexRule κ) (text : List Char) : Option Nat :=
  match r.matchLength? text with
  | some (n + 1) => some n
  | _ => none

end LexRule

namespace Lexer

variable {κ : Type}

/-- The kind of the token at the front of a text and the number of its characters beyond the
first. -/
def choose (lexer : Lexer κ) (text : List Char) : κ × Nat :=
  let found := lexer.rules.findSome? fun r => (r.beyondFirst? text).map fun n => (r.kind, n)
  found.getD (lexer.fallback, 0)

/-- The tokens of a text without blanks. Each takes at least one character. -/
def lexWord (lexer : Lexer κ) (line : Nat) : List Char → List (Token κ)
  | [] => []
  | c :: cs =>
    let (kind, n) := lexer.choose (c :: cs)
    ⟨kind, String.ofList (c :: cs.take n), line⟩ :: lexWord lexer line (cs.drop n)
termination_by cs => cs.length
decreasing_by
  simp only [List.length_drop, List.length_cons]
  omega

def lexLine (lexer : Lexer κ) (line : Nat) (cs : List Char) : List (Token κ) :=
  (Text.words cs).flatMap (lexer.lexWord line)

/-- The tokens of consecutive lines, the first of which has the given number. -/
def lexLines (lexer : Lexer κ) (line : Nat) : List (List Char) → List (Token κ)
  | [] => []
  | cs :: rest => lexer.lexLine line cs ++ lexLines lexer (line + 1) rest

def lex (lexer : Lexer κ) (source : String) : List (Token κ) :=
  lexer.lexLines 1 (Text.lines source.toList)

end Lexer

end ChatWarden
