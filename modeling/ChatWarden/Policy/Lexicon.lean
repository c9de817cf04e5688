import ChatWarden.Lexer
import ChatWarden.Text.WordChar

/-!
# The words of a policy document

Keywords and numbers are recognised only where the word ends: `method` in `methods` and the digits
of `12ab` are plain text.
-/

namespace ChatWarden.Policy

/-- What a token of a document can be. -/
inductive TokenKind where
  /-- One of `method`, `group` and `class`. -/
  | scopeWord
  /-- One of `whitelist` and `blacklist`. -/
  | ruleWord
  /-- One of `guild`, `channel`, `user` and `role`. -/
  | targetWord
  /-- An angle bracket, opening or closing. -/
  | bracket
  /-- The equals sign of a property. -/
  | operator
  | colon
  | number
  | text
deriving DecidableEq, Repr

namespace TokenKind

/-- Whether a token can serve as a name, a key or a value. -/
def isWord : TokenKind → Bool
  | .bracket | .operator | .colon => false
  | _ => true

end TokenKind

/-- A token of a policy document. -/
abbrev PolicyToken := Token TokenKind

namespace Lexicon

/-- The characters that always stand alone. -/
def isDelimiter (c : Char) : Bool :=
  c == '<' || c == '>' || c == '=' || c == ':'

/-- The length of the first of the words that stands at the front of a text and ends there. -/
def keyword? (words : List String) (text : List Char) : Option Nat :=
  words.findSome? fun w =>
    if w.toList.isPrefixOf text ∧ Text.atWordEnd (text.drop w.length) then some w.length else none

/-- One character of a class. -/
def single? (isMember : Char → Bool) : List Char → Option Nat
  | [] => none
  | c :: _ => if isMember c then some 1 else none

/-- A run of characters of a class, as long as possible. -/
def run? (isMember : Char → Bool) (text : List Char) : Option Nat :=
  match (text.takeWhile isMember).length with
  | 0 => none
  | n + 1 => some (n + 1)

/-- A run of ASCII digits with the end of a word after it. A shorter run would end before a digit,
which continues the word. -/
def number? (text : List Char) : Option Nat :=
  (run? Char.isDigit text).bind fun n => if Text.atWordEnd (text.drop n) then some n else none

/-- A run of anything but blanks and delimiters. -/
def text? : List Char → Option Nat :=
  run? fun c => !Text.isBlank c && !isDelimiter c

end Lexicon

/-- The lexer of policy documents. -/
def lexer : Lexer TokenKind where
  rules := [
    ⟨.scopeWord, Lexicon.keyword? ["method", "group", "class"]⟩,
    ⟨.ruleWord, Lexicon.keyword? ["whitelist", "blacklist"]⟩,
    ⟨.targetWord, Lexicon.keyword? ["channel", "user", "guild", "role"]⟩,
    ⟨.bracket, Lexicon.single? fun c => c == '<' || c == '>'⟩,
    ⟨.operator, Lexicon.single? (· == '=')⟩,
    ⟨.colon, Lexicon.single? (· == ':')⟩,
    ⟨.number, Lexicon.number?⟩,
    ⟨.text, Lexicon.text?⟩]
  fallback := .text

end ChatWarden.Policy
