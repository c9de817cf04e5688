import ChatWarden.Toml.Reader

/-!
# Strings in TOML

A string stands in double quotes, with escapes, or in single ones, without. Three quotes of a kind
let it go over several lines.
-/

namespace ChatWarden.Toml

/-- The character whose number stands in so many hexadecimal digits. -/
def numbered? (count : Nat) (cs : List Char) : Option (Char × List Char) := do
  let digits ← (cs.take count).mapM hexValue?
  if digits.length = count then
    let n := digits.foldl (fun n d => 16 * n + d) 0
    if n.isValidChar then some (Char.ofNat n, cs.drop count) else none
  else none

/-- The character that an escape stands for, after the backslash. -/
def escaped? : Reader Char
  | 'b' :: rest => some ('\x08', rest)
  | 't' :: rest => some ('\t', rest)
  | 'n' :: rest => some ('\n', rest)
  | 'f' :: rest => some ('\x0c', rest)
  | 'r' :: rest => some ('\r', rest)
  | '"' :: rest => some ('"', rest)
  | '\\' :: rest => some ('\\', rest)
  | 'u' :: rest => numbered? 4 rest
  | 'U' :: rest => numbered? 8 rest
  | _ => none

/-- The rest of a string on one line in double quotes. -/
def basicFrom (soFar : List Char) : Nat → Reader String
  | 0, _ => none
  | _ + 1, [] => none
  | fuel + 1, c :: cs =>
    if c = '"' then some (String.ofList soFar.reverse, cs)
    else if c = '\\' then do
      let (c, cs) ← escaped? cs
      basicFrom (c :: soFar) fuel cs
    else if isPlain c then basicFrom (c :: soFar) fuel cs
    else none

/-- The rest of a string on one line in single quotes, which knows no escapes. -/
def literalFrom (cs : List Char) : Option (String × List Char) :=
  let content := cs.takeWhile fun c => c != '\'' && isPlain c
  match cs.drop content.length with
  | '\'' :: rest => some (String.ofList content, rest)
  | _ => none

/-- The quotes that end a string on several lines, or belong to it. Up to two stand directly before
the three that end it. -/
def closingQuotes (quote : Char) (cs : List Char) : Option (Nat × List Char) :=
  let count := (cs.takeWhile (· == quote)).length
  if 3 ≤ count then
    let inside := min (count - 3) 2
    some (inside, cs.drop (inside + 3))
  else none

/-- The rest of a string on several lines. With `escapes` a backslash escapes, and one at the end of
a line leaves out the blanks and line breaks that follow; `skipping` says that this is under way. -/
def multilineFrom (quote : Char) (escapes skipping : Bool) (soFar : List Char) :
    Nat → Reader String
  | 0, _ => none
  | _ + 1, [] => none
  | fuel + 1, c :: cs =>
    match closingQuotes quote (c :: cs) with
    | some (inside, rest) =>
      some (String.ofList (List.replicate inside quote ++ soFar).reverse, rest)
    | none =>
      match lineBreak? (c :: cs) with
      | some rest =>
        multilineFrom quote escapes skipping (if skipping then soFar else '\n' :: soFar) fuel rest
      | none =>
        if skipping && isSpace c then multilineFrom quote escapes true soFar fuel cs
        else if escapes && c == '\\' then
          if (lineBreak? (skipSpace cs)).isSome then
            multilineFrom quote escapes true soFar fuel (skipSpace cs)
          else do
            let (c, cs) ← escaped? cs
            multilineFrom quote escapes false (c :: soFar) fuel cs
        else if isPlain c then multilineFrom quote escapes false (c :: soFar) fuel cs
        else none

/-- A line break right after the opening quotes does not belong to the string. -/
def multiline (quote : Char) (escapes : Bool) (cs : List Char) : Option (String × List Char) :=
  let cs := (lineBreak? cs).getD cs
  multilineFrom quote escapes false [] (cs.length + 1) cs

/-- A string of one of the two kinds on one line. -/
def shortString? : Reader String
  | '"' :: cs => basicFrom [] (cs.length + 1) cs
  | '\'' :: cs => literalFrom cs
  | _ => none

def string? : Reader String
  | '"' :: '"' :: '"' :: cs => multiline '"' true cs
  | '\'' :: '\'' :: '\'' :: cs => multiline '\'' false cs
  | cs => shortString? cs

end ChatWarden.Toml
