import ChatWarden.Toml.Quoted
import ChatWarden.Toml.Scalar

/-!
# Reading TOML

A document is read line by line: a header begins a table, any other line adds a value to the
current one.
-/

namespace ChatWarden.Toml

/-- How deep values can be nested, and how many parts a key can have. -/
def depthLimit : Nat := 80

/-- Turns a failure without reason into the one for invalid text. -/
def orInvalid {α : Type} : Option α → Except Error α
  | some a => .ok a
  | none => .error .invalid

def isBareKeyChar (c : Char) : Bool :=
  c.isAlphanum || c == '_' || c == '-'

def keyPart (cs : List Char) : Except Error (String × List Char) :=
  match cs with
  | '"' :: _ => orInvalid (shortString? cs)
  | '\'' :: _ => orInvalid (shortString? cs)
  | _ =>
    let name := cs.takeWhile isBareKeyChar
    if name.isEmpty then .error .invalid
    else .ok (String.ofList name, cs.drop name.length)

/-- The parts of a key, with spaces around the dots between them. -/
def keyParts : Nat → List Char → Except Error (List String × List Char)
  | 0, _ => .error .tooDeep
  | fuel + 1, cs => do
    let (part, cs) ← keyPart (skipSpace cs)
    match skipSpace cs with
    | '.' :: rest =>
      let (parts, cs) ← keyParts fuel rest
      return (part :: parts, cs)
    | rest => return ([part], rest)

/-- A key: the path to its table and the last part. -/
def key (cs : List Char) : Except Error ((List String × String) × List Char) := do
  let (parts, cs) ← keyParts (depthLimit - 1) cs
  return ((parts.dropLast, parts.getLast?.getD ""), cs)

/-- The text after a comment that may stand at the front. -/
def skipComment (cs : List Char) : List Char :=
  match cs with
  | '#' :: rest => rest.dropWhile isPlain
  | cs => cs

/-- The text after the end of a line, before which a comment may stand. -/
def endLine (cs : List Char) : Except Error (List Char) :=
  match skipComment (skipSpace cs) with
  | [] => .ok []
  | cs => orInvalid (lineBreak? cs)

/-- Passes spaces, comments and line breaks. -/
def skipLines : Nat → List Char → Except Error (List Char)
  | 0, _ => .error .tooDeep
  | fuel + 1, cs =>
    match skipSpace cs with
    | '#' :: rest =>
      match rest.dropWhile isPlain with
      | [] => .ok []
      | cs => (orInvalid (lineBreak? cs)).bind (skipLines fuel)
    | cs =>
      match lineBreak? cs with
      | some rest => skipLines fuel rest
      | none => .ok cs

def openBrace : Char := '\x7b'

def closeBrace : Char := '\x7d'

mutual

/-- A value, inside which values may be nested so deep. -/
def value (fuel depth : Nat) (cs : List Char) : Except Error (Item × List Char) :=
  match fuel with
  | 0 => .error .tooDeep
  | fuel + 1 =>
    match cs with
    | [] => .error .invalid
    | c :: rest =>
      if c = '"' ∨ c = '\'' then
        (orInvalid (string? cs)).map fun (s, cs) => (.string s, cs)
      else if c = '[' then
        match depth with
        | 0 => .error .tooDeep
        | depth + 1 => (arrayItems fuel depth rest).map fun (items, cs) => (.array items, cs)
      else if c = openBrace then
        match depth with
        | 0 => .error .tooDeep
        | depth + 1 =>
          match skipSpace rest with
          | [] => .error .invalid
          | d :: cs =>
            if d = closeBrace then .ok (.inlineTable [], cs)
            else
              (members fuel depth {} rest).map fun (t, cs) => (.inlineTable t.items, cs)
      else orInvalid (scalar? cs)

/-- The rest of an array, after its bracket or a comma. -/
def arrayItems (fuel depth : Nat) (cs : List Char) : Except Error (List Item × List Char) :=
  match fuel with
  | 0 => .error .tooDeep
  | fuel + 1 => do
    match ← skipLines fuel cs with
    | ']' :: rest => return ([], rest)
    | cs =>
      let (item, cs) ← value fuel depth cs
      match ← skipLines fuel cs with
      | ']' :: rest => return ([item], rest)
      | ',' :: rest =>
        let (items, cs) ← arrayItems fuel depth rest
        return (item :: items, cs)
      | _ => .error .invalid

/-- The rest of a table written as a value, after its brace or a comma. -/
def members (fuel depth : Nat) (t : Table) (cs : List Char) : Except Error (Table × List Char) :=
  match fuel with
  | 0 => .error .tooDeep
  | fuel + 1 => do
    let ((path, last), cs) ← key cs
    match cs with
    | '=' :: rest =>
      let (item, cs) ← value fuel depth (skipSpace rest)
      let t ← t.addValue path last item
      match skipSpace cs with
      | [] => .error .invalid
      | d :: rest =>
        if d = closeBrace then return (t, rest)
        else if d = ',' then members fuel depth t rest
        else .error .invalid
    | _ => .error .invalid

end

/-- Adds the value of a line. The bound is on the length of the text. -/
def keyValue (d : Draft) (bound : Nat) (cs : List Char) : Except Error (Draft × List Char) := do
  let ((path, last), cs) ← key cs
  match cs with
  | '=' :: rest =>
    let (item, cs) ← value (2 * bound + 4) (depthLimit - 1) (skipSpace rest)
    let cs ← endLine cs
    let current ← d.current.addValue path last item
    return ({ d with current }, cs)
  | _ => .error .invalid

def header (d : Draft) (cs : List Char) : Except Error (Draft × List Char) :=
  match cs with
  | '[' :: '[' :: rest => do
    let ((path, last), cs) ← key rest
    match cs with
    | ']' :: ']' :: rest =>
      let cs ← endLine rest
      return (← d.openElement path last, cs)
    | _ => .error .invalid
  | _ => do
    let ((path, last), cs) ← key (cs.drop 1)
    match cs with
    | ']' :: rest =>
      let cs ← endLine rest
      return (← d.openTable path last, cs)
    | _ => .error .invalid

/-- Reads lines up to the end of the text. Every line takes at least one character, so the length of
the text bounds the number of lines. -/
def readLines (d : Draft) : Nat → List Char → Except Error Draft
  | 0, _ => .error .invalid
  | fuel + 1, cs =>
    match skipSpace cs with
    | [] => .ok d
    | c :: rest =>
      if c = '[' then do
        let (d, cs) ← header d (c :: rest)
        readLines d fuel cs
      else if c = '#' ∨ c = '\n' ∨ c = '\r' then do
        let cs ← endLine (c :: rest)
        readLines d fuel cs
      else do
        let (d, cs) ← keyValue d (fuel + 1) (c :: rest)
        readLines d fuel cs

/-- The table that a document describes. A byte order mark at the front is passed over. -/
def parse (source : String) : Except Error Table := do
  let cs :=
    match source.toList with
    | '\ufeff' :: rest => rest
    | cs => cs
  let d ← readLines {} (cs.length + 1) cs
  d.close

end ChatWarden.Toml
