import ChatWarden.Json
import ChatWarden.Text.Blank

/-!
# What a command has to say

A command answers with a text, an error, a table or nothing. In a table every column is as wide as
its widest cell, and two spaces stand between columns. `render?` is the text of an answer whatever
the widths are. Formatting has a limit for them: beyond it the text is never finished, which is what
`format?` says.
-/

namespace ChatWarden

inductive Output where
  | info (text : String)
  | error (text : String)
  | table (headers : List String) (rows : List (List String))
  | none
deriving DecidableEq

namespace Output

namespace Table

/-- The widths of columns once a row of cells has to fit as well. -/
def widen : List Nat → List String → List Nat
  | widths, [] => widths
  | [], cell :: cells => cell.length :: widen [] cells
  | w :: widths, cell :: cells => max w cell.length :: widen widths cells

/-- The widths of the columns of a table. -/
def widths (headers : List String) (rows : List (List String)) : List Nat :=
  rows.foldl widen (widen [] headers)

/-- A cell filled up with spaces. -/
def pad (width : Nat) (cell : String) : String :=
  cell.pushn ' ' (width - cell.length)

/-- A line of cells without the blanks at its end. -/
def line (widths : List Nat) (cells : List String) : String :=
  Text.trimEnd ("  ".intercalate (List.zipWith pad widths cells))

/-- The dashes under the headers. -/
def rule (widths : List Nat) : String :=
  "  ".intercalate (widths.map ("".pushn '-' ·))

def render (headers : List String) (rows : List (List String)) : String :=
  let ws := widths headers rows
  "\n".intercalate (line ws headers :: rule ws :: rows.map (line ws))

/-- The widest column that formatting can fill up. -/
def widthLimit : Nat := 65535

/-- A cell as formatting fills it up; nothing where the column is too wide for that, however long
the cell. -/
def pad? (width : Nat) (cell : String) : Option String :=
  if width ≤ widthLimit then some (pad width cell) else Option.none

def line? (widths : List Nat) (cells : List String) : Option String := do
  let padded ← (widths.zip cells).mapM fun (width, cell) => pad? width cell
  return Text.trimEnd ("  ".intercalate padded)

/-- The table as it is formatted; nothing where a cell of some line cannot be filled up. -/
def format? (headers : List String) (rows : List (List String)) : Option String := do
  let ws := widths headers rows
  let top ← line? ws headers
  let body ← rows.mapM (line? ws)
  return "\n".intercalate (top :: rule ws :: body)

end Table

/-- The text of a reply; nothing where nothing is said. -/
def render? : Output → Option String
  | .info text => some text
  | .error text => some ("Error: " ++ text)
  | .table headers rows => some (Table.render headers rows)
  | .none => Option.none

/-- The text of a reply as it is formatted; `none` on the outside where formatting breaks off. -/
def format? : Output → Option (Option String)
  | .table headers rows => (Table.format? headers rows).map some
  | said => some said.render?

def toJson : Output → Json
  | .info text => .object [("type", .string "info"), ("text", .string text)]
  | .error text => .object [("type", .string "error"), ("text", .string text)]
  | .table headers rows =>
    .object [
      ("type", .string "table"),
      ("headers", .array (headers.map .string)),
      ("rows", .array (rows.map fun row => .array (row.map .string)))]
  | .none => .object [("type", .string "none")]

end Output

end ChatWarden
