import ChatWarden.Text.Blank

/-!
# Pieces, lines and words

`pieces` cuts a text at every separator and keeps the empty pieces. Lines and words are the two
cuts that documents, scripts and messages need.
-/

namespace ChatWarden.Text

/-- Cuts at every separator; one piece more than there are separators. -/
def pieces (isSep : Char → Bool) : List Char → List (List Char)
  | [] => [[]]
  | c :: cs =>
    if isSep c then [] :: pieces isSep cs
    else
      match pieces isSep cs with
      | [] => [[c]]
      | p :: ps => (c :: p) :: ps

theorem pieces_ne_nil (isSep : Char → Bool) (cs : List Char) : pieces isSep cs ≠ [] := by
  induction cs with
  | nil => simp [pieces]
  | cons c cs ih =>
    by_cases h : isSep c
    · simp [pieces, h]
    · cases hp : pieces isSep cs <;> simp [pieces, h, hp]

/-- Only the separators are lost. -/
theorem flatten_pieces (isSep : Char → Bool) (cs : List Char) :
    (pieces isSep cs).flatten = cs.filter (fun c => !isSep c) := by
  induction cs with
  | nil => rfl
  | cons c cs ih =>
    by_cases h : isSep c
    · simp [pieces, h, ih]
    · cases hp : pieces isSep cs with
      | nil => exact absurd hp (pieces_ne_nil isSep cs)
      | cons p ps => simp [pieces, h, hp, ← ih]

/-- The maximal runs of characters that are not blank. -/
def words (cs : List Char) : List (List Char) :=
  (pieces isBlank cs).filter (fun p => !p.isEmpty)

/-- Removes one carriage return from the end. -/
def dropReturn (cs : List Char) : List Char :=
  if cs.getLast? = some '\r' then cs.dropLast else cs

/-- The lines of a text. A line ends with a line feed, or with a carriage return and a line feed;
nothing follows the last line feed unless there is text after it. -/
def lines (cs : List Char) : List (List Char) :=
  let ps := pieces (· == '\n') cs
  let ended := ps.dropLast.map dropReturn
  match ps.getLast? with
  | some (c :: rest) => ended ++ [c :: rest]
  | _ => ended

end ChatWarden.Text
