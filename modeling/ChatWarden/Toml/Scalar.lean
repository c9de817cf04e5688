import ChatWarden.Toml.Moment
import ChatWarden.Toml.Number

/-!
# Values without parts

A word that is neither true nor false is a date or a time if it begins like one, else a number.
-/

namespace ChatWarden.Toml

def scalar? (cs : List Char) : Option (Item × List Char) :=
  match (afterWord? "true" cs), (afterWord? "false" cs), moment? cs with
  | some rest, _, _ => some (.flag true, rest)
  | _, some rest, _ => some (.flag false, rest)
  | _, _, some rest => some (.moment, rest)
  | _, _, none => number? cs

end ChatWarden.Toml
