import ChatWarden.Toml.Reader

/-!
# Dates and times in TOML

Nothing needs the value of a date or a time. Its readers only say where it ends, and that there is
such a day and hour.
-/

namespace ChatWarden.Toml

def fixedDigits? (count : Nat) (cs : List Char) : Option (Nat × List Char) :=
  let digits := cs.take count
  if digits.length = count ∧ digits.all Char.isDigit = true then
    some (digits.foldl (fun n d => 10 * n + (d.toNat - '0'.toNat)) 0, cs.drop count)
  else none

/-- A number of so many digits between bounds. -/
def boundedDigits? (count low high : Nat) (cs : List Char) : Option (Nat × List Char) :=
  (fixedDigits? count cs).bind fun (n, rest) =>
    if low ≤ n ∧ n ≤ high then some (n, rest) else none

/-- The text after a given character. -/
def after? (c : Char) : List Char → Option (List Char)
  | [] => none
  | d :: rest => if d = c then some rest else none

def isLeapYear (year : Nat) : Bool :=
  year % 4 == 0 && (year % 100 != 0 || year % 400 == 0)

def daysInMonth (year month : Nat) : Nat :=
  if month = 2 then (if isLeapYear year then 29 else 28)
  else if month = 4 ∨ month = 6 ∨ month = 9 ∨ month = 11 then 30
  else 31

def date? (cs : List Char) : Option (List Char) := do
  let (year, cs) ← fixedDigits? 4 cs
  let (month, cs) ← boundedDigits? 2 1 12 (← after? '-' cs)
  let (_, cs) ← boundedDigits? 2 1 (daysInMonth year month) (← after? '-' cs)
  return cs

/-- The text after a time of day with seconds and maybe a fraction of them. -/
def time? (cs : List Char) : Option (List Char) := do
  let (_, cs) ← boundedDigits? 2 0 23 cs
  let (_, cs) ← boundedDigits? 2 0 59 (← after? ':' cs)
  let (_, cs) ← boundedDigits? 2 0 60 (← after? ':' cs)
  match cs with
  | '.' :: rest =>
    if (rest.takeWhile Char.isDigit).isEmpty then return cs
    else return rest.dropWhile Char.isDigit
  | _ => return cs

/-- The text after the distance from universal time, where there is one. -/
def offset? (cs : List Char) : Option (List Char) :=
  match cs with
  | 'Z' :: rest => some rest
  | 'z' :: rest => some rest
  | c :: rest =>
    if c = '+' ∨ c = '-' then do
      let (_, rest) ← boundedDigits? 2 0 23 rest
      let (_, rest) ← boundedDigits? 2 0 59 (← after? ':' rest)
      return rest
    else some cs
  | [] => some cs

/-- The text after a date, a time or both. -/
def moment? (cs : List Char) : Option (List Char) :=
  match date? cs with
  | none => time? cs
  | some rest =>
    match rest with
    | c :: later =>
      if c = 'T' ∨ c = 't' ∨ c = ' ' then
        match time? later with
        | none => some rest
        | some rest => offset? rest
      else some rest
    | [] => some rest

end ChatWarden.Toml
