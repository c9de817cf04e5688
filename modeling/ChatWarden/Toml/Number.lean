import ChatWarden.Toml.Basic
import ChatWarden.Toml.Reader

/-!
# Numbers in TOML

Of a number that is not whole only the form matters, and that a float can hold it.
-/

namespace ChatWarden.Toml

/-- A run of digits, in which single underscores may stand between digits. -/
def digitRun? (isMember : Char → Bool) : List Char → Option (List Char × List Char)
  | [] => none
  | c :: cs =>
    if isMember c then
      match cs with
      | [] => some ([c], [])
      | '_' :: rest => (digitRun? isMember rest).map fun (ds, rest) => (c :: ds, rest)
      | d :: rest =>
        if isMember d then
          (digitRun? isMember (d :: rest)).map fun (ds, rest) => (c :: ds, rest)
        else some ([c], d :: rest)
    else none

def digitsValue (base : Nat) (ds : List Char) : Nat :=
  ds.foldl (fun n d => base * n + (hexValue? d).getD 0) 0

def int64Item? (n : Int) : Option Item :=
  if Int64.minValue.toInt ≤ n ∧ n ≤ Int64.maxValue.toInt then some (.int (Int64.ofInt n)) else none

/-- A whole number in another base than ten. -/
def basedInt? (base : Nat) (isMember : Char → Bool) (cs : List Char) : Option (Item × List Char) :=
  (digitRun? isMember cs).bind fun (ds, rest) =>
    (int64Item? (digitsValue base ds)).map fun item => (item, rest)

/-- Whether a sign stands at the front, and the text after it. -/
def takeSign : List Char → Bool × List Char
  | '+' :: rest => (false, rest)
  | '-' :: rest => (true, rest)
  | cs => (false, cs)

/-- The digits before the point. A zero stands alone. -/
def wholeDigits? : Reader (List Char)
  | '0' :: rest => some (['0'], rest)
  | cs => digitRun? Char.isDigit cs

def fraction? : Reader (List Char)
  | '.' :: rest => digitRun? Char.isDigit rest
  | cs => some ([], cs)

def exponent? : Reader Int
  | [] => some (0, [])
  | c :: cs =>
    if c = 'e' ∨ c = 'E' then
      let (isNegative, cs) := takeSign cs
      (digitRun? Char.isDigit cs).map fun (ds, rest) =>
        let n := digitsValue 10 ds
        (if isNegative then -(n : Int) else n, rest)
    else some (0, c :: cs)

/-- Whether a decimal number rounds to a finite binary number of double width. -/
def isFinite (digits : List Char) (exponent : Int) : Bool :=
  let digits := digits.dropWhile (· == '0')
  let size := (digits.length : Int) + exponent
  if digits.isEmpty || size ≤ 300 then true
  else if 320 ≤ size then false
  else
    let mantissa := digitsValue 10 digits
    let limit := Nat.pow 2 1024 - Nat.pow 2 970
    if 0 ≤ exponent then mantissa * Nat.pow 10 exponent.toNat < limit
    else mantissa < limit * Nat.pow 10 (-exponent).toNat

/-- A decimal number, whole or not. A positive one must not be too large for a float. -/
def decimal? (cs : List Char) : Option (Item × List Char) := do
  let (isNegative, cs) := takeSign cs
  let (whole, cs) ← wholeDigits? cs
  match cs with
  | c :: _ =>
    if c = '.' ∨ c = 'e' ∨ c = 'E' then
      let (fraction, cs) ← fraction? cs
      let (exponent, cs) ← exponent? cs
      if isNegative || isFinite (whole ++ fraction) (exponent - fraction.length) then
        return (.float, cs)
      else none
    else
      let n := digitsValue 10 whole
      return (← int64Item? (if isNegative then -(n : Int) else n), cs)
  | [] =>
    let n := digitsValue 10 whole
    return (← int64Item? (if isNegative then -(n : Int) else n), cs)

/-- A number, or one of the words for infinity and for no number. -/
def number? (cs : List Char) : Option (Item × List Char) :=
  match cs with
  | '0' :: 'x' :: rest => basedInt? 16 (fun c => (hexValue? c).isSome) rest
  | '0' :: 'o' :: rest => basedInt? 8 (fun c => '0' ≤ c && c ≤ '7') rest
  | '0' :: 'b' :: rest => basedInt? 2 (fun c => c == '0' || c == '1') rest
  | cs =>
    let unsigned := (takeSign cs).2
    match (afterWord? "inf" unsigned).orElse fun _ => afterWord? "nan" unsigned with
    | some rest => some (.float, rest)
    | none => decimal? cs

end ChatWarden.Toml
