/-!
# Decimal numbers in text

A number is written with ASCII digits and may carry a sign. Reading fails on an empty text, on any
other character and on a value outside the width that is asked for.
-/

namespace ChatWarden.Text

def digitValue? (c : Char) : Option Nat :=
  if c.isDigit then some (c.toNat - '0'.toNat) else none

/-- The value of a run of digits that continues the number read so far. -/
def digitsFrom? (soFar : Nat) : List Char → Option Nat
  | [] => some soFar
  | c :: cs => (digitValue? c).bind fun d => digitsFrom? (10 * soFar + d) cs

def digits? : List Char → Option Nat
  | [] => none
  | cs => digitsFrom? 0 cs

/-- The magnitude of a number that may carry a plus sign. -/
def unsigned? : List Char → Option Nat
  | '+' :: cs => digits? cs
  | cs => digits? cs

/-- The value of a number that may carry either sign. -/
def signed? : List Char → Option Int
  | '-' :: cs => (digits? cs).map fun n => -(n : Int)
  | cs => (unsigned? cs).map Int.ofNat

def uint64? (text : String) : Option UInt64 :=
  (unsigned? text.toList).bind fun n => if n < UInt64.size then some (UInt64.ofNat n) else none

def int64? (text : String) : Option Int64 :=
  (signed? text.toList).bind fun n =>
    if Int64.minValue.toInt ≤ n ∧ n ≤ Int64.maxValue.toInt then some (Int64.ofInt n) else none

end ChatWarden.Text
