/-!
# Tables of code points

A property of characters is kept as a list of ranges in ascending order. The look-up stops at the
first range that ends at or after the code point, so a low code point never walks the whole table.
-/

namespace ChatWarden.Text

/-- The code points from `first` to `last`, both included. -/
structure CodeRange where
  first : Nat
  last : Nat

namespace CodeRange

/-- Whether a table of ascending ranges holds the code point. -/
def covers : List CodeRange → Nat → Bool
  | [], _ => false
  | r :: rs, n => if n ≤ r.last then decide (r.first ≤ n) else covers rs n

end CodeRange

end ChatWarden.Text
