/-!
# Comparison without regard to ASCII case

Only the letters `A` to `Z` are folded; every other character stands for itself.
-/

namespace ChatWarden.Text

/-- The text with `A` to `Z` in lower case. -/
def foldAscii (text : String) : List Char :=
  text.toList.map Char.toLower

/-- Whether two texts differ in ASCII case at most. -/
def sameIgnoringCase (a b : String) : Bool :=
  foldAscii a == foldAscii b

theorem sameIgnoringCase_iff {a b : String} :
    sameIgnoringCase a b = true ↔ foldAscii a = foldAscii b := by
  simp [sameIgnoringCase]

@[simp] theorem sameIgnoringCase_self (a : String) : sameIgnoringCase a a = true := by
  simp [sameIgnoringCase]

end ChatWarden.Text
