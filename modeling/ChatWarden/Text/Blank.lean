import ChatWarden.Text.CodeRange

/-!
# Blank characters

`isBlank` is the Unicode property `White_Space`. It separates the words of a text, and `trim`
removes it from both ends. The zero-width space and the byte order mark are not blank.
-/

namespace ChatWarden.Text

/-- The code points with the property `White_Space`. -/
def blankRanges : List CodeRange := [
  ⟨0x9, 0xd⟩, ⟨0x20, 0x20⟩, ⟨0x85, 0x85⟩, ⟨0xa0, 0xa0⟩, ⟨0x1680, 0x1680⟩, ⟨0x2000, 0x200a⟩,
  ⟨0x2028, 0x2029⟩, ⟨0x202f, 0x202f⟩, ⟨0x205f, 0x205f⟩, ⟨0x3000, 0x3000⟩]

/-- Unicode white space. -/
def isBlank (c : Char) : Bool :=
  CodeRange.covers blankRanges c.toNat

/-- Removes blanks from the front. -/
def trimLeft (cs : List Char) : List Char :=
  cs.dropWhile isBlank

/-- Removes blanks from the end. -/
def trimRight (cs : List Char) : List Char :=
  (cs.reverse.dropWhile isBlank).reverse

/-- Removes blanks from both ends. -/
def trim (cs : List Char) : List Char :=
  trimRight (trimLeft cs)

def trimEnd (text : String) : String :=
  String.ofList (trimRight text.toList)

def allBlank (cs : List Char) : Bool :=
  cs.all isBlank

end ChatWarden.Text
