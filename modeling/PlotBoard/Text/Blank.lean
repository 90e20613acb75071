namespace PlotBoard.Text

/-!
# Blank characters and trimming

A character is blank when it has the Unicode property `White_Space`. Trimming
removes the blank characters at both ends of a text and keeps the rest.
-/

/-- The ranges of code points, both ends included, with the property `White_Space`. -/
def blankRanges : List (Nat × Nat) :=
  [(0x09, 0x0D), (0x20, 0x20), (0x85, 0x85), (0xA0, 0xA0), (0x1680, 0x1680),
    (0x2000, 0x200A), (0x2028, 0x2029), (0x202F, 0x202F), (0x205F, 0x205F),
    (0x3000, 0x3000)]

/-- A character of one of the blank ranges. -/
def isBlank (character : Char) : Bool :=
  blankRanges.any fun range =>
    range.1 ≤ character.toNat && character.toNat ≤ range.2

/-- The characters from the first one that is not blank. -/
def trimStart (characters : List Char) : List Char :=
  characters.dropWhile isBlank

/-- The characters up to the last one that is not blank. -/
def trimEnd (characters : List Char) : List Char :=
  (trimStart characters.reverse).reverse

/-- The characters without the blank ones at both ends. -/
def trim (characters : List Char) : List Char :=
  trimEnd (trimStart characters)

/-- A text without the blank characters at both ends. -/
def trimmed (text : String) : String :=
  String.ofList (trim text.toList)

@[simp] theorem trim_nil : trim [] = [] :=
  rfl

@[simp] theorem toList_trimmed (text : String) :
    (trimmed text).toList = trim text.toList := by
  simp [trimmed]

end PlotBoard.Text
