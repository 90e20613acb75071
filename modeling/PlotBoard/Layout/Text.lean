import PlotBoard.Layout.Basic
import PlotBoard.Number.Literal
import PlotBoard.Text.Blank
import PlotBoard.Text.Pieces

namespace PlotBoard

/-!
# Layout texts

A layout is written as words and numbers between brackets, parentheses and
commas, such as `vertical[1,2m]`. Only the sequence of tokens counts. Every text
is a layout: the first token may name the orientation, each other token is a row.
`Layout.text` writes the form that `Layout.parse` reads back unchanged.
-/

/-- The orientation that a token names, in letters of either case. -/
def Orientation.ofToken? (token : List Char) : Option Orientation :=
  let word := String.ofList (token.map Char.toLower)
  if word = "none" then
    some .unstated
  else if word = "vertical" then
    some .vertical
  else if word = "horizontal" then
    some .horizontal
  else
    none

/-- The word written for an orientation. -/
def Orientation.word : Orientation → String
  | .unstated => ""
  | .vertical => "vertical"
  | .horizontal => "horizontal"

namespace MarginMode

/-- The letter written for a mode. -/
def letter : MarginMode → Char
  | .middle => 'm'
  | .top => 't'
  | .bottom => 'b'
  | .left => 'l'
  | .right => 'r'

/-- The mode that a small letter stands for. -/
def ofLetter? : Char → Option MarginMode
  | 'm' => some .middle
  | 't' => some .top
  | 'b' => some .bottom
  | 'l' => some .left
  | 'r' => some .right
  | _ => none

/-- The mode that a whole suffix stands for: a single letter of either case. -/
def ofSuffix? : List Char → Option MarginMode
  | [letter] => ofLetter? letter.toLower
  | _ => none

@[simp] theorem ofSuffix?_letter (mode : MarginMode) :
    ofSuffix? [mode.letter] = some mode := by
  cases mode <;> rfl

end MarginMode

namespace Row

/-- The number of columns that digits stand for; no digits and numbers beyond 64 bits are zero. -/
def columnsOfDigits (digits : List Char) : UInt64 :=
  ((Literal.digits? digits).bind Literal.word?).getD 0

/-- Leading digits are the columns; the whole rest is the mode, or none. -/
def ofToken (token : List Char) : Row where
  columns := columnsOfDigits (token.takeWhile Char.isDigit)
  mode := MarginMode.ofSuffix? (token.dropWhile Char.isDigit)

/-- A row from a text with blanks around it. -/
def parse (text : String) : Row :=
  ofToken (Text.trim text.toList)

/-- The columns in digits, then the letter of the mode. -/
def characters (row : Row) : List Char :=
  Nat.toDigits 10 row.columns.toNat ++ row.mode.toList.map MarginMode.letter

end Row

namespace Layout

/-- The characters that only separate tokens. -/
def isSeparator (character : Char) : Bool :=
  character ∈ ['[', ']', '(', ')', ',']

/-- The trimmed pieces between separators that are not empty. -/
def tokens (characters : List Char) : List (List Char) :=
  ((Text.pieces isSeparator characters).map Text.trim).filter (· ≠ [])

/-- The first token may name the orientation; every other token is a row. -/
def ofTokens : List (List Char) → Layout
  | [] => { orientation := .unstated, rows := [] }
  | first :: rest =>
      match Orientation.ofToken? first with
      | some orientation =>
          { orientation := orientation, rows := rest.map Row.ofToken }
      | none =>
          { orientation := .unstated, rows := (first :: rest).map Row.ofToken }

/-- Every text is a layout. -/
def parse (text : String) : Layout :=
  ofTokens (tokens text.toList)

/-- The orientation and the rows, between brackets, with commas between rows. -/
def characters (layout : Layout) : List Char :=
  layout.orientation.word.toList ++ '[' ::
    ([','].intercalate (layout.rows.map Row.characters) ++ [']'])

/-- The text of a layout. -/
def text (layout : Layout) : String :=
  String.ofList layout.characters

end Layout

end PlotBoard
