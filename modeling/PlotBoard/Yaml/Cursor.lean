namespace PlotBoard.Yaml

/-!
# Cursors

Where a reader of a settings text stands: the characters that are left, and the
line, the column and the offset of the first of them. Lines are counted from
one, columns in characters and offsets in bytes of UTF-8 from zero.
-/

/-- What is left of a text, and where its first character stands. -/
structure Cursor where
  rest : List Char
  line : Nat
  column : Nat
  offset : Nat

/-- A line break is a line feed, a carriage return or one of the three Unicode line ends. -/
def isBreak (character : Char) : Bool :=
  character = '\n' || character = '\r'
    || character.toNat = 0x85 || character.toNat = 0x2028 || character.toNat = 0x2029

/-- A space or a tab. -/
def isSpace (character : Char) : Bool :=
  character = ' ' || character = '\t'

/-- A character of the name of an anchor or of a handle. -/
def isNameCharacter (character : Char) : Bool :=
  character.isAlphanum || character = '_' || character = '-'

/-- The text ends here, or a space or a line break follows. -/
def endsWord : List Char → Bool
  | [] => true
  | character :: _ => isSpace character || isBreak character

/-- A carriage return and a line feed together are one line break. -/
def joinBreaks : List Char → List Char
  | '\r' :: '\n' :: rest => '\n' :: joinBreaks rest
  | character :: rest => character :: joinBreaks rest
  | [] => []

/-- What follows the spaces and the comment at the end of a line, if nothing else ends it. -/
def lineEnd? (characters : List Char) : Option (List Char) :=
  let unspaced := characters.dropWhile isSpace
  let rest :=
    if unspaced.head? = some '#' then
      unspaced.dropWhile fun character => !isBreak character
    else
      unspaced
  if rest.head?.all isBreak then some rest else none

/-- Three equal characters and the end of a word mark the start or the end of a document. -/
def isDocumentMark (mark : Char) : List Char → Bool
  | first :: second :: third :: rest =>
      first = mark && second = mark && third = mark && endsWord rest
  | _ => false

/--
A character that may stand in a settings text. White space apart, control
characters may not, nor may the last two code points of the first plane.
-/
def isReadable (character : Char) : Bool :=
  let code := character.toNat
  code = 0x09 || code = 0x0A || code = 0x0D || code = 0x85
    || (0x20 ≤ code && code ≤ 0x7E)
    || (0xA0 ≤ code && code ≤ 0xFFFD)
    || 0x10000 ≤ code

/-- A document marker stands at the start of a line. -/
def Cursor.atDocumentMark (cursor : Cursor) : Bool :=
  cursor.column = 0 && (isDocumentMark '-' cursor.rest || isDocumentMark '.' cursor.rest)

/-- The cursor after one character. -/
def Cursor.next (cursor : Cursor) : Cursor :=
  match cursor.rest with
  | [] => cursor
  | character :: rest =>
      if isBreak character then
        { rest := rest
          line := cursor.line + 1
          column := 0
          offset := cursor.offset + character.utf8Size }
      else
        { cursor with
          rest := rest
          column := cursor.column + 1
          offset := cursor.offset + character.utf8Size }

/-- The cursor after some characters. -/
def Cursor.skip (cursor : Cursor) : Nat → Cursor
  | 0 => cursor
  | count + 1 => cursor.next.skip count

/-- The cursor at the last ones of its characters. -/
def Cursor.skipTo (cursor : Cursor) (rest : List Char) : Cursor :=
  cursor.skip (cursor.rest.length - rest.length)

end PlotBoard.Yaml
