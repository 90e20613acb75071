import PlotBoard.Yaml.ScalarText

namespace PlotBoard.Yaml

/-!
# Block scalars

A scalar whose lines stand under a bar or a greater-than sign. Its indentation
is that of its first line unless a digit tells it. Behind a bar all line breaks
are kept; behind the other sign a line break between two lines that start with
text is read as a space.
-/

/-- What is left of the line breaks at the end of a block scalar: none, the first one or all. -/
inductive Chomping where
  | strip
  | clip
  | keep
  deriving DecidableEq

/-- What stands on the line of the sign: how the scalar ends and how far it is indented. -/
structure BlockHeader where
  chomping : Chomping
  indentation : Option Nat

namespace BlockHeader

/-- A sign for the end of the scalar, and what follows it. -/
def chomping? : List Char → Option Chomping × List Char
  | '+' :: rest => (some .keep, rest)
  | '-' :: rest => (some .strip, rest)
  | rest => (none, rest)

/-- A digit for the indentation, and what follows it. -/
def indentation? : List Char → Option Nat × List Char
  | digit :: rest =>
      if digit.isDigit then (some (digit.toNat - '0'.toNat), rest) else (none, digit :: rest)
  | [] => (none, [])

/-- A header, whose two parts come in any order, and what follows it. -/
def read? (characters : List Char) : Option (BlockHeader × List Char) :=
  let (first, rest) := chomping? characters
  let (indentation, rest) := indentation? rest
  let (chomping, rest) := if first.isSome then (first, rest) else chomping? rest
  if indentation = some 0 then
    none
  else
    some (⟨chomping.getD .clip, indentation⟩, rest)

end BlockHeader

/-- Empty lines: how many they are, how far the cursor went on any of them, and where they end. -/
structure EmptyLines where
  count : Nat
  width : Nat
  after : Cursor

/--
The empty lines at the cursor and the indentation of the line after them. With
an indentation only spaces to the left of it are passed over. A tab may not
stand there.
-/
def emptyLines
    (indent : Option Nat)
    (fuel : Nat)
    (count width : Nat)
    (cursor : Cursor) :
    Except Nat EmptyLines :=
  match fuel with
  | 0 => .error cursor.line
  | fuel + 1 =>
      let inIndent := indent.all fun indent => cursor.column < indent
      let widened := max width cursor.column
      match cursor.rest with
      | [] => .ok ⟨count, widened, cursor⟩
      | character :: _ =>
          if inIndent ∧ character = ' ' then
            emptyLines indent fuel count width cursor.next
          else if inIndent ∧ character = '\t' then
            .error cursor.line
          else if isBreak character then
            emptyLines indent fuel (count + 1) widened cursor.next
          else
            .ok ⟨count, widened, cursor⟩

/-- What stands before a line of a block scalar. -/
structure LineGap where
  /-- A line before it ended in a line break. -/
  endsLine : Bool
  /-- How many empty lines there are. -/
  emptyCount : Nat
  /-- The line before them starts with a space or a tab. -/
  isSpaced : Bool

namespace LineGap

/-- All line breaks of a gap. -/
def allBreaks (gap : LineGap) : List Char :=
  List.replicate (gap.endsLine.toNat + gap.emptyCount) '\n'

/-- The characters that a gap becomes before a line, which may start with a space or a tab. -/
def text (gap : LineGap) (isLiteral : Bool) (beforeSpace : Bool) : List Char :=
  if isLiteral || !gap.endsLine || gap.isSpaced || beforeSpace then
    gap.allBreaks
  else if gap.emptyCount = 0 then
    [' ']
  else
    List.replicate gap.emptyCount '\n'

/-- The characters that a gap becomes at the end of a scalar. -/
def endText (gap : LineGap) : Chomping → List Char
  | .strip => []
  | .clip => List.replicate gap.endsLine.toNat '\n'
  | .keep => gap.allBreaks

end LineGap

/-- The lines of a block scalar from a column on. -/
def blockLines
    (isLiteral : Bool)
    (chomping : Chomping)
    (indent : Nat)
    (fuel : Nat)
    (reversed : List Char)
    (gap : LineGap)
    (cursor : Cursor) :
    ScalarResult :=
  let ended : ScannedScalar :=
    { text := String.ofList (reversed.reverse ++ gap.endText chomping)
      endsInBreak := true
      after := cursor }
  match fuel with
  | 0 => .ok ended
  | fuel + 1 =>
      match cursor.rest with
      | [] => .ok ended
      | character :: _ =>
          if cursor.column ≠ indent then
            .ok ended
          else
            let line := cursor.rest.takeWhile fun character => !isBreak character
            let atEnd := cursor.skip line.length
            let before := gap.text isLiteral (isSpace character)
            (emptyLines (some indent) (atEnd.rest.length + 1) 0 0 atEnd.next).bind fun empty =>
              blockLines isLiteral chomping indent fuel (line.reverse ++ (before ++ reversed))
                { endsLine := !atEnd.rest.isEmpty
                  emptyCount := empty.count
                  isSpaced := isSpace character }
                empty.after

/--
A block scalar, from the character after its sign on. `parent` is the column of
the collection that it stands in, and the scalar is indented further than that.
-/
def blockScalar (isLiteral : Bool) (parent : Option Nat) (cursor : Cursor) : ScalarResult :=
  let header := (BlockHeader.read? cursor.rest).bind fun (header, rest) =>
    (lineEnd? rest).map fun atBreak => (header, atBreak)
  match header with
  | none => .error cursor.line
  | some (header, atBreak) =>
      let start := (cursor.skipTo atBreak).next
      let given := header.indentation.map fun indentation => parent.getD 0 + indentation
      (emptyLines given (atBreak.length + 1) 0 0 start).bind fun empty =>
        let indent := given.getD (max empty.width (parent.elim 1 (· + 1)))
        blockLines isLiteral header.chomping indent (atBreak.length + 1) []
          { endsLine := false, emptyCount := empty.count, isSpaced := false }
          empty.after

end PlotBoard.Yaml
