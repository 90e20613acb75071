import PlotBoard.Number.Literal
import PlotBoard.Yaml.Cursor

namespace PlotBoard.Yaml

/-!
# Texts of scalars

A scalar is plain or stands between single or double quotation marks, and may
run over several lines. A lone line break inside it is read as a space, and of
more line breaks in a row all but the first one are kept.
-/

/-- The white space between two words of a scalar. -/
inductive Gap where
  | none
  | spaces (reversed : List Char)
  | breaks (extra : Nat) (isFolded : Bool)

namespace Gap

/-- The gap with one more line break; spaces before it are forgotten. -/
def addBreak : Gap → Gap
  | .breaks extra isFolded => .breaks (extra + 1) isFolded
  | _ => .breaks 0 true

/-- The gap with one more space; spaces after a line break are forgotten. -/
def addSpace (character : Char) : Gap → Gap
  | .breaks extra isFolded => .breaks extra isFolded
  | .spaces reversed => .spaces (character :: reversed)
  | .none => .spaces [character]

/-- The characters that a gap becomes, last one first; a lone line break becomes a space. -/
def reversedText : Gap → List Char
  | .none => []
  | .spaces reversed => reversed
  | .breaks 0 true => [' ']
  | .breaks extra _ => List.replicate extra '\n'

/-- The gap holds a line break. -/
def hasBreak : Gap → Bool
  | .breaks _ _ => true
  | _ => false

/-- There is white space. -/
def isOpen : Gap → Bool
  | .none => false
  | _ => true

end Gap

/-- A scalar that has been read: its text, whether it ended in a line break, and what follows. -/
structure ScannedScalar where
  text : String
  endsInBreak : Bool
  after : Cursor

/-- A scalar, or the line on which it becomes unreadable. -/
abbrev ScalarResult := Except Nat ScannedScalar

/-- The scalar read so far, ended at the cursor. -/
def finishScalar (reversed : List Char) (gap : Gap) (cursor : Cursor) : ScalarResult :=
  .ok
    { text := String.ofList reversed.reverse
      endsInBreak := gap.hasBreak
      after := cursor }

/-- A character that structures a flow collection. -/
def isFlowIndicator (character : Char) : Bool :=
  character ∈ [',', '[', ']', '{', '}']

/--
A plain scalar. It ends before a colon that ends a word, before a comment,
before a document marker, in a flow collection before a structuring character,
and outside of one before a line that is indented less than `indent`.
-/
def plainScalar
    (inFlow : Bool)
    (indent : Nat)
    (fuel : Nat)
    (reversed : List Char)
    (gap : Gap)
    (cursor : Cursor) :
    ScalarResult :=
  match fuel with
  | 0 => finishScalar reversed gap cursor
  | fuel + 1 =>
      match cursor.rest with
      | [] => finishScalar reversed gap cursor
      | character :: rest =>
          if isBreak character then
            plainScalar inFlow indent fuel reversed gap.addBreak cursor.next
          else if isSpace character then
            if gap.hasBreak ∧ cursor.column < indent ∧ character = '\t' then
              .error cursor.line
            else
              plainScalar inFlow indent fuel reversed (gap.addSpace character) cursor.next
          else if gap.isOpen ∧
              ((¬inFlow ∧ cursor.column < indent)
                ∨ cursor.atDocumentMark ∨ character = '#') then
            finishScalar reversed gap cursor
          else if inFlow ∧ character = ':' ∧
              rest.head?.any (fun following => isFlowIndicator following || following = '?') then
            .error cursor.line
          else if (character = ':' ∧ endsWord rest)
              ∨ (inFlow ∧ isFlowIndicator character) then
            finishScalar reversed gap cursor
          else
            plainScalar inFlow indent fuel
              (character :: (gap.reversedText ++ reversed)) .none cursor.next

/-- The character that a letter stands for after a backslash. -/
def escaped? : Char → Option Char
  | '0' => some (Char.ofNat 0x00)
  | 'a' => some (Char.ofNat 0x07)
  | 'b' => some (Char.ofNat 0x08)
  | 't' => some '\t'
  | '\t' => some '\t'
  | 'n' => some '\n'
  | 'v' => some (Char.ofNat 0x0B)
  | 'f' => some (Char.ofNat 0x0C)
  | 'r' => some '\r'
  | 'e' => some (Char.ofNat 0x1B)
  | ' ' => some ' '
  | '"' => some '"'
  | '/' => some '/'
  | '\\' => some '\\'
  | 'N' => some (Char.ofNat 0x85)
  | '_' => some (Char.ofNat 0xA0)
  | 'L' => some (Char.ofNat 0x2028)
  | 'P' => some (Char.ofNat 0x2029)
  | _ => none

/-- How many hexadecimal digits follow a letter after a backslash. -/
def codeLength? : Char → Option Nat
  | 'x' => some 2
  | 'u' => some 4
  | 'U' => some 8
  | _ => none

/-- The character written by the characters after a backslash, and how many they are. -/
def escapeSequence? : List Char → Option (Char × Nat)
  | [] => none
  | letter :: rest =>
      match escaped? letter with
      | some character => some (character, 1)
      | none =>
          (codeLength? letter).bind fun length =>
            if (rest.take length).length < length then
              none
            else
              (Literal.hexadecimal? (rest.take length)).bind fun code =>
                if code.isValidChar then some (Char.ofNat code, length + 1) else none

/-- A quoted scalar, from the character after the opening mark on. -/
def quotedScalar
    (mark : Char)
    (fuel : Nat)
    (reversed : List Char)
    (gap : Gap)
    (cursor : Cursor) :
    ScalarResult :=
  match fuel with
  | 0 => .error cursor.line
  | fuel + 1 =>
      match cursor.rest with
      | [] => .error cursor.line
      | character :: rest =>
          let joined := gap.reversedText ++ reversed
          if cursor.atDocumentMark then
            .error cursor.line
          else if isBreak character then
            quotedScalar mark fuel reversed gap.addBreak cursor.next
          else if isSpace character then
            quotedScalar mark fuel reversed (gap.addSpace character) cursor.next
          else if character = mark then
            if mark = '\'' ∧ rest.head? = some '\'' then
              quotedScalar mark fuel ('\'' :: joined) .none (cursor.skip 2)
            else
              finishScalar joined .none cursor.next
          else if mark = '"' ∧ character = '\\' then
            if rest.head?.any isBreak then
              quotedScalar mark fuel joined (.breaks 0 false) (cursor.skip 2)
            else
              match escapeSequence? rest with
              | some (meant, length) =>
                  quotedScalar mark fuel (meant :: joined) .none (cursor.skip (length + 1))
              | none => .error cursor.line
          else
            quotedScalar mark fuel (character :: joined) .none cursor.next

end PlotBoard.Yaml
