import PlotBoard.Error
import PlotBoard.Number.Literal
import PlotBoard.Text.Blank
import PlotBoard.Text.Pieces

namespace PlotBoard

/-!
# Draw expressions

An expression names a histogram and gives up to four clauses in parentheses: the
range of the first axis, the axes to project onto, an operation and an option.
Clauses may hold parentheses that nest properly. Text between clauses is passed
over, and so is everything after the fourth clause.
-/

/-- A histogram name and the four clauses. -/
structure Expression where
  name : String
  range : String
  projection : List UInt64
  operation : String
  option : String
  deriving DecidableEq

namespace Expression

/-- Why a text is no expression. -/
inductive Fault where
  | unbalanced (opened closed : Nat)
  | closedBeforeOpened
  | badIndex (index : String)

/-- The text shown for a fault. -/
def Fault.reason : Fault → String
  | .unbalanced opened closed =>
      "unbalanced parentheses (" ++ toString opened ++ " '(' vs " ++ toString closed ++ " ')')"
  | .closedBeforeOpened => "parenthesis closed before it was opened"
  | .badIndex index => "invalid projection index `" ++ index ++ "`"

/-- The number of clauses that are read. -/
def clauseCount : Nat := 4

/-- The trimmed text before the first parenthesis, if the parentheses are equally many. -/
def name? (characters : List Char) : Except Fault (List Char) :=
  let opened := characters.count '('
  let closed := characters.count ')'
  if opened = closed then
    .ok (Text.trim (characters.takeWhile (· ≠ '(')))
  else
    .error (.unbalanced opened closed)

/--
The characters up to the parenthesis that closes the current group, and the
characters after it. `depth` parentheses inside the group are still open.
-/
def closeGroup? (depth : Nat) : List Char → Option (List Char × List Char)
  | [] => none
  | character :: rest =>
      if character = ')' then
        match depth with
        | 0 => some ([], rest)
        | outer + 1 =>
            (closeGroup? outer rest).map fun (inside, after) => (')' :: inside, after)
      else
        (closeGroup? (if character = '(' then depth + 1 else depth) rest).map
          fun (inside, after) => (character :: inside, after)

/-- The first groups of a text, at most `limit` of them; none if a parenthesis is missing. -/
def groups? : (limit : Nat) → List Char → Option (List (List Char))
  | 0, _ => some []
  | limit + 1, characters =>
      match characters.dropWhile fun character => character ≠ '(' ∧ character ≠ ')' with
      | [] => some []
      | parenthesis :: rest =>
          if parenthesis = ')' then
            none
          else
            match closeGroup? 0 rest with
            | none => none
            | some (inside, after) => (groups? limit after).map (inside :: ·)

/-- An index of a projection clause. -/
def index? (piece : List Char) : Except Fault UInt64 :=
  match Literal.natural? (Text.trim piece) with
  | some index => .ok index
  | none => .error (.badIndex (String.ofList (Text.trim piece)))

/-- The indices of a trimmed projection clause; an empty clause has none. -/
def indices? (clause : List Char) : Except Fault (List UInt64) :=
  if clause = [] then
    .ok []
  else
    (Text.commaPieces clause).mapM index?

/-- The clause at a place, trimmed; a missing clause is empty. -/
def clause (groups : List (List Char)) (place : Nat) : List Char :=
  Text.trim (groups[place]?.getD [])

/-- The expression of a name and its groups. -/
def ofGroups (name : List Char) (groups : List (List Char)) : Except Fault Expression :=
  (indices? (clause groups 1)).map fun projection =>
    { name := String.ofList name
      range := String.ofList (clause groups 0)
      projection := projection
      operation := String.ofList (clause groups 2)
      option := String.ofList (clause groups 3) }

/-- The expression that some characters spell. -/
def ofChars (characters : List Char) : Except Fault Expression :=
  match name? characters with
  | .error fault => .error fault
  | .ok name =>
      match groups? clauseCount (characters.dropWhile (· ≠ '(')) with
      | none => .error .closedBeforeOpened
      | some groups => ofGroups name groups

/-- A fault of a text, reported with the text. -/
def Fault.toError (text : String) (fault : Fault) : Error :=
  .malformedExpression text fault.reason

/-- The name that a text starts with, if its parentheses are equally many. -/
def nameOf (text : String) : Except Error String :=
  match name? text.toList with
  | .ok name => .ok (String.ofList name)
  | .error fault => .error (fault.toError text)

/-- The expression that a text spells. -/
def parse (text : String) : Except Error Expression :=
  (ofChars text.toList).mapError (Fault.toError text)

/-- At least one axis is kept. -/
def hasProjection (expression : Expression) : Bool :=
  expression.projection ≠ []

/-- The indices of the axes to keep. -/
def keep (expression : Expression) : List Nat :=
  expression.projection.map UInt64.toNat

/-- Characters between parentheses. -/
def parenthesized (characters : List Char) : List Char :=
  '(' :: (characters ++ [')'])

/-- The projection clause in digits, with commas between indices. -/
def projectionText (projection : List UInt64) : List Char :=
  [','].intercalate (projection.map fun index => Nat.toDigits 10 index.toNat)

/-- The name and all four clauses. -/
def characters (expression : Expression) : List Char :=
  expression.name.toList
    ++ parenthesized expression.range.toList
    ++ parenthesized (projectionText expression.projection)
    ++ parenthesized expression.operation.toList
    ++ parenthesized expression.option.toList

/-- The text of an expression. -/
def text (expression : Expression) : String :=
  String.ofList expression.characters

end Expression

end PlotBoard
