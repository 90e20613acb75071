import PlotBoard.Histogram.Basic
import PlotBoard.Text.Blank
import PlotBoard.Text.Pieces

namespace PlotBoard

/-!
# Range clauses

A range clause restricts the first axis of a histogram to the span between two
bounds. Bounds are coordinates as soon as one of them is written with a decimal
point, whatever their values; otherwise they are bins. A blank clause restricts
nothing.
-/

/-- Two bounds, both included. -/
inductive RangeClause (K : Type) where
  | bins (first last : Nat)
  | coordinates (lowest highest : K)

variable {K C : Type} [Scalar K]

namespace RangeClause

/-- Bin bounds; a negative one counts as zero. -/
def bins? (first last : List Char) : Option (RangeClause K) :=
  match Literal.integer? first, Literal.integer? last with
  | some first, some last => some (.bins first.toNat last.toNat)
  | _, _ => none

/-- The coordinate that a real literal stands for; "not a number" is no coordinate. -/
def coordinate? [ReadsLiterals K] (characters : List Char) : Option K :=
  match RealLiteral.ofChars? characters with
  | none => none
  | some .notANumber => none
  | some literal => some (ReadsLiterals.ofLiteral literal)

/-- Coordinate bounds. -/
def coordinates? [ReadsLiterals K] (lowest highest : List Char) : Option (RangeClause K) :=
  match coordinate? lowest, coordinate? highest with
  | some lowest, some highest => some (.coordinates lowest highest)
  | _, _ => none

/-- The clause of two trimmed bounds. -/
def ofBounds? [ReadsLiterals K] (low high : List Char) : Option (RangeClause K) :=
  if '.' ∈ low ∨ '.' ∈ high then
    coordinates? low high
  else
    bins? low high

/-- The clause of trimmed characters: two bounds with a comma between them. -/
def ofChars? [ReadsLiterals K] (characters : List Char) : Option (RangeClause K) :=
  match (Text.commaPieces characters).map Text.trim with
  | [low, high] => ofBounds? low high
  | _ => none

/-- The clause in a text; a blank text holds none. -/
def parse [ReadsLiterals K] (text : String) : Except Error (Option (RangeClause K)) :=
  let characters := Text.trim text.toList
  if characters = [] then
    .ok none
  else
    match ofChars? characters with
    | some clause => .ok (some clause)
    | none => .error (.invalidRange (String.ofList characters))

/-- The axis with the bins of the clause active. -/
def restrict (clause : RangeClause K) (axis : Axis K) : Axis K :=
  match clause with
  | .bins first last => axis.setRange first last
  | .coordinates lowest highest => axis.setCoordinateRange lowest highest

@[simp] theorem edges_restrict (clause : RangeClause K) (axis : Axis K) :
    (clause.restrict axis).edges = axis.edges := by
  cases clause <;> rfl

@[simp] theorem bins_restrict (clause : RangeClause K) (axis : Axis K) :
    (clause.restrict axis).bins = axis.bins := by
  simp [Axis.bins]

end RangeClause

namespace Histogram

/-- The histogram with one axis restricted, if there is a clause. -/
def restrictAxis
    (histogram : Histogram K C)
    (index : Nat)
    (clause : Option (RangeClause K)) :
    Histogram K C :=
  match clause with
  | some clause => histogram.modifyAxis index clause.restrict clause.bins_restrict
  | none => histogram

/-- The clause in a text, and the histogram with its first axis restricted by it. -/
def applyRange
    [ReadsLiterals K]
    (histogram : Histogram K C)
    (text : String) :
    Except Error (Option (RangeClause K) × Histogram K C) :=
  (RangeClause.parse text).map fun clause =>
    (clause, histogram.restrictAxis 0 clause)

end Histogram

end PlotBoard
