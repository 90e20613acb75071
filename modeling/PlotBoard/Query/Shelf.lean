import PlotBoard.Query.Interpreter

namespace PlotBoard

/-!
# Shelves of outcomes

Outcomes that are kept for later, in the order in which they were put there. The
first one whose histogram has a name is the one found.
-/

/-- Kept outcomes, oldest first. -/
structure Shelf (K C : Type) [Scalar K] where
  outcomes : List (Outcome K C) := []

variable {K C : Type} [Scalar K]

namespace Shelf

/-- The shelf with one more outcome at the end. -/
def keep (shelf : Shelf K C) (outcome : Outcome K C) : Shelf K C where
  outcomes := shelf.outcomes ++ [outcome]

/-- The shelf with more outcomes at the end. -/
def keepAll (shelf : Shelf K C) (outcomes : List (Outcome K C)) : Shelf K C :=
  outcomes.foldl keep shelf

/-- The number of outcomes. -/
def size (shelf : Shelf K C) : Nat :=
  shelf.outcomes.length

/-- The first outcome whose histogram has a name. -/
def find? (shelf : Shelf K C) (name : String) : Option (Outcome K C) :=
  shelf.outcomes.find? fun outcome => outcome.histogram.name = name

end Shelf

end PlotBoard
