import PlotBoard.Number.Scalar

namespace PlotBoard

/-!
# Bin edges

The edges of an axis are at least two finite numbers in strictly increasing
order. Neighbouring edges enclose a bin, which holds its lower edge but not its
upper one. Bins are counted from one, so that the number of edges at or below a
coordinate is the bin of the coordinate: zero below the first edge, and one more
than the number of bins from the last edge on. Between the two ends the number is
searched for.
-/

/--
A search for the number of values in front that pass a test, when none passes after
one that fails. It settles the binary digits of the number from the highest down: a
step goes on by a power of two if the value that it would reach passes.
-/
def searchPassing {A : Type} (passes : A → Bool) (values : List A) : (digits found : Nat) → Nat
  | 0, found => found
  | digits + 1, found =>
      if values[found + 1 <<< digits - 1]?.any passes then
        searchPassing passes values digits (found + 1 <<< digits)
      else
        searchPassing passes values digits found

variable {K : Type} [Scalar K]

/-- Each value is less than the next one. -/
def Increasing : List K → Prop
  | [] => True
  | [_] => True
  | first :: second :: rest => first < second ∧ Increasing (second :: rest)

instance decidableIncreasing : (values : List K) → Decidable (Increasing values)
  | [] => isTrue trivial
  | [_] => isTrue trivial
  | first :: second :: rest =>
      have := decidableIncreasing (second :: rest)
      inferInstanceAs (Decidable (first < second ∧ Increasing (second :: rest)))

/-- At least two finite numbers in strictly increasing order. -/
structure Edges (K : Type) [Scalar K] where
  values : List K
  two_le_length : 2 ≤ values.length
  finite : values.all Scalar.isFinite = true
  increasing : Increasing values

namespace Edges

/-- The numbers as edges, if there are enough of them in the right order. -/
def ofList? (values : List K) : Option (Edges K) :=
  if enough : 2 ≤ values.length then
    if finite : values.all Scalar.isFinite = true then
      if increasing : Increasing values then
        some ⟨values, enough, finite, increasing⟩
      else
        none
    else
      none
  else
    none

/-- The number of bins between the edges. -/
def binCount (edges : Edges K) : Nat :=
  edges.values.length - 1

theorem binCount_pos (edges : Edges K) : 0 < edges.binCount := by
  have := edges.two_le_length
  unfold binCount
  omega

theorem values_ne_nil (edges : Edges K) : edges.values ≠ [] := by
  intro empty
  have := edges.two_le_length
  simp [empty] at this

/-- The lower end of the axis. -/
def first (edges : Edges K) : K :=
  edges.values.head edges.values_ne_nil

/-- The upper end of the axis. -/
def last (edges : Edges K) : K :=
  edges.values.getLast edges.values_ne_nil

/--
The bin of a coordinate: zero if it is no number or lies below the edges, one more
than the number of bins from the last edge on, and otherwise the number of edges at
or below it.
-/
def findBin (edges : Edges K) (coordinate : K) : Nat :=
  if ¬coordinate ≤ coordinate ∨ coordinate < edges.first then
    0
  else if edges.last ≤ coordinate then
    edges.binCount + 1
  else
    searchPassing (· ≤ coordinate) edges.values (edges.values.length.log2 + 1) 0

/-- The lower edge of a bin. -/
def lowEdge? (edges : Edges K) : Nat → Option K
  | 0 => none
  | index + 1 => if index < edges.binCount then edges.values[index]? else none

/-- The upper edge of a bin. -/
def upEdge? (edges : Edges K) : Nat → Option K
  | 0 => none
  | index + 1 => edges.values[index + 1]?

/-- Halfway between the edges of a bin. -/
def center? (edges : Edges K) (bin : Nat) : Option K :=
  match edges.lowEdge? bin, edges.upEdge? bin with
  | some low, some up => some ((low + up) / ((2 : Nat) : K))
  | _, _ => none

end Edges

end PlotBoard
