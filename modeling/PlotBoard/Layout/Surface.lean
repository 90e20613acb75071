import PlotBoard.Rect

namespace PlotBoard

/-!
# Surfaces and their regions

A surface holds numbered regions in the order in which they were attached. A
region is found under a number when the region at that place carries the
number. One region at a time may be selected.
-/

/-- A choice among the four sides of a rectangle. -/
structure Sides where
  top : Bool := false
  bottom : Bool := false
  left : Bool := false
  right : Bool := false
  deriving DecidableEq

/-- How many sides are chosen. -/
def Sides.count (sides : Sides) : Nat :=
  [sides.top, sides.bottom, sides.left, sides.right].count true

/-- Distances from the four sides of a rectangle, as fractions of its extent. -/
structure Margins (K : Type) where
  top : K
  bottom : K
  left : K
  right : K

/-- A rectangle of a surface, its place in the layout and the margins inside it. -/
structure Region (K : Type) where
  number : Nat
  name : String
  bounds : Rect K
  row : Nat
  column : Nat
  suppressed : Sides
  margins : Margins K

/-- A named rectangle with regions. -/
structure Surface (K : Type) where
  name : String
  bounds : Rect K
  regions : List (Region K) := []
  selection : Option Nat := none

variable {K : Type} [Scalar K]

namespace Margins

/-- The same distance from every side. -/
def uniform (margin : K) : Margins K where
  top := margin
  bottom := margin
  left := margin
  right := margin

/-- No distance from the chosen sides. -/
def suppress (margins : Margins K) (sides : Sides) : Margins K where
  top := if sides.top then ((0 : Nat) : K) else margins.top
  bottom := if sides.bottom then ((0 : Nat) : K) else margins.bottom
  left := if sides.left then ((0 : Nat) : K) else margins.left
  right := if sides.right then ((0 : Nat) : K) else margins.right

/-- What is left of the unit square inside the margins. -/
def inside (margins : Margins K) : Rect K :=
  Rect.ofLines
    margins.left
    margins.bottom
    (((1 : Nat) : K) - margins.right)
    (((1 : Nat) : K) - margins.top)

end Margins

/-- What is left of the bounds inside the margins. -/
def Region.frame (region : Region K) : Rect K :=
  region.bounds.nest region.margins.inside

namespace Surface

/-- A surface without regions that covers the whole drawing area. -/
def named (name : String) : Surface K where
  name := name
  bounds := Rect.unit

/-- The region attached at the place `number`, counted from one, if it carries that number. -/
def region? (surface : Surface K) (number : Nat) : Option (Region K) :=
  match number with
  | 0 => none
  | index + 1 => surface.regions[index]?.filter fun region => region.number = number

/-- The region that a selection refers to. -/
def selected? (surface : Surface K) : Option (Region K) :=
  surface.selection.bind surface.region?

/-- A number without a region leaves the selection as it is. -/
def select (surface : Surface K) (number : Nat) : Surface K :=
  if (surface.region? number).isSome then
    { surface with selection := some number }
  else
    surface

/-- What a call that selects a number answers: the region under the number, looked up afterwards. -/
def selectedBy? (surface : Surface K) (number : Nat) : Option (Region K) :=
  (surface.select number).region? number

/-- The surface with one more region at the end. -/
def attach (surface : Surface K) (region : Region K) : Surface K :=
  { surface with regions := surface.regions ++ [region] }

/-- The surface without regions and without a selection. -/
def clear (surface : Surface K) : Surface K :=
  { surface with regions := [], selection := none }

end Surface

end PlotBoard
