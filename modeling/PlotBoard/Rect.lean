import PlotBoard.Number.Scalar

namespace PlotBoard

/-!
# Points and rectangles

Rectangles with axis-parallel sides, in coordinates where the unit square is the
whole drawing area and `(0, 0)` is its lower left corner. A rectangle may be read
as a coordinate system of its own, into which another one is nested, and the
plane may be turned by a quarter turn that keeps the unit square.
-/

/-- A point of the plane. -/
structure Point (K : Type) where
  x : K
  y : K

/-- A rectangle given by its four edges. -/
structure Rect (K : Type) where
  left : K
  bottom : K
  right : K
  top : K

variable {K : Type} [Scalar K]

/-- The quarter turn of the unit square that takes its top edge to its left edge. -/
def Point.quarterTurn (point : Point K) : Point K where
  x := ((1 : Nat) : K) - point.y
  y := point.x

namespace Rect

/-- The whole drawing area. -/
def unit : Rect K where
  left := ((0 : Nat) : K)
  bottom := ((0 : Nat) : K)
  right := ((1 : Nat) : K)
  top := ((1 : Nat) : K)

/-- The rectangle between two horizontal and two vertical lines, given in any order. -/
def ofLines (x₁ y₁ x₂ y₂ : K) : Rect K where
  left := Scalar.lesser x₁ x₂
  bottom := Scalar.lesser y₁ y₂
  right := Scalar.greater x₁ x₂
  top := Scalar.greater y₁ y₂

/-- The rectangle with two opposite corners. -/
def spanning (corner opposite : Point K) : Rect K :=
  ofLines corner.x corner.y opposite.x opposite.y

/-- The lower left corner. -/
def lowCorner (rect : Rect K) : Point K where
  x := rect.left
  y := rect.bottom

/-- The upper right corner. -/
def highCorner (rect : Rect K) : Point K where
  x := rect.right
  y := rect.top

/-- The rectangle after a quarter turn of the plane. -/
def quarterTurn (rect : Rect K) : Rect K :=
  spanning rect.lowCorner.quarterTurn rect.highCorner.quarterTurn

/-- The extent from left to right. -/
def width (rect : Rect K) : K :=
  rect.right - rect.left

/-- The extent from bottom to top. -/
def height (rect : Rect K) : K :=
  rect.top - rect.bottom

/-- Width times height. -/
def area (rect : Rect K) : K :=
  rect.width * rect.height

/-- The point lies in the rectangle or on one of its edges. -/
def contains (rect : Rect K) (point : Point K) : Bool :=
  rect.left ≤ point.x && point.x ≤ rect.right
    && rect.bottom ≤ point.y && point.y ≤ rect.top

/-- The rectangle `inner`, read in coordinates where `outer` is the unit square. -/
def nest (outer inner : Rect K) : Rect K :=
  ofLines
    (outer.left + inner.left * outer.width)
    (outer.bottom + inner.bottom * outer.height)
    (outer.left + inner.right * outer.width)
    (outer.bottom + inner.top * outer.height)

/-- Every edge lies where the other rectangle has it. -/
def coincides (first second : Rect K) : Bool :=
  Scalar.same first.left second.left
    && Scalar.same first.bottom second.bottom
    && Scalar.same first.right second.right
    && Scalar.same first.top second.top

end Rect

end PlotBoard
