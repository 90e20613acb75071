import Mathlib.Algebra.Order.Ring.Rat
import PlotBoard.Rect

namespace PlotBoard

/-!
# Rectangles in exact arithmetic

In exact arithmetic the lines that a rectangle is given by come out in order: the
lesser one is the minimum, the greater one the maximum, and a quarter turn takes
the upper edge to the left one.
-/

namespace Scalar

theorem lesser_eq_min (first second : Rat) :
    lesser first second = min first second := by
  unfold lesser
  split
  · next firstLess =>
      exact (min_eq_left firstLess).symm
  · next secondLess =>
      rw [if_pos (le_refl second)]
      exact (min_eq_right (le_of_not_ge secondLess)).symm

theorem greater_eq_max (first second : Rat) :
    greater first second = max first second := by
  unfold greater
  split
  · next secondLess =>
      exact (max_eq_left secondLess).symm
  · next firstLess =>
      rw [if_pos (le_refl second)]
      exact (max_eq_right (le_of_not_ge firstLess)).symm

end Scalar

namespace Rect

theorem ofLines_of_le
    {left bottom right top : Rat}
    (leftFirst : left ≤ right)
    (bottomFirst : bottom ≤ top) :
    ofLines left bottom right top =
      { left := left, bottom := bottom, right := right, top := top } := by
  simp only [ofLines, Scalar.lesser_eq_min, Scalar.greater_eq_max, min_eq_left leftFirst,
    min_eq_left bottomFirst, max_eq_right leftFirst, max_eq_right bottomFirst]

/-- A quarter turn takes the upper edge to the left and the left edge to the bottom. -/
theorem quarterTurn_of_le
    {rect : Rect Rat}
    (leftFirst : rect.left ≤ rect.right)
    (bottomFirst : rect.bottom ≤ rect.top) :
    rect.quarterTurn =
      { left := 1 - rect.top
        bottom := rect.left
        right := 1 - rect.bottom
        top := rect.right } := by
  have turned : 1 - rect.top ≤ 1 - rect.bottom := sub_le_sub_left bottomFirst 1
  simp only [quarterTurn, spanning, Point.quarterTurn, lowCorner, highCorner, ofLines,
    Scalar.lesser_eq_min, Scalar.greater_eq_max, Nat.cast_one, min_eq_right turned,
    max_eq_left turned, min_eq_left leftFirst, max_eq_right leftFirst]

/-- A turned rectangle contains the turned points of the rectangle. -/
theorem contains_quarterTurn
    {rect : Rect Rat}
    (leftFirst : rect.left ≤ rect.right)
    (bottomFirst : rect.bottom ≤ rect.top)
    (point : Point Rat) :
    rect.quarterTurn.contains point.quarterTurn = rect.contains point := by
  rw [quarterTurn_of_le leftFirst bottomFirst, Bool.eq_iff_iff]
  simp only [contains, Point.quarterTurn, Nat.cast_one, Bool.and_eq_true, decide_eq_true_eq,
    sub_le_sub_iff_left]
  tauto

end Rect

end PlotBoard
