import Mathlib.Tactic.NormNum
import Mathlib.Tactic.Ring
import PlotBoard.Proofs.Rect

namespace PlotBoard.Rect

/-!
# Nesting and turning

Lines given in any order make the rectangles whose edges are in order, and every
operation on rectangles gives such a rectangle again. In exact arithmetic nesting is
associative with the unit square as its unit, it multiplies areas, and what is nested
from within the unit square stays inside the outer rectangle. A quarter turn respects
nesting; four of them give the rectangle back.
-/

/-- No edge lies on the wrong side of the opposite one. -/
structure Ordered (rect : Rect Rat) : Prop where
  left_le_right : rect.left ≤ rect.right
  bottom_le_top : rect.bottom ≤ rect.top

/-- Every point of the inner rectangle is a point of the outer one. -/
def LiesIn (inner outer : Rect Rat) : Prop :=
  ∀ point, inner.contains point = true → outer.contains point = true

theorem ordered_ofLines (x₁ y₁ x₂ y₂ : Rat) :
    (ofLines x₁ y₁ x₂ y₂).Ordered := by
  constructor
  · simp only [ofLines, Scalar.lesser_eq_min, Scalar.greater_eq_max]
    exact min_le_max
  · simp only [ofLines, Scalar.lesser_eq_min, Scalar.greater_eq_max]
    exact min_le_max

/-- Rectangles with their edges in order are what lines given in any order make. -/
theorem ordered_iff_exists_ofLines {rect : Rect Rat} :
    rect.Ordered ↔ ∃ x₁ y₁ x₂ y₂, rect = ofLines x₁ y₁ x₂ y₂ := by
  constructor
  · intro ordered
    exact
      ⟨rect.left, rect.bottom, rect.right, rect.top,
        (ofLines_of_le ordered.left_le_right ordered.bottom_le_top).symm⟩
  · rintro ⟨x₁, y₁, x₂, y₂, rfl⟩
    exact ordered_ofLines x₁ y₁ x₂ y₂

theorem ordered_unit : (unit : Rect Rat).Ordered :=
  ⟨Nat.cast_le.mpr zero_le_one, Nat.cast_le.mpr zero_le_one⟩

theorem ordered_nest (outer inner : Rect Rat) :
    (outer.nest inner).Ordered :=
  ordered_ofLines _ _ _ _

theorem ordered_quarterTurn (rect : Rect Rat) :
    rect.quarterTurn.Ordered :=
  ordered_ofLines _ _ _ _

theorem contains_iff {rect : Rect Rat} {point : Point Rat} :
    rect.contains point = true ↔
      (rect.left ≤ point.x ∧ point.x ≤ rect.right) ∧
        rect.bottom ≤ point.y ∧ point.y ≤ rect.top := by
  simp only [contains, Bool.and_eq_true, decide_eq_true_eq, and_assoc]

/-- A rectangle lies in another one when no edge of it is outside. -/
theorem Ordered.liesIn_iff
    {inner outer : Rect Rat}
    (ordered : inner.Ordered) :
    inner.LiesIn outer ↔
      (outer.left ≤ inner.left ∧ inner.right ≤ outer.right) ∧
        outer.bottom ≤ inner.bottom ∧ inner.top ≤ outer.top := by
  constructor
  · intro liesIn
    have low := contains_iff.mp (liesIn inner.lowCorner (contains_iff.mpr
      ⟨⟨le_rfl, ordered.left_le_right⟩, le_rfl, ordered.bottom_le_top⟩))
    have high := contains_iff.mp (liesIn inner.highCorner (contains_iff.mpr
      ⟨⟨ordered.left_le_right, le_rfl⟩, ordered.bottom_le_top, le_rfl⟩))
    exact ⟨⟨low.1.1, high.1.2⟩, low.2.1, high.2.2⟩
  · rintro ⟨⟨left, right⟩, bottom, top⟩ point inside
    obtain ⟨⟨fromLeft, toRight⟩, fromBottom, toTop⟩ := contains_iff.mp inside
    exact
      contains_iff.mpr
        ⟨⟨left.trans fromLeft, toRight.trans right⟩, bottom.trans fromBottom, toTop.trans top⟩

section Ordered

variable {outer inner first second third : Rect Rat}

theorem Ordered.width_nonneg (ordered : outer.Ordered) : 0 ≤ outer.width :=
  sub_nonneg.mpr ordered.left_le_right

theorem Ordered.height_nonneg (ordered : outer.Ordered) : 0 ≤ outer.height :=
  sub_nonneg.mpr ordered.bottom_le_top

theorem Ordered.quarterTurn_eq (ordered : outer.Ordered) :
    outer.quarterTurn =
      { left := 1 - outer.top
        bottom := outer.left
        right := 1 - outer.bottom
        top := outer.right } :=
  quarterTurn_of_le ordered.left_le_right ordered.bottom_le_top

theorem Ordered.width_quarterTurn (ordered : outer.Ordered) :
    outer.quarterTurn.width = outer.height := by
  rw [ordered.quarterTurn_eq, width, height]
  ring

theorem Ordered.height_quarterTurn (ordered : outer.Ordered) :
    outer.quarterTurn.height = outer.width := by
  rw [ordered.quarterTurn_eq, width, height]

/-- Nesting scales the inner edges to the outer rectangle and does not turn them around. -/
theorem Ordered.nest_eq
    (outerOrdered : outer.Ordered)
    (innerOrdered : inner.Ordered) :
    outer.nest inner =
      { left := outer.left + inner.left * outer.width
        bottom := outer.bottom + inner.bottom * outer.height
        right := outer.left + inner.right * outer.width
        top := outer.bottom + inner.top * outer.height } := by
  apply ofLines_of_le
  · exact
      add_le_add_right
        (mul_le_mul_of_nonneg_right innerOrdered.left_le_right outerOrdered.width_nonneg) _
  · exact
      add_le_add_right
        (mul_le_mul_of_nonneg_right innerOrdered.bottom_le_top outerOrdered.height_nonneg) _

theorem Ordered.width_nest
    (outerOrdered : outer.Ordered)
    (innerOrdered : inner.Ordered) :
    (outer.nest inner).width = outer.width * inner.width := by
  rw [outerOrdered.nest_eq innerOrdered]
  simp only [width]
  ring

theorem Ordered.height_nest
    (outerOrdered : outer.Ordered)
    (innerOrdered : inner.Ordered) :
    (outer.nest inner).height = outer.height * inner.height := by
  rw [outerOrdered.nest_eq innerOrdered]
  simp only [height]
  ring

theorem Ordered.area_nest
    (outerOrdered : outer.Ordered)
    (innerOrdered : inner.Ordered) :
    (outer.nest inner).area = outer.area * inner.area := by
  rw [area, outerOrdered.width_nest innerOrdered, outerOrdered.height_nest innerOrdered, area,
    area, mul_mul_mul_comm]

theorem Ordered.nest_assoc
    (firstOrdered : first.Ordered)
    (secondOrdered : second.Ordered)
    (thirdOrdered : third.Ordered) :
    (first.nest second).nest third = first.nest (second.nest third) := by
  have widths := firstOrdered.width_nest secondOrdered
  have heights := firstOrdered.height_nest secondOrdered
  rw [(ordered_nest first second).nest_eq thirdOrdered,
    firstOrdered.nest_eq (ordered_nest second third), widths, heights,
    firstOrdered.nest_eq secondOrdered, secondOrdered.nest_eq thirdOrdered]
  simp only [mk.injEq]
  refine ⟨?_, ?_, ?_, ?_⟩ <;> ring

theorem Ordered.unit_nest (ordered : inner.Ordered) :
    unit.nest inner = inner := by
  rw [ordered_unit.nest_eq ordered]
  simp [unit, width, height]

theorem Ordered.nest_unit (ordered : outer.Ordered) :
    outer.nest unit = outer := by
  rw [ordered.nest_eq ordered_unit]
  simp [unit, width, height]

/-- The left edge of what is turned was the upper one, which is measured from the other side. -/
theorem Ordered.quarterTurn_nest
    (outerOrdered : outer.Ordered)
    (innerOrdered : inner.Ordered) :
    (outer.nest inner).quarterTurn = outer.quarterTurn.nest inner.quarterTurn := by
  rw [(ordered_nest outer inner).quarterTurn_eq,
    (ordered_quarterTurn outer).nest_eq (ordered_quarterTurn inner),
    outerOrdered.width_quarterTurn, outerOrdered.height_quarterTurn,
    outerOrdered.nest_eq innerOrdered, outerOrdered.quarterTurn_eq, innerOrdered.quarterTurn_eq]
  simp only [mk.injEq, width, height, true_and, and_true]
  constructor <;> ring

/-- Two quarter turns turn the rectangle around the middle of the unit square. -/
theorem Ordered.quarterTurn_quarterTurn (ordered : outer.Ordered) :
    outer.quarterTurn.quarterTurn =
      { left := 1 - outer.right
        bottom := 1 - outer.top
        right := 1 - outer.left
        top := 1 - outer.bottom } := by
  rw [(ordered_quarterTurn outer).quarterTurn_eq, ordered.quarterTurn_eq]

theorem Ordered.four_quarterTurns (ordered : outer.Ordered) :
    outer.quarterTurn.quarterTurn.quarterTurn.quarterTurn = outer := by
  rw [(ordered_quarterTurn outer.quarterTurn).quarterTurn_quarterTurn,
    ordered.quarterTurn_quarterTurn]
  simp only [sub_sub_cancel]

theorem quarterTurn_unit : (unit : Rect Rat).quarterTurn = unit := by
  rw [ordered_unit.quarterTurn_eq]
  simp [unit]

/-- What lies in the unit square is nested inside the outer rectangle. -/
theorem Ordered.nest_liesIn
    (outerOrdered : outer.Ordered)
    (innerOrdered : inner.Ordered)
    (inUnit : inner.LiesIn unit) :
    (outer.nest inner).LiesIn outer := by
  obtain ⟨⟨zeroLeft, rightOne⟩, zeroBottom, topOne⟩ := innerOrdered.liesIn_iff.mp inUnit
  simp only [unit, Nat.cast_zero, Nat.cast_one] at zeroLeft rightOne zeroBottom topOne
  have width := outerOrdered.width_nonneg
  have height := outerOrdered.height_nonneg
  have fromLeft := mul_nonneg zeroLeft width
  have fromBottom := mul_nonneg zeroBottom height
  have toRight := mul_le_mul_of_nonneg_right rightOne width
  have toTop := mul_le_mul_of_nonneg_right topOne height
  rw [(ordered_nest outer inner).liesIn_iff, outerOrdered.nest_eq innerOrdered]
  rw [one_mul] at toRight toTop
  refine ⟨⟨?_, ?_⟩, ?_, ?_⟩
  · exact le_add_of_nonneg_right fromLeft
  · exact le_sub_iff_add_le'.mp toRight
  · exact le_add_of_nonneg_right fromBottom
  · exact le_sub_iff_add_le'.mp toTop

/--
The rectangles made from lines in any order are those with their edges in order. Nesting
is associative on them and has the unit square as its unit on both sides. A quarter turn
respects nesting and leaves the unit square where it is, it exchanges width and height,
and a turned rectangle contains the turned points; four turns give the rectangle back.
What lies in the unit square is nested inside the outer rectangle, and areas multiply.
Whatever a rectangle comes from, its edges are in order.
-/
theorem nest_quarterTurn_laws
    (firstOrdered : first.Ordered)
    (secondOrdered : second.Ordered)
    (thirdOrdered : third.Ordered) :
    (∀ rect : Rect Rat, rect.Ordered ↔ ∃ x₁ y₁ x₂ y₂, rect = ofLines x₁ y₁ x₂ y₂) ∧
      (first.nest second).nest third = first.nest (second.nest third) ∧
      unit.nest first = first ∧
      first.nest unit = first ∧
      (first.nest second).quarterTurn = first.quarterTurn.nest second.quarterTurn ∧
      first.quarterTurn.quarterTurn.quarterTurn.quarterTurn = first ∧
      (unit : Rect Rat).quarterTurn = unit ∧
      first.quarterTurn.width = first.height ∧
      first.quarterTurn.height = first.width ∧
      (∀ point : Point Rat,
        first.quarterTurn.contains point.quarterTurn = first.contains point) ∧
      (second.LiesIn unit →
        (first.nest second).LiesIn first ∧
          (first.nest second).area = first.area * second.area) ∧
      (∀ corner opposite : Point Rat, (spanning corner opposite).Ordered) ∧
      (∀ outer inner : Rect Rat, (outer.nest inner).Ordered) ∧
      ∀ rect : Rect Rat, rect.quarterTurn.Ordered := by
  refine
    ⟨fun _ => ordered_iff_exists_ofLines, firstOrdered.nest_assoc secondOrdered thirdOrdered,
      firstOrdered.unit_nest, firstOrdered.nest_unit,
      firstOrdered.quarterTurn_nest secondOrdered, firstOrdered.four_quarterTurns,
      quarterTurn_unit, firstOrdered.width_quarterTurn, firstOrdered.height_quarterTurn,
      ?containing, ?nesting, fun corner opposite => ordered_ofLines _ _ _ _, ordered_nest,
      ordered_quarterTurn⟩
  case containing =>
    intro point
    exact contains_quarterTurn firstOrdered.left_le_right firstOrdered.bottom_le_top point
  case nesting =>
    intro inUnit
    exact
      ⟨firstOrdered.nest_liesIn secondOrdered inUnit, firstOrdered.area_nest secondOrdered⟩

end Ordered

/-- A rectangle to the left of the unit square and above it. -/
def outlyingRect : Rect Rat where
  left := -3
  bottom := 1 / 2
  right := -1
  top := 5 / 2

/-- The right half of the unit square. -/
def rightHalf : Rect Rat where
  left := 1 / 2
  bottom := 0
  right := 1
  top := 1

/-- A rectangle without height that reaches over the unit square on one side. -/
def flatRect : Rect Rat where
  left := 0
  bottom := 1 / 4
  right := 2
  top := 1 / 4

theorem nest_quarterTurn_laws_sampleRects :
    outlyingRect.Ordered ∧
      rightHalf.Ordered ∧
      flatRect.Ordered ∧
      rightHalf.LiesIn unit ∧
      (outlyingRect.nest rightHalf).nest flatRect = outlyingRect.nest (rightHalf.nest flatRect) ∧
      (outlyingRect.nest rightHalf).quarterTurn =
        outlyingRect.quarterTurn.nest rightHalf.quarterTurn ∧
      outlyingRect.quarterTurn.contains { x := -1, y := -2 } = true ∧
      (outlyingRect.nest rightHalf).LiesIn outlyingRect ∧
      (outlyingRect.nest rightHalf).area = 2 := by
  have outlying : outlyingRect.Ordered := by
    constructor <;> norm_num [outlyingRect]
  have half : rightHalf.Ordered := by
    constructor <;> norm_num [rightHalf]
  have flat : flatRect.Ordered := by
    constructor <;> norm_num [flatRect]
  have inUnit : rightHalf.LiesIn unit := by
    rw [half.liesIn_iff]
    norm_num [rightHalf, unit]
  have inside : outlyingRect.contains { x := -2, y := 2 } = true := by
    rw [contains_iff]
    norm_num [outlyingRect]
  have turnedPoint :
      ({ x := -2, y := 2 } : Point Rat).quarterTurn = { x := -1, y := -2 } := by
    rw [Point.quarterTurn]
    norm_num
  obtain ⟨-, assoc, -, -, turned, -, -, -, -, containing, nesting, -⟩ :=
    nest_quarterTurn_laws outlying half flat
  obtain ⟨nestedInside, area⟩ := nesting inUnit
  refine ⟨outlying, half, flat, inUnit, assoc, turned, ?_, nestedInside, ?_⟩
  · rw [← turnedPoint, containing]
    exact inside
  · rw [area]
    norm_num [outlyingRect, rightHalf, Rect.area, width, height]

end PlotBoard.Rect
