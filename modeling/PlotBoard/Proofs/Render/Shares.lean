import Mathlib.Algebra.Order.Floor.Ring
import Mathlib.Data.Rat.Floor
import PlotBoard.Proofs.Rect
import PlotBoard.Render.Terminal

namespace PlotBoard

/-!
# Shares of the maximum

Bars and densities show contents as steps: the share of a content in the maximum,
times a number of steps, rounded to the nearest natural number. In exact arithmetic
the steps rise with the content, from none for contents that are not positive to all
of them for the maximum itself.
-/

namespace Scalar

/-- In exact arithmetic halves are rounded up. -/
theorem nearest_eq_floor {number : Rat} (nonnegative : 0 ≤ number) :
    nearest number = ⌊number + 1 / 2⌋₊ := by
  have whole : wholePart number = ⌊number⌋₊ := Int.floor_toNat number
  have lower : (⌊number⌋₊ : Rat) ≤ number := Nat.floor_le nonnegative
  have upper : number < ⌊number⌋₊ + 1 := Nat.lt_floor_add_one number
  have shifted : 0 ≤ number + 1 / 2 := by linarith
  rw [nearest, whole]
  symm
  split
  · next atLeastHalf =>
      have half : (1 : Rat) / 2 ≤ number - ⌊number⌋₊ := atLeastHalf
      apply (Nat.floor_eq_iff shifted).mpr
      push_cast
      constructor <;> linarith
  · next belowHalf =>
      have half : number - ⌊number⌋₊ < (1 : Rat) / 2 := not_le.mp belowHalf
      apply (Nat.floor_eq_iff shifted).mpr
      constructor <;> linarith

end Scalar

namespace Terminal

/--
The share of a value in the largest one, in steps and rounded half up. Negative values
have no share, and nothing has a share in a largest value that is not positive.
-/
def roundedShare (largest : Rat) (steps : Nat) (value : Rat) : Nat :=
  if largest ≤ 0 then
    0
  else
    ⌊max value 0 / largest * steps + 1 / 2⌋₊

theorem level_eq_roundedShare (largest : Rat) (steps : Nat) (value : Rat) :
    level largest steps value = roundedShare largest steps value := by
  simp only [level, roundedShare, Nat.cast_zero, Scalar.greater_eq_max]
  rcases le_or_gt largest 0 with nonpositive | positive
  · rw [if_neg nonpositive.not_gt, if_pos nonpositive]
  · have shareNonnegative : 0 ≤ max value 0 / largest * steps := by positivity
    rw [if_pos positive, if_neg positive.not_ge]
    exact Scalar.nearest_eq_floor shareNonnegative

section Laws

variable {largest : Rat} {steps : Nat}

theorem roundedShare_of_nonpos {value : Rat} (nonpositive : value ≤ 0) :
    roundedShare largest steps value = 0 := by
  rw [roundedShare, max_eq_right nonpositive, zero_div, zero_mul, zero_add]
  split
  · rfl
  · exact Nat.floor_eq_zero.mpr (by norm_num)

theorem roundedShare_self (positive : 0 < largest) :
    roundedShare largest steps largest = steps := by
  rw [roundedShare, if_neg positive.not_ge, max_eq_left positive.le, div_self positive.ne',
    one_mul]
  apply (Nat.floor_eq_iff (by positivity)).mpr
  constructor <;> linarith

/-- Greater values have no fewer steps. -/
theorem monotone_roundedShare :
    Monotone (roundedShare largest steps) := by
  intro value greater ordered
  rw [roundedShare, roundedShare]
  split
  · exact le_refl 0
  · next positive =>
      have largestNonnegative : 0 ≤ largest := (not_le.mp positive).le
      have clipped : max value 0 ≤ max greater 0 := max_le_max_right 0 ordered
      apply Nat.floor_le_floor
      gcongr

/-- No value up to the largest one has more than all steps. -/
theorem roundedShare_le {value : Rat} (within : value ≤ largest) :
    roundedShare largest steps value ≤ steps := by
  rcases le_or_gt largest 0 with nonpositive | positive
  · rw [roundedShare, if_pos nonpositive]
    exact Nat.zero_le steps
  · exact (monotone_roundedShare within).trans_eq (roundedShare_self positive)

end Laws

end Terminal

end PlotBoard
