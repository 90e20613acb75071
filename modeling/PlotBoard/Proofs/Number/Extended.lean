import Mathlib.Data.Rat.Floor
import PlotBoard.Number.Scalar

namespace PlotBoard

/-!
# Exact numbers with infinities

Rational numbers leave out the values of binary numbers that are not finite. Here they are
added again, and operations on them end as they do there, so that only rounding is missing,
and the sign of a zero. On finite values all operations are those of rational numbers.
-/

/-- A rational number, an infinity of either sign, or no number at all. -/
inductive ExtendedRat where
  | notANumber
  | infinity (negative : Bool)
  | finite (value : Rat)
  deriving DecidableEq

namespace ExtendedRat

/-- The value is below zero. -/
def isNegative : ExtendedRat → Bool
  | .notANumber => false
  | .infinity negative => negative
  | .finite value => value < 0

/-- Infinities of different signs have no sum. -/
def add : ExtendedRat → ExtendedRat → ExtendedRat
  | .finite first, .finite second => .finite (first + second)
  | .infinity negative, .finite _ => .infinity negative
  | .finite _, .infinity negative => .infinity negative
  | .infinity negative, .infinity other =>
      if negative = other then .infinity negative else .notANumber
  | _, _ => .notANumber

def neg : ExtendedRat → ExtendedRat
  | .notANumber => .notANumber
  | .infinity negative => .infinity !negative
  | .finite value => .finite (-value)

/-- An infinity has no product with zero. -/
def mul : ExtendedRat → ExtendedRat → ExtendedRat
  | .finite first, .finite second => .finite (first * second)
  | .notANumber, _ => .notANumber
  | _, .notANumber => .notANumber
  | first, second =>
      if first = .finite 0 ∨ second = .finite 0 then
        .notANumber
      else
        .infinity (first.isNegative != second.isNegative)

/-- Only zero by zero and an infinity by an infinity have no quotient. -/
def div : ExtendedRat → ExtendedRat → ExtendedRat
  | .finite first, .finite second =>
      if second ≠ 0 then
        .finite (first / second)
      else if first ≠ 0 then
        .infinity (first < 0)
      else
        .notANumber
  | .finite _, .infinity _ => .finite 0
  | .infinity negative, .finite second => .infinity (negative != decide (second < 0))
  | _, _ => .notANumber

/-- The place on the line: the infinities at its ends, and none for what is no number. -/
def place? : ExtendedRat → Option (Int × Rat)
  | .notANumber => none
  | .infinity true => some (-1, 0)
  | .infinity false => some (1, 0)
  | .finite value => some (0, value)

/-- The value is at most the other one; what is no number compares with nothing. -/
def le (first second : ExtendedRat) : Bool :=
  match first.place?, second.place? with
  | some (part, value), some (otherPart, otherValue) =>
      part < otherPart || part == otherPart && value ≤ otherValue
  | _, _ => false

def lt (first second : ExtendedRat) : Bool :=
  first.le second && !second.le first

instance : Scalar ExtendedRat where
  natCast number := .finite number
  add := add
  sub first second := first.add second.neg
  mul := mul
  div := div
  lt first second := first.lt second = true
  le first second := first.le second = true
  decidableLT _ _ := inferInstanceAs (Decidable (_ = true))
  decidableLE _ _ := inferInstanceAs (Decidable (_ = true))
  isFinite
    | .finite _ => true
    | _ => false
  wholePart
    | .finite value => value.floor.toNat
    | _ => 0
  text
    | .notANumber => "NaN"
    | .infinity negative => if negative then "-inf" else "inf"
    | .finite value => toString value

@[simp] theorem natCast_eq_finite (number : Nat) :
    ((number : Nat) : ExtendedRat) = .finite number :=
  rfl

@[simp] theorem finite_add_finite (first second : Rat) :
    ExtendedRat.finite first + .finite second = .finite (first + second) :=
  rfl

@[simp] theorem finite_sub_finite (first second : Rat) :
    ExtendedRat.finite first - .finite second = .finite (first - second) :=
  congrArg ExtendedRat.finite (Rat.sub_eq_add_neg first second).symm

@[simp] theorem finite_mul_finite (first second : Rat) :
    ExtendedRat.finite first * .finite second = .finite (first * second) :=
  rfl

theorem finite_div_finite
    {second : Rat}
    (nonzero : second ≠ 0)
    (first : Rat) :
    ExtendedRat.finite first / .finite second = .finite (first / second) :=
  if_pos nonzero

@[simp] theorem finite_le_finite {first second : Rat} :
    ExtendedRat.finite first ≤ .finite second ↔ first ≤ second := by
  change le (.finite first) (.finite second) = true ↔ first ≤ second
  simp [le, place?]

@[simp] theorem finite_lt_finite {first second : Rat} :
    ExtendedRat.finite first < .finite second ↔ first < second := by
  change lt (.finite first) (.finite second) = true ↔ first < second
  simp only [lt, le, place?, lt_self_iff_false, decide_false, beq_self_eq_true, Bool.true_and,
    Bool.false_or, Bool.and_eq_true, decide_eq_true_eq, Bool.not_eq_eq_eq_not, Bool.not_true,
    decide_eq_false_iff_not, not_le]
  exact ⟨And.right, fun less => ⟨le_of_lt less, less⟩⟩

@[simp] theorem isFinite_finite (value : Rat) :
    Scalar.isFinite (ExtendedRat.finite value) = true :=
  rfl

/-- The rational number that a value is. -/
def value? : ExtendedRat → Option Rat
  | .finite value => some value
  | _ => none

/-- The lesser of two finite values is the lesser rational number. -/
@[simp] theorem lesser_finite (first second : Rat) :
    Scalar.lesser (ExtendedRat.finite first) (.finite second) = .finite (min first second) := by
  simp only [Scalar.lesser, finite_le_finite, le_refl, ↓reduceIte, min_def, apply_ite finite]

@[simp] theorem greater_finite (first second : Rat) :
    Scalar.greater (ExtendedRat.finite first) (.finite second) = .finite (max first second) := by
  simp only [Scalar.greater, finite_le_finite, le_refl, ↓reduceIte, max_def]
  rcases lt_trichotomy first second with less | rfl | greater
  · rw [if_neg (not_le.mpr less), if_pos less.le]
  · simp
  · rw [if_pos greater.le, if_neg (not_le.mpr greater)]

@[simp] theorem same_finite_iff {first second : Rat} :
    Scalar.same (ExtendedRat.finite first) (.finite second) = true ↔ first = second := by
  simp only [Scalar.same, finite_le_finite, Bool.and_eq_true, decide_eq_true_eq]
  exact le_antisymm_iff.symm

end ExtendedRat

end PlotBoard
