import Mathlib.Logic.Basic
import PlotBoard.Number.Literal

namespace PlotBoard

/-!
# Literals that are numbers

A decimal literal and a word for an infinity have a value that is a number, however
large or small it is: rounding, multiplying and dividing by powers of ten never ends
in "not a number". That value comes only from the word for it.
-/

namespace BinaryNumber

open Float.Model (UnpackedFloat Format)
open Float.Model.UnpackedFloat

/-- A pattern of bits that is no number has only ones in its exponent, and a mantissa. -/
theorem components_of_unpack_eq_notANumber
    {format : Format}
    {bits : BitVec format.numBits}
    (notANumber : unpack format bits = .notANumber) :
    unpackExponent bits = -1#_ ∧ unpackMantissa bits ≠ 0#_ := by
  unfold unpack at notANumber
  dsimp only at notANumber
  by_cases allOnes : unpackExponent bits = -1#_
  · refine ⟨allOnes, fun isZero => ?_⟩
    rw [if_pos allOnes, if_pos isZero] at notANumber
    cases notANumber
  · rw [if_neg allOnes] at notANumber
    by_cases noExponent : unpackExponent bits = 0#_
    · rw [if_pos noExponent] at notANumber
      by_cases isZero : unpackMantissa bits = 0#_
      · rw [dif_pos isZero] at notANumber
        cases notANumber
      · rw [dif_neg isZero] at notANumber
        cases notANumber
    · rw [if_neg noExponent] at notANumber
      cases notANumber

/-- Packing a number gives a pattern that is unpacked as a number. -/
theorem unpack_pack_ne_notANumber
    {format : Format}
    {number : UnpackedFloat}
    (isNumber : number ≠ .notANumber) :
    unpack format (pack format number) ≠ .notANumber := by
  intro notANumber
  obtain ⟨allOnes, notZero⟩ := components_of_unpack_eq_notANumber notANumber
  revert allOnes notZero
  fun_cases pack with
  | case1 => exact absurd rfl isNumber
  | case2 sign => simp [packedInfinity]
  | case3 sign => simp [packedZero]
  | case4 sign mantissa exponent positive biasedExponent tooLarge => simp [packedInfinity]
  | case5 sign mantissa exponent positive actualBits biasedExponent fits isNormal =>
      have notAllOnes : BitVec.ofNat format.exponentBits biasedExponent ≠ -1#_ := by
        intro allOnes
        have value := congrArg BitVec.toNat allOnes
        rw [BitVec.toNat_ofNat, Nat.mod_eq_of_lt (by omega), BitVec.neg_one_eq_allOnes,
          BitVec.toNat_allOnes] at value
        omega
      simp [notAllOnes]
  | case6 sign mantissa exponent positive actualBits biasedExponent fits notNormal =>
      simp [Nat.pos_iff_ne_zero.mp format.he]

theorem finite_ne_notANumber
    {sign : Float.Model.UnpackedFloat.Sign}
    {mantissa : Nat}
    {exponent : Int}
    (positive : 0 < mantissa) :
    UnpackedFloat.finite sign mantissa exponent positive ≠ .notANumber :=
  UnpackedFloat.noConfusion

/-- Rounding gives a number. -/
theorem roundWithAccuracy_ne_notANumber
    (format : Format)
    (sign : Float.Model.UnpackedFloat.Sign)
    (mantissa : Nat)
    (exponent : Int)
    (accuracy : Accuracy) :
    roundWithAccuracy format sign mantissa exponent accuracy ≠ .notANumber := by
  unfold roundWithAccuracy
  intro notANumber
  rcases dite_eq_iff.mp notANumber with ⟨isZero, impossible⟩ | ⟨notZero, impossible⟩
  · cases impossible
  · exact finite_ne_notANumber _ impossible

theorem neg_ne_notANumber
    {number : UnpackedFloat}
    (isNumber : number ≠ .notANumber) :
    number.neg ≠ .notANumber := by
  cases number with
  | notANumber => exact isNumber
  | infinity sign => nofun
  | zero sign => nofun
  | finite sign mantissa exponent positive => nofun

/-- A decoded number that is neither zero nor an infinity. -/
def IsNonzeroFinite : UnpackedFloat → Prop
  | .finite .. => True
  | _ => False

instance : DecidablePred IsNonzeroFinite
  | .finite .. => isTrue trivial
  | .notANumber | .infinity _ | .zero _ => isFalse id

variable {format : Format} {number factor : UnpackedFloat}

/-- A number times a number that is neither zero nor infinite is a number. -/
theorem mul_ne_notANumber
    (isNumber : number ≠ .notANumber)
    (nonzeroFinite : IsNonzeroFinite factor) :
    mul format number factor ≠ .notANumber := by
  cases factor with
  | notANumber => cases nonzeroFinite
  | infinity sign => cases nonzeroFinite
  | zero sign => cases nonzeroFinite
  | finite sign mantissa exponent positive =>
      cases number with
      | notANumber => exact absurd rfl isNumber
      | infinity sign => nofun
      | zero sign => nofun
      | finite sign mantissa exponent positive => exact roundWithAccuracy_ne_notANumber _ _ _ _ _

/-- A number divided by a number that is neither zero nor infinite is a number. -/
theorem div_ne_notANumber
    (isNumber : number ≠ .notANumber)
    (nonzeroFinite : IsNonzeroFinite factor) :
    div format number factor ≠ .notANumber := by
  cases factor with
  | notANumber => cases nonzeroFinite
  | infinity sign => cases nonzeroFinite
  | zero sign => cases nonzeroFinite
  | finite sign mantissa exponent positive =>
      cases number with
      | notANumber => exact absurd rfl isNumber
      | infinity sign => nofun
      | zero sign => nofun
      | finite sign mantissa exponent positive => exact roundWithAccuracy_ne_notANumber _ _ _ _ _

theorem ofNat_ne_notANumber
    (format : Format)
    (value : Nat) :
    ofNat format value ≠ .notANumber := by
  simp only [ofNat, ofInt, Float.Model.UnpackedFloat.normalize]
  split
  · exact roundWithAccuracy_ne_notANumber _ _ _ _ _
  · nofun
  · exact roundWithAccuracy_ne_notANumber _ _ _ _ _

/-- Scientific notation stands for a number. -/
theorem ofScientific_ne_notANumber
    (format : Format)
    (mantissa : Nat)
    (exponent : Int) :
    Float.Model.UnpackedFloat.ofScientific format mantissa exponent ≠ .notANumber := by
  unfold Float.Model.UnpackedFloat.ofScientific
  intro notANumber
  rcases dite_eq_iff.mp notANumber with ⟨isZero, impossible⟩ | ⟨notZero, rounded⟩
  · cases impossible
  rcases ite_eq_iff.mp rounded with ⟨-, impossible⟩ | ⟨-, notHuge⟩
  · cases impossible
  rcases ite_eq_iff.mp notHuge with ⟨-, impossible⟩ | ⟨-, notTiny⟩
  · cases impossible
  rcases ite_eq_iff.mp notTiny with ⟨-, multiplied⟩ | ⟨-, divided⟩
  · refine mul_ne_notANumber (finite_ne_notANumber _) ?_ multiplied
    exact trivial
  · refine div_ne_notANumber (finite_ne_notANumber _) ?_ divided
    exact trivial

/-- The table of powers of ten holds numbers that are neither zero nor infinite. -/
theorem isNonzeroFinite_of_mem_powers
    {power : Float}
    (member : power ∈ Float.exactlyRepresentablePowersOfTen) :
    IsNonzeroFinite power.toModel.unpack := by
  have all :
      ∀ power ∈ Float.exactlyRepresentablePowersOfTen.toList,
        IsNonzeroFinite power.toModel.unpack := by
    decide +kernel
  exact all power (Array.mem_toList_iff.mpr member)

/-- A `Float` that is decoded as a number. -/
def IsNumber (number : Float) : Prop :=
  number.toModel.unpack ≠ .notANumber

instance : DecidablePred IsNumber := fun number =>
  match decoded : number.toModel.unpack with
  | .notANumber => isFalse fun isNumber => isNumber decoded
  | .infinity _ | .zero _ | .finite .. => isTrue fun notANumber => by
      rw [decoded] at notANumber
      cases notANumber

theorem isNumber_iff {number : Float} :
    IsNumber number ↔ number.isNaN = false := by
  rw [IsNumber, Float.isNaN, Float.Model.isNaN]
  cases number.toModel.unpack with
  | notANumber => exact iff_of_false (fun isNumber => isNumber rfl) Bool.noConfusion
  | infinity sign => exact iff_of_true UnpackedFloat.noConfusion rfl
  | zero sign => exact iff_of_true UnpackedFloat.noConfusion rfl
  | finite sign mantissa exponent positive => exact iff_of_true (finite_ne_notANumber _) rfl

theorem isNumber_pack
    {number : UnpackedFloat}
    (isNumber : number ≠ .notANumber) :
    IsNumber (.ofModel (.pack number)) :=
  unpack_pack_ne_notANumber isNumber

theorem isNumber_neg
    {number : Float}
    (isNumber : IsNumber number) :
    IsNumber (-number) :=
  isNumber_pack (neg_ne_notANumber isNumber)

/-- The `Float` of scientific notation is a number, also when its exact value is out of range. -/
theorem isNumber_ofScientific
    (mantissa : Nat)
    (negativeExponent : Bool)
    (exponent : Nat) :
    IsNumber (OfScientific.ofScientific mantissa negativeExponent exponent) := by
  change IsNumber (Float.ofScientific mantissa negativeExponent exponent)
  rw [Float.ofScientific]
  split
  · next small =>
      have mantissaIsNumber : mantissa.toUInt64.toFloat.toModel.unpack ≠ .notANumber :=
        unpack_pack_ne_notANumber (ofNat_ne_notANumber _ _)
      have inTable : exponent < Float.exactlyRepresentablePowersOfTen.size :=
        Nat.lt_succ_of_le small.2
      have nonzeroFinite := isNonzeroFinite_of_mem_powers (Array.getElem_mem inTable)
      split
      · exact isNumber_pack (div_ne_notANumber mantissaIsNumber nonzeroFinite)
      · exact isNumber_pack (mul_ne_notANumber mantissaIsNumber nonzeroFinite)
  · exact isNumber_pack (ofScientific_ne_notANumber _ _ _)

theorem isNumber_one_div_zero : IsNumber (1 / 0) := by
  decide +kernel

end BinaryNumber

namespace RealLiteral

open BinaryNumber

theorem isNumber_magnitude
    (digits : Nat)
    (exponent : Int) :
    IsNumber (magnitude digits exponent) := by
  -- Each sign of the exponent has its own equation for the magnitude.
  cases exponent with
  | ofNat power =>
      simp only [magnitude]
      split
      · exact isNumber_ofScientific 0 false 0
      · split
        · exact isNumber_one_div_zero
        · exact isNumber_ofScientific _ _ _
  | negSucc power =>
      simp only [magnitude]
      split
      · exact isNumber_ofScientific 0 false 0
      · split
        · exact isNumber_one_div_zero
        · exact isNumber_ofScientific _ _ _

/-- The value of a literal is a number unless the literal is the word for no number. -/
theorem isNaN_toFloat_iff {literal : RealLiteral} :
    literal.toFloat.isNaN = true ↔ literal = .notANumber := by
  have isNaN_of_isNumber {number : Float} (isNumber : IsNumber number) : ¬number.isNaN = true := by
    rw [isNumber_iff.mp isNumber]
    exact Bool.false_ne_true
  cases literal with
  | notANumber =>
      refine iff_of_true ?_ rfl
      decide +kernel
  | infinity negative =>
      refine iff_of_false (isNaN_of_isNumber ?_) nofun
      cases negative with
      | false => exact isNumber_one_div_zero
      | true => exact isNumber_neg isNumber_one_div_zero
  | finite negative digits exponent =>
      refine iff_of_false (isNaN_of_isNumber ?_) nofun
      cases negative with
      | false => exact isNumber_magnitude digits exponent
      | true => exact isNumber_neg (isNumber_magnitude digits exponent)

end RealLiteral

end PlotBoard
