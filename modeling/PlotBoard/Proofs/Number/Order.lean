import Mathlib.Data.Prod.Lex
import Mathlib.Order.Bounds.Basic
import Mathlib.Order.MinMax
import PlotBoard.Number.Scalar

namespace PlotBoard

/-!
# The order of numbers

Comparisons pass over a value that is no number: it does not even compare with
itself. All other values are ordered as on a line. Binary numbers of 64 bits obey
this as well as exact ones: their comparison is the comparison of ranks made of
sign, exponent and mantissa.
-/

/-- Comparing the members of a list one after the other ends with the least one. -/
theorem isLeast_foldl_min
    {A : Type}
    [LinearOrder A]
    (first : A)
    (rest : List A) :
    IsLeast {member | member ∈ first :: rest} (rest.foldl min first) := by
  induction rest generalizing first with
  | nil =>
      refine ⟨List.mem_singleton_self first, ?_⟩
      intro other member
      exact (List.mem_singleton.mp member).ge
  | cons second rest inductionHypothesis =>
      obtain ⟨isMember, isBelow⟩ := inductionHypothesis (min first second)
      constructor
      · rcases List.mem_cons.mp isMember with isMin | inRest
        · rcases min_choice first second with isFirst | isSecond
          · exact List.mem_cons.mpr (Or.inl (isMin.trans isFirst))
          · exact List.mem_cons_of_mem _ (List.mem_cons.mpr (Or.inl (isMin.trans isSecond)))
        · exact List.mem_cons_of_mem _ (List.mem_cons_of_mem _ inRest)
      · have belowMin := isBelow (List.mem_cons_self (a := min first second) (l := rest))
        intro other member
        rcases List.mem_cons.mp member with rfl | inOthers
        · exact belowMin.trans (min_le_left other second)
        · rcases List.mem_cons.mp inOthers with rfl | inRest
          · exact belowMin.trans (min_le_right first other)
          · exact isBelow (List.mem_cons_of_mem _ inRest)

/-- In the reversed order the greatest member is the least one. -/
theorem isGreatest_foldl_max
    {A : Type}
    [LinearOrder A]
    (first : A)
    (rest : List A) :
    IsGreatest {member | member ∈ first :: rest} (rest.foldl max first) :=
  isLeast_foldl_min (A := Aᵒᵈ) first rest

/-- A number type whose values that compare with themselves are ordered as on a line. -/
class Scalar.Ordered (K : Type) [Scalar K] : Prop where
  le_trans : ∀ {first second third : K}, first ≤ second → second ≤ third → first ≤ third
  le_total : ∀ {first second : K}, first ≤ first → second ≤ second →
    first ≤ second ∨ second ≤ first
  lt_iff : ∀ {first second : K}, first < second ↔ first ≤ second ∧ ¬second ≤ first
  right_le_self : ∀ {first second : K}, first ≤ second → second ≤ second
  le_self_of_isFinite : ∀ {number : K}, Scalar.isFinite number = true → number ≤ number

instance : Scalar.Ordered Rat where
  le_trans := Rat.le_trans
  le_total _ _ := Rat.le_total
  lt_iff := ⟨fun less => ⟨Rat.le_of_lt less, Rat.not_le.mpr less⟩,
    fun both => Rat.not_le.mp both.2⟩
  right_le_self _ := Rat.le_refl
  le_self_of_isFinite _ := Rat.le_refl

namespace Scalar.Ordered

variable {K : Type} [Scalar K] [Scalar.Ordered K]

theorem le_of_lt {first second : K} (less : first < second) : first ≤ second :=
  (lt_iff.mp less).1

theorem lt_of_le_of_lt
    {first second third : K}
    (below : first ≤ second)
    (less : second < third) :
    first < third := by
  refine lt_iff.mpr ⟨le_trans below (le_of_lt less), ?_⟩
  intro above
  exact (lt_iff.mp less).2 (le_trans above below)

theorem lt_trans
    {first second third : K}
    (less : first < second)
    (lessAgain : second < third) :
    first < third :=
  lt_of_le_of_lt (le_of_lt less) lessAgain

/-- A finite value is greater than a number exactly when it is not at most the number. -/
theorem lt_iff_not_le
    {number bound : K}
    (isNumber : number ≤ number)
    (finite : Scalar.isFinite bound = true) :
    number < bound ↔ ¬bound ≤ number := by
  rw [lt_iff]
  constructor
  · exact And.right
  · intro notBelow
    rcases le_total isNumber (le_self_of_isFinite finite) with below | above
    · exact ⟨below, notBelow⟩
    · exact absurd above notBelow

end Scalar.Ordered

/-- Numbers that compare as ranks on a line do are ordered as on a line. -/
theorem Scalar.ordered_of_rank
    {K R : Type}
    [Scalar K]
    [LinearOrder R]
    (rank? : K → Option R)
    (le_iff : ∀ {first second : K},
      first ≤ second ↔
        ∃ firstRank ∈ rank? first, ∃ secondRank ∈ rank? second, firstRank ≤ secondRank)
    (lt_iff : ∀ {first second : K},
      first < second ↔
        ∃ firstRank ∈ rank? first, ∃ secondRank ∈ rank? second, firstRank < secondRank)
    (finite : ∀ {number : K}, Scalar.isFinite number = true → ∃ rank, rank ∈ rank? number) :
    Scalar.Ordered K where
  le_trans {first second third} below above := by
    obtain ⟨firstRank, firstFound, secondRank, secondFound, ranksBelow⟩ := le_iff.mp below
    obtain ⟨sameRank, sameFound, thirdRank, thirdFound, ranksAbove⟩ := le_iff.mp above
    obtain rfl := Option.mem_unique secondFound sameFound
    exact le_iff.mpr
      ⟨firstRank, firstFound, thirdRank, thirdFound, le_trans ranksBelow ranksAbove⟩
  le_total {first second} firstIsNumber secondIsNumber := by
    obtain ⟨firstRank, firstFound, -⟩ := le_iff.mp firstIsNumber
    obtain ⟨secondRank, secondFound, -⟩ := le_iff.mp secondIsNumber
    rcases le_total firstRank secondRank with below | above
    · exact Or.inl (le_iff.mpr ⟨firstRank, firstFound, secondRank, secondFound, below⟩)
    · exact Or.inr (le_iff.mpr ⟨secondRank, secondFound, firstRank, firstFound, above⟩)
  lt_iff {first second} := by
    constructor
    · intro less
      obtain ⟨firstRank, firstFound, secondRank, secondFound, ranksLess⟩ := lt_iff.mp less
      refine
        ⟨le_iff.mpr ⟨firstRank, firstFound, secondRank, secondFound, le_of_lt ranksLess⟩, ?_⟩
      intro above
      obtain ⟨higher, higherFound, lower, lowerFound, ranksAbove⟩ := le_iff.mp above
      obtain rfl := Option.mem_unique secondFound higherFound
      obtain rfl := Option.mem_unique firstFound lowerFound
      exact absurd ranksLess (not_lt_of_ge ranksAbove)
    · rintro ⟨below, notAbove⟩
      obtain ⟨firstRank, firstFound, secondRank, secondFound, -⟩ := le_iff.mp below
      refine lt_iff.mpr
        ⟨firstRank, firstFound, secondRank, secondFound, lt_of_not_ge fun ranksAbove => ?_⟩
      exact notAbove (le_iff.mpr ⟨secondRank, secondFound, firstRank, firstFound, ranksAbove⟩)
  right_le_self {first second} below := by
    obtain ⟨-, -, secondRank, secondFound, -⟩ := le_iff.mp below
    exact le_iff.mpr ⟨secondRank, secondFound, secondRank, secondFound, le_rfl⟩
  le_self_of_isFinite {number} isFinite := by
    obtain ⟨rank, found⟩ := finite isFinite
    exact le_iff.mpr ⟨rank, found, rank, found, le_rfl⟩

namespace BinaryNumber

open Float.Model (UnpackedFloat)

/--
The place of a decoded binary number on the line: its sign, and for a finite one
the exponent and the mantissa, both turned around below zero. The two zeros have
one place, and a value that is no number has none.
-/
def rank? : UnpackedFloat → Option (Int ×ₗ Int ×ₗ Int)
  | .notANumber => none
  | .infinity .negative => some (toLex (-2, toLex (0, 0)))
  | .finite .negative mantissa exponent _ => some (toLex (-1, toLex (-exponent, -mantissa)))
  | .zero _ => some (toLex (0, toLex (0, 0)))
  | .finite .positive mantissa exponent _ => some (toLex (1, toLex (exponent, mantissa)))
  | .infinity .positive => some (toLex (2, toLex (0, 0)))

theorem compare_neg (first second : Int) :
    compare (-first) (-second) = (compare first second).swap := by
  rw [← Std.OrientedCmp.eq_swap]
  rcases lt_trichotomy second first with below | rfl | above
  · rw [compare_lt_iff_lt.mpr below, compare_lt_iff_lt.mpr (Int.neg_lt_neg below)]
  · rw [compare_eq_iff_eq.mpr rfl, compare_eq_iff_eq.mpr rfl]
  · rw [compare_gt_iff_gt.mpr above, compare_gt_iff_gt.mpr (Int.neg_lt_neg above)]

theorem compare_natCast (first second : Nat) :
    compare (first : Int) (second : Int) = compare first second := by
  rcases lt_trichotomy first second with below | rfl | above
  · rw [compare_lt_iff_lt.mpr below, compare_lt_iff_lt.mpr (Int.ofNat_lt.mpr below)]
  · rw [compare_eq_iff_eq.mpr rfl, compare_eq_iff_eq.mpr rfl]
  · rw [compare_gt_iff_gt.mpr above, compare_gt_iff_gt.mpr (Int.ofNat_lt.mpr above)]

/-- Binary numbers compare as their ranks do. -/
theorem compare_eq (first second : UnpackedFloat) :
    first.compare second =
      (rank? first).bind fun firstRank => (rank? second).map (compare firstRank) := by
  simp only [Prod.Lex.compare_def]
  rcases first with (_ | _) | _ | _ | ⟨_ | _, mantissa, exponent, _⟩ <;>
    rcases second with (_ | _) | _ | _ | ⟨_ | _, otherMantissa, otherExponent, _⟩ <;>
      try rfl
  -- Only two finite numbers of one sign are left: exponents come first, then mantissas.
  case finite.negative.finite.negative =>
    change some ((compare exponent otherExponent).then (compare mantissa otherMantissa)).swap =
      some ((compare (-exponent) (-otherExponent)).then
        (compare (-(mantissa : Int)) (-(otherMantissa : Int))))
    rw [compare_neg exponent, compare_neg mantissa, compare_natCast, Ordering.swap_then]
  case finite.positive.finite.positive =>
    change some ((compare exponent otherExponent).then (compare mantissa otherMantissa)) =
      some ((compare exponent otherExponent).then
        (compare (mantissa : Int) (otherMantissa : Int)))
    rw [compare_natCast]

/-- Comparisons of `Float` are comparisons of ranks; without a rank they fail. -/
theorem le_iff {first second : Float} :
    first ≤ second ↔
      ∃ firstRank ∈ rank? first.toModel.unpack,
        ∃ secondRank ∈ rank? second.toModel.unpack, firstRank ≤ secondRank := by
  have decided : first ≤ second ↔ first.toModel.unpack.le second.toModel.unpack = true :=
    decide_eq_true_iff
  rw [decided, UnpackedFloat.le, compare_eq]
  cases rank? first.toModel.unpack with
  | none => simp
  | some firstRank =>
      cases rank? second.toModel.unpack with
      | none => simp
      | some secondRank => simp [← compare_le_iff_le, Ordering.isLE_iff_ne_gt]

theorem lt_iff {first second : Float} :
    first < second ↔
      ∃ firstRank ∈ rank? first.toModel.unpack,
        ∃ secondRank ∈ rank? second.toModel.unpack, firstRank < secondRank := by
  have decided : first < second ↔ first.toModel.unpack.lt second.toModel.unpack = true :=
    decide_eq_true_iff
  rw [decided, UnpackedFloat.lt, compare_eq]
  cases rank? first.toModel.unpack with
  | none => simp
  | some firstRank =>
      cases rank? second.toModel.unpack with
      | none => simp
      | some secondRank => simp [← compare_lt_iff_lt]

theorem exists_rank_of_isFinite
    {number : Float}
    (finite : number.isFinite = true) :
    ∃ rank, rank ∈ rank? number.toModel.unpack := by
  have unpackedFinite : number.toModel.unpack.isFinite = true := finite
  generalize number.toModel.unpack = unpacked at unpackedFinite ⊢
  rcases unpacked with _ | _ | _ | ⟨_ | _, mantissa, exponent, _⟩
  · cases unpackedFinite
  · cases unpackedFinite
  all_goals exact ⟨_, rfl⟩

end BinaryNumber

instance : Scalar.Ordered Float :=
  Scalar.ordered_of_rank
    (fun number => BinaryNumber.rank? number.toModel.unpack)
    BinaryNumber.le_iff
    BinaryNumber.lt_iff
    BinaryNumber.exists_rank_of_isFinite

end PlotBoard
