import Mathlib.Data.List.Basic
import PlotBoard.Number.Literal

namespace PlotBoard

/-!
# Lists of numbers

Natural numbers are written one after the other with a mark between each two of
them. When the mark is no digit, the numbers can be told from the text.
-/

namespace Literal

/-- The digits of the numbers, with a mark between each two of them. -/
def joined (mark : Char) (numbers : List Nat) : List Char :=
  [mark].intercalate (numbers.map (Nat.toDigits 10))

theorem not_mem_toDigits
    {character : Char}
    (notDigit : character.isDigit = false)
    (number : Nat) :
    character ∉ Nat.toDigits 10 number := by
  intro member
  rw [Nat.isDigit_of_mem_toDigits (by decide) (by decide) member] at notDigit
  cases notDigit

theorem toDigits_injective : Function.Injective (Nat.toDigits 10) := by
  intro number other sameDigits
  have sameRead := congrArg digits? sameDigits
  rw [digits?_toDigits, digits?_toDigits] at sameRead
  exact Option.some.inj sameRead

theorem joined_cons
    (mark : Char)
    (number : Nat)
    {others : List Nat}
    (more : others ≠ []) :
    joined mark (number :: others) = Nat.toDigits 10 number ++ mark :: joined mark others := by
  rw [joined, List.map_cons, List.intercalate_cons_of_ne_nil (by simpa using more)]
  simp [joined]

theorem joined_ne_nil
    {mark : Char}
    {numbers : List Nat}
    (nonempty : numbers ≠ []) :
    joined mark numbers ≠ [] := by
  cases numbers with
  | nil => exact absurd rfl nonempty
  | cons number others =>
      by_cases more : others = []
      · subst more
        simp [joined]
      · simp [joined_cons mark number more]

/-- Written numbers consist of digits and marks. -/
theorem isDigit_or_eq_of_mem_joined
    {mark : Char}
    {numbers : List Nat}
    {character : Char}
    (member : character ∈ joined mark numbers) :
    character.isDigit = true ∨ character = mark := by
  induction numbers with
  | nil => simp [joined] at member
  | cons number others inductionHypothesis =>
      by_cases more : others = []
      · subst more
        rw [joined, List.map_singleton, List.intercalate_singleton] at member
        exact Or.inl (Nat.isDigit_of_mem_toDigits (by decide) (by decide) member)
      · rw [joined_cons mark number more, List.mem_append, List.mem_cons] at member
        rcases member with inDigits | isMark | inOthers
        · exact Or.inl (Nat.isDigit_of_mem_toDigits (by decide) (by decide) inDigits)
        · exact Or.inr isMark
        · exact inductionHypothesis inOthers

/-- The digits of the numbers are the pieces between the marks. -/
theorem splitOn_joined
    {mark : Char}
    (notDigit : mark.isDigit = false)
    {numbers : List Nat}
    (nonempty : numbers ≠ []) :
    (joined mark numbers).splitOn mark = numbers.map (Nat.toDigits 10) := by
  apply List.splitOn_intercalate
  · intro digits member
    obtain ⟨number, -, rfl⟩ := List.mem_map.mp member
    exact not_mem_toDigits notDigit number
  · simpa using nonempty

/-- Different lists of numbers are written differently. -/
theorem joined_inj
    {mark : Char}
    (notDigit : mark.isDigit = false)
    {numbers others : List Nat}
    (nonempty : numbers ≠ [])
    (othersNonempty : others ≠ [])
    (sameText : joined mark numbers = joined mark others) :
    numbers = others := by
  have samePieces := congrArg (List.splitOn mark) sameText
  rw [splitOn_joined notDigit nonempty, splitOn_joined notDigit othersNonempty] at samePieces
  exact List.map_injective_iff.mpr toDigits_injective samePieces

end Literal

end PlotBoard
