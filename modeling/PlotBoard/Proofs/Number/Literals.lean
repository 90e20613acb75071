import Mathlib.Data.List.TakeWhile
import PlotBoard.Number.Literal

namespace PlotBoard

/-!
# Literals of natural numbers

A literal of a 64-bit number is an optional plus sign and digits of its value. The
decimal digits that are written for a number are one of its literals.
-/

namespace Literal

/-- The characters are an optional plus sign and ASCII digits with the value of an index. -/
def Spells (characters : List Char) (index : UInt64) : Prop :=
  ∃ digits,
    (characters = digits ∨ characters = '+' :: digits) ∧
      digits ≠ [] ∧
      (∀ digit ∈ digits, digit.isDigit = true) ∧
      Nat.ofDigitChars 10 digits 0 = index.toNat

theorem digits?_eq_some_iff
    {characters : List Char}
    {value : Nat} :
    digits? characters = some value ↔
      characters ≠ [] ∧
        (∀ digit ∈ characters, digit.isDigit = true) ∧
        Nat.ofDigitChars 10 characters 0 = value := by
  rw [digits?, Option.ite_none_right_eq_some, List.all_eq_true, Option.some.injEq, and_assoc]

theorem word?_eq_some_iff
    {value : Nat}
    {index : UInt64} :
    word? value = some index ↔ value = index.toNat := by
  rw [word?]
  split
  · next fits =>
      rw [Option.some.injEq]
      constructor
      · rintro rfl
        rw [UInt64.toNat_ofNatLT]
      · rintro rfl
        rw [UInt64.ofNatLT_toNat]
  · next tooLarge =>
      constructor
      · intro impossible
        cases impossible
      · rintro rfl
        exact absurd index.toNat_lt tooLarge

/-- Every text is a run of digits and then something else. -/
theorem exists_digits_split (characters : List Char) :
    ∃ digits rest,
      characters = digits ++ rest ∧
        (∀ digit ∈ digits, digit.isDigit = true) ∧
        ∀ first ∈ rest.head?, first.isDigit = false := by
  refine
    ⟨characters.takeWhile Char.isDigit, characters.dropWhile Char.isDigit,
      List.takeWhile_append_dropWhile.symm, fun _ member => List.mem_takeWhile_imp member, ?_⟩
  intro first isFirst
  have notDigit := List.head?_dropWhile_not Char.isDigit characters
  rw [Option.mem_def.mp isFirst] at notDigit
  simpa using notDigit

/-- A run of digits ends where something else follows. -/
theorem span_digits
    {digits rest : List Char}
    (areDigits : ∀ digit ∈ digits, digit.isDigit = true)
    (noMoreDigits : ∀ first ∈ rest.head?, first.isDigit = false) :
    (digits ++ rest).takeWhile Char.isDigit = digits ∧
      (digits ++ rest).dropWhile Char.isDigit = rest := by
  rw [List.takeWhile_append_of_pos areDigits, List.dropWhile_append_of_pos areDigits]
  cases rest with
  | nil => simp
  | cons first others =>
      have notDigit := noMoreDigits first rfl
      simp [notDigit]

theorem toLower_of_isDigit
    {character : Char}
    (digit : character.isDigit = true) :
    character.toLower = character := by
  simp only [Char.isDigit, Bool.and_eq_true, decide_eq_true_eq] at digit
  refine dif_neg ?_
  rintro ⟨fromCapital, -⟩
  exact absurd (UInt32.le_trans fromCapital digit.2) (by decide)

/-- Digits do not begin with a sign. -/
theorem dropPlus_of_digits
    {digits : List Char}
    (areDigits : ∀ digit ∈ digits, digit.isDigit = true) :
    dropPlus digits = digits := by
  unfold dropPlus
  split
  · next rest =>
      have plusIsDigit := areDigits '+' (by simp)
      simp at plusIsDigit
  · rfl

/-- Exactly the literals of an index are read as the index. -/
theorem natural?_eq_some_iff
    {characters : List Char}
    {index : UInt64} :
    natural? characters = some index ↔ Spells characters index := by
  rw [natural?, Option.bind_eq_some_iff]
  simp only [digits?_eq_some_iff, word?_eq_some_iff]
  constructor
  · rintro ⟨value, ⟨nonempty, areDigits, valued⟩, rfl⟩
    refine ⟨dropPlus characters, ?_, nonempty, areDigits, valued⟩
    unfold dropPlus
    split
    · exact Or.inr rfl
    · exact Or.inl rfl
  · rintro ⟨digits, rfl | rfl, nonempty, areDigits, valued⟩
    · rw [dropPlus_of_digits areDigits]
      exact ⟨index.toNat, ⟨nonempty, areDigits, valued⟩, rfl⟩
    · exact ⟨index.toNat, ⟨nonempty, areDigits, valued⟩, rfl⟩

/-- The digits of a 64-bit number are read back as that number. -/
theorem natural?_toDigits (index : UInt64) :
    natural? (Nat.toDigits 10 index.toNat) = some index := by
  have written := digits?_toDigits index.toNat
  have noSign : dropPlus (Nat.toDigits 10 index.toNat) = Nat.toDigits 10 index.toNat :=
    dropPlus_of_digits fun _ member => isDigit_of_digits? written member
  rw [natural?, noSign, written, Option.bind_some, word?_eq_some_iff]

end Literal

end PlotBoard
