import Mathlib.Data.List.DropRight
import PlotBoard.Text.Blank

namespace PlotBoard.Text

/-!
# What trimming takes away

Trimming cuts a blank stretch from each end of a text and nothing else: other
characters keep their number, and a trimmed text has nothing left to trim.
-/

/-- What trimming takes away stands at both ends and is blank. -/
theorem exists_blank_ends
    (characters : List Char) :
    ∃ leading trailing,
      characters = leading ++ trim characters ++ trailing ∧
        (∀ character ∈ leading, isBlank character = true) ∧
        (∀ character ∈ trailing, isBlank character = true) := by
  have startSplit :
      characters.takeWhile isBlank ++ trimStart characters = characters :=
    List.takeWhile_append_dropWhile
  have endSplit :
      trim characters ++ (trimStart characters).rtakeWhile isBlank =
        trimStart characters :=
    List.rdropWhile_append_rtakeWhile
  refine
    ⟨characters.takeWhile isBlank,
      (trimStart characters).rtakeWhile isBlank, ?_, ?_, ?_⟩
  · rw [List.append_assoc, endSplit, startSplit]
  · intro character member
    exact List.mem_takeWhile_imp member
  · intro character member
    exact List.mem_rtakeWhile_imp member

/-- Trimmed characters are among the characters. -/
theorem mem_of_mem_trim
    {characters : List Char}
    {character : Char}
    (member : character ∈ trim characters) :
    character ∈ characters := by
  obtain ⟨leading, trailing, split, -, -⟩ := exists_blank_ends characters
  rw [split]
  simp [member]

/-- A character that is not blank occurs as often after trimming as before. -/
theorem count_trim
    {character : Char}
    (notBlank : isBlank character = false)
    (characters : List Char) :
    (trim characters).count character = characters.count character := by
  obtain ⟨leading, trailing, split, leadingBlank, trailingBlank⟩ :=
    exists_blank_ends characters
  have notLeading : character ∉ leading := by
    intro member
    simp [leadingBlank character member] at notBlank
  have notTrailing : character ∉ trailing := by
    intro member
    simp [trailingBlank character member] at notBlank
  have total := congrArg (List.count character) split
  simpa [List.count_append, List.count_eq_zero.mpr notLeading,
    List.count_eq_zero.mpr notTrailing] using total.symm

/-- The first character of a text trimmed at its start is not blank. -/
private theorem trimStart_of_prefix_trimStart
    {characters beginning : List Char}
    (isBeginning : beginning <+: trimStart characters) :
    trimStart beginning = beginning := by
  cases beginning with
  | nil => rfl
  | cons first rest =>
      obtain ⟨remaining, whole⟩ := isBeginning
      have firstNotBlank : isBlank first = false := by
        have notBlank := List.head?_dropWhile_not isBlank characters
        rw [← trimStart, ← whole] at notBlank
        simpa using notBlank
      simp [trimStart, firstNotBlank]

@[simp] theorem trimStart_trim (characters : List Char) :
    trimStart (trim characters) = trim characters :=
  trimStart_of_prefix_trimStart (List.rdropWhile_prefix isBlank (trimStart characters))

@[simp] theorem trimEnd_trim (characters : List Char) :
    trimEnd (trim characters) = trim characters :=
  List.rdropWhile_idempotent isBlank (trimStart characters)

/-- A trimmed text has nothing left to trim. -/
@[simp] theorem trim_trim (characters : List Char) :
    trim (trim characters) = trim characters := by
  rw [trim, trimStart_trim, trimEnd_trim]

/-- Trimming the start stops at a character that is not blank. -/
theorem trimStart_append_cons
    {character : Char}
    (notBlank : isBlank character = false)
    (front rest : List Char) :
    trimStart (front ++ character :: rest) = trimStart front ++ character :: rest := by
  rw [trimStart, trimStart, List.dropWhile_append]
  split
  · next allBlank =>
      rw [List.isEmpty_iff.mp allBlank, List.dropWhile_cons_of_neg (by simp [notBlank]),
        List.nil_append]
  · rfl

/-- Trimming the end stops at a character that is not blank. -/
theorem trimEnd_append_cons
    {character : Char}
    (notBlank : isBlank character = false)
    (front rest : List Char) :
    trimEnd (front ++ character :: rest) = front ++ character :: trimEnd rest := by
  have turned :
      (front ++ character :: rest).reverse = rest.reverse ++ character :: front.reverse := by
    simp
  rw [trimEnd, turned, trimStart_append_cons notBlank]
  simp [trimEnd]

/-- On both sides of a character that is not blank only the outer end is trimmed. -/
theorem trim_append_cons
    {character : Char}
    (notBlank : isBlank character = false)
    (front rest : List Char) :
    trim (front ++ character :: rest) = trimStart front ++ character :: trimEnd rest := by
  rw [trim, trimStart_append_cons notBlank, trimEnd_append_cons notBlank]

/-- The ends may be trimmed in either order. -/
theorem trimStart_trimEnd (characters : List Char) :
    trimStart (trimEnd characters) = trim characters := by
  by_cases allBlank : ∀ character ∈ characters, isBlank character = true
  · have nothingLeft : trimStart characters = [] := List.dropWhile_eq_nil_iff.mpr allBlank
    have nothingLeftAtEnd : trimStart characters.reverse = [] :=
      List.dropWhile_eq_nil_iff.mpr (by simpa using allBlank)
    rw [trim, nothingLeft, trimEnd, nothingLeftAtEnd]
    rfl
  · push Not at allBlank
    obtain ⟨character, member, notBlank⟩ := allBlank
    obtain ⟨front, rest, rfl⟩ := List.append_of_mem member
    have kept : isBlank character = false := by simpa using notBlank
    rw [trim_append_cons kept, trimEnd_append_cons kept, trimStart_append_cons kept]

@[simp] theorem trim_trimStart (characters : List Char) :
    trim (trimStart characters) = trim characters := by
  rw [trim, trim]
  congr 1
  exact List.dropWhile_idempotent isBlank characters

@[simp] theorem trim_trimEnd (characters : List Char) :
    trim (trimEnd characters) = trim characters := by
  rw [trim, trimStart_trimEnd]
  exact List.rdropWhile_idempotent isBlank (trimStart characters)

/-- Blanks around a text are trimmed away. -/
theorem trim_append_of_blank
    {leading trailing : List Char}
    (leadingBlank : ∀ character ∈ leading, isBlank character = true)
    (trailingBlank : ∀ character ∈ trailing, isBlank character = true)
    (characters : List Char) :
    trim (leading ++ characters ++ trailing) = trim characters := by
  have atStart :
      trimStart (leading ++ (characters ++ trailing)) = trimStart (characters ++ trailing) :=
    List.dropWhile_append_of_pos leadingBlank
  have atEnd : trimEnd (characters ++ trailing) = trimEnd characters := by
    have turnedBlank : ∀ character ∈ trailing.reverse, isBlank character = true := by
      simpa using trailingBlank
    rw [trimEnd, trimEnd, List.reverse_append, trimStart,
      List.dropWhile_append_of_pos turnedBlank, trimStart]
  rw [List.append_assoc, ← trim_trimStart, atStart, trim_trimStart, ← trim_trimEnd, atEnd,
    trim_trimEnd]

theorem trim_eq_nil_iff {characters : List Char} :
    trim characters = [] ↔ ∀ character ∈ characters, isBlank character = true := by
  constructor
  · intro nothingLeft character member
    obtain ⟨leading, trailing, split, leadingBlank, trailingBlank⟩ :=
      exists_blank_ends characters
    rw [nothingLeft, List.append_nil] at split
    rw [split] at member
    rcases List.mem_append.mp member with inLeading | inTrailing
    · exact leadingBlank character inLeading
    · exact trailingBlank character inTrailing
  · intro allBlank
    have nothingLeft : trimStart characters = [] := List.dropWhile_eq_nil_iff.mpr allBlank
    rw [trim, nothingLeft]
    rfl

/-- Nothing is trimmed exactly when neither end is blank. -/
theorem trim_eq_self_iff {characters : List Char} :
    trim characters = characters ↔
      (∀ first ∈ characters.head?, isBlank first = false) ∧
        ∀ last ∈ characters.getLast?, isBlank last = false := by
  have bothEnds :
      trim characters = characters ↔
        trimStart characters = characters ∧ trimEnd characters = characters := by
    constructor
    · intro trimmed
      rw [← trimmed]
      exact ⟨trimStart_trim characters, trimEnd_trim characters⟩
    · rintro ⟨atStart, atEnd⟩
      rw [trim, atStart, atEnd]
  have atStart :
      trimStart characters = characters ↔
        ∀ first ∈ characters.head?, isBlank first = false := by
    cases characters with
    | nil => simp [trimStart]
    | cons first rest => simp [trimStart, List.dropWhile_eq_self_iff]
  have atEnd :
      trimEnd characters = characters ↔
        ∀ last ∈ characters.getLast?, isBlank last = false := by
    refine List.rdropWhile_eq_self_iff.trans ?_
    cases characters with
    | nil => simp
    | cons first rest => simp [List.getLast?_eq_some_getLast]
  rw [bothEnds, atStart, atEnd]

/-- A text without blank characters has nothing to trim. -/
theorem trim_of_no_blank
    {characters : List Char}
    (noBlank : ∀ character ∈ characters, isBlank character = false) :
    trim characters = characters := by
  apply trim_eq_self_iff.mpr
  constructor
  · intro first isFirst
    exact noBlank first (List.mem_of_mem_head? isFirst)
  · intro last isLast
    exact noBlank last (List.mem_of_getLast? isLast)

/-- Digits are not blank. -/
theorem not_isBlank_of_isDigit
    {character : Char}
    (digit : character.isDigit = true) :
    isBlank character = false := by
  simp only [Char.isDigit, Bool.and_eq_true, decide_eq_true_eq] at digit
  have bounds : 48 ≤ character.toNat ∧ character.toNat ≤ 57 := digit
  simp only [isBlank, blankRanges, List.any_cons, List.any_nil, Bool.or_false,
    Bool.or_eq_false_iff, Bool.and_eq_false_iff, decide_eq_false_iff_not]
  omega

@[simp] theorem trim_toDigits (number : Nat) :
    trim (Nat.toDigits 10 number) = Nat.toDigits 10 number := by
  apply trim_of_no_blank
  intro character member
  exact not_isBlank_of_isDigit (Nat.isDigit_of_mem_toDigits (by decide) (by decide) member)

end PlotBoard.Text
