import Mathlib.Data.List.Infix
import PlotBoard.Proofs.Text.Trimming
import PlotBoard.Query.Expression

namespace PlotBoard.Expression

/-!
# Nested parentheses and the groups of an expression

The characters inside a group are those whose parentheses nest properly. Reading
a group therefore finds exactly one way to split a text: properly nested
characters, the closing parenthesis, and the rest.
-/

/-- No beginning closes more parentheses than it opens, and all that are opened are closed. -/
structure Nested (characters : List Char) : Prop where
  never_below :
    ∀ beginning,
      beginning <+: characters →
      beginning.count ')' ≤ beginning.count '('
  settled :
    characters.count '(' = characters.count ')'

/-- The characters close `depth` parentheses that are open before them, and all that they open. -/
structure Closing (depth : Nat) (characters : List Char) : Prop where
  never_below :
    ∀ beginning,
      beginning <+: characters →
      beginning.count ')' ≤ depth + beginning.count '('
  settled :
    depth + characters.count '(' = characters.count ')'

/-- Without parentheses open before them, closing characters are the nested ones. -/
theorem closing_zero_iff_nested {characters : List Char} :
    Closing 0 characters ↔ Nested characters := by
  constructor
  · intro closing
    exact
      ⟨fun beginning isBeginning => by
          simpa using closing.never_below beginning isBeginning,
        by simpa using closing.settled⟩
  · intro nested
    exact
      ⟨fun beginning isBeginning => by
          simpa using nested.never_below beginning isBeginning,
        by simpa using nested.settled⟩

/-- The number of open parentheses after a character. -/
def depthAfter (depth : Nat) (character : Char) : Nat :=
  if character = '(' then
    depth + 1
  else if character = ')' then
    depth - 1
  else
    depth

/-- A character that may stand at a depth changes the depth by what it opens and closes. -/
theorem depthAfter_balance
    {depth : Nat}
    {character : Char}
    (allowed : character = ')' → depth ≠ 0) :
    depthAfter depth character + (if character = ')' then 1 else 0) =
      depth + (if character = '(' then 1 else 0) := by
  unfold depthAfter
  by_cases opens : character = '('
  · subst character
    simp
  · by_cases closes : character = ')'
    · have positive := allowed closes
      subst character
      simp only [Char.reduceEq, ↓reduceIte]
      omega
    · simp [opens, closes]

/-- Closing is decided one character at a time. -/
theorem closing_cons_iff
    {depth : Nat}
    {character : Char}
    {rest : List Char} :
    Closing depth (character :: rest) ↔
      (character = ')' → depth ≠ 0) ∧
        Closing (depthAfter depth character) rest := by
  constructor
  · intro closing
    have allowed : character = ')' → depth ≠ 0 := by
      rintro rfl rfl
      have tooMany := closing.never_below [')'] (by simp)
      simp at tooMany
    have balance := depthAfter_balance allowed
    refine ⟨allowed, ?_, ?_⟩
    · intro beginning isBeginning
      have bound :=
        closing.never_below (character :: beginning)
          ((List.prefix_cons_inj character).mpr isBeginning)
      simp only [List.count_cons, beq_iff_eq] at bound
      omega
    · have settled := closing.settled
      simp only [List.count_cons, beq_iff_eq] at settled
      omega
  · rintro ⟨allowed, closing⟩
    have balance := depthAfter_balance allowed
    refine ⟨?_, ?_⟩
    · intro beginning isBeginning
      rcases List.prefix_cons_iff.mp isBeginning with
          rfl | ⟨tail, rfl, tailPrefix⟩
      · simp
      · have bound := closing.never_below tail tailPrefix
        simp only [List.count_cons, beq_iff_eq]
        omega
    · have settled := closing.settled
      simp only [List.count_cons, beq_iff_eq]
      omega

theorem closing_nil_iff {depth : Nat} :
    Closing depth [] ↔ depth = 0 := by
  constructor
  · intro closing
    simpa using closing.settled
  · rintro rfl
    exact ⟨fun beginning isBeginning => by simp_all, by simp⟩

/-- A character that does not close the group is read into it. -/
theorem closeGroup?_cons
    {depth : Nat}
    {character : Char}
    (staysInside : ¬(character = ')' ∧ depth = 0))
    (rest : List Char) :
    closeGroup? depth (character :: rest) =
      (closeGroup? (depthAfter depth character) rest).map
        fun split => (character :: split.1, split.2) := by
  cases depth with
  | zero =>
      have notClosing : character ≠ ')' := by
        simpa using staysInside
      simp [closeGroup?, depthAfter, notClosing]
  | succ outer =>
      by_cases closes : character = ')'
      · simp [closeGroup?, depthAfter, closes]
      · simp [closeGroup?, depthAfter, closes]

/--
Reading a group splits the text in the one way that has closing characters
before the parenthesis.
-/
theorem closeGroup?_eq_some_iff
    {depth : Nat}
    {characters inside after : List Char} :
    closeGroup? depth characters = some (inside, after) ↔
      characters = inside ++ ')' :: after ∧ Closing depth inside := by
  induction characters generalizing depth inside with
  | nil =>
      simp [closeGroup?]
  | cons character rest inductionHypothesis =>
      by_cases closesOuter : character = ')' ∧ depth = 0
      · obtain ⟨rfl, rfl⟩ := closesOuter
        cases inside with
        | nil =>
            simp [closeGroup?, closing_nil_iff]
        | cons first inside =>
            -- A parenthesis that closes the group cannot be inside it.
            suffices ¬(')' = first ∧ Closing 0 (first :: inside)) by
              simp only [closeGroup?, ↓reduceIte, Option.some.injEq,
                Prod.mk.injEq, List.nil_eq, reduceCtorEq, false_and,
                List.cons_append, List.cons.injEq, false_iff]
              tauto
            rintro ⟨rfl, closing⟩
            exact (closing_cons_iff.mp closing).1 rfl rfl
      · rw [closeGroup?_cons closesOuter, Option.map_eq_some_iff]
        constructor
        · rintro ⟨⟨inner, remaining⟩, read, same⟩
          obtain ⟨rfl, rfl⟩ := Prod.mk.inj same
          obtain ⟨rfl, closing⟩ := inductionHypothesis.mp read
          refine ⟨rfl, closing_cons_iff.mpr ⟨?_, closing⟩⟩
          intro closes atBottom
          exact closesOuter ⟨closes, atBottom⟩
        · rintro ⟨whole, closing⟩
          cases inside with
          | nil =>
              have atBottom := closing_nil_iff.mp closing
              exact absurd ⟨(List.cons.inj whole).1, atBottom⟩ closesOuter
          | cons first inner =>
              obtain ⟨rfl, rfl⟩ := List.cons.inj whole
              exact
                ⟨(inner, after),
                  inductionHypothesis.mpr
                    ⟨rfl, (closing_cons_iff.mp closing).2⟩,
                  rfl⟩

/-- Characters that are no parentheses. -/
def Between (characters : List Char) : Prop :=
  ∀ character ∈ characters, character ≠ '(' ∧ character ≠ ')'

/-- A text is free of parentheses up to the first one. -/
theorem exists_between_split
    (characters : List Char) :
    ∃ between rest,
      characters = between ++ rest ∧
        Between between ∧
        ∀ first ∈ rest.head?, first = '(' ∨ first = ')' := by
  refine
    ⟨characters.takeWhile fun character => character ≠ '(' ∧ character ≠ ')',
      characters.dropWhile fun character => character ≠ '(' ∧ character ≠ ')',
      List.takeWhile_append_dropWhile.symm, ?_, ?_⟩
  · intro character member
    simpa using List.mem_takeWhile_imp member
  · intro first isFirst
    have stops :=
      List.head?_dropWhile_not
        (fun character => decide (character ≠ '(' ∧ character ≠ ')'))
        characters
    rw [Option.mem_def.mp isFirst] at stops
    by_cases opens : first = '('
    · exact Or.inl opens
    · simpa [opens] using stops

/-- Characters without parentheses are passed over. -/
theorem groups?_append_of_between
    {between : List Char}
    (isBetween : Between between)
    (limit : Nat)
    (rest : List Char) :
    groups? (limit + 1) (between ++ rest) = groups? (limit + 1) rest := by
  have passedOver :
      ∀ character ∈ between,
        decide (character ≠ '(' ∧ character ≠ ')') = true := by
    intro character member
    exact decide_eq_true (isBetween character member)
  simp only [groups?]
  rw [List.dropWhile_append_of_pos passedOver]

/-- Characters without parentheses hold no group. -/
theorem groups?_of_between
    {between : List Char}
    (isBetween : Between between)
    (limit : Nat) :
    groups? (limit + 1) between = some [] := by
  have passed := groups?_append_of_between isBetween limit []
  rw [List.append_nil] at passed
  rw [passed]
  rfl

/-- A nested group is read first, and the other groups after it. -/
theorem groups?_of_nested
    {inside : List Char}
    (nested : Nested inside)
    (limit : Nat)
    (after : List Char) :
    groups? (limit + 1) ('(' :: (inside ++ ')' :: after)) =
      (groups? limit after).map (inside :: ·) := by
  have read :
      closeGroup? 0 (inside ++ ')' :: after) = some (inside, after) :=
    closeGroup?_eq_some_iff.mpr ⟨rfl, closing_zero_iff_nested.mpr nested⟩
  simp [groups?, read]

/--
Reading at least one group finds no parenthesis at all, or text without
parentheses, a nested group and the groups after it.
-/
theorem groups?_succ_eq_some_iff
    {limit : Nat}
    {characters : List Char}
    {groups : List (List Char)} :
    groups? (limit + 1) characters = some groups ↔
      (Between characters ∧ groups = []) ∨
        ∃ between inside after later,
          characters = between ++ '(' :: (inside ++ ')' :: after) ∧
            Between between ∧
            Nested inside ∧
            groups? limit after = some later ∧
            groups = inside :: later := by
  constructor
  · intro read
    obtain ⟨between, rest, rfl, isBetween, restStarts⟩ :=
      exists_between_split characters
    rw [groups?_append_of_between isBetween] at read
    cases rest with
    | nil =>
        refine Or.inl ⟨by simpa using isBetween, ?_⟩
        simpa [groups?] using read.symm
    | cons first rest =>
        rcases restStarts first rfl with rfl | rfl
        · cases closed : closeGroup? 0 rest with
          | none =>
              simp [groups?, closed] at read
          | some split =>
              obtain ⟨inside, after⟩ := split
              obtain ⟨rfl, closing⟩ := closeGroup?_eq_some_iff.mp closed
              have nested := closing_zero_iff_nested.mp closing
              rw [groups?_of_nested nested, Option.map_eq_some_iff] at read
              obtain ⟨later, readLater, rfl⟩ := read
              exact Or.inr
                ⟨between, inside, after, later, rfl, isBetween, nested,
                  readLater, rfl⟩
        · simp [groups?] at read
  · rintro (⟨isBetween, rfl⟩ |
      ⟨between, inside, after, later, rfl, isBetween, nested, readLater, rfl⟩)
    · exact groups?_of_between isBetween limit
    · rw [groups?_append_of_between isBetween, groups?_of_nested nested,
        readLater, Option.map_some]

/-- Every group that is read is nested. -/
theorem nested_of_mem_groups?
    {limit : Nat}
    {characters : List Char}
    {groups : List (List Char)}
    (read : groups? limit characters = some groups)
    {group : List Char}
    (member : group ∈ groups) :
    Nested group := by
  induction limit generalizing characters groups with
  | zero =>
      obtain rfl : groups = [] := by
        simpa [groups?] using read.symm
      simp at member
  | succ limit inductionHypothesis =>
      rcases groups?_succ_eq_some_iff.mp read with
          ⟨-, rfl⟩ |
          ⟨between, inside, after, later, -, -, nested, readLater, rfl⟩
      · simp at member
      · rcases List.mem_cons.mp member with rfl | inLater
        · exact nested
        · exact inductionHypothesis readLater inLater

theorem nested_of_between
    {characters : List Char}
    (isBetween : Between characters) :
    Nested characters := by
  have noOpen : '(' ∉ characters := fun member => (isBetween _ member).1 rfl
  have noClose : ')' ∉ characters := fun member => (isBetween _ member).2 rfl
  refine ⟨?_, ?_⟩
  · intro beginning isBeginning
    have absent : ')' ∉ beginning := fun member => noClose (isBeginning.subset member)
    rw [List.count_eq_zero.mpr absent]
    exact Nat.zero_le _
  · rw [List.count_eq_zero.mpr noOpen, List.count_eq_zero.mpr noClose]

/-- Trimming keeps parentheses nested. -/
theorem Nested.trim
    {characters : List Char}
    (nested : Nested characters) :
    Nested (Text.trim characters) := by
  obtain ⟨leading, trailing, split, leadingBlank, -⟩ :=
    Text.exists_blank_ends characters
  have leadingBetween : Between leading := by
    intro character member
    constructor <;>
      · rintro rfl
        exact absurd (leadingBlank _ member) (by decide)
  have leadingSettled := (nested_of_between leadingBetween).settled
  refine ⟨?_, ?_⟩
  · intro beginning isBeginning
    have fromStart : leading ++ beginning <+: characters := by
      rw [split, List.append_assoc]
      exact (List.prefix_append_right_inj leading).mpr
        (isBeginning.trans (List.prefix_append _ _))
    have bound := nested.never_below (leading ++ beginning) fromStart
    simp only [List.count_append] at bound
    omega
  · rw [Text.count_trim (by decide), Text.count_trim (by decide)]
    exact nested.settled

end PlotBoard.Expression
