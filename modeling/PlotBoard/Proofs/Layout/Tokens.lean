import Mathlib.Data.List.Forall2
import PlotBoard.Proofs.Layout.RoundTrip

namespace PlotBoard

/-!
# What layout texts say

A layout text is stretches of characters with separators between them. A stretch that
is not blank holds one token, with blanks around it. The first token may name the
orientation, each other token spells a row: digits for the columns and then nothing
but a letter for the mode. Only the tokens count, and their letters in either case.
-/

namespace Text

theorem isDigit_toLower (character : Char) :
    character.toLower.isDigit = character.isDigit := by
  unfold Char.toLower Char.isDigit
  grind

theorem toLower_toLower (character : Char) :
    character.toLower.toLower = character.toLower := by
  unfold Char.toLower
  grind

theorem isUpper_iff {character : Char} :
    character.isUpper = true ↔ 65 ≤ character.toNat ∧ character.toNat ≤ 90 := by
  unfold Char.isUpper
  simp [UInt32.le_iff_toNat_le]

theorem isLower_iff {character : Char} :
    character.isLower = true ↔ 97 ≤ character.toNat ∧ character.toNat ≤ 122 := by
  unfold Char.isLower
  simp [UInt32.le_iff_toNat_le]

theorem toNat_toLower (character : Char) :
    character.toLower.toNat =
      if character.isUpper then character.toNat + 32 else character.toNat := by
  unfold Char.toLower Char.isUpper Char.toNat
  grind [UInt32.toNat_add, UInt32.le_iff_toNat_le]

theorem toNat_toUpper (character : Char) :
    character.toUpper.toNat =
      if character.isLower then character.toNat - 32 else character.toNat := by
  unfold Char.toUpper Char.isLower Char.toNat
  grind [UInt32.toNat_add, UInt32.le_iff_toNat_le]

/-- Two characters become the same small letter: the letter itself and its capital. -/
theorem toLower_eq_iff
    {letter : Char}
    (small : letter.isLower = true)
    (character : Char) :
    character.toLower = letter ↔ character = letter ∨ character = letter.toUpper := by
  rw [← Char.toNat_inj, ← Char.toNat_inj, ← Char.toNat_inj, toNat_toLower, toNat_toUpper,
    if_pos small]
  rw [isLower_iff] at small
  simp only [isUpper_iff]
  split <;> omega

end Text

namespace Orientation

/-- The word that names an orientation in a text. -/
def tag : Orientation → String
  | .unstated => "none"
  | .vertical => "vertical"
  | .horizontal => "horizontal"

/-- A token is the word for an orientation, in letters of either case. -/
def NamedBy (orientation : Orientation) (token : List Char) : Prop :=
  token.map Char.toLower = orientation.tag.toList

instance (orientation : Orientation) (token : List Char) : Decidable (orientation.NamedBy token) :=
  inferInstanceAs (Decidable (_ = _))

theorem ofToken?_eq_some_iff
    {token : List Char}
    {orientation : Orientation} :
    ofToken? token = some orientation ↔ orientation.NamedBy token := by
  have sameWord (word : String) :
      String.ofList (token.map Char.toLower) = word ↔
        token.map Char.toLower = word.toList := by
    rw [← String.toList_inj, String.toList_ofList]
  simp only [ofToken?, sameWord, NamedBy]
  constructor
  · intro named
    split at named
    · next isWord => exact Option.some.inj named ▸ isWord
    · split at named
      · next isWord => exact Option.some.inj named ▸ isWord
      · split at named
        · next isWord => exact Option.some.inj named ▸ isWord
        · cases named
  · intro isWord
    rw [isWord]
    cases orientation <;> rfl

theorem ofToken?_eq_none_iff {token : List Char} :
    ofToken? token = none ↔ ∀ orientation : Orientation, ¬orientation.NamedBy token := by
  simp only [Option.eq_none_iff_forall_ne_some, ne_eq, ofToken?_eq_some_iff]

end Orientation

namespace MarginMode

theorem ofLetter?_eq_some_iff
    {letter : Char}
    {mode : MarginMode} :
    ofLetter? letter = some mode ↔ letter = mode.letter := by
  constructor
  · intro stands
    unfold ofLetter? at stands
    split at stands <;> cases stands <;> rfl
  · rintro rfl
    cases mode <;> rfl

theorem ofSuffix?_eq_some_iff
    {suffix : List Char}
    {mode : MarginMode} :
    ofSuffix? suffix = some mode ↔ suffix = [mode.letter] ∨ suffix = [mode.letter.toUpper] := by
  have small : mode.letter.isLower = true := by
    cases mode <;> rfl
  unfold ofSuffix?
  split
  · next letter => simp [ofLetter?_eq_some_iff, Text.toLower_eq_iff small]
  · next notSingle =>
      constructor
      · intro impossible
        cases impossible
      · rintro (rfl | rfl)
        · exact absurd rfl (notSingle _)
        · exact absurd rfl (notSingle _)

end MarginMode

namespace Row

/-- What leading digits and the whole rest of a token say about a row. -/
structure ReadFrom (row : Row) (digits suffix : List Char) : Prop where
  columns_eq :
    row.columns.toNat =
      if Nat.ofDigitChars 10 digits 0 < UInt64.size then Nat.ofDigitChars 10 digits 0 else 0
  mode_eq_some_iff :
    ∀ mode, row.mode = some mode ↔ suffix = [mode.letter] ∨ suffix = [mode.letter.toUpper]

/-- A token spells a row with all the digits that it begins with, if any, and its whole rest. -/
def SpelledBy (row : Row) (token : List Char) : Prop :=
  ∃ digits suffix,
    token = digits ++ suffix ∧
      (∀ digit ∈ digits, digit.isDigit = true) ∧
      (∀ first ∈ suffix.head?, first.isDigit = false) ∧
      row.ReadFrom digits suffix

theorem toNat_columnsOfDigits
    {digits : List Char}
    (areDigits : ∀ digit ∈ digits, digit.isDigit = true) :
    (columnsOfDigits digits).toNat =
      if Nat.ofDigitChars 10 digits 0 < UInt64.size then Nat.ofDigitChars 10 digits 0 else 0 := by
  by_cases nonempty : digits = []
  · subst nonempty
    rfl
  · have read := Literal.digits?_eq_some_iff.mpr ⟨nonempty, areDigits, rfl⟩
    rw [columnsOfDigits, read, Option.bind_some, Literal.word?]
    split
    · rw [Option.getD_some, UInt64.toNat_ofNatLT]
    · rfl

theorem ReadFrom.eq
    {row other : Row}
    {digits suffix : List Char}
    (read : row.ReadFrom digits suffix)
    (otherRead : other.ReadFrom digits suffix) :
    row = other := by
  obtain ⟨columns, mode⟩ := row
  obtain ⟨otherColumns, otherMode⟩ := other
  have sameColumns : columns = otherColumns :=
    UInt64.toNat_inj.mp (read.columns_eq.trans otherRead.columns_eq.symm)
  have sameMode : mode = otherMode :=
    Option.ext fun mode => (read.mode_eq_some_iff mode).trans (otherRead.mode_eq_some_iff mode).symm
  rw [sameColumns, sameMode]

/-- A row is read from the token at the end of its leading digits. -/
theorem readFrom_ofToken
    {digits suffix : List Char}
    (areDigits : ∀ digit ∈ digits, digit.isDigit = true)
    (noMoreDigits : ∀ first ∈ suffix.head?, first.isDigit = false) :
    (ofToken (digits ++ suffix)).ReadFrom digits suffix := by
  obtain ⟨front, back⟩ := Literal.span_digits areDigits noMoreDigits
  rw [ofToken, front, back]
  exact ⟨toNat_columnsOfDigits areDigits, fun _ => MarginMode.ofSuffix?_eq_some_iff⟩

/-- Every token spells one row, the one that is read from it. -/
theorem ofToken_eq_iff
    {token : List Char}
    {row : Row} :
    ofToken token = row ↔ row.SpelledBy token := by
  constructor
  · rintro rfl
    obtain ⟨digits, suffix, rfl, areDigits, noMoreDigits⟩ := Literal.exists_digits_split token
    exact
      ⟨digits, suffix, rfl, areDigits, noMoreDigits, readFrom_ofToken areDigits noMoreDigits⟩
  · rintro ⟨digits, suffix, rfl, areDigits, noMoreDigits, read⟩
    exact (readFrom_ofToken areDigits noMoreDigits).eq read

/-- The case of the letters in a token does not matter for its row. -/
theorem ofToken_map_toLower (token : List Char) :
    ofToken (token.map Char.toLower) = ofToken token := by
  have sameDigits : Char.isDigit ∘ Char.toLower = Char.isDigit :=
    funext Text.isDigit_toLower
  have digitsKept :
      (token.takeWhile Char.isDigit).map Char.toLower = token.takeWhile Char.isDigit := by
    calc
      (token.takeWhile Char.isDigit).map Char.toLower = (token.takeWhile Char.isDigit).map id :=
        List.map_congr_left fun _ member =>
          Literal.toLower_of_isDigit (List.mem_takeWhile_imp member)
      _ = token.takeWhile Char.isDigit := List.map_id _
  have sameSuffix (suffix : List Char) :
      MarginMode.ofSuffix? (suffix.map Char.toLower) = MarginMode.ofSuffix? suffix := by
    match suffix with
    | [] => rfl
    | [letter] => exact congrArg MarginMode.ofLetter? (Text.toLower_toLower letter)
    | _ :: _ :: _ => rfl
  rw [ofToken, ofToken, List.takeWhile_map, List.dropWhile_map, sameDigits, digitsKept, sameSuffix]

/-- The word for an orientation begins with no digit and is no letter of a mode. -/
theorem spelledBy_iff_of_namedBy
    {orientation : Orientation}
    {word : List Char}
    (named : orientation.NamedBy word)
    {row : Row} :
    row.SpelledBy word ↔ row = { columns := 0, mode := none } := by
  have spelled : ofToken word = { columns := 0, mode := none } := by
    rw [← ofToken_map_toLower, named]
    cases orientation <;> rfl
  rw [← ofToken_eq_iff, spelled]
  exact eq_comm

end Row

namespace Layout

/-- What stands in a stretch of characters without separators: one token, or only blanks. -/
inductive Stretch : List Char → List (List Char) → Prop
  | blank
      {characters : List Char}
      (allBlank : ∀ character ∈ characters, Text.isBlank character = true) :
      Stretch characters []
  | token
      {leading token trailing : List Char}
      (leadingBlank : ∀ character ∈ leading, Text.isBlank character = true)
      (trailingBlank : ∀ character ∈ trailing, Text.isBlank character = true)
      (nonempty : token ≠ [])
      (neverSeparates : ∀ character ∈ token, isSeparator character = false)
      (firstNotBlank : ∀ first ∈ token.head?, Text.isBlank first = false)
      (lastNotBlank : ∀ last ∈ token.getLast?, Text.isBlank last = false) :
      Stretch (leading ++ token ++ trailing) [token]

/-- The tokens of a text: those of its stretches between separators, in order. -/
inductive HasTokens : List Char → List (List Char) → Prop
  | last
      {characters : List Char}
      {found : List (List Char)}
      (stretch : Stretch characters found) :
      HasTokens characters found
  | separated
      {front rest : List Char}
      {separator : Char}
      {found later : List (List Char)}
      (stretch : Stretch front found)
      (separates : isSeparator separator = true)
      (others : HasTokens rest later) :
      HasTokens (front ++ separator :: rest) (found ++ later)

theorem not_isSeparator_of_isBlank
    {character : Char}
    (blank : Text.isBlank character = true) :
    isSeparator character = false := by
  simp only [isSeparator, decide_eq_false_iff_not, List.mem_cons, List.not_mem_nil, or_false]
  rintro (rfl | rfl | rfl | rfl | rfl) <;> revert blank <;> decide

theorem Stretch.tokens_eq
    {characters : List Char}
    {found : List (List Char)}
    (stretch : Stretch characters found) :
    tokens characters = found := by
  cases stretch with
  | blank allBlank =>
      rw [tokens_of_no_separator fun _ member => not_isSeparator_of_isBlank (allBlank _ member),
        Text.trim_eq_nil_iff.mpr allBlank]
      rfl
  | @token leading token trailing leadingBlank trailingBlank nonempty neverSeparates first last =>
      have noSeparator :
          ∀ character ∈ leading ++ token ++ trailing, isSeparator character = false := by
        intro character member
        rcases List.mem_append.mp member with inFront | inTrailing
        · rcases List.mem_append.mp inFront with inLeading | inToken
          · exact not_isSeparator_of_isBlank (leadingBlank character inLeading)
          · exact neverSeparates character inToken
        · exact not_isSeparator_of_isBlank (trailingBlank character inTrailing)
      rw [tokens_of_no_separator noSeparator,
        Text.trim_append_of_blank leadingBlank trailingBlank,
        Text.trim_eq_self_iff.mpr ⟨first, last⟩]
      simp [nonempty]

/-- Every stretch without separators holds the tokens that are cut from it. -/
theorem stretch_tokens
    {characters : List Char}
    (neverSeparates : ∀ character ∈ characters, isSeparator character = false) :
    Stretch characters (tokens characters) := by
  rw [tokens_of_no_separator neverSeparates]
  by_cases blank : Text.trim characters = []
  · simpa [blank] using Stretch.blank (Text.trim_eq_nil_iff.mp blank)
  · obtain ⟨leading, trailing, split, leadingBlank, trailingBlank⟩ :=
      Text.exists_blank_ends characters
    obtain ⟨firstNotBlank, lastNotBlank⟩ :=
      Text.trim_eq_self_iff.mp (Text.trim_trim characters)
    have stretch :=
      Stretch.token leadingBlank trailingBlank blank
        (fun character member => neverSeparates character (Text.mem_of_mem_trim member))
        firstNotBlank lastNotBlank
    rw [← split] at stretch
    simpa [blank] using stretch

/-- A text has the tokens that are cut from it, whatever separator-free text it begins with. -/
theorem hasTokens_append
    (characters : List Char)
    {front : List Char}
    (neverSeparates : ∀ character ∈ front, isSeparator character = false) :
    HasTokens (front ++ characters) (tokens (front ++ characters)) := by
  induction characters generalizing front with
  | nil =>
      rw [List.append_nil]
      exact .last (stretch_tokens neverSeparates)
  | cons character rest inductionHypothesis =>
      by_cases separates : isSeparator character = true
      · rw [tokens_append_separator separates]
        have others : HasTokens ([] ++ rest) (tokens ([] ++ rest)) := inductionHypothesis (by simp)
        exact .separated (stretch_tokens neverSeparates) separates others
      · have stillNone : ∀ other ∈ front ++ [character], isSeparator other = false := by
          intro other member
          rcases List.mem_append.mp member with inFront | isCharacter
          · exact neverSeparates other inFront
          · rw [List.mem_singleton.mp isCharacter]
            simpa using separates
        simpa using inductionHypothesis stillNone

/-- A text has exactly one sequence of tokens, the one that is cut from it. -/
theorem hasTokens_iff
    {characters : List Char}
    {found : List (List Char)} :
    HasTokens characters found ↔ tokens characters = found := by
  constructor
  · intro has
    induction has with
    | last stretch => exact stretch.tokens_eq
    | separated stretch separates _ inductionHypothesis =>
        rw [tokens_append_separator separates, stretch.tokens_eq, inductionHypothesis]
  · rintro rfl
    have noFront : ∀ character ∈ ([] : List Char), isSeparator character = false := by simp
    exact hasTokens_append characters noFront

/-- What a sequence of tokens says: rows, after the word for the orientation if there is one. -/
inductive ReadAs : List (List Char) → Layout → Prop
  | oriented
      {orientation : Orientation}
      {word : List Char}
      {rest : List (List Char)}
      {rows : List Row}
      (named : orientation.NamedBy word)
      (spelled : List.Forall₂ Row.SpelledBy rows rest) :
      ReadAs (word :: rest) { orientation := orientation, rows := rows }
  | unstated
      {found : List (List Char)}
      {rows : List Row}
      (notNamed :
        ∀ first ∈ found.head?, ∀ orientation : Orientation, ¬orientation.NamedBy first)
      (spelled : List.Forall₂ Row.SpelledBy rows found) :
      ReadAs found { orientation := .unstated, rows := rows }

theorem forall₂_spelledBy_iff
    {rows : List Row}
    {found : List (List Char)} :
    List.Forall₂ Row.SpelledBy rows found ↔ rows = found.map Row.ofToken := by
  induction found generalizing rows with
  | nil => simp
  | cons token found inductionHypothesis =>
      cases rows with
      | nil => simp
      | cons row rows =>
          rw [List.forall₂_cons, ← Row.ofToken_eq_iff, inductionHypothesis, List.map_cons,
            List.cons.injEq, eq_comm]

theorem ofTokens_eq_iff
    {found : List (List Char)}
    {layout : Layout} :
    ofTokens found = layout ↔ ReadAs found layout := by
  constructor
  · rintro rfl
    cases found with
    | nil => exact .unstated (by simp) .nil
    | cons first rest =>
        rw [ofTokens]
        split
        · next orientation named =>
            exact
              .oriented (Orientation.ofToken?_eq_some_iff.mp named) (forall₂_spelledBy_iff.mpr rfl)
        · next notNamed =>
            refine .unstated ?_ (forall₂_spelledBy_iff.mpr rfl)
            simpa using Orientation.ofToken?_eq_none_iff.mp notNamed
  · rintro (⟨named, spelled⟩ | ⟨notNamed, spelled⟩)
    · rw [ofTokens, Orientation.ofToken?_eq_some_iff.mpr named, forall₂_spelledBy_iff.mp spelled]
    · rw [forall₂_spelledBy_iff.mp spelled]
      cases found with
      | nil => rfl
      | cons first rest =>
          rw [ofTokens, Orientation.ofToken?_eq_none_iff.mpr (notNamed first rfl)]

/-- The case of the letters in the tokens does not matter. -/
theorem ofTokens_map_toLower (found : List (List Char)) :
    ofTokens (found.map (List.map Char.toLower)) = ofTokens found := by
  have sameRows (others : List (List Char)) :
      (others.map (List.map Char.toLower)).map Row.ofToken = others.map Row.ofToken := by
    rw [List.map_map]
    exact List.map_congr_left fun token _ => Row.ofToken_map_toLower token
  cases found with
  | nil => rfl
  | cons first rest =>
      have sameWord :
          Orientation.ofToken? (first.map Char.toLower) = Orientation.ofToken? first := by
        have lowered :
            (first.map Char.toLower).map Char.toLower = first.map Char.toLower := by
          rw [List.map_map]
          exact List.map_congr_left fun letter _ => Text.toLower_toLower letter
        rw [Orientation.ofToken?, Orientation.ofToken?, lowered]
      rw [List.map_cons, ofTokens, ofTokens, sameWord, sameRows, ← List.map_cons, sameRows]

/--
Every text has one sequence of tokens, and what is read from the text is what they
say: the word for the orientation in letters of either case, if the first token is
one, and a row for each other token. A word for an orientation in another place is a
row without columns. Texts whose tokens differ in nothing but the case of letters are
read as the same layout.
-/
theorem parse_reads_tokens :
    (∀ text : String, ∃! found, HasTokens text.toList found) ∧
      (∀ (text : String) (found : List (List Char)) (layout : Layout),
        HasTokens text.toList found → (parse text = layout ↔ ReadAs found layout)) ∧
      (∀ (orientation : Orientation) (word : List Char) (row : Row),
        orientation.NamedBy word →
          (row.SpelledBy word ↔ row = { columns := 0, mode := none })) ∧
      ∀ (text other : String) (found otherFound : List (List Char)),
        HasTokens text.toList found →
          HasTokens other.toList otherFound →
            found.map (List.map Char.toLower) = otherFound.map (List.map Char.toLower) →
              parse text = parse other := by
  refine ⟨?unique, ?reading, ?laterWord, ?sameTokens⟩
  case unique =>
    intro text
    refine ⟨tokens text.toList, hasTokens_iff.mpr rfl, ?_⟩
    intro found has
    exact (hasTokens_iff.mp has).symm
  case reading =>
    intro text found layout has
    rw [parse, hasTokens_iff.mp has]
    exact ofTokens_eq_iff
  case laterWord =>
    intro orientation word row named
    exact Row.spelledBy_iff_of_namedBy named
  case sameTokens =>
    intro text other found otherFound has otherHas sameTokens
    rw [parse, parse, hasTokens_iff.mp has, hasTokens_iff.mp otherHas, ← ofTokens_map_toLower,
      sameTokens, ofTokens_map_toLower]

/-- Two ways to write the same tokens; the second word for an orientation is a row. -/
theorem parse_reads_tokens_sampleText :
    HasTokens " Vertical( 01M ,none)".toList ["Vertical".toList, "01M".toList, "none".toList] ∧
      parse " Vertical( 01M ,none)" =
        { orientation := .vertical
          rows := [{ columns := 1, mode := some .middle }, { columns := 0, mode := none }] } ∧
      parse " Vertical( 01M ,none)" = parse "vertical[01m][NONE]" := by
  obtain ⟨-, reading, laterWord, sameTokens⟩ := parse_reads_tokens
  have has :
      HasTokens " Vertical( 01M ,none)".toList
        ["Vertical".toList, "01M".toList, "none".toList] :=
    hasTokens_iff.mpr (by decide)
  have otherHas :
      HasTokens "vertical[01m][NONE]".toList
        ["vertical".toList, "01m".toList, "NONE".toList] :=
    hasTokens_iff.mpr (by decide)
  have named : Orientation.vertical.NamedBy "Vertical".toList := by
    decide
  have firstRow : Row.SpelledBy { columns := 1, mode := some .middle } "01M".toList :=
    Row.ofToken_eq_iff.mp (by decide)
  have secondRow : Row.SpelledBy { columns := 0, mode := none } "none".toList :=
    (laterWord .unstated _ _ (by decide)).mpr rfl
  refine ⟨has, ?_, sameTokens _ _ _ _ has otherHas (by decide)⟩
  exact (reading _ _ _ has).mpr (.oriented named (.cons firstRow (.cons secondRow .nil)))

end Layout

end PlotBoard
