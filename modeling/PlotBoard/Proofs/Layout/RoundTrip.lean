import PlotBoard.Layout.Text
import PlotBoard.Proofs.Number.Literals
import PlotBoard.Proofs.Text.Trimming

namespace PlotBoard

/-!
# Writing and reading layouts

A written layout consists of at most one word for the orientation and one token
for each row, with separators between them. Cutting it gives these tokens again,
no row begins like a word, and each row is read from its token. So every layout is
read back from its own text, and reading followed by writing is a normal form.
-/

namespace MarginMode

theorem letter_not_isDigit (mode : MarginMode) :
    mode.letter.isDigit = false := by
  cases mode <;> decide

end MarginMode

namespace Row

/-- The digits of a number of columns are read back as that number. -/
theorem columnsOfDigits_toDigits (columns : UInt64) :
    columnsOfDigits (Nat.toDigits 10 columns.toNat) = columns := by
  rw [columnsOfDigits, Literal.digits?_toDigits, Option.bind_some,
    Literal.word?_eq_some_iff.mpr rfl, Option.getD_some]

/-- A written row is digits and at most one letter of a mode. -/
theorem isDigit_or_letter_of_mem_characters
    {row : Row}
    {character : Char}
    (member : character ∈ row.characters) :
    character.isDigit = true ∨ ∃ mode, character = MarginMode.letter mode := by
  rcases List.mem_append.mp member with inDigits | inLetters
  · exact Or.inl (Literal.isDigit_of_digits? (Literal.digits?_toDigits _) inDigits)
  · obtain ⟨mode, -, isLetter⟩ := List.mem_map.mp inLetters
    exact Or.inr ⟨mode, isLetter.symm⟩

/-- A written row begins with a digit. -/
theorem exists_isDigit_cons (row : Row) :
    ∃ first rest, row.characters = first :: rest ∧ first.isDigit = true := by
  obtain ⟨first, rest, digits⟩ :=
    List.exists_cons_of_ne_nil (Nat.toDigits_ne_nil (b := 10) (n := row.columns.toNat))
  have firstDigit : first.isDigit = true :=
    Literal.isDigit_of_digits? (Literal.digits?_toDigits row.columns.toNat) (by simp [digits])
  exact ⟨first, rest ++ row.mode.toList.map MarginMode.letter, by simp [characters, digits],
    firstDigit⟩

/-- A row is read back from its own characters. -/
theorem ofToken_characters (row : Row) :
    ofToken row.characters = row := by
  have digits :
      ∀ character ∈ Nat.toDigits 10 row.columns.toNat, character.isDigit = true :=
    fun _ member => Literal.isDigit_of_digits? (Literal.digits?_toDigits _) member
  rw [ofToken, characters, List.takeWhile_append_of_pos digits,
    List.dropWhile_append_of_pos digits]
  obtain ⟨columns, mode⟩ := row
  cases mode with
  | none => simp [columnsOfDigits_toDigits, MarginMode.ofSuffix?]
  | some mode => simp [columnsOfDigits_toDigits, mode.letter_not_isDigit]

end Row

namespace Orientation

/-- A token that begins with a digit names no orientation. -/
theorem ofToken?_of_isDigit
    {first : Char}
    (firstDigit : first.isDigit = true)
    (rest : List Char) :
    ofToken? (first :: rest) = none := by
  have notWord
      {word : String}
      (noDigit : word.toList.head?.any Char.isDigit = false) :
      String.ofList ((first :: rest).map Char.toLower) ≠ word := by
    rintro rfl
    rw [String.toList_ofList, List.map_cons, List.head?_cons, Option.any_some,
      Literal.toLower_of_isDigit firstDigit, firstDigit] at noDigit
    cases noDigit
  have notNone := @notWord "none" (by decide)
  have notVertical := @notWord "vertical" (by decide)
  have notHorizontal := @notWord "horizontal" (by decide)
  simp only [ofToken?, if_neg notNone, if_neg notVertical, if_neg notHorizontal]

end Orientation

namespace Layout

/-- Characters that come out of cutting unchanged. -/
structure IsToken (token : List Char) : Prop where
  not_empty : token ≠ []
  trimmed : Text.trim token = token
  never_separates : ∀ character ∈ token, isSeparator character = false

theorem not_isSeparator_of_isDigit
    {character : Char}
    (digit : character.isDigit = true) :
    isSeparator character = false := by
  simp only [isSeparator, decide_eq_false_iff_not, List.mem_cons, List.not_mem_nil, or_false]
  rintro (rfl | rfl | rfl | rfl | rfl) <;> simp at digit

/-- Without separators the trimmed text is the only token. -/
theorem tokens_of_no_separator
    {characters : List Char}
    (neverSeparates : ∀ character ∈ characters, isSeparator character = false) :
    tokens characters = [Text.trim characters].filter (· ≠ []) := by
  rw [tokens, Text.pieces_eq_splitOnP, List.splitOnP_eq_singleton neverSeparates,
    List.map_singleton]

/-- A token alone is cut into itself. -/
theorem IsToken.tokens_eq
    {token : List Char}
    (isToken : IsToken token) :
    tokens token = [token] := by
  rw [tokens_of_no_separator isToken.never_separates, isToken.trimmed]
  simp [isToken.not_empty]

/-- At a separator the tokens before it and the tokens after it are apart. -/
theorem tokens_append_separator
    {separator : Char}
    (separates : isSeparator separator = true)
    (front rest : List Char) :
    tokens (front ++ separator :: rest) = tokens front ++ tokens rest := by
  simp only [tokens, Text.pieces_eq_splitOnP, List.splitOnP_append_cons front rest separates,
    List.map_append, List.filter_append]

/-- Tokens between commas are found one by one. -/
theorem tokens_intercalate
    {items : List (List Char)}
    (areTokens : ∀ item ∈ items, IsToken item) :
    tokens ([','].intercalate items) = items := by
  induction items with
  | nil => rfl
  | cons first others inductionHypothesis =>
      have firstToken := areTokens first (by simp)
      have otherTokens : ∀ item ∈ others, IsToken item :=
        fun item member => areTokens item (List.mem_cons_of_mem first member)
      by_cases more : others = []
      · subst more
        rw [List.intercalate_singleton, firstToken.tokens_eq]
      · rw [List.intercalate_cons_of_ne_nil more, List.append_assoc, List.singleton_append,
          tokens_append_separator (by decide), firstToken.tokens_eq,
          inductionHypothesis otherTokens, List.singleton_append]

/-- A written row is a token. -/
theorem isToken_characters (row : Row) :
    IsToken row.characters where
  not_empty := by
    obtain ⟨first, rest, split, -⟩ := row.exists_isDigit_cons
    simp [split]
  trimmed := by
    apply Text.trim_of_no_blank
    intro character member
    rcases Row.isDigit_or_letter_of_mem_characters member with digit | ⟨mode, rfl⟩
    · exact Text.not_isBlank_of_isDigit digit
    · cases mode <;> decide
  never_separates := by
    intro character member
    rcases Row.isDigit_or_letter_of_mem_characters member with digit | ⟨mode, rfl⟩
    · exact not_isSeparator_of_isDigit digit
    · cases mode <;> decide

/-- A written layout is cut into the word for its orientation, if it has one, and its rows. -/
theorem tokens_characters (layout : Layout) :
    tokens layout.characters =
      tokens layout.orientation.word.toList ++ layout.rows.map Row.characters := by
  have rowTokens : ∀ item ∈ layout.rows.map Row.characters, IsToken item := by
    intro item member
    obtain ⟨row, -, rfl⟩ := List.mem_map.mp member
    exact isToken_characters row
  have nothingAfter : tokens [] = [] := rfl
  rw [characters, tokens_append_separator (by decide), tokens_append_separator (by decide),
    tokens_intercalate rowTokens, nothingAfter, List.append_nil]

/-- The tokens of a written layout are read as the layout. -/
theorem ofTokens_tokens_characters (layout : Layout) :
    ofTokens (tokens layout.characters) = layout := by
  obtain ⟨orientation, rows⟩ := layout
  have readBack : (rows.map Row.characters).map Row.ofToken = rows := by
    rw [List.map_map]
    exact List.map_id'' Row.ofToken_characters rows
  rw [tokens_characters]
  cases orientation with
  | unstated =>
      -- Without a word the first row comes first, and a row is no word.
      cases rows with
      | nil => rfl
      | cons row others =>
          obtain ⟨first, rest, split, firstDigit⟩ := row.exists_isDigit_cons
          have noWord : Orientation.ofToken? row.characters = none := by
            rw [split]
            exact Orientation.ofToken?_of_isDigit firstDigit rest
          have noTokens : tokens Orientation.unstated.word.toList = [] := rfl
          rw [noTokens, List.nil_append, List.map_cons, ofTokens, noWord, ← List.map_cons,
            readBack]
  | vertical =>
      have word : tokens Orientation.vertical.word.toList = ["vertical".toList] := rfl
      have named : Orientation.ofToken? "vertical".toList = some .vertical := rfl
      rw [word, List.singleton_append, ofTokens, named, readBack]
  | horizontal =>
      have word : tokens Orientation.horizontal.word.toList = ["horizontal".toList] := rfl
      have named : Orientation.ofToken? "horizontal".toList = some .horizontal := rfl
      rw [word, List.singleton_append, ofTokens, named, readBack]

/--
Every layout is read back from its own text. So what is read from any text, once
written, is read again as the same layout.
-/
theorem parse_text_eq :
    (∀ layout : Layout, parse layout.text = layout) ∧
      ∀ text : String, parse (parse text).text = parse text := by
  have readBack (layout : Layout) : parse layout.text = layout := by
    rw [parse, text, String.toList_ofList, ofTokens_tokens_characters]
  exact ⟨readBack, fun text => readBack (parse text)⟩

example : (parse " Vertical( 01M ,x2)").text = "vertical[1m,0]" := by
  decide

end Layout

end PlotBoard
