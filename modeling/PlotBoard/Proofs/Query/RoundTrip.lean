import PlotBoard.Proofs.Query.Indices

namespace PlotBoard.Expression

/-!
# Writing and reading expressions

An expression is read back from its own text exactly when its clauses are
trimmed and nested and its name is trimmed and free of parentheses. Whatever is
read has all of that but one thing: its name may hold a closing parenthesis,
which text after the fourth clause can make up for.
-/

/-- What every expression that is read looks like. -/
structure Regular (expression : Expression) : Prop where
  name_trimmed : Text.trimmed expression.name = expression.name
  range_trimmed : Text.trimmed expression.range = expression.range
  operation_trimmed : Text.trimmed expression.operation = expression.operation
  option_trimmed : Text.trimmed expression.option = expression.option
  name_never_opens : '(' ∉ expression.name.toList
  range_nested : Nested expression.range.toList
  operation_nested : Nested expression.operation.toList
  option_nested : Nested expression.option.toList

/-- What an expression looks like that is read back from its own text. -/
structure Readable (expression : Expression) : Prop extends Regular expression where
  name_never_closes : ')' ∉ expression.name.toList

/-- Reading succeeds with what the name and the first four groups of a balanced text say. -/
theorem ofChars_eq_ok_iff
    {characters : List Char}
    {expression : Expression} :
    ofChars characters = .ok expression ↔
      characters.count '(' = characters.count ')' ∧
        ∃ groups,
          groups? clauseCount (characters.dropWhile (· ≠ '(')) = some groups ∧
            expression.name.toList = Text.trim (characters.takeWhile (· ≠ '(')) ∧
            expression.range.toList = clause groups 0 ∧
            indices? (clause groups 1) = .ok expression.projection ∧
            expression.operation.toList = clause groups 2 ∧
            expression.option.toList = clause groups 3 := by
  by_cases balanced : characters.count '(' = characters.count ')'
  · have named :
        name? characters = .ok (Text.trim (characters.takeWhile (· ≠ '('))) := by
      simp [name?, balanced]
    simp only [ofChars, named, balanced, true_and]
    cases found : groups? clauseCount (characters.dropWhile (· ≠ '(')) with
    | none => simp
    | some groups =>
        simp only [Option.some.injEq, exists_eq_left', ofGroups]
        cases read : indices? (clause groups 1) with
        | error fault => simp [Except.map]
        | ok projection =>
            obtain ⟨name, range, indices, operation, option⟩ := expression
            simp only [Except.map, Except.ok.injEq, Expression.mk.injEq]
            constructor
            · rintro ⟨rfl, rfl, rfl, rfl, rfl⟩
              simp
            · rintro ⟨sameName, sameRange, sameIndices, sameOperation, sameOption⟩
              rw [← sameName, ← sameRange, ← sameOperation, ← sameOption]
              simpa using sameIndices
  · simp [ofChars, name?, balanced]

theorem parse_eq_ok_iff
    {text : String}
    {expression : Expression} :
    parse text = .ok expression ↔
      ofChars text.toList = .ok expression := by
  rw [parse]
  cases ofChars text.toList with
  | error fault => simp [Except.mapError]
  | ok read => simp [Except.mapError]

/-- Whatever is refused is reported with the text. -/
theorem exists_reason_of_parse_eq_error
    {text : String}
    {error : Error}
    (refused : parse text = .error error) :
    ∃ reason, error = .malformedExpression text reason := by
  rw [parse] at refused
  cases read : ofChars text.toList with
  | error fault =>
      rw [read] at refused
      exact ⟨fault.reason, (Except.error.inj refused).symm⟩
  | ok expression =>
      rw [read] at refused
      cases refused

/-- A clause is trimmed. -/
theorem trim_clause (groups : List (List Char)) (place : Nat) :
    Text.trim (clause groups place) = clause groups place :=
  Text.trim_trim _

/-- A clause of nested groups is nested. -/
theorem nested_clause
    {groups : List (List Char)}
    (allNested : ∀ group ∈ groups, Nested group)
    (place : Nat) :
    Nested (clause groups place) := by
  apply Nested.trim
  cases found : groups[place]? with
  | none => exact nested_of_between (by simp [Between])
  | some group => exact allNested group (List.mem_of_getElem? found)

/-- Everything that is read is regular. -/
theorem regular_of_parse
    {text : String}
    {expression : Expression}
    (accepted : parse text = .ok expression) :
    Regular expression := by
  obtain ⟨-, groups, read, name, range, -, operation, option⟩ :=
    ofChars_eq_ok_iff.mp (parse_eq_ok_iff.mp accepted)
  have allNested : ∀ group ∈ groups, Nested group :=
    fun _ member => nested_of_mem_groups? read member
  have trimmed_of
      {field : String}
      {place : Nat}
      (isClause : field.toList = clause groups place) :
      Text.trimmed field = field := by
    rw [Text.trimmed, isClause, trim_clause, ← isClause, String.ofList_toList]
  refine
    { name_trimmed := by
        rw [Text.trimmed, name, Text.trim_trim, ← name, String.ofList_toList]
      range_trimmed := trimmed_of range
      operation_trimmed := trimmed_of operation
      option_trimmed := trimmed_of option
      name_never_opens := ?_
      range_nested := range ▸ nested_clause allNested 0
      operation_nested := operation ▸ nested_clause allNested 2
      option_nested := option ▸ nested_clause allNested 3 }
  intro member
  rw [name] at member
  have before := List.mem_takeWhile_imp (Text.mem_of_mem_trim member)
  simp at before

/-- The characters of the clauses, each in parentheses. -/
def clauseCharacters (expression : Expression) : List Char :=
  '(' :: (expression.range.toList ++ ')' ::
    '(' :: (projectionText expression.projection ++ ')' ::
      '(' :: (expression.operation.toList ++ ')' ::
        '(' :: (expression.option.toList ++ ')' :: []))))

theorem characters_eq (expression : Expression) :
    expression.characters =
      expression.name.toList ++ expression.clauseCharacters := by
  simp [characters, clauseCharacters, parenthesized]

/-- The parentheses of a regular expression balance when none closes in its name. -/
theorem Regular.balanced_iff
    {expression : Expression}
    (regular : Regular expression) :
    expression.characters.count '(' = expression.characters.count ')' ↔
      ')' ∉ expression.name.toList := by
  have range := regular.range_nested.settled
  have projection := (nested_projectionText expression.projection).settled
  have operation := regular.operation_nested.settled
  have option := regular.option_nested.settled
  rw [← List.count_eq_zero, characters_eq, List.count_append, List.count_append,
    List.count_eq_zero.mpr regular.name_never_opens]
  simp [clauseCharacters, List.count_append, range, projection, operation, option]
  omega

/-- A readable expression is read back from its text. -/
theorem Readable.parse_text
    {expression : Expression}
    (readable : Readable expression) :
    parse expression.text = .ok expression := by
  have nameFree : ∀ character ∈ expression.name.toList, decide (character ≠ '(') = true := by
    intro character member
    apply decide_eq_true
    rintro rfl
    exact readable.name_never_opens member
  have trimmedChars
      {field : String}
      (trimmed : Text.trimmed field = field) :
      Text.trim field.toList = field.toList := by
    simpa using congrArg String.toList trimmed
  have read :
      groups? clauseCount expression.clauseCharacters =
        some
          [expression.range.toList, projectionText expression.projection,
            expression.operation.toList, expression.option.toList] := by
    rw [clauseCount, clauseCharacters,
      groups?_of_nested readable.range_nested,
      groups?_of_nested (nested_projectionText expression.projection),
      groups?_of_nested readable.operation_nested,
      groups?_of_nested readable.option_nested]
    rfl
  rw [parse_eq_ok_iff, text, String.toList_ofList, ofChars_eq_ok_iff]
  refine ⟨readable.toRegular.balanced_iff.mpr readable.name_never_closes, ?_⟩
  rw [characters_eq, List.dropWhile_append_of_pos nameFree,
    List.takeWhile_append_of_pos nameFree]
  refine ⟨_, read, ?_, ?_, ?_, ?_, ?_⟩
  · simp [clauseCharacters, trimmedChars readable.name_trimmed]
  · simp [clause, trimmedChars readable.range_trimmed]
  · simp [clause]
  · simp [clause, trimmedChars readable.operation_trimmed]
  · simp [clause, trimmedChars readable.option_trimmed]

/-- What is read back from its text is readable. -/
theorem readable_of_parse_text
    {expression : Expression}
    (accepted : parse expression.text = .ok expression) :
    Readable expression := by
  have regular := regular_of_parse accepted
  have balanced := (ofChars_eq_ok_iff.mp (parse_eq_ok_iff.mp accepted)).1
  rw [text, String.toList_ofList] at balanced
  exact ⟨regular, regular.balanced_iff.mp balanced⟩

/-- Exactly the readable expressions are read back from their own text. -/
theorem parse_text_eq_ok_iff (expression : Expression) :
    parse expression.text = .ok expression ↔ Readable expression :=
  ⟨readable_of_parse_text, Readable.parse_text⟩

/-- A regular expression whose name closes a parenthesis has an unbalanced text. -/
theorem Regular.parse_text_of_closing_name
    {expression : Expression}
    (regular : Regular expression)
    (closes : ')' ∈ expression.name.toList) :
    ∃ opened closed,
      parse expression.text =
        .error ((Fault.unbalanced opened closed).toError expression.text) := by
  have notBalanced :
      expression.characters.count '(' ≠ expression.characters.count ')' := by
    intro balanced
    exact regular.balanced_iff.mp balanced closes
  refine ⟨expression.characters.count '(', expression.characters.count ')', ?_⟩
  rw [parse]
  simp only [text, String.toList_ofList, ofChars, name?, if_neg notBalanced]
  rfl

/-- Trimming a name neither adds nor removes a closing parenthesis. -/
theorem closes_name_iff_of_parse
    {text : String}
    {expression : Expression}
    (accepted : parse text = .ok expression) :
    ')' ∈ expression.name.toList ↔ ')' ∈ text.toList.takeWhile (· ≠ '(') := by
  obtain ⟨-, groups, -, name, -⟩ :=
    ofChars_eq_ok_iff.mp (parse_eq_ok_iff.mp accepted)
  rw [name, ← List.count_pos_iff, Text.count_trim (by decide), List.count_pos_iff]

/--
What is read from a text is read back from its own text unless the text closes a
parenthesis before it opens the first one. In that case the text that is written
for the expression is unbalanced.
-/
theorem parse_text_iff_of_parse
    {text : String}
    {expression : Expression}
    (accepted : parse text = .ok expression) :
    (parse expression.text = .ok expression ↔
      ')' ∉ text.toList.takeWhile (· ≠ '(')) ∧
      (')' ∈ text.toList.takeWhile (· ≠ '(') →
        ∃ opened closed,
          parse expression.text =
            .error ((Fault.unbalanced opened closed).toError expression.text)) := by
  have regular := regular_of_parse accepted
  rw [← closes_name_iff_of_parse accepted]
  refine ⟨⟨?_, ?_⟩, regular.parse_text_of_closing_name⟩
  · intro readBack
    exact (readable_of_parse_text readBack).name_never_closes
  · intro neverCloses
    exact Readable.parse_text ⟨regular, neverCloses⟩

/-- A closing parenthesis in the name, made up for after the fourth group, is not read back. -/
theorem parse_text_ne_ok_of_closing_name :
    parse "a)(r)(0)(o)(p)(" = .ok ⟨"a)", "r", [0], "o", "p"⟩ ∧
      parse (text ⟨"a)", "r", [0], "o", "p"⟩) ≠ .ok ⟨"a)", "r", [0], "o", "p"⟩ := by
  have accepted : parse "a)(r)(0)(o)(p)(" = .ok ⟨"a)", "r", [0], "o", "p"⟩ := by
    rfl
  refine ⟨accepted, ?_⟩
  rw [Ne, (parse_text_iff_of_parse accepted).1]
  decide

end PlotBoard.Expression
