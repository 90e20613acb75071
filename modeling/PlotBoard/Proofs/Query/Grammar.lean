import Mathlib.Data.List.Forall2
import PlotBoard.Proofs.Query.RoundTrip

namespace PlotBoard

/-!
# The grammar of draw expressions

A text is an expression exactly when its parentheses are equally many and it is
spelled as a name, at most three groups with other text after each of them, or
four groups and any text. The indices are literals between the commas of the
second group. What stands between groups, or after the fourth one, has no meaning.
-/

namespace Expression

/-- A projection clause is empty, or a literal of an index stands between any two commas. -/
def Lists (clause : List Char) (indices : List UInt64) : Prop :=
  (clause = [] ∧ indices = []) ∨
    (clause ≠ [] ∧
      List.Forall₂ (fun piece index => Literal.Spells (Text.trim piece) index)
        (clause.splitOn ',') indices)

theorem index?_eq_ok_iff
    {piece : List Char}
    {index : UInt64} :
    index? piece = .ok index ↔ Literal.Spells (Text.trim piece) index := by
  rw [← Literal.natural?_eq_some_iff, index?]
  cases Literal.natural? (Text.trim piece) <;> simp

/-- Pieces are read one by one. -/
theorem mapM_index?_eq_ok_iff
    {pieces : List (List Char)}
    {indices : List UInt64} :
    pieces.mapM index? = .ok indices ↔
      List.Forall₂ (fun piece index => index? piece = .ok index) pieces indices := by
  induction pieces generalizing indices with
  | nil => cases indices <;> simp [pure, Except.pure]
  | cons piece pieces inductionHypothesis =>
      rw [List.mapM_cons]
      cases first : index? piece with
      | error fault => cases indices <;> simp [bind, Except.bind, first]
      | ok index =>
          cases others : pieces.mapM index? with
          | error fault =>
              cases indices <;> simp [bind, Except.bind, ← inductionHypothesis, others, first]
          | ok rest =>
              cases indices <;>
                simp [bind, Except.bind, pure, Except.pure, ← inductionHypothesis, others, first]

/-- Exactly the lists of indices are read as projection clauses. -/
theorem indices?_eq_ok_iff
    {clause : List Char}
    {indices : List UInt64} :
    indices? clause = .ok indices ↔ Lists clause indices := by
  rw [indices?, Lists]
  split
  · next empty => simp [empty, eq_comm]
  · next filled =>
      simp [filled, mapM_index?_eq_ok_iff, index?_eq_ok_iff, Text.commaPieces_eq_splitOn]

/-- A group with the text after it, which holds no parentheses. -/
structure Group where
  inside : List Char
  after : List Char
  inside_nested : Nested inside
  after_between : Between after

/-- The characters of a group and of the text after it. -/
def Group.characters (group : Group) : List Char :=
  '(' :: (group.inside ++ ')' :: group.after)

/-- Reading groups takes the first ones and passes over the text around them. -/
theorem groups?_eq_some_iff
    {limit : Nat}
    {characters : List Char}
    {insides : List (List Char)} :
    groups? limit characters = some insides ↔
      ∃ (before : List Char) (groups : List Group) (beyond : List Char),
        characters = before ++ groups.flatMap Group.characters ++ beyond ∧
          Between before ∧
          ((groups.length < limit ∧ beyond = []) ∨ groups.length = limit) ∧
          groups.map Group.inside = insides := by
  induction limit generalizing characters insides with
  | zero =>
      rw [groups?, Option.some.injEq]
      constructor
      · rintro rfl
        exact ⟨[], [], characters, rfl, by simp [Between], Or.inr rfl, rfl⟩
      · rintro ⟨before, groups, beyond, -, -, counted, rfl⟩
        have none : groups.length = 0 := by
          rcases counted with ⟨impossible, -⟩ | exact
          · exact absurd impossible (Nat.not_lt_zero _)
          · exact exact
        rw [List.length_eq_zero_iff.mp none, List.map_nil]
  | succ limit inductionHypothesis =>
      rw [groups?_succ_eq_some_iff]
      constructor
      · rintro (⟨isBetween, rfl⟩ |
          ⟨before, inside, rest, later, rfl, isBetween, nested, readLater, rfl⟩)
        · exact ⟨characters, [], [], by simp, isBetween, Or.inl ⟨Nat.succ_pos _, rfl⟩, rfl⟩
        · obtain ⟨after, groups, beyond, rfl, afterBetween, counted, rfl⟩ :=
            inductionHypothesis.mp readLater
          refine
            ⟨before, ⟨inside, after, nested, afterBetween⟩ :: groups, beyond, ?_, isBetween,
              ?_, rfl⟩
          · simp [Group.characters]
          · simpa using counted
      · rintro ⟨before, groups, beyond, rfl, isBetween, counted, rfl⟩
        cases groups with
        | nil =>
            have nothing : beyond = [] := by
              rcases counted with ⟨-, nothing⟩ | impossible
              · exact nothing
              · cases impossible
            exact Or.inl ⟨by simpa [nothing] using isBetween, rfl⟩
        | cons group groups =>
            have laterRead :
                groups? limit (group.after ++ groups.flatMap Group.characters ++ beyond) =
                  some (groups.map Group.inside) :=
              inductionHypothesis.mpr
                ⟨group.after, groups, beyond, rfl, group.after_between, by simpa using counted,
                  rfl⟩
            refine Or.inr
              ⟨before, group.inside, _, groups.map Group.inside, ?_, isBetween,
                group.inside_nested, laterRead, rfl⟩
            simp [Group.characters]

/-- A name, groups, and what stands beyond the fourth group. -/
structure Spelling where
  name : List Char
  groups : List Group
  beyond : List Char
  name_never_opens : '(' ∉ name
  fits : (groups.length ≤ 3 ∧ beyond = []) ∨ groups.length = 4

namespace Spelling

/-- The groups and what stands beyond them. -/
def tail (spelling : Spelling) : List Char :=
  spelling.groups.flatMap Group.characters ++ spelling.beyond

/-- The spelled text. -/
def characters (spelling : Spelling) : List Char :=
  spelling.name ++ spelling.tail

/-- The trimmed group at a place, which is empty if there is no such group. -/
def clause (spelling : Spelling) (place : Nat) : List Char :=
  Text.trim ((spelling.groups[place]?.map Group.inside).getD [])

/-- There are as many opening as closing parentheses. -/
def Balanced (spelling : Spelling) : Prop :=
  spelling.characters.count '(' = spelling.characters.count ')'

/-- What a spelled text means. -/
structure Denotes (spelling : Spelling) (expression : Expression) : Prop where
  balanced : spelling.Balanced
  name_eq : expression.name.toList = Text.trim spelling.name
  range_eq : expression.range.toList = spelling.clause 0
  projection_listed : Lists (spelling.clause 1) expression.projection
  operation_eq : expression.operation.toList = spelling.clause 2
  option_eq : expression.option.toList = spelling.clause 3

/-- What follows the name is nothing or begins with a group. -/
theorem tail_eq_nil_or_opens (spelling : Spelling) :
    spelling.tail = [] ∨ ∃ rest, spelling.tail = '(' :: rest := by
  rw [tail]
  cases found : spelling.groups with
  | nil =>
      rcases spelling.fits with ⟨-, nothing⟩ | four
      · exact Or.inl (by rw [nothing, List.flatMap_nil, List.append_nil])
      · rw [found] at four
        cases four
  | cons group groups =>
      exact Or.inr ⟨_, by rw [List.flatMap_cons, Group.characters, List.cons_append,
        List.cons_append]⟩

theorem takeWhile_characters (spelling : Spelling) :
    spelling.characters.takeWhile (· ≠ '(') = spelling.name := by
  have neverOpens : ∀ character ∈ spelling.name, decide (character ≠ '(') = true := by
    intro character member
    apply decide_eq_true
    rintro rfl
    exact spelling.name_never_opens member
  rw [characters, List.takeWhile_append_of_pos neverOpens]
  rcases spelling.tail_eq_nil_or_opens with nothing | ⟨rest, opens⟩
  · rw [nothing, List.takeWhile_nil, List.append_nil]
  · simp [opens]

theorem dropWhile_characters (spelling : Spelling) :
    spelling.characters.dropWhile (· ≠ '(') = spelling.tail := by
  have split := List.takeWhile_append_dropWhile (p := (· ≠ '(')) (l := spelling.characters)
  rw [takeWhile_characters] at split
  exact List.append_cancel_left split

/-- The groups of a spelled text are read. -/
theorem groups?_tail (spelling : Spelling) :
    groups? clauseCount spelling.tail = some (spelling.groups.map Group.inside) := by
  have counted :
      (spelling.groups.length < clauseCount ∧ spelling.beyond = []) ∨
        spelling.groups.length = clauseCount :=
    spelling.fits.imp_left fun few => ⟨Nat.lt_succ_of_le few.1, few.2⟩
  exact groups?_eq_some_iff.mpr
    ⟨[], spelling.groups, spelling.beyond, rfl, by simp [Between], counted, rfl⟩

/-- A spelled text is read as what it means. -/
theorem ofChars_eq_ok_iff_denotes
    {spelling : Spelling}
    {expression : Expression} :
    ofChars spelling.characters = .ok expression ↔ spelling.Denotes expression := by
  have sameClause :
      ∀ place,
        Expression.clause (spelling.groups.map Group.inside) place = spelling.clause place := by
    intro place
    rw [Expression.clause, clause, List.getElem?_map]
  rw [ofChars_eq_ok_iff, takeWhile_characters, dropWhile_characters, groups?_tail]
  simp only [Option.some.injEq, exists_eq_left', sameClause, indices?_eq_ok_iff]
  constructor
  · rintro ⟨balanced, name, range, projection, operation, option⟩
    exact ⟨balanced, name, range, projection, operation, option⟩
  · intro denotes
    exact
      ⟨denotes.balanced, denotes.name_eq, denotes.range_eq, denotes.projection_listed,
        denotes.operation_eq, denotes.option_eq⟩

/-- Texts whose names and groups agree mean the same when both are balanced. -/
theorem denotes_iff_of_same_groups
    {first second : Spelling}
    (sameName : first.name = second.name)
    (sameGroups : first.groups.map Group.inside = second.groups.map Group.inside)
    (sameBalance : first.Balanced ↔ second.Balanced)
    (expression : Expression) :
    first.Denotes expression ↔ second.Denotes expression := by
  have sameClause : ∀ place, first.clause place = second.clause place := by
    intro place
    rw [clause, clause, ← List.getElem?_map, ← List.getElem?_map, sameGroups]
  constructor
  · rintro ⟨balanced, name, range, projection, operation, option⟩
    simp only [sameName, sameClause] at name range projection operation option
    exact ⟨sameBalance.mp balanced, name, range, projection, operation, option⟩
  · rintro ⟨balanced, name, range, projection, operation, option⟩
    simp only [← sameName, ← sameClause] at name range projection operation option
    exact ⟨sameBalance.mpr balanced, name, range, projection, operation, option⟩

/-- Groups open as many parentheses as they close. -/
theorem settled_groups (groups : List Group) :
    (groups.flatMap Group.characters).count '(' = (groups.flatMap Group.characters).count ')' := by
  induction groups with
  | nil => rfl
  | cons group groups inductionHypothesis =>
      have inside := group.inside_nested.settled
      have after := (nested_of_between group.after_between).settled
      simp [Group.characters, List.count_append, inside, after, inductionHypothesis]
      omega

/-- Whether a text is balanced depends on its name and on what stands beyond its groups. -/
theorem balanced_iff {spelling : Spelling} :
    spelling.Balanced ↔
      (spelling.name ++ spelling.beyond).count '(' =
        (spelling.name ++ spelling.beyond).count ')' := by
  have settled := settled_groups spelling.groups
  simp only [Balanced, characters, tail, List.count_append]
  omega

end Spelling

/-- A text that is read has a spelling. -/
theorem exists_spelling_of_ofChars_eq_ok
    {characters : List Char}
    {expression : Expression}
    (read : ofChars characters = .ok expression) :
    ∃ spelling : Spelling, spelling.characters = characters := by
  obtain ⟨-, insides, groupsRead, -⟩ := ofChars_eq_ok_iff.mp read
  obtain ⟨before, groups, beyond, tail, isBetween, counted, -⟩ :=
    groups?_eq_some_iff.mp groupsRead
  -- What follows the name begins with a parenthesis, so that no other text comes before it.
  have nothingBefore : before = [] := by
    cases before with
    | nil => rfl
    | cons character rest =>
        have opens :=
          List.head?_dropWhile_not (fun character => decide (character ≠ '(')) characters
        rw [tail] at opens
        exact absurd (by simpa using opens) (isBetween character (by simp)).1
  subst nothingBefore
  have neverOpens : '(' ∉ characters.takeWhile (· ≠ '(') := by
    intro member
    have notOpening := List.mem_takeWhile_imp member
    simp at notOpening
  refine
    ⟨{ name := characters.takeWhile (· ≠ '(')
       groups := groups
       beyond := beyond
       name_never_opens := neverOpens
       fits := counted.imp_left fun few => ⟨Nat.le_of_lt_succ few.1, few.2⟩ }, ?_⟩
  rw [Spelling.characters, Spelling.tail, ← List.nil_append (groups.flatMap _), ← tail]
  exact List.takeWhile_append_dropWhile

/-- Reading succeeds with what a spelling of the text means. -/
theorem parse_eq_ok_iff_exists_spelling
    {text : String}
    {expression : Expression} :
    parse text = .ok expression ↔
      ∃ spelling : Spelling,
        spelling.characters = text.toList ∧ spelling.Denotes expression := by
  rw [parse_eq_ok_iff]
  constructor
  · intro read
    obtain ⟨spelling, same⟩ := exists_spelling_of_ofChars_eq_ok read
    rw [← same] at read
    exact ⟨spelling, same, Spelling.ofChars_eq_ok_iff_denotes.mp read⟩
  · rintro ⟨spelling, same, denotes⟩
    rw [← same]
    exact Spelling.ofChars_eq_ok_iff_denotes.mpr denotes

/-- A text whose spellings mean nothing is reported as malformed. -/
theorem exists_reason_of_no_spelling
    {text : String}
    (meaningless :
      ∀ spelling : Spelling,
        spelling.characters = text.toList →
        ∀ expression, ¬spelling.Denotes expression) :
    ∃ reason, parse text = .error (.malformedExpression text reason) := by
  cases outcome : parse text with
  | error error =>
      obtain ⟨reason, rfl⟩ := exists_reason_of_parse_eq_error outcome
      exact ⟨reason, rfl⟩
  | ok expression =>
      obtain ⟨spelling, same, denotes⟩ := parse_eq_ok_iff_exists_spelling.mp outcome
      exact absurd denotes (meaningless spelling same expression)

/-- Texts with one name and the same groups are read alike when both or neither are balanced. -/
theorem parse_eq_ok_iff_of_same_groups
    {text changed : String}
    {spelling other : Spelling}
    (isText : spelling.characters = text.toList)
    (isChanged : other.characters = changed.toList)
    (sameName : other.name = spelling.name)
    (sameGroups : other.groups.map Group.inside = spelling.groups.map Group.inside)
    (sameBalance : other.Balanced ↔ spelling.Balanced)
    (expression : Expression) :
    parse changed = .ok expression ↔ parse text = .ok expression := by
  rw [parse_eq_ok_iff, parse_eq_ok_iff, ← isText, ← isChanged,
    Spelling.ofChars_eq_ok_iff_denotes, Spelling.ofChars_eq_ok_iff_denotes]
  exact Spelling.denotes_iff_of_same_groups sameName sameGroups sameBalance expression

/--
A text is read as an expression exactly when it has a spelling that means the
expression: a name, groups and, after a fourth group, any text, with as many opening
as closing parentheses. Every other text is reported as malformed. Text between the
groups never matters, and text after the fourth group only as far as it keeps the
numbers of parentheses equal.
-/
theorem parse_accepts_spellings
    (text : String) :
    (∀ expression,
      parse text = .ok expression ↔
        ∃ spelling : Spelling,
          spelling.characters = text.toList ∧ spelling.Denotes expression) ∧
      ((∀ spelling : Spelling,
          spelling.characters = text.toList →
          ∀ expression, ¬spelling.Denotes expression) →
        ∃ reason, parse text = .error (.malformedExpression text reason)) ∧
      ∀ (spelling other : Spelling) (changed : String),
        spelling.characters = text.toList →
        other.characters = changed.toList →
        other.name = spelling.name →
        other.groups.map Group.inside = spelling.groups.map Group.inside →
        (other.beyond = spelling.beyond ∨ (other.Balanced ∧ spelling.Balanced)) →
        ∀ expression, parse changed = .ok expression ↔ parse text = .ok expression := by
  refine ⟨fun _ => parse_eq_ok_iff_exists_spelling, exists_reason_of_no_spelling, ?_⟩
  intro spelling other changed isText isChanged sameName sameGroups beyond
  have sameBalance : other.Balanced ↔ spelling.Balanced := by
    rcases beyond with sameBeyond | ⟨otherBalanced, balanced⟩
    · rw [Spelling.balanced_iff, Spelling.balanced_iff, sameName, sameBeyond]
    · exact iff_of_true otherBalanced balanced
  exact parse_eq_ok_iff_of_same_groups isText isChanged sameName sameGroups sameBalance

end Expression

end PlotBoard
