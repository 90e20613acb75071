import PlotBoard.Proofs.Text.Trimming
import PlotBoard.Query.Range

namespace PlotBoard

/-!
# Bounds of a range clause

A text holds a range clause exactly when it has one comma, with an integer on each
side of it, or with a number on each side of which at least one is written with a
decimal point. Blanks around the text and around the bounds have no meaning.
-/

namespace Text

theorem commaPieces_of_not_mem
    {characters : List Char}
    (commaFree : ',' ∉ characters) :
    commaPieces characters = [characters] := by
  have noSeparator : ∀ character ∈ characters, (character == ',') = false := by
    intro character member
    exact beq_false_of_ne fun isComma => commaFree (isComma ▸ member)
  rw [commaPieces, pieces_eq_splitOnP, List.splitOnP_eq_singleton noSeparator]

/-- At a comma the pieces before it and the pieces after it are apart. -/
theorem commaPieces_append_comma (front rest : List Char) :
    commaPieces (front ++ ',' :: rest) = commaPieces front ++ commaPieces rest := by
  simp only [commaPieces, pieces_eq_splitOnP]
  exact List.splitOnP_append_cons front rest (by decide)

theorem comma_not_mem_of_blank
    {characters : List Char}
    (allBlank : ∀ character ∈ characters, isBlank character = true) :
    ',' ∉ characters := by
  intro member
  exact absurd (allBlank ',' member) (by decide)

/-- Blanks before a text are trimmed away with those before its first piece. -/
theorem map_trim_commaPieces_append_left
    {leading : List Char}
    (leadingBlank : ∀ character ∈ leading, isBlank character = true)
    (characters : List Char) :
    (commaPieces (leading ++ characters)).map trim = (commaPieces characters).map trim := by
  have leadingFree := comma_not_mem_of_blank leadingBlank
  have sameTrim (piece : List Char) : trim (leading ++ piece) = trim piece := by
    have nothingAfter : ∀ character ∈ ([] : List Char), isBlank character = true := nofun
    simpa using trim_append_of_blank leadingBlank nothingAfter piece
  by_cases hasComma : ',' ∈ characters
  · obtain ⟨first, rest, rfl, firstFree⟩ := List.eq_append_cons_of_mem hasComma
    rw [← List.append_assoc, commaPieces_append_comma, commaPieces_append_comma,
      commaPieces_of_not_mem (List.not_mem_append leadingFree firstFree),
      commaPieces_of_not_mem firstFree, List.map_append, List.map_append, List.map_singleton,
      List.map_singleton, sameTrim]
  · rw [commaPieces_of_not_mem (List.not_mem_append leadingFree hasComma),
      commaPieces_of_not_mem hasComma, List.map_singleton, List.map_singleton, sameTrim]

/-- Blanks after a text are trimmed away with those after its last piece. -/
theorem map_trim_commaPieces_append_right
    {trailing : List Char}
    (trailingBlank : ∀ character ∈ trailing, isBlank character = true)
    (characters : List Char) :
    (commaPieces (characters ++ trailing)).map trim = (commaPieces characters).map trim := by
  have trailingFree := comma_not_mem_of_blank trailingBlank
  have sameTrim (piece : List Char) : trim (piece ++ trailing) = trim piece := by
    have nothingBefore : ∀ character ∈ ([] : List Char), isBlank character = true := nofun
    simpa using trim_append_of_blank nothingBefore trailingBlank piece
  by_cases hasComma : ',' ∈ characters
  · -- The last comma is the first one from behind.
    obtain ⟨turnedLast, turnedFront, turned, lastFree⟩ :=
      List.eq_append_cons_of_mem (List.mem_reverse.mpr hasComma)
    obtain ⟨front, last, rfl, lastFree⟩ :
        ∃ front last, characters = front ++ ',' :: last ∧ ',' ∉ last :=
      ⟨turnedFront.reverse, turnedLast.reverse,
        (List.reverse_eq_iff.mp turned).trans (by simp), by simpa using lastFree⟩
    rw [List.append_assoc, List.cons_append, commaPieces_append_comma, commaPieces_append_comma,
      commaPieces_of_not_mem (List.not_mem_append lastFree trailingFree),
      commaPieces_of_not_mem lastFree, List.map_append, List.map_append, List.map_singleton,
      List.map_singleton, sameTrim]
  · rw [commaPieces_of_not_mem (List.not_mem_append hasComma trailingFree),
      commaPieces_of_not_mem hasComma, List.map_singleton, List.map_singleton, sameTrim]

/-- The blanks that are trimmed from a text would be trimmed from its pieces. -/
theorem map_trim_commaPieces_trim (characters : List Char) :
    (commaPieces (trim characters)).map trim = (commaPieces characters).map trim := by
  obtain ⟨leading, trailing, split, leadingBlank, trailingBlank⟩ := exists_blank_ends characters
  calc
    (commaPieces (trim characters)).map trim =
        (commaPieces (leading ++ trim characters)).map trim :=
      (map_trim_commaPieces_append_left leadingBlank _).symm
    _ = (commaPieces (leading ++ trim characters ++ trailing)).map trim :=
      (map_trim_commaPieces_append_right trailingBlank _).symm
    _ = (commaPieces characters).map trim := by rw [← split]

/-- A text with one comma is cut into the texts on both sides of it. -/
theorem map_trim_commaPieces_of_split
    {low high : List Char}
    (lowFree : ',' ∉ low)
    (highFree : ',' ∉ high) :
    (commaPieces (trim (low ++ ',' :: high))).map trim = [trim low, trim high] := by
  rw [map_trim_commaPieces_trim, commaPieces_append_comma, commaPieces_of_not_mem lowFree,
    commaPieces_of_not_mem highFree]
  rfl

/-- Two bounds come out of a text with one comma only. -/
theorem exists_split_of_map_trim_commaPieces
    {characters lowBound highBound : List Char}
    (cut : (commaPieces (trim characters)).map trim = [lowBound, highBound]) :
    ∃ low high,
      characters = low ++ ',' :: high ∧
        ',' ∉ low ∧
        ',' ∉ high ∧
        lowBound = trim low ∧
        highBound = trim high := by
  have oneComma : characters.count ',' = 1 := by
    have lengths := congrArg List.length cut
    rw [List.length_map, commaPieces, length_pieces, List.length_cons,
      List.length_singleton] at lengths
    rw [← count_trim (by decide), List.count]
    exact Nat.add_right_cancel lengths
  have someComma : 0 < characters.count ',' := oneComma ▸ Nat.one_pos
  obtain ⟨low, high, rfl⟩ := List.append_of_mem (List.count_pos_iff.mp someComma)
  rw [List.count_append, List.count_cons_self] at oneComma
  have lowFree : ',' ∉ low := List.count_eq_zero.mp (by omega)
  have highFree : ',' ∉ high := List.count_eq_zero.mp (by omega)
  rw [map_trim_commaPieces_of_split lowFree highFree] at cut
  obtain ⟨sameLow, rest⟩ := List.cons.inj cut
  exact ⟨low, high, rfl, lowFree, highFree, sameLow.symm, (List.cons.inj rest).1.symm⟩

end Text

namespace RangeClause

variable {K : Type}

theorem bins?_eq_some_iff
    {low high : List Char}
    {clause : RangeClause K} :
    bins? low high = some clause ↔
      ∃ first last,
        Literal.integer? low = some first ∧
          Literal.integer? high = some last ∧
          clause = .bins first.toNat last.toNat := by
  rw [bins?]
  cases Literal.integer? low <;> cases Literal.integer? high <;> simp [eq_comm]

variable [ReadsLiterals K]

theorem coordinates?_eq_some_iff
    {low high : List Char}
    {clause : RangeClause K} :
    coordinates? low high = some clause ↔
      ∃ lowest highest,
        coordinate? low = some lowest ∧
          coordinate? high = some highest ∧
          clause = .coordinates lowest highest := by
  rw [coordinates?]
  cases (coordinate? low : Option K) <;> cases (coordinate? high : Option K) <;> simp [eq_comm]

theorem ofChars?_eq_some_iff
    {characters : List Char}
    {clause : RangeClause K} :
    ofChars? characters = some clause ↔
      ∃ low high,
        (Text.commaPieces characters).map Text.trim = [low, high] ∧
          ofBounds? low high = some clause := by
  rw [ofChars?]
  split
  · next low high cut => simp [cut]
  · next notTwo =>
      simp only [reduceCtorEq, false_iff]
      rintro ⟨low, high, cut, -⟩
      exact notTwo low high cut

/-- A text that holds a clause is not blank, so the clause is read from its trimmed characters. -/
theorem parse_eq_ok_some_iff
    {text : String}
    {clause : RangeClause K} :
    parse text = .ok (some clause) ↔ ofChars? (Text.trim text.toList) = some clause := by
  by_cases blank : Text.trim text.toList = []
  · simp [parse, blank, ofChars?, Text.commaPieces, Text.pieces]
  · simp only [parse, if_neg blank]
    cases (ofChars? (Text.trim text.toList) : Option (RangeClause K)) <;> simp

end RangeClause

variable {K : Type}

/-- The two bounds of a range clause as the numbers that are written. -/
inductive WrittenBounds (K : Type) where
  | integers (first last : Int)
  | coordinates (lowest highest : K)

namespace WrittenBounds

/-- The clause with these bounds. -/
def clause : WrittenBounds K → RangeClause K
  | .integers first last => .bins first.toNat last.toNat
  | .coordinates lowest highest => .coordinates lowest highest

/--
The bounds stand around the only comma of the text: as integers if neither is
written with a decimal point, and as coordinates otherwise.
-/
inductive WrittenIn [ReadsLiterals K] (text : String) : WrittenBounds K → Prop where
  | integers
      {low high : List Char}
      {first last : Int}
      (split : text.toList = low ++ ',' :: high)
      (lowFree : ',' ∉ low)
      (highFree : ',' ∉ high)
      (noPoint : ¬('.' ∈ Text.trim low ∨ '.' ∈ Text.trim high))
      (firstRead : Literal.integer? (Text.trim low) = some first)
      (lastRead : Literal.integer? (Text.trim high) = some last) :
      WrittenIn text (.integers first last)
  | coordinates
      {low high : List Char}
      {lowest highest : K}
      (split : text.toList = low ++ ',' :: high)
      (lowFree : ',' ∉ low)
      (highFree : ',' ∉ high)
      (point : '.' ∈ Text.trim low ∨ '.' ∈ Text.trim high)
      (lowestRead : RangeClause.coordinate? (Text.trim low) = some lowest)
      (highestRead : RangeClause.coordinate? (Text.trim high) = some highest) :
      WrittenIn text (.coordinates lowest highest)

variable [ReadsLiterals K]

/-- A text that is written with bounds holds the clause with these bounds. -/
theorem WrittenIn.parse_eq
    {text : String}
    {bounds : WrittenBounds K}
    (written : bounds.WrittenIn text) :
    RangeClause.parse text = .ok (some bounds.clause) := by
  rw [RangeClause.parse_eq_ok_some_iff, RangeClause.ofChars?_eq_some_iff]
  cases written with
  | @integers low high first last split lowFree highFree noPoint firstRead lastRead =>
      refine ⟨Text.trim low, Text.trim high, ?_, ?_⟩
      · rw [split, Text.map_trim_commaPieces_of_split lowFree highFree]
      · rw [RangeClause.ofBounds?, if_neg noPoint, RangeClause.bins?_eq_some_iff]
        exact ⟨first, last, firstRead, lastRead, rfl⟩
  | @coordinates low high lowest highest split lowFree highFree point lowestRead highestRead =>
      refine ⟨Text.trim low, Text.trim high, ?_, ?_⟩
      · rw [split, Text.map_trim_commaPieces_of_split lowFree highFree]
      · rw [RangeClause.ofBounds?, if_pos point, RangeClause.coordinates?_eq_some_iff]
        exact ⟨lowest, highest, lowestRead, highestRead, rfl⟩

/-- Every clause that is read is written with bounds. -/
theorem parse_eq_ok_iff_writtenIn
    {text : String}
    {clause : RangeClause K} :
    RangeClause.parse text = .ok (some clause) ↔
      ∃ bounds : WrittenBounds K, bounds.WrittenIn text ∧ clause = bounds.clause := by
  constructor
  · intro read
    rw [RangeClause.parse_eq_ok_some_iff, RangeClause.ofChars?_eq_some_iff] at read
    obtain ⟨lowBound, highBound, cut, ofBounds⟩ := read
    obtain ⟨low, high, split, lowFree, highFree, rfl, rfl⟩ :=
      Text.exists_split_of_map_trim_commaPieces cut
    by_cases point : '.' ∈ Text.trim low ∨ '.' ∈ Text.trim high
    · rw [RangeClause.ofBounds?, if_pos point, RangeClause.coordinates?_eq_some_iff] at ofBounds
      obtain ⟨lowest, highest, lowestRead, highestRead, rfl⟩ := ofBounds
      exact
        ⟨.coordinates lowest highest,
          .coordinates split lowFree highFree point lowestRead highestRead, rfl⟩
    · rw [RangeClause.ofBounds?, if_neg point, RangeClause.bins?_eq_some_iff] at ofBounds
      obtain ⟨first, last, firstRead, lastRead, rfl⟩ := ofBounds
      exact
        ⟨.integers first last, .integers split lowFree highFree point firstRead lastRead, rfl⟩
  · rintro ⟨bounds, written, rfl⟩
    exact written.parse_eq

end WrittenBounds

end PlotBoard
