import PlotBoard.Proofs.Number.Lists
import PlotBoard.Proofs.Number.NotANumber
import PlotBoard.Proofs.Number.SignedLiterals
import PlotBoard.Proofs.Query.Bounds
import PlotBoard.Proofs.Query.Precedence
import PlotBoard.Proofs.Query.Restriction

namespace PlotBoard

/-!
# What range clauses say

A range clause is two bounds around a comma. The spelling of the bounds decides what
they are: literals of reals as soon as one of them has a decimal point, and literals of
integers otherwise. A text that is neither blank nor such a clause is refused. Applying
a clause restricts the first axis of a histogram, and nothing else happens to it.
-/

namespace RangeClause

/-- What a range clause with coordinates in binary numbers is written as. -/
inductive SpelledBy (text : String) : RangeClause Float → Prop
  | bins
      {low high : List Char}
      {first last : Int}
      (split : text.toList = low ++ ',' :: high)
      (lowFree : ',' ∉ low)
      (highFree : ',' ∉ high)
      (noPoint : '.' ∉ Text.trim low ∧ '.' ∉ Text.trim high)
      (firstSpelled : SpellsInteger first (Text.trim low))
      (firstFits : -(Literal.signedBound : Int) ≤ first ∧ first < Literal.signedBound)
      (lastSpelled : SpellsInteger last (Text.trim high))
      (lastFits : -(Literal.signedBound : Int) ≤ last ∧ last < Literal.signedBound) :
      SpelledBy text (.bins first.toNat last.toNat)
  | coordinates
      {low high : List Char}
      {lowest highest : RealLiteral}
      (split : text.toList = low ++ ',' :: high)
      (lowFree : ',' ∉ low)
      (highFree : ',' ∉ high)
      (point : '.' ∈ Text.trim low ∨ '.' ∈ Text.trim high)
      (lowestSpelled : lowest.SpelledBy (Text.trim low))
      (lowestIsNumber : lowest ≠ .notANumber)
      (highestSpelled : highest.SpelledBy (Text.trim high))
      (highestIsNumber : highest ≠ .notANumber) :
      SpelledBy text (.coordinates lowest.toFloat highest.toFloat)

/-- A coordinate is read from the literals of numbers. -/
theorem coordinate?_eq_some_iff
    {characters : List Char}
    {coordinate : Float} :
    coordinate? characters = some coordinate ↔
      ∃ literal : RealLiteral,
        literal.SpelledBy characters ∧
          literal ≠ .notANumber ∧
          literal.toFloat = coordinate := by
  simp only [← RealLiteral.ofChars?_eq_some_iff]
  rw [coordinate?]
  split
  · next notRead => simp [notRead]
  · next isNan => simp [isNan]
  · next literal notNan read =>
      rw [read, Option.some.injEq]
      constructor
      · rintro rfl
        exact ⟨literal, rfl, notNan, rfl⟩
      · rintro ⟨other, sameLiteral, -, rfl⟩
        obtain rfl := Option.some.inj sameLiteral
        rfl

/-- Exactly the clauses that are spelled are read. -/
theorem parse_eq_ok_some_iff_spelledBy
    {text : String}
    {clause : RangeClause Float} :
    parse text = .ok (some clause) ↔ clause.SpelledBy text := by
  rw [WrittenBounds.parse_eq_ok_iff_writtenIn]
  constructor
  · rintro ⟨bounds, written, rfl⟩
    cases written with
    | integers split lowFree highFree noPoint firstRead lastRead =>
        obtain ⟨firstSpelled, firstFits⟩ := Literal.integer?_eq_some_iff.mp firstRead
        obtain ⟨lastSpelled, lastFits⟩ := Literal.integer?_eq_some_iff.mp lastRead
        exact
          .bins split lowFree highFree (not_or.mp noPoint) firstSpelled firstFits lastSpelled
            lastFits
    | coordinates split lowFree highFree point lowestRead highestRead =>
        obtain ⟨lowest, lowestSpelled, lowestIsNumber, rfl⟩ :=
          coordinate?_eq_some_iff.mp lowestRead
        obtain ⟨highest, highestSpelled, highestIsNumber, rfl⟩ :=
          coordinate?_eq_some_iff.mp highestRead
        exact
          .coordinates split lowFree highFree point lowestSpelled lowestIsNumber highestSpelled
            highestIsNumber
  · intro spelled
    cases spelled with
    | bins split lowFree highFree noPoint firstSpelled firstFits lastSpelled lastFits =>
        have firstRead := Literal.integer?_eq_some_iff.mpr ⟨firstSpelled, firstFits⟩
        have lastRead := Literal.integer?_eq_some_iff.mpr ⟨lastSpelled, lastFits⟩
        exact
          ⟨.integers _ _,
            .integers split lowFree highFree (not_or.mpr noPoint) firstRead lastRead, rfl⟩
    | coordinates split lowFree highFree point lowestSpelled lowestIsNumber highestSpelled
        highestIsNumber =>
        have lowestRead :=
          coordinate?_eq_some_iff.mpr ⟨_, lowestSpelled, lowestIsNumber, rfl⟩
        have highestRead :=
          coordinate?_eq_some_iff.mpr ⟨_, highestSpelled, highestIsNumber, rfl⟩
        exact
          ⟨.coordinates _ _,
            .coordinates split lowFree highFree point lowestRead highestRead, rfl⟩

/-- Only a blank text holds no clause and is accepted. -/
theorem parse_eq_ok_none_iff {text : String} :
    parse text = .ok (none : Option (RangeClause Float)) ↔
      ∀ character ∈ text.toList, Text.isBlank character = true := by
  rw [← Text.trim_eq_nil_iff]
  by_cases blank : Text.trim text.toList = []
  · simp [parse, blank]
  · simp only [parse, blank, iff_false]
    cases (ofChars? (Text.trim text.toList) : Option (RangeClause Float)) with
    | none => simp
    | some clause => simp

/-- Every other text is refused, with its trimmed characters. -/
theorem parse_eq_error
    {text : String}
    (notBlank : ¬∀ character ∈ text.toList, Text.isBlank character = true)
    (notSpelled : ∀ clause : RangeClause Float, ¬clause.SpelledBy text) :
    RangeClause.parse (K := Float) text = .error (.invalidRange (Text.trimmed text)) := by
  apply parse_of_not_readable
  rintro (blank | ⟨clause, read⟩)
  · exact notBlank (Text.trim_eq_nil_iff.mp blank)
  · exact notSpelled clause
      (parse_eq_ok_some_iff_spelledBy.mp (parse_eq_ok_some_iff.mpr read))

theorem isNaN_of_spelledBy
    {text : String}
    {lowest highest : Float}
    (spelled : (RangeClause.coordinates lowest highest).SpelledBy text) :
    lowest.isNaN = false ∧ highest.isNaN = false := by
  cases spelled with
  | coordinates split lowFree highFree point lowestSpelled lowestIsNumber highestSpelled
      highestIsNumber =>
      rw [← Bool.not_eq_true, ← Bool.not_eq_true, RealLiteral.isNaN_toFloat_iff,
        RealLiteral.isNaN_toFloat_iff]
      exact ⟨lowestIsNumber, highestIsNumber⟩

/-- A text is blank when its only piece is blank. -/
theorem trim_eq_nil_iff_pieces {characters : List Char} :
    Text.trim characters = [] ↔
      (Text.commaPieces characters).map Text.trim = [[]] := by
  rw [← Text.map_trim_commaPieces_trim]
  constructor
  · intro blank
    rw [blank]
    rfl
  · intro onePiece
    by_cases hasComma : ',' ∈ Text.trim characters
    · obtain ⟨front, rest, split⟩ := List.append_of_mem hasComma
      rw [split, Text.commaPieces_append_comma] at onePiece
      have pieceCount := congrArg List.length onePiece
      have someFront := List.length_pos_iff.mpr (Text.pieces_ne_nil (· == ',') front)
      have someRest := List.length_pos_iff.mpr (Text.pieces_ne_nil (· == ',') rest)
      rw [List.length_map, List.length_append, List.length_singleton] at pieceCount
      rw [← Text.commaPieces] at someFront someRest
      omega
    · rw [Text.commaPieces_of_not_mem hasComma, List.map_singleton, Text.trim_trim] at onePiece
      exact (List.cons.inj onePiece).1

/-- Blanks around the bounds and around the whole text change nothing of what is read. -/
theorem parse_eq_ok_iff_of_same_bounds
    {text other : String}
    (sameBounds :
      (Text.commaPieces text.toList).map Text.trim =
        (Text.commaPieces other.toList).map Text.trim)
    (result : Option (RangeClause Float)) :
    parse text = .ok result ↔ parse other = .ok result := by
  cases result with
  | none =>
      rw [parse_eq_ok_none_iff, parse_eq_ok_none_iff, ← Text.trim_eq_nil_iff,
        ← Text.trim_eq_nil_iff, trim_eq_nil_iff_pieces, trim_eq_nil_iff_pieces, sameBounds]
  | some clause =>
      simp only [parse_eq_ok_some_iff, ofChars?, Text.map_trim_commaPieces_trim, sameBounds]

/-- The digits of two bins with a comma between them spell the clause with these bins. -/
theorem spelledBy_bins
    {first last : Nat}
    (firstFits : first < Literal.signedBound)
    (lastFits : last < Literal.signedBound) :
    (RangeClause.bins first last).SpelledBy (toString first ++ "," ++ toString last) := by
  have spelled (number : Nat) : SpellsInteger number (Text.trim (Nat.toDigits 10 number)) := by
    rw [Text.trim_toDigits]
    exact spellsInteger_toDigits number
  have fits {number : Nat} (below : number < Literal.signedBound) :
      -(Literal.signedBound : Int) ≤ number ∧ (number : Int) < Literal.signedBound := by
    omega
  have split :
      (toString first ++ "," ++ toString last).toList =
        Nat.toDigits 10 first ++ ',' :: Nat.toDigits 10 last := by
    simp
  have noPoint (number : Nat) : '.' ∉ Text.trim (Nat.toDigits 10 number) := by
    rw [Text.trim_toDigits]
    exact Literal.not_mem_toDigits rfl number
  exact
    .bins split (Literal.not_mem_toDigits rfl first) (Literal.not_mem_toDigits rfl last)
      ⟨noPoint first, noPoint last⟩ (spelled first) (fits firstFits) (spelled last) (fits lastFits)

end RangeClause

variable {K C : Type} [Scalar K]

/-- Of an axis nothing differs but which bins are active. -/
structure Axis.SameButSelection (before after : Axis K) : Prop where
  edges_eq : after.edges = before.edges
  name_eq : after.name = before.name
  title_eq : after.title = before.title
  style_eq : after.style = before.style

theorem RangeClause.sameButSelection_restrict
    (clause : RangeClause K)
    (axis : Axis K) :
    axis.SameButSelection (clause.restrict axis) := by
  cases clause <;> exact ⟨rfl, rfl, rfl, rfl⟩

namespace Histogram

/-- Of a histogram nothing differs but which bins are active on the first axis. -/
structure FirstRestricted
    (clause : RangeClause K)
    (before after : Histogram K C) :
    Prop where
  name_eq : after.name = before.name
  title_eq : after.title = before.title
  entries_eq : after.entries = before.entries
  contents_eq : after.contents = before.contents
  axes_eq :
    ∃ first others,
      before.axes = first :: others ∧
        after.axes = clause.restrict first :: others ∧
        first.SameButSelection (clause.restrict first)

theorem firstRestricted_restrictAxis
    (histogram : Histogram K C)
    (clause : RangeClause K) :
    FirstRestricted clause histogram (histogram.restrictAxis 0 (some clause)) := by
  obtain ⟨name, title, entries⟩ := histogram.sameButAxes_restrictAxis 0 (some clause)
  obtain ⟨first, others, axesSplit⟩ := List.exists_cons_of_ne_nil histogram.axes_ne_nil
  refine
    { name_eq := name
      title_eq := title
      entries_eq := entries
      contents_eq := histogram.contents_restrictAxis (some clause)
      axes_eq := ⟨first, others, axesSplit, ?_, clause.sameButSelection_restrict first⟩ }
  rw [axes_restrictAxis, axesSplit, List.modify_zero_cons]
  rfl

/-- The histogram after a range clause was applied to it; a refused one leaves it as it is. -/
def afterRange
    [ReadsLiterals K]
    (histogram : Histogram K C)
    (text : String) :
    Histogram K C :=
  match histogram.applyRange text with
  | .ok (_, restricted) => restricted
  | .error _ => histogram

theorem applyRange_of_parse
    [ReadsLiterals K]
    {text : String}
    {clause : Option (RangeClause K)}
    (read : RangeClause.parse text = .ok clause)
    (histogram : Histogram K C) :
    histogram.applyRange text = .ok (clause, histogram.restrictAxis 0 clause) ∧
      histogram.afterRange text = histogram.restrictAxis 0 clause := by
  have applied :
      histogram.applyRange text = .ok (clause, histogram.restrictAxis 0 clause) := by
    rw [applyRange, read]
    rfl
  exact ⟨applied, by rw [afterRange, applied]⟩

/-- Without a clause in the text nothing happens to the histogram. -/
theorem afterRange_of_not_spelledBy
    {text : String}
    (notSpelled : ∀ clause : RangeClause Float, ¬clause.SpelledBy text)
    (histogram : Histogram Float C) :
    histogram.afterRange text = histogram := by
  cases read : RangeClause.parse (K := Float) text with
  | error error =>
      have refused : histogram.applyRange text = .error error := by
        rw [applyRange, read]
        rfl
      rw [afterRange, refused]
  | ok clause =>
      cases clause with
      | none => exact (applyRange_of_parse read histogram).2
      | some clause =>
          exact absurd (RangeClause.parse_eq_ok_some_iff_spelledBy.mp read) (notSpelled clause)

/--
A text holds no clause exactly when it is blank, and a clause exactly when it spells
one; any other text is refused, and reported without the blanks around it. Coordinates
that are read are numbers. Blanks around the text and around its bounds change nothing
of what is read, and two bins below half of the numbers of 64 bits are read back from
their digits.

A histogram to which a text is applied stays exactly as it is when the text is blank or
refused. When it is a clause, nothing changes but which bins of the first axis are
active.
-/
theorem applyRange_reads_clauses :
    (∀ text : String,
      (RangeClause.parse text = .ok (none : Option (RangeClause Float)) ↔
          ∀ character ∈ text.toList, Text.isBlank character = true) ∧
        (∀ clause : RangeClause Float,
          RangeClause.parse text = .ok (some clause) ↔ clause.SpelledBy text) ∧
        ((¬∀ character ∈ text.toList, Text.isBlank character = true) →
          (∀ clause : RangeClause Float, ¬clause.SpelledBy text) →
            RangeClause.parse (K := Float) text = .error (.invalidRange (Text.trimmed text))) ∧
        ∀ lowest highest : Float,
          RangeClause.parse text = .ok (some (.coordinates lowest highest)) →
            lowest.isNaN = false ∧ highest.isNaN = false) ∧
      (∀ text other : String,
        (Text.commaPieces text.toList).map Text.trim =
            (Text.commaPieces other.toList).map Text.trim →
          ∀ result : Option (RangeClause Float),
            RangeClause.parse text = .ok result ↔ RangeClause.parse other = .ok result) ∧
      (∀ first last : Nat,
        first < Literal.signedBound →
          last < Literal.signedBound →
            RangeClause.parse (toString first ++ "," ++ toString last) =
              .ok (some (.bins first last : RangeClause Float))) ∧
      ∀ (histogram : Histogram Float C) (text : String),
        (∀ clause : RangeClause Float,
          clause.SpelledBy text →
            histogram.applyRange text = .ok (some clause, histogram.afterRange text) ∧
              FirstRestricted clause histogram (histogram.afterRange text)) ∧
          ((∀ clause : RangeClause Float, ¬clause.SpelledBy text) →
            histogram.afterRange text = histogram) := by
  refine ⟨?reading, ?blanks, ?digits, ?applying⟩
  case reading =>
    intro text
    refine
      ⟨RangeClause.parse_eq_ok_none_iff, fun _ => RangeClause.parse_eq_ok_some_iff_spelledBy,
        RangeClause.parse_eq_error, ?_⟩
    intro lowest highest read
    exact RangeClause.isNaN_of_spelledBy (RangeClause.parse_eq_ok_some_iff_spelledBy.mp read)
  case blanks =>
    intro text other sameBounds result
    exact RangeClause.parse_eq_ok_iff_of_same_bounds sameBounds result
  case digits =>
    intro first last firstFits lastFits
    exact
      RangeClause.parse_eq_ok_some_iff_spelledBy.mpr
        (RangeClause.spelledBy_bins firstFits lastFits)
  case applying =>
    intro histogram text
    refine ⟨?_, fun notSpelled => afterRange_of_not_spelledBy notSpelled histogram⟩
    intro clause spelled
    have read := RangeClause.parse_eq_ok_some_iff_spelledBy.mpr spelled
    obtain ⟨applied, after⟩ := applyRange_of_parse read histogram
    rw [after]
    exact ⟨applied, histogram.firstRestricted_restrictAxis clause⟩

/-- A number and an infinity are bounds, also with blanks; the word for no number is none. -/
theorem applyRange_reads_clauses_sampleInput :
    (RangeClause.parse " 1.5 ,+INF" =
        .ok
          (some
            (.coordinates (RealLiteral.finite false 15 (-1)).toFloat
              (RealLiteral.infinity false).toFloat)) ∧
      ∀ result : Option (RangeClause Float),
        RangeClause.parse " 1.5 ,+INF" = .ok result ↔ RangeClause.parse "1.5,+INF" = .ok result) ∧
      RangeClause.parse "3,7" = .ok (some (.bins 3 7 : RangeClause Float)) ∧
      FirstRestricted (.bins 3 7) Interpreter.sampleInput
        (Interpreter.sampleInput.afterRange "3,7") ∧
      RangeClause.parse (K := Float) " nan,1.5" = .error (.invalidRange "nan,1.5") ∧
      Interpreter.sampleInput.afterRange " nan,1.5" = Interpreter.sampleInput := by
  obtain ⟨reading, blanks, digits, applying⟩ := applyRange_reads_clauses (C := Rat)
  have spelled :
      RangeClause.SpelledBy " 1.5 ,+INF"
        (.coordinates (RealLiteral.finite false 15 (-1)).toFloat
          (RealLiteral.infinity false).toFloat) := by
    have lowest : (RealLiteral.finite false 15 (-1)).SpelledBy (Text.trim " 1.5 ".toList) :=
      RealLiteral.ofChars?_eq_some_iff.mp (by decide)
    have highest : (RealLiteral.infinity false).SpelledBy (Text.trim "+INF".toList) :=
      RealLiteral.ofChars?_eq_some_iff.mp (by decide)
    have split : " 1.5 ,+INF".toList = " 1.5 ".toList ++ ',' :: "+INF".toList := by decide
    exact
      .coordinates split (by decide) (by decide) (by decide) lowest nofun highest nofun
  have bins : RangeClause.parse "3,7" = .ok (some (.bins 3 7 : RangeClause Float)) :=
    digits 3 7 (by decide) (by decide)
  have binsSpelled : RangeClause.SpelledBy "3,7" (.bins 3 7) :=
    ((reading "3,7").2.1 (.bins 3 7)).mp bins
  have notSpelled (clause : RangeClause Float) : ¬clause.SpelledBy " nan,1.5" := by
    intro spelled
    have refused :
        RangeClause.parse (K := Float) " nan,1.5" = .error (.invalidRange "nan,1.5") := rfl
    cases refused.symm.trans (((reading " nan,1.5").2.1 clause).mpr spelled)
  have notBlank : ¬∀ character ∈ " nan,1.5".toList, Text.isBlank character = true := by
    intro allBlank
    exact absurd (allBlank 'n' (by decide)) (by decide)
  refine ⟨⟨?_, ?_⟩, bins, ?_, ?_, ?_⟩
  · exact ((reading " 1.5 ,+INF").2.1 _).mpr spelled
  · exact blanks _ _ (by decide)
  · exact ((applying Interpreter.sampleInput "3,7").1 _ binsSpelled).2
  · exact (reading " nan,1.5").2.2.1 notBlank notSpelled
  · exact (applying Interpreter.sampleInput " nan,1.5").2 notSpelled

end Histogram

end PlotBoard
