import PlotBoard.Proofs.Number.Literals

namespace PlotBoard

/-!
# Literals of integers and reals

An integer is written as an optional sign and digits. A real is written as an optional
sign and then digits with at most one decimal point among or beside them and an
optional exponent, or as a word for an infinity or for no number. Exactly what is
written so is read, with the number that is written.
-/

/-- A sign that may be left out, and whether it is a minus. -/
inductive SpellsSign : Bool → List Char → Prop
  | absent : SpellsSign false []
  | plus : SpellsSign false ['+']
  | minus : SpellsSign true ['-']

/-- Digits after an optional sign, with the integer they stand for. -/
inductive SpellsInteger : Int → List Char → Prop
  | signed
      {negative : Bool}
      {sign digits : List Char}
      (signed : SpellsSign negative sign)
      (nonempty : digits ≠ [])
      (areDigits : ∀ digit ∈ digits, digit.isDigit = true) :
      SpellsInteger
        (if negative then -(Nat.ofDigitChars 10 digits 0 : Int) else Nat.ofDigitChars 10 digits 0)
        (sign ++ digits)

/-- The letter `e` and an integer, or nothing, which stands for the exponent zero. -/
inductive SpellsExponent : Int → List Char → Prop
  | absent : SpellsExponent 0 []
  | present
      {mark : Char}
      {exponent : Int}
      {characters : List Char}
      (isMark : mark = 'e' ∨ mark = 'E')
      (integer : SpellsInteger exponent characters) :
      SpellsExponent exponent (mark :: characters)

/-- Digits with an optional decimal point and an optional exponent: `digits · 10^exponent`. -/
inductive SpellsDecimal : Nat → Int → List Char → Prop
  | whole
      {digits tail : List Char}
      {exponent : Int}
      (nonempty : digits ≠ [])
      (areDigits : ∀ digit ∈ digits, digit.isDigit = true)
      (scaled : SpellsExponent exponent tail) :
      SpellsDecimal (Nat.ofDigitChars 10 digits 0) exponent (digits ++ tail)
  | pointed
      {whole fraction tail : List Char}
      {exponent : Int}
      (nonempty : whole ++ fraction ≠ [])
      (areDigits : ∀ digit ∈ whole ++ fraction, digit.isDigit = true)
      (scaled : SpellsExponent exponent tail) :
      SpellsDecimal (Nat.ofDigitChars 10 (whole ++ fraction) 0) (exponent - fraction.length)
        (whole ++ '.' :: (fraction ++ tail))

/-- What a real literal is written as; words count in letters of either case. -/
inductive RealLiteral.SpelledBy : RealLiteral → List Char → Prop
  | finite
      {negative : Bool}
      {sign decimal : List Char}
      {digits : Nat}
      {exponent : Int}
      (signed : SpellsSign negative sign)
      (spelled : SpellsDecimal digits exponent decimal) :
      SpelledBy (.finite negative digits exponent) (sign ++ decimal)
  | infinity
      {negative : Bool}
      {sign word : List Char}
      (signed : SpellsSign negative sign)
      (isWord :
        word.map Char.toLower = "inf".toList ∨ word.map Char.toLower = "infinity".toList) :
      SpelledBy (.infinity negative) (sign ++ word)
  | notANumber
      {negative : Bool}
      {sign word : List Char}
      (signed : SpellsSign negative sign)
      (isWord : word.map Char.toLower = "nan".toList) :
      SpelledBy .notANumber (sign ++ word)

theorem SpellsExponent.not_digit
    {exponent : Int}
    {tail : List Char}
    (scaled : SpellsExponent exponent tail) :
    ∀ first ∈ tail.head?, first.isDigit = false := by
  intro first isFirst
  cases scaled with
  | absent => cases isFirst
  | present isMark integer =>
      obtain rfl := Option.some.inj isFirst
      rcases isMark with rfl | rfl <;> rfl

theorem SpellsExponent.not_point
    {exponent : Int}
    {tail : List Char}
    (scaled : SpellsExponent exponent tail) :
    ∀ first ∈ tail.head?, first ≠ '.' := by
  intro first isFirst
  cases scaled with
  | absent => cases isFirst
  | present isMark integer =>
      obtain rfl := Option.some.inj isFirst
      rcases isMark with rfl | rfl <;> decide

theorem unsigned_of_digits
    {digits : List Char}
    (nonempty : digits ≠ [])
    (areDigits : ∀ digit ∈ digits, digit.isDigit = true)
    (rest : List Char) :
    ∀ first ∈ (digits ++ rest).head?, first ≠ '-' ∧ first ≠ '+' := by
  intro first isFirst
  obtain ⟨digit, others, rfl⟩ := List.exists_cons_of_ne_nil nonempty
  obtain rfl := Option.some.inj isFirst
  have isDigit := areDigits digit (by simp)
  constructor
  · rintro rfl
    cases isDigit
  · rintro rfl
    cases isDigit

/-- A decimal begins with a digit or with a decimal point. -/
theorem SpellsDecimal.unsigned
    {digits : Nat}
    {exponent : Int}
    {decimal : List Char}
    (spelled : SpellsDecimal digits exponent decimal) :
    ∀ first ∈ decimal.head?, first ≠ '-' ∧ first ≠ '+' := by
  cases spelled with
  | whole nonempty areDigits scaled => exact unsigned_of_digits nonempty areDigits _
  | @pointed whole fraction tail exponent nonempty areDigits scaled =>
      by_cases noWhole : whole = []
      · subst noWhole
        intro first isFirst
        obtain rfl := Option.some.inj isFirst
        decide
      · exact unsigned_of_digits noWhole (List.forall_mem_append.mp areDigits).1 _

/-- The decimal digits of a number are one way to write it. -/
theorem spellsInteger_toDigits (number : Nat) :
    SpellsInteger number (Nat.toDigits 10 number) := by
  obtain ⟨nonempty, areDigits, value⟩ :=
    Literal.digits?_eq_some_iff.mp (Literal.digits?_toDigits number)
  have spelled := SpellsInteger.signed .absent nonempty areDigits
  rw [value] at spelled
  exact spelled

namespace RealLiteral

theorem exists_spellsSign (characters : List Char) :
    ∃ negative sign rest,
      splitSign characters = (negative, rest) ∧
        SpellsSign negative sign ∧
        characters = sign ++ rest := by
  unfold splitSign
  split
  · exact ⟨true, ['-'], _, rfl, .minus, rfl⟩
  · exact ⟨false, ['+'], _, rfl, .plus, rfl⟩
  · exact ⟨false, [], _, rfl, .absent, rfl⟩

/-- A sign is split off from characters that do not begin with another one. -/
theorem splitSign_append
    {negative : Bool}
    {sign rest : List Char}
    (signed : SpellsSign negative sign)
    (unsigned : ∀ first ∈ rest.head?, first ≠ '-' ∧ first ≠ '+') :
    splitSign (sign ++ rest) = (negative, rest) := by
  cases signed with
  | plus => rfl
  | minus => rfl
  | absent =>
      rw [List.nil_append]
      unfold splitSign
      split
      · exact absurd rfl (unsigned _ rfl).1
      · exact absurd rfl (unsigned _ rfl).2
      · rfl

theorem exponent?_of_splitSign
    {negative : Bool}
    {characters rest : List Char}
    (split : splitSign characters = (negative, rest)) :
    exponent? characters =
      (Literal.digits? rest).map fun (magnitude : Nat) =>
        if negative then -(magnitude : Int) else magnitude := by
  simp only [exponent?, split]
  cases Literal.digits? rest <;> rfl

/-- Exactly a written integer is read as an exponent. -/
theorem exponent?_eq_some_iff
    {characters : List Char}
    {exponent : Int} :
    exponent? characters = some exponent ↔ SpellsInteger exponent characters := by
  constructor
  · intro read
    obtain ⟨negative, sign, rest, split, signed, rfl⟩ := exists_spellsSign characters
    rw [exponent?_of_splitSign split] at read
    obtain ⟨magnitude, digitsRead, rfl⟩ := Option.map_eq_some_iff.mp read
    obtain ⟨nonempty, areDigits, rfl⟩ := Literal.digits?_eq_some_iff.mp digitsRead
    exact .signed signed nonempty areDigits
  · rintro ⟨signed, nonempty, areDigits⟩
    have unsigned := unsigned_of_digits nonempty areDigits []
    rw [List.append_nil] at unsigned
    rw [exponent?_of_splitSign (splitSign_append signed unsigned),
      Literal.digits?_eq_some_iff.mpr ⟨nonempty, areDigits, rfl⟩, Option.map_some]

theorem scale?_eq_some_iff
    {characters : List Char}
    {exponent : Int} :
    scale? characters = some exponent ↔ SpellsExponent exponent characters := by
  constructor
  · intro read
    unfold scale? at read
    split at read
    · obtain rfl := Option.some.inj read
      exact .absent
    · split at read
      · next isMark => exact .present isMark (exponent?_eq_some_iff.mp read)
      · cases read
  · rintro (_ | ⟨isMark, integer⟩)
    · rfl
    · rw [scale?, if_pos isMark]
      exact exponent?_eq_some_iff.mpr integer

/-- Digits without a decimal point, and then no decimal point, are read as they are. -/
theorem decimal?_of_whole
    {negative : Bool}
    {digits tail : List Char}
    (areDigits : ∀ digit ∈ digits, digit.isDigit = true)
    (noMoreDigits : ∀ first ∈ tail.head?, first.isDigit = false)
    (noPoint : ∀ first ∈ tail.head?, first ≠ '.') :
    decimal? negative (digits ++ tail) =
      (Literal.digits? digits).bind fun value =>
        (scale? tail).map fun exponent => .finite negative value exponent := by
  obtain ⟨front, back⟩ := Literal.span_digits areDigits noMoreDigits
  cases tail with
  | nil =>
      rw [List.append_nil] at front back ⊢
      simp only [decimal?, front, back, List.append_nil, List.length_nil]
      cases Literal.digits? digits <;> simp [scale?]
  | cons first others =>
      have notPoint := noPoint first rfl
      -- What follows the digits is no decimal point, so nothing is taken for a fraction.
      simp only [decimal?, front, back, List.cons.injEq, notPoint, false_and, imp_self,
        implies_true, List.append_nil, List.length_nil, Int.cast_ofNat_Int, Int.sub_zero]
      cases Literal.digits? digits <;> cases scale? (first :: others) <;> rfl

/-- Digits around a decimal point are read together, and those after it lower the exponent. -/
theorem decimal?_of_pointed
    {negative : Bool}
    {whole fraction tail : List Char}
    (areDigits : ∀ digit ∈ whole ++ fraction, digit.isDigit = true)
    (noMoreDigits : ∀ first ∈ tail.head?, first.isDigit = false) :
    decimal? negative (whole ++ '.' :: (fraction ++ tail)) =
      (Literal.digits? (whole ++ fraction)).bind fun value =>
        (scale? tail).map fun exponent =>
          .finite negative value (exponent - fraction.length) := by
  obtain ⟨wholeDigits, fractionDigits⟩ := List.forall_mem_append.mp areDigits
  have pointStops :
      ∀ first ∈ ('.' :: (fraction ++ tail)).head?, first.isDigit = false := by
    intro first isFirst
    obtain rfl := Option.some.inj isFirst
    rfl
  obtain ⟨front, back⟩ := Literal.span_digits wholeDigits pointStops
  obtain ⟨fractionFront, fractionBack⟩ := Literal.span_digits fractionDigits noMoreDigits
  simp only [decimal?, front, back, fractionFront, fractionBack]
  cases Literal.digits? (whole ++ fraction) with
  | none => rfl
  | some value => cases scale? tail <;> rfl

/-- Every text begins with digits and may go on with a decimal point and digits. -/
theorem exists_span (characters : List Char) :
    (∃ digits tail,
      characters = digits ++ tail ∧
        (∀ digit ∈ digits, digit.isDigit = true) ∧
        (∀ first ∈ tail.head?, first.isDigit = false) ∧
        ∀ first ∈ tail.head?, first ≠ '.') ∨
      ∃ whole fraction tail,
        characters = whole ++ '.' :: (fraction ++ tail) ∧
          (∀ digit ∈ whole ++ fraction, digit.isDigit = true) ∧
          ∀ first ∈ tail.head?, first.isDigit = false := by
  obtain ⟨digits, rest, rfl, areDigits, noMoreDigits⟩ := Literal.exists_digits_split characters
  by_cases pointed : '.' ∈ rest.head?
  · obtain ⟨after, rfl⟩ : ∃ after, rest = '.' :: after := List.head?_eq_some_iff.mp pointed
    obtain ⟨fraction, tail, rfl, fractionDigits, fractionEnds⟩ := Literal.exists_digits_split after
    exact
      Or.inr
        ⟨digits, fraction, tail, rfl, List.forall_mem_append.mpr ⟨areDigits, fractionDigits⟩,
          fractionEnds⟩
  · refine Or.inl ⟨digits, rest, rfl, areDigits, noMoreDigits, ?_⟩
    rintro first isFirst rfl
    exact pointed isFirst

theorem decimal?_eq_some_iff
    {negative : Bool}
    {characters : List Char}
    {literal : RealLiteral} :
    decimal? negative characters = some literal ↔
      ∃ digits exponent,
        SpellsDecimal digits exponent characters ∧ literal = .finite negative digits exponent := by
  constructor
  · intro read
    rcases exists_span characters with
      ⟨digits, tail, rfl, areDigits, noMoreDigits, noPoint⟩ |
        ⟨whole, fraction, tail, rfl, areDigits, noMoreDigits⟩
    · rw [decimal?_of_whole areDigits noMoreDigits noPoint] at read
      obtain ⟨value, digitsRead, scaled⟩ := Option.bind_eq_some_iff.mp read
      obtain ⟨exponent, scaleRead, rfl⟩ := Option.map_eq_some_iff.mp scaled
      obtain ⟨nonempty, -, rfl⟩ := Literal.digits?_eq_some_iff.mp digitsRead
      exact
        ⟨_, _, .whole nonempty areDigits (scale?_eq_some_iff.mp scaleRead), rfl⟩
    · rw [decimal?_of_pointed areDigits noMoreDigits] at read
      obtain ⟨value, digitsRead, scaled⟩ := Option.bind_eq_some_iff.mp read
      obtain ⟨exponent, scaleRead, rfl⟩ := Option.map_eq_some_iff.mp scaled
      obtain ⟨nonempty, -, rfl⟩ := Literal.digits?_eq_some_iff.mp digitsRead
      exact
        ⟨_, _, .pointed nonempty areDigits (scale?_eq_some_iff.mp scaleRead), rfl⟩
  · rintro ⟨digits, exponent, spelled, rfl⟩
    cases spelled with
    | whole nonempty areDigits scaled =>
        rw [decimal?_of_whole areDigits scaled.not_digit scaled.not_point,
          Literal.digits?_eq_some_iff.mpr ⟨nonempty, areDigits, rfl⟩,
          scale?_eq_some_iff.mpr scaled]
        rfl
    | pointed nonempty areDigits scaled =>
        rw [decimal?_of_pointed areDigits scaled.not_digit,
          Literal.digits?_eq_some_iff.mpr ⟨nonempty, areDigits, rfl⟩,
          scale?_eq_some_iff.mpr scaled]
        rfl

/-- A word is read in letters of either case. -/
theorem named?_eq_some_iff
    {negative : Bool}
    {characters : List Char}
    {literal : RealLiteral} :
    named? negative characters = some literal ↔
      ((characters.map Char.toLower = "inf".toList ∨
            characters.map Char.toLower = "infinity".toList) ∧
          literal = .infinity negative) ∨
        characters.map Char.toLower = "nan".toList ∧ literal = .notANumber := by
  have inf : "inf".toList = ['i', 'n', 'f'] := rfl
  have infinity : "infinity".toList = ['i', 'n', 'f', 'i', 'n', 'i', 't', 'y'] := rfl
  have nan : "nan".toList = ['n', 'a', 'n'] := rfl
  rw [named?, inf, infinity, nan]
  split
  · next isInfinity =>
      constructor
      · intro read
        exact Or.inl ⟨isInfinity, (Option.some.inj read).symm⟩
      · rintro (⟨-, rfl⟩ | ⟨isNan, -⟩)
        · rfl
        · rw [isNan] at isInfinity
          exact absurd isInfinity (by decide)
  · next notInfinity =>
      split
      · next isNan =>
          constructor
          · intro read
            exact Or.inr ⟨isNan, (Option.some.inj read).symm⟩
          · rintro (⟨isInfinity, -⟩ | ⟨-, rfl⟩)
            · exact absurd isInfinity notInfinity
            · rfl
      · next notNan =>
          constructor
          · intro read
            cases read
          · rintro (⟨isInfinity, -⟩ | ⟨isNan, -⟩)
            · exact absurd isInfinity notInfinity
            · exact absurd isNan notNan

/-- The characters are one of the words for a real that is not finite. -/
def IsWord (characters : List Char) : Prop :=
  (characters.map Char.toLower = "inf".toList ∨
      characters.map Char.toLower = "infinity".toList) ∨
    characters.map Char.toLower = "nan".toList

theorem toLower_head_of_isWord
    {word : List Char}
    (isWord : IsWord word) :
    ∃ first rest, word = first :: rest ∧ (first.toLower = 'i' ∨ first.toLower = 'n') := by
  cases word with
  | nil => simp [IsWord] at isWord
  | cons first rest =>
      refine ⟨first, rest, rfl, ?_⟩
      rcases isWord with (inf | infinity) | nan
      · exact Or.inl (List.cons.inj inf).1
      · exact Or.inl (List.cons.inj infinity).1
      · exact Or.inr (List.cons.inj nan).1

/-- A word has no sign of its own. -/
theorem unsigned_of_isWord
    {word : List Char}
    (isWord : IsWord word) :
    ∀ first ∈ word.head?, first ≠ '-' ∧ first ≠ '+' := by
  intro first isFirst
  obtain ⟨letter, rest, rfl, isLetter⟩ := toLower_head_of_isWord isWord
  obtain rfl := Option.some.inj isFirst
  constructor
  · rintro rfl
    exact absurd isLetter (by decide)
  · rintro rfl
    exact absurd isLetter (by decide)

/-- A word is no decimal: it begins with a letter. -/
theorem decimal?_of_isWord
    {negative : Bool}
    {word : List Char}
    (isWord : IsWord word) :
    decimal? negative word = none := by
  obtain ⟨letter, rest, rfl, isLetter⟩ := toLower_head_of_isWord isWord
  have notDigit : letter.isDigit = false := by
    rw [Bool.eq_false_iff]
    intro isDigit
    rw [Literal.toLower_of_isDigit isDigit] at isLetter
    rcases isLetter with rfl | rfl <;> cases isDigit
  have notPoint : letter ≠ '.' := by
    rintro rfl
    exact absurd isLetter (by decide)
  have noDigits : ∀ digit ∈ ([] : List Char), digit.isDigit = true := nofun
  have firstNotDigit : ∀ first ∈ (letter :: rest).head?, first.isDigit = false := by
    simpa using notDigit
  have firstNotPoint : ∀ first ∈ (letter :: rest).head?, first ≠ '.' := by
    simpa using notPoint
  exact decimal?_of_whole noDigits firstNotDigit firstNotPoint

/-- Exactly a written literal is read. -/
theorem ofChars?_eq_some_iff
    {characters : List Char}
    {literal : RealLiteral} :
    ofChars? characters = some literal ↔ literal.SpelledBy characters := by
  constructor
  · intro read
    obtain ⟨negative, sign, rest, split, signed, rfl⟩ := exists_spellsSign characters
    simp only [ofChars?, split, Option.or_eq_some_iff] at read
    rcases read with isDecimal | ⟨-, isNamed⟩
    · obtain ⟨digits, exponent, spelled, rfl⟩ := decimal?_eq_some_iff.mp isDecimal
      exact .finite signed spelled
    · rcases named?_eq_some_iff.mp isNamed with ⟨isInfinity, rfl⟩ | ⟨isNan, rfl⟩
      · exact .infinity signed isInfinity
      · exact .notANumber signed isNan
  · intro spelled
    cases spelled with
    | @finite negative sign decimal digits exponent signed spelled =>
        have isDecimal : decimal? negative decimal = some (.finite negative digits exponent) :=
          decimal?_eq_some_iff.mpr ⟨digits, exponent, spelled, rfl⟩
        simp only [ofChars?, splitSign_append signed spelled.unsigned, isDecimal, Option.some_or]
    | infinity signed isInfinity =>
        have isWord : IsWord _ := Or.inl isInfinity
        simp only [ofChars?, splitSign_append signed (unsigned_of_isWord isWord),
          decimal?_of_isWord isWord, Option.none_or]
        exact named?_eq_some_iff.mpr (Or.inl ⟨isInfinity, rfl⟩)
    | notANumber signed isNan =>
        have isWord : IsWord _ := Or.inr isNan
        simp only [ofChars?, splitSign_append signed (unsigned_of_isWord isWord),
          decimal?_of_isWord isWord, Option.none_or]
        exact named?_eq_some_iff.mpr (Or.inr ⟨isNan, rfl⟩)

end RealLiteral

namespace Literal

theorem splitSign_of_not_minus
    {characters : List Char}
    (notMinus : ∀ rest, characters ≠ '-' :: rest) :
    RealLiteral.splitSign characters = (false, dropPlus characters) := by
  unfold RealLiteral.splitSign
  split
  · exact absurd rfl (notMinus _)
  · rfl
  · next notPlus =>
      unfold dropPlus
      split
      · exact absurd rfl (notPlus _)
      · rfl

/-- An integer is read as an exponent is, but within 64 bits only. -/
theorem integer?_eq_filter (characters : List Char) :
    integer? characters =
      (RealLiteral.exponent? characters).filter fun value =>
        -(signedBound : Int) ≤ value ∧ value < signedBound := by
  have positive : 0 < signedBound := by decide
  unfold integer?
  split
  · next rest =>
      have split : RealLiteral.splitSign ('-' :: rest) = (true, rest) := rfl
      rw [RealLiteral.exponent?_of_splitSign split]
      cases digits? rest with
      | none => rfl
      | some magnitude =>
          have fits :
              magnitude ≤ signedBound ↔
                -(signedBound : Int) ≤ -(magnitude : Int) ∧ -(magnitude : Int) < signedBound := by
            omega
          simp only [Option.map_some, Option.filter_some, fits, decide_eq_true_eq, if_true]
  · next notMinus =>
      rw [RealLiteral.exponent?_of_splitSign (splitSign_of_not_minus notMinus)]
      cases digits? (dropPlus characters) with
      | none => rfl
      | some magnitude =>
          have fits :
              magnitude < signedBound ↔
                -(signedBound : Int) ≤ magnitude ∧ (magnitude : Int) < signedBound := by
            omega
          simp only [Option.map_some, Option.filter_some, fits, decide_eq_true_eq,
            Bool.false_eq_true, if_false]

/-- Exactly a written integer within 64 bits is read. -/
theorem integer?_eq_some_iff
    {characters : List Char}
    {value : Int} :
    integer? characters = some value ↔
      SpellsInteger value characters ∧ -(signedBound : Int) ≤ value ∧ value < signedBound := by
  rw [integer?_eq_filter, Option.filter_eq_some_iff, RealLiteral.exponent?_eq_some_iff,
    decide_eq_true_eq]

end Literal

end PlotBoard
