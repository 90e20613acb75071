import Mathlib.Tactic.Linarith
import Mathlib.Tactic.Ring
import PlotBoard.Proofs.Layout.Numbering
import PlotBoard.Proofs.Layout.Tokens

namespace PlotBoard

/-!
# Counting the regions of a layout text

Every row of a layout text has less than `2 ^ 64` columns, but nothing bounds their sum,
which is added up in 64 bits. The count is the remainder of the sum, so it is the number
of regions that a division creates just as long as the sum itself fits. A sum that does
not fit takes two rows at least, and a text of 22 characters at least.
-/

namespace Text

/-- A run of digits stands for a number with no more digits. -/
theorem ofDigitChars_lt
    {digits : List Char}
    (areDigits : ∀ digit ∈ digits, digit.isDigit = true)
    (start : Nat) :
    Nat.ofDigitChars 10 digits start < (start + 1) * 10 ^ digits.length := by
  induction digits generalizing start with
  | nil => simp
  | cons digit digits inductionHypothesis =>
      rw [List.forall_mem_cons] at areDigits
      obtain ⟨isDigit, areDigits⟩ := areDigits
      have single : digit.toNat - '0'.toNat ≤ 9 := by
        simp only [Char.isDigit, Bool.and_eq_true, decide_eq_true_eq, ge_iff_le,
          UInt32.le_iff_toNat_le] at isDigit
        have atMostNine : digit.toNat ≤ 57 := isDigit.2
        have zero : '0'.toNat = 48 := rfl
        omega
      rw [Nat.ofDigitChars_cons, List.length_cons]
      calc
        Nat.ofDigitChars 10 digits (10 * start + (digit.toNat - '0'.toNat)) <
            (10 * start + (digit.toNat - '0'.toNat) + 1) * 10 ^ digits.length :=
          inductionHypothesis areDigits _
        _ ≤ ((start + 1) * 10) * 10 ^ digits.length := Nat.mul_le_mul_right _ (by omega)
        _ = (start + 1) * 10 ^ (digits.length + 1) := by rw [pow_succ']; ring

end Text

namespace Row

theorem toNat_columns_ofToken_lt (token : List Char) :
    (ofToken token).columns.toNat < 10 ^ token.length := by
  obtain ⟨digits, suffix, rfl, areDigits, noMoreDigits⟩ := Literal.exists_digits_split token
  have read := (readFrom_ofToken areDigits noMoreDigits).columns_eq
  have bounded : Nat.ofDigitChars 10 digits 0 < 10 ^ digits.length := by
    simpa using Text.ofDigitChars_lt areDigits 0
  calc
    (ofToken (digits ++ suffix)).columns.toNat ≤ Nat.ofDigitChars 10 digits 0 := by
      rw [read]
      split
      · exact Nat.le_refl _
      · exact Nat.zero_le _
    _ < 10 ^ digits.length := bounded
    _ ≤ 10 ^ (digits ++ suffix).length :=
      Nat.pow_le_pow_right (by decide) (by simp)

end Row

namespace Layout

/-- The columns that tokens stand for when each of them is read as a row. -/
def tokenColumns (found : List (List Char)) : Nat :=
  (found.map fun token => (Row.ofToken token).columns.toNat).sum

theorem tokenColumns_append (found later : List (List Char)) :
    tokenColumns (found ++ later) = tokenColumns found + tokenColumns later := by
  rw [tokenColumns, List.map_append, List.sum_append, ← tokenColumns, ← tokenColumns]

/-- A word for an orientation has no columns, so all tokens may be taken for rows. -/
theorem columnTotal_ofTokens (found : List (List Char)) :
    (ofTokens found).columnTotal = tokenColumns found := by
  cases found with
  | nil => rfl
  | cons first rest =>
      rw [ofTokens]
      split
      · next orientation named =>
          have noColumns : Row.ofToken first = { columns := 0, mode := none } :=
            Row.ofToken_eq_iff.mpr
              ((Row.spelledBy_iff_of_namedBy (Orientation.ofToken?_eq_some_iff.mp named)).mpr rfl)
          rw [tokenColumns, List.map_cons, List.sum_cons, noColumns, UInt64.toNat_zero,
            Nat.zero_add, columnTotal, List.map_map]
          rfl
      · rw [columnTotal, List.map_map]
        rfl

/-- A stretch stands for no more than one row. -/
theorem Stretch.tokenColumns_lt
    {characters : List Char}
    {found : List (List Char)}
    (stretch : Stretch characters found) :
    tokenColumns found < UInt64.size ∧ tokenColumns found < 10 ^ characters.length := by
  cases stretch with
  | blank allBlank => exact ⟨by decide, Nat.pow_pos (by decide)⟩
  | @token leading token trailing =>
      have single : tokenColumns [token] = (Row.ofToken token).columns.toNat := by
        simp [tokenColumns]
      rw [single]
      refine ⟨UInt64.toNat_lt _, (Row.toNat_columns_ofToken_lt token).trans_le ?_⟩
      exact Nat.pow_le_pow_right (by decide) (by simp; omega)

theorem HasTokens.tokenColumns_lt
    {characters : List Char}
    {found : List (List Char)}
    (has : HasTokens characters found) :
    tokenColumns found < 10 ^ characters.length := by
  induction has with
  | last stretch => exact stretch.tokenColumns_lt.2
  | @separated front rest separator found later stretch separates _ inductionHypothesis =>
      have inFront := stretch.tokenColumns_lt.2
      rw [tokenColumns_append, List.length_append, List.length_cons, pow_add, pow_succ]
      nlinarith

/-- Two powers of ten are no more than the power for all their digits but one, and ten. -/
theorem pow_add_pow_le
    {first second : Nat}
    (firstPositive : 0 < first)
    (secondPositive : 0 < second) :
    10 ^ first + 10 ^ second ≤ 10 ^ (first + second - 1) + 10 := by
  obtain ⟨first, rfl⟩ := Nat.exists_eq_add_of_lt firstPositive
  obtain ⟨second, rfl⟩ := Nat.exists_eq_add_of_lt secondPositive
  have powers : 10 ^ (0 + first + 1 + (0 + second + 1) - 1) = 10 * (10 ^ first * 10 ^ second) := by
    rw [← pow_add, ← pow_succ']
    congr 1
    omega
  have firstPower : 1 ≤ 10 ^ first := Nat.one_le_pow _ _ (by decide)
  have secondPower : 1 ≤ 10 ^ second := Nat.one_le_pow _ _ (by decide)
  rw [powers, pow_succ', pow_succ', Nat.zero_add, Nat.zero_add]
  nlinarith

/-- Columns that do not fit stand in two rows, and a separator keeps the rows apart. -/
theorem HasTokens.tokenColumns_le
    {characters : List Char}
    {found : List (List Char)}
    (has : HasTokens characters found)
    (tooMany : UInt64.size ≤ tokenColumns found) :
    tokenColumns found ≤ 10 ^ (characters.length - 2) + 8 := by
  induction has with
  | last stretch => exact absurd stretch.tokenColumns_lt.1 (Nat.not_lt.mpr tooMany)
  | @separated front rest separator found later stretch separates has inductionHypothesis =>
      obtain ⟨frontFits, inFront⟩ := stretch.tokenColumns_lt
      have inRest := has.tokenColumns_lt
      rw [tokenColumns_append] at tooMany ⊢
      rw [List.length_append, List.length_cons]
      -- If one side of the separator is empty, the other side has all the columns.
      rcases Nat.eq_zero_or_pos front.length with noFront | someFront
      · rw [noFront, pow_zero, Nat.lt_one_iff] at inFront
        rw [inFront, Nat.zero_add] at tooMany ⊢
        have shorter : 10 ^ (rest.length - 2) ≤ 10 ^ (front.length + (rest.length + 1) - 2) :=
          Nat.pow_le_pow_right (by decide) (by omega)
        exact (inductionHypothesis tooMany).trans (Nat.add_le_add_right shorter 8)
      · rcases Nat.eq_zero_or_pos rest.length with noRest | someRest
        · rw [noRest, pow_zero, Nat.lt_one_iff] at inRest
          rw [inRest, Nat.add_zero] at tooMany
          exact absurd frontFits (Nat.not_lt.mpr tooMany)
        · have powers := pow_add_pow_le someFront someRest
          have bothLengths :
              front.length + (rest.length + 1) - 2 = front.length + rest.length - 1 := by
            omega
          rw [bothLengths]
          omega

theorem columnTotal_parse_lt_of_short
    {text : String}
    (short : text.length < 22) :
    (parse text).columnTotal < UInt64.size := by
  by_contra tooMany
  rw [Nat.not_lt, parse, columnTotal_ofTokens] at tooMany
  have has : HasTokens text.toList (tokens text.toList) := hasTokens_iff.mpr rfl
  have bounded := has.tokenColumns_le tooMany
  have shortPower : 10 ^ (text.toList.length - 2) ≤ 10 ^ 19 := by
    rw [String.length_toList]
    exact Nat.pow_le_pow_right (by decide) (by omega)
  exact absurd (tooMany.trans (bounded.trans (Nat.add_le_add_right shortPower 8))) (by decide)

theorem columnTotal_lt_of_few_rows
    {layout : Layout}
    (fewRows : layout.rows.length < 2) :
    layout.columnTotal < UInt64.size := by
  rw [columnTotal]
  cases rows : layout.rows with
  | nil => decide
  | cons row others =>
      rw [rows, List.length_cons] at fewRows
      have noOthers : others = [] := List.eq_nil_of_length_eq_zero (by omega)
      rw [noOthers, List.map_singleton, List.sum_singleton]
      exact row.columns.toNat_lt

variable {K : Type} [Scalar K]

/--
The regions that a division by a layout text creates are exactly the columns of the rows
that are read from the text, each of them less than `2 ^ 64`. The 64-bit count of the layout
is the remainder of their sum, and is their number just when the sum is less than `2 ^ 64`:
always for a single row, and always for a text of less than 22 characters.
-/
theorem regionCount_parse
    (text : String)
    (surface : Surface K)
    (margin : K) :
    (surface.divide margin (parse text)).2 = (parse text).columnTotal ∧
      (parse text).regionCount.toNat = (parse text).columnTotal % UInt64.size ∧
      ((parse text).regionCount.toNat = (surface.divide margin (parse text)).2 ↔
        (parse text).columnTotal < UInt64.size) ∧
      ((parse text).rows.length < 2 → (parse text).columnTotal < UInt64.size) ∧
      (text.length < 22 → (parse text).columnTotal < UInt64.size) := by
  have created := surface.created_divide margin (parse text)
  have counted := (parse text).toNat_regionCount
  refine ⟨created, counted, ?_, columnTotal_lt_of_few_rows, columnTotal_parse_lt_of_short⟩
  rw [created, counted]
  exact Nat.mod_eq_iff_lt (by decide)

/-- Both rows are counted, but together they are `2 ^ 64` columns, and the count is zero. -/
theorem regionCount_parse_of_overflow :
    (parse "[18446744073709551615,1]").rows =
        [{ columns := 18446744073709551615, mode := none }, { columns := 1, mode := none }] ∧
      (parse "[18446744073709551615,1]").columnTotal = UInt64.size ∧
      (parse "[18446744073709551615,1]").regionCount = 0 ∧
      (∀ (surface : Surface Rat) (margin : Rat),
        (surface.divide margin (parse "[18446744073709551615,1]")).2 = UInt64.size) ∧
      "18446744073709551615,1".length = 22 ∧
      (parse "18446744073709551615,1").regionCount = 0 := by
  have rows :
      (parse "[18446744073709551615,1]").rows =
        [{ columns := 18446744073709551615, mode := none }, { columns := 1, mode := none }] := by
    decide
  have total : (parse "[18446744073709551615,1]").columnTotal = UInt64.size := by
    rw [columnTotal, rows]
    rfl
  refine ⟨rows, total, by decide, ?_, by decide, by decide⟩
  intro surface margin
  obtain ⟨created, -⟩ := regionCount_parse "[18446744073709551615,1]" surface margin
  exact created.trans total

end Layout

end PlotBoard
