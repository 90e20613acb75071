import PlotBoard.Proofs.Number.Lists
import PlotBoard.Proofs.Number.Literals
import PlotBoard.Proofs.Query.Nesting

namespace PlotBoard

/-!
# Reading back a projection clause

The digits and commas that are written for a list of axis indices are read back
as the same list.
-/

namespace Text

/-- Cutting at commas is the list operation of that name. -/
theorem commaPieces_eq_splitOn (characters : List Char) :
    commaPieces characters = characters.splitOn ',' := by
  rw [List.splitOn_eq_splitOnP, commaPieces, pieces_eq_splitOnP]

end Text

namespace Expression

theorem index?_toDigits (index : UInt64) :
    index? (Nat.toDigits 10 index.toNat) = .ok index := by
  rw [index?, Text.trim_toDigits, Literal.natural?_toDigits]

theorem projectionText_eq_joined (projection : List UInt64) :
    projectionText projection = Literal.joined ',' (projection.map UInt64.toNat) := by
  rw [projectionText, Literal.joined, List.map_map]
  rfl

/-- A written projection clause consists of digits and commas. -/
theorem isDigit_or_comma_of_mem_projectionText
    {projection : List UInt64}
    {character : Char}
    (member : character ∈ projectionText projection) :
    character.isDigit = true ∨ character = ',' := by
  rw [projectionText_eq_joined] at member
  exact Literal.isDigit_or_eq_of_mem_joined member

theorem nested_projectionText (projection : List UInt64) :
    Nested (projectionText projection) := by
  apply nested_of_between
  intro character member
  rcases isDigit_or_comma_of_mem_projectionText member with digit | rfl
  · constructor <;>
      · rintro rfl
        simp at digit
  · decide

@[simp] theorem trim_projectionText (projection : List UInt64) :
    Text.trim (projectionText projection) = projectionText projection := by
  apply Text.trim_of_no_blank
  intro character member
  rcases isDigit_or_comma_of_mem_projectionText member with digit | rfl
  · exact Text.not_isBlank_of_isDigit digit
  · decide

/-- A written projection clause is read back as the indices it was written for. -/
@[simp] theorem indices?_projectionText (projection : List UInt64) :
    indices? (projectionText projection) = .ok projection := by
  by_cases none : projection = []
  · subst none
    rfl
  · have written : projection.map UInt64.toNat ≠ [] := by
      simpa using none
    have notEmpty : projectionText projection ≠ [] := by
      rw [projectionText_eq_joined]
      exact Literal.joined_ne_nil written
    rw [indices?, if_neg notEmpty, projectionText_eq_joined, Text.commaPieces_eq_splitOn,
      Literal.splitOn_joined (by decide) written, List.map_map, List.mapM_map]
    have eachRead :
        (index? ∘ Nat.toDigits 10 ∘ UInt64.toNat) =
          fun index => (pure (id index) : Except Fault UInt64) :=
      funext index?_toDigits
    rw [eachRead, List.mapM_pure, List.map_id]
    rfl

end Expression

end PlotBoard
