import Mathlib.Algebra.Order.BigOperators.Group.List
import Mathlib.Data.List.Forall2
import Mathlib.Data.List.Perm.Subperm
import Mathlib.Data.Set.Function
import Mathlib.Order.Interval.Set.Defs
import PlotBoard.Histogram.Grid

namespace PlotBoard.Grid

/-!
# Cell numbers

Exactly the cells of a grid have a number, no two of them have the same one, and
every number below the size of the grid is one of them. A grid of some of the axes
has at most as many cells as the whole grid.
-/

/-- One bin for each axis, each of them a bin that the axis has. -/
def IsCell (counts bins : List Nat) : Prop :=
  List.Forall₂ (fun count bin => 1 ≤ bin ∧ bin ≤ count) counts bins

instance (counts bins : List Nat) : Decidable (IsCell counts bins) :=
  inferInstanceAs (Decidable (List.Forall₂ _ counts bins))

theorem address?_cons_of_mem
    {count bin : Nat}
    (within : 1 ≤ bin ∧ bin ≤ count)
    (counts bins : List Nat) :
    address? (count :: counts) (bin :: bins) =
      (address? counts bins).map fun rest => bin - 1 + count * rest := by
  rw [address?_cons, if_pos within]

/-- Exactly the cells of a grid have a number. -/
theorem isSome_address?_iff
    {counts bins : List Nat} :
    (address? counts bins).isSome = true ↔ IsCell counts bins := by
  induction counts generalizing bins with
  | nil =>
      cases bins with
      | nil => simp [IsCell]
      | cons bin bins => simp [IsCell]
  | cons count counts inductionHypothesis =>
      cases bins with
      | nil => simp [IsCell]
      | cons bin bins =>
          rw [IsCell, List.forall₂_cons]
          by_cases within : 1 ≤ bin ∧ bin ≤ count
          · rw [address?_cons_of_mem within, Option.isSome_map, inductionHypothesis]
            exact ⟨fun isCell => ⟨within, isCell⟩, fun both => both.2⟩
          · rw [address?_cons, if_neg within]
            exact ⟨fun impossible => by simp at impossible,
              fun both => absurd both.1 within⟩

theorem exists_address?_of_isCell
    {counts bins : List Nat}
    (isCell : IsCell counts bins) :
    ∃ index, address? counts bins = some index :=
  Option.isSome_iff_exists.mp (isSome_address?_iff.mpr isCell)

theorem address?_eq_none_of_not_isCell
    {counts bins : List Nat}
    (notCell : ¬IsCell counts bins) :
    address? counts bins = none := by
  rw [← Option.not_isSome_iff_eq_none, isSome_address?_iff]
  exact notCell

/-- The number of a cell tells its bins. -/
theorem eq_of_address?_eq
    {counts first second : List Nat}
    {index : Nat}
    (firstFound : address? counts first = some index)
    (secondFound : address? counts second = some index) :
    first = second := by
  induction counts generalizing first second index with
  | nil =>
      cases first with
      | nil =>
          cases second with
          | nil => rfl
          | cons bin bins => simp at secondFound
      | cons bin bins => simp at firstFound
  | cons count counts inductionHypothesis =>
      cases first with
      | nil => simp at firstFound
      | cons firstBin firstRest =>
          cases second with
          | nil => simp at secondFound
          | cons secondBin secondRest =>
              rw [address?_cons] at firstFound secondFound
              split at firstFound
              · next firstWithin =>
                  split at secondFound
                  · next secondWithin =>
                      obtain ⟨firstNumber, firstInner, firstIs⟩ :=
                        Option.map_eq_some_iff.mp firstFound
                      obtain ⟨secondNumber, secondInner, secondIs⟩ :=
                        Option.map_eq_some_iff.mp secondFound
                      have firstBelow : firstBin - 1 < count := by omega
                      have secondBelow : secondBin - 1 < count := by omega
                      have positive : 0 < count := by omega
                      -- The remainder of a number is the bin, the quotient the rest of the cell.
                      have sameNumber : firstNumber = secondNumber := by
                        have quotient := congrArg (· / count) (firstIs.trans secondIs.symm)
                        simpa [Nat.add_mul_div_left, positive,
                          Nat.div_eq_of_lt firstBelow,
                          Nat.div_eq_of_lt secondBelow] using quotient
                      have sameBin : firstBin = secondBin := by
                        rw [sameNumber] at firstIs
                        omega
                      rw [sameNumber] at firstInner
                      rw [sameBin, inductionHypothesis firstInner secondInner]
                  · simp at secondFound
              · simp at firstFound

/-- Every number below the size is the number of a cell. -/
theorem exists_address?_eq
    {counts : List Nat}
    {index : Nat}
    (below : index < size counts) :
    ∃ bins, address? counts bins = some index := by
  induction counts generalizing index with
  | nil =>
      obtain rfl : index = 0 := Nat.lt_one_iff.mp below
      exact ⟨[], rfl⟩
  | cons count counts inductionHypothesis =>
      have product : index < count * size counts := below
      have positive : 0 < count := Nat.pos_of_lt_mul_right product
      obtain ⟨rest, restFound⟩ := inductionHypothesis (Nat.div_lt_of_lt_mul product)
      have within : 1 ≤ index % count + 1 ∧ index % count + 1 ≤ count :=
        ⟨Nat.le_add_left 1 _, Nat.mod_lt index positive⟩
      refine ⟨(index % count + 1) :: rest, ?_⟩
      rw [address?_cons_of_mem within, restFound, Option.map_some, Nat.add_sub_cancel,
        Nat.mod_add_div]

/-- The cells of a grid have the numbers from zero up to its size, each of them a different one. -/
theorem bijOn_address? (counts : List Nat) :
    Set.BijOn (address? counts) {bins | IsCell counts bins} (some '' Set.Iio (size counts)) := by
  refine ⟨?below, ?different, ?every⟩
  case below =>
    intro bins isCell
    obtain ⟨index, found⟩ := exists_address?_of_isCell isCell
    exact ⟨index, lt_size_of_address? found, found.symm⟩
  case different =>
    intro first isCell second _ same
    obtain ⟨index, found⟩ := exists_address?_of_isCell isCell
    exact eq_of_address?_eq found (same ▸ found)
  case every =>
    rintro _ ⟨index, below, rfl⟩
    obtain ⟨bins, found⟩ := exists_address?_eq below
    exact ⟨bins, isSome_address?_iff.mp (Option.isSome_of_eq_some found), found⟩

/-- The number of cells is the product of the numbers of bins. -/
theorem size_eq_prod (counts : List Nat) :
    size counts = counts.prod :=
  rfl

/-- A grid of different axes of another one has at most as many cells. -/
theorem size_pick_le
    {counts keep : List Nat}
    (positive : ∀ count ∈ counts, 1 ≤ count)
    (distinct : keep.Nodup)
    (inRange : ∀ axis ∈ keep, axis < counts.length) :
    size (keep.map fun axis => counts[axis]?.getD 1) ≤ size counts := by
  have among : keep ⊆ List.range counts.length :=
    fun axis member => List.mem_range.mpr (inRange axis member)
  obtain ⟨chosen, sameAxes, inOrder⟩ := distinct.subperm among
  have allAxes :
      (List.range counts.length).map (fun axis => counts[axis]?.getD 1) = counts := by
    apply List.ext_getElem <;> simp +contextual
  calc
    size (keep.map fun axis => counts[axis]?.getD 1)
        = (chosen.map fun axis => counts[axis]?.getD 1).prod :=
      (sameAxes.map _).prod_eq.symm
    _ ≤ ((List.range counts.length).map fun axis => counts[axis]?.getD 1).prod :=
      (inOrder.map _).prod_le_prod' (by rw [allAxes]; exact positive)
    _ = size counts := by
      rw [allAxes, size_eq_prod]

end PlotBoard.Grid
