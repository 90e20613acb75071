namespace PlotBoard.Grid

/-!
# Cells of a grid

A grid is given by its number of bins along each axis, and a cell by one bin,
counted from one, along each axis. Cells are numbered with the first axis
running fastest: one bin further along an axis adds the stride of the axis, which
is the product of the numbers of bins before it. Main statement: the number of a
cell is below the size of the grid.
-/

/-- The number of cells. -/
def size (bins : List Nat) : Nat :=
  bins.foldr (· * ·) 1

/-- How far apart the numbers of neighbouring cells lie along each axis, given it for the first. -/
def strides (stride : Nat) : List Nat → List Nat
  | [] => []
  | count :: counts => stride :: strides (stride * count) counts

/--
A number with the way to a cell added to it, axis by axis; a bin that an axis does
not have makes no cell.
-/
def addressFrom? (number : Nat) : (counts strides bins : List Nat) → Option Nat
  | [], [], [] => some number
  | count :: counts, stride :: strides, bin :: bins =>
      if 1 ≤ bin ∧ bin ≤ count then
        addressFrom? (number + (bin - 1) * stride) counts strides bins
      else
        none
  | _, _, _ => none

/-- The number of a cell, counted from zero; what is no cell has none. -/
def address? (counts bins : List Nat) : Option Nat :=
  addressFrom? 0 counts (strides 1 counts) bins

/-- All lists with one member of each list of choices; the first one varies fastest. -/
def tuples : List (List Nat) → List (List Nat)
  | [] => [[]]
  | choices :: others =>
      (tuples others).flatMap fun rest => choices.map (· :: rest)

@[simp] theorem address?_nil_nil : address? [] [] = some 0 :=
  rfl

@[simp] theorem address?_nil_cons (bin : Nat) (bins : List Nat) :
    address? [] (bin :: bins) = none :=
  rfl

@[simp] theorem address?_cons_nil (count : Nat) (counts : List Nat) :
    address? (count :: counts) [] = none :=
  rfl

/-- The strides of a grid scale the numbers of its cells. -/
theorem addressFrom?_strides (number stride : Nat) (counts bins : List Nat) :
    addressFrom? number counts (strides stride counts) bins =
      (address? counts bins).map fun rest => number + stride * rest := by
  induction counts generalizing number stride bins with
  | nil =>
      cases bins with
      | nil => simp [addressFrom?, strides]
      | cons bin bins => rfl
  | cons count counts inductionHypothesis =>
      cases bins with
      | nil => rfl
      | cons bin bins =>
          simp only [address?, strides, addressFrom?]
          split
          · rw [inductionHypothesis, inductionHypothesis, Option.map_map]
            congr 1
            funext rest
            simp only [Function.comp_apply, Nat.zero_add, Nat.mul_one, Nat.one_mul,
              Nat.mul_add, Nat.add_assoc, Nat.mul_assoc, Nat.mul_comm stride (bin - 1)]
          · rfl

/-- Behind the first axis a number goes on in steps of the bins of that axis. -/
theorem address?_cons (count bin : Nat) (counts bins : List Nat) :
    address? (count :: counts) (bin :: bins) =
      if 1 ≤ bin ∧ bin ≤ count then
        (address? counts bins).map fun rest => bin - 1 + count * rest
      else
        none := by
  simp only [address?, strides, addressFrom?]
  rw [addressFrom?_strides, address?]
  simp only [Nat.zero_add, Nat.mul_one, Nat.one_mul]

/-- A cell number lies within the grid. -/
theorem lt_size_of_address?
    {counts bins : List Nat}
    {index : Nat}
    (found : address? counts bins = some index) :
    index < size counts := by
  induction counts generalizing bins index with
  | nil =>
      cases bins with
      | nil => simp_all [size]
      | cons bin rest => simp at found
  | cons count counts inductionHypothesis =>
      cases bins with
      | nil => simp at found
      | cons bin bins =>
          rw [address?_cons] at found
          split at found
          · next within =>
              obtain ⟨rest, restFound, rfl⟩ := Option.map_eq_some_iff.mp found
              have restBelow := inductionHypothesis restFound
              have whole : count * (rest + 1) ≤ count * size counts :=
                Nat.mul_le_mul_left count restBelow
              simp only [size, List.foldr_cons] at whole ⊢
              rw [Nat.mul_succ] at whole
              omega
          · simp at found

end PlotBoard.Grid
