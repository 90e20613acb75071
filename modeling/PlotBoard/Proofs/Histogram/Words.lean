import PlotBoard.Proofs.Histogram.Address

namespace PlotBoard

/-!
# Numbers of cells in 64 bits

Strides and numbers of cells are computed in words of 64 bits. When the product of all
numbers of bins fits, so does every product and every sum on the way to a number.
-/

/-- A product or a sum that takes more than 64 bits. -/
inductive Overflow where
  | product (left right : Nat)
  | sum (left right : Nat)

namespace Words

/-- The product of two 64-bit numbers, if 64 bits hold it. -/
def multiply (left right : Nat) : Except Overflow Nat :=
  if left * right < UInt64.size then .ok (left * right) else .error (.product left right)

/-- The sum of two 64-bit numbers, if 64 bits hold it. -/
def add (left right : Nat) : Except Overflow Nat :=
  if left + right < UInt64.size then .ok (left + right) else .error (.sum left right)

/-- The strides of a grid and its number of cells, each product taken in 64 bits. -/
def strides (stride : Nat) : List Nat → Except Overflow (List Nat × Nat)
  | [] => .ok ([], stride)
  | count :: counts => do
      let next ← multiply stride count
      let (others, cells) ← strides next counts
      return (stride :: others, cells)

/-- A number with the way to a cell added to it, each product and each sum taken in 64 bits. -/
def addressFrom
    (number : Nat) :
    (counts strides bins : List Nat) →
    Except Overflow (Option Nat)
  | [], [], [] => .ok (some number)
  | count :: counts, stride :: strides, bin :: bins =>
      if 1 ≤ bin ∧ bin ≤ count then do
        let way ← multiply (bin - 1) stride
        let reached ← add number way
        addressFrom reached counts strides bins
      else
        .ok none
  | _, _, _ => .ok none

theorem multiply_eq_ok
    {left right : Nat}
    (fits : left * right < UInt64.size) :
    multiply left right = .ok (left * right) :=
  if_pos fits

theorem add_eq_ok
    {left right : Nat}
    (fits : left + right < UInt64.size) :
    add left right = .ok (left + right) :=
  if_pos fits

section Grids

variable {counts : List Nat} {stride number : Nat}

theorem size_pos (positive : ∀ count ∈ counts, 1 ≤ count) : 1 ≤ Grid.size counts := by
  rw [Grid.size_eq_prod]
  exact List.one_le_prod_of_one_le positive

/-- The numbers of bins of the other axes only add to a product. -/
theorem le_stride_mul_size
    (positive : ∀ count ∈ counts, 1 ≤ count)
    (stride : Nat) :
    stride ≤ stride * Grid.size counts :=
  Nat.le_mul_of_pos_right stride (size_pos positive)

theorem stride_mul_size_cons (stride count : Nat) (counts : List Nat) :
    stride * Grid.size (count :: counts) = stride * count * Grid.size counts :=
  (Nat.mul_assoc _ _ _).symm

/-- When all the cells can be counted in 64 bits, so can the strides. -/
theorem strides_eq_ok
    (positive : ∀ count ∈ counts, 1 ≤ count)
    (fits : stride * Grid.size counts < UInt64.size) :
    strides stride counts = .ok (Grid.strides stride counts, stride * Grid.size counts) := by
  induction counts generalizing stride with
  | nil => rw [strides, Grid.strides, Grid.size, List.foldr_nil, Nat.mul_one]
  | cons count counts inductionHypothesis =>
      rw [List.forall_mem_cons] at positive
      rw [stride_mul_size_cons] at fits ⊢
      have nextFits := Nat.lt_of_le_of_lt (le_stride_mul_size positive.2 _) fits
      rw [strides, multiply_eq_ok nextFits]
      simp only [bind, Except.bind, inductionHypothesis positive.2 fits]
      rfl

/-- When the cells cannot be counted in 64 bits, some product on the way does not fit. -/
theorem exists_strides_eq_error
    (positive : ∀ count ∈ counts, 1 ≤ count)
    (strideFits : stride < UInt64.size)
    (tooMany : UInt64.size ≤ stride * Grid.size counts) :
    ∃ overflow, strides stride counts = .error overflow := by
  induction counts generalizing stride with
  | nil =>
      rw [Grid.size, List.foldr_nil, Nat.mul_one] at tooMany
      omega
  | cons count counts inductionHypothesis =>
      rw [List.forall_mem_cons] at positive
      rw [stride_mul_size_cons] at tooMany
      by_cases nextFits : stride * count < UInt64.size
      · obtain ⟨overflow, later⟩ := inductionHypothesis positive.2 nextFits tooMany
        refine ⟨overflow, ?_⟩
        rw [strides, multiply_eq_ok nextFits]
        simp only [bind, Except.bind, later]
      · refine ⟨.product stride count, ?_⟩
        rw [strides, multiply, if_neg nextFits]
        rfl

/--
On the way to a cell each number stays below the stride of the next axis, so that no
product and no sum exceeds the number of cells.
-/
theorem addressFrom_eq_ok
    (positive : ∀ count ∈ counts, 1 ≤ count)
    (fits : stride * Grid.size counts < UInt64.size)
    (below : number < stride)
    (bins : List Nat) :
    addressFrom number counts (Grid.strides stride counts) bins =
      .ok (Grid.addressFrom? number counts (Grid.strides stride counts) bins) := by
  induction counts generalizing stride number bins with
  | nil => cases bins <;> rfl
  | cons count counts inductionHypothesis =>
      rw [List.forall_mem_cons] at positive
      rw [stride_mul_size_cons] at fits
      cases bins with
      | nil => rfl
      | cons bin bins =>
          rw [Grid.strides, addressFrom, Grid.addressFrom?]
          by_cases within : 1 ≤ bin ∧ bin ≤ count
          · have nextFits := Nat.lt_of_le_of_lt (le_stride_mul_size positive.2 _) fits
            have nextBelow : number + (bin - 1) * stride < stride * count := by
              calc
                number + (bin - 1) * stride < stride + (bin - 1) * stride :=
                  Nat.add_lt_add_right below _
                _ = (bin - 1 + 1) * stride := by rw [Nat.succ_mul, Nat.add_comm]
                _ ≤ count * stride := Nat.mul_le_mul_right stride (by omega)
                _ = stride * count := Nat.mul_comm count stride
            have sumFits := Nat.lt_trans nextBelow nextFits
            have wayFits := Nat.lt_of_le_of_lt (Nat.le_add_left _ number) sumFits
            rw [if_pos within, if_pos within, multiply_eq_ok wayFits]
            simp only [bind, Except.bind, add_eq_ok sumFits]
            exact inductionHypothesis positive.2 fits nextBelow bins
          · rw [if_neg within, if_neg within]

end Grids

end Words

end PlotBoard
