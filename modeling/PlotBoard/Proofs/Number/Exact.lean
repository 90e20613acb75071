import Mathlib.Data.List.Basic
import PlotBoard.Number.Scalar

namespace PlotBoard

/-!
# Exact sums

Sums of binary numbers depend on the order in which they are taken. In exact
arithmetic they do not, and the sum over a list of lists is the sum of the sums.
-/

/-- A number type in which sums do not depend on grouping and order. -/
class Scalar.Exact (C : Type) [Scalar C] : Prop where
  add_assoc : ∀ first second third : C, first + second + third = first + (second + third)
  add_comm : ∀ first second : C, first + second = second + first
  zero_add : ∀ number : C, ((0 : Nat) : C) + number = number

instance : Scalar.Exact Rat where
  add_assoc := Rat.add_assoc
  add_comm := Rat.add_comm
  zero_add := Rat.zero_add

namespace Scalar

variable {A B C : Type} [Scalar C]

/-- Values added up in the order of a list, beginning with zero. -/
def total (items : List A) (value : A → C) : C :=
  items.foldl (fun sum item => sum + value item) ((0 : Nat) : C)

theorem total_congr
    {items : List A}
    {value other : A → C}
    (same : ∀ item ∈ items, value item = other item) :
    total items value = total items other := by
  rw [total, total]
  apply List.foldl_ext
  intro sum item member
  rw [same item member]

variable [Exact C]

/-- A sum that begins with a number is the number and the sum that begins with zero. -/
theorem foldl_add_eq_add_total
    (items : List A)
    (value : A → C)
    (start : C) :
    items.foldl (fun sum item => sum + value item) start = start + total items value := by
  induction items generalizing start with
  | nil =>
      rw [total, List.foldl_nil, List.foldl_nil, Exact.add_comm, Exact.zero_add]
  | cons item rest inductionHypothesis =>
      rw [total, List.foldl_cons, List.foldl_cons, inductionHypothesis,
        inductionHypothesis (_ + value item), Exact.zero_add, Exact.add_assoc]

/-- The sum over joined lists is the sum of the sums. -/
theorem total_flatMap
    (groups : List A)
    (members : A → List B)
    (value : B → C) :
    total (groups.flatMap members) value =
      total groups fun group => total (members group) value := by
  rw [total, List.foldl_flatMap, total]
  apply List.foldl_ext
  intro sum group _
  exact foldl_add_eq_add_total (members group) value sum

/-- A sum does not depend on the order of its members. -/
theorem total_perm
    {items others : List A}
    (permuted : items.Perm others)
    (value : A → C) :
    total items value = total others value := by
  apply permuted.foldl_eq'
  intro first _ second _ sum
  rw [Exact.add_assoc, Exact.add_comm (value first), Exact.add_assoc]

omit [Exact C] in
theorem total_map (items : List A) (image : A → B) (value : B → C) :
    total (items.map image) value = total items fun item => value (image item) :=
  List.foldl_map

/-- A sum by distinct groups is the sum over the items that some group has. -/
theorem total_groups
    [DecidableEq B]
    {groups : List B}
    (distinct : groups.Nodup)
    (items : List A)
    (group? : A → Option B)
    (value : A → C) :
    total groups (fun group => total (items.filter fun item => group? item = some group) value) =
      total (items.filter fun item => ∃ group ∈ groups, group? item = some group) value := by
  rw [← total_flatMap]
  apply total_perm
  induction groups with
  | nil => simp
  | cons group rest inductionHypothesis =>
      obtain ⟨isNew, restDistinct⟩ := List.nodup_cons.mp distinct
      -- What the first group has and what the others have is disjoint.
      have first :
          (items.filter fun item => ∃ other ∈ group :: rest, group? item = some other).filter
              (fun item => group? item = some group) =
            items.filter fun item => group? item = some group := by
        rw [List.filter_filter]
        apply List.filter_congr
        intro item _
        by_cases here : group? item = some group <;> simp [here]
      have others :
          (items.filter fun item => ∃ other ∈ group :: rest, group? item = some other).filter
              (fun item => !decide (group? item = some group)) =
            items.filter fun item => ∃ other ∈ rest, group? item = some other := by
        rw [List.filter_filter]
        apply List.filter_congr
        intro item _
        by_cases here : group? item = some group <;> simp [here, isNew]
      have whole := List.filter_append_perm
        (fun item => decide (group? item = some group))
        (items.filter fun item => ∃ other ∈ group :: rest, group? item = some other)
      rw [first, others] at whole
      exact ((inductionHypothesis restDistinct).append_left _).trans whole

theorem total_singleton (item : A) (value : A → C) :
    total [item] value = value item :=
  Exact.zero_add (value item)

end Scalar

end PlotBoard
