import PlotBoard.Histogram.Basic
import PlotBoard.Proofs.Axis.Ranges
import PlotBoard.Proofs.Histogram.Address
import PlotBoard.Proofs.Histogram.Walk

namespace PlotBoard

/-!
# Cells of a histogram

Which cells a histogram has, which of them are active, and what becomes of
contents when cells are changed. Everything that looks at active cells is a fold
over the list of them in walking order.
-/

variable {K C : Type} [Scalar K]

namespace Histogram

/-- One bin for each axis, each of them a bin that the axis has. -/
def IsCell (histogram : Histogram K C) (bins : List Nat) : Prop :=
  Grid.IsCell histogram.shape bins

/-- One bin for each axis, each of them active. -/
def IsActiveCell (histogram : Histogram K C) (bins : List Nat) : Prop :=
  List.Forall₂ (fun axis bin => axis.isActive bin = true) histogram.axes bins

theorem IsActiveCell.isCell
    {histogram : Histogram K C}
    {bins : List Nat}
    (active : histogram.IsActiveCell bins) :
    histogram.IsCell bins := by
  rw [IsCell, Grid.IsCell, shape, List.forall₂_map_left_iff]
  exact active.imp fun _ _ => Axis.mem_bins_of_isActive

/-- The listed cells are the active ones. -/
theorem mem_activeCells_iff
    {histogram : Histogram K C}
    {cell : List Nat} :
    cell ∈ histogram.activeCells ↔ histogram.IsActiveCell cell := by
  simp only [activeCells, Grid.mem_tuples_iff, List.forall₂_map_left_iff,
    Axis.mem_activeBins, IsActiveCell]

/-- Active cells are listed in walking order. -/
theorem pairwise_activeCells (histogram : Histogram K C) :
    histogram.activeCells.Pairwise Grid.Precedes := by
  apply Grid.pairwise_tuples
  intro bins member
  obtain ⟨axis, -, rfl⟩ := List.mem_map.mp member
  exact axis.pairwise_activeBins

theorem nodup_activeCells (histogram : Histogram K C) :
    histogram.activeCells.Nodup :=
  Grid.nodup_of_pairwise_precedes histogram.pairwise_activeCells

/-- No cell is active just when some axis has no active bin. -/
theorem activeCells_eq_nil_iff {histogram : Histogram K C} :
    histogram.activeCells = [] ↔
      ∃ axis ∈ histogram.axes, ∀ bin, axis.isActive bin = false := by
  constructor
  · intro noCell
    by_contra someActive
    simp only [not_exists, not_and, ← Axis.activeCount_eq_zero_iff] at someActive
    -- Without such an axis the first active bins make an active cell.
    have firstCell : histogram.IsActiveCell (histogram.axes.map (·.range.1)) := by
      rw [IsActiveCell, List.forall₂_map_right_iff, List.forall₂_same]
      intro axis member
      have counted := someActive axis member
      rw [Axis.activeCount] at counted
      exact Axis.isActive_iff.mpr ⟨Nat.le_refl _, by omega⟩
    have listed := mem_activeCells_iff.mpr firstCell
    rw [noCell] at listed
    cases listed
  · rintro ⟨axis, member, noneActive⟩
    apply List.eq_nil_iff_forall_not_mem.mpr
    intro cell cellMember
    obtain ⟨place, below, rfl⟩ := List.mem_iff_getElem.mp member
    have active := mem_activeCells_iff.mp cellMember
    have binActive := active.get below (active.length_eq ▸ below)
    rw [List.get_eq_getElem, noneActive] at binActive
    cases binActive

/-- The spans of the axes list the active cells. -/
theorem tuples_activeSpans (histogram : Histogram K C) :
    Grid.tuples (histogram.activeSpans.map Grid.spanBins) = histogram.activeCells := by
  rw [activeSpans, List.map_map]
  rfl

/-- With an active bin on every axis all spans run upward. -/
theorem activeSpans_rise
    {histogram : Histogram K C}
    (someActive : ∀ axis ∈ histogram.axes, axis.activeCount ≠ 0) :
    ∀ span ∈ histogram.activeSpans, span.1 ≤ span.2 := by
  intro span member
  obtain ⟨axis, axisMember, rfl⟩ := List.mem_map.mp member
  have counted := someActive axis axisMember
  rw [Axis.activeCount] at counted
  omega

variable [Scalar C]

/-- The content of a cell, read from the storage under the cell's number. -/
theorem content_eq
    (histogram : Histogram K C)
    (bins : List Nat) :
    histogram.content bins =
      ((Grid.address? histogram.shape bins).bind (histogram.contents[·]?)).getD
        ((0 : Nat) : C) := by
  rw [content]
  split
  · next index found =>
      have inside : index < histogram.contents.size := by
        rw [histogram.size_contents]
        exact Grid.lt_size_of_address? found
      simp [found, inside]
  · next missing =>
      simp [missing]

/-- Under the number of a cell its content is stored. -/
theorem getElem?_contents
    {histogram : Histogram K C}
    {bins : List Nat}
    {index : Nat}
    (found : Grid.address? histogram.shape bins = some index) :
    histogram.contents[index]? = some (histogram.content bins) := by
  have inside : index < histogram.contents.size := by
    rw [histogram.size_contents]
    exact Grid.lt_size_of_address? found
  simp [content_eq, found, inside]

/-- Every cell has a number, under which its content is stored. -/
theorem exists_number_of_isCell
    {histogram : Histogram K C}
    {cell : List Nat}
    (isCell : histogram.IsCell cell) :
    ∃ number,
      Grid.address? histogram.shape cell = some number ∧
        histogram.contents[number]? = some (histogram.content cell) := by
  obtain ⟨number, found⟩ := Grid.exists_address?_of_isCell isCell
  exact ⟨number, found, getElem?_contents found⟩

/-- Contents depend on nothing but the storage and the numbers of bins. -/
theorem content_congr
    {first second : Histogram K C}
    (sameShape : first.shape = second.shape)
    (sameContents : first.contents = second.contents)
    (bins : List Nat) :
    first.content bins = second.content bins := by
  rw [content_eq, content_eq, sameShape, sameContents]

/-- What is no cell has content zero. -/
theorem content_of_not_isCell
    {histogram : Histogram K C}
    {bins : List Nat}
    (notCell : ¬histogram.IsCell bins) :
    histogram.content bins = ((0 : Nat) : C) := by
  simp [content_eq, Grid.address?_eq_none_of_not_isCell notCell]

/-- A histogram over some axes without fills and with nothing in its cells. -/
structure IsNew
    (name : String)
    (axes : List (Axis K))
    (histogram : Histogram K C) :
    Prop where
  name_eq : histogram.name = name
  axes_eq : histogram.axes = axes
  entries_eq : histogram.entries = 0
  content_eq : ∀ bins, histogram.content bins = ((0 : Nat) : C)

/-- Axes whose grid is not too large have a new histogram. -/
theorem exists_create_eq_ok
    {axes : List (Axis K)}
    (nonempty : axes ≠ [])
    (fits : Grid.size (axes.map Axis.bins) < UInt64.size)
    (name : String) :
    ∃ empty : Histogram K C, create name axes = .ok empty := by
  rw [create, dif_pos nonempty, dif_pos fits]
  exact ⟨_, rfl⟩

theorem isNew_of_create_eq_ok
    {name : String}
    {axes : List (Axis K)}
    {empty : Histogram K C}
    (created : create name axes = .ok empty) :
    IsNew name axes empty := by
  rw [create] at created
  split at created
  · split at created
    · obtain rfl := Except.ok.inj created
      refine ⟨rfl, rfl, rfl, ?_⟩
      intro bins
      rw [content_eq]
      cases found : Grid.address? (axes.map Axis.bins) bins with
      | none => simp [shape, found]
      | some index => simp [shape, found, Grid.lt_size_of_address? found]
    · cases created
  · cases created

/-- With an active bin on every axis the cells are visited by a walk. -/
theorem foldActive_eq_walk
    {S : Type}
    {histogram : Histogram K C}
    (someActive : ∀ axis ∈ histogram.axes, axis.activeCount ≠ 0)
    (visit : S → List Nat → C → S)
    (state : S) :
    histogram.foldActive visit state =
      Grid.walk histogram.activeSpans (histogram.visitCell visit) state
        (histogram.activeSpans.map Prod.fst) := by
  have noneEmpty : ¬(histogram.axes.any fun axis => axis.activeCount = 0) = true := by
    simpa using someActive
  rw [foldActive, if_neg noneEmpty]

/-- Visiting the active cells is a fold over the list of them. -/
theorem foldActive_eq_foldl
    {S : Type}
    (histogram : Histogram K C)
    (visit : S → List Nat → C → S)
    (state : S) :
    histogram.foldActive visit state =
      histogram.activeCells.foldl
        (fun state cell => visit state cell (histogram.content cell)) state := by
  by_cases someActive : ∀ axis ∈ histogram.axes, axis.activeCount ≠ 0
  · rw [foldActive_eq_walk someActive, Grid.walk_eq_foldl (activeSpans_rise someActive),
      tuples_activeSpans]
    apply List.foldl_ext
    intro state cell member
    have isCell := (mem_activeCells_iff.mp member).isCell
    rw [visitCell, if_pos (Grid.isSome_address?_iff.mpr isCell)]
  · have someEmpty : (histogram.axes.any fun axis => axis.activeCount = 0) = true := by
      simpa using someActive
    have noCell : histogram.activeCells = [] := by
      obtain ⟨axis, member, empty⟩ := List.any_eq_true.mp someEmpty
      have noneActive := Axis.activeCount_eq_zero_iff.mp (by simpa using empty)
      exact activeCells_eq_nil_iff.mpr ⟨axis, member, noneActive⟩
    rw [foldActive, if_pos someEmpty, noCell, List.foldl_nil]

/-- The contents of listed cells added up in the order of the list. -/
def sumOver (histogram : Histogram K C) (cells : List (List Nat)) : C :=
  cells.foldl (fun sum cell => sum + histogram.content cell) ((0 : Nat) : C)

theorem integral_eq_sumOver (histogram : Histogram K C) :
    histogram.integral = histogram.sumOver histogram.activeCells := by
  rw [integral, foldActive_eq_foldl, sumOver]

/-- The content of a cell after one cell has been changed. -/
theorem content_modifyCell
    {histogram : Histogram K C}
    {bins target : List Nat}
    (isCell : histogram.IsCell target)
    (change : C → C) :
    (histogram.modifyCell bins change).content target =
      if bins = target then
        change (histogram.content target)
      else
        histogram.content target := by
  obtain ⟨targetIndex, targetFound⟩ := Grid.exists_address?_of_isCell isCell
  have inside : targetIndex < histogram.contents.size := by
    rw [histogram.size_contents]
    exact Grid.lt_size_of_address? targetFound
  simp only [content_eq, modifyCell]
  split
  · next index found =>
      have sameShape :
          Grid.address? (histogram.axes.map Axis.bins) target = some targetIndex :=
        targetFound
      by_cases same : bins = target
      · subst same
        obtain rfl := Option.some.inj (found.symm.trans targetFound)
        simp [shape, sameShape, inside, Array.getElem_modify]
      · have otherIndex : index ≠ targetIndex := by
          rintro rfl
          exact same (Grid.eq_of_address?_eq found targetFound)
        simp [shape, sameShape, same, inside, Array.getElem_modify, otherIndex]
  · next missing =>
      have different : bins ≠ target := by
        rintro rfl
        simp [targetFound] at missing
      rw [if_neg different]

/-- The parts of a histogram other than its contents. -/
structure SameFrame (before after : Histogram K C) : Prop where
  name_eq : after.name = before.name
  title_eq : after.title = before.title
  axes_eq : after.axes = before.axes
  entries_eq : after.entries = before.entries

omit [Scalar C] in
/-- Changing a cell changes nothing but contents. -/
theorem sameFrame_modifyCell
    (histogram : Histogram K C)
    (bins : List Nat)
    (change : C → C) :
    SameFrame histogram (histogram.modifyCell bins change) := by
  unfold modifyCell
  split <;> exact ⟨rfl, rfl, rfl, rfl⟩

end Histogram

end PlotBoard
