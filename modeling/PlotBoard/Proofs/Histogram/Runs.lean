import PlotBoard.Proofs.Axis.BinSearch
import PlotBoard.Proofs.Axis.Changes
import PlotBoard.Proofs.Histogram.Projection

namespace PlotBoard

/-!
# Runs of changes

A histogram is filled, written, restricted, retitled and restyled in any order, and
some of these calls are refused. The edges of its axes stay as they are, so that each
change acts on one cell by what it held before, and the content of a cell after a run
is a fold over the changes. Restrictions, titles and styles leave no trace in contents
and entries.
-/

variable {K C : Type} [Scalar K]

/-- Each coordinate is held by its bin along its axis. -/
def Encloses : List (Edges K) → List Nat → List K → Prop
  | [], [], [] => True
  | edges :: rows, bin :: cell, coordinate :: coordinates =>
      edges.Holds bin coordinate ∧ Encloses rows cell coordinates
  | _, _, _ => False

instance decidableEncloses :
    (rows : List (Edges K)) →
    (cell : List Nat) →
    (coordinates : List K) →
    Decidable (Encloses rows cell coordinates)
  | [], [], [] => isTrue trivial
  | edges :: rows, bin :: cell, coordinate :: coordinates =>
      have := decidableEncloses rows cell coordinates
      inferInstanceAs
        (Decidable (edges.Holds bin coordinate ∧ Encloses rows cell coordinates))
  | [], [], _ :: _ => isFalse id
  | [], _ :: _, _ => isFalse id
  | _ :: _, [], _ => isFalse id
  | _ :: _, _ :: _, [] => isFalse id

/-- A cell encloses exactly the coordinates whose bins are found to be its own. -/
theorem encloses_iff
    [Scalar.Ordered K]
    {rows : List (Edges K)}
    {cell : List Nat}
    {coordinates : List K}
    (isCell : Grid.IsCell (rows.map Edges.binCount) cell) :
    Encloses rows cell coordinates ↔
      coordinates.length = rows.length ∧
        rows.zipWith Edges.findBin coordinates = cell := by
  induction rows generalizing cell coordinates with
  | nil =>
      cases isCell
      cases coordinates <;> simp [Encloses]
  | cons edges rows inductionHypothesis =>
      cases isCell with
      | cons within restIsCell =>
          cases coordinates with
          | nil => simp [Encloses]
          | cons coordinate coordinates =>
              rw [Encloses, Edges.holds_iff, inductionHypothesis restIsCell]
              simp only [within, and_self, true_and, List.length_cons, Nat.add_right_cancel_iff,
                List.zipWith_cons_cons, List.cons.injEq]
              exact and_left_comm

variable [Scalar C]

/-- A fill; one without a weight weighs one. -/
structure Fill (K C : Type) [Scalar C] where
  coordinates : List K
  weight : C := ((1 : Nat) : C)

/-- Where the coordinates fall, if there is one for each axis. -/
def Fill.bins? (fill : Fill K C) (rows : List (Edges K)) : Option (List Nat) :=
  if fill.coordinates.length = rows.length then
    some (rows.zipWith Edges.findBin fill.coordinates)
  else
    none

theorem Fill.bins?_eq_some_iff
    {fill : Fill K C}
    {rows : List (Edges K)}
    {bins : List Nat} :
    fill.bins? rows = some bins ↔
      fill.coordinates.length = rows.length ∧
        rows.zipWith Edges.findBin fill.coordinates = bins := by
  rw [Fill.bins?]
  split
  · next sameLength => simp [sameLength]
  · next otherLength => simp [otherLength]

/-- One call that changes a histogram and puts no other axis in the place of one of its own. -/
inductive Change (K C : Type) [Scalar C] where
  | fill (entry : Fill K C)
  | write (bins : List Nat) (value : C)
  | axis (index : Nat) (change : AxisChange K)
  | title (text : String)

namespace Change

/-- The change as a fill. -/
def fill? : Change K C → Option (Fill K C)
  | .fill entry => some entry
  | _ => none

/-- The change is a fill or a write. -/
def isRecord : Change K C → Bool
  | .fill _ => true
  | .write _ _ => true
  | .axis _ _ => false
  | .title _ => false

/-- A fill has one coordinate for each axis, and a write goes to a cell. -/
def Fits (rows : List (Edges K)) : Change K C → Prop
  | .fill entry => entry.coordinates.length = rows.length
  | .write bins _ => Grid.IsCell (rows.map Edges.binCount) bins
  | .axis _ _ => True
  | .title _ => True

instance decidableFits
    (rows : List (Edges K)) :
    (change : Change K C) →
    Decidable (change.Fits rows)
  | .fill entry => inferInstanceAs (Decidable (entry.coordinates.length = rows.length))
  | .write bins _ => inferInstanceAs (Decidable (Grid.IsCell (rows.map Edges.binCount) bins))
  | .axis _ _ => isTrue trivial
  | .title _ => isTrue trivial

/-- What the change makes of the content of a cell. -/
def onCell
    (rows : List (Edges K))
    (cell : List Nat)
    (content : C) :
    Change K C → C
  | .fill entry => if entry.bins? rows = some cell then content + entry.weight else content
  | .write bins value => if bins = cell then value else content
  | .axis _ _ => content
  | .title _ => content

end Change

/-- The fills among changes, in their order. -/
def fillsOf (changes : List (Change K C)) : List (Fill K C) :=
  changes.filterMap Change.fill?

/-- Without a write to it, a cell adds up the weights of the fills that land in it. -/
theorem foldl_onCell_of_not_written
    {rows : List (Edges K)}
    {cell : List Nat}
    {changes : List (Change K C)}
    (notWritten : ∀ value, .write cell value ∉ changes)
    (content : C) :
    changes.foldl (fun content change => change.onCell rows cell content) content =
      ((fillsOf changes).filter fun fill => fill.bins? rows = some cell).foldl
        (fun sum fill => sum + fill.weight) content := by
  induction changes generalizing content with
  | nil => rfl
  | cons change rest inductionHypothesis =>
      have restNotWritten : ∀ value, .write cell value ∉ rest :=
        fun value member => notWritten value (by simp [member])
      rw [List.foldl_cons, inductionHypothesis restNotWritten]
      cases change with
      | fill entry =>
          by_cases lands : entry.bins? rows = some cell <;>
            simp [fillsOf, Change.fill?, Change.onCell, lands]
      | write bins value =>
          have elsewhere : bins ≠ cell := by
            rintro rfl
            exact notWritten value (by simp)
          rw [Change.onCell, if_neg elsewhere]
          rfl
      | axis index axisChange => rfl
      | title text => rfl

/-- Changes of axes and titles do nothing to a cell. -/
theorem foldl_onCell_filter_isRecord
    (rows : List (Edges K))
    (cell : List Nat)
    (changes : List (Change K C))
    (content : C) :
    (changes.filter Change.isRecord).foldl
        (fun content change => change.onCell rows cell content) content =
      changes.foldl (fun content change => change.onCell rows cell content) content := by
  induction changes generalizing content with
  | nil => rfl
  | cons change rest inductionHypothesis =>
      cases change with
      | fill entry => exact inductionHypothesis _
      | write bins value => exact inductionHypothesis _
      | axis index axisChange => exact inductionHypothesis _
      | title text => exact inductionHypothesis _

omit [Scalar K] in
/-- Changes of axes and titles are no fills. -/
theorem fillsOf_filter_isRecord (changes : List (Change K C)) :
    fillsOf (changes.filter Change.isRecord) = fillsOf changes := by
  rw [fillsOf, List.filterMap_filter, fillsOf]
  apply List.filterMap_congr
  intro change _
  cases change <;> rfl

/-- A number and, in the order of the fills, the weights of those that a cell encloses. -/
def collect
    (rows : List (Edges K))
    (cell : List Nat)
    (changes : List (Change K C))
    (start : C) :
    C :=
  ((fillsOf changes).filter fun fill => Encloses rows cell fill.coordinates).foldl
    (fun sum fill => sum + fill.weight) start

namespace Histogram

/-- The bin edges along each axis. -/
def edges (histogram : Histogram K C) : List (Edges K) :=
  histogram.axes.map Axis.edges

/-- The outcome of a change. -/
def perform (histogram : Histogram K C) : Change K C → Except Fault (Histogram K C)
  | .fill entry => histogram.fill entry.coordinates entry.weight
  | .write bins value => histogram.setContent bins value
  | .axis index change => .ok (histogram.modifyAxis index change.apply change.bins_apply)
  | .title text => .ok (histogram.withTitle text)

/-- The histogram after a change; a refused change leaves it as it is. -/
def after (histogram : Histogram K C) (change : Change K C) : Histogram K C :=
  match histogram.perform change with
  | .ok changed => changed
  | .error _ => histogram

/-- The histogram after changes, one after the other. -/
def run (histogram : Histogram K C) (changes : List (Change K C)) : Histogram K C :=
  changes.foldl after histogram

omit [Scalar C] in
theorem length_edges (histogram : Histogram K C) :
    histogram.edges.length = histogram.dimensions := by
  rw [edges, List.length_map, dimensions]

omit [Scalar C] in
theorem map_binCount_edges (histogram : Histogram K C) :
    histogram.edges.map Edges.binCount = histogram.shape := by
  rw [edges, List.map_map]
  rfl

omit [Scalar C] in
theorem isCell_iff {histogram : Histogram K C} {cell : List Nat} :
    histogram.IsCell cell ↔ Grid.IsCell (histogram.edges.map Edges.binCount) cell := by
  rw [map_binCount_edges, IsCell]

omit [Scalar C] in
theorem zipWith_findBin_edges (histogram : Histogram K C) (coordinates : List K) :
    histogram.edges.zipWith Edges.findBin coordinates = histogram.binsOf coordinates := by
  rw [edges, List.zipWith_map_left]
  rfl

omit [Scalar C] in
/-- Changing all of an axis but its edges leaves the edges of all axes. -/
theorem edges_modifyAxis
    (histogram : Histogram K C)
    (index : Nat)
    (change : AxisChange K) :
    (histogram.modifyAxis index change.apply change.bins_apply).edges = histogram.edges := by
  simp only [edges, modifyAxis]
  apply List.ext_getElem
  · simp
  · intro place _ _
    simp only [List.getElem_map, List.getElem_modify]
    split
    · exact change.edges_apply _
    · rfl

/-- The histogram with a change made that is not refused. -/
def made (histogram : Histogram K C) : Change K C → Histogram K C
  | .fill entry =>
      (histogram.withEntries (histogram.entries + 1)).addToCell
        (histogram.binsOf entry.coordinates) entry.weight
  | .write bins value => histogram.modifyCell bins fun _ => value
  | .axis index change => histogram.modifyAxis index change.apply change.bins_apply
  | .title text => histogram.withTitle text

/-- A change that fits is made. -/
theorem perform_of_fits
    {histogram : Histogram K C}
    {change : Change K C}
    (fits : change.Fits histogram.edges) :
    histogram.perform change = .ok (histogram.made change) := by
  cases change with
  | fill entry =>
      rw [Change.Fits, length_edges] at fits
      exact if_pos fits
  | write bins value =>
      rw [Change.Fits, map_binCount_edges] at fits
      have sameLength : bins.length = histogram.dimensions := by
        simpa [shape, dimensions] using fits.length_eq.symm
      rw [perform, setContent, if_pos sameLength, if_pos (Grid.isSome_address?_iff.mpr fits), made]
  | axis index axisChange => rfl
  | title text => rfl

/-- A change that does not fit is refused. -/
theorem perform_of_not_fits
    {histogram : Histogram K C}
    {change : Change K C}
    (notFitting : ¬change.Fits histogram.edges) :
    ∃ fault, histogram.perform change = .error fault := by
  cases change with
  | fill entry =>
      rw [Change.Fits, length_edges] at notFitting
      exact ⟨_, if_neg notFitting⟩
  | write bins value =>
      rw [Change.Fits, map_binCount_edges, ← Grid.isSome_address?_iff] at notFitting
      by_cases sameLength : bins.length = histogram.dimensions
      · exact ⟨_, by rw [perform, setContent, if_pos sameLength, if_neg notFitting]⟩
      · exact ⟨_, by rw [perform, setContent, if_neg sameLength]⟩
  | axis index axisChange => exact absurd trivial notFitting
  | title text => exact absurd trivial notFitting

theorem after_of_fits
    {histogram : Histogram K C}
    {change : Change K C}
    (fits : change.Fits histogram.edges) :
    histogram.after change = histogram.made change := by
  rw [after, perform_of_fits fits]

theorem after_of_not_fits
    {histogram : Histogram K C}
    {change : Change K C}
    (notFitting : ¬change.Fits histogram.edges) :
    histogram.after change = histogram := by
  obtain ⟨fault, refused⟩ := perform_of_not_fits notFitting
  rw [after, refused]

/-- No change moves an edge. -/
theorem edges_after (histogram : Histogram K C) (change : Change K C) :
    (histogram.after change).edges = histogram.edges := by
  by_cases fits : change.Fits histogram.edges
  · rw [after_of_fits fits]
    cases change with
    | fill entry => exact congrArg (List.map Axis.edges) (sameFrame_modifyCell _ _ _).axes_eq
    | write bins value => exact congrArg (List.map Axis.edges) (sameFrame_modifyCell _ _ _).axes_eq
    | axis index axisChange => exact histogram.edges_modifyAxis index axisChange
    | title text => rfl
  · rw [after_of_not_fits fits]

/-- The entries count the fills with one coordinate for each axis. -/
theorem entries_after (histogram : Histogram K C) (change : Change K C) :
    (histogram.after change).entries =
      histogram.entries +
        (fillsOf [change]).countP fun fill =>
          fill.coordinates.length = histogram.edges.length := by
  by_cases fits : change.Fits histogram.edges
  · rw [after_of_fits fits]
    cases change with
    | fill entry =>
        rw [made, addToCell, (sameFrame_modifyCell _ _ _).entries_eq]
        simp [fillsOf, Change.fill?, withEntries, show entry.coordinates.length = _ from fits]
    | write bins value => exact (sameFrame_modifyCell _ _ _).entries_eq
    | axis index axisChange => rfl
    | title text => rfl
  · rw [after_of_not_fits fits]
    cases change with
    | fill entry =>
        simp [fillsOf, Change.fill?, show ¬entry.coordinates.length = _ from fits]
    | write bins value => rfl
    | axis index axisChange => rfl
    | title text => rfl

/-- A change acts on the content of a cell by what the cell held before. -/
theorem content_after
    {histogram : Histogram K C}
    {cell : List Nat}
    (isCell : histogram.IsCell cell)
    (change : Change K C) :
    (histogram.after change).content cell =
      change.onCell histogram.edges cell (histogram.content cell) := by
  by_cases fits : change.Fits histogram.edges
  · rw [after_of_fits fits]
    cases change with
    | fill entry =>
        have sameLength : entry.coordinates.length = histogram.edges.length := fits
        have counted : (histogram.withEntries (histogram.entries + 1)).IsCell cell := isCell
        simp only [made, addToCell, content_modifyCell counted, Change.onCell,
          Fill.bins?_eq_some_iff, zipWith_findBin_edges, sameLength, true_and]
        rfl
    | write bins value => exact content_modifyCell isCell _
    | axis index axisChange =>
        have sameShape : (histogram.made (.axis index axisChange)).shape = histogram.shape :=
          map_bins_modify histogram.axes index axisChange.bins_apply
        exact content_congr sameShape rfl cell
    | title text => rfl
  · rw [after_of_not_fits fits]
    cases change with
    | fill entry => exact (if_neg fun lands => fits (Fill.bins?_eq_some_iff.mp lands).1).symm
    | write bins value =>
        have elsewhere : bins ≠ cell := by
          rintro rfl
          rw [Change.Fits, map_binCount_edges] at fits
          exact fits isCell
        exact (if_neg elsewhere).symm
    | axis index axisChange => rfl
    | title text => rfl

/-- No run moves an edge. -/
theorem edges_run (histogram : Histogram K C) (changes : List (Change K C)) :
    (histogram.run changes).edges = histogram.edges := by
  induction changes generalizing histogram with
  | nil => rfl
  | cons change rest inductionHypothesis =>
      exact (inductionHypothesis _).trans (histogram.edges_after change)

/-- A run counts the fills with one coordinate for each axis. -/
theorem entries_run (histogram : Histogram K C) (changes : List (Change K C)) :
    (histogram.run changes).entries =
      histogram.entries +
        (fillsOf changes).countP fun fill =>
          fill.coordinates.length = histogram.edges.length := by
  induction changes generalizing histogram with
  | nil => rfl
  | cons change rest inductionHypothesis =>
      have split : fillsOf (change :: rest) = fillsOf [change] ++ fillsOf rest :=
        List.filterMap_append (l := [change])
      have later := inductionHypothesis (histogram.after change)
      rw [edges_after, entries_after] at later
      rw [split, List.countP_append, ← Nat.add_assoc]
      exact later

/-- The content of a cell after a run is a fold over the changes. -/
theorem content_run
    {histogram : Histogram K C}
    {cell : List Nat}
    (isCell : histogram.IsCell cell)
    (changes : List (Change K C)) :
    (histogram.run changes).content cell =
      changes.foldl (fun content change => change.onCell histogram.edges cell content)
        (histogram.content cell) := by
  induction changes generalizing histogram with
  | nil => rfl
  | cons change rest inductionHypothesis =>
      have stillCell : (histogram.after change).IsCell cell := by
        rw [isCell_iff, edges_after, ← isCell_iff]
        exact isCell
      have later := inductionHypothesis stillCell
      rw [edges_after, content_after isCell] at later
      exact later

/-- Changes that do not fit can be left out. -/
theorem run_filter_fits (histogram : Histogram K C) (changes : List (Change K C)) :
    histogram.run (changes.filter fun change => change.Fits histogram.edges) =
      histogram.run changes := by
  induction changes generalizing histogram with
  | nil => rfl
  | cons change rest inductionHypothesis =>
      have later := inductionHypothesis (histogram.after change)
      rw [edges_after] at later
      by_cases fits : change.Fits histogram.edges
      · rw [List.filter_cons_of_pos (by simpa using fits)]
        exact later
      · rw [List.filter_cons_of_neg (by simpa using fits)]
        rw [after_of_not_fits fits] at later
        exact later.trans (congrArg (run · rest) (after_of_not_fits fits).symm)

theorem IsNew.edges_eq
    {name : String}
    {axes : List (Axis K)}
    {histogram : Histogram K C}
    (isNew : IsNew name axes histogram) :
    histogram.edges = axes.map Axis.edges := by
  rw [edges, isNew.axes_eq]

theorem IsNew.isCell_iff
    {name : String}
    {axes : List (Axis K)}
    {histogram : Histogram K C}
    {bins : List Nat}
    (isNew : IsNew name axes histogram) :
    histogram.IsCell bins ↔ Grid.IsCell (axes.map Axis.bins) bins := by
  rw [IsCell, shape, isNew.axes_eq]

/-- What a histogram holds after changes to a new one over some axes. -/
structure Records
    (axes : List (Axis K))
    (changes : List (Change K C))
    (result : Histogram K C) :
    Prop where
  /-- The entries count the fills with one coordinate for each axis. -/
  entries_eq :
    result.entries =
      (fillsOf changes).countP fun fill => fill.coordinates.length = axes.length
  /-- A cell that is never written collects the fills from zero. -/
  content_unwritten :
    ∀ cell,
      Grid.IsCell (axes.map Axis.bins) cell →
      (∀ value, .write cell value ∉ changes) →
      result.content cell = collect (axes.map Axis.edges) cell changes ((0 : Nat) : C)
  /-- A cell collects the fills after the last write to it from the value written. -/
  content_written :
    ∀ cell earlier value later,
      Grid.IsCell (axes.map Axis.bins) cell →
      changes = earlier ++ .write cell value :: later →
      (∀ other, .write cell other ∉ later) →
      result.content cell = collect (axes.map Axis.edges) cell later value
  /-- What is no cell holds zero. -/
  content_outside :
    ∀ bins,
      ¬Grid.IsCell (axes.map Axis.bins) bins →
      result.content bins = ((0 : Nat) : C)

/-- Without a write to it, a cell collects the fills whose coordinates it encloses. -/
theorem foldl_onCell_eq_collect
    [Scalar.Ordered K]
    {rows : List (Edges K)}
    {cell : List Nat}
    {changes : List (Change K C)}
    (isCell : Grid.IsCell (rows.map Edges.binCount) cell)
    (notWritten : ∀ value, .write cell value ∉ changes)
    (content : C) :
    changes.foldl (fun content change => change.onCell rows cell content) content =
      collect rows cell changes content := by
  rw [foldl_onCell_of_not_written notWritten, collect]
  congr 2
  funext fill
  exact decide_eq_decide.mpr (Fill.bins?_eq_some_iff.trans (encloses_iff isCell).symm)

/-- A run over a new histogram leaves its record. -/
theorem records_run
    [Scalar.Ordered K]
    {name : String}
    {axes : List (Axis K)}
    {start : Histogram K C}
    (isNew : IsNew name axes start)
    (changes : List (Change K C)) :
    Records axes changes (start.run changes) := by
  refine
    { entries_eq := ?_
      content_unwritten := ?_
      content_written := ?_
      content_outside := ?_ }
  · rw [entries_run, isNew.entries_eq, isNew.edges_eq, List.length_map, Nat.zero_add]
  · intro cell isCell notWritten
    rw [← isNew.isCell_iff] at isCell
    rw [content_run isCell, isNew.content_eq,
      foldl_onCell_eq_collect (isCell_iff.mp isCell) notWritten, isNew.edges_eq]
  · intro cell earlier value later isCell split notWritten
    rw [← isNew.isCell_iff] at isCell
    rw [content_run isCell, split, List.foldl_append, List.foldl_cons, Change.onCell, if_pos rfl,
      foldl_onCell_eq_collect (isCell_iff.mp isCell) notWritten, isNew.edges_eq]
  · intro bins notCell
    apply content_of_not_isCell
    rw [Histogram.isCell_iff, edges_run, ← Histogram.isCell_iff, isNew.isCell_iff]
    exact notCell

/-- Runs that fill and write alike over the same edges end alike, whatever is active. -/
theorem run_congr
    {first second : Histogram K C}
    {changes others : List (Change K C)}
    (sameEdges : second.edges = first.edges)
    (sameEntries : second.entries = first.entries)
    (sameContent : ∀ bins, second.content bins = first.content bins)
    (sameRecord : others.filter Change.isRecord = changes.filter Change.isRecord) :
    (second.run others).entries = (first.run changes).entries ∧
      ∀ bins, (second.run others).content bins = (first.run changes).content bins := by
  constructor
  · rw [entries_run, entries_run, sameEdges, sameEntries, ← fillsOf_filter_isRecord others,
      sameRecord, fillsOf_filter_isRecord]
  · intro bins
    by_cases isCell : first.IsCell bins
    · have otherIsCell : second.IsCell bins := by
        rw [isCell_iff, sameEdges, ← isCell_iff]
        exact isCell
      rw [content_run isCell, content_run otherIsCell, sameEdges, sameContent,
        ← foldl_onCell_filter_isRecord _ _ others, sameRecord, foldl_onCell_filter_isRecord]
    · have endsOutside : ¬(first.run changes).IsCell bins := by
        rw [isCell_iff, edges_run, ← isCell_iff]
        exact isCell
      have otherEndsOutside : ¬(second.run others).IsCell bins := by
        rw [isCell_iff, edges_run, sameEdges, ← isCell_iff]
        exact isCell
      rw [content_of_not_isCell endsOutside, content_of_not_isCell otherEndsOutside]

/--
A run over a new histogram counts the fills with one coordinate for each axis, and
each cell holds the last value written to it and, added in their order, the weights
of the later fills that it encloses. Changes that do not fit are refused, and the
refused ones can be left out. Restrictions and titles, those of the axes at the
start as well, make no difference to entries and contents.
-/
theorem run_outcomes
    [Scalar.Ordered K]
    {name : String}
    {axes : List (Axis K)}
    {start : Histogram K C}
    (created : create name axes = .ok start)
    (changes : List (Change K C)) :
    Records axes changes (start.run changes) ∧
      (∀ change,
        ((∃ fault, (start.run changes).perform change = .error fault) ↔
            ¬change.Fits (axes.map Axis.edges)) ∧
          (¬change.Fits (axes.map Axis.edges) →
            start.run (changes ++ [change]) = start.run changes)) ∧
      start.run (changes.filter fun change => change.Fits (axes.map Axis.edges)) =
        start.run changes ∧
      ∀ otherName otherAxes (other : Histogram K C) others,
        create otherName otherAxes = .ok other →
        otherAxes.map Axis.edges = axes.map Axis.edges →
        others.filter Change.isRecord = changes.filter Change.isRecord →
        (other.run others).entries = (start.run changes).entries ∧
          ∀ bins, (other.run others).content bins = (start.run changes).content bins := by
  have isNew := isNew_of_create_eq_ok created
  refine ⟨records_run isNew changes, ?_, ?_, ?_⟩
  · intro change
    rw [← isNew.edges_eq, ← edges_run start changes]
    refine ⟨⟨?_, perform_of_not_fits⟩, ?_⟩
    · rintro ⟨fault, refused⟩ fits
      rw [perform_of_fits fits] at refused
      cases refused
    · intro notFitting
      rw [run, List.foldl_append]
      exact after_of_not_fits notFitting
  · rw [← isNew.edges_eq]
    exact run_filter_fits start changes
  · intro otherName otherAxes other others otherCreated sameRows sameRecord
    have otherIsNew := isNew_of_create_eq_ok otherCreated
    have otherEdges : other.edges = start.edges := by
      rw [otherIsNew.edges_eq, sameRows, isNew.edges_eq]
    have sameEntries : other.entries = start.entries := by
      rw [otherIsNew.entries_eq, isNew.entries_eq]
    have sameContent : ∀ bins, other.content bins = start.content bins := by
      intro bins
      rw [otherIsNew.content_eq, isNew.content_eq]
    exact run_congr otherEdges sameEntries sameContent sameRecord

/-- Two axes, the first one with only its second bin active. -/
def sampleAxes : List (Axis Float) :=
  [{ edges := ⟨[0, 1, 2], by decide, by decide, by decide⟩
     selection := .span 2 2
     selection_fits := ⟨by decide, by decide, by decide⟩ },
    { edges := ⟨[0, 10, 20, 30], by decide, by decide, by decide⟩ }]

/-- Fills, writes and other changes, some of which do not fit. -/
def sampleChanges : List (Change Float Float) :=
  [.fill { coordinates := [1.5, 5] },
    .axis 1 (.span 2 3),
    .axis 0 (.timeDisplay "%d/%m"),
    .write [2, 1] 2,
    .write [3, 1] 7,
    .fill { coordinates := [1.5] },
    .fill { coordinates := [1, 0], weight := 0.5 },
    .title "later",
    .fill { coordinates := [2, 5], weight := 4 }]

/-- Three fills are counted, and one of them falls into the cell after the write. -/
theorem sampleAxes_run :
    ∃ start : Histogram Float Float,
      create "sample" sampleAxes = .ok start ∧
        (start.run sampleChanges).entries = 3 ∧
        (start.run sampleChanges).content [2, 1] = 2.5 := by
  have nonempty : sampleAxes ≠ [] := List.cons_ne_nil _ _
  obtain ⟨start, created⟩ := exists_create_eq_ok (C := Float) nonempty (by decide) "sample"
  obtain ⟨records, -⟩ := run_outcomes created sampleChanges
  refine ⟨start, created, records.entries_eq.trans (by decide), ?_⟩
  have content :=
    records.content_written [2, 1] (sampleChanges.take 3) 2 (sampleChanges.drop 4)
      (by decide) rfl (by simp [sampleChanges])
  exact content.trans (by decide)

end Histogram

end PlotBoard
