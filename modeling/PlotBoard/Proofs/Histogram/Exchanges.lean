import PlotBoard.Proofs.Histogram.Runs
import PlotBoard.Proofs.Histogram.Storage

namespace PlotBoard

/-!
# Exchanging axes

Whoever may change an axis of a histogram may as well put any other axis in its place,
and neither strides nor contents follow. As long as no axis is exchanged for one with
another number of bins, what is stored stays the storage of a histogram, whatever else is
done, and no operation breaks off. With another number of bins the strides belong to other
cells.
-/

/-- One call that changes a histogram or exchanges one of its axes. -/
inductive Operation (K C : Type) [Scalar K] [Scalar C] where
  | change (change : Change K C)
  | exchange (index : Nat) (axis : Axis K)

namespace Operation

variable {K C : Type} [Scalar K] [Scalar C]

/-- Of axes with some numbers of bins, one is at most exchanged for another with as many. -/
def KeepsBins (counts : List Nat) : Operation K C → Prop
  | .change _ => True
  | .exchange index axis => ∀ count ∈ counts[index]?, axis.bins = count

instance decidableKeepsBins
    (counts : List Nat) :
    (operation : Operation K C) →
    Decidable (operation.KeepsBins counts)
  | .change _ => isTrue trivial
  | .exchange index axis =>
      inferInstanceAs (Decidable (∀ count ∈ counts[index]?, axis.bins = count))

end Operation

namespace Storage

variable {K C : Type} [Scalar K] [Scalar C]

/-- The outcome of a call. -/
def perform
    (storage : Storage K C) :
    Operation K C →
    Except Breakdown (Except Histogram.Fault (Storage K C))
  | .change (.fill entry) => storage.fill entry.coordinates entry.weight
  | .change (.write bins value) => storage.setContent bins value
  | .change (.axis index change) =>
      .ok (.ok { storage with axes := storage.axes.modify index change.apply })
  | .change (.title text) => .ok (.ok { storage with title := text })
  | .exchange index axis => .ok (.ok { storage with axes := storage.axes.set index axis })

/-- The storage after a call; a refused call leaves it as it is. -/
def after (storage : Storage K C) (operation : Operation K C) : Except Breakdown (Storage K C) :=
  (storage.perform operation).map fun
    | .ok changed => changed
    | .error _ => storage

/--
What can come to be stored over some numbers of bins: storage for a histogram that is made,
changed in calls that keep the numbers of bins, and projected, any number of times.
-/
inductive Reachable : List Nat → Storage K C → Prop
  | created
      {name : String}
      {axes : List (Axis K)}
      {start : Storage K C}
      (made : create name axes = .ok start) :
      Reachable (axes.map Axis.bins) start
  | changed
      {counts : List Nat}
      {storage next : Storage K C}
      {operation : Operation K C}
      (reachable : Reachable counts storage)
      (keepsBins : operation.KeepsBins counts)
      (made : storage.after operation = .ok next) :
      Reachable counts next
  | projected
      {counts keep : List Nat}
      {storage result : Storage K C}
      (reachable : Reachable counts storage)
      (made : storage.projection keep = .ok (.ok result)) :
      Reachable result.shape result

end Storage

variable {K C : Type} [Scalar K]

/-- An axis takes the place of those with as many bins. -/
theorem Axis.bins_ite_bins_eq (axis current : Axis K) :
    (if axis.bins = current.bins then axis else current).bins = current.bins := by
  split
  · next sameBins => exact sameBins
  · rfl

namespace Histogram

variable [Scalar C]

theorem perform_change_store
    (histogram : Histogram K C)
    (change : Change K C) :
    histogram.store.perform (.change change) = .ok ((histogram.perform change).map store) := by
  cases change with
  | fill entry => exact histogram.fill_store entry.coordinates entry.weight
  | write bins value => exact histogram.setContent_store bins value
  | axis index change =>
      have sameShape := map_bins_modify histogram.axes index change.bins_apply
      simp only [Storage.perform, store, perform, Except.map, modifyAxis, shape, sameShape]
  | title text => rfl

theorem after_change_store
    (histogram : Histogram K C)
    (change : Change K C) :
    histogram.store.after (.change change) = .ok (histogram.after change).store := by
  rw [Storage.after, perform_change_store, after]
  cases histogram.perform change <;> rfl

omit [Scalar C] in
/-- The histogram with one axis exchanged for another, unless the numbers of bins differ. -/
def exchange (histogram : Histogram K C) (index : Nat) (axis : Axis K) : Histogram K C :=
  histogram.modifyAxis index (fun current => if axis.bins = current.bins then axis else current)
    axis.bins_ite_bins_eq

omit [Scalar C] in
theorem shape_exchange
    (histogram : Histogram K C)
    (index : Nat)
    (axis : Axis K) :
    (histogram.exchange index axis).shape = histogram.shape :=
  map_bins_modify histogram.axes index axis.bins_ite_bins_eq

/-- Exchanging an axis for one with as many bins leaves a histogram. -/
theorem after_exchange_store
    {histogram : Histogram K C}
    {index : Nat}
    {axis : Axis K}
    (sameBins : ∀ count ∈ histogram.shape[index]?, axis.bins = count) :
    histogram.store.after (.exchange index axis) =
      .ok (histogram.exchange index axis).store := by
  have sameAxes : (histogram.exchange index axis).axes = histogram.axes.set index axis := by
    apply List.ext_getElem?
    intro place
    rw [exchange, modifyAxis, List.getElem?_modify, List.getElem?_set]
    split
    · next here =>
        subst here
        cases found : histogram.axes[index]? with
        | none => simp [List.getElem?_eq_none_iff.mp found]
        | some current =>
            obtain ⟨inside, -⟩ := List.getElem?_eq_some_iff.mp found
            have counted : histogram.shape[index]? = some current.bins := by
              rw [shape, List.getElem?_map, found, Option.map_some]
            rw [if_pos inside, Option.map_eq_map, Option.map_some, if_pos (sameBins _ counted)]
    · exact id_map _
  have sameShape := histogram.shape_exchange index axis
  simp only [Storage.after, Storage.perform, store, Except.map, sameAxes, sameShape]
  rfl

/-- A call that keeps the numbers of bins never breaks off and leaves a histogram. -/
theorem exists_after_store
    {histogram : Histogram K C}
    {operation : Operation K C}
    (keepsBins : operation.KeepsBins histogram.shape) :
    ∃ next : Histogram K C,
      histogram.store.after operation = .ok next.store ∧ next.shape = histogram.shape := by
  cases operation with
  | change change =>
      refine ⟨_, histogram.after_change_store change, ?_⟩
      rw [← map_binCount_edges, edges_after, map_binCount_edges]
  | exchange index axis =>
      exact ⟨_, after_exchange_store keepsBins, histogram.shape_exchange index axis⟩

end Histogram

namespace Storage

/-- Cells over some numbers of bins are numbered one to one, and each look-up finds a content. -/
structure StoresCells [Scalar C] (counts : List Nat) (storage : Storage K C) : Prop where
  shape_eq : storage.shape = counts
  /-- The cells are counted in 64 bits, and there are as many contents. -/
  strides_eq : Words.strides 1 counts = .ok (storage.strides, storage.contents.size)
  /-- The numbers are computed in 64 bits. -/
  bijOn_number :
    Set.BijOn storage.number? {bins | Grid.IsCell counts bins}
      ((fun number => .ok (some number)) '' Set.Iio storage.contents.size)
  number_eq_none :
    ∀ bins,
      bins.length = counts.length →
      ¬Grid.IsCell counts bins →
      storage.number? bins = .ok none
  read :
    ∀ bins,
      ∃ content,
        storage.content bins = .ok content ∧
          ∀ number,
            storage.number? bins = .ok (some number) →
            storage.contents[number]? = some content
  filled : ∀ coordinates weight, ∃ outcome, storage.fill coordinates weight = .ok outcome
  written : ∀ bins value, ∃ outcome, storage.setContent bins value = .ok outcome
  visited :
    ∀ {S : Type} (visit : S → List Nat → C → S) (state : S),
      ∃ result,
        storage.foldActive (fun current bins content => .ok (visit current bins content)) state =
          .ok result
  projected : ∀ keep, ∃ outcome, storage.projection keep = .ok outcome

end Storage

variable [Scalar C]

theorem Histogram.storesCells_store (histogram : Histogram K C) :
    Storage.StoresCells histogram.shape histogram.store where
  shape_eq := rfl
  strides_eq := by
    have counted :=
      Words.strides_eq_ok Axis.one_le_of_mem_map_bins ((Nat.one_mul _).trans_lt histogram.size_fits)
    rwa [Nat.one_mul, ← histogram.size_contents] at counted
  bijOn_number := by
    have numbered := Grid.bijOn_address? histogram.shape
    have sameNumber : histogram.store.number? = Except.ok ∘ Grid.address? histogram.shape :=
      funext histogram.number?_store
    have okInjective : Function.Injective (Except.ok : Option Nat → Except Overflow (Option Nat)) :=
      fun _ _ => Except.ok.inj
    have composed := okInjective.injOn.bijOn_image.comp numbered
    rw [Set.image_image] at composed
    rw [sameNumber]
    exact histogram.size_contents ▸ composed
  number_eq_none bins _ notCell := by
    rw [histogram.number?_store, Grid.address?_eq_none_of_not_isCell notCell]
  read bins := by
    refine ⟨_, histogram.content_store bins, ?_⟩
    intro number found
    rw [histogram.number?_store] at found
    exact getElem?_contents (Except.ok.inj found)
  filled coordinates weight := ⟨_, histogram.fill_store coordinates weight⟩
  written bins value := ⟨_, histogram.setContent_store bins value⟩
  visited _ state := ⟨_, histogram.foldActive_store id (fun _ _ _ => rfl) state⟩
  projected keep := ⟨_, histogram.projection_store keep⟩

/-- Whatever can come to be stored is what is stored for a histogram. -/
theorem Storage.Reachable.exists_eq_store
    {counts : List Nat}
    {storage : Storage K C}
    (reachable : storage.Reachable counts) :
    ∃ histogram : Histogram K C, storage = histogram.store ∧ histogram.shape = counts := by
  induction reachable with
  | @created name axes start made =>
      rw [Histogram.create_store] at made
      cases created : Histogram.create (C := C) name axes with
      | error fault =>
          rw [created] at made
          cases made
      | ok histogram =>
          rw [created] at made
          obtain rfl := Except.ok.inj made
          have sameAxes := (Histogram.isNew_of_create_eq_ok created).axes_eq
          exact ⟨histogram, rfl, congrArg (List.map Axis.bins) sameAxes⟩
  | changed _ keepsBins made inductionHypothesis =>
      obtain ⟨histogram, rfl, rfl⟩ := inductionHypothesis
      obtain ⟨next, nextMade, sameShape⟩ := Histogram.exists_after_store keepsBins
      obtain rfl := Except.ok.inj (nextMade.symm.trans made)
      exact ⟨next, rfl, sameShape⟩
  | @projected _ keep _ _ _ made inductionHypothesis =>
      obtain ⟨histogram, rfl, rfl⟩ := inductionHypothesis
      rw [Histogram.projection_store] at made
      cases projected : histogram.projection keep with
      | error error =>
          rw [projected] at made
          cases made
      | ok sum =>
          rw [projected] at made
          obtain rfl := Except.ok.inj (Except.ok.inj made)
          exact ⟨sum, rfl, rfl⟩

namespace Storage

/--
As long as calls keep the numbers of bins, the tuples of one bin for each axis are numbered
one to one from zero up to the number of contents, and no other tuple of that length has a
number. No product and no sum in the computation of strides and numbers takes more than 64
bits. So no access leads past the contents, be it to read, to fill, to write, to visit the
active cells or to project them, and no further call of that kind breaks off.
-/
theorem storesCells_of_reachable
    {counts : List Nat}
    {storage : Storage K C}
    (reachable : storage.Reachable counts) :
    storage.StoresCells counts ∧
      ∀ operation : Operation K C,
        operation.KeepsBins counts →
          ∃ next, storage.after operation = .ok next ∧ next.Reachable counts := by
  obtain ⟨histogram, rfl, rfl⟩ := reachable.exists_eq_store
  refine ⟨histogram.storesCells_store, ?_⟩
  intro operation keepsBins
  obtain ⟨next, made, -⟩ := Histogram.exists_after_store keepsBins
  exact ⟨next.store, made, reachable.changed keepsBins made⟩

/-- Bins of width one. -/
def fourBinAxis : Axis Float where
  edges := ⟨[0, 1, 2, 3, 4], by decide, by decide, by decide⟩

/-- Bins of width one under a name of their own. -/
def namedAxis : Axis Float :=
  fourBinAxis.withName "x"

/-- A row that is filled, put under another axis with four bins, and projected. -/
theorem storesCells_fourBins :
    ∃ start filled exchanged projected : Storage Float Float,
      create "row" [fourBinAxis] = .ok start ∧
        start.after (.change (.fill { coordinates := [2.5] })) = .ok filled ∧
        filled.after (.exchange 0 namedAxis) = .ok exchanged ∧
        exchanged.projection [0] = .ok (.ok projected) ∧
        exchanged.StoresCells [4] ∧
        projected.StoresCells projected.shape := by
  have created : create (C := Float) "row" [fourBinAxis] = .ok _ := rfl
  have start : Reachable [4] _ := .created created
  obtain ⟨-, calls⟩ := storesCells_of_reachable start
  obtain ⟨filled, filledMade, filledReachable⟩ :=
    calls (.change (.fill { coordinates := [2.5] })) trivial
  obtain ⟨-, laterCalls⟩ := storesCells_of_reachable filledReachable
  obtain ⟨exchanged, exchangedMade, exchangedReachable⟩ :=
    laterCalls (.exchange 0 namedAxis) (by decide)
  obtain ⟨stores, -⟩ := storesCells_of_reachable exchangedReachable
  obtain ⟨row, rfl, sameShape⟩ := exchangedReachable.exists_eq_store
  have oneAxis : row.dimensions = 1 := by
    rw [Histogram.dimensions, ← List.length_map Axis.bins]
    exact congrArg List.length sameShape
  obtain ⟨sum, summed, -⟩ :=
    Histogram.projection_of_keeps (List.cons_ne_nil 0 []) oneAxis.ge
      ⟨by simp [oneAxis], by decide⟩
  have projectedMade : row.store.projection [0] = .ok (.ok sum.store) := by
    rw [Histogram.projection_store, summed]
    rfl
  obtain ⟨projectedStores, -⟩ :=
    storesCells_of_reachable (exchangedReachable.projected projectedMade)
  exact
    ⟨_, filled, row.store, sum.store, created, filledMade, exchangedMade, projectedMade, stores,
      projectedStores⟩

/-- More bins of the same width. -/
def fiveBinAxis : Axis Float where
  edges := ⟨[0, 1, 2, 3, 4, 5], by decide, by decide, by decide⟩

/-- Contents for four bins under an axis with five. -/
def exchangedRow : Storage Float Float where
  name := "row"
  title := ""
  axes := [fiveBinAxis]
  strides := [1]
  contents := #[0, 0, 0, 0]
  entries := 0

/--
An axis with four bins can be exchanged for one with five. The fifth bin then has the
number four, and reading, filling, writing and visiting the bins break off behind the four
contents.
-/
theorem exchangedRow_breaks_off :
    Axis.indexed 4 = .ok fourBinAxis ∧
      Axis.indexed 5 = .ok fiveBinAxis ∧
      ∃ start : Storage Float Float,
        create "row" [fourBinAxis] = .ok start ∧
          start.after (.exchange 0 fiveBinAxis) = .ok exchangedRow ∧
          Grid.IsCell exchangedRow.shape [5] ∧
          exchangedRow.number? [5] = .ok (some 4) ∧
          exchangedRow.contents.size = 4 ∧
          exchangedRow.content [5] = .error (.outside 4 4) ∧
          exchangedRow.fill [4.5] 1 = .error (.outside 4 4) ∧
          exchangedRow.setContent [5] 7 = .error (.outside 4 4) ∧
          exchangedRow.foldActive (fun sum _ content => .ok (sum + content)) 0 =
            .error (.outside 4 4) := by
  refine ⟨rfl, rfl, _, rfl, rfl, by decide, rfl, rfl, rfl, rfl, rfl, ?_⟩
  have spansRise : ∀ span ∈ exchangedRow.axes.map Axis.range, span.1 ≤ span.2 := by
    decide
  refine (if_neg (by decide)).trans ?_
  rw [Grid.walk_eq_foldl spansRise]
  rfl

end Storage

end PlotBoard
