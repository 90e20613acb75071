import PlotBoard.Proofs.Histogram.Projection
import PlotBoard.Proofs.Histogram.Words

namespace PlotBoard

/-!
# Where contents are stored

In memory a histogram is a row of contents with the strides of its axes, and a cell is
looked up by its number, which is computed in 64 bits. Nothing binds the strides and the
contents to the axes there: a look-up may lead past the end of the contents, and then the
operation breaks off. Of what is stored for a histogram every look-up finds a content, and
each operation does what it does to the histogram.
-/

/-- Why an operation on stored contents breaks off. -/
inductive Breakdown where
  | overflow (cause : Overflow)
  | outside (number size : Nat)

/-- What a histogram keeps in memory; nothing binds the axes to the strides and the contents. -/
structure Storage (K C : Type) [Scalar K] where
  name : String
  title : String
  axes : List (Axis K)
  strides : List Nat
  contents : Array C
  entries : Nat

namespace Storage

variable {K C : Type} [Scalar K]

/-- The number of axes. -/
def dimensions (storage : Storage K C) : Nat :=
  storage.axes.length

/-- The number of bins along each axis. -/
def shape (storage : Storage K C) : List Nat :=
  storage.axes.map Axis.bins

/-- The number of a cell, by the strides that are stored; what is no cell has none. -/
def number? (storage : Storage K C) (bins : List Nat) : Except Overflow (Option Nat) :=
  Words.addressFrom 0 storage.shape storage.strides bins

/-- The place of the content of a cell. -/
def place?
    (storage : Storage K C)
    (bins : List Nat) :
    Except Breakdown (Option (Fin storage.contents.size)) :=
  match storage.number? bins with
  | .error cause => .error (.overflow cause)
  | .ok none => .ok none
  | .ok (some number) =>
      if inside : number < storage.contents.size then
        .ok (some ⟨number, inside⟩)
      else
        .error (.outside number storage.contents.size)

/-- The storage with the content of one cell changed, if there is such a cell. -/
def modifyCell?
    (storage : Storage K C)
    (bins : List Nat)
    (change : C → C) :
    Except Breakdown (Option (Storage K C)) :=
  (storage.place? bins).map fun found =>
    found.map fun place =>
      { storage with contents := storage.contents.modify place change }

/-- The storage with the content of one cell changed; bins that are no cell change nothing. -/
def modifyCell
    (storage : Storage K C)
    (bins : List Nat)
    (change : C → C) :
    Except Breakdown (Storage K C) :=
  (storage.modifyCell? bins change).map (·.getD storage)

/-- A cell visited with its content; bins that are no cell are passed over. -/
def visitCell
    {S : Type}
    (storage : Storage K C)
    (visit : S → List Nat → C → Except Breakdown S)
    (state : S)
    (bins : List Nat) :
    Except Breakdown S :=
  (storage.place? bins).bind fun
    | some place => visit state bins storage.contents[place]
    | none => .ok state

/-- The state after every active cell has been visited, unless a visit breaks off. -/
def foldActive
    {S : Type}
    (storage : Storage K C)
    (visit : S → List Nat → C → Except Breakdown S)
    (state : S) :
    Except Breakdown S :=
  if storage.axes.any fun axis => axis.activeCount = 0 then
    .ok state
  else
    Grid.walk (storage.axes.map Axis.range)
      (fun outcome bins => outcome.bind fun state => storage.visitCell visit state bins)
      (.ok state)
      ((storage.axes.map Axis.range).map Prod.fst)

variable [Scalar C]

/-- Storage for a histogram without fills, unless the cells cannot be counted in 64 bits. -/
def create (name : String) (axes : List (Axis K)) : Except Histogram.Fault (Storage K C) :=
  if axes = [] then
    .error (.noAxes name)
  else
    match Words.strides 1 (axes.map Axis.bins) with
    | .error _ => .error (.tooManyCells name)
    | .ok (strides, cells) =>
        .ok {
          name := name
          title := ""
          axes := axes
          strides := strides
          contents := Array.replicate cells ((0 : Nat) : C)
          entries := 0
        }

/-- The content of a cell; a list of bins that is no cell has content zero. -/
def content (storage : Storage K C) (bins : List Nat) : Except Breakdown C :=
  if bins.length = storage.dimensions then
    (storage.place? bins).map fun
      | some place => storage.contents[place]
      | none => ((0 : Nat) : C)
  else
    .ok ((0 : Nat) : C)

/-- One more fill; a wrong number of coordinates is refused. -/
def fill
    (storage : Storage K C)
    (coordinates : List K)
    (weight : C) :
    Except Breakdown (Except Histogram.Fault (Storage K C)) :=
  if coordinates.length = storage.dimensions then
    let counted := { storage with entries := storage.entries + 1 }
    (counted.modifyCell (storage.axes.zipWith Axis.findBin coordinates) (· + weight)).map .ok
  else
    .ok (.error (.wrongArity storage.name storage.dimensions coordinates.length))

/-- Another content in one cell; bins that are no cell are refused. -/
def setContent
    (storage : Storage K C)
    (bins : List Nat)
    (value : C) :
    Except Breakdown (Except Histogram.Fault (Storage K C)) :=
  if bins.length = storage.dimensions then
    (storage.modifyCell? bins fun _ => value).map fun
      | some written => .ok written
      | none => .error (.outside storage.name bins)
  else
    .ok (.error (.wrongArity storage.name storage.dimensions bins.length))

/-- Every active content added to the cell of its kept bins. -/
def accumulate
    (storage : Storage K C)
    (keep : List Nat)
    (target : Storage K C) :
    Except Breakdown (Storage K C) :=
  storage.foldActive
    (fun sum bins content => sum.modifyCell (Histogram.keptBins keep bins) (· + content))
    target

/-- The projection onto the axes with the given indices, in the given order. -/
def projection
    (storage : Storage K C)
    (keep : List Nat) :
    Except Breakdown (Except Error (Storage K C)) :=
  if keep = [] ∨ storage.dimensions < keep.length then
    .ok (.error (.tooFewAxes storage.name keep.length storage.dimensions))
  else
    match Histogram.firstInvalidAxis? storage.dimensions [] keep with
    | some axis => .ok (.error (.invalidAxis axis storage.dimensions))
    | none =>
        match
          create (Histogram.projectionName storage.name keep)
            (keep.filterMap fun axis => storage.axes[axis]?)
        with
        | .error fault => .ok (.error fault.toError)
        | .ok empty =>
            (storage.accumulate keep { empty with title := storage.title }).map fun summed =>
              .ok { summed with entries := storage.entries }

end Storage

variable {K C : Type} [Scalar K]

theorem Axis.one_le_of_mem_map_bins {axes : List (Axis K)} :
    ∀ count ∈ axes.map Axis.bins, 1 ≤ count := by
  intro count member
  obtain ⟨axis, -, rfl⟩ := List.mem_map.mp member
  exact axis.edges.binCount_pos

/-- A walk over states that stand for others reaches what stands for the other walk's end. -/
theorem Grid.walk_hom
    {S T : Type}
    {spans : List (Nat × Nat)}
    {visit : S → List Nat → S}
    {otherVisit : T → List Nat → T}
    (standsFor : S → T)
    (sameStep : ∀ state cell, otherVisit (standsFor state) cell = standsFor (visit state cell))
    (state : S)
    (cell : List Nat) :
    walk spans otherVisit (standsFor state) cell = standsFor (walk spans visit state cell) := by
  induction state, cell using walk.induct spans visit with
  | case1 state cell ended =>
      rw [walk_of_advance?_eq_none ended, walk_of_advance?_eq_none ended, sameStep]
  | case2 state cell next advanced inductionHypothesis =>
      rw [walk_of_advance?_eq_some advanced, walk_of_advance?_eq_some advanced, sameStep,
        inductionHypothesis]

namespace Histogram

/-- What is kept in memory of a histogram. -/
def store (histogram : Histogram K C) : Storage K C where
  name := histogram.name
  title := histogram.title
  axes := histogram.axes
  strides := Grid.strides 1 histogram.shape
  contents := histogram.contents
  entries := histogram.entries

theorem dimensions_store (histogram : Histogram K C) :
    histogram.store.dimensions = histogram.dimensions :=
  rfl

/-- The number of a cell is computed in 64 bits. -/
theorem number?_store (histogram : Histogram K C) (bins : List Nat) :
    histogram.store.number? bins = .ok (Grid.address? histogram.shape bins) :=
  Words.addressFrom_eq_ok Axis.one_le_of_mem_map_bins
    ((Nat.one_mul _).trans_lt histogram.size_fits) Nat.zero_lt_one bins

theorem lt_size_contents
    {histogram : Histogram K C}
    {bins : List Nat}
    {number : Nat}
    (found : Grid.address? histogram.shape bins = some number) :
    number < histogram.contents.size := by
  rw [histogram.size_contents]
  exact Grid.lt_size_of_address? found

/-- Under the number of a cell there is a content. -/
theorem place?_store_of_address
    {histogram : Histogram K C}
    {bins : List Nat}
    {number : Nat}
    (found : Grid.address? histogram.shape bins = some number) :
    histogram.store.place? bins = .ok (some ⟨number, lt_size_contents found⟩) := by
  rw [Storage.place?, number?_store, found]
  exact dif_pos (lt_size_contents found)

theorem place?_store_of_no_address
    {histogram : Histogram K C}
    {bins : List Nat}
    (missing : Grid.address? histogram.shape bins = none) :
    histogram.store.place? bins = .ok none := by
  rw [Storage.place?, number?_store, missing]

/-- Changing a content never breaks off. -/
theorem modifyCell?_store
    (histogram : Histogram K C)
    (bins : List Nat)
    (change : C → C) :
    histogram.store.modifyCell? bins change =
      .ok
        (if (Grid.address? histogram.shape bins).isSome then
          some (histogram.modifyCell bins change).store
        else
          none) := by
  rw [Storage.modifyCell?, modifyCell]
  cases found : Grid.address? histogram.shape bins with
  | none =>
      rw [place?_store_of_no_address found]
      rfl
  | some number =>
      rw [place?_store_of_address found]
      rfl

theorem modifyCell_store
    (histogram : Histogram K C)
    (bins : List Nat)
    (change : C → C) :
    histogram.store.modifyCell bins change = .ok (histogram.modifyCell bins change).store := by
  rw [Storage.modifyCell, modifyCell?_store]
  cases found : Grid.address? histogram.shape bins with
  | none =>
      rw [modifyCell, found]
      rfl
  | some number => rfl

variable [Scalar C]

theorem getElem_contents
    {histogram : Histogram K C}
    {bins : List Nat}
    {number : Nat}
    (found : Grid.address? histogram.shape bins = some number)
    (inside : number < histogram.contents.size) :
    histogram.contents[number] = histogram.content bins :=
  Option.some.inj ((Array.getElem?_eq_getElem inside).symm.trans (getElem?_contents found))

/-- A histogram is made just when storage for it is. -/
theorem create_store (name : String) (axes : List (Axis K)) :
    Storage.create (C := C) name axes = (create name axes).map store := by
  by_cases nonempty : axes ≠ []
  · rw [Storage.create, if_neg nonempty, create, dif_pos nonempty]
    -- The checked products go through just when the number of all cells fits.
    by_cases fits : Grid.size (axes.map Axis.bins) < UInt64.size
    · have counted :=
        Words.strides_eq_ok Axis.one_le_of_mem_map_bins ((Nat.one_mul _).trans_lt fits)
      rw [Nat.one_mul] at counted
      rw [counted, dif_pos fits]
      rfl
    · obtain ⟨overflow, refused⟩ :=
        Words.exists_strides_eq_error Axis.one_le_of_mem_map_bins (by decide)
          ((Nat.not_lt.mp fits).trans_eq (Nat.one_mul _).symm)
      rw [refused, dif_neg fits]
      rfl
  · rw [Storage.create, if_pos (not_not.mp nonempty), create, dif_neg nonempty]
    rfl

theorem content_store (histogram : Histogram K C) (bins : List Nat) :
    histogram.store.content bins = .ok (histogram.content bins) := by
  rw [Storage.content]
  split
  · cases found : Grid.address? histogram.shape bins with
    | none =>
        rw [place?_store_of_no_address found, content_eq, found]
        rfl
    | some number =>
        rw [place?_store_of_address found]
        exact congrArg Except.ok (getElem_contents found (lt_size_contents found))
  · next otherLength =>
      have notCell : ¬histogram.IsCell bins := by
        intro isCell
        exact otherLength (isCell.length_eq.symm.trans (List.length_map _))
      rw [content_of_not_isCell notCell]

/-- A fill never breaks off. -/
theorem fill_store
    (histogram : Histogram K C)
    (coordinates : List K)
    (weight : C) :
    histogram.store.fill coordinates weight =
      .ok ((histogram.fill coordinates weight).map store) := by
  rw [Storage.fill, fill, dimensions_store]
  split
  · have filled :=
      (histogram.withEntries (histogram.entries + 1)).modifyCell_store
        (histogram.binsOf coordinates) (· + weight)
    exact congrArg (Except.map Except.ok) filled
  · rfl

omit [Scalar C] in
/-- Writing a content never breaks off. -/
theorem setContent_store
    (histogram : Histogram K C)
    (bins : List Nat)
    (value : C) :
    histogram.store.setContent bins value =
      .ok ((histogram.setContent bins value).map store) := by
  rw [Storage.setContent, setContent, dimensions_store, modifyCell?_store]
  split
  · split <;> rfl
  · rfl

section Visits

variable
  {S T : Type}
  {visit : S → List Nat → C → S}
  {storedVisit : T → List Nat → C → Except Breakdown T}
  (standsFor : S → T)
  (sameVisit :
    ∀ state bins content,
      storedVisit (standsFor state) bins content = .ok (standsFor (visit state bins content)))

include sameVisit

theorem visitCell_store
    (histogram : Histogram K C)
    (state : S)
    (bins : List Nat) :
    histogram.store.visitCell storedVisit (standsFor state) bins =
      .ok (standsFor (histogram.visitCell visit state bins)) := by
  rw [Storage.visitCell, visitCell]
  cases found : Grid.address? histogram.shape bins with
  | none =>
      rw [place?_store_of_no_address found]
      rfl
  | some number =>
      have stored := getElem_contents found (lt_size_contents found)
      rw [place?_store_of_address found]
      exact (sameVisit state bins _).trans (by rw [← stored]; rfl)

/-- Visiting the active cells breaks off only where a visit does. -/
theorem foldActive_store
    (histogram : Histogram K C)
    (state : S) :
    histogram.store.foldActive storedVisit (standsFor state) =
      .ok (standsFor (histogram.foldActive visit state)) := by
  rw [foldActive]
  split
  · next nothingActive => exact if_pos nothingActive
  · next someActive =>
      refine (if_neg someActive).trans ?_
      exact
        Grid.walk_hom (fun state => Except.ok (standsFor state))
          (histogram.visitCell_store standsFor sameVisit) state _

end Visits

theorem accumulate_store
    (histogram : Histogram K C)
    (keep : List Nat)
    (target : Histogram K C) :
    histogram.store.accumulate keep target.store =
      .ok (histogram.accumulate keep target).store :=
  histogram.foldActive_store store
    (fun sum bins _ => sum.modifyCell_store (keptBins keep bins) _) target

/-- A projection never breaks off. -/
theorem projection_store
    (histogram : Histogram K C)
    (keep : List Nat) :
    histogram.store.projection keep = .ok ((histogram.projection keep).map store) := by
  have made := create_store (C := C) (projectionName histogram.name keep) (histogram.keptAxes keep)
  rw [keptAxes] at made
  rw [Storage.projection, projection, dimensions_store]
  split
  · rfl
  · cases firstInvalidAxis? histogram.dimensions [] keep with
    | some axis => rfl
    | none =>
        simp only [store, keptAxes] at made ⊢
        rw [made]
        cases create (C := C) (projectionName histogram.name keep)
            (keep.filterMap fun axis => histogram.axes[axis]?) with
        | error fault => rfl
        | ok empty =>
            have summed := histogram.accumulate_store keep (empty.withTitle histogram.title)
            exact congrArg (Except.map _) summed

end Histogram

end PlotBoard
