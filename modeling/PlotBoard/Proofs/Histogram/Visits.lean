import PlotBoard.Proofs.Histogram.Cells

namespace PlotBoard

/-!
# Visits to the active cells

A walk forms one tuple of bins after the other and comes to an end. In a histogram the
tuples that it forms are the active cells, so each of them is a regular cell, and it is
visited once, with the content that is stored for it. An axis without active bins, and
nothing else, keeps a walk from visiting any cell.
-/

namespace Grid

/-- The tuples that a walk forms from a given one on, the last one being where it ends. -/
inductive Forms (spans : List (Nat × Nat)) : List Nat → List (List Nat) → Prop
  | last
      {cell : List Nat}
      (ended : advance? spans cell = none) :
      Forms spans cell [cell]
  | step
      {cell next : List Nat}
      {later : List (List Nat)}
      (advanced : advance? spans cell = some next)
      (rest : Forms spans next later) :
      Forms spans cell (cell :: later)

/-- Every walk ends after some tuples. -/
theorem exists_forms
    (spans : List (Nat × Nat))
    (cell : List Nat) :
    ∃ formed, Forms spans cell formed := by
  cases advanced : advance? spans cell with
  | none => exact ⟨[cell], .last advanced⟩
  | some next =>
      have fewer := stepsLeft_lt_of_advance? advanced
      obtain ⟨later, rest⟩ := exists_forms spans next
      exact ⟨cell :: later, .step advanced rest⟩
termination_by stepsLeft spans cell

/-- A walk visits the tuples that it forms, in their order. -/
theorem Forms.walk_eq_foldl
    {S : Type}
    {spans : List (Nat × Nat)}
    {cell : List Nat}
    {formed : List (List Nat)}
    (forms : Forms spans cell formed)
    (visit : S → List Nat → S)
    (state : S) :
    walk spans visit state cell = formed.foldl visit state := by
  induction forms generalizing state with
  | last ended => exact walk_of_advance?_eq_none ended visit state
  | step advanced rest inductionHypothesis =>
      rw [walk_of_advance?_eq_some advanced, inductionHypothesis, List.foldl_cons]

/-- From the first cell of a box the cells of the box are formed. -/
theorem forms_tuples
    {spans : List (Nat × Nat)}
    (nonempty : ∀ span ∈ spans, span.1 ≤ span.2) :
    Forms spans (spans.map Prod.fst) (tuples (spans.map spanBins)) := by
  obtain ⟨formed, forms⟩ := exists_forms spans (spans.map Prod.fst)
  -- A visit that notes the tuple tells one list of tuples from another.
  have sameNotes :=
    (forms.walk_eq_foldl Array.push #[]).symm.trans (walk_eq_foldl nonempty Array.push #[])
  have same : formed = tuples (spans.map spanBins) := by
    simpa [List.foldl_push_eq_append] using sameNotes
  rwa [same] at forms

end Grid

namespace Histogram

variable {K C : Type} [Scalar K] [Scalar C]

/-- The visits in their order, each to a cell and with a content. -/
def visits (histogram : Histogram K C) : List (List Nat × C) :=
  (histogram.foldActive (fun made cell content => made.push (cell, content)) #[]).toList

theorem visits_eq (histogram : Histogram K C) :
    histogram.visits = histogram.activeCells.map fun cell => (cell, histogram.content cell) := by
  rw [visits, foldActive_eq_foldl, List.foldl_push_eq_append]
  simp

theorem map_fst_visits (histogram : Histogram K C) :
    histogram.visits.map Prod.fst = histogram.activeCells := by
  rw [visits_eq, List.map_map]
  exact List.map_id _

/-- A visit goes to an active cell and brings the content that is stored under its number. -/
theorem mem_visits_iff
    {histogram : Histogram K C}
    {cell : List Nat}
    {content : C} :
    (cell, content) ∈ histogram.visits ↔
      histogram.IsActiveCell cell ∧
        ∃ number,
          Grid.address? histogram.shape cell = some number ∧
            histogram.contents[number]? = some content := by
  rw [visits_eq, List.mem_map]
  constructor
  · rintro ⟨visited, member, same⟩
    obtain ⟨rfl, rfl⟩ := Prod.mk.inj same
    have active := mem_activeCells_iff.mp member
    exact ⟨active, exists_number_of_isCell active.isCell⟩
  · rintro ⟨active, number, found, stored⟩
    have sameContent := (getElem?_contents found).symm.trans stored
    exact ⟨cell, mem_activeCells_iff.mpr active, by rw [Option.some.inj sameContent]⟩

/--
Whatever is done at each visit, it is done for the same visits: one for each active cell,
with the content that is stored for it, the first axis running fastest. There is no visit
just when some axis has no active bin. Otherwise the walk comes to an end after some tuples
of bins; all of them are regular cells, so that none is passed over.
-/
theorem foldActive_visits (histogram : Histogram K C) :
    (∀ (S : Type) (visit : S → List Nat → C → S) (state : S),
        histogram.foldActive visit state =
          histogram.visits.foldl (fun state made => visit state made.1 made.2) state) ∧
      (∀ cell content,
        (cell, content) ∈ histogram.visits ↔
          histogram.IsActiveCell cell ∧
            ∃ number,
              Grid.address? histogram.shape cell = some number ∧
                histogram.contents[number]? = some content) ∧
      (histogram.visits.map Prod.fst).Nodup ∧
      (histogram.visits.map Prod.fst).Pairwise Grid.Precedes ∧
      (histogram.visits = [] ↔ ∃ axis ∈ histogram.axes, ∀ bin, axis.isActive bin = false) ∧
      (histogram.visits ≠ [] →
        ∃ formed,
          Grid.Forms histogram.activeSpans (histogram.activeSpans.map Prod.fst) formed ∧
            (∀ (S : Type) (visit : S → List Nat → C → S) (state : S),
              histogram.foldActive visit state =
                formed.foldl (histogram.visitCell visit) state) ∧
            (∀ cell ∈ formed, histogram.IsCell cell) ∧
            histogram.visits.map Prod.fst = formed) := by
  have noVisit :
      histogram.visits = [] ↔ ∃ axis ∈ histogram.axes, ∀ bin, axis.isActive bin = false := by
    rw [visits_eq, List.map_eq_nil_iff, activeCells_eq_nil_iff]
  rw [map_fst_visits]
  refine
    ⟨?_, fun _ _ => mem_visits_iff, histogram.nodup_activeCells, histogram.pairwise_activeCells,
      noVisit, ?_⟩
  · intro S visit state
    rw [foldActive_eq_foldl, visits_eq, List.foldl_map]
  · intro someVisit
    have someActive : ∀ axis ∈ histogram.axes, axis.activeCount ≠ 0 := by
      intro axis member noneCounted
      exact someVisit
        (noVisit.mpr ⟨axis, member, Axis.activeCount_eq_zero_iff.mp noneCounted⟩)
    have forms := Grid.forms_tuples (activeSpans_rise someActive)
    rw [tuples_activeSpans] at forms
    refine ⟨histogram.activeCells, forms, ?_, ?_, rfl⟩
    · intro S visit state
      rw [foldActive_eq_walk someActive, forms.walk_eq_foldl]
    · intro cell member
      exact (mem_activeCells_iff.mp member).isCell

end Histogram

end PlotBoard
