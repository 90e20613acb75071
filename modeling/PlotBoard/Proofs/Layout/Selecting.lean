import Mathlib.Data.List.Induction
import PlotBoard.Proofs.Layout.Slots

namespace PlotBoard

/-!
# Selecting regions over whole runs

Regions are attached, selected, taken away and replaced by those of a layout, in any
order and under any numbers. The selection is kept as a number that is looked up anew
each time. It nevertheless always means the region that the last successful call
selected, because regions are only ever added at the end or taken away together with
the selection.
-/

variable {K : Type}

/-- A call that changes a surface. -/
inductive SurfaceChange (K : Type) where
  | attach (region : Region K)
  | select (number : Nat)
  | clear
  | divide (margin : K) (layout : Layout)

namespace SurfaceChange

/-- The call begins by taking away all regions. -/
def startsOver : SurfaceChange K → Bool
  | .attach _ => false
  | .select _ => false
  | .clear => true
  | .divide _ _ => true

/-- The region that the call selects on a surface. -/
def selects? (change : SurfaceChange K) (surface : Surface K) : Option (Region K) :=
  match change with
  | .select number => surface.selectedBy? number
  | _ => none

/-- The calls from the last one on that starts over, or all of them if none does. -/
def sinceStart : List (SurfaceChange K) → List (SurfaceChange K)
  | [] => []
  | change :: rest => if rest.any startsOver then sinceStart rest else change :: rest

theorem sinceStart_append_singleton
    (changes : List (SurfaceChange K))
    (change : SurfaceChange K) :
    sinceStart (changes ++ [change]) =
      if change.startsOver then [change] else sinceStart changes ++ [change] := by
  induction changes with
  | nil => simp [sinceStart]
  | cons first rest inductionHypothesis =>
      cases starts : change.startsOver
      · simp only [starts, Bool.false_eq_true, ↓reduceIte] at inductionHypothesis
        simp only [List.cons_append, sinceStart, List.any_append, List.any_cons, List.any_nil,
          starts, Bool.or_false, inductionHypothesis]
        split <;> rfl
      · simp only [starts, ↓reduceIte] at inductionHypothesis
        simp [sinceStart, starts, inductionHypothesis]

end SurfaceChange

namespace Surface

/-- A region is found under a number if it stands at that place and carries the number. -/
theorem region?_eq_some_iff
    {surface : Surface K}
    {number : Nat}
    {region : Region K} :
    surface.region? number = some region ↔
      1 ≤ number ∧ surface.regions[number - 1]? = some region ∧ region.number = number := by
  cases number with
  | zero => simp [region?]
  | succ index => simp [region?, Option.filter_eq_some_iff]

theorem region?_congr
    {first second : Surface K}
    (sameRegions : first.regions = second.regions)
    (number : Nat) :
    first.region? number = second.region? number := by
  cases number with
  | zero => rfl
  | succ index => rw [region?, region?, sameRegions]

/-- Attaching a region changes no answer for the places that are taken. -/
theorem region?_attach_of_le
    {surface : Surface K}
    {number : Nat}
    (taken : number ≤ surface.regions.length)
    (other : Region K) :
    (surface.attach other).region? number = surface.region? number := by
  cases number with
  | zero => rfl
  | succ index => rw [region?, region?, attach, List.getElem?_append_left taken]

/-- A region that is found stays under its number when others are attached. -/
theorem region?_attach_of_eq_some
    {surface : Surface K}
    {number : Nat}
    {region : Region K}
    (found : surface.region? number = some region)
    (other : Region K) :
    (surface.attach other).region? number = some region := by
  obtain ⟨positive, listed, -⟩ := region?_eq_some_iff.mp found
  obtain ⟨below, -⟩ := List.getElem?_eq_some_iff.mp listed
  have taken : number ≤ surface.regions.length := by omega
  rw [region?_attach_of_le taken, found]

theorem regions_select (surface : Surface K) (number : Nat) :
    (surface.select number).regions = surface.regions := by
  rw [select]
  split <;> rfl

/-- A call that selects answers with what is found under the number. -/
theorem selectedBy?_eq (surface : Surface K) (number : Nat) :
    surface.selectedBy? number = surface.region? number :=
  region?_congr (surface.regions_select number) number

theorem select_of_eq_none
    {surface : Surface K}
    {number : Nat}
    (missing : surface.region? number = none) :
    surface.select number = surface := by
  simp [select, missing]

theorem select_of_eq_some
    {surface : Surface K}
    {number : Nat}
    {region : Region K}
    (found : surface.region? number = some region) :
    surface.select number = { surface with selection := some number } := by
  simp [select, found]

/-- Regions attached one after the other stand behind the ones that were there. -/
theorem foldl_attach (surface : Surface K) (regions : List (Region K)) :
    regions.foldl attach surface = { surface with regions := surface.regions ++ regions } := by
  induction regions generalizing surface with
  | nil => rw [List.foldl_nil, List.append_nil]
  | cons region rest inductionHypothesis =>
      rw [List.foldl_cons, inductionHypothesis, attach, List.append_assoc, List.singleton_append]

theorem selected?_of_selection
    {surface : Surface K}
    {number : Nat}
    (selected : surface.selection = some number) :
    surface.selected? = surface.region? number := by
  rw [selected?, selected, Option.bind_some]

/-- The selection, if there is one, is the number of a region. -/
def Resolves (surface : Surface K) : Prop :=
  ∀ number, surface.selection = some number → ∃ region, surface.region? number = some region

/-- Attaching a region leaves the selected one as it is. -/
theorem selected?_attach
    {surface : Surface K}
    (resolves : surface.Resolves)
    (other : Region K) :
    (surface.attach other).selected? = surface.selected? := by
  cases selected : surface.selection with
  | none => rw [selected?, selected?, attach, selected, Option.bind_none, Option.bind_none]
  | some number =>
      obtain ⟨region, found⟩ := resolves number selected
      have stillSelected : (surface.attach other).selection = some number := selected
      rw [selected?_of_selection stillSelected, selected?_of_selection selected, found,
        region?_attach_of_eq_some found other]

theorem selected?_select (surface : Surface K) (number : Nat) :
    (surface.select number).selected? =
      (surface.selectedBy? number).or surface.selected? := by
  rw [selectedBy?_eq]
  cases found : surface.region? number with
  | none => rw [select_of_eq_none found, Option.none_or]
  | some region =>
      rw [select_of_eq_some found, Option.some_or]
      exact found

end Surface

variable [Scalar K]

namespace SurfaceChange

/-- The regions that the call attaches. -/
def attached : SurfaceChange K → List (Region K)
  | .attach region => [region]
  | .select _ => []
  | .clear => []
  | .divide margin layout => layout.regions margin

/-- The regions attached since the last call that starts over, in their order. -/
def attachedSinceStart (changes : List (SurfaceChange K)) : List (Region K) :=
  (sinceStart changes).flatMap attached

theorem attachedSinceStart_append_singleton
    (changes : List (SurfaceChange K))
    (change : SurfaceChange K) :
    attachedSinceStart (changes ++ [change]) =
      if change.startsOver then
        change.attached
      else
        attachedSinceStart changes ++ change.attached := by
  rw [attachedSinceStart, sinceStart_append_singleton]
  split
  · rw [List.flatMap_singleton]
  · rw [List.flatMap_append, List.flatMap_singleton, attachedSinceStart]

end SurfaceChange

namespace Surface

/-- The surface after a call. -/
def after (surface : Surface K) : SurfaceChange K → Surface K
  | .attach region => surface.attach region
  | .select number => surface.select number
  | .clear => surface.clear
  | .divide margin layout => (surface.divide margin layout).1

/-- The surface after calls, one after the other. -/
def run (surface : Surface K) (changes : List (SurfaceChange K)) : Surface K :=
  changes.foldl after surface

theorem run_append_singleton
    (surface : Surface K)
    (changes : List (SurfaceChange K))
    (change : SurfaceChange K) :
    surface.run (changes ++ [change]) = (surface.run changes).after change :=
  List.foldl_append

/-- A division takes away all regions and then attaches its own, one after the other. -/
theorem divide_eq_foldl_attach
    (surface : Surface K)
    (margin : K)
    (layout : Layout) :
    (surface.divide margin layout).1 = (layout.regions margin).foldl attach surface.clear := by
  rw [foldl_attach]
  rfl

/-- What a call does to the regions. -/
theorem regions_after (surface : Surface K) (change : SurfaceChange K) :
    (surface.after change).regions =
      if change.startsOver then
        change.attached
      else
        surface.regions ++ change.attached := by
  cases change with
  | attach region => rfl
  | select number =>
      rw [after, regions_select]
      exact (List.append_nil surface.regions).symm
  | clear => rfl
  | divide margin layout =>
      rw [after, divide_eq_foldl_attach, foldl_attach]
      rfl

/-- A surface without regions holds what has been attached since it last started over. -/
theorem regions_run
    {start : Surface K}
    (empty : start.regions = [])
    (changes : List (SurfaceChange K)) :
    (start.run changes).regions = SurfaceChange.attachedSinceStart changes := by
  induction changes using List.reverseRecOn with
  | nil => exact empty
  | append_singleton changes change inductionHypothesis =>
      rw [run_append_singleton, regions_after, inductionHypothesis,
        SurfaceChange.attachedSinceStart_append_singleton]

theorem resolves_after
    {surface : Surface K}
    (resolves : surface.Resolves)
    (change : SurfaceChange K) :
    (surface.after change).Resolves := by
  intro number selected
  cases change with
  | attach other =>
      obtain ⟨region, found⟩ := resolves number selected
      exact ⟨region, region?_attach_of_eq_some found other⟩
  | select chosen =>
      cases found : surface.region? chosen with
      | none =>
          rw [after, select_of_eq_none found] at selected ⊢
          exact resolves number selected
      | some region =>
          rw [after, select_of_eq_some found] at selected ⊢
          obtain rfl := Option.some.inj selected
          exact ⟨region, found⟩
  | clear => cases selected
  | divide margin layout => cases selected

/-- What a call does to the selected region. -/
theorem selected?_after
    {surface : Surface K}
    (resolves : surface.Resolves)
    (change : SurfaceChange K) :
    (surface.after change).selected? =
      if change.startsOver then none else (change.selects? surface).or surface.selected? := by
  cases change with
  | attach other => exact selected?_attach resolves other
  | select number => exact surface.selected?_select number
  | clear => rfl
  | divide margin layout => rfl

theorem resolves_run
    {start : Surface K}
    (nothingSelected : start.selection = none)
    (changes : List (SurfaceChange K)) :
    (start.run changes).Resolves := by
  induction changes using List.reverseRecOn with
  | nil =>
      intro number selected
      exact absurd (nothingSelected.symm.trans selected) (Option.some_ne_none number).symm
  | append_singleton changes change inductionHypothesis =>
      rw [run_append_singleton]
      exact resolves_after inductionHypothesis change

/-- The call at a place of a run selects a region. -/
def SelectsAt
    (start : Surface K)
    (changes : List (SurfaceChange K))
    (place : Nat)
    (region : Region K) :
    Prop :=
  ∃ change,
    changes[place]? = some change ∧
      change.selects? (start.run (changes.take place)) = some region

/-- No later call of the run selects a region or starts over. -/
def LastsFrom
    (start : Surface K)
    (changes : List (SurfaceChange K))
    (place : Nat) :
    Prop :=
  ∀ later change,
    place < later →
    changes[later]? = some change →
    change.startsOver = false ∧ ∀ other, ¬start.SelectsAt changes later other

/-- The region that the last successful call selected, if no call has started over since. -/
def LastSelected
    (start : Surface K)
    (changes : List (SurfaceChange K))
    (region : Region K) :
    Prop :=
  ∃ place, start.SelectsAt changes place region ∧ start.LastsFrom changes place

theorem selectsAt_append_iff_of_lt
    {start : Surface K}
    {changes later : List (SurfaceChange K)}
    {place : Nat}
    {region : Region K}
    (within : place < changes.length) :
    start.SelectsAt (changes ++ later) place region ↔ start.SelectsAt changes place region := by
  rw [SelectsAt, SelectsAt, List.getElem?_append_left within,
    List.take_append_of_le_length (Nat.le_of_lt within)]

theorem selectsAt_length_iff
    {start : Surface K}
    {changes : List (SurfaceChange K)}
    {change : SurfaceChange K}
    {region : Region K} :
    start.SelectsAt (changes ++ [change]) changes.length region ↔
      change.selects? (start.run changes) = some region := by
  simp [SelectsAt]

theorem SelectsAt.lt_length
    {start : Surface K}
    {changes : List (SurfaceChange K)}
    {place : Nat}
    {region : Region K}
    (selects : start.SelectsAt changes place region) :
    place < changes.length := by
  obtain ⟨change, found, -⟩ := selects
  obtain ⟨below, -⟩ := List.getElem?_eq_some_iff.mp found
  exact below

/-- A selection lasts over one more call if that call selects nothing and does not start over. -/
theorem lastsFrom_append_singleton_iff
    {start : Surface K}
    {changes : List (SurfaceChange K)}
    {change : SurfaceChange K}
    {place : Nat}
    (within : place < changes.length) :
    start.LastsFrom (changes ++ [change]) place ↔
      change.selects? (start.run changes) = none ∧
        change.startsOver = false ∧ start.LastsFrom changes place := by
  have lastFound : (changes ++ [change])[changes.length]? = some change :=
    List.getElem?_concat_length
  constructor
  · intro lasts
    obtain ⟨goesOn, selectsNothing⟩ := lasts changes.length change within lastFound
    refine ⟨?_, goesOn, ?_⟩
    · apply Option.eq_none_iff_forall_ne_some.mpr
      intro other selected
      exact selectsNothing other (selectsAt_length_iff.mpr selected)
    · intro later next after found
      obtain ⟨laterWithin, -⟩ := List.getElem?_eq_some_iff.mp found
      have laterFound : (changes ++ [change])[later]? = some next :=
        (List.getElem?_append_left laterWithin).trans found
      obtain ⟨nextGoesOn, nextSelectsNothing⟩ := lasts later next after laterFound
      exact
        ⟨nextGoesOn, fun other =>
          mt (selectsAt_append_iff_of_lt laterWithin).mpr (nextSelectsNothing other)⟩
  · rintro ⟨selectsNothing, goesOn, lasts⟩ later next after found
    rcases Nat.lt_or_ge later changes.length with laterWithin | isLast
    · rw [List.getElem?_append_left laterWithin] at found
      obtain ⟨nextGoesOn, nextSelectsNothing⟩ := lasts later next after found
      exact
        ⟨nextGoesOn, fun other =>
          mt (selectsAt_append_iff_of_lt laterWithin).mp (nextSelectsNothing other)⟩
    · obtain ⟨below, -⟩ := List.getElem?_eq_some_iff.mp found
      rw [List.length_append, List.length_singleton] at below
      obtain rfl : later = changes.length := Nat.le_antisymm (Nat.le_of_lt_succ below) isLast
      obtain rfl := Option.some.inj (lastFound.symm.trans found)
      refine ⟨goesOn, fun other selected => ?_⟩
      rw [selectsAt_length_iff, selectsNothing] at selected
      cases selected

/-- One more call either selects a region itself or leaves the last selected one, or none. -/
theorem lastSelected_append_singleton_iff
    {start : Surface K}
    {changes : List (SurfaceChange K)}
    {change : SurfaceChange K}
    {region : Region K} :
    start.LastSelected (changes ++ [change]) region ↔
      change.selects? (start.run changes) = some region ∨
        change.selects? (start.run changes) = none ∧
          change.startsOver = false ∧ start.LastSelected changes region := by
  constructor
  · rintro ⟨place, selects, lasts⟩
    have within := selects.lt_length
    rw [List.length_append, List.length_singleton] at within
    rcases Nat.lt_succ_iff_lt_or_eq.mp within with earlier | rfl
    · rw [lastsFrom_append_singleton_iff earlier] at lasts
      obtain ⟨selectsNothing, goesOn, lasted⟩ := lasts
      rw [selectsAt_append_iff_of_lt earlier] at selects
      exact Or.inr ⟨selectsNothing, goesOn, place, selects, lasted⟩
    · exact Or.inl (selectsAt_length_iff.mp selects)
  · rintro (selected | ⟨selectsNothing, goesOn, place, selects, lasted⟩)
    · refine ⟨changes.length, selectsAt_length_iff.mpr selected, ?_⟩
      intro later next after found
      obtain ⟨below, -⟩ := List.getElem?_eq_some_iff.mp found
      rw [List.length_append, List.length_singleton] at below
      exact absurd after (Nat.not_lt.mpr (Nat.le_of_lt_succ below))
    · have earlier := selects.lt_length
      exact
        ⟨place, (selectsAt_append_iff_of_lt earlier).mpr selects,
          (lastsFrom_append_singleton_iff earlier).mpr ⟨selectsNothing, goesOn, lasted⟩⟩

/-- The selected region is the one of the last successful call, as it was found then. -/
theorem selected?_run_eq_some_iff
    {start : Surface K}
    (nothingSelected : start.selection = none)
    (changes : List (SurfaceChange K))
    (region : Region K) :
    (start.run changes).selected? = some region ↔ start.LastSelected changes region := by
  induction changes using List.reverseRecOn with
  | nil =>
      have noneSelected : start.selected? = none := by
        rw [selected?, nothingSelected, Option.bind_none]
      constructor
      · intro selected
        cases noneSelected.symm.trans selected
      · rintro ⟨place, selects, -⟩
        cases selects.lt_length
  | append_singleton changes change inductionHypothesis =>
      rw [run_append_singleton, selected?_after (resolves_run nothingSelected changes),
        lastSelected_append_singleton_iff, ← inductionHypothesis]
      cases selects : change.selects? (start.run changes) with
      | none =>
          cases change.startsOver <;> simp
      | some other =>
          have goesOn : change.startsOver = false := by
            cases change with
            | select number => rfl
            | _ => cases selects
          simp [goesOn]

/--
Whatever is done to a surface that starts without regions, a region is found under a
number exactly if it is the one attached at that place since the surface last started
over and carries the number. Attaching others leaves it there, and finds nothing anew
at the places that are taken. A division takes all regions away and attaches its own.
Selecting a number answers with the region under it, and does nothing if there is none.
The selected region is the one of the last successful selection since the surface last
started over; without such a selection there is none.
-/
theorem run_selections
    (name : String)
    (bounds : Rect K)
    (changes : List (SurfaceChange K)) :
    let start : Surface K := { name := name, bounds := bounds }
    let surface := start.run changes
    (∀ number region,
        surface.region? number = some region ↔
          1 ≤ number ∧
            (SurfaceChange.attachedSinceStart changes)[number - 1]? = some region ∧
            region.number = number) ∧
      (∀ number region other,
        surface.region? number = some region →
        (surface.attach other).region? number = some region) ∧
      (∀ number other,
        number ≤ surface.regions.length →
        (surface.attach other).region? number = surface.region? number) ∧
      (∀ margin layout,
        (surface.divide margin layout).1 =
          (layout.regions margin).foldl attach surface.clear) ∧
      (∀ number,
        surface.selectedBy? number = surface.region? number ∧
          (surface.selectedBy? number = none → surface.select number = surface)) ∧
      ∀ region, surface.selected? = some region ↔ start.LastSelected changes region := by
  intro start surface
  have held : surface.regions = SurfaceChange.attachedSinceStart changes := regions_run rfl changes
  refine ⟨?_, ?_, ?_, surface.divide_eq_foldl_attach, ?_, ?_⟩
  · intro number region
    rw [region?_eq_some_iff, held]
  · intro number region other found
    exact region?_attach_of_eq_some found other
  · intro number other taken
    exact region?_attach_of_le taken other
  · intro number
    refine ⟨surface.selectedBy?_eq number, ?_⟩
    intro failed
    rw [selectedBy?_eq] at failed
    exact select_of_eq_none failed
  · exact selected?_run_eq_some_iff rfl changes

/-- A region with nothing to it but its number. -/
def numbered (number : Nat) : Region Rat where
  number := number
  name := "region"
  bounds := Rect.unit
  row := 0
  column := 0
  suppressed := {}
  margins := Margins.uniform 0

/-- Two regions under one number, of which the second stands at its place. -/
def unorderedCalls : List (SurfaceChange Rat) :=
  [.clear, .attach (numbered 2), .attach (numbered 2), .select 2, .select 1, .attach (numbered 3)]

/-- The failing selection and the region attached last leave the second region selected. -/
theorem run_selections_unorderedCalls :
    let start : Surface Rat := { name := "canvas", bounds := Rect.unit }
    let surface := start.run unorderedCalls
    surface.region? 2 = some (numbered 2) ∧
      (surface.attach (numbered 1)).region? 2 = some (numbered 2) ∧
      surface.selectedBy? 1 = none ∧
      surface.select 1 = surface ∧
      surface.selected? = some (numbered 2) ∧
      start.LastSelected unorderedCalls (numbered 2) := by
  obtain ⟨found, stays, -, -, selecting, selected⟩ :=
    run_selections "canvas" (Rect.unit : Rect Rat) unorderedCalls
  have second := (found 2 (numbered 2)).mpr ⟨by decide, rfl, rfl⟩
  exact
    ⟨second, stays 2 (numbered 2) (numbered 1) second, rfl, (selecting 1).2 rfl, rfl,
      (selected (numbered 2)).mp rfl⟩

end Surface

end PlotBoard
