import Mathlib.Data.List.Forall2
import Mathlib.Data.List.Basic
import PlotBoard.Histogram.Odometer

namespace PlotBoard.Grid

/-!
# What a walk visits

A walk from the first cell of a box visits the cells of the box, each of them
once, the first axis running fastest. The cells are listed by nested choices,
and a walk is the fold over that list.
-/

/-- The order of a walk: later axes outweigh earlier ones. -/
def Precedes : List Nat → List Nat → Prop
  | first :: firsts, second :: seconds =>
      Precedes firsts seconds ∨ (firsts = seconds ∧ first < second)
  | _, _ => False

theorem Precedes.ne
    {first second : List Nat}
    (precedes : Precedes first second) :
    first ≠ second := by
  induction first generalizing second with
  | nil => simp [Precedes] at precedes
  | cons bin bins inductionHypothesis =>
      rintro rfl
      rcases precedes with restPrecedes | ⟨-, below⟩
      · exact inductionHypothesis restPrecedes rfl
      · exact Nat.lt_irrefl bin below

/-- Cells in walking order are all different. -/
theorem nodup_of_pairwise_precedes
    {cells : List (List Nat)}
    (ordered : cells.Pairwise Precedes) :
    cells.Nodup :=
  ordered.imp Precedes.ne

theorem Precedes.asymm
    {first second : List Nat}
    (precedes : Precedes first second) :
    ¬Precedes second first := by
  induction first generalizing second with
  | nil => simp [Precedes] at precedes
  | cons bin bins inductionHypothesis =>
      cases second with
      | nil => simp [Precedes]
      | cons other others =>
          rintro (othersPrecede | ⟨sameOthers, otherBelow⟩)
          · rcases precedes with binsPrecede | ⟨rfl, -⟩
            · exact inductionHypothesis binsPrecede othersPrecede
            · exact othersPrecede.ne rfl
          · rcases precedes with binsPrecede | ⟨-, binBelow⟩
            · exact binsPrecede.ne sameOthers.symm
            · exact Nat.lt_asymm binBelow otherBelow

/-- There is only one way to list cells in walking order. -/
theorem eq_of_pairwise_precedes
    {cells others : List (List Nat)}
    (ordered : cells.Pairwise Precedes)
    (othersOrdered : others.Pairwise Precedes)
    (sameMembers : ∀ cell, cell ∈ cells ↔ cell ∈ others) :
    cells = others := by
  have permuted : cells.Perm others :=
    (List.perm_ext_iff_of_nodup (nodup_of_pairwise_precedes ordered)
      (nodup_of_pairwise_precedes othersOrdered)).mpr sameMembers
  refine permuted.eq_of_pairwise ?_ ordered othersOrdered
  intro cell other _ _ precedes follows
  exact absurd follows precedes.asymm

/-- A listed tuple takes each of its members from the choices at its place. -/
theorem mem_tuples_iff
    {choices : List (List Nat)}
    {cell : List Nat} :
    cell ∈ tuples choices ↔
      List.Forall₂ (fun bins bin => bin ∈ bins) choices cell := by
  induction choices generalizing cell with
  | nil => cases cell <;> simp [tuples]
  | cons bins choices inductionHypothesis =>
      cases cell with
      | nil => simp [tuples]
      | cons bin rest =>
          simp only [tuples, List.mem_flatMap, List.mem_map, List.cons.injEq,
            List.forall₂_cons, ← inductionHypothesis]
          constructor
          · rintro ⟨others, othersMember, chosen, chosenMember, rfl, rfl⟩
            exact ⟨chosenMember, othersMember⟩
          · rintro ⟨binMember, restMember⟩
            exact ⟨rest, restMember, bin, binMember, rfl, rfl⟩

/-- Tuples of rising choices are listed in walking order. -/
theorem pairwise_tuples
    {choices : List (List Nat)}
    (rising : ∀ bins ∈ choices, bins.Pairwise (· < ·)) :
    (tuples choices).Pairwise Precedes := by
  induction choices with
  | nil => simp [tuples]
  | cons bins choices inductionHypothesis =>
      rw [tuples, List.pairwise_flatMap]
      constructor
      · intro rest _
        rw [List.pairwise_map]
        exact (rising bins (by simp)).imp fun below => Or.inr ⟨rfl, below⟩
      · refine (inductionHypothesis fun others member =>
          rising others (by simp [member])).imp ?_
        intro first second precedes cell cellMember later laterMember
        obtain ⟨bin, -, rfl⟩ := List.mem_map.mp cellMember
        obtain ⟨laterBin, -, rfl⟩ := List.mem_map.mp laterMember
        exact Or.inl precedes

/-- The bins of a span in rising order. -/
def spanBins (span : Nat × Nat) : List Nat :=
  List.range' span.1 (span.2 + 1 - span.1)

section Walk

variable {S : Type}

theorem walk_of_advance?_eq_none
    {spans : List (Nat × Nat)}
    {cell : List Nat}
    (ended : advance? spans cell = none)
    (visit : S → List Nat → S)
    (state : S) :
    walk spans visit state cell = visit state cell := by
  rw [walk]
  split
  · rfl
  · next advanced => simp [ended] at advanced

theorem walk_of_advance?_eq_some
    {spans : List (Nat × Nat)}
    {cell next : List Nat}
    (advanced : advance? spans cell = some next)
    (visit : S → List Nat → S)
    (state : S) :
    walk spans visit state cell = walk spans visit (visit state cell) next := by
  rw [walk]
  split
  · next ended => simp [ended] at advanced
  · next other otherAdvanced =>
      rw [Option.some.inj (advanced.symm.trans otherAdvanced)]

/-- Visits to all bins of the first axis from one on, the other bins staying as they are. -/
def visitRow
    (visit : S → List Nat → S)
    (bin last : Nat)
    (state : S)
    (rest : List Nat) :
    S :=
  (spanBins (bin, last)).foldl (fun state bin => visit state (bin :: rest)) state

/-- A walk first finishes the row in which it stands. -/
theorem walk_row
    {first last bin : Nat}
    {spans : List (Nat × Nat)}
    {rest : List Nat}
    (within : bin ≤ last)
    (visit : S → List Nat → S)
    (state : S) :
    walk ((first, last) :: spans) visit state (bin :: rest) =
      match advance? spans rest with
      | none => visitRow visit bin last state rest
      | some next =>
          walk ((first, last) :: spans) visit (visitRow visit bin last state rest)
            (first :: next) := by
  obtain ⟨left, rfl⟩ := Nat.exists_eq_add_of_le within
  induction left generalizing bin state with
  | zero =>
      have onlyBin : visitRow visit bin (bin + 0) state rest = visit state (bin :: rest) := by
        simp [visitRow, spanBins]
      cases advanced : advance? spans rest with
      | none =>
          have ended : advance? ((first, bin + 0) :: spans) (bin :: rest) = none := by
            simp [advance?, advanced]
          simp only [onlyBin]
          exact walk_of_advance?_eq_none ended visit state
      | some next =>
          have carried :
              advance? ((first, bin + 0) :: spans) (bin :: rest) = some (first :: next) := by
            simp [advance?, advanced]
          simp only [onlyBin]
          exact walk_of_advance?_eq_some carried visit state
  | succ left inductionHypothesis =>
      have stepped :
          advance? ((first, bin + (left + 1)) :: spans) (bin :: rest) =
            some ((bin + 1) :: rest) := by
        simp [advance?]
      have row :
          visitRow visit bin (bin + (left + 1)) state rest =
            visitRow visit (bin + 1) (bin + (left + 1)) (visit state (bin :: rest)) rest := by
        have length : bin + (left + 1) + 1 - bin = left + 1 + 1 := by omega
        have remaining : bin + (left + 1) + 1 - (bin + 1) = left + 1 := by omega
        simp only [visitRow, spanBins, length, remaining, List.range'_succ,
          List.foldl_cons]
      rw [walk_of_advance?_eq_some stepped, row]
      have sameLast : bin + (left + 1) = bin + 1 + left := by omega
      rw [sameLast]
      exact inductionHypothesis (visit state (bin :: rest)) (Nat.le_add_right (bin + 1) left)

/-- With an axis in front, a walk visits a whole row where it visited a cell before. -/
theorem walk_cons
    {first last : Nat}
    (nonempty : first ≤ last)
    (spans : List (Nat × Nat))
    (visit : S → List Nat → S)
    (state : S)
    (cell : List Nat) :
    walk ((first, last) :: spans) visit state (first :: cell) =
      walk spans (visitRow visit first last) state cell := by
  rw [walk_row nonempty]
  cases advanced : advance? spans cell with
  | none =>
      rw [walk_of_advance?_eq_none advanced]
  | some next =>
      have fewer := stepsLeft_lt_of_advance? advanced
      rw [walk_of_advance?_eq_some advanced]
      exact walk_cons nonempty spans visit _ next
termination_by stepsLeft spans cell

/-- A walk from the first cell of a box is the fold over the cells of the box. -/
theorem walk_eq_foldl
    {spans : List (Nat × Nat)}
    (nonempty : ∀ span ∈ spans, span.1 ≤ span.2)
    (visit : S → List Nat → S)
    (state : S) :
    walk spans visit state (spans.map Prod.fst) =
      (tuples (spans.map spanBins)).foldl visit state := by
  induction spans generalizing visit state with
  | nil =>
      rw [List.map_nil, walk_of_advance?_eq_none rfl]
      rfl
  | cons span spans inductionHypothesis =>
      have othersNonempty : ∀ other ∈ spans, other.1 ≤ other.2 :=
        fun other member => nonempty other (by simp [member])
      calc
        walk (span :: spans) visit state (span.1 :: spans.map Prod.fst)
            = walk spans (visitRow visit span.1 span.2) state (spans.map Prod.fst) :=
          walk_cons (nonempty span (by simp)) spans visit state _
        _ = (tuples (spans.map spanBins)).foldl (visitRow visit span.1 span.2) state :=
          inductionHypothesis othersNonempty _ state
        _ = (tuples ((span :: spans).map spanBins)).foldl visit state := by
          simp only [List.map_cons, tuples, List.foldl_flatMap, List.foldl_map]
          rfl

end Walk

end PlotBoard.Grid
