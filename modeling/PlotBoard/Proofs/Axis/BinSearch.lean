import Mathlib.Data.List.Basic
import Mathlib.Data.List.Pairwise
import PlotBoard.Axis.Edges
import PlotBoard.Proofs.Number.Order

namespace PlotBoard

/-!
# Bin search

A coordinate is in the bin that counts the edges at or below it. Because the edges
rise, those are the first edges, so that the search finds their number, and the bin
found is the one whose lower edge is at or below the coordinate and whose upper edge
is above it.
-/

variable {K : Type} [Scalar K]

/-- Values of which each is less than all later ones increase. -/
theorem increasing_of_pairwise_lt
    {values : List K}
    (ordered : values.Pairwise (· < ·)) :
    Increasing values := by
  induction values with
  | nil => trivial
  | cons first rest inductionHypothesis =>
      obtain ⟨firstLess, restOrdered⟩ := List.pairwise_cons.mp ordered
      cases rest with
      | nil => trivial
      | cons second rest =>
          exact ⟨firstLess second List.mem_cons_self, inductionHypothesis restOrdered⟩

section Rising

variable [Scalar.Ordered K]

/-- Increasing values are ordered not only between neighbours. -/
theorem Increasing.pairwise_lt
    {values : List K}
    (increasing : Increasing values) :
    values.Pairwise (· < ·) := by
  induction values with
  | nil => exact .nil
  | cons first rest inductionHypothesis =>
      cases rest with
      | nil => exact List.pairwise_singleton _ _
      | cons second rest =>
          obtain ⟨less, restIncreasing⟩ := increasing
          have restOrdered := inductionHypothesis restIncreasing
          refine List.pairwise_cons.mpr ⟨?_, restOrdered⟩
          intro other member
          rcases List.mem_cons.mp member with rfl | inRest
          · exact less
          · exact Scalar.Ordered.lt_trans less
              ((List.pairwise_cons.mp restOrdered).1 other inRest)

theorem Increasing.pairwise_le
    {values : List K}
    (increasing : Increasing values) :
    values.Pairwise (· ≤ ·) :=
  increasing.pairwise_lt.imp Scalar.Ordered.le_of_lt

/-- The values at or below a number are the first ones. -/
theorem lt_countP_le_iff
    {values : List K}
    (ordered : values.Pairwise (· ≤ ·))
    (number : K)
    (place : Nat) :
    place < values.countP (fun value => value ≤ number) ↔
      ∃ value, values[place]? = some value ∧ value ≤ number := by
  induction values generalizing place with
  | nil => simp
  | cons first rest inductionHypothesis =>
      obtain ⟨firstBelow, restOrdered⟩ := List.pairwise_cons.mp ordered
      by_cases counted : first ≤ number
      · rw [List.countP_cons_of_pos (by simpa using counted)]
        cases place with
        | zero => simp [counted]
        | succ place => simpa using inductionHypothesis restOrdered place
      · -- No later value is at or below the number, since the first one is not.
        have noneBelow : ∀ value ∈ first :: rest, ¬value ≤ number := by
          intro value member below
          rcases List.mem_cons.mp member with rfl | inRest
          · exact counted below
          · exact counted (Scalar.Ordered.le_trans (firstBelow value inRest) below)
        have none : (first :: rest).countP (fun value => value ≤ number) = 0 :=
          List.countP_eq_zero.mpr fun value member => by simpa using noneBelow value member
        rw [none]
        constructor
        · intro impossible
          exact absurd impossible (Nat.not_lt_zero place)
        · rintro ⟨value, found, below⟩
          exact absurd below (noneBelow value (List.mem_of_getElem? found))

end Rising

/-- Digit by digit the search comes to the number of the values that pass. -/
theorem searchPassing_eq
    {A : Type}
    {passes : A → Bool}
    {values : List A}
    {count digits found : Nat}
    (inFront : ∀ place, values[place]?.any passes = true ↔ place < count)
    (reached : found ≤ count)
    (within : count < found + 1 <<< digits) :
    searchPassing passes values digits found = count := by
  induction digits generalizing found with
  | zero =>
      rw [Nat.shiftLeft_zero] at within
      rw [searchPassing]
      omega
  | succ digits inductionHypothesis =>
      have positive : 0 < 1 <<< digits := Nat.one_shiftLeft digits ▸ Nat.two_pow_pos digits
      rw [Nat.shiftLeft_succ] at within
      rw [searchPassing]
      split
      · next passed =>
          have inside := (inFront _).mp passed
          exact inductionHypothesis (by omega) (by omega)
      · next failed =>
          have outside := mt (inFront _).mpr failed
          exact inductionHypothesis reached (by omega)

namespace Edges

theorem length_values (edges : Edges K) :
    edges.values.length = edges.binCount + 1 := by
  have enough := edges.two_le_length
  rw [binCount]
  omega

theorem finite_of_mem
    {edges : Edges K}
    {edge : K}
    (member : edge ∈ edges.values) :
    Scalar.isFinite edge = true :=
  List.all_eq_true.mp edges.finite edge member

section Counting

variable [Scalar.Ordered K]

theorem pairwise_lt (edges : Edges K) :
    edges.values.Pairwise (· < ·) :=
  edges.increasing.pairwise_lt

theorem le_self_of_mem
    {edges : Edges K}
    {edge : K}
    (member : edge ∈ edges.values) :
    edge ≤ edge :=
  Scalar.Ordered.le_self_of_isFinite (finite_of_mem member)

/-- The first edge is the least one. -/
theorem first_le
    {edges : Edges K}
    {edge : K}
    (member : edge ∈ edges.values) :
    edges.first ≤ edge :=
  edges.increasing.pairwise_le.rel_head_of_rel_head_head member
    (le_self_of_mem (List.head_mem edges.values_ne_nil))

/-- The last edge is the greatest one. -/
theorem le_last
    {edges : Edges K}
    {edge : K}
    (member : edge ∈ edges.values) :
    edge ≤ edges.last :=
  edges.increasing.pairwise_le.rel_getLast_of_rel_getLast_getLast member
    (le_self_of_mem (List.getLast_mem edges.values_ne_nil))

/-- Neighbouring edges are in rising order. -/
theorem lt_of_next
    {edges : Edges K}
    {low up : K}
    {place : Nat}
    (lowFound : edges.values[place]? = some low)
    (upFound : edges.values[place + 1]? = some up) :
    low < up := by
  obtain ⟨inside, rfl⟩ := List.getElem?_eq_some_iff.mp lowFound
  obtain ⟨nextInside, rfl⟩ := List.getElem?_eq_some_iff.mp upFound
  exact
    List.pairwise_iff_getElem.mp edges.pairwise_lt place (place + 1) inside nextInside
      (Nat.lt_succ_self place)

/-- The bin of a coordinate is the number of edges at or below it. -/
theorem findBin_eq_countP (edges : Edges K) (coordinate : K) :
    edges.findBin coordinate = edges.values.countP fun edge => edge ≤ coordinate := by
  rw [findBin]
  split
  · next before =>
      -- An edge at or below the coordinate would put the first edge there, too.
      symm
      rw [List.countP_eq_zero]
      intro edge member below
      have firstBelow : edges.first ≤ coordinate :=
        Scalar.Ordered.le_trans (first_le member) (of_decide_eq_true below)
      rcases before with noNumber | beforeFirst
      · exact noNumber (Scalar.Ordered.right_le_self firstBelow)
      · exact (Scalar.Ordered.lt_iff.mp beforeFirst).2 firstBelow
  · split
    · next beyond =>
        have allBelow : ∀ edge ∈ edges.values, decide (edge ≤ coordinate) = true :=
          fun edge member => decide_eq_true (Scalar.Ordered.le_trans (le_last member) beyond)
        rw [List.countP_eq_length.mpr allBelow, length_values]
    · next between =>
        apply searchPassing_eq
        · intro place
          rw [lt_countP_le_iff edges.increasing.pairwise_le]
          simp [Option.any_eq_true]
        · exact Nat.zero_le _
        · have fewer :=
            List.countP_le_length (p := fun edge => decide (edge ≤ coordinate)) (l := edges.values)
          have within : edges.values.length < 1 <<< (edges.values.length.log2 + 1) := by
            rw [Nat.one_shiftLeft]
            exact Nat.lt_log2_self
          omega

theorem lt_findBin_iff
    {edges : Edges K}
    {coordinate : K}
    {place : Nat} :
    place < edges.findBin coordinate ↔
      ∃ edge, edges.values[place]? = some edge ∧ edge ≤ coordinate := by
  rw [findBin_eq_countP, lt_countP_le_iff edges.increasing.pairwise_le]

/-- At or above the edge at a place lie the coordinates that are found in a later bin. -/
theorem lt_findBin_iff_le
    {edges : Edges K}
    {edge : K}
    {place : Nat}
    (found : edges.values[place]? = some edge)
    (coordinate : K) :
    place < edges.findBin coordinate ↔ edge ≤ coordinate := by
  rw [lt_findBin_iff, found]
  simp

end Counting

/-- A greater coordinate is in the same bin or in a later one. -/
theorem findBin_le_findBin
    [Scalar.Ordered K]
    (edges : Edges K)
    {lower higher : K}
    (below : lower ≤ higher) :
    edges.findBin lower ≤ edges.findBin higher := by
  rw [findBin_eq_countP, findBin_eq_countP]
  apply List.countP_mono_left
  intro edge _ counted
  exact decide_eq_true (Scalar.Ordered.le_trans (of_decide_eq_true counted) below)

/-- Every bin has its two edges. -/
theorem exists_edges
    {edges : Edges K}
    {place : Nat}
    (inside : place < edges.binCount) :
    ∃ low up,
      edges.values[place]? = some low ∧
        edges.values[place + 1]? = some up ∧
        edges.lowEdge? (place + 1) = some low ∧
        edges.upEdge? (place + 1) = some up := by
  have upInside : place + 1 < edges.values.length := by
    rw [length_values]
    exact Nat.succ_lt_succ inside
  have lowFound := List.getElem?_eq_getElem (Nat.lt_of_succ_lt upInside)
  have upFound := List.getElem?_eq_getElem upInside
  exact ⟨_, _, lowFound, upFound, (if_pos inside).trans lowFound, upFound⟩

theorem exists_edges_of_bin
    {edges : Edges K}
    {bin : Nat}
    (positive : 1 ≤ bin)
    (within : bin ≤ edges.binCount) :
    ∃ low up, edges.lowEdge? bin = some low ∧ edges.upEdge? bin = some up := by
  obtain ⟨place, rfl⟩ := Nat.exists_eq_add_of_le' positive
  obtain ⟨low, up, -, -, lowFound, upFound⟩ := exists_edges (Nat.lt_of_succ_le within)
  exact ⟨low, up, lowFound, upFound⟩

/-- The edges of a bin are neighbours among all edges. -/
theorem exists_place_of_edges
    {edges : Edges K}
    {bin : Nat}
    {low up : K}
    (lowFound : edges.lowEdge? bin = some low)
    (upFound : edges.upEdge? bin = some up) :
    ∃ place,
      bin = place + 1 ∧
        place < edges.binCount ∧
        edges.values[place]? = some low ∧
        edges.values[place + 1]? = some up := by
  cases bin with
  | zero => cases lowFound
  | succ place =>
      rw [lowEdge?] at lowFound
      split at lowFound
      · next inside => exact ⟨place, rfl, inside, lowFound, upFound⟩
      · cases lowFound

/-- The coordinate is at or above the lower edge of a bin and below the upper one. -/
def Holds (edges : Edges K) (bin : Nat) (coordinate : K) : Prop :=
  match edges.lowEdge? bin, edges.upEdge? bin with
  | some low, some up => low ≤ coordinate ∧ coordinate < up
  | _, _ => False

instance (edges : Edges K) (bin : Nat) (coordinate : K) :
    Decidable (edges.Holds bin coordinate) :=
  match lowFound : edges.lowEdge? bin, upFound : edges.upEdge? bin with
  | some low, some up =>
      decidable_of_iff (low ≤ coordinate ∧ coordinate < up) (by simp [Holds, lowFound, upFound])
  | none, _ => isFalse (by simp [Holds, lowFound])
  | some _, none => isFalse (by simp [Holds, upFound])

/-- A bin is found exactly for the coordinates that it holds. -/
theorem holds_iff
    [Scalar.Ordered K]
    {edges : Edges K}
    {bin : Nat}
    {coordinate : K} :
    edges.Holds bin coordinate ↔
      (1 ≤ bin ∧ bin ≤ edges.binCount) ∧ edges.findBin coordinate = bin := by
  cases bin with
  | zero => simp [Holds, lowEdge?]
  | succ place =>
      by_cases inside : place < edges.binCount
      · obtain ⟨low, up, lowValue, upValue, lowFound, upFound⟩ := exists_edges inside
        have upFinite : Scalar.isFinite up = true :=
          finite_of_mem (List.mem_of_getElem? upValue)
        have held :
            edges.Holds (place + 1) coordinate ↔ low ≤ coordinate ∧ coordinate < up := by
          simp only [Holds, lowFound, upFound]
        have belowUp : low ≤ coordinate → (coordinate < up ↔ ¬up ≤ coordinate) :=
          fun above => Scalar.Ordered.lt_iff_not_le (Scalar.Ordered.right_le_self above) upFinite
        rw [held, and_congr_right belowUp, ← lt_findBin_iff_le lowValue,
          ← lt_findBin_iff_le upValue]
        omega
      · have noLow : edges.lowEdge? (place + 1) = none := if_neg inside
        simp only [Holds, noLow, false_iff]
        omega

end Edges

end PlotBoard
