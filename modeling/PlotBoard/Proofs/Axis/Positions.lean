import PlotBoard.Axis.Basic
import PlotBoard.Proofs.Axis.BinSearch

namespace PlotBoard

/-!
# Where coordinates stand

An axis is made from given edges or from the edges of equally wide bins, and only if
they are finite and rise. A coordinate then stands in one place only: before the
edges, in one of the bins, or beyond the edges. The bin search tells the place, and it
tells the edges themselves apart.
-/

variable {K : Type} [Scalar K]

namespace Edges

/--
The place of a coordinate, numbered as the bins are. What compares with nothing, not
even with itself, is counted among what lies below the edges.
-/
inductive Stands (edges : Edges K) (coordinate : K) : Nat → Prop
  | nowhere (incomparable : ¬coordinate ≤ coordinate) : Stands edges coordinate 0
  | below (less : coordinate < edges.first) : Stands edges coordinate 0
  | inside {bin : Nat} (held : edges.Holds bin coordinate) : Stands edges coordinate bin
  | beyond (reached : edges.last ≤ coordinate) : Stands edges coordinate (edges.binCount + 1)

theorem values_of_ofList?
    {values : List K}
    {edges : Edges K}
    (found : ofList? values = some edges) :
    edges.values = values := by
  unfold ofList? at found
  split at found
  · split at found
    · split at found
      · exact congrArg Edges.values (Option.some.inj found).symm
      · cases found
    · cases found
  · cases found

variable [Scalar.Ordered K]

theorem findBin_le (edges : Edges K) (coordinate : K) :
    edges.findBin coordinate ≤ edges.binCount + 1 := by
  rw [findBin_eq_countP, ← length_values]
  exact List.countP_le_length

/-- Nothing is found for what is no number or lies below the first edge. -/
theorem findBin_eq_zero_iff
    {edges : Edges K}
    {coordinate : K} :
    edges.findBin coordinate = 0 ↔
      ¬coordinate ≤ coordinate ∨ coordinate < edges.first := by
  have firstFound : edges.values[0]? = some edges.first := by
    rw [← List.head?_eq_getElem?, List.head?_eq_some_head edges.values_ne_nil]
    rfl
  have notFound : edges.findBin coordinate = 0 ↔ ¬edges.first ≤ coordinate := by
    rw [← lt_findBin_iff_le firstFound, Nat.not_lt, Nat.le_zero]
  have firstFinite : Scalar.isFinite edges.first = true :=
    finite_of_mem (List.head_mem edges.values_ne_nil)
  rw [notFound]
  by_cases isNumber : coordinate ≤ coordinate
  · simp [isNumber, Scalar.Ordered.lt_iff_not_le isNumber firstFinite]
  · exact iff_of_true (fun above => isNumber (Scalar.Ordered.right_le_self above))
      (Or.inl isNumber)

/-- Beyond all bins lies what is at or above the last edge. -/
theorem findBin_eq_succ_iff
    {edges : Edges K}
    {coordinate : K} :
    edges.findBin coordinate = edges.binCount + 1 ↔ edges.last ≤ coordinate := by
  have lastFound : edges.values[edges.binCount]? = some edges.last := by
    rw [← Nat.add_sub_cancel edges.binCount 1, ← length_values,
      ← List.getLast?_eq_getElem?, List.getLast?_eq_some_getLast edges.values_ne_nil]
    rfl
  have notMore := edges.findBin_le coordinate
  have reached :
      edges.findBin coordinate = edges.binCount + 1 ↔
        edges.binCount < edges.findBin coordinate := by
    omega
  rw [reached, lt_findBin_iff_le lastFound]

/-- The bin search finds the place of a coordinate. -/
theorem findBin_eq_iff_stands
    {edges : Edges K}
    {coordinate : K}
    {bin : Nat} :
    edges.findBin coordinate = bin ↔ edges.Stands coordinate bin := by
  constructor
  · rintro rfl
    have notMore := edges.findBin_le coordinate
    rcases Nat.eq_zero_or_pos (edges.findBin coordinate) with isZero | positive
    · rw [isZero]
      exact (findBin_eq_zero_iff.mp isZero).elim .nowhere .below
    · rcases Nat.lt_or_eq_of_le notMore with inside | isLast
      · exact .inside (holds_iff.mpr ⟨⟨positive, Nat.le_of_lt_succ inside⟩, rfl⟩)
      · rw [isLast]
        exact .beyond (findBin_eq_succ_iff.mp isLast)
  · intro stands
    cases stands with
    | nowhere incomparable => exact findBin_eq_zero_iff.mpr (.inl incomparable)
    | below less => exact findBin_eq_zero_iff.mpr (.inr less)
    | inside held => exact (holds_iff.mp held).2
    | beyond reached => exact findBin_eq_succ_iff.mpr reached

/-- An edge stands in the bin that begins with it. -/
theorem findBin_edge
    {edges : Edges K}
    {edge : K}
    {place : Nat}
    (found : edges.values[place]? = some edge) :
    edges.findBin edge = place + 1 := by
  have atPlace : place < edges.findBin edge :=
    (lt_findBin_iff_le found edge).mpr (le_self_of_mem (List.mem_of_getElem? found))
  have notLater : ¬place + 1 < edges.findBin edge := by
    rw [lt_findBin_iff]
    rintro ⟨next, nextFound, below⟩
    exact (Scalar.Ordered.lt_iff.mp (lt_of_next found nextFound)).2 below
  omega

end Edges

namespace Axis

/-- An axis and the list of its edges, for each way to make an axis. -/
inductive Made : List K → Axis K → Prop
  | uniform
      {bins : Nat}
      {low high : K}
      {axis : Axis K}
      (created : Axis.uniform bins low high = .ok axis) :
      Made (uniformEdges bins low high) axis
  | indexed
      {bins : Nat}
      {axis : Axis K}
      (created : Axis.indexed bins = .ok axis) :
      Made (uniformEdges bins ((0 : Nat) : K) (bins : K)) axis
  | ofEdges
      {values : List K}
      {axis : Axis K}
      (created : Axis.ofEdges values = .ok axis) :
      Made values axis

theorem values_of_uniform
    {bins : Nat}
    {low high : K}
    {axis : Axis K}
    (created : uniform bins low high = .ok axis) :
    axis.edges.values = uniformEdges bins low high := by
  unfold uniform at created
  simp only at created
  split at created
  · cases created
  · split at created
    · cases created
    · split at created
      · cases created
      · split at created
        · next edges found =>
            rw [← Except.ok.inj created]
            exact Edges.values_of_ofList? found
        · cases created

theorem values_of_ofEdges
    {values : List K}
    {axis : Axis K}
    (created : ofEdges values = .ok axis) :
    axis.edges.values = values := by
  unfold ofEdges at created
  split at created
  · cases created
  · split at created
    · next edges found =>
        rw [← Except.ok.inj created]
        exact Edges.values_of_ofList? found
    · cases created

/-- Whichever way an axis is made, it has the listed edges. -/
theorem Made.values_eq
    {values : List K}
    {axis : Axis K}
    (made : Made values axis) :
    axis.edges.values = values := by
  cases made with
  | uniform created => exact values_of_uniform created
  | indexed created => exact values_of_uniform created
  | ofEdges created => exact values_of_ofEdges created

/--
An axis is made only from two or more finite edges in strictly increasing order. Each
coordinate then stands in one place, which the bin search finds; a greater coordinate
never stands before it, and the edges of a bin are found in the bin and in the one
after it.
-/
theorem Made.findBin_places
    [Scalar.Ordered K]
    {values : List K}
    {axis : Axis K}
    (made : Made values axis) :
    axis.edges.values = values ∧
      2 ≤ values.length ∧
      (∀ edge ∈ values, Scalar.isFinite edge = true) ∧
      values.Pairwise (· < ·) ∧
      (∀ coordinate bin, axis.findBin coordinate = bin ↔ axis.edges.Stands coordinate bin) ∧
      (∀ coordinate, ∃! bin, axis.edges.Stands coordinate bin) ∧
      (∀ lower higher, lower ≤ higher → axis.findBin lower ≤ axis.findBin higher) ∧
      ∀ bin,
        1 ≤ bin →
        bin ≤ axis.bins →
        ∃ low up,
          values[bin - 1]? = some low ∧
            values[bin]? = some up ∧
            axis.edges.lowEdge? bin = some low ∧
            axis.edges.upEdge? bin = some up ∧
            axis.findBin low = bin ∧
            axis.findBin up = bin + 1 := by
  have sameValues := made.values_eq
  refine ⟨sameValues, ?_, ?_, ?_, ?_, ?_, ?_, ?_⟩
  · exact sameValues ▸ axis.edges.two_le_length
  · intro edge member
    exact Edges.finite_of_mem (sameValues.symm ▸ member)
  · exact sameValues ▸ axis.edges.pairwise_lt
  · intro coordinate bin
    exact Edges.findBin_eq_iff_stands
  · intro coordinate
    refine ⟨axis.findBin coordinate, Edges.findBin_eq_iff_stands.mp rfl, ?_⟩
    intro bin stands
    exact (Edges.findBin_eq_iff_stands.mpr stands).symm
  · intro lower higher below
    exact axis.edges.findBin_le_findBin below
  · intro bin positive inside
    obtain ⟨place, rfl⟩ := Nat.exists_eq_add_of_le' positive
    obtain ⟨low, up, lowValue, upValue, lowFound, upFound⟩ := Edges.exists_edges inside
    rw [← sameValues]
    exact
      ⟨low, up, lowValue, upValue, lowFound, upFound,
        Edges.findBin_edge lowValue, Edges.findBin_edge upValue⟩

/-- Three bins of different widths. -/
def unequalBins : Axis Float where
  edges := ⟨[0, 1, 5, 6], by decide, by decide, by decide⟩

/-- Coordinates in a bin, on an edge, at both infinities and of no place at all. -/
theorem findBin_unequalBins :
    Made [0, 1, 5, 6] unequalBins ∧
      unequalBins.findBin 4.75 = 2 ∧
      unequalBins.findBin 5 = 3 ∧
      unequalBins.findBin (-1 / 0) = 0 ∧
      unequalBins.findBin (1 / 0) = 4 ∧
      unequalBins.findBin (0 / 0) = 0 ∧
      unequalBins.findBin 4.75 ≤ unequalBins.findBin 5 := by
  have made : Made [0, 1, 5, 6] unequalBins := .ofEdges rfl
  obtain ⟨-, -, -, -, finds, -, monotone, edges⟩ := made.findBin_places
  obtain ⟨low, -, lowValue, -, -, -, lowFound, -⟩ := edges 3 (by decide) (by decide)
  obtain rfl : 5 = low := Option.some.inj lowValue
  refine ⟨made, ?_, lowFound, ?_, ?_, ?_, monotone _ _ (by decide)⟩
  · exact (finds _ _).mpr (.inside (by decide))
  · exact (finds _ _).mpr (.below (by decide))
  · exact (finds _ _).mpr (.beyond (by decide))
  · exact (finds _ _).mpr (.nowhere (by decide))

end Axis

end PlotBoard
