import Mathlib.Algebra.Order.Floor.Div
import PlotBoard.Proofs.Render.Sampling

namespace PlotBoard.Terminal

/-!
# Spacing of sampled bins

Frames ask for the bin of a place only when there is one: some bin is active, and there
are no more places than active bins. The bins that are shown start at the first active
one and rise in steps that differ by one at most, each of them the floor or the ceiling of
the active bins that a place stands for. With enough room no active bin is left out.
-/

/-- A quotient with a remainder has its ceiling one above its floor. -/
theorem ceilDiv_eq_div_add_one
    {number divisor : Nat}
    (positive : 0 < divisor)
    (remainder : number % divisor ≠ 0) :
    number ⌈/⌉ divisor = number / divisor + 1 := by
  apply Nat.le_antisymm
  · rw [ceilDiv_le_iff_le_mul positive]
    exact (Nat.lt_mul_div_succ number positive).le
  · have reaches : number ≤ divisor * (number ⌈/⌉ divisor) :=
      (ceilDiv_le_iff_le_mul positive).mp (Nat.le_refl _)
    have whole := Nat.div_add_mod number divisor
    have beyond : divisor * (number / divisor) < divisor * (number ⌈/⌉ divisor) := by omega
    exact Nat.lt_of_mul_lt_mul_left beyond

/-- What is added raises a quotient by its own quotient, the floor or the ceiling of it. -/
theorem add_div_eq_or
    {divisor : Nat}
    (positive : 0 < divisor)
    (number added : Nat) :
    (number + added) / divisor = number / divisor + added / divisor ∨
      (number + added) / divisor = number / divisor + added ⌈/⌉ divisor := by
  rw [Nat.add_div positive]
  split
  · next carried =>
      have remainder : added % divisor ≠ 0 := by
        have below := Nat.mod_lt number positive
        omega
      rw [ceilDiv_eq_div_add_one positive remainder]
      exact Or.inr (Nat.add_assoc _ _ _)
  · exact Or.inl rfl

theorem sample_zero (first last count : Nat) : sample first last count 0 = first := by
  rw [sample, Nat.zero_mul, Nat.zero_div, Nat.add_zero]

/-- With as many places as bins every bin is shown. -/
theorem sample_of_count_eq
    {first last count : Nat}
    (enoughRoom : count = last - first + 1)
    (place : Nat) :
    sample first last count place = first + place := by
  have somePlace : 0 < count := by omega
  rw [sample, ← enoughRoom, Nat.mul_div_cancel _ somePlace]

/-- From place to place the bins rise by the floored or the ceiled share of a place. -/
theorem sample_succ
    {count : Nat}
    (somePlace : 0 < count)
    (first last place : Nat) :
    sample first last count (place + 1) =
        sample first last count place + (last - first + 1) / count ∨
      sample first last count (place + 1) =
        sample first last count place + (last - first + 1) ⌈/⌉ count := by
  rw [sample, sample, Nat.succ_mul, Nat.add_assoc, Nat.add_assoc]
  exact (add_div_eq_or somePlace _ _).imp (congrArg (first + ·)) (congrArg (first + ·))

example : (List.range 4).map (sample 3 12 4) = [3, 5, 8, 10] :=
  rfl

/-- The numbers that the bin of a place is computed from. -/
structure Sampling where
  first : Nat
  last : Nat
  count : Nat
  place : Nat

namespace Sampling

/-- The bin that is shown. -/
def bin (sampling : Sampling) : Nat :=
  sample sampling.first sampling.last sampling.count sampling.place

/-- There are some bins, no more places than bins, and the place is one of them. -/
structure Fits (sampling : Sampling) : Prop where
  rising : sampling.first ≤ sampling.last
  place_lt : sampling.place < sampling.count
  count_le : sampling.count ≤ sampling.last - sampling.first + 1

end Sampling

variable {K : Type} [Scalar K]

/-- The computations for all places of an axis, from the first place on. -/
def samplings (axis : Axis K) (room : Nat) : List Sampling :=
  (List.range (min axis.activeCount room)).map fun place =>
    { first := axis.range.1
      last := axis.range.2
      count := min axis.activeCount room
      place := place }

theorem sampledBins_eq (axis : Axis K) (room : Nat) :
    sampledBins axis room = (samplings axis room).map Sampling.bin := by
  rw [samplings, List.map_map]
  rfl

/-- The bins of an axis that are shown where there is some room, and how they are computed. -/
structure SampledEvenly (axis : Axis K) (room : Nat) : Prop where
  /-- Every computation is one for which there is a bin. -/
  fits : ∀ sampling ∈ samplings axis room, sampling.Fits
  /-- The bins are computed place by place. -/
  bins_eq :
    (samplings axis room).map Sampling.bin =
      (List.range (min axis.activeCount room)).map (sampledBin axis room)
  isActive :
    ∀ place < min axis.activeCount room, axis.isActive (sampledBin axis room place) = true
  starts : sampledBin axis room 0 = axis.range.1
  rises :
    ∀ other < min axis.activeCount room,
      ∀ place < other,
        sampledBin axis room place < sampledBin axis room other
  /-- Neighbouring places are as far apart as the bins that each of them stands for. -/
  steps :
    let bins := axis.range.2 - axis.range.1 + 1
    let count := min axis.activeCount room
    ∀ place,
      place + 1 < count →
      sampledBin axis room (place + 1) = sampledBin axis room place + bins / count ∨
        sampledBin axis room (place + 1) = sampledBin axis room place + bins ⌈/⌉ count
  /-- With a place for every active bin all of them are shown. -/
  all_shown :
    min axis.activeCount room = axis.activeCount →
    ∀ place < axis.activeCount, sampledBin axis room place = axis.range.1 + place
  /-- With no more bins and less room than 32 bits count, 64 bits hold every product. -/
  fits_word :
    axis.bins ≤ UInt32.size →
    room < UInt32.size →
    ∀ sampling ∈ samplings axis room,
      sampling.place * (sampling.last - sampling.first + 1) < UInt64.size

theorem fits_of_mem_samplings
    {axis : Axis K}
    {room : Nat}
    {sampling : Sampling}
    (member : sampling ∈ samplings axis room) :
    sampling.Fits := by
  obtain ⟨place, placeMember, rfl⟩ := List.mem_map.mp member
  have placeWithin := List.mem_range.mp placeMember
  have counted : min axis.activeCount room ≤ axis.range.2 + 1 - axis.range.1 :=
    Nat.min_le_left _ _
  have rising : axis.range.1 ≤ axis.range.2 := by omega
  have enoughBins : min axis.activeCount room ≤ axis.range.2 - axis.range.1 + 1 := by omega
  exact ⟨rising, placeWithin, enoughBins⟩

/-- A place and the number of bins are both 32-bit numbers, so that 64 bits hold their product. -/
theorem product_lt_of_mem_samplings
    {axis : Axis K}
    {room : Nat}
    (fewBins : axis.bins ≤ UInt32.size)
    (littleRoom : room < UInt32.size)
    {sampling : Sampling}
    (member : sampling ∈ samplings axis room) :
    sampling.place * (sampling.last - sampling.first + 1) < UInt64.size := by
  obtain ⟨place, placeMember, rfl⟩ := List.mem_map.mp member
  have placeWithin := List.mem_range.mp placeMember
  have placeFits : place < UInt32.size := by omega
  have spanFits : axis.range.2 - axis.range.1 + 1 ≤ UInt32.size := by
    have someBin : 1 ≤ axis.bins := axis.edges.binCount_pos
    rcases axis.range_cases with nothing | rising
    · rw [nothing]
      omega
    · omega
  exact Nat.mul_lt_mul_of_lt_of_le placeFits spanFits (by decide)

theorem sampledEvenly (axis : Axis K) (room : Nat) : SampledEvenly axis room where
  fits _ := fits_of_mem_samplings
  bins_eq := by
    rw [samplings, List.map_map]
    rfl
  isActive _ placeWithin := isActive_sampledBin placeWithin
  starts := sample_zero _ _ _
  rises _ otherWithin _ earlier := sampledBin_lt_sampledBin earlier otherWithin
  steps := by
    intro bins count place placeWithin
    exact sample_succ (Nat.zero_lt_of_lt placeWithin) _ _ place
  all_shown := by
    intro enoughRoom place placeWithin
    apply sample_of_count_eq
    rw [enoughRoom]
    rw [Axis.activeCount] at placeWithin ⊢
    omega
  fits_word fewBins littleRoom _ := product_lt_of_mem_samplings fewBins littleRoom

/--
A bar chart shows the content of the bin that is sampled for each column, and a density
map, also the one of the sum over a third axis, the content of the pair of bins that are
sampled for each column and each row. For every axis, whatever is active of it, and any
room, also none, a bin is only computed for a place among no more places than there are
active bins, so that no difference falls below zero and no divisor is zero. The bins are
active, start at the first active one and rise from place to place, by the floor or the
ceiling of the bins for each place, and no active bin is left out where there is room.
-/
theorem frames_sampledEvenly
    {C N : Type}
    [Scalar C]
    [Scalar N]
    [Narrowing C N]
    [Reductions N] :
    (∀ (plot : Ranked 1 K C) (request : DrawRequest) (width height : Nat),
      let maximum : N := plot.histogram.statistics.maximum
      let heights := (samplings plot.xAxis width).map fun column =>
        level maximum height (Narrowing.narrow (plot.histogram.content [column.bin]))
      (barChart width height plot request).lines =
        ((List.range height).reverse.map fun below => barLine heights (below + 1)) ++
          [String.ofList (List.replicate heights.length '-'), footer plot.xAxis]) ∧
      (∀ (plot : Ranked 2 K C) (request : DrawRequest) (width height : Nat),
        let maximum : N := plot.histogram.statistics.maximum
        (densityMap width height plot request).lines =
          (samplings plot.yAxis height).reverse.map fun row =>
            String.ofList ((samplings plot.xAxis width).map fun column =>
              glyph (level maximum 9
                (Narrowing.narrow (plot.histogram.content [column.bin, row.bin]))))) ∧
      ∀ (axis : Axis K) (room : Nat), SampledEvenly axis room := by
  refine ⟨?bars, ?densities, sampledEvenly⟩
  case bars =>
    intro plot request width height maximum heights
    have sameHeights :
        ((sampledBins plot.xAxis width).map fun bin =>
            level maximum height (Narrowing.narrow (plot.histogram.content [bin]))) =
          heights := by
      rw [sampledBins_eq, List.map_map]
      rfl
    rw [← sameHeights]
    rfl
  case densities =>
    intro plot request width height maximum
    simp only [densityMap, sampledBins_eq, ← List.map_reverse, List.map_map]
    rfl

end PlotBoard.Terminal
