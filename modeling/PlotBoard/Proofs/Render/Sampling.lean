import PlotBoard.Proofs.Histogram.Cells
import PlotBoard.Render.Terminal

namespace PlotBoard.Terminal

/-!
# Sampled bins

Every bin that a frame shows of an axis is an active bin, however many there are
and however much room there is, and the bins in later places come later.
-/

/-- The bin shown in a place lies in the span that is shown. -/
theorem sample_le_last
    {first last count place : Nat}
    (nonempty : first ≤ last)
    (placeWithin : place < count) :
    sample first last count place ≤ last := by
  have scaled : place * (last - first + 1) < count * (last - first + 1) :=
    Nat.mul_lt_mul_of_pos_right placeWithin (Nat.succ_pos _)
  have below := Nat.div_lt_of_lt_mul scaled
  rw [sample]
  omega

theorem first_le_sample (first last count place : Nat) :
    first ≤ sample first last count place :=
  Nat.le_add_right first _

/-- With no more places than bins, a later place shows a later bin. -/
theorem sample_lt_sample
    {first last count place other : Nat}
    (enoughBins : count ≤ last - first + 1)
    (earlier : place < other)
    (otherWithin : other < count) :
    sample first last count place < sample first last count other := by
  have somePlace : 0 < count := Nat.zero_lt_of_lt otherWithin
  have nextPlace :
      place * (last - first + 1) + count ≤ other * (last - first + 1) :=
    calc
      place * (last - first + 1) + count ≤
          place * (last - first + 1) + (last - first + 1) :=
        Nat.add_le_add_left enoughBins _
      _ = (place + 1) * (last - first + 1) := (Nat.succ_mul _ _).symm
      _ ≤ other * (last - first + 1) := Nat.mul_le_mul_right _ earlier
  have nextBin :
      place * (last - first + 1) / count + 1 ≤ other * (last - first + 1) / count := by
    rw [← Nat.add_div_right _ somePlace]
    exact Nat.div_le_div_right nextPlace
  rw [sample, sample]
  omega

variable {K : Type} [Scalar K]

/-- The bin shown in a place of an axis for which there is some room. -/
def sampledBin (axis : Axis K) (room place : Nat) : Nat :=
  sample axis.range.1 axis.range.2 (min axis.activeCount room) place

/-- The bin shown in a place lies as many active bins behind the first one as the place says. -/
theorem sampledBin_eq
    {axis : Axis K}
    {room place : Nat}
    (placeWithin : place < min axis.activeCount room) :
    sampledBin axis room place =
      axis.range.1 + place * axis.activeCount / min axis.activeCount room := by
  have counted : axis.range.2 - axis.range.1 + 1 = axis.activeCount := by
    rw [Axis.activeCount] at placeWithin ⊢
    omega
  rw [sampledBin, sample, counted]

theorem length_sampledBins (axis : Axis K) (room : Nat) :
    (sampledBins axis room).length = min axis.activeCount room := by
  rw [sampledBins, List.length_map, List.length_range]

theorem getElem?_sampledBins
    {axis : Axis K}
    {room place : Nat}
    (placeWithin : place < min axis.activeCount room) :
    (sampledBins axis room)[place]? = some (sampledBin axis room place) := by
  rw [sampledBins, List.getElem?_map, List.getElem?_range placeWithin, Option.map_some]
  rfl

theorem isActive_of_mem_sampledBins
    {axis : Axis K}
    {room bin : Nat}
    (member : bin ∈ sampledBins axis room) :
    axis.isActive bin = true := by
  obtain ⟨place, placeMember, rfl⟩ := List.mem_map.mp member
  have placeWithin := List.mem_range.mp placeMember
  have someActive : 0 < axis.activeCount :=
    Nat.lt_of_lt_of_le (Nat.zero_lt_of_lt placeWithin) (Nat.min_le_left _ _)
  have nonempty : axis.range.1 ≤ axis.range.2 := by
    rw [Axis.activeCount] at someActive
    omega
  exact Axis.isActive_iff.mpr
    ⟨first_le_sample _ _ _ _, sample_le_last nonempty placeWithin⟩

theorem isActive_sampledBin
    {axis : Axis K}
    {room place : Nat}
    (placeWithin : place < min axis.activeCount room) :
    axis.isActive (sampledBin axis room place) = true :=
  isActive_of_mem_sampledBins (List.mem_of_getElem? (getElem?_sampledBins placeWithin))

/-- Sampled bins rise from place to place. -/
theorem sampledBin_lt_sampledBin
    {axis : Axis K}
    {room place other : Nat}
    (earlier : place < other)
    (otherWithin : other < min axis.activeCount room) :
    sampledBin axis room place < sampledBin axis room other := by
  refine sample_lt_sample ?_ earlier otherWithin
  rw [Axis.activeCount] at otherWithin ⊢
  omega

end PlotBoard.Terminal
