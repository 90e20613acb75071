namespace PlotBoard

/-!
# Active bins

An axis may be restricted to a span of its bins. A restriction that misses the
axis leaves no bin active, which differs from having no restriction.
-/

/-- Which bins of an axis are active. -/
inductive Selection where
  | all
  | nothing
  | span (first last : Nat)
  deriving DecidableEq

namespace Selection

/-- A span runs upward over bins that the axis has. -/
def Fits (selection : Selection) (binCount : Nat) : Prop :=
  match selection with
  | .all => True
  | .nothing => True
  | .span first last => 1 ≤ first ∧ first ≤ last ∧ last ≤ binCount

/--
The bins from `first` to `last` that the axis has. Bounds in falling order lift
the restriction.
-/
def between (binCount first last : Nat) : Selection :=
  if last < first then
    .all
  else if last = 0 ∨ binCount < first then
    .nothing
  else
    .span (max first 1) (min last binCount)

theorem between_fits
    {binCount : Nat}
    (positive : 0 < binCount)
    (first last : Nat) :
    (between binCount first last).Fits binCount := by
  unfold between
  split
  · trivial
  · split
    · trivial
    · simp only [Fits]
      omega

/-- The first and the last active bin; `(1, 0)` when there is none. -/
def range (selection : Selection) (binCount : Nat) : Nat × Nat :=
  match selection with
  | .all => (1, binCount)
  | .nothing => (1, 0)
  | .span first last => (first, last)

end Selection

end PlotBoard
