import PlotBoard.Histogram.Grid

namespace PlotBoard.Grid

/-!
# Walking through a box of cells

A box is given by the first and the last bin along each axis. A walk visits its
cells like the digits of an odometer: the first axis steps from bin to bin, and
each time it is through, it starts over and the next axis steps. Main statement:
the steps that a walk has left become fewer with each step, so that it ends.
-/

/-- The cell after a given one; none when every axis stands on its last bin. -/
def advance? : List (Nat × Nat) → List Nat → Option (List Nat)
  | (first, last) :: spans, bin :: bins =>
      if bin < last then
        some ((bin + 1) :: bins)
      else
        (advance? spans bins).map (first :: ·)
  | _, _ => none

/-- How many steps a walk has left at a cell. -/
def stepsLeft : List (Nat × Nat) → List Nat → Nat
  | (first, last) :: spans, bin :: bins =>
      last - bin + (last - first + 1) * stepsLeft spans bins
  | _, _ => 0

/-- Each step of a walk leaves fewer of them. -/
theorem stepsLeft_lt_of_advance?
    {spans : List (Nat × Nat)}
    {cell next : List Nat}
    (advanced : advance? spans cell = some next) :
    stepsLeft spans next < stepsLeft spans cell := by
  induction spans generalizing cell next with
  | nil => simp [advance?] at advanced
  | cons span spans inductionHypothesis =>
      obtain ⟨first, last⟩ := span
      cases cell with
      | nil => simp [advance?] at advanced
      | cons bin bins =>
          simp only [advance?] at advanced
          split at advanced
          · next below =>
              obtain rfl := Option.some.inj advanced
              simp only [stepsLeft]
              omega
          · obtain ⟨rest, restAdvanced, rfl⟩ := Option.map_eq_some_iff.mp advanced
            have fewer := inductionHypothesis restAdvanced
            -- Starting over gives the first axis back at most as many steps as the carry costs.
            have carried :
                (last - first + 1) * (stepsLeft spans rest + 1) ≤
                  (last - first + 1) * stepsLeft spans bins :=
              Nat.mul_le_mul_left _ fewer
            simp only [stepsLeft]
            rw [Nat.mul_succ] at carried
            omega

/-- The state after every cell from a given one on has been visited, in the order of the walk. -/
def walk
    {S : Type}
    (spans : List (Nat × Nat))
    (visit : S → List Nat → S)
    (state : S)
    (cell : List Nat) :
    S :=
  match _advanced : advance? spans cell with
  | none => visit state cell
  | some next => walk spans visit (visit state cell) next
termination_by stepsLeft spans cell
decreasing_by exact stepsLeft_lt_of_advance? _advanced

end PlotBoard.Grid
