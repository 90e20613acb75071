import PlotBoard.Histogram.Basic

namespace PlotBoard

/-!
# Content statistics

Least, greatest and mean active content, each content rounded to the narrower
number type first. A library of reductions finds the three; this module says only
what it is asked and what becomes of its answers. Without active cells all three
are zero, and the library is not asked.
-/

/-- Least, greatest and mean of some numbers. -/
structure ContentStatistics (N : Type) where
  minimum : N
  maximum : N
  mean : N

/-- A library that reduces a list of numbers to one number, unless it refuses the list. -/
class Reductions (N : Type) where
  minimum? : List N → Option N
  maximum? : List N → Option N
  mean? : List N → Option N

namespace Reductions

variable {N : Type} [Scalar N]

/-- The first of the least numbers. -/
def least? : List N → Option N
  | [] => none
  | first :: rest =>
      some (rest.foldl (fun best number => if number < best then number else best) first)

/-- The first of the greatest numbers. -/
def greatest? : List N → Option N
  | [] => none
  | first :: rest =>
      some (rest.foldl (fun best number => if best < number then number else best) first)

/-- The sum, taken from the first number on, divided among the numbers. -/
def average? : List N → Option N
  | [] => none
  | first :: rest =>
      some ((first :: rest).foldl (· + ·) ((0 : Nat) : N) / (((first :: rest).length : Nat) : N))

/-- Reductions that take one number after the other. -/
abbrev sequential : Reductions N where
  minimum? := least?
  maximum? := greatest?
  mean? := average?

end Reductions

instance : Reductions Float32 :=
  .sequential

instance : Reductions Rat :=
  .sequential

/-- The statistics of some numbers; a list that is refused counts as zero. -/
def ContentStatistics.ofList
    {N : Type}
    [Scalar N]
    [Reductions N]
    (numbers : List N) :
    ContentStatistics N :=
  if numbers.isEmpty then
    { minimum := ((0 : Nat) : N)
      maximum := ((0 : Nat) : N)
      mean := ((0 : Nat) : N) }
  else
    { minimum := (Reductions.minimum? numbers).getD ((0 : Nat) : N)
      maximum := (Reductions.maximum? numbers).getD ((0 : Nat) : N)
      mean := (Reductions.mean? numbers).getD ((0 : Nat) : N) }

variable {K C N : Type} [Scalar K] [Scalar C] [Scalar N]

/-- The active contents in the order in which they are visited. -/
def Histogram.activeContents (histogram : Histogram K C) : Array C :=
  histogram.foldActive (fun contents _ content => contents.push content) #[]

/-- The statistics of the active contents. -/
def Histogram.statistics
    [Narrowing C N]
    [Reductions N]
    (histogram : Histogram K C) :
    ContentStatistics N :=
  .ofList (histogram.activeContents.toList.map Narrowing.narrow)

end PlotBoard
