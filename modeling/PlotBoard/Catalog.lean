import PlotBoard.Histogram.Basic

namespace PlotBoard

/-!
# Catalogs of histograms

Where histograms are found by name. A catalog keeps them in the order in which
they were added, and the first one with a name is the one found.
-/

/-- A look-up of histograms by name. -/
abbrev Source (K C : Type) [Scalar K] :=
  String → Option (Histogram K C)

/-- Histograms in the order in which they were added. -/
structure Catalog (K C : Type) [Scalar K] where
  histograms : List (Histogram K C) := []

variable {K C : Type} [Scalar K]

namespace Catalog

/-- The catalog with one more histogram at the end. -/
def add (catalog : Catalog K C) (histogram : Histogram K C) : Catalog K C where
  histograms := catalog.histograms ++ [histogram]

/-- The first histogram with a name. -/
def find? (catalog : Catalog K C) : Source K C := fun name =>
  catalog.histograms.find? fun histogram => histogram.name = name

/-- The number of histograms. -/
def size (catalog : Catalog K C) : Nat :=
  catalog.histograms.length

/-- The names in the order in which the histograms were added. -/
def names (catalog : Catalog K C) : List String :=
  catalog.histograms.map Histogram.name

end Catalog

end PlotBoard
