import PlotBoard.Number.Literal
import PlotBoard.Number.Shortest

namespace PlotBoard

/-!
# Number types of coordinates and contents

Axes, rectangles and histograms are written over any number type with the
operations of `Scalar`. Programs run them on binary numbers of 64 or 32 bits;
`Rat` runs the same definitions in exact arithmetic.

Comparisons need not be total: a binary "not a number" compares with nothing,
not even with itself. `lesser` and `greater` pass over such a value.
-/

/-- A type of numbers with decidable comparisons, a text and a whole part. -/
class Scalar (K : Type) extends NatCast K, Add K, Sub K, Mul K, Div K, LT K, LE K where
  decidableLT : DecidableLT K
  decidableLE : DecidableLE K
  /-- The number is neither an infinity nor "not a number". -/
  isFinite : K → Bool
  /-- The greatest natural number that is at most the number, and zero if there is none. -/
  wholePart : K → Nat
  /-- The number as people read it. -/
  text : K → String

attribute [reducible, instance] Scalar.decidableLT Scalar.decidableLE

/-- A number type whose values can be rounded to a narrower type. -/
class Narrowing (K : Type) (N : outParam Type) where
  narrow : K → N

/-- A number type that has a value for every real literal. -/
class ReadsLiterals (K : Type) where
  ofLiteral : RealLiteral → K

instance : Scalar Float where
  natCast := Float.ofNat
  decidableLT := inferInstance
  decidableLE := inferInstance
  isFinite := Float.isFinite
  wholePart number := number.toUInt64.toNat
  text number := BinaryFormat.double.text number.toBits.toNat

instance : Scalar Float32 where
  natCast := Float32.ofNat
  decidableLT := inferInstance
  decidableLE := inferInstance
  isFinite := Float32.isFinite
  wholePart number := number.toUInt64.toNat
  text number := BinaryFormat.single.text number.toBits.toNat

instance : Scalar Rat where
  decidableLT := inferInstance
  decidableLE := inferInstance
  isFinite _ := true
  wholePart number := number.floor.toNat
  text number := toString number

instance : Narrowing Float Float32 where
  narrow := Float.toFloat32

instance : Narrowing Rat Rat where
  narrow number := number

instance : ReadsLiterals Float where
  ofLiteral := RealLiteral.toFloat

namespace Scalar

variable {K : Type} [Scalar K]

/-- The first number unless the second is less; a value that compares with nothing loses. -/
def lesser (first second : K) : K :=
  if first ≤ second then
    first
  else if second ≤ second then
    second
  else
    first

/-- The first number unless the second is greater; a value that compares with nothing loses. -/
def greater (first second : K) : K :=
  if second ≤ first then
    first
  else if second ≤ second then
    second
  else
    first

/-- The numbers are equal as numbers: a zero equals a zero of the other sign. -/
def same (first second : K) : Bool :=
  first ≤ second && second ≤ first

/-- The nearest natural number; halves go up, and negative numbers go to zero. -/
def nearest (number : K) : Nat :=
  let whole := wholePart number
  if ((1 : Nat) : K) / ((2 : Nat) : K) ≤ number - (whole : K) then
    whole + 1
  else
    whole

end Scalar

end PlotBoard
