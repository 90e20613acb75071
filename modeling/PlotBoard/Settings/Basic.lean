import PlotBoard.Error
import PlotBoard.Number.Scalar

namespace PlotBoard

/-!
# Settings

The margin of divided surfaces, the switches of the query interpreter and the
size of the terminal. Settings are accepted when the margin is at least zero and
less than a half and neither extent of the terminal is zero.
-/

/-- The switches of the query interpreter. -/
structure QuerySettings where
  fallback : Bool := true
  axisTitles : Bool := true
  deriving DecidableEq

/-- The extents of the terminal in characters and lines. -/
structure TerminalSettings where
  width : UInt32 := 60
  height : UInt32 := 16
  deriving DecidableEq

/-- All settings. -/
structure Settings (K : Type) [Scalar K] where
  margin : K := ((1 : Nat) : K) / ((10 : Nat) : K)
  query : QuerySettings := {}
  terminal : TerminalSettings := {}

namespace Settings

variable {K : Type} [Scalar K]

/-- The margin is at least zero and less than a half. -/
def acceptsMargin (margin : K) : Bool :=
  ((0 : Nat) : K) ≤ margin && margin < ((1 : Nat) : K) / ((2 : Nat) : K)

/-- The first setting that is out of its range, if any. -/
def fault? (settings : Settings K) : Option Error :=
  if ¬acceptsMargin settings.margin then
    some (.invalidSetting "layout.margin"
      (Scalar.text settings.margin ++ " is outside [0, 0.5)"))
  else if settings.terminal.width = 0 then
    some (.invalidSetting "terminal.width" "must be non-zero")
  else if settings.terminal.height = 0 then
    some (.invalidSetting "terminal.height" "must be non-zero")
  else
    none

/-- The settings if all of them are in range. -/
def validate (settings : Settings K) : Except Error (Settings K) :=
  match settings.fault? with
  | some fault => .error fault
  | none => .ok settings

end Settings

end PlotBoard
