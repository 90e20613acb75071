namespace PlotBoard

/-!
# Errors

What can go wrong while histograms are built, expressions are drawn and settings
are read. Layout texts never fail: a malformed row has no regions.
-/

/-- The causes that the public operations report. -/
inductive Error where
  | io (reason : String)
  | malformedExpression (expression reason : String)
  | histogramNotFound (name : String)
  | tooFewAxes (name : String) (requested available : Nat)
  | invalidAxis (axis dimensions : Nat)
  | invalidRange (clause : String)
  | invalidHistogram (reason : String)
  | unreadableSettings (line : Nat)
  | settingsNotFound (path : String)
  | invalidSetting (key reason : String)
  | rendering (reason : String)
  deriving DecidableEq

namespace Error

/-- A histogram that is missing is routine in a session; every other error is a failure. -/
def isInformational : Error → Bool
  | .histogramNotFound _ => true
  | _ => false

/-- The text shown for an error. -/
def message : Error → String
  | .io reason => s!"I/O error: {reason}"
  | .malformedExpression expression reason =>
      "Malformed expression `" ++ expression ++ "`: " ++ reason
  | .histogramNotFound name => s!"Histogram not found: {name}"
  | .tooFewAxes name requested available =>
      s!"Insufficient dimensions: projection requests {requested} axes, histogram "
        ++ "`" ++ name ++ "`" ++ s!" has {available}"
  | .invalidAxis axis dimensions =>
      s!"Invalid projection axis {axis} for a {dimensions}-dimensional histogram"
  | .invalidRange clause => "Invalid range `" ++ clause ++ "`"
  | .invalidHistogram reason => s!"Invalid histogram: {reason}"
  | .unreadableSettings line => s!"config parse error at line {line}"
  | .settingsNotFound path => s!"config file not found: {path}"
  | .invalidSetting key reason =>
      "invalid configuration value for '" ++ key ++ "': " ++ reason
  | .rendering reason => s!"Rendering error: {reason}"

end Error

end PlotBoard
