import PlotBoard.Text.Quoted

namespace PlotBoard

/-!
# Label tables

Texts under keys, in the order in which they were added. The first text under a
key is the one found. The title of an axis stands under its name and `.AxisTitle`.
-/

/-- Keys and texts in the order in which they were added. -/
structure LabelTable where
  entries : List (String × String) := []

namespace LabelTable

/-- The table with one more text at the end. -/
def insert (table : LabelTable) (key text : String) : LabelTable where
  entries := table.entries ++ [(key, text)]

/-- The first text under a key. -/
def get? (table : LabelTable) (key : String) : Option String :=
  (table.entries.find? fun entry => entry.1 = key).map Prod.snd

/-- The title of the axis with a name. -/
def axisTitle? (table : LabelTable) (axisName : String) : Option String :=
  table.get? (axisName ++ ".AxisTitle")

/-- The table as it is described, each key and text quoted. -/
def description (table : LabelTable) : String :=
  let pairs := table.entries.map fun entry =>
    "(" ++ Text.quoted entry.1 ++ ", " ++ Text.quoted entry.2 ++ ")"
  "MetaTable \x7b entries: [" ++ ", ".intercalate pairs ++ "] \x7d"

end LabelTable

end PlotBoard
