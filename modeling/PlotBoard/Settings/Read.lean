import PlotBoard.Settings.Basic
import PlotBoard.Yaml.Node
import PlotBoard.Yaml.Scalar

namespace PlotBoard

/-!
# Reading settings

Settings are written in YAML, as a mapping of sections, each a mapping of
settings. The modules under `Yaml` read that notation from the characters of a
file on, so that loading a file can be run, and proved of every text. A section
or setting that is missing keeps its default, and so does a section without a
value. Names that are not known are passed over. A reference is read as the node
that it stands for. A fault is reported by its line: the line of the first node
in reading order that is not what is wanted there, or for a repeated name the
line of its mapping.
-/

namespace Settings

open Yaml

/-- A reading that may fail on a line. -/
abbrev Reading (R : Type) := Except Nat R

/-- A field of a section: its name and how its value changes the record read so far. -/
structure Field (R : Type) where
  name : String
  read : R → Node → Reading R

/-- The record with all fields of some keys and values read into it. -/
def readFields
    {R : Type}
    (anchors : Anchors)
    (fields : List (Field R))
    (mappingLine : Nat)
    (seen : List String)
    (record : R) :
    List Node → Reading R
  | key :: value :: rest =>
      match key.follow anchors with
      | .scalar _ _ name _ =>
          match fields.find? fun field => field.name = name with
          | none =>
              match value.brokenLine? with
              | some line => .error line
              | none => readFields anchors fields mappingLine seen record rest
          | some field =>
              if name ∈ seen then
                .error mappingLine
              else
                match field.read record (value.follow anchors) with
                | .error line => .error line
                | .ok updated =>
                    readFields anchors fields mappingLine (name :: seen) updated rest
      | node => .error node.line
  | [key] => .error (key.follow anchors).line
  | [] => .ok record

/-- The record with the fields of a section read into it. -/
def readSection
    {R : Type}
    (anchors : Anchors)
    (fields : List (Field R))
    (record : R) :
    Node → Reading R
  | .mapping keysAndValues line => readFields anchors fields line [] record keysAndValues
  | .scalar .plain _ "" _ => .ok record
  | node => .error node.line

/--
The value of a scalar, if it is one of the wanted kind. The scalar is plain, or
a literal whose tag names that kind.
-/
def readScalar {V : Type} (kind : String) (value? : String → Option V) : Node → Reading V
  | .scalar style tag text line =>
      if style = .plain ∨ (style = .literal ∧ tag = some kind) then
        match value? text with
        | some value => .ok value
        | none => .error line
      else
        .error line
  | node => .error node.line

/-- A real number, rounded to the precision of margins. -/
def readMargin : Node → Reading Float32 :=
  readScalar "tag:yaml.org,2002:float" fun text => (real? text.toList).map Float.toFloat32

/-- A truth value. -/
def readSwitch : Node → Reading Bool :=
  readScalar "tag:yaml.org,2002:bool" boolean?

/-- A natural number of 32 bits. -/
def readExtent : Node → Reading UInt32 :=
  readScalar "tag:yaml.org,2002:int" fun text =>
    (natural? text.toList).bind fun value =>
      if fits : value < UInt32.size then some (UInt32.ofNatLT value fits) else none

/-- The field of the section `layout`. -/
def layoutFields : List (Field (Settings Float32)) :=
  [{ name := "margin"
     read := fun settings node =>
       (readMargin node).map fun margin => { settings with margin := margin } }]

/-- The fields of the section `query`. -/
def queryFields : List (Field (Settings Float32)) :=
  [{ name := "fallback"
     read := fun settings node =>
       (readSwitch node).map fun fallback =>
         { settings with query := { settings.query with fallback := fallback } } },
    { name := "axis_titles"
      read := fun settings node =>
        (readSwitch node).map fun axisTitles =>
          { settings with query := { settings.query with axisTitles := axisTitles } } }]

/-- The fields of the section `terminal`. -/
def terminalFields : List (Field (Settings Float32)) :=
  [{ name := "width"
     read := fun settings node =>
       (readExtent node).map fun width =>
         { settings with terminal := { settings.terminal with width := width } } },
    { name := "height"
      read := fun settings node =>
        (readExtent node).map fun height =>
          { settings with terminal := { settings.terminal with height := height } } }]

/-- The sections. -/
def sections (anchors : Anchors) : List (Field (Settings Float32)) :=
  [{ name := "layout", read := readSection anchors layoutFields },
    { name := "query", read := readSection anchors queryFields },
    { name := "terminal", read := readSection anchors terminalFields }]

/-- The settings of a document; what follows the document must be empty. -/
def ofDocument (document : Document) : Reading (Settings Float32) :=
  let read : Reading (Settings Float32) :=
    match document.root with
    | none => .ok {}
    | some root =>
        let anchors := root.anchors
        readSection anchors (sections anchors) {} (root.follow anchors)
  match read with
  | .error line => .error line
  | .ok settings =>
      match document.tail with
      | .nothing => .ok settings
      | .more => .error 0
      | .broken line => .error line

/-- The settings in a text, if they can be read and are in range. -/
def parse (text : String) : Except Error (Settings Float32) :=
  match ofDocument (Document.read text) with
  | .error line => .error (.unreadableSettings line)
  | .ok settings => settings.validate

/-- The settings in the content of a file; a file that cannot be read has none. -/
def ofFile (path : String) (content : Option String) : Except Error (Settings Float32) :=
  match content with
  | some text => parse text
  | none => .error (.settingsNotFound path)

/-- The settings in the content of a file, or the defaults when anything is wrong with it. -/
def ofFileOrDefault (path : String) (content : Option String) : Settings Float32 :=
  match ofFile path content with
  | .ok settings => settings
  | .error _ => {}

end Settings

end PlotBoard
