import Mathlib.Data.List.Induction
import PlotBoard.Proofs.Yaml.Commentary
import PlotBoard.Settings.Read

namespace PlotBoard

/-!
# Loading settings

In the mapping of a text a setting is found under the name of its section and its own.
What is loaded is what is found there, and the default where nothing is. Settings out of
their range are refused under the name of the first of them, so that what is loaded can be
used.
-/

namespace Yaml

/-- The name that a key is. -/
def Node.name? : Node → Option String
  | .scalar _ _ text _ => some text
  | _ => none

/-- The value under a name, the first one if the name repeats. -/
def valueUnder? (anchors : Anchors) (name : String) : List Node → Option Node
  | key :: value :: rest =>
      if (key.follow anchors).name? = some name then
        some (value.follow anchors)
      else
        valueUnder? anchors name rest
  | _ => none

/-- The keys and values of a mapping; other nodes have none. -/
def Node.keysAndValues : Node → List Node
  | .mapping keysAndValues _ => keysAndValues
  | _ => []

/-- The node under a path of names. -/
def Node.at? (anchors : Anchors) : List String → Node → Option Node
  | [], node => some node
  | name :: path, node => (valueUnder? anchors name node.keysAndValues).bind (at? anchors path)

/-- The node under a path of names in a document. -/
def Document.at? (document : Document) (path : List String) : Option Node :=
  document.root.bind fun root => (root.follow root.anchors).at? root.anchors path

end Yaml

namespace Settings

open Yaml

section Ranges

variable {K : Type} [Scalar K]

/-- Settings that can be used. -/
structure InRange (settings : Settings K) : Prop where
  margin : acceptsMargin settings.margin = true
  width : settings.terminal.width ≠ 0
  height : settings.terminal.height ≠ 0

/-- The setting of that name is out of its range, and those that are checked before it are not. -/
inductive FirstOutside (settings : Settings K) : String → Prop
  | margin
      (outside : acceptsMargin settings.margin = false) :
      FirstOutside settings "layout.margin"
  | width
      (marginInRange : acceptsMargin settings.margin = true)
      (outside : settings.terminal.width = 0) :
      FirstOutside settings "terminal.width"
  | height
      (marginInRange : acceptsMargin settings.margin = true)
      (widthInRange : settings.terminal.width ≠ 0)
      (outside : settings.terminal.height = 0) :
      FirstOutside settings "terminal.height"

/-- The default settings can be used. -/
theorem inRange_default : InRange ({} : Settings Float32) where
  margin := by decide
  width := by decide
  height := by decide

/-- Settings are accepted when they are in range, else refused under the name of the first fault. -/
theorem validate_cases (settings : Settings K) :
    settings.validate = .ok settings ∧ settings.InRange ∨
      ∃ name message,
        settings.validate = .error (.invalidSetting name message) ∧
          settings.FirstOutside name := by
  by_cases marginInRange : acceptsMargin settings.margin = true
  · by_cases noWidth : settings.terminal.width = 0
    · right
      refine ⟨_, "must be non-zero", ?_, .width marginInRange noWidth⟩
      simp [validate, fault?, marginInRange, noWidth]
    · by_cases noHeight : settings.terminal.height = 0
      · right
        refine ⟨_, "must be non-zero", ?_, .height marginInRange noWidth noHeight⟩
        simp [validate, fault?, marginInRange, noWidth, noHeight]
      · left
        refine ⟨?_, marginInRange, noWidth, noHeight⟩
        simp [validate, fault?, marginInRange, noWidth, noHeight]
  · right
    refine
      ⟨_, Scalar.text settings.margin ++ " is outside [0, 0.5)", ?_,
        .margin (eq_false_of_ne_true marginInRange)⟩
    simp [validate, fault?, marginInRange]

end Ranges

/-- A value after reading is what is read at a node; without a node it is as before. -/
def Gives
    {V : Type}
    (node : Option Node)
    (read : Node → Reading V)
    (before after : V) :
    Prop :=
  match node with
  | some node => read node = .ok after
  | none => after = before

section Records

variable {R V : Type} {anchors : Anchors} {fields : List (Field R)}

/-- No reading of one of some fields changes a part of the record. -/
def Keeps (fields : List (Field R)) (part : R → V) : Prop :=
  ∀ field ∈ fields,
    ∀ record node updated,
      field.read record node = .ok updated →
        part updated = part record

/-- Of some fields the one with a name reads a part of the record, and the others keep it. -/
structure Reads
    (anchors : Anchors)
    (fields : List (Field R))
    (name : String)
    (path : List String)
    (part : R → V)
    (read : Node → Reading V) :
    Prop where
  known : ∃ field ∈ fields, field.name = name
  own :
    ∀ field ∈ fields,
      field.name = name →
      ∀ record node updated,
        field.read record node = .ok updated →
          Gives (node.at? anchors path) read (part record) (part updated)
  others : Keeps (fields.filter fun field => field.name ≠ name) part

/-- A pair is passed over when no field has its name, else its value is read once. -/
theorem readFields_cons_cons
    {mappingLine : Nat}
    {seen : List String}
    {record result : R}
    {key value : Node}
    {rest : List Node}
    (done :
      readFields anchors fields mappingLine seen record (key :: value :: rest) = .ok result) :
    ∃ text,
      (key.follow anchors).name? = some text ∧
        ((∀ field ∈ fields, field.name ≠ text) ∧
            readFields anchors fields mappingLine seen record rest = .ok result ∨
          ∃ field ∈ fields,
            field.name = text ∧
              text ∉ seen ∧
              ∃ updated,
                field.read record (value.follow anchors) = .ok updated ∧
                  readFields anchors fields mappingLine (text :: seen) updated rest =
                    .ok result) := by
  rw [readFields] at done
  split at done
  · next style tag text line isScalar =>
      refine ⟨text, by rw [isScalar]; rfl, ?_⟩
      split at done
      · next unknown =>
          split at done
          · cases done
          · refine .inl ⟨fun field member sameName => ?_, done⟩
            simpa [sameName] using List.find?_eq_none.mp unknown field member
      · next field found =>
          split at done
          · cases done
          · next unseen =>
              split at done
              · cases done
              · next updated readMade =>
                  have sameName : field.name = text := by
                    simpa using List.find?_some found
                  exact
                    .inr
                      ⟨field, List.mem_of_find?_eq_some found, sameName, unseen, updated, readMade,
                        done⟩
  · cases done

/-- A field reads the value that is found under its name, which is not repeated. -/
theorem readFields_gives
    {name : String}
    {path : List String}
    {part : R → V}
    {read : Node → Reading V}
    (reads : Reads anchors fields name path part read)
    {mappingLine : Nat}
    {seen : List String}
    {record result : R}
    {keysAndValues : List Node}
    (done : readFields anchors fields mappingLine seen record keysAndValues = .ok result) :
    (name ∈ seen → valueUnder? anchors name keysAndValues = none) ∧
      Gives ((valueUnder? anchors name keysAndValues).bind (Node.at? anchors path)) read
        (part record) (part result) := by
  induction keysAndValues using List.twoStepInduction generalizing seen record with
  | nil =>
      rw [readFields] at done
      obtain rfl := Except.ok.inj done
      exact ⟨fun _ => rfl, rfl⟩
  | singleton key =>
      rw [readFields] at done
      cases done
  | cons_cons key value rest inductionHypothesis _ =>
      obtain ⟨text, isNamed, unknown | known⟩ := readFields_cons_cons done
      · obtain ⟨noField, restDone⟩ := unknown
        obtain ⟨knownField, member, knownName⟩ := reads.known
        have otherName : text ≠ name := fun same =>
          noField knownField member (knownName.trans same.symm)
        rw [valueUnder?, isNamed, if_neg (by simpa using otherName)]
        exact inductionHypothesis restDone
      · obtain ⟨field, member, sameName, unseen, updated, readMade, restDone⟩ := known
        obtain ⟨notRepeated, restGives⟩ := inductionHypothesis restDone
        by_cases same : text = name
        -- The value is read here, and behind it the name does not come again.
        · subst same
          rw [valueUnder?, isNamed, if_pos rfl]
          rw [notRepeated List.mem_cons_self] at restGives
          refine ⟨fun seenBefore => absurd seenBefore unseen, ?_⟩
          have gives := reads.own field member sameName record _ updated readMade
          exact restGives ▸ gives
        · rw [valueUnder?, isNamed, if_neg (by simpa using same)]
          have kept :=
            reads.others field (List.mem_filter.mpr ⟨member, by simpa [sameName] using same⟩)
              record _ updated readMade
          exact
            ⟨fun seenBefore => notRepeated (List.mem_cons_of_mem _ seenBefore), kept ▸ restGives⟩

/-- A section gives what is found in it. -/
theorem readSection_gives
    {name : String}
    {path : List String}
    {part : R → V}
    {read : Node → Reading V}
    (reads : Reads anchors fields name path part read)
    {record result : R}
    {node : Node}
    (done : readSection anchors fields record node = .ok result) :
    Gives (node.at? anchors (name :: path)) read (part record) (part result) := by
  rw [readSection.eq_def] at done
  split at done
  · exact (readFields_gives reads done).2
  · obtain rfl := Except.ok.inj done
    rfl
  · cases done

/-- What reading one field preserves, reading all the pairs of a mapping preserves. -/
theorem readFields_preserves
    (Holds : R → Prop)
    (step :
      ∀ field ∈ fields,
        ∀ record node updated,
          field.read record node = .ok updated →
          Holds record →
          Holds updated)
    {mappingLine : Nat}
    {seen : List String}
    {record result : R}
    {keysAndValues : List Node}
    (done : readFields anchors fields mappingLine seen record keysAndValues = .ok result)
    (holds : Holds record) :
    Holds result := by
  induction keysAndValues using List.twoStepInduction generalizing seen record with
  | nil =>
      rw [readFields] at done
      exact Except.ok.inj done ▸ holds
  | singleton key =>
      rw [readFields] at done
      cases done
  | cons_cons key value rest inductionHypothesis _ =>
      obtain ⟨text, -, ⟨-, restDone⟩ | known⟩ := readFields_cons_cons done
      · exact inductionHypothesis restDone holds
      · obtain ⟨field, member, -, -, updated, readMade, restDone⟩ := known
        exact inductionHypothesis restDone (step field member record _ updated readMade holds)

/-- A section keeps what its fields keep. -/
theorem readSection_keeps
    {part : R → V}
    (keeps : Keeps fields part)
    {record result : R}
    {node : Node}
    (done : readSection anchors fields record node = .ok result) :
    part result = part record := by
  rw [readSection.eq_def] at done
  split at done
  · refine readFields_preserves (fun current => part current = part record) ?_ done rfl
    intro field member current node updated made kept
    exact (keeps field member current node updated made).trans kept
  · exact congrArg part (Except.ok.inj done).symm
  · cases done

/-- Reading a value and setting a part of the record to it leaves there what was read. -/
theorem eq_ok_of_map_eq_ok
    {part : R → V}
    {set : V → R}
    {value : Reading V}
    {updated : R}
    (setsPart : ∀ value, part (set value) = value)
    (done : value.map set = .ok updated) :
    value = .ok (part updated) := by
  cases value with
  | error line => cases done
  | ok read =>
      obtain rfl := Except.ok.inj done
      rw [setsPart]

/-- Reading a value and setting another part of the record to it keeps this one. -/
theorem eq_of_map_eq_ok
    {W : Type}
    {part : R → V}
    {set : W → R}
    {value : Reading W}
    {record updated : R}
    (keepsPart : ∀ value, part (set value) = part record)
    (done : value.map set = .ok updated) :
    part updated = part record := by
  cases value with
  | error line => cases done
  | ok read =>
      obtain rfl := Except.ok.inj done
      exact keepsPart read

end Records

/-- The sections of a text of settings. -/
inductive Section where
  | layout
  | query
  | terminal

namespace Section

/-- The name of a section. -/
def name : Section → String
  | .layout => "layout"
  | .query => "query"
  | .terminal => "terminal"

/-- The fields of a section. -/
def fields : Section → List (Field (Settings Float32))
  | .layout => layoutFields
  | .query => queryFields
  | .terminal => terminalFields

/-- A section as a field of the text. -/
def field (anchors : Anchors) (home : Section) : Field (Settings Float32) where
  name := home.name
  read := readSection anchors home.fields

theorem sections_eq (anchors : Anchors) :
    sections anchors = [layout, query, terminal].map (field anchors) :=
  rfl

theorem name_injective : Function.Injective name := by
  intro first second same
  cases first <;> cases second <;> simp [name] at same ⊢

end Section

/-- The settings, each with the type of its values. -/
inductive Setting : Type → Type 1 where
  | margin : Setting Float32
  | fallback : Setting Bool
  | axisTitles : Setting Bool
  | width : Setting UInt32
  | height : Setting UInt32

namespace Setting

variable {V : Type} {anchors : Anchors}

/-- The section that a setting stands in. -/
def home : Setting V → Section
  | .margin => .layout
  | .fallback => .query
  | .axisTitles => .query
  | .width => .terminal
  | .height => .terminal

/-- The name of a setting in its section. -/
def name : Setting V → String
  | .margin => "margin"
  | .fallback => "fallback"
  | .axisTitles => "axis_titles"
  | .width => "width"
  | .height => "height"

/-- The value of a setting. -/
def value : Setting V → Settings Float32 → V
  | .margin => fun settings => settings.margin
  | .fallback => fun settings => settings.query.fallback
  | .axisTitles => fun settings => settings.query.axisTitles
  | .width => fun settings => settings.terminal.width
  | .height => fun settings => settings.terminal.height

/-- How the value of a setting is read. -/
def read : Setting V → Node → Reading V
  | .margin => readMargin
  | .fallback => readSwitch
  | .axisTitles => readSwitch
  | .width => readExtent
  | .height => readExtent

/-- The settings with another value of one of them. -/
def set : Setting V → Settings Float32 → V → Settings Float32
  | .margin => fun settings margin => { settings with margin := margin }
  | .fallback => fun settings fallback =>
      { settings with query := { settings.query with fallback := fallback } }
  | .axisTitles => fun settings axisTitles =>
      { settings with query := { settings.query with axisTitles := axisTitles } }
  | .width => fun settings width =>
      { settings with terminal := { settings.terminal with width := width } }
  | .height => fun settings height =>
      { settings with terminal := { settings.terminal with height := height } }

/-- A setting as a field of its section. -/
def field (setting : Setting V) : Field (Settings Float32) where
  name := setting.name
  read := fun settings node => (setting.read node).map (setting.set settings)

theorem value_set (setting : Setting V) (settings : Settings Float32) (value : V) :
    setting.value (setting.set settings value) = value := by
  cases setting <;> rfl

/-- Setting one value leaves the values under other names as they are. -/
theorem value_set_of_name_ne
    {W : Type}
    {setting : Setting V}
    {other : Setting W}
    (otherName : other.name ≠ setting.name)
    (settings : Settings Float32)
    (value : W) :
    setting.value (other.set settings value) = setting.value settings := by
  cases setting <;> cases other <;> first | rfl | exact absurd rfl otherName

theorem field_eq_of_name_eq
    {W : Type}
    {setting : Setting V}
    {other : Setting W}
    (sameName : other.name = setting.name) :
    other.field = setting.field := by
  cases setting <;> cases other <;> first | rfl | simp [name] at sameName

theorem home_eq_of_name_eq
    {W : Type}
    {setting : Setting V}
    {other : Setting W}
    (sameName : other.name = setting.name) :
    other.home = setting.home := by
  cases setting <;> cases other <;> first | rfl | simp [name] at sameName

theorem field_mem_fields (setting : Setting V) : setting.field ∈ setting.home.fields := by
  cases setting with
  | margin => exact List.mem_cons_self
  | fallback => exact List.mem_cons_self
  | axisTitles => exact List.mem_cons_of_mem _ List.mem_cons_self
  | width => exact List.mem_cons_self
  | height => exact List.mem_cons_of_mem _ List.mem_cons_self

/-- The fields of a section are settings. -/
theorem exists_of_mem_fields
    {home : Section}
    {field : Field (Settings Float32)}
    (member : field ∈ home.fields) :
    ∃ (W : Type) (setting : Setting W), setting.home = home ∧ field = setting.field := by
  cases home with
  | layout => exact ⟨_, .margin, rfl, List.mem_singleton.mp member⟩
  | query =>
      rcases List.mem_cons.mp member with isFallback | member
      · exact ⟨_, .fallback, rfl, isFallback⟩
      · exact ⟨_, .axisTitles, rfl, List.mem_singleton.mp member⟩
  | terminal =>
      rcases List.mem_cons.mp member with isWidth | member
      · exact ⟨_, .width, rfl, isWidth⟩
      · exact ⟨_, .height, rfl, List.mem_singleton.mp member⟩

/-- A section keeps the settings of the other sections. -/
theorem keeps_of_ne_home
    (setting : Setting V)
    {home : Section}
    (otherHome : home ≠ setting.home) :
    Keeps home.fields setting.value := by
  intro field member record node updated done
  obtain ⟨W, other, rfl, rfl⟩ := exists_of_mem_fields member
  have otherName : other.name ≠ setting.name := fun sameName =>
    otherHome (home_eq_of_name_eq sameName)
  exact eq_of_map_eq_ok (value_set_of_name_ne otherName record) done

/-- In its section a setting is read under its name. -/
theorem reads_fields (setting : Setting V) :
    Reads anchors setting.home.fields setting.name [] setting.value setting.read where
  known := ⟨_, setting.field_mem_fields, rfl⟩
  own := by
    intro field member sameName record node updated done
    obtain ⟨W, other, -, rfl⟩ := exists_of_mem_fields member
    rw [field_eq_of_name_eq sameName] at done
    exact eq_ok_of_map_eq_ok (setting.value_set record) done
  others := by
    intro field member record node updated done
    obtain ⟨inFields, otherName⟩ := List.mem_filter.mp member
    obtain ⟨W, other, -, rfl⟩ := exists_of_mem_fields inFields
    exact eq_of_map_eq_ok (value_set_of_name_ne (of_decide_eq_true otherName) record) done

/-- A setting is read under the name of its section and its own. -/
theorem reads_sections (setting : Setting V) :
    Reads anchors (sections anchors) setting.home.name [setting.name] setting.value
      setting.read where
  known := by
    rw [Section.sections_eq]
    cases setting <;> simp [home, Section.field]
  own := by
    rw [Section.sections_eq]
    intro field member sameName record node updated done
    obtain ⟨found, -, rfl⟩ := List.mem_map.mp member
    obtain rfl := Section.name_injective sameName
    exact readSection_gives setting.reads_fields done
  others := by
    rw [Section.sections_eq]
    intro field member record node updated done
    obtain ⟨inSections, otherName⟩ := List.mem_filter.mp member
    obtain ⟨other, -, rfl⟩ := List.mem_map.mp inSections
    have otherHome : other ≠ setting.home := by
      rintro rfl
      simp [Section.field] at otherName
    exact readSection_keeps (setting.keeps_of_ne_home otherHome) done

end Setting

/-- Every setting is what a document gives for it, and the default where it gives nothing. -/
def AreFrom (settings : Settings Float32) (document : Document) : Prop :=
  ∀ (V : Type) (setting : Setting V),
    Gives (document.at? [setting.home.name, setting.name]) setting.read (setting.value {})
      (setting.value settings)

/-- What is read from a document is from that document. -/
theorem areFrom_of_ofDocument_eq_ok
    {document : Document}
    {settings : Settings Float32}
    (done : ofDocument document = .ok settings) :
    settings.AreFrom document := by
  intro V setting
  rw [Document.at?]
  rw [ofDocument] at done
  split at done
  · cases done
  · next read made =>
      have isRead : read = settings := by
        split at done
        · exact Except.ok.inj done
        · cases done
        · cases done
      subst isRead
      cases found : document.root with
      | none =>
          rw [found] at made
          exact congrArg setting.value (Except.ok.inj made).symm
      | some root =>
          rw [found] at made
          exact readSection_gives setting.reads_sections made

/--
A text of settings that can be read gives for each setting what stands under its name, or
the default. What is loaded is moreover in range; settings that are not are refused under
the name of the first one. No other fault is reported than these and an unreadable line.
-/
theorem parse_cases (text : String) :
    (∃ settings,
        parse text = .ok settings ∧ settings.AreFrom (Document.read text) ∧ settings.InRange) ∨
      (∃ line,
        parse text = .error (.unreadableSettings line) ∧
          ofDocument (Document.read text) = .error line) ∨
      ∃ (settings : Settings Float32) (name message : String),
        parse text = .error (.invalidSetting name message) ∧
          settings.AreFrom (Document.read text) ∧ settings.FirstOutside name := by
  rw [parse]
  cases done : ofDocument (Document.read text) with
  | error line => exact .inr (.inl ⟨line, rfl, rfl⟩)
  | ok settings =>
      have areFrom := areFrom_of_ofDocument_eq_ok done
      rcases settings.validate_cases with ⟨accepted, inRange⟩ | ⟨name, message, refused, outside⟩
      · exact .inl ⟨settings, accepted, areFrom, inRange⟩
      · exact .inr (.inr ⟨settings, name, message, refused, areFrom, outside⟩)

/-- A text of comments and blank lines gives the default settings. -/
theorem parse_of_commentary
    {text : String}
    (readable : ∀ character ∈ text.toList, isReadable character = true)
    (commentary : isCommentary false text.toList = true) :
    parse text = .ok {} := by
  rw [parse, Document.read_of_commentary readable commentary]
  rfl

/-- Whatever a file holds, and without one too, the settings that are loaded can be used. -/
theorem inRange_ofFileOrDefault (path : String) (content : Option String) :
    (ofFileOrDefault path content).InRange := by
  rw [ofFileOrDefault]
  split
  · next settings loaded =>
      cases content with
      | none => cases loaded
      | some text =>
          rcases parse_cases text with
            ⟨other, parsed, -, inRange⟩ | ⟨line, refused, -⟩ | ⟨_, name, message, refused, -⟩
          · obtain rfl := Except.ok.inj (parsed.symm.trans loaded)
            exact inRange
          · cases refused.symm.trans loaded
          · cases refused.symm.trans loaded
  · exact inRange_default

end Settings

end PlotBoard
