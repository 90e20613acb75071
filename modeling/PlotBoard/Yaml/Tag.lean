import PlotBoard.Number.Literal
import PlotBoard.Yaml.Cursor

namespace PlotBoard.Yaml

/-!
# Tags

A tag names the kind of a node. Its name is written in full between angle
brackets, or as a handle and a suffix, where the handle stands for the start of
the name.
-/

/-- A tag as it is written. The handle of a name that is written in full is empty. -/
structure Tag where
  handle : String
  suffix : String

/-- The handles of a document, each with the start of the names that it stands for. -/
abbrev TagHandles := List (String × String)

/-- The handles of every document. -/
def TagHandles.standard : TagHandles :=
  [("!", "!"), ("!!", "tag:yaml.org,2002:")]

/-- The full name of a tag, if its handle is known. -/
def Tag.name? (handles : TagHandles) (tag : Tag) : Option String :=
  if tag.handle = "" then
    some tag.suffix
  else
    (handles.lookup tag.handle).map fun start => start ++ tag.suffix

/-- A character of the name of a tag; what ends an item of a flow collection may be among them. -/
def isTagCharacter (withFlowEnds : Bool) (character : Char) : Bool :=
  isNameCharacter character
    || character ∈
      [';', '/', '?', ':', '@', '&', '=', '+', '$', '.', '!', '~', '*', '\'', '(', ')']
    || (withFlowEnds && character ∈ [',', '[', ']'])

/-- How many octets of a character in UTF-8 follow its first one. -/
def trailingOctets? (octet : Nat) : Option Nat :=
  if octet < 0x80 then
    some 0
  else if octet < 0xC0 then
    none
  else if octet < 0xE0 then
    some 1
  else if octet < 0xF0 then
    some 2
  else if octet < 0xF8 then
    some 3
  else
    none

/-- How many octets are missing after an octet, when some were missing before it. -/
def missingAfter? (missing octet : Nat) : Option Nat :=
  if missing = 0 then
    trailingOctets? octet
  else if 0x80 ≤ octet ∧ octet < 0xC0 then
    some (missing - 1)
  else
    none

/--
The characters of a name and what follows them. An octet may be written as a
percent sign and two hexadecimal digits, and counts as the character with its
number; the octets have to form whole characters in UTF-8.
-/
def tagCharacters?
    (withFlowEnds : Bool)
    (missing : Nat) :
    List Char → Option (List Char × List Char)
  | '%' :: high :: low :: rest =>
      (Literal.hexadecimal? [high, low]).bind fun octet =>
        (missingAfter? missing octet).bind fun missing =>
          (tagCharacters? withFlowEnds missing rest).map fun (name, after) =>
            (Char.ofNat octet :: name, after)
  | character :: rest =>
      if missing ≠ 0 ∨ character = '%' then
        none
      else if isTagCharacter withFlowEnds character then
        (tagCharacters? withFlowEnds 0 rest).map fun (name, after) => (character :: name, after)
      else
        some ([], character :: rest)
  | [] => if missing = 0 then some ([], []) else none

/-- The text of a name, which ends before its first null, and what follows the name. -/
def tagText? (withFlowEnds : Bool) (characters : List Char) : Option (String × List Char) :=
  (tagCharacters? withFlowEnds 0 characters).map fun (name, after) =>
    (String.ofList (name.takeWhile (· ≠ Char.ofNat 0)), after)

/-- The text of a name of at least one character, and what follows the name. -/
def nonemptyTagText?
    (withFlowEnds : Bool)
    (characters : List Char) :
    Option (String × List Char) :=
  (tagText? withFlowEnds characters).filter fun (_, after) => after.length < characters.length

/-- A handle that ends in a second mark, from the character after its first one on. -/
def closedHandle? (characters : List Char) : Option (String × List Char) :=
  match characters.dropWhile isNameCharacter with
  | '!' :: rest =>
      some ("!" ++ String.ofList (characters.takeWhile isNameCharacter) ++ "!", rest)
  | _ => none

/-- The tag with a suffix and the handle of one mark; without a suffix it is the mark itself. -/
def Tag.ofSuffix (suffix : String) : Tag :=
  if suffix = "" then ⟨"", "!"⟩ else ⟨"!", suffix⟩

/-- A tag, from the character after its exclamation mark on, and what follows it. -/
def Tag.read? : List Char → Option (Tag × List Char)
  | '<' :: characters =>
      match nonemptyTagText? true characters with
      | some (name, '>' :: after) => some (⟨"", name⟩, after)
      | _ => none
  | characters =>
      match closedHandle? characters with
      | some (handle, rest) =>
          (nonemptyTagText? false rest).map fun (suffix, after) => (⟨handle, suffix⟩, after)
      | none =>
          (tagText? false characters).map fun (suffix, after) => (Tag.ofSuffix suffix, after)

end PlotBoard.Yaml
