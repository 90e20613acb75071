import PlotBoard.Yaml.BlockText
import PlotBoard.Yaml.Token

namespace PlotBoard.Yaml

/-!
# Finding tokens

A colon may turn an earlier node on its line into a key. A place is therefore
kept open before each of them, in which a colon later puts the tokens that start
a key. A token behind an open place is not settled. When the text becomes
unreadable, the tokens that were not settled by then are lost. Only the first
document of a text is read, so names and handles are kept to the end.
-/

/-- The start of a node that a colon may turn into a key, and its open place. -/
structure PossibleKey where
  place : Nat
  line : Nat
  column : Nat
  offset : Nat
  isRequired : Bool

/-- Where the scanner stands, what it has found and what it still expects. -/
structure Scanner where
  cursor : Cursor
  /-- Tokens in order; an empty entry is an open place. -/
  found : Array (List Token) := #[]
  /-- How many entries at the start of `found` no colon can change any more. -/
  settled : Nat := 0
  /-- The columns of the open block collections, innermost first. -/
  indents : List Nat := []
  /-- The possible key of each open flow collection, innermost first, and at last of the block. -/
  keys : List (Option PossibleKey) := [none]
  /-- A key may start here. -/
  keyAllowed : Bool := true
  /-- The names of anchors, each with the number of its last anchor. -/
  anchors : List (String × Nat) := []
  /-- The handles of tags, the last one first. -/
  handles : TagHandles := TagHandles.standard

/-- A scanner after one step, or the line on which the text becomes unreadable. -/
abbrev ScanStep := Except Nat Scanner

namespace Scanner

/-- A flow collection is open. -/
def inFlow (scanner : Scanner) : Bool :=
  1 < scanner.keys.length

/-- The scanner with one more token. -/
def push (scanner : Scanner) (kind : TokenKind) (line : Nat) : Scanner :=
  { scanner with found := scanner.found.push [⟨kind, line⟩] }

/-- The innermost open block collection starts to the left of a column. -/
def isIndented (scanner : Scanner) (column : Nat) : Bool :=
  match scanner.indents with
  | [] => true
  | indent :: _ => indent < column

/-- The least column of a continued plain scalar. -/
def plainIndent (scanner : Scanner) : Nat :=
  match scanner.indents with
  | [] => 0
  | indent :: _ => indent + 1

/-- The scanner with the block collections closed that start to the right of a column. -/
def closeBlocks (scanner : Scanner) (column : Option Nat) : Scanner :=
  if scanner.inFlow then
    scanner
  else
    let closes := fun (indent : Nat) => column.all (· < indent)
    let closed := scanner.indents.takeWhile closes
    closed.foldl (fun scanner _ => scanner.push .blockEnd scanner.cursor.line)
      { scanner with indents := scanner.indents.dropWhile closes }

/-- The tokens that open a block collection at a column, if none is open there. -/
def openBlock
    (scanner : Scanner)
    (kind : TokenKind)
    (column line : Nat) :
    Scanner × List Token :=
  if !scanner.inFlow && scanner.isIndented column then
    ({ scanner with indents := column :: scanner.indents }, [⟨kind, line⟩])
  else
    (scanner, [])

/-- The possible key of the innermost collection. -/
def currentKey (scanner : Scanner) : Option PossibleKey :=
  scanner.keys.head?.join

/-- The scanner with another possible key of the innermost collection. -/
def setKey (scanner : Scanner) (key : Option PossibleKey) : Scanner :=
  { scanner with keys := key :: scanner.keys.tail }

/-- The scanner without a possible key of the innermost collection; a required key cannot go. -/
def dropKey (scanner : Scanner) : ScanStep :=
  match scanner.currentKey with
  | some key => if key.isRequired then .error scanner.cursor.line else .ok (scanner.setKey none)
  | none => .ok scanner

/-- A key ends on its line and within 1024 bytes. -/
def isStale (scanner : Scanner) (key : PossibleKey) : Bool :=
  key.line < scanner.cursor.line || key.offset + 1024 < scanner.cursor.offset

/-- The scanner without the possible keys that can no longer be keys. -/
def dropStaleKeys (scanner : Scanner) : ScanStep :=
  let isLost := fun (key : PossibleKey) => scanner.isStale key && key.isRequired
  if scanner.keys.any (fun key => key.any isLost) then
    .error scanner.cursor.line
  else
    .ok { scanner with
      keys := scanner.keys.map fun key => key.filter fun key => !scanner.isStale key }

/-- The scanner with an open place before what starts at the cursor. -/
def openKey (scanner : Scanner) : ScanStep :=
  if scanner.keyAllowed then
    scanner.dropKey.map fun scanner =>
      { scanner.setKey (some
          { place := scanner.found.size
            line := scanner.cursor.line
            column := scanner.cursor.column
            offset := scanner.cursor.offset
            isRequired :=
              !scanner.inFlow && scanner.indents.head? = some scanner.cursor.column }) with
        found := scanner.found.push [] }
  else
    .ok scanner

/-- The scanner after a number of characters. -/
def advance (scanner : Scanner) (count : Nat) : Scanner :=
  { scanner with cursor := scanner.cursor.skip count }

/-- The scanner after a token of some characters. -/
def take (scanner : Scanner) (kind : TokenKind) (count : Nat) : Scanner :=
  (scanner.push kind scanner.cursor.line).advance count

/-- The scanner with another answer to whether a key may start. -/
def allowKey (scanner : Scanner) (allowed : Bool) : Scanner :=
  { scanner with keyAllowed := allowed }

/--
The scanner at the next character that is neither white space nor part of a
comment. A byte order mark may start every line, and takes its first column.
-/
def skipSeparation (fuel : Nat) (inComment : Bool) (scanner : Scanner) : Scanner :=
  match fuel with
  | 0 => scanner
  | fuel + 1 =>
      match scanner.cursor.rest with
      | [] => scanner
      | character :: _ =>
          if isBreak character then
            skipSeparation fuel false
              ((scanner.advance 1).allowKey (scanner.keyAllowed || !scanner.inFlow))
          else if inComment || character = ' '
              || (character = '\uFEFF' && scanner.cursor.column = 0)
              || (character = '\t' && (scanner.inFlow || !scanner.keyAllowed)) then
            skipSeparation fuel inComment (scanner.advance 1)
          else if character = '#' then
            skipSeparation fuel true (scanner.advance 1)
          else
            scanner

/-- A directive and its line break, from the percent sign on. -/
def takeDirective (scanner : Scanner) (rest : List Char) : ScanStep :=
  (scanner.closeBlocks none).dropKey.bind fun scanner =>
    let directive := (Directive.read? rest).bind fun (content, after) =>
      (lineEnd? after).map fun atBreak => (content, atBreak)
    match directive with
    | none => .error scanner.cursor.line
    | some (content, atBreak) =>
        let handles :=
          match content with
          | .tagHandle handle start => (handle, start) :: scanner.handles
          | .version _ _ => scanner.handles
        .ok { (scanner.push (.directive content) scanner.cursor.line).allowKey false with
          cursor := (scanner.cursor.skipTo atBreak).next
          handles := handles }

/-- A document marker. -/
def takeDocumentMark (scanner : Scanner) (kind : TokenKind) : ScanStep :=
  (scanner.closeBlocks none).dropKey.map fun scanner =>
    (scanner.allowKey false).take kind 3

/-- The start of a flow collection. -/
def takeFlowStart (scanner : Scanner) (kind : TokenKind) : ScanStep :=
  scanner.openKey.map fun scanner =>
    ({ scanner with keys := none :: scanner.keys }.allowKey true).take kind 1

/-- The end of a flow collection. -/
def takeFlowEnd (scanner : Scanner) (kind : TokenKind) : ScanStep :=
  scanner.dropKey.map fun scanner =>
    let keys := if scanner.inFlow then scanner.keys.tail else scanner.keys
    ({ scanner with keys := keys }.allowKey false).take kind 1

/-- A comma. -/
def takeFlowEntry (scanner : Scanner) : ScanStep :=
  scanner.dropKey.map fun scanner => (scanner.allowKey true).take .flowEntry 1

/-- The dash before an item of a block sequence. -/
def takeBlockEntry (scanner : Scanner) : ScanStep :=
  if !scanner.inFlow && !scanner.keyAllowed then
    .error scanner.cursor.line
  else
    let (scanner, opening) :=
      scanner.openBlock .blockSequenceStart scanner.cursor.column scanner.cursor.line
    { scanner with found := scanner.found.push opening }.dropKey.map fun (scanner : Scanner) =>
      (scanner.allowKey true).take .blockEntry 1

/-- The question mark before a key. -/
def takeKey (scanner : Scanner) : ScanStep :=
  if !scanner.inFlow && !scanner.keyAllowed then
    .error scanner.cursor.line
  else
    let (scanner, opening) :=
      scanner.openBlock .blockMappingStart scanner.cursor.column scanner.cursor.line
    { scanner with found := scanner.found.push opening }.dropKey.map fun (scanner : Scanner) =>
      (scanner.allowKey !scanner.inFlow).take .key 1

/-- The colon before a value. It fills the open place of the possible key, if there is one. -/
def takeValue (scanner : Scanner) : ScanStep :=
  match scanner.currentKey with
  | some key =>
      let (scanner, opening) := scanner.openBlock .blockMappingStart key.column key.line
      let started := opening ++ [⟨.key, key.line⟩]
      .ok (({ scanner.setKey none with
        found := scanner.found.setIfInBounds key.place started }.allowKey false).take .value 1)
  | none =>
      if scanner.inFlow then
        .ok ((scanner.allowKey false).take .value 1)
      else if scanner.keyAllowed then
        let (scanner, opening) :=
          scanner.openBlock .blockMappingStart scanner.cursor.column scanner.cursor.line
        .ok (({ scanner with found := scanner.found.push opening }.allowKey true).take .value 1)
      else
        .error scanner.cursor.line

/-- A scalar that was read from the cursor on. -/
def takeScalar (scanner : Scanner) (style : ScalarStyle) (read : ScalarResult) : ScanStep :=
  read.map fun scalar =>
    { (scanner.push (.scalar style scalar.text) scanner.cursor.line).allowKey
        scalar.endsInBreak with
      cursor := scalar.after }

/-- A quoted scalar. -/
def takeQuoted (scanner : Scanner) (mark : Char) : ScanStep :=
  scanner.openKey.bind fun scanner =>
    scanner.takeScalar .quoted
      (quotedScalar mark scanner.cursor.rest.length [] .none scanner.cursor.next)

/-- A plain scalar. -/
def takePlain (scanner : Scanner) : ScanStep :=
  scanner.openKey.bind fun scanner =>
    scanner.takeScalar .plain
      (plainScalar scanner.inFlow scanner.plainIndent (scanner.cursor.rest.length + 1)
        [] .none scanner.cursor)

/-- A block scalar, which is no key unless a question mark tells so. -/
def takeBlockScalar (scanner : Scanner) (style : ScalarStyle) : ScanStep :=
  scanner.dropKey.bind fun scanner =>
    scanner.takeScalar style
      (blockScalar (style = .literal) scanner.indents.head? scanner.cursor.next)

/-- What may stand behind the name of an anchor without a space. -/
def endsAnchor (characters : List Char) : Bool :=
  endsWord characters
    || characters.head?.any (· ∈ ['?', ':', ',', ']', '}', '%', '@', '\x60'])

/-- A name behind a mark of one character, and the token that it becomes. -/
def takeName
    (scanner : Scanner)
    (rest : List Char)
    (token : Scanner → String → Scanner × TokenKind) :
    ScanStep :=
  scanner.openKey.bind fun scanner =>
    let name := rest.takeWhile isNameCharacter
    if name = [] ∨ ¬endsAnchor (rest.dropWhile isNameCharacter) then
      .error scanner.cursor.line
    else
      let (scanner, kind) := token scanner (String.ofList name)
      .ok ((scanner.allowKey false).take kind (name.length + 1))

/--
An anchor. Its number tells how many different names had anchors before it, so
that a name which is anchored again has a new number.
-/
def takeAnchor (scanner : Scanner) (rest : List Char) : ScanStep :=
  scanner.takeName rest fun scanner name =>
    let number := scanner.anchors.length
    let others := scanner.anchors.filter fun anchor => anchor.1 ≠ name
    ({ scanner with anchors := (name, number) :: others }, .anchor number)

/-- A reference to an anchor. -/
def takeReference (scanner : Scanner) (rest : List Char) : ScanStep :=
  scanner.takeName rest fun scanner name =>
    (scanner, .reference (scanner.anchors.lookup name))

/-- A tag. In a flow collection a comma may end it. -/
def takeTag (scanner : Scanner) (rest : List Char) : ScanStep :=
  scanner.openKey.bind fun scanner =>
    match Tag.read? rest with
    | none => .error scanner.cursor.line
    | some (tag, after) =>
        if endsWord after ∨ (scanner.inFlow ∧ after.head? = some ',') then
          .ok { (scanner.push (.tag (tag.name? scanner.handles)) scanner.cursor.line).allowKey
              false with
            cursor := scanner.cursor.skipTo after }
        else
          .error scanner.cursor.line

/-- A character that cannot start a plain scalar by itself. -/
def isIndicator (character : Char) : Bool :=
  character ∈ ['-', '?', ':', ',', '[', ']', '{', '}', '#', '&', '*', '!', '|', '>',
    '\'', '"', '%', '@', '\x60']

/-- A plain scalar starts with a character and goes on with the others. -/
def startsPlain (scanner : Scanner) (character : Char) (rest : List Char) : Bool :=
  if character = '-' then
    !rest.head?.any isSpace
  else if character = '?' || character = ':' then
    !scanner.inFlow && !endsWord rest
  else
    !isIndicator character && !isSpace character

/-- The token that starts with the character under the cursor. -/
def takeToken (scanner : Scanner) (character : Char) (rest : List Char) : ScanStep :=
  let atLineStart := scanner.cursor.column = 0
  if atLineStart ∧ character = '%' then
    scanner.takeDirective rest
  else if atLineStart ∧ isDocumentMark '-' scanner.cursor.rest then
    scanner.takeDocumentMark .documentStart
  else if atLineStart ∧ isDocumentMark '.' scanner.cursor.rest then
    scanner.takeDocumentMark .documentEnd
  else if character = '[' then
    scanner.takeFlowStart .flowSequenceStart
  else if character = '{' then
    scanner.takeFlowStart .flowMappingStart
  else if character = ']' then
    scanner.takeFlowEnd .flowSequenceEnd
  else if character = '}' then
    scanner.takeFlowEnd .flowMappingEnd
  else if character = ',' then
    scanner.takeFlowEntry
  else if character = '-' ∧ endsWord rest then
    scanner.takeBlockEntry
  else if character = '?' ∧ (scanner.inFlow ∨ endsWord rest) then
    scanner.takeKey
  else if character = ':' ∧ (scanner.inFlow ∨ endsWord rest) then
    scanner.takeValue
  else if character = '*' then
    scanner.takeReference rest
  else if character = '&' then
    scanner.takeAnchor rest
  else if character = '!' then
    scanner.takeTag rest
  else if character = '|' ∧ ¬scanner.inFlow then
    scanner.takeBlockScalar .literal
  else if character = '>' ∧ ¬scanner.inFlow then
    scanner.takeBlockScalar .folded
  else if character = '\'' ∨ character = '"' then
    scanner.takeQuoted character
  else if scanner.startsPlain character rest then
    scanner.takePlain
  else
    .error scanner.cursor.line

/-- The end of the text: all block collections are closed. -/
def finish (scanner : Scanner) : ScanStep :=
  let endLine := if scanner.cursor.column = 0 then scanner.cursor.line else scanner.cursor.line + 1
  let atEnd := { scanner with cursor := { scanner.cursor with line := endLine, column := 0 } }
  (atEnd.closeBlocks none).dropKey.map fun scanner => scanner.push .finished endLine

/-- The first open place. -/
def firstOpenPlace (scanner : Scanner) : Option Nat :=
  (scanner.keys.filterMap (·.map PossibleKey.place)).min?

/-- The scanner with every token settled that is not behind an open place. -/
def settle (scanner : Scanner) : ScanStep :=
  scanner.dropStaleKeys.map fun (scanner : Scanner) =>
    { scanner with settled := scanner.firstOpenPlace.getD scanner.found.size }

/-- The settled tokens. -/
def settledTokens (scanner : Scanner) : List Token :=
  (scanner.found.toList.take scanner.settled).flatten

/-- The settled tokens, and a last one for the line on which the text becomes unreadable. -/
def broken (scanner : Scanner) (line : Nat) : List Token :=
  scanner.settledTokens ++ [⟨.unreadable, line⟩]

/-- One token, or the end of the text. -/
def step (scanner : Scanner) : ScanStep × Bool :=
  let atToken := scanner.skipSeparation (scanner.cursor.rest.length + 1) false
  match atToken.dropStaleKeys with
  | .error line => (.error line, true)
  | .ok atToken =>
      let atToken := atToken.closeBlocks (some atToken.cursor.column)
      match atToken.cursor.rest with
      | [] => (atToken.finish.bind settle, true)
      | character :: rest => ((atToken.takeToken character rest).bind settle, false)

/-- All tokens from the cursor on. -/
def run (fuel : Nat) (scanner : Scanner) : List Token :=
  match fuel with
  | 0 => scanner.broken scanner.cursor.line
  | fuel + 1 =>
      match scanner.step with
      | (.error line, _) => scanner.broken line
      | (.ok after, true) => after.settledTokens
      | (.ok after, false) => after.run fuel

end Scanner

/--
The tokens of a text. The last one tells whether the text was readable to its
end. A text with a character that may not stand in it is unreadable from its
first line on.
-/
def Token.scan (text : String) : List Token :=
  let characters := joinBreaks text.toList
  let start : Scanner := { cursor := { rest := characters, line := 1, column := 0, offset := 0 } }
  if characters.all isReadable then
    start.run (characters.length + 2)
  else
    start.broken 1

end PlotBoard.Yaml
