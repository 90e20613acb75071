import PlotBoard.Yaml.Token.Scan

namespace PlotBoard.Yaml

/-!
# Nodes of settings texts

The tree of a text is read as far as the text is readable. Where it stops being
readable, a broken node takes the place of what would follow, and it is the last
node of the tree in reading order.
-/

/-- A scalar, a collection, or the line on which the text stops being readable. -/
inductive Node where
  | scalar (style : ScalarStyle) (tag : Option String) (text : String) (line : Nat)
  | sequence (items : List Node) (line : Nat)
  /-- Keys and values in turn. -/
  | mapping (keysAndValues : List Node) (line : Nat)
  /-- A node that references with a number may stand for. -/
  | anchored (number : Nat) (content : Node)
  /-- A node that stands for the last one anchored with a number. -/
  | reference (number : Nat) (line : Nat)
  | broken (line : Nat)

/-- The anchored nodes of a tree with their numbers, in reading order. -/
abbrev Anchors := List (Nat × Node)

namespace Node

/-- The line on which a node starts. -/
def line : Node → Nat
  | .scalar _ _ _ line => line
  | .sequence _ line => line
  | .mapping _ line => line
  | .anchored _ content => content.line
  | .reference _ line => line
  | .broken line => line

/-- A value that is left out. -/
def empty (line : Nat) : Node :=
  .scalar .plain none "" line

/-- The line of the broken node in a tree, if there is one. -/
def brokenLine? : Node → Option Nat
  | .scalar _ _ _ _ => none
  | .sequence items _ => brokenLineOf? items
  | .mapping keysAndValues _ => brokenLineOf? keysAndValues
  | .anchored _ content => content.brokenLine?
  | .reference _ _ => none
  | .broken line => some line
where
  /-- The line of the broken node in some trees. -/
  brokenLineOf? : List Node → Option Nat
    | [] => none
    | node :: rest => node.brokenLine?.or (brokenLineOf? rest)

/-- The anchored nodes of a tree. -/
def anchors : Node → Anchors
  | .scalar _ _ _ _ => []
  | .sequence items _ => anchorsOf items
  | .mapping keysAndValues _ => anchorsOf keysAndValues
  | .anchored number content => (number, content) :: content.anchors
  | .reference _ _ => []
  | .broken _ => []
where
  /-- The anchored nodes of some trees. -/
  anchorsOf : List Node → Anchors
    | [] => []
    | node :: rest => node.anchors ++ anchorsOf rest

/-- The scalar or collection that a node is or stands for. -/
def follow (anchors : Anchors) : Node → Node
  | .anchored _ content => content
  | .reference number line => (anchors.reverse.lookup number).getD (.broken line)
  | node => node

end Node

/-- What has been read, and the tokens after it unless the text became unreadable. -/
structure ReadNodes where
  nodes : List Node
  after : Option (List Token)

namespace ReadNodes

/-- The text becomes unreadable. -/
def broken (line : Nat) : ReadNodes where
  nodes := [.broken line]
  after := none

/-- One node has been read. -/
def single (node : Node) (after : List Token) : ReadNodes where
  nodes := [node]
  after := some after

/-- What is read next, after what has been read. -/
def andThen (first : ReadNodes) (next : List Token → ReadNodes) : ReadNodes :=
  match first.after with
  | none => first
  | some tokens =>
      let second := next tokens
      { nodes := first.nodes ++ second.nodes, after := second.after }

/-- What has been read, as one node. -/
def wrap (collection : List Node → Node) (content : ReadNodes) : ReadNodes where
  nodes := [collection content.nodes]
  after := content.after

end ReadNodes

/-- A node that is left out before the given kinds of tokens, and is then on the given line. -/
def optionalNode
    (stops : List TokenKind)
    (line : Nat)
    (read : List Token → ReadNodes)
    (tokens : List Token) :
    ReadNodes :=
  match tokens with
  | next :: _ => if next.kind ∈ stops then .single (.empty line) tokens else read tokens
  | [] => read tokens

/-- A node of a flow collection; one that is left out is on the line of the token after it. -/
def optionalFlowNode
    (stops : List TokenKind)
    (read : List Token → ReadNodes)
    (tokens : List Token) :
    ReadNodes :=
  optionalNode stops (tokens.head?.elim 0 Token.line) read tokens

/--
The key after a question mark in a flow sequence. When it is left out, the token
that shows it is passed over, be it a colon, a comma or the end of the sequence.
-/
def optionalPairKey
    (stops : List TokenKind)
    (read : List Token → ReadNodes)
    (tokens : List Token) :
    ReadNodes :=
  match tokens with
  | next :: rest => if next.kind ∈ stops then .single (.empty next.line) rest else read tokens
  | [] => read tokens

/-- A value, read after its colon from the line of the colon on; without a colon it is left out. -/
def optionalValue
    (read : Nat → List Token → ReadNodes)
    (tokens : List Token) :
    ReadNodes :=
  match tokens with
  | ⟨.value, line⟩ :: rest => read line rest
  | next :: _ =>
      if next.kind = .unreadable then .broken next.line else .single (.empty next.line) tokens
  | [] => .broken 0

/-- What stands in front of the content of a node. -/
structure Properties where
  anchor : Option Nat := none
  tag : Option String := none
  /-- The line of the first property. -/
  line : Option Nat := none

namespace Properties

/-- A node with an anchor, if there is one. -/
def attach (properties : Properties) (content : Node) : Node :=
  properties.anchor.elim content fun number => .anchored number content

/-- Properties with a tag. An unknown handle is a fault if the text after it is readable. -/
def withTag
    (properties : Properties)
    (name : Option String)
    (line : Nat)
    (after : List Token) :
    Except Nat (Properties × List Token) :=
  match name, after with
  | _, ⟨.unreadable, brokenLine⟩ :: _ => .error brokenLine
  | none, _ => .error line
  | some name, _ => .ok ({ properties with tag := some name }, after)

/-- The properties of a node and the tokens after them, or the line of a fault. -/
def read : List Token → Except Nat (Properties × List Token)
  | ⟨.anchor number, line⟩ :: ⟨.tag name, tagLine⟩ :: rest =>
      withTag { anchor := some number, line := some line } name tagLine rest
  | ⟨.anchor number, line⟩ :: rest => .ok ({ anchor := some number, line := some line }, rest)
  | ⟨.tag name, line⟩ :: ⟨.anchor number, _⟩ :: rest =>
      withTag { anchor := some number, line := some line } name line rest
  | ⟨.tag name, line⟩ :: rest => withTag { line := some line } name line rest
  | tokens => .ok ({}, tokens)

/-- A node that has no content; without properties too it is a fault. -/
def withoutContent (properties : Properties) (tokens : List Token) : ReadNodes :=
  match properties.line, tokens with
  | _, [] => .broken 0
  | _, ⟨.unreadable, line⟩ :: _ => .broken line
  | none, next :: _ => .broken next.line
  | some line, _ => .single (properties.attach (.scalar .plain properties.tag "" line)) tokens

end Properties

/-- Which collections may start a node. -/
inductive NodeContext where
  | flow
  | block
  | blockOrDashes
  deriving DecidableEq

/-- The tokens before which a key or a value of a block mapping is left out. -/
def blockStops : List TokenKind :=
  [.key, .value, .blockEnd]

mutual

/-- One node. -/
def readNode (fuel : Nat) (context : NodeContext) (tokens : List Token) : ReadNodes :=
  match fuel with
  | 0 => .broken (tokens.head?.elim 0 Token.line)
  | fuel + 1 =>
      match Properties.read tokens with
      | .error line => .broken line
      | .ok (properties, []) => properties.withoutContent []
      | .ok (properties, ⟨kind, contentLine⟩ :: rest) =>
          let line := properties.line.getD contentLine
          let collection := fun (node : List Node → Nat → Node) (items : ReadNodes) =>
            items.wrap fun nodes => properties.attach (node nodes line)
          match kind, context, properties.line with
          | .scalar style text, _, _ =>
              .single (properties.attach (.scalar style properties.tag text line)) rest
          | .reference (some number), _, none => .single (.reference number line) rest
          | .flowSequenceStart, _, _ => collection .sequence (readFlowItems fuel true rest)
          | .flowMappingStart, _, _ => collection .mapping (readFlowPairs fuel true rest)
          | .blockSequenceStart, .block, _ => collection .sequence (readBlockItems fuel rest)
          | .blockSequenceStart, .blockOrDashes, _ =>
              collection .sequence (readBlockItems fuel rest)
          | .blockMappingStart, .block, _ => collection .mapping (readBlockPairs fuel rest)
          | .blockMappingStart, .blockOrDashes, _ =>
              collection .mapping (readBlockPairs fuel rest)
          | .blockEntry, .blockOrDashes, _ =>
              collection .sequence (readDashes fuel (⟨.blockEntry, contentLine⟩ :: rest))
          | kind, _, _ => properties.withoutContent (⟨kind, contentLine⟩ :: rest)

/-- The keys and values of a block mapping. -/
def readBlockPairs (fuel : Nat) : List Token → ReadNodes
  | [] => .broken 0
  | ⟨kind, line⟩ :: rest =>
      match fuel with
      | 0 => .broken line
      | fuel + 1 =>
          match kind with
          | .key =>
              ((optionalNode blockStops line (readNode fuel .blockOrDashes) rest).andThen
                (optionalValue fun line =>
                  optionalNode blockStops line (readNode fuel .blockOrDashes))).andThen
                (readBlockPairs fuel)
          | .blockEnd => { nodes := [], after := some rest }
          | _ => .broken line

/-- The items of a block sequence. -/
def readBlockItems (fuel : Nat) : List Token → ReadNodes
  | [] => .broken 0
  | ⟨kind, line⟩ :: rest =>
      match fuel with
      | 0 => .broken line
      | fuel + 1 =>
          match kind with
          | .blockEntry =>
              (optionalNode [.blockEntry, .blockEnd] line (readNode fuel .block) rest).andThen
                (readBlockItems fuel)
          | .blockEnd => { nodes := [], after := some rest }
          | _ => .broken line

/-- The items of a sequence whose dashes stand under the key of the sequence. -/
def readDashes (fuel : Nat) : List Token → ReadNodes
  | [] => .broken 0
  | ⟨kind, line⟩ :: rest =>
      match fuel with
      | 0 => .broken line
      | fuel + 1 =>
          match kind with
          | .blockEntry =>
              (optionalNode [.blockEntry, .key, .value, .blockEnd] line
                (readNode fuel .block) rest).andThen
                (readDashes fuel)
          | .unreadable => .broken line
          | _ => { nodes := [], after := some (⟨kind, line⟩ :: rest) }

/-- The items of a flow sequence; all but the first one follow a comma. -/
def readFlowItems (fuel : Nat) (isFirst : Bool) : List Token → ReadNodes
  | [] => .broken 0
  | ⟨kind, line⟩ :: rest =>
      match fuel with
      | 0 => .broken line
      | fuel + 1 =>
          if kind = .flowSequenceEnd then
            { nodes := [], after := some rest }
          else if isFirst then
            readFlowItem fuel (⟨kind, line⟩ :: rest)
          else if kind = .flowEntry then
            match rest with
            | ⟨.flowSequenceEnd, _⟩ :: after => { nodes := [], after := some after }
            | _ => readFlowItem fuel rest
          else
            .broken line

/-- An item of a flow sequence, which may be a single key and value, and the items after it. -/
def readFlowItem (fuel : Nat) : List Token → ReadNodes
  | [] => .broken 0
  | ⟨kind, line⟩ :: rest =>
      match fuel with
      | 0 => .broken line
      | fuel + 1 =>
          let item :=
            if kind = .key then
              ((optionalPairKey [.value, .flowEntry, .flowSequenceEnd]
                (readNode fuel .flow) rest).andThen
                (optionalValue fun _ =>
                  optionalFlowNode [.flowEntry, .flowSequenceEnd] (readNode fuel .flow))).wrap
                (.mapping · line)
            else
              readNode fuel .flow (⟨kind, line⟩ :: rest)
          item.andThen (readFlowItems fuel false)

/-- The keys and values of a flow mapping; all pairs but the first one follow a comma. -/
def readFlowPairs (fuel : Nat) (isFirst : Bool) : List Token → ReadNodes
  | [] => .broken 0
  | ⟨kind, line⟩ :: rest =>
      match fuel with
      | 0 => .broken line
      | fuel + 1 =>
          if kind = .flowMappingEnd then
            { nodes := [], after := some rest }
          else if isFirst then
            readFlowPair fuel (⟨kind, line⟩ :: rest)
          else if kind = .flowEntry then
            match rest with
            | ⟨.flowMappingEnd, _⟩ :: after => { nodes := [], after := some after }
            | _ => readFlowPair fuel rest
          else
            .broken line

/-- A pair of a flow mapping, whose value may be left out, and the pairs after it. -/
def readFlowPair (fuel : Nat) : List Token → ReadNodes
  | [] => .broken 0
  | ⟨kind, line⟩ :: rest =>
      match fuel with
      | 0 => .broken line
      | fuel + 1 =>
          let pair :=
            if kind = .key then
              (optionalFlowNode [.value, .flowEntry, .flowMappingEnd]
                (readNode fuel .flow) rest).andThen
                (optionalValue fun _ =>
                  optionalFlowNode [.flowEntry, .flowMappingEnd] (readNode fuel .flow))
            else
              (readNode fuel .flow (⟨kind, line⟩ :: rest)).andThen fun after =>
                .single (.empty (after.head?.elim line Token.line)) after
          pair.andThen (readFlowPairs fuel false)

end

/-- What follows the first document of a text. -/
inductive DocumentTail where
  | nothing
  | more
  | broken (line : Nat)
  deriving DecidableEq

/-- The first document of a text, which may be missing, and what follows it. -/
structure Document where
  root : Option Node
  tail : DocumentTail

namespace Document

/-- What tokens after the first document amount to. -/
def tailOf : List Token → DocumentTail
  | ⟨.unreadable, line⟩ :: _ => .broken line
  | tokens =>
      match tokens.dropWhile (·.kind = .documentEnd) with
      | ⟨.finished, _⟩ :: _ => .nothing
      | _ => .more

/-- A document whose root has been read. -/
def ofRoot (read : ReadNodes) : Document where
  root := read.nodes.head?
  tail :=
    match read.after with
    | some tokens => tailOf tokens
    | none => .nothing

/--
What follows the directives and the marker at the start of a document, or the
line of a fault. Directives may not repeat, the version is 1.1 or 1.2, and the
marker has to follow them.
-/
def contentAfterMarker
    (versionIsKnown : Bool)
    (handles : List String) :
    List Token → Except Nat (List Token)
  | ⟨.directive (.version major minor), line⟩ :: rest =>
      if versionIsKnown ∨ major ≠ 1 ∨ minor ∉ [1, 2] then
        .error line
      else
        contentAfterMarker true handles rest
  | ⟨.directive (.tagHandle handle _), line⟩ :: rest =>
      if handle ∈ handles then
        .error line
      else
        contentAfterMarker versionIsKnown (handle :: handles) rest
  | ⟨.documentStart, _⟩ :: rest => .ok rest
  | ⟨_, line⟩ :: _ => .error line
  | [] => .error 0

/-- The root of a document, which may be left out after a marker. -/
def readRoot (afterMarker : Bool) (tokens : List Token) : ReadNodes :=
  match afterMarker, tokens with
  | true, ⟨.directive _, line⟩ :: _ => .single (.empty line) tokens
  | true, ⟨.documentStart, line⟩ :: _ => .single (.empty line) tokens
  | true, ⟨.documentEnd, line⟩ :: _ => .single (.empty line) tokens
  | true, ⟨.finished, line⟩ :: _ => .single (.empty line) tokens
  | _, _ => readNode (3 * tokens.length + 3) .block tokens

/-- The first document of some tokens. -/
def ofTokens (tokens : List Token) : Document :=
  match tokens with
  | [] => { root := none, tail := .nothing }
  | ⟨.finished, _⟩ :: _ => { root := none, tail := .nothing }
  | ⟨.directive _, _⟩ :: _ => ofMarked tokens
  | ⟨.documentStart, _⟩ :: _ => ofMarked tokens
  | _ => ofRoot (readRoot false tokens)
where
  /-- A document that starts with directives or a marker. -/
  ofMarked (tokens : List Token) : Document :=
    match contentAfterMarker false [] tokens with
    | .error line => ofRoot (.broken line)
    | .ok content => ofRoot (readRoot true content)

/-- The first document of a text. -/
def read (text : String) : Document :=
  ofTokens (Token.scan text)

end Document

end PlotBoard.Yaml
