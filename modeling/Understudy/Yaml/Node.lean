import Understudy.Yaml.Token

/-!
# Documents of YAML

The tree of one document.  An alias is replaced by the node that its anchor names.  A value that
is left out is an empty plain scalar.
-/

namespace Understudy.Yaml

/-- A node of a document. -/
inductive Node where
  | scalar (tag : Option String) ( isPlain : Bool) (text : String)
  | sequence (tag : Option String) (items : List Node)
  | mapping (tag : Option String) (entries : List (Node × Node))

namespace Node

/-- The node of a value that is left out. -/
def omitted : Node :=
  .scalar none true ""

/-- The node with a tag. -/
def tagged (tag : String) : Node → Node
  | .scalar _ isPlain text => .scalar (some tag) isPlain text
  | .sequence _ items => .sequence (some tag) items
  | .mapping _ entries => .mapping (some tag) entries

end Node

/-- What is left of a document, the nodes of its anchors and the replacements of its tag
handles. -/
structure Composing where
  tokens : List Token
  anchors : List (String × Node)
  handles : List (String × String)

/-- A step that takes tokens, or fails. -/
abbrev Composition (α : Type) := StateT Composing Option α

namespace Composition

/-- The next token. -/
def peek? : Composition (Option Token) :=
  return (← get).tokens.head?

/-- Passes over the next token. -/
def advance : Composition Unit :=
  modify fun composing => { composing with tokens := composing.tokens.tail }

/-- Passes over the next token if it is the given one, and says whether it was. -/
def accept (token : Token) : Composition Bool := do
  if (← peek?) = some token then
    advance
    return true
  else return false

/-- Passes over the given token. -/
def expect (token : Token) : Composition Unit := do
  if !(← accept token) then failure

/-- The text of a tag. -/
def tagText (handle suffix : String) : Composition String := do
  if handle.isEmpty then return suffix
  else
    match (← get).handles.lookup handle with
    | some replacement => return replacement ++ suffix
    | none => failure

/-- The tag and the anchor in front of a node, in either order. -/
def properties : Nat → (tag anchor : Option String) →
    Composition (Option String × Option String)
  | 0, tag, anchor => return (tag, anchor)
  | fuel + 1, tag, anchor => do
      match ← peek? with
      | some (.tag handle suffix) =>
          if tag.isSome then return (tag, anchor)
          else
            advance
            properties fuel (some (← tagText handle suffix)) anchor
      | some (.anchor name) =>
          if anchor.isSome then return (tag, anchor)
          else
            advance
            properties fuel tag (some name)
      | _ => return (tag, anchor)

/-- Gives a node its properties, and remembers it under its anchor. -/
def finish (tag anchor : Option String) (node : Node) : Composition Node := do
  let finished := tag.elim node node.tagged
  if let some name := anchor then
    modify fun composing => { composing with anchors := (name, finished) :: composing.anchors }
  return finished

/-- Where a node stands: in a flow collection, in a block, or as the value of a block mapping,
where a sequence needs no indentation. -/
inductive Position where
  | flow
  | block
  | blockValue
  deriving DecidableEq

/-- Whether a value is left out in front of the token. -/
def isOmitted (ends : List Token) (token : Option Token) : Bool :=
  token.all (ends.contains ·)

/-- The tokens behind a left out entry of a block sequence. -/
def blockEntryEnds : List Token :=
  [.blockEntry, .blockEnd]

/-- The tokens behind a left out entry of a sequence that is not indented. -/
def flatEntryEnds : List Token :=
  [.blockEntry, .key, .value, .blockEnd]

/-- The tokens behind a left out key or value of a block mapping. -/
def blockValueEnds : List Token :=
  [.key, .value, .blockEnd]

/-- The tokens behind a left out key or value of a flow mapping. -/
def flowValueEnds : List Token :=
  [.value, .flowEntry, .flowMappingEnd]

/-- The tokens behind a left out key or value of a pair in a flow sequence. -/
def pairValueEnds : List Token :=
  [.value, .flowEntry, .flowSequenceEnd]

mutual

/-- A node. -/
def readNode (position : Position) : Nat → Composition Node
  | 0 => failure
  | fuel + 1 => do
      if let some (.alias name) ← peek? then
        advance
        match (← get).anchors.lookup name with
        | some node => return node
        | none => failure
      else
        let (tag, anchor) ← properties 2 none none
        let content ←
          match ← peek? with
          | some (.scalar isPlain text) => do
              advance
              pure (Node.scalar none isPlain text)
          | some .flowSequenceStart => do
              advance
              Node.sequence none <$> readFlowItems true fuel
          | some .flowMappingStart => do
              advance
              Node.mapping none <$> readFlowEntries true fuel
          | some .blockSequenceStart =>
              if position = .flow then failure
              else do
                advance
                Node.sequence none <$> readBlockItems fuel
          | some .blockMappingStart =>
              if position = .flow then failure
              else do
                advance
                Node.mapping none <$> readBlockEntries fuel
          | some .blockEntry =>
              if position = .blockValue then Node.sequence none <$> readFlatItems fuel
              else if tag.isSome || anchor.isSome then pure Node.omitted
              else failure
          | _ => if tag.isSome || anchor.isSome then pure Node.omitted else failure
        finish tag anchor content

/-- A node, or the node of a left out value in front of the given tokens. -/
def readOptional (position : Position) (ends : List Token) : Nat → Composition Node
  | 0 => failure
  | fuel + 1 => do
      if isOmitted ends (← peek?) then return Node.omitted else readNode position fuel

/-- The entries of a block sequence. -/
def readBlockItems : Nat → Composition (List Node)
  | 0 => failure
  | fuel + 1 => do
      if ← accept .blockEntry then
        let item ← readOptional .block blockEntryEnds fuel
        (item :: ·) <$> readBlockItems fuel
      else
        expect .blockEnd
        return []

/-- The entries of a sequence that is not indented. -/
def readFlatItems : Nat → Composition (List Node)
  | 0 => failure
  | fuel + 1 => do
      if ← accept .blockEntry then
        let item ← readOptional .block flatEntryEnds fuel
        (item :: ·) <$> readFlatItems fuel
      else return []

/-- The value of a key, if there is a colon. -/
def readValue (position : Position) (ends : List Token) : Nat → Composition Node
  | 0 => failure
  | fuel + 1 => do
      if ← accept .value then readOptional position ends fuel else return Node.omitted

/-- The entries of a block mapping. -/
def readBlockEntries : Nat → Composition (List (Node × Node))
  | 0 => failure
  | fuel + 1 => do
      if ← accept .key then
        let key ← readOptional .blockValue blockValueEnds fuel
        let value ← readValue .blockValue blockValueEnds fuel
        ((key, value) :: ·) <$> readBlockEntries fuel
      else
        expect .blockEnd
        return []

/-- The entries of a flow sequence; an entry can be a mapping of one pair. -/
def readFlowItems (first : Bool) : Nat → Composition (List Node)
  | 0 => failure
  | fuel + 1 => do
      if ← accept .flowSequenceEnd then return []
      else
        if !first then expect .flowEntry
        if ← accept .flowSequenceEnd then return []
        else if ← accept .key then
          let key ← readOptional .flow pairValueEnds fuel
          let value ← readValue .flow pairValueEnds fuel
          (Node.mapping none [(key, value)] :: ·) <$> readFlowItems false fuel
        else
          let item ← readNode .flow fuel
          (item :: ·) <$> readFlowItems false fuel

/-- The entries of a flow mapping; a key can stand alone. -/
def readFlowEntries (first : Bool) : Nat → Composition (List (Node × Node))
  | 0 => failure
  | fuel + 1 => do
      if ← accept .flowMappingEnd then return []
      else
        if !first then expect .flowEntry
        if ← accept .flowMappingEnd then return []
        else if ← accept .key then
          let key ← readOptional .flow flowValueEnds fuel
          let value ← readValue .flow flowValueEnds fuel
          ((key, value) :: ·) <$> readFlowEntries false fuel
        else
          let key ← readNode .flow fuel
          ((key, Node.omitted) :: ·) <$> readFlowEntries false fuel

end

/-- The directives in front of a document: at most one version, and handles that differ.  Says
whether there are any. -/
def readDirectives : Nat → (versioned : Bool) → (own : List String) → Composition Bool
  | 0, _, _ => failure
  | fuel + 1, versioned, own => do
      match ← peek? with
      | some (.version major minor) =>
          if versioned || major ≠ 1 || (minor ≠ 1 && minor ≠ 2) then failure
          else
            advance
            readDirectives fuel true own
      | some (.tagHandle handle replacement) =>
          if own.contains handle then failure
          else
            advance
            modify fun composing =>
              { composing with handles := (handle, replacement) :: composing.handles }
            readDirectives fuel versioned (handle :: own)
      | _ => return versioned || !own.isEmpty

/-- The tokens in front of which a document that was announced is empty. -/
def startsDocument : Option Token → Bool
  | none => true
  | some (.version _ _) => true
  | some (.tagHandle _ _) => true
  | some .documentStart => true
  | some .documentEnd => true
  | some _ => false

/-- The only document of a text, if there is one, and nothing behind it. -/
def readDocument (fuel : Nat) : Composition (Option Node) := do
  if (← peek?).isNone then return none
  else
    let directed ← readDirectives fuel false []
    let announced ← accept .documentStart
    if directed && !announced then failure
    else
      let node ←
        if announced && startsDocument (← peek?) then pure Node.omitted
        else readNode .block fuel
      modify fun composing =>
        { composing with
          tokens := composing.tokens.dropWhile fun token => token = .documentEnd }
      if (← peek?).isSome then failure else return some node

end Composition

/-- The handles that are known without a directive. -/
def defaultHandles : List (String × String) :=
  [("!", "!"), ("!!", "tag:yaml.org,2002:")]

/-- The document of a text: nothing if the text is malformed or holds several documents, and an
absent document if it holds none. -/
def document? (text : String) : Option (Option Node) := do
  let tokens ← Token.ofText? text
  let (node, _) ← (Composition.readDocument (4 * tokens.length + 16)).run
    ⟨tokens, [], defaultHandles⟩
  some node

end Understudy.Yaml
