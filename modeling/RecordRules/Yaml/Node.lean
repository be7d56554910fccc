import RecordRules.Yaml.Token

/-!
# Nodes of a YAML text

A text holds one node: a scalar, a sequence or a mapping. Anchors name nodes, and aliases stand for
them; an alias of a node that it is part of stands for nothing that can be read any further. Tags
have no effect here, but their handles must be known. A node that is left out where one may stand
is an empty plain scalar.
-/

namespace RecordRules.Yaml

/-- A node. -/
inductive Node
  | scalar (text : String) (isPlain : Bool)
  | sequence (items : List Node)
  | mapping (entries : List (Node × Node))
  | surrounding

namespace Node

/-- What stands for a node that is left out. -/
def empty : Node := scalar "" true

/-- Nodes by their anchors, the one that begins latest first. -/
abbrev Anchors := List (String × Node)

/-- What is left of the tokens, and the anchors met so far. -/
structure Source where
  tokens : List Token
  anchors : Anchors

/-- The source behind its next token. -/
def Source.next (source : Source) : Source := { source with tokens := source.tokens.tail }

/-- Whether the next token is one of some. -/
def Source.sees (source : Source) (tokens : List Token) : Bool :=
  source.tokens.head?.any tokens.contains

/-- What reading leads to: a value and the source behind it. -/
abbrev Reader (α : Type) := Source → Option (α × Source)

/-- Reads a node, unless one of some tokens is next, before which the node is left out. -/
def orEmpty (node : Reader Node) (ends : List Token) : Reader Node := fun source =>
  if source.sees ends then some (empty, source) else node source

/-- The handles of tags that are always known, and the one of tags without a handle. -/
def knownHandles : List String := ["", "!", "!!"]

/-- Reads the anchor and the tag of a node, in either order. -/
def readProperties (handles : List String) (source : Source) :
    Option (Option String × Bool × Source) :=
  let known (handle : String) (anchor? : Option String) (source : Source) :
      Option (Option String × Bool × Source) :=
    if handles.contains handle then some (anchor?, true, source) else none
  match source.tokens with
  | .anchor name :: .tag handle :: _ => known handle (some name) source.next.next
  | .tag handle :: .anchor name :: _ => known handle (some name) source.next.next
  | .tag handle :: _ => known handle none source.next
  | .anchor name :: _ => some (some name, false, source.next)
  | _ => some (none, false, source)

/-- Reads the entries of a block sequence. -/
def readBlockItems (node : Reader Node) : Nat → Reader (List Node)
  | 0, _ => none
  | bound + 1, source =>
    match source.tokens with
    | .blockEntry :: _ => do
      let (item, source) ← orEmpty node [.blockEntry, .blockEnd] source.next
      let (items, source) ← readBlockItems node bound source
      return (item :: items, source)
    | .blockEnd :: _ => some ([], source.next)
    | _ => none

/-- Reads the entries of a block sequence that is indented no more than the key before it. -/
def readLevelItems (node : Reader Node) : Nat → Reader (List Node)
  | 0, _ => none
  | bound + 1, source =>
    match source.tokens with
    | .blockEntry :: _ => do
      let (item, source) ← orEmpty node [.blockEntry, .key, .value, .blockEnd] source.next
      let (items, source) ← readLevelItems node bound source
      return (item :: items, source)
    | _ => some ([], source)

/-- Reads a value behind its token, or leaves it out. -/
def readValue (node : Reader Node) (ends : List Token) : Reader Node := fun source =>
  if source.sees [.value] then orEmpty node ends source.next else some (empty, source)

/-- Reads the entries of a block mapping. -/
def readBlockEntries (node : Reader Node) : Nat → Reader (List (Node × Node))
  | 0, _ => none
  | bound + 1, source =>
    match source.tokens with
    | .key :: _ => do
      let (key, source) ← orEmpty node [.key, .value, .blockEnd] source.next
      let (value, source) ← readValue node [.key, .value, .blockEnd] source
      let (entries, source) ← readBlockEntries node bound source
      return ((key, value) :: entries, source)
    | .blockEnd :: _ => some ([], source.next)
    | _ => none

/-- Reads the comma in front of an entry of a flow collection that is not the first. -/
def skipComma (isFirst : Bool) (source : Source) : Option Source :=
  if isFirst then some source
  else if source.sees [.flowEntry] then some source.next
  else none

/-- Reads the entries of a flow sequence. An entry with a key is a mapping of one entry. -/
def readFlowItems (node : Reader Node) : Nat → Bool → Reader (List Node)
  | 0, _, _ => none
  | bound + 1, isFirst, source =>
    if source.sees [.flowSequenceEnd] then some ([], source.next)
    else do
      let source ← skipComma isFirst source
      if source.sees [.flowSequenceEnd] then return ([], source.next)
      let (item, source) ←
        if source.sees [.key] then do
          let (key, source) ← orEmpty node [.value, .flowEntry, .flowSequenceEnd] source.next
          let (value, source) ← readValue node [.flowEntry, .flowSequenceEnd] source
          some (mapping [(key, value)], source)
        else node source
      let (items, source) ← readFlowItems node bound false source
      return (item :: items, source)

/-- Reads the entries of a flow mapping. An entry without a key token has no value. -/
def readFlowEntries (node : Reader Node) : Nat → Bool → Reader (List (Node × Node))
  | 0, _, _ => none
  | bound + 1, isFirst, source =>
    if source.sees [.flowMappingEnd] then some ([], source.next)
    else do
      let source ← skipComma isFirst source
      if source.sees [.flowMappingEnd] then return ([], source.next)
      let (entry, source) ←
        if source.sees [.key] then do
          let (key, source) ← orEmpty node [.value, .flowEntry, .flowMappingEnd] source.next
          let (value, source) ← readValue node [.flowEntry, .flowMappingEnd] source
          some ((key, value), source)
        else do
          let (key, source) ← node source
          some ((key, empty), source)
      let (entries, source) ← readFlowEntries node bound false source
      return (entry :: entries, source)

/-- Reads what a node is apart from its anchor and tag. -/
def readContent (blockNode flowNode entryNode : Reader Node) (inBlock atKeyLevel isNamed : Bool) :
    Reader Node := fun source =>
  let bound := source.tokens.length + 1
  match source.tokens with
  | .scalar text isPlain :: _ => some (scalar text isPlain, source.next)
  | .flowSequence :: _ => do
    let (items, source) ← readFlowItems flowNode bound true source.next
    return (sequence items, source)
  | .flowMapping :: _ => do
    let (entries, source) ← readFlowEntries flowNode bound true source.next
    return (mapping entries, source)
  | .blockEntry :: _ =>
    if atKeyLevel then do
      let (items, source) ← readLevelItems blockNode bound source
      return (sequence items, source)
    else if isNamed then some (empty, source)
    else none
  | .blockSequence :: _ =>
    if inBlock then do
      let (items, source) ← readBlockItems blockNode bound source.next
      return (sequence items, source)
    else if isNamed then some (empty, source)
    else none
  | .blockMapping :: _ =>
    if inBlock then do
      let (entries, source) ← readBlockEntries entryNode bound source.next
      return (mapping entries, source)
    else if isNamed then some (empty, source)
    else none
  | _ => if isNamed then some (empty, source) else none

/-- Names a node that begins here. -/
def Source.beginAnchor (source : Source) (anchor? : Option String) : Source :=
  match anchor? with
  | some name => { source with anchors := (name, surrounding) :: source.anchors }
  | none => source

/-- Completes the anchor of a node that ends here, behind those that are inside of it. -/
def Source.endAnchor (source : Source) (anchor? : Option String) (outer : Nat) (node : Node) :
    Source :=
  match anchor? with
  | some name =>
    { source with anchors := source.anchors.set (source.anchors.length - outer - 1) (name, node) }
  | none => source

/-- Reads a node of which the nesting is less than the bound. -/
def read (handles : List String) : Nat → (inBlock atKeyLevel : Bool) → Reader Node
  | 0, _, _, _ => none
  | bound + 1, inBlock, atKeyLevel, source =>
    match source.tokens with
    | .alias name :: _ => (source.anchors.lookup name).map fun node => (node, source.next)
    | _ => do
      let outer := source.anchors.length
      let (anchor?, isTagged, source) ← readProperties handles source
      let (node, source) ←
        readContent (read handles bound true false) (read handles bound false false)
          (read handles bound true true) inBlock atKeyLevel (anchor?.isSome || isTagged)
          (source.beginAnchor anchor?)
      return (node, source.endAnchor anchor? outer node)

/-- Reads the directives in front of a document: the handles that they add. The version must be
1.1 or 1.2, and neither it nor a handle may be given twice. -/
def readDirectives (hasVersion : Bool) (handles : List String) :
    List Token → Option (List String × List Token)
  | .versionDirective major minor :: tokens =>
    if hasVersion || major != 1 || (minor != 1 && minor != 2) then none
    else readDirectives true handles tokens
  | .tagDirective handle :: tokens =>
    if handles.contains handle then none else readDirectives hasVersion (handle :: handles) tokens
  | tokens => some (handles, tokens)

/-- The node of the only document that tokens make. -/
def ofTokens? (tokens : List Token) : Option Node := do
  let (handles, afterDirectives) ← readDirectives false [] tokens
  let isExplicit := afterDirectives.head? == some .documentStart
  if (!isExplicit && afterDirectives.length != tokens.length) || tokens.isEmpty then none
  else
    let content := if isExplicit then afterDirectives.tail else afterDirectives
    let source : Source := ⟨content, []⟩
    let (node, source) ←
      if isExplicit && (content.isEmpty || source.sees [.documentStart, .documentEnd]) then
        some (empty, source)
      else read (handles ++ knownHandles) (content.length + 1) true false source
    if source.tokens.all (· == .documentEnd) then return node else none

/-- The node of a text that holds one document. -/
def ofText? (text : String) : Option Node := do ofTokens? (← Token.scan text.toList)

end Node

end RecordRules.Yaml
