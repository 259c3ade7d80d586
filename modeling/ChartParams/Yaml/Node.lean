import ChartParams.Yaml.Token.Tag

/-!
# Nodes of YAML documents

The tree that the tokens of a document make. Anchors are numbered while the tree is built, and an
alias holds the number of its anchor.
-/

namespace ChartParams.Yaml

/-- What may stand in front of a node: an anchor, given by its number, and a tag. -/
structure Properties where
  anchor : Option Nat
  tag : Option TagBytes

inductive Node
  | scalar (properties : Properties) (text : List Char) (isPlain : Bool)
  | sequence (properties : Properties) (items : List Node)
  | mapping (properties : Properties) (entries : List (Node × Node))
  | aliasTo (anchor : Nat)

namespace Node

def empty (properties : Properties) : Node := .scalar properties [] true

def properties? : Node → Option Properties
  | scalar properties _ _ | sequence properties _ | mapping properties _ => some properties
  | aliasTo _ => none

/-- What reading a node needs to know, and what is left to read. -/
structure Source where
  tokens : List Token
  /-- The handles of tags and what they stand for. -/
  handles : List (List Char × TagBytes)
  /-- The names of anchors, each with its number. -/
  anchors : List (List Char × Nat)

namespace Source

def next? (source : Source) : Option Token := source.tokens.head?

def sees (source : Source) (tokens : List Token) : Bool := source.next?.any tokens.contains

def drop (source : Source) : Source := { source with tokens := source.tokens.tail }

def expect (source : Source) (token : Token) : Option Source :=
  if source.next? = some token then some source.drop else none

/-- Number an anchor by how many names there were before. A name that comes again gets a new
number and keeps its place. -/
def nameAnchor (source : Source) (name : List Char) : Nat × Source :=
  let number := source.anchors.length
  let others := source.anchors.filter fun (known, _) => known != name
  (number, { source with anchors := (name, number) :: others })

end Source

def resolveTag? (source : Source) (handle : List Char) (rest : TagBytes) : Option TagBytes :=
  if handle.isEmpty then some rest else (source.handles.lookup handle).map (· ++ rest)

def readProperties (source : Source) : Option (Properties × Source) :=
  match source.tokens with
  | .anchor name :: .tag handle rest :: tokens => do
      let tag ← resolveTag? source handle rest
      let (anchor, source) := { source with tokens := tokens }.nameAnchor name
      some (⟨some anchor, some tag⟩, source)
  | .tag handle rest :: .anchor name :: tokens => do
      let tag ← resolveTag? source handle rest
      let (anchor, source) := { source with tokens := tokens }.nameAnchor name
      some (⟨some anchor, some tag⟩, source)
  | .anchor name :: tokens =>
      let (anchor, source) := { source with tokens := tokens }.nameAnchor name
      some (⟨some anchor, none⟩, source)
  | .tag handle rest :: tokens => do
      let tag ← resolveTag? source handle rest
      some (⟨none, some tag⟩, { source with tokens := tokens })
  | _ => some (⟨none, none⟩, source)

/-- Which nodes may stand at a place. -/
inductive Place
  /-- Inside brackets. -/
  | flow
  | block
  /-- In a block mapping, where the items of a sequence need no indentation. -/
  | blockValue
deriving DecidableEq

mutual

/-- A node. Every reader here takes a number that bounds the calls inside each other. -/
def read (place : Place) (source : Source) : Nat → Option (Node × Source)
  | 0 => none
  | rounds + 1 =>
      match source.next? with
      | some (.aliasTo name) => do
          let anchor ← source.anchors.lookup name
          some (.aliasTo anchor, source.drop)
      | _ => do
          let (properties, source) ← readProperties source
          let isBlock := place != .flow
          match source.next? with
          | some (.scalar text style) =>
              some (.scalar properties text (style == .plain), source.drop)
          | some .flowSequenceStart => do
              let (items, source) ← readFlowItems true [] source.drop rounds
              some (.sequence properties items, source)
          | some .flowMappingStart => do
              let (entries, source) ← readFlowEntries true [] source.drop rounds
              some (.mapping properties entries, source)
          | some .blockEntry =>
              if place = .blockValue then do
                let (items, source) ← readItems false [] source rounds
                some (.sequence properties items, source)
              else
                orEmpty properties source
          | some .blockSequenceStart =>
              if isBlock then do
                let (items, source) ← readItems true [] source.drop rounds
                some (.sequence properties items, source)
              else
                orEmpty properties source
          | some .blockMappingStart =>
              if isBlock then do
                let (entries, source) ← readEntries [] source.drop rounds
                some (.mapping properties entries, source)
              else
                orEmpty properties source
          | _ => orEmpty properties source
where
  /-- A node that is only its properties. -/
  orEmpty (properties : Properties) (source : Source) : Option (Node × Source) :=
    if properties.anchor.isSome || properties.tag.isSome then
      some (empty properties, source)
    else
      none

def readUnless (ends : List Token) (place : Place) (source : Source) :
    Nat → Option (Node × Source)
  | 0 => none
  | rounds + 1 =>
      if source.sees ends then some (empty ⟨none, none⟩, source) else read place source rounds

/-- The items of a block sequence, up to the end of the block if there is one. -/
def readItems (hasEnd : Bool) (done : List Node) (source : Source) :
    Nat → Option (List Node × Source)
  | 0 => none
  | rounds + 1 =>
      if source.sees [.blockEntry] then do
        let ends : List Token :=
          if hasEnd then [.blockEntry, .blockEnd] else [.blockEntry, .key, .value, .blockEnd]
        let (item, source) ← readUnless ends .block source.drop rounds
        readItems hasEnd (item :: done) source rounds
      else if hasEnd then do
        let source ← source.expect .blockEnd
        some (done.reverse, source)
      else
        some (done.reverse, source)

def readEntries (done : List (Node × Node)) (source : Source) :
    Nat → Option (List (Node × Node) × Source)
  | 0 => none
  | rounds + 1 =>
      if source.sees [.key] then do
        let ends : List Token := [.key, .value, .blockEnd]
        let (key, source) ← readUnless ends .blockValue source.drop rounds
        let (value, source) ←
          if source.sees [.value] then
            readUnless ends .blockValue source.drop rounds
          else
            some (empty ⟨none, none⟩, source)
        readEntries ((key, value) :: done) source rounds
      else do
        let source ← source.expect .blockEnd
        some (done.reverse, source)

/-- The items between brackets. A key makes an item that is a mapping of one entry. -/
def readFlowItems (isFirst : Bool) (done : List Node) (source : Source) :
    Nat → Option (List Node × Source)
  | 0 => none
  | rounds + 1 =>
      if source.sees [.flowSequenceEnd] then
        some (done.reverse, source.drop)
      else do
        let source ← if isFirst then some source else source.expect .flowEntry
        if source.sees [.flowSequenceEnd] then
          some (done.reverse, source.drop)
        else if source.sees [.key] then do
          let (key, source) ← readPairKey source.drop rounds
          let (value, source) ← readFlowValue [.flowEntry, .flowSequenceEnd] source rounds
          readFlowItems false (.mapping ⟨none, none⟩ [(key, value)] :: done) source rounds
        else do
          let (item, source) ← read .flow source rounds
          readFlowItems false (item :: done) source rounds

/-- The key of an item that is a mapping. A key that is missing takes the token after it along. -/
def readPairKey (source : Source) : Nat → Option (Node × Source)
  | 0 => none
  | rounds + 1 =>
      if source.sees [.value, .flowEntry, .flowSequenceEnd] then
        some (empty ⟨none, none⟩, source.drop)
      else
        read .flow source rounds

def readFlowValue (ends : List Token) (source : Source) : Nat → Option (Node × Source)
  | 0 => none
  | rounds + 1 =>
      if source.sees [.value] then
        readUnless ends .flow source.drop rounds
      else
        some (empty ⟨none, none⟩, source)

/-- The entries between braces. An entry without a key mark has no value. -/
def readFlowEntries (isFirst : Bool) (done : List (Node × Node)) (source : Source) :
    Nat → Option (List (Node × Node) × Source)
  | 0 => none
  | rounds + 1 =>
      if source.sees [.flowMappingEnd] then
        some (done.reverse, source.drop)
      else do
        let source ← if isFirst then some source else source.expect .flowEntry
        if source.sees [.flowMappingEnd] then
          some (done.reverse, source.drop)
        else if source.sees [.key] then do
          let ends : List Token := [.value, .flowEntry, .flowMappingEnd]
          let (key, source) ← readUnless ends .flow source.drop rounds
          let (value, source) ← readFlowValue [.flowEntry, .flowMappingEnd] source rounds
          readFlowEntries false ((key, value) :: done) source rounds
        else do
          let (key, source) ← read .flow source rounds
          readFlowEntries false ((key, empty ⟨none, none⟩) :: done) source rounds

end

def defaultHandles : List (List Char × TagBytes) :=
  [(['!'], asciiBytes ['!']), (['!', '!'], asciiBytes "tag:yaml.org,2002:".toList)]

/-- Read the directives in front of a document. The version has to be 1.1 or 1.2 and may stand only
once, as may each handle. -/
def readDirectives (version : Bool) (handles : List (List Char × TagBytes)) :
    List Token → Option (Bool × List (List Char × TagBytes) × List Token)
  | .version major minor :: rest =>
      if !version ∧ major = 1 ∧ (minor = 1 ∨ minor = 2) then
        readDirectives true handles rest
      else
        none
  | .tagHandle handle stem :: rest =>
      if (handles.lookup handle).isSome then
        none
      else
        readDirectives version ((handle, stem) :: handles) rest
  | rest => some (version, handles, rest)

/-- The only document in a list of tokens; `some none` if there is none. For one token the calls are
nested three deep at most. -/
def ofTokens? (tokens : List Token) : Option (Option Node) := do
  let (hasVersion, handles, rest) ← readDirectives false [] tokens
  let hasDirectives := hasVersion || !handles.isEmpty
  let source (tokens : List Token) : Source := ⟨tokens, handles ++ defaultHandles, []⟩
  let bound := 3 * tokens.length + 3
  let onlyMarks (tokens : List Token) : Bool := tokens.all (· == .documentEnd)
  match rest with
  | [] => if hasDirectives then none else some none
  | .documentStart :: content =>
      let (node, source) ←
        readUnless [.documentStart, .documentEnd] .block (source content) bound <|>
          (if content.isEmpty then some (empty ⟨none, none⟩, source []) else none)
      if onlyMarks source.tokens then some (some node) else none
  | content =>
      if hasDirectives then
        none
      else
        let (node, source) ← read .block (source content) bound
        if onlyMarks source.tokens then some (some node) else none

end Node

end ChartParams.Yaml
