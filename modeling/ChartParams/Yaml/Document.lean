import ChartParams.Yaml.Node
import ChartParams.Yaml.Scalar
import ChartParams.Yaml.Token.Lexer

/-!
# Documents in YAML texts

`Yaml.parse?` reads the document of a text. Aliases are replaced by the nodes with their anchors; so
that a short text cannot stand for a huge document, their number is bounded by the size of the text,
and nesting is bounded too.
-/

namespace ChartParams.Yaml

namespace Node

mutual

def anchored : Node → List (Nat × Node)
  | scalar properties text isPlain => withAnchor properties (scalar properties text isPlain)
  | sequence properties items =>
      withAnchor properties (sequence properties items) ++ anchoredItems items
  | mapping properties entries =>
      withAnchor properties (mapping properties entries) ++ anchoredEntries entries
  | .aliasTo _ => []

def anchoredItems : List Node → List (Nat × Node)
  | [] => []
  | item :: rest => anchored item ++ anchoredItems rest

def anchoredEntries : List (Node × Node) → List (Nat × Node)
  | [] => []
  | (key, value) :: rest => anchored key ++ anchored value ++ anchoredEntries rest

def withAnchor (properties : Properties) (node : Node) : List (Nat × Node) :=
  match properties.anchor with
  | some number => [(number, node)]
  | none => []

end

mutual

/-- The number of marks in the text of a node: one for a scalar or an alias, two for the ends of a
collection. -/
def size : Node → Nat
  | scalar .. | .aliasTo _ => 1
  | sequence _ items => 2 + sizeItems items
  | mapping _ entries => 2 + sizeEntries entries

def sizeItems : List Node → Nat
  | [] => 0
  | item :: rest => size item + sizeItems rest

def sizeEntries : List (Node × Node) → Nat
  | [] => 0
  | (key, value) :: rest => size key + size value + sizeEntries rest

end

/-- Whether a node has a tag of the text's own, be it an exclamation mark alone. No document has a
value for such a node, scalars included. -/
def hasLocalTag (node : Node) : Bool :=
  (node.properties?.bind (·.tag)).any fun tag =>
    Scalar.startsLocal tag && (String.fromUTF8? tag.toByteArray).isSome

end Node

def maxDepth : Nat := 128

/-- How many aliases may be followed for each mark of a text. -/
def aliasesPerMark : Nat := 100

/-- The nodes that aliases stand for, and how many aliases may be followed. -/
structure Anchors where
  nodes : List (Nat × Node)
  limit : Nat

namespace Anchors

def ofRoot (root : Node) : Anchors := ⟨root.anchored, aliasesPerMark * root.size⟩

/-- The node with an anchor. If two have the same number it is the later one. -/
def find? (anchors : Anchors) (number : Nat) : Option Node := anchors.nodes.reverse.lookup number

end Anchors

/-- Reading values. The state is the number of aliases that were followed. -/
abbrev Resolving := StateT Nat Option

/-- The node that stands at a place, an alias being followed. -/
def follow (anchors : Anchors) : Node → Resolving Node
  | .aliasTo number => do
      let count ← get
      if count < anchors.limit then do
        set (count + 1)
        (anchors.find? number : Option Node)
      else
        failure
  | node => pure node

/-- The text of a key, which has to be a scalar. Tags do not matter. -/
def keyText (anchors : Anchors) (key : Node) : Resolving String := do
  match ← follow anchors key with
  | .scalar _ text _ => pure (String.ofList text)
  | _ => failure

/-- The value of a node with at most so many collections inside each other. -/
def toJson (anchors : Anchors) : (depth : Nat) → Node → Resolving Json
  | 0, node => do
      match ← follow anchors node with
      | .scalar properties text isPlain => scalarJson properties text isPlain
      | _ => failure
  | depth + 1, node => do
      match ← follow anchors node with
      | .scalar properties text isPlain => scalarJson properties text isPlain
      | .sequence properties items =>
          if (Node.sequence properties items).hasLocalTag then
            failure
          else do
            let values ← items.mapM (toJson anchors depth)
            pure (.arr values)
      | .mapping properties entries =>
          if (Node.mapping properties entries).hasLocalTag then
            failure
          else do
            let members ← entries.foldlM (fun members (key, value) => do
              let key ← keyText anchors key
              let value ← toJson anchors depth value
              pure (Members.put key value members)) []
            pure (.obj members)
      | .aliasTo _ => failure
where
  scalarJson (properties : Properties) (text : List Char) (isPlain : Bool) : Resolving Json :=
    if (Node.scalar properties text isPlain).hasLocalTag then
      failure
    else
      (Scalar.toJson? properties.tag text isPlain : Option Json)

/-- The document that a text holds. A text without a document is null. -/
def parse? (text : String) : Option Json := do
  let chars := text.toList
  if chars.all isAllowed then
    let tokens ← tokens? chars
    match ← Node.ofTokens? tokens with
    | none => some .null
    | some root =>
        let (doc, _) ← (toJson (Anchors.ofRoot root) maxDepth root).run 0
        some doc
  else
    none

end ChartParams.Yaml
