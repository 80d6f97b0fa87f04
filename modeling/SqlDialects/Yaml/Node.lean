import SqlDialects.Yaml.Scalar

namespace SqlDialects.Yaml

/-- What may stand in front of a node. -/
structure Properties where
  anchor : Option Nat
  tag : Option String
deriving DecidableEq, Repr

inductive Node where
  | scalar (properties : Properties) (style : ScalarStyle) (text : String)
  | sequence (properties : Properties) (items : List Node)
  | mapping (properties : Properties) (entries : List (Node × Node))
  | reference (number : Nat)

namespace Node

/-- The node that stands where nothing is written. -/
def empty : Node :=
  .scalar ⟨none, none⟩ .plain ""

/-- A node with its number, if it has one. -/
def numbered (node : Node) (p : Properties) : List (Nat × Node) :=
  match p.anchor with
  | some number => [(number, node)]
  | none => []

mutual

/-- The nodes with anchors within a node, by number, in the order of their beginnings. -/
def anchored : Node → List (Nat × Node)
  | .scalar p style text => numbered (.scalar p style text) p
  | .sequence p items => numbered (.sequence p items) p ++ anchoredItems items
  | .mapping p entries => numbered (.mapping p entries) p ++ anchoredEntries entries
  | .reference _ => []

def anchoredItems : List Node → List (Nat × Node)
  | [] => []
  | item :: rest => anchored item ++ anchoredItems rest

def anchoredEntries : List (Node × Node) → List (Nat × Node)
  | [] => []
  | (key, value) :: rest => anchored key ++ anchored value ++ anchoredEntries rest

end

end Node

/-- What references stand for, by number. -/
abbrev Anchors :=
  List (Nat × Node)

/-- The node that is meant. -/
def Node.target (anchors : Anchors) : Node → Option Node
  | .reference number => anchors.lookup number
  | node => some node

/-- A document: its node, and what references within it stand for. -/
structure Document where
  node : Node
  anchors : Anchors

/-- The document of a node. Where nodes have one number the last one counts. -/
def Document.ofNode (node : Node) : Document :=
  ⟨node, node.anchored.reverse⟩

end SqlDialects.Yaml
