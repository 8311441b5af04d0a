import TransactionGateway.Yaml.Fault
import TransactionGateway.Yaml.Token

/-! # Nodes and documents

What a YAML text says: a tree of scalars, sequences and mappings.

* **Labels.** A node begins at a position, and may carry a tag and an anchor. Anchors are numbered;
  an alias stands for the anchored node of its number (`Document.target`).
* **Numbers.** An anchor's number is that of the different names before it. A name used again counts
  no further, so two anchors may come to one number; the one that begins later has it.
* **Cuts.** A text may have a fault, or go on after its document. What comes before the fault still
  makes up a tree, in which a cut is the node at the fault (`Node.cut?`). -/

namespace TransactionGateway.Yaml

open TransactionGateway.Text

/-- The tag and the anchor of a node, and where it begins. -/
structure Label where
  tag : Option Octets := none
  anchor : Option Nat := none
  start : Position := {}
deriving DecidableEq, Repr

/-- The nodes. -/
inductive Node where
  | scalar (label : Label) (text : String) (style : Style)
  | sequence (label : Label) (items : List Node)
  | mapping (label : Label) (entries : List (Node × Node))
  | reference (target : Nat)
  | cut (fault : Fault)
deriving Repr

/-- A document: its root, unless the text holds nothing but blanks and comments, the fault of the
text, whether more than the mark of its end follows the document, and where the text ends if it
holds nothing. -/
structure Document where
  root : Option Node
  fault : Option Fault := none
  isFollowed : Bool := false
  finish : Position := {}
deriving Repr

namespace Node

/-- The node that is left out at a position. -/
def missing (start : Position) : Node := .scalar { start } "" .plain

/-- The label of a node. -/
def label : Node → Label
  | scalar label _ _ | sequence label _ | mapping label _ => label
  | reference _ | cut _ => {}

mutual

/-- The fault at which a tree is cut, if it is. -/
def cut? : Node → Option Fault
  | scalar _ _ _ | reference _ => none
  | sequence _ items => cutIn? items
  | mapping _ entries => cutAmong? entries
  | cut fault => some fault

/-- The fault at which one of some trees is cut. -/
def cutIn? : List Node → Option Fault
  | [] => none
  | x :: rest => cut? x <|> cutIn? rest

/-- The fault at which a mapping's entries are cut. -/
def cutAmong? : List (Node × Node) → Option Fault
  | [] => none
  | (k, v) :: rest => cut? k <|> cut? v <|> cutAmong? rest

end

mutual

/-- The anchored nodes of a tree with their numbers, in the order in which they begin. -/
def anchored : Node → List (Nat × Node)
  | scalar label text style => label.anchor.toList.map (·, scalar label text style)
  | sequence label items => label.anchor.toList.map (·, sequence label items) ++ anchoredIn items
  | mapping label entries =>
    label.anchor.toList.map (·, mapping label entries) ++ anchoredAmong entries
  | reference _ | cut _ => []

/-- The anchored nodes of trees. -/
def anchoredIn : List Node → List (Nat × Node)
  | [] => []
  | x :: rest => anchored x ++ anchoredIn rest

/-- The anchored nodes of a mapping's entries. -/
def anchoredAmong : List (Node × Node) → List (Nat × Node)
  | [] => []
  | (k, v) :: rest => anchored k ++ anchored v ++ anchoredAmong rest

end

end Node

namespace Document

/-- The anchored nodes of a document, the latest first. -/
def anchors (d : Document) : List (Nat × Node) :=
  ((d.root.map Node.anchored).getD []).reverse

/-- The node that a node stands for: an alias stands for the anchored node. -/
def target (d : Document) (x : Node) : Node :=
  match x with
  | .reference n => (d.anchors.lookup n).getD (.missing {})
  | x => x

end Document

end TransactionGateway.Yaml
