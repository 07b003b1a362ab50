import ShardStore.Document.Token

/-!
# Document trees

A document as a tree of scalars, sequences and mappings. A node with an anchor takes a numbered slot, and an alias names
the slot that it stands for.
-/

namespace ShardStore

/-- What is known of a node apart from its content. -/
structure NodeMark where
  /-- Where the node starts, its anchor and tag included. -/
  pos : Position
  /-- The slot that the node takes by its anchor. -/
  slot : Option Nat := none
  tag : Option String := none
deriving DecidableEq, Inhabited

/-- A node of a document. -/
inductive Node where
  | scalar (mark : NodeMark) (style : ScalarStyle) (text : String)
  | sequence (mark : NodeMark) (items : List Node)
  | mapping (mark : NodeMark) (entries : List (Node × Node))
  | alias (slot : Nat)
deriving Inhabited

namespace Node

/-- The scalar that stands where nothing is written. -/
def empty (pos : Position) : Node := .scalar { pos } .plain ""

/-- Where a node starts; an alias does not know. -/
def startPosition : Node → Position
  | .scalar mark .. | .sequence mark _ | .mapping mark _ => mark.pos
  | .alias _ => default

/-- The node with the slot that its mark takes, if it takes one. -/
private def taking (mark : NodeMark) (n : Node) : List (Nat × Node) :=
  match mark.slot with
  | some slot => [(slot, n)]
  | none => []

mutual

/-- The nodes of a tree that take a slot, in the order in which they start. -/
def slotted : Node → List (Nat × Node)
  | .scalar mark style text => taking mark (.scalar mark style text)
  | .sequence mark items => taking mark (.sequence mark items) ++ slottedItems items
  | .mapping mark entries => taking mark (.mapping mark entries) ++ slottedEntries entries
  | .alias _ => []

/-- The nodes that take a slot, of all items. -/
def slottedItems : List Node → List (Nat × Node)
  | [] => []
  | n :: ns => slotted n ++ slottedItems ns

/-- The nodes that take a slot, of all keys and values. -/
def slottedEntries : List (Node × Node) → List (Nat × Node)
  | [] => []
  | (k, v) :: rest => slotted k ++ slotted v ++ slottedEntries rest

end

end Node

/-- A document with its slots. -/
structure Document where
  root : Node
  /-- The nodes that take slots; of one slot the first that is listed counts. -/
  slots : List (Nat × Node)

namespace Document

/-- The document of a tree. A slot holds the node that starts last of those that take it. -/
def ofRoot (root : Node) : Document := ⟨root, root.slotted.reverse⟩

/-- The node that an alias stands for; every other node stands for itself. -/
def follow (doc : Document) : Node → Node
  | .alias slot => (doc.slots.lookup slot).getD (.alias slot)
  | n => n

end Document

end ShardStore
