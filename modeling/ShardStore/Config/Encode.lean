import ShardStore.Config.Basic
import ShardStore.Document.Node

/-!
# Writing configurations

A configuration as a document tree that reads back to it: texts are quoted, numbers are plain and decimal, and what is left
out is null.
-/

namespace ShardStore.Config

/-- An unquoted scalar. -/
def plain (s : String) : Node := .scalar default .plain s

/-- A text, in double quotes. -/
def textNode (s : String) : Node := .scalar default .doubleQuoted s

/-- A number in decimal digits. -/
def numberNode (n : Nat) : Node := plain (toString n)

/-- A value that may be left out, and is null then. -/
def orNullNode {α : Type} (encode : α → Node) : Option α → Node
  | some a => encode a
  | none => plain "null"

/-- A mapping from the names of fields to their values. -/
def record (fields : List (String × Node)) : Node :=
  .mapping default (fields.map fun f => (textNode f.1, f.2))

/-- What is logged, as a tree. -/
def Logs.toNode (s : Logs) : Node := record [("level", orNullNode textNode s.level)]

/-- The size of a sharded store as a tree. -/
def Split.toNode (s : Split) : Node :=
  record [("length", numberNode s.length.toNat), ("buckets", orNullNode (numberNode ·.toNat) s.buckets)]

/-- The size of a sharded counted store as a tree. -/
def SingleWriter.toNode (s : SingleWriter) : Node :=
  record [("length", numberNode s.length.toNat), ("buckets", orNullNode (numberNode ·.toNat) s.buckets)]

/-- The size of a bounded map as a tree. -/
def Synced.toNode (s : Synced) : Node := record [("limit", numberNode s.limit.toNat)]

/-- A workload as a tree. -/
def Workload.toNode (s : Workload) : Node :=
  record [("items", numberNode s.items.toNat), ("workers", numberNode s.workers.toNat)]

/-- A configuration as a tree. -/
def toNode (c : Config) : Node :=
  record
    [("txmap",
      record
        [("env", textNode c.env), ("logs", orNullNode Logs.toNode c.logs), ("split", orNullNode Split.toNode c.split),
          ("single_writer", orNullNode SingleWriter.toNode c.singleWriter),
          ("synced", orNullNode Synced.toNode c.synced), ("workload", orNullNode Workload.toNode c.workload)])]

end ShardStore.Config
