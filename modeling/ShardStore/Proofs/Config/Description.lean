import ShardStore.Config.Basic
import ShardStore.Document.Node
import ShardStore.Proofs.Number.Integer

/-!
# What trees say

Which document trees describe a configuration, and which one they describe: what has to stand under each name, what may be
left out or be null, and what the texts there mean. Nothing here depends on how documents are read.
-/

namespace ShardStore

/-! ## Nodes -/

namespace Node

/-- No node of the tree has a tag, and none is an alias. -/
inductive IsBare : Node → Prop
  | scalar {mark : NodeMark} {style : ScalarStyle} {s : String} : mark.tag = none → IsBare (.scalar mark style s)
  | sequence {mark : NodeMark} {items : List Node} : mark.tag = none → (∀ n ∈ items, IsBare n) →
      IsBare (.sequence mark items)
  | mapping {mark : NodeMark} {es : List (Node × Node)} : mark.tag = none → (∀ e ∈ es, IsBare e.1) →
      (∀ e ∈ es, IsBare e.2) → IsBare (.mapping mark es)

section

variable {mark : NodeMark}

@[simp] theorem isBare_scalar_iff {style : ScalarStyle} {s : String} : IsBare (.scalar mark style s) ↔ mark.tag = none :=
  ⟨fun h => by cases h; assumption, .scalar⟩

@[simp] theorem isBare_sequence_iff {items : List Node} :
    IsBare (.sequence mark items) ↔ mark.tag = none ∧ ∀ n ∈ items, n.IsBare :=
  ⟨fun h => by cases h; exact ⟨‹_›, ‹_›⟩, fun h => .sequence h.1 h.2⟩

@[simp] theorem isBare_mapping_iff {es : List (Node × Node)} :
    IsBare (.mapping mark es) ↔ mark.tag = none ∧ (∀ e ∈ es, e.1.IsBare) ∧ ∀ e ∈ es, e.2.IsBare :=
  ⟨fun h => by cases h; exact ⟨‹_›, ‹_›, ‹_›⟩, fun h => .mapping h.1 h.2.1 h.2.2⟩

end

/-- The text of a scalar, however it is written. -/
def text? : Node → Option String
  | .scalar _ _ s => some s
  | _ => none

/-- A scalar, however it is written. -/
def IsScalar (n : Node) : Prop := n.text? ≠ none

/-- An unquoted scalar that is empty or a word for nothing. -/
def IsNull : Node → Prop
  | .scalar _ .plain s => s ∈ ["", "~", "null", "Null", "NULL"]
  | _ => False

/-- An unquoted scalar that writes a number. -/
def Writes : Node → Nat → Prop
  | .scalar _ .plain s, n => WritesNatural s.toList n
  | _, _ => False

/-- An integer in a range, unquoted. -/
def IsInteger (least most : Nat) (n : Node) : Prop := ∃ k, n.Writes k ∧ least ≤ k ∧ k ≤ most

/-! ## Fields -/

/-- The values that stand under a name. -/
def valuesOf (name : String) (es : List (Node × Node)) : List Node :=
  (es.filter fun e => e.1.text? = some name).map Prod.snd

/-- What stands under a name. -/
def field? (name : String) (es : List (Node × Node)) : Option Node := (valuesOf name es).head?

/-- All keys are scalars, and none of the names of the fields occurs twice. Any other key may. -/
structure IsRecord (names : List String) (es : List (Node × Node)) : Prop where
  keys : ∀ e ∈ es, e.1.IsScalar
  once : ∀ name ∈ names, (valuesOf name es).length ≤ 1

/-- A mapping that is read as a record, of which something holds. -/
def IsRecordOf (names : List String) (P : List (Node × Node) → Prop) (n : Node) : Prop :=
  ∃ mark es, n = .mapping mark es ∧ IsRecord names es ∧ P es

theorem isRecordOf_congr {names : List String} {P Q : List (Node × Node) → Prop} (hiff : ∀ es, P es ↔ Q es) {n : Node} :
    n.IsRecordOf names P ↔ n.IsRecordOf names Q :=
  exists₂_congr fun _ es => and_congr_right fun _ => and_congr_right fun _ => hiff es

section

variable {α : Type}

/-- The field is there, and `P` holds of its value. -/
def Has (P : Node → Prop) (name : String) (es : List (Node × Node)) : Prop := ∃ v, field? name es = some v ∧ P v

/-- The field is absent, or `P` holds of its value. -/
def MayHave (P : Node → Prop) (name : String) (es : List (Node × Node)) : Prop := ∀ v, field? name es = some v → P v

/-- The field is there, and its value means `a`. -/
def Gives (R : Node → α → Prop) (name : String) (es : List (Node × Node)) (a : α) : Prop := Has (R · a) name es

/-- The field is there and its value means `a`, or it is absent and `a` stands for it. -/
def GivesOr (R : Node → α → Prop) (default : α) (name : String) (es : List (Node × Node)) (a : α) : Prop :=
  field? name es = none ∧ a = default ∨ Gives R name es a

/-- What the value of the field means, and nothing where the field is absent or null. -/
def MayGive (R : Node → α → Prop) (name : String) (es : List (Node × Node)) : Option α → Prop
  | some a => Has (fun v => ¬v.IsNull ∧ R v a) name es
  | none => MayHave IsNull name es

end

/-! ## Configurations -/

open Config

/-- The tree describes what is logged. -/
def IsLogs : Node → Prop := IsRecordOf ["level"] fun es => MayHave (fun v => v.IsNull ∨ v.IsScalar) "level" es

/-- The size of a store with at most so many buckets. -/
def IsSize (most : Nat) : Node → Prop := IsRecordOf ["length", "buckets"] fun es =>
  Has (IsInteger 0 (2 ^ 64 - 1)) "length" es ∧ MayHave (fun v => v.IsNull ∨ v.IsInteger 1 most) "buckets" es

/-- The tree describes the size of a bounded map. -/
def IsSynced : Node → Prop := IsRecordOf ["limit"] fun es => MayHave (IsInteger 0 (2 ^ 64 - 1)) "limit" es

/-- The tree describes a workload. -/
def IsWorkload : Node → Prop := IsRecordOf ["items", "workers"] fun es =>
  Has (IsInteger 0 (2 ^ 64 - 1)) "items" es ∧ MayHave (IsInteger 0 (2 ^ 64 - 1)) "workers" es

/-- The names of the sections of a configuration. -/
def sectionNames : List String := ["env", "logs", "split", "single_writer", "synced", "workload"]

/-- The tree describes the sections of a configuration. -/
def IsSections : Node → Prop := IsRecordOf sectionNames fun es =>
  Has IsScalar "env" es ∧ MayHave (fun v => v.IsNull ∨ v.IsLogs) "logs" es ∧
    MayHave (fun v => v.IsNull ∨ v.IsSize (2 ^ 16 - 1)) "split" es ∧
    MayHave (fun v => v.IsNull ∨ v.IsSize (2 ^ 64 - 1)) "single_writer" es ∧
    MayHave (fun v => v.IsNull ∨ v.IsSynced) "synced" es ∧ MayHave (fun v => v.IsNull ∨ v.IsWorkload) "workload" es

/-- The tree describes a configuration. -/
def IsConfiguration : Node → Prop := IsRecordOf ["txmap"] fun es => Has IsSections "txmap" es

/-- The scalar has the text `s`. -/
def MeansText (n : Node) (s : String) : Prop := n.text? = some s

/-- The scalar writes the number `w` of 64 bits. -/
def MeansWord (n : Node) (w : UInt64) : Prop := n.Writes w.toNat

/-- The scalar writes the number `w` of 16 bits. -/
def MeansHalfword (n : Node) (w : UInt16) : Prop := n.Writes w.toNat

/-- What is to be logged by the tree. -/
def MeansLogs (n : Node) (c : Logs) : Prop := n.IsRecordOf ["level"] fun es => MayGive MeansText "level" es c.level

/-- The length and the bucket count of a store, where `R` is what bucket counts mean. -/
def MeansSize {κ : Type} (R : Node → κ → Prop) (n : Node) (length : UInt64) (buckets : Option κ) : Prop :=
  n.IsRecordOf ["length", "buckets"] fun es => Gives MeansWord "length" es length ∧ MayGive R "buckets" es buckets

/-- The size of a sharded store by the tree. -/
def MeansSplit (n : Node) (c : Split) : Prop := n.MeansSize MeansHalfword c.length c.buckets

/-- The size of a sharded counted store by the tree. -/
def MeansSingleWriter (n : Node) (c : SingleWriter) : Prop := n.MeansSize MeansWord c.length c.buckets

/-- The size of a bounded map by the tree; without a limit it is zero. -/
def MeansSynced (n : Node) (c : Synced) : Prop := n.IsRecordOf ["limit"] fun es => GivesOr MeansWord 0 "limit" es c.limit

/-- The work to do by the tree; without a number of workers it is zero. -/
def MeansWorkload (n : Node) (c : Workload) : Prop := n.IsRecordOf ["items", "workers"] fun es =>
  Gives MeansWord "items" es c.items ∧ GivesOr MeansWord 0 "workers" es c.workers

/-- The sections of a configuration by the tree. A section that is absent or null is left out. -/
def MeansSections (n : Node) (c : Config) : Prop := n.IsRecordOf sectionNames fun es =>
  Gives MeansText "env" es c.env ∧ MayGive MeansLogs "logs" es c.logs ∧ MayGive MeansSplit "split" es c.split ∧
    MayGive MeansSingleWriter "single_writer" es c.singleWriter ∧ MayGive MeansSynced "synced" es c.synced ∧
    MayGive MeansWorkload "workload" es c.workload

/-- The configuration that the tree describes, whatever its bucket counts are. -/
def MeansConfiguration (n : Node) (c : Config) : Prop := n.IsRecordOf ["txmap"] fun es => Gives MeansSections "txmap" es c

end Node

/-- No bucket count that is given is zero. -/
structure Config.HasBuckets (c : Config) : Prop where
  split : c.split.bind (·.buckets) ≠ some 0
  singleWriter : c.singleWriter.bind (·.buckets) ≠ some 0

end ShardStore
