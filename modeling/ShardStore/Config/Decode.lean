import ShardStore.Config.Basic
import ShardStore.Config.Decoder
import ShardStore.Document.Tree

/-!
# Reading configurations

The records of a configuration document, and the two checks that follow when all of it was read: a bucket count that is
given must not be zero.
-/

namespace ShardStore

/-! ## Drafts -/

/-- The fields of a sized section as far as they were read; `κ` is the type of bucket counts. -/
structure SizeDraft (κ : Type) where
  length : Option UInt64 := none
  buckets : Option (Option κ) := none

/-- The fields of the workload as far as they were read. -/
structure WorkloadDraft where
  items : Option UInt64 := none
  workers : Option UInt64 := none

/-- The sections of a configuration as far as they were read. -/
structure ConfigDraft where
  env : Option String := none
  logs : Option (Option Config.Logs) := none
  split : Option (Option Config.Split) := none
  singleWriter : Option (Option Config.SingleWriter) := none
  synced : Option (Option Config.Synced) := none
  workload : Option (Option Config.Workload) := none

/-- The value of a field that must be there. -/
def required {α : Type} (name : String) : Option α → Except String α
  | some a => .ok a
  | none => .error name

namespace Config

/-! ## Sections -/

/-- How what is logged is read. -/
def Logs.reader : RecordReader (Option (Option String)) Logs where
  name := "Logs"
  fields := [.of "level" id (fun _ v => some v) (.optional .text)]
  start := none
  finish d := .ok ⟨d.join⟩

/-- The fields of a sized section. -/
def sizeFields {κ : Type} (buckets : Decoder κ) : List (FieldReader (SizeDraft κ)) :=
  [.of "length" (·.length) (fun d v => { d with length := some v }) (.word "usize"),
    .of "buckets" (·.buckets) (fun d v => { d with buckets := some v }) (.optional buckets)]

/-- How the size of a sharded store is read. -/
def Split.reader : RecordReader (SizeDraft UInt16) Split where
  name := "Split"
  fields := sizeFields .halfword
  start := {}
  finish d := do return ⟨← required "length" d.length, d.buckets.join⟩

/-- How the size of a sharded counted store is read. -/
def SingleWriter.reader : RecordReader (SizeDraft UInt64) SingleWriter where
  name := "SingleWriter"
  fields := sizeFields (.word "u64")
  start := {}
  finish d := do return ⟨← required "length" d.length, d.buckets.join⟩

/-- How the size of a bounded map is read. -/
def Synced.reader : RecordReader (Option UInt64) Synced where
  name := "Synced"
  fields := [.of "limit" id (fun _ v => some v) (.word "usize")]
  start := none
  finish d := .ok ⟨d.getD 0⟩

/-- How a workload is read. -/
def Workload.reader : RecordReader WorkloadDraft Workload where
  name := "Workload"
  fields :=
    [.of "items" (·.items) (fun d v => { d with items := some v }) (.word "usize"),
      .of "workers" (·.workers) (fun d v => { d with workers := some v }) (.word "usize")]
  start := {}
  finish d := do return ⟨← required "items" d.items, d.workers.getD 0⟩

/-- How the sections are read. -/
def reader : RecordReader ConfigDraft Config where
  name := "TxMapBox"
  fields :=
    [.of "env" (·.env) (fun d v => { d with env := some v }) .text,
      .of "logs" (·.logs) (fun d v => { d with logs := some v }) (.optional Logs.reader.decode),
      .of "split" (·.split) (fun d v => { d with split := some v }) (.optional Split.reader.decode),
      .of "single_writer" (·.singleWriter) (fun d v => { d with singleWriter := some v })
        (.optional SingleWriter.reader.decode),
      .of "synced" (·.synced) (fun d v => { d with synced := some v }) (.optional Synced.reader.decode),
      .of "workload" (·.workload) (fun d v => { d with workload := some v }) (.optional Workload.reader.decode)]
  start := {}
  finish d := do
    return {
      env := ← required "env" d.env
      logs := d.logs.join
      split := d.split.join
      singleWriter := d.singleWriter.join
      synced := d.synced.join
      workload := d.workload.join }

/-- How the whole document is read: everything is under one field. -/
def documentReader : RecordReader (Option Config) Config where
  name := "TxMapCfg"
  fields := [.of "txmap" id (fun _ v => some v) reader.decode]
  start := none
  finish d := required "txmap" d

/-- The configuration that a document describes. -/
def ofDocument (doc : Document) : Except Fault Config :=
  documentReader.decode doc ⟨[], doc.root.startPosition⟩ [] doc.root

/-! ## Checks -/

/-- A section whose bucket count must not be zero. -/
inductive BucketSection where
  | split
  | singleWriter
deriving DecidableEq

/-- The name of a section. -/
def BucketSection.name : BucketSection → String
  | .split => "split"
  | .singleWriter => "single_writer"

/-- Why a text is refused as a configuration. -/
inductive Error where
  /-- It is no document. -/
  | malformed (e : Malformed)
  /-- It is a document, but no configuration. -/
  | fault (f : Fault)
  /-- A bucket count is zero. -/
  | zeroBuckets (s : BucketSection)
deriving DecidableEq

/-- What is said about a refused text. -/
def Error.message : Error → String
  | .malformed _ => "YamlSyntax"
  | .fault f => f.message
  | .zeroBuckets s => s.name ++ ".buckets must be greater than zero"

/-- Refuses bucket counts of zero. -/
def check (c : Config) : Except Error Config :=
  if c.split.any (·.buckets = some 0) then .error (.zeroBuckets .split)
  else if c.singleWriter.any (·.buckets = some 0) then .error (.zeroBuckets .singleWriter)
  else .ok c

/-- The checked configuration that a document describes. -/
def ofDocumentChecked (doc : Document) : Except Error Config :=
  match ofDocument doc with
  | .ok c => c.check
  | .error f => .error (.fault f)

/-- Reads a configuration. -/
def parse (text : String) : Except Error Config :=
  match Document.parse text with
  | .ok doc => ofDocumentChecked doc
  | .error e => .error (.malformed e)

end Config

end ShardStore
