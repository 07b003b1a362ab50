import ShardStore.Config.Fault
import ShardStore.Document.Node
import ShardStore.Number.Decimal
import ShardStore.Number.Integer

/-!
# Decoders

Reading nodes of a document as texts, numbers, optional values and records of named fields. The first fault in the order
of the text is reported; a field that is missing counts as found out at the end of its record.
-/

namespace ShardStore

/-- The mapping around a value: its field path and its place. -/
structure Scope where
  path : List String
  place : Position

/-- Reads a value. The path is that of the value itself. -/
abbrev Decoder (α : Type) := Document → Scope → List String → Node → Except Fault α

/-! ## What scalars say -/

/-- The words that stand for nothing. -/
def isNullWord (s : String) : Bool := ["null", "Null", "NULL", "~"].contains s

/-- The truth value that a word stands for. -/
def truthWord? (s : String) : Option Bool :=
  if ["true", "True", "TRUE"].contains s then some true
  else if ["false", "False", "FALSE"].contains s then some false
  else none

/-- What a text says as an integer. -/
def foundInteger? (s : String) : Option Found :=
  (readInteger? s.toList).map fun
    | .word n => .integer n
    | .wide n => .wide n
    | .wideNegative n => .wideNegative n

/-- What a text says as a fraction. -/
def foundFraction? (s : String) : Option Found := (readFraction? s.toList).map fun f => .fraction (fractionText f)

/-- What an unquoted text without a tag says. -/
def foundPlain (s : String) : Found :=
  if s.isEmpty || isNullWord s then .nothing
  else
    let fraction := if hasLeadingZeros s.toList then none else foundFraction? s
    (((truthWord? s).map .truth).or ((foundInteger? s).or fraction)).getD (.text s)

/-- The tags of the core types. -/
def coreTag (name : String) : String := "tag:yaml.org,2002:" ++ name

/-- The problem of a scalar where something else was expected. A tag of a core type speaks first: a text that does not go
with it is the problem then. -/
def scalarProblem (mark : NodeMark) (style : ScalarStyle) (s expected : String) : Problem :=
  let tagged (found : Option Found) (kind : String) : Problem :=
    match found with
    | some found => .wrongType found expected
    | none => .wrongValue (.text s) kind
  let untagged := if style = .plain then foundPlain s else .text s
  match mark.tag with
  | none => .wrongType untagged expected
  | some tag =>
    if tag = coreTag "bool" then tagged ((truthWord? s).map .truth) "a boolean"
    else if tag = coreTag "int" then tagged (foundInteger? s) "an integer"
    else if tag = coreTag "float" then tagged (foundFraction? s) "a float"
    else if tag = coreTag "null" then tagged (if isNullWord s then some .nothing else none) "null"
    else if tag.startsWith "!" then .wrongType untagged expected
    else .wrongType (.text s) expected

/-! ## Single values -/

/-- The fault of a node where something else was expected. -/
def mismatch (path : List String) (n : Node) (expected : String) : Fault :=
  match n with
  | .scalar mark style s => ⟨path, scalarProblem mark style s expected, mark.pos⟩
  | .sequence mark _ => ⟨path, .wrongType .sequence expected, mark.pos⟩
  | .mapping mark _ => ⟨path, .wrongType .mapping expected, mark.pos⟩
  | .alias _ => ⟨path, .wrongType .nothing expected, default⟩

namespace Decoder

/-- A text: that of any scalar, as it is. -/
def text : Decoder String := fun doc _ path n =>
  match doc.follow n with
  | .scalar _ _ s => .ok s
  | n => .error (mismatch path n "a string")

/-- The number of 64 bits that a node writes. It must not be quoted. -/
def word? : Node → Option Nat
  | .scalar mark style s =>
    if style = .plain || (style = .literal && mark.tag = some (coreTag "int")) then readUnsigned? UInt64.size s.toList
    else none
  | _ => none

/-- A number of 64 bits, called `kind` in faults. -/
def word (kind : String) : Decoder UInt64 := fun doc _ path n =>
  let n := doc.follow n
  match word? n with
  | some value => .ok (.ofNat value)
  | none => .error (mismatch path n kind)

/-- A number of 16 bits. -/
def halfword : Decoder UInt16 := fun doc scope path n => do
  let value ← word "u16" doc scope path n
  if value.toNat < UInt16.size then return .ofNat value.toNat
  else
    throw ⟨path, .wrongValue (.integer value.toNat) "u16", (doc.follow n).startPosition⟩

/-- Whether a node leaves an optional value out. A text that is tagged as nothing and says something is a fault, which
is put down to the mapping around it. -/
def isAbsent (scope : Scope) : Node → Except Fault Bool
  | .scalar mark .plain s =>
    match mark.tag with
    | none => .ok (s.isEmpty || isNullWord s)
    | some tag =>
      if tag = coreTag "null" then
        if isNullWord s then .ok true else .error ⟨scope.path, .wrongValue (.text s) "null", scope.place⟩
      else .ok false
  | _ => .ok false

/-- A value that may be left out. -/
def optional {α : Type} (decode : Decoder α) : Decoder (Option α) := fun doc scope path n => do
  if ← isAbsent scope (doc.follow n) then return none
  else return some (← decode doc scope path n)

end Decoder

/-! ## Records -/

/-- A field of a record that is being read into drafts `δ`. -/
structure FieldReader (δ : Type) where
  name : String
  /-- Whether the field was read before. -/
  isTaken : δ → Bool
  take : δ → Decoder δ

/-- The field of a name whose values are read by a decoder and kept in the draft. -/
def FieldReader.of {δ α : Type} (name : String) (get : δ → Option α) (put : δ → α → δ) (decode : Decoder α) :
    FieldReader δ where
  name
  isTaken d := (get d).isSome
  take d doc scope path n := do return put d (← decode doc scope path n)

/-- Reads the entries of a record in order. A key that is no field is passed over with its value. -/
def readEntries {δ : Type} (fields : List (FieldReader δ)) (doc : Document) (scope : Scope) :
    δ → List (Node × Node) → Except Fault δ
  | draft, [] => .ok draft
  | draft, (key, value) :: rest =>
    match doc.follow key with
    | .scalar _ _ name =>
      match fields.find? (·.name = name) with
      | none => readEntries fields doc scope draft rest
      | some field =>
        if field.isTaken draft then .error ⟨scope.path, .duplicate name, scope.place⟩
        else do
          let segment := match key with
            | .alias _ => "?"
            | _ => name
          let draft ← field.take draft doc scope (scope.path ++ [segment]) value
          readEntries fields doc scope draft rest
    | other => .error (mismatch scope.path other "field identifier")

/-- How a record is read: its name in faults, its fields, the draft to begin with, and how a draft becomes a value
unless a field is missing. -/
structure RecordReader (δ α : Type) where
  name : String
  fields : List (FieldReader δ)
  start : δ
  finish : δ → Except String α

/-- Reads a record: a mapping, or nothing at all in place of an empty one. -/
def RecordReader.decode {δ α : Type} (r : RecordReader δ α) : Decoder α := fun doc _ path n =>
  let read (mark : NodeMark) (entries : List (Node × Node)) : Except Fault α := do
    let scope : Scope := ⟨path, mark.pos⟩
    let draft ← readEntries r.fields doc scope r.start entries
    match r.finish draft with
    | .ok value => return value
    | .error field => throw ⟨path, .missing field, mark.pos⟩
  match doc.follow n with
  | .mapping mark entries => read mark entries
  | .scalar mark .plain "" => read mark []
  | n => .error (mismatch path n ("struct " ++ r.name))

end ShardStore
