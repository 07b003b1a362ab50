/-!
# Store errors

What a store refuses, and why. Every error is a broken precondition of the caller. An error of a batch wraps the error of
the entry that stopped it.
-/

namespace ShardStore

/-- Why a store refused an operation. -/
inductive StoreError where
  /-- There is no live slot `bucket`; slots are numbered up to `max`. -/
  | noBucket (bucket max : UInt64)
  /-- The key is already there. -/
  | present (key : String)
  /-- The key is not there. -/
  | absent (key : String)
  /-- A writer for `bucket` was given a key of another bucket. -/
  | foreign (key bucket routed : UInt64)
  /-- A batch stopped at an entry of `bucket`. -/
  | batch (bucket : UInt64) (source : StoreError)
deriving DecidableEq, Inhabited

/-- The condition behind an error, without its circumstances. -/
inductive ErrorKind where
  | noBucket
  | present
  | absent
  | foreign
deriving DecidableEq

/-- All conditions. -/
def ErrorKind.all : List ErrorKind := [.noBucket, .present, .absent, .foreign]

namespace StoreError

/-- What is said about an error; a batch does not repeat its source. -/
def message : StoreError → String
  | .noBucket bucket max => s!"bucket does not exist: {bucket}, max bucket is {max}"
  | .present key => "hash already exists: " ++ key
  | .absent key => "hash does not exist: " ++ key
  | .foreign key bucket routed => s!"key {key} routes to bucket {routed}, not bucket {bucket}"
  | .batch bucket _ => s!"failed to put multi in bucket {bucket}"

/-- The error that this one wraps. -/
def source? : StoreError → Option StoreError
  | .batch _ source => some source
  | _ => none

/-- The wrapped errors, outermost first. -/
def causes : StoreError → List StoreError
  | .batch _ source => source :: source.causes
  | _ => []

/-- The condition behind an error; a batch has that of its source. -/
def kind : StoreError → ErrorKind
  | .noBucket .. => .noBucket
  | .present _ => .present
  | .absent _ => .absent
  | .foreign .. => .foreign
  | .batch _ source => source.kind

/-- Whether a condition is the one behind an error. -/
def hasKind (e : StoreError) (k : ErrorKind) : Bool := e.kind = k

end StoreError

end ShardStore
