import ShardStore.Document.Cursor
import ShardStore.Text.Quoted

/-!
# Faults of a configuration document

What is wrong with a document that is well formed and yet no configuration: where, under which field, and what.
-/

namespace ShardStore

/-- What was found where something else was expected. -/
inductive Found where
  | nothing
  | truth (b : Bool)
  | integer (n : Int)
  /-- An integer beyond 64 bits. -/
  | wide (n : Nat)
  /-- A negative integer beyond 64 bits. -/
  | wideNegative (n : Int)
  /-- A fraction, by its text. -/
  | fraction (text : String)
  | text (s : String)
  | sequence
  | mapping
deriving DecidableEq

/-- What was found, in words. -/
def Found.description : Found → String
  | .nothing => "unit value"
  | .truth b => s!"boolean `{b}`"
  | .integer n => s!"integer `{n}`"
  | .wide n => s!"integer `{n}` as u128"
  | .wideNegative n => s!"integer `{n}` as i128"
  | .fraction s => s!"floating point `{s}`"
  | .text s => "string " ++ quoteText s
  | .sequence => "sequence"
  | .mapping => "map"

/-- What is wrong. -/
inductive Problem where
  | missing (field : String)
  | duplicate (field : String)
  | wrongType (found : Found) (expected : String)
  | wrongValue (found : Found) (expected : String)
deriving DecidableEq

/-- What is wrong, in words. -/
def Problem.description : Problem → String
  | .missing field => s!"missing field `{field}`"
  | .duplicate field => s!"duplicate field `{field}`"
  | .wrongType found expected => "invalid type: " ++ found.description ++ ", expected " ++ expected
  | .wrongValue found expected => "invalid value: " ++ found.description ++ ", expected " ++ expected

/-- A problem with its place. -/
structure Fault where
  /-- The names of the fields around it, outermost first. -/
  path : List String
  problem : Problem
  place : Position
deriving DecidableEq

/-- What is said about a fault. The start of the text is not mentioned as a place. -/
def Fault.message (f : Fault) : String :=
  let path := if f.path.isEmpty then "" else ".".intercalate f.path ++ ": "
  let place :=
    if f.place.line = 0 ∧ f.place.column = 0 then ""
    else s!" at line {f.place.line + 1} column {f.place.column + 1}"
  path ++ f.problem.description ++ place

end ShardStore
