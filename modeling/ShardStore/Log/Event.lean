/-!
# Log events

What the stores and the program report while they work: a message of some severity, from some part of the program, with
named fields.
-/

namespace ShardStore

/-- How severe an event is. -/
inductive Level where
  | error
  | warn
  | info
  | debug
  | trace
deriving DecidableEq

/-- The name of a level. -/
def Level.name : Level → String
  | .error => "ERROR"
  | .warn => "WARN"
  | .info => "INFO"
  | .debug => "DEBUG"
  | .trace => "TRACE"

/-- A higher number lets more events pass. -/
def Level.verbosity : Level → Nat
  | .error => 1
  | .warn => 2
  | .info => 3
  | .debug => 4
  | .trace => 5

/-- The value of a field. -/
inductive FieldValue where
  | number (n : Nat)
  | text (s : String)
  /-- A value that is written as it is shown in quotes, and not quoted again where texts are. -/
  | quoted (s : String)
deriving DecidableEq

/-- An event of the log. -/
structure Event where
  level : Level
  /-- The part of the program that reports. -/
  target : String
  message : String
  /-- The named values, in order. -/
  fields : List (String × FieldValue)
  /-- The names of fields whose values are not written. -/
  unwritten : List String := []
deriving DecidableEq

/-- The names of all fields of an event; its message is one of them. -/
def Event.fieldNames (e : Event) : List String := "message" :: e.fields.map (·.1) ++ e.unwritten

end ShardStore
