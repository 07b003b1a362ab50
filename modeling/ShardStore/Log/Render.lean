import ShardStore.Log.Event
import ShardStore.Text.Quoted

/-!
# Log lines

Events as text: one line for people, or one object of JSON for programs.
-/

namespace ShardStore

/-! ## For people -/

/-- The value of a field for people: texts are quoted. -/
def FieldValue.readable : FieldValue → String
  | .number n => toString n
  | .text s => quoteText s
  | .quoted s => s

/-- An event in one line: level, target, message, and the fields behind it. -/
def Event.readable (e : Event) : String :=
  let fields := e.fields.map fun (name, value) => ", " ++ name ++ ": " ++ value.readable
  e.level.name ++ " " ++ e.target ++ ": " ++ e.message ++ String.join fields

/-! ## For programs -/

/-- A character inside a JSON text. -/
def jsonChar (c : Char) : String :=
  if c == '"' then "\\\""
  else if c == '\\' then "\\\\"
  else if c == '\n' then "\\n"
  else if c == '\r' then "\\r"
  else if c == '\t' then "\\t"
  else if c.toNat = 8 then "\\b"
  else if c.toNat = 12 then "\\f"
  else if c.toNat < 32 then
    "\\u" ++ String.ofList (List.replicate (4 - (hexText c.toNat).length) '0') ++ hexText c.toNat
  else String.singleton c

/-- A text in JSON. -/
def jsonText (s : String) : String := "\"" ++ String.join (s.toList.map jsonChar) ++ "\""

/-- An object of JSON from names and values that are JSON already. -/
def jsonObject (fields : List (String × String)) : String :=
  "\x7b" ++ ",".intercalate (fields.map fun (name, value) => jsonText name ++ ":" ++ value) ++ "\x7d"

/-- The value of a field in JSON. -/
def FieldValue.json : FieldValue → String
  | .number n => toString n
  | .text s | .quoted s => jsonText s

/-- An event as an object of JSON, its message being one of its fields. -/
def Event.json (e : Event) : String :=
  let fields := ("message", jsonText e.message) :: e.fields.map fun (name, value) => (name, value.json)
  jsonObject [("level", jsonText e.level.name), ("fields", jsonObject fields), ("target", jsonText e.target)]

end ShardStore
