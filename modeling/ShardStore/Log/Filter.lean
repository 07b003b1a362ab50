import ShardStore.Log.Directive
import ShardStore.Log.Event

/-!
# Log filters

Which events are logged. A filter is a list of directives; of those that speak about an event the most specific one
decides: the one with the longest target, and of these one that asks for a field before one that does not.
-/

namespace ShardStore

namespace Directive

/-- Whether a directive can decide about events. The others are about spans and the values in them, and this program opens
no span. -/
def decides (d : Directive) : Bool := d.span.isNone && d.field.all (!·.valued)

/-- Whether a directive speaks about an event: the target begins as it should, and the field it asks for is there. -/
def speaksAbout (d : Directive) (e : Event) : Bool :=
  d.target.isPrefixOf e.target && d.field.all fun f => e.fieldNames.contains f.name

/-- Whether a directive is more specific than another one that speaks about the same target. The names of fields settle
what is left open. -/
def outranks (d other : Directive) : Bool :=
  let name (d : Directive) : String := d.field.elim "" (·.name)
  other.target.length < d.target.length ||
    (d.target.length == other.target.length && decide (name other < name d))

end Directive

/-- A filter, and the pieces of its text that were no directives. -/
structure LogFilter where
  directives : List Directive
  ignored : List (String × DirectiveFault) := []
deriving DecidableEq

namespace LogFilter

/-- What passes where a filter says nothing: errors. -/
def fallback : Directive := { verbosity := 1 }

/-- Reads a filter from pieces between commas. -/
def ofText (text : String) : LogFilter :=
  let pieces := (text.splitOn ",").filter (!·.isEmpty)
  let read := pieces.filterMap fun p => (Directive.read p).toOption
  { directives := if read.isEmpty then [fallback] else read
    ignored := pieces.filterMap fun p =>
      match Directive.read p with
      | .ok _ => none
      | .error fault => some (p, fault) }

/-- The more specific of two directives; the later one if none is. -/
def moreSpecific (earlier : Option Directive) (later : Directive) : Option Directive :=
  match earlier with
  | some d => if d.outranks later then some d else some later
  | none => some later

/-- Whether an event is logged. -/
def allows (f : LogFilter) (e : Event) : Bool :=
  let speaking := f.directives.filter fun d => d.decides && d.speaksAbout e
  (speaking.foldl moreSpecific none).any fun d => e.level.verbosity ≤ d.verbosity

/-- What is said about the pieces that were ignored. -/
def warnings (f : LogFilter) : String :=
  String.join (f.ignored.map fun (piece, fault) => s!"ignoring `{piece}`: {fault.message}\n")

end LogFilter

end ShardStore
