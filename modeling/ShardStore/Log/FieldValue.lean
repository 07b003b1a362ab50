import ShardStore.Number.Decimal
import ShardStore.Pattern.Check

/-!
# Field values in log directives

What a log directive may ask of the value of a field: a number, or a pattern.
-/

namespace ShardStore

/-- Whether a text is a number with a plus sign, which would not do as a pattern. -/
def isPlusNumber : List Char → Bool
  | '+' :: rest =>
    (readDecimalText? rest).isSome || ["inf", "infinity", "nan"].contains (String.ofList (rest.map Char.toLower))
  | _ => false

/-- Why a directive cannot ask for a value, if it cannot. -/
def fieldValueFault? (text : List Char) : Option PatternFault := if isPlusNumber text then none else patternFault? text

end ShardStore
