import ShardStore.Text.Digits

/-!
# Decimal fractions

Reading decimal fractions as floating-point numbers, and writing such a number with the fewest digits that read back to
it. The digits are found by exact integer arithmetic: on decimal grids, the coarsest first, the neighbours of the number are
tried until one lies among the reals that round to it. They are written positionally, however many zeros that takes.
-/

namespace ShardStore

/-! ## Reading -/

/-- A decimal fraction `digits * 10 ^ exponent`. -/
structure DecimalText where
  digits : List Char
  exponent : Int

/-- Reads `±digits` behind the letter of an exponent. -/
def readExponent? : List Char → Option Int
  | [] => some 0
  | e :: rest =>
    if e == 'e' || e == 'E' then
      match rest with
      | '-' :: digits => (digitsValue? 10 digits).map fun n => -(n : Int)
      | '+' :: digits => (digitsValue? 10 digits).map Int.ofNat
      | digits => (digitsValue? 10 digits).map Int.ofNat
    else none

/-- Reads digits with an optional point among them and an optional exponent; at least one digit is needed. -/
def readDecimalText? (text : List Char) : Option DecimalText := do
  let whole := text.takeWhile Char.isDigit
  let (fraction, rest) := match text.drop whole.length with
    | '.' :: rest => (rest.takeWhile Char.isDigit, rest.dropWhile Char.isDigit)
    | rest => ([], rest)
  if whole.isEmpty && fraction.isEmpty then none
  else
    let exponent ← readExponent? rest
    return ⟨whole ++ fraction, exponent - fraction.length⟩

/-- The nearest floating-point number. Exponents far outside the range are not worked out. -/
def DecimalText.toFloat (d : DecimalText) : Float :=
  let digits := d.digits.dropWhile (· == '0')
  let mantissa := (digitsValue? 10 digits).getD 0
  let top := d.exponent + digits.length
  if digits.isEmpty || top < -400 then 0
  else if 400 < top then 1 / 0
  else Float.ofScientific mantissa (d.exponent < 0) d.exponent.natAbs

/-- The finite or infinite number, or no number, that an unquoted text writes in the notation of fractions. -/
def readFraction? (text : List Char) : Option Float :=
  let unsigned := match text with
    | '+' :: rest => rest
    | _ => text
  if text.head? == some '+' && (unsigned.head? == some '+' || unsigned.head? == some '-') then none
  else
    match String.ofList unsigned with
    | ".inf" | ".Inf" | ".INF" => some (1 / 0)
    | _ =>
      match String.ofList text with
      | "-.inf" | "-.Inf" | "-.INF" => some (-1 / 0)
      | ".nan" | ".NaN" | ".NAN" => some (0 / 0)
      | _ =>
        let value : Option Float := match unsigned with
          | '-' :: digits => (readDecimalText? digits).map fun (d : DecimalText) => -d.toFloat
          | digits => (readDecimalText? digits).map DecimalText.toFloat
        value.filter Float.isFinite

/-! ## Writing -/

/-- A positive binary number `mantissa * 2 ^ exponent` among those of its format. -/
structure Binary where
  mantissa : Nat
  exponent : Int
  /-- Whether the next lower number of the format is only half as far away as the next higher one. -/
  narrowBelow : Bool

/-- The magnitude of a finite number that is not zero. -/
def Binary.ofFloat (f : Float) : Binary :=
  let bits := f.toBits.toNat % binaryRange 63
  let fraction := bits % binaryRange 52
  let biased : Nat := bits / binaryRange 52
  if biased = 0 then ⟨fraction, -1074, false⟩
  else ⟨binaryRange 52 + fraction, (biased : Int) - 1075, fraction = 0 && 1 < biased⟩

/-- A power as a fraction of naturals. -/
def powerParts (base : Nat) (exponent : Int) : Nat × Nat :=
  (Nat.pow base exponent.toNat, Nat.pow base (-exponent).toNat)

/-- The multiple of `10 ^ place` nearest to a number among those that round to the number, if there is one. The upper one
wins a tie. -/
def Binary.onGrid? (b : Binary) (place : Int) : Option Nat :=
  let (up, down) := powerParts 2 (b.exponent - 2)
  let (tenUp, tenDown) := powerParts 10 place
  let scale := tenUp * down
  let real (quarters : Nat) : Nat := quarters * up * tenDown
  let value := real (4 * b.mantissa)
  let low := real (4 * b.mantissa - if b.narrowBelow then 1 else 2)
  let high := real (4 * b.mantissa + 2)
  let even := b.mantissa % 2 = 0
  let inside (n : Nat) : Bool :=
    0 < n && (low < n * scale || (even && low = n * scale)) && (n * scale < high || (even && n * scale = high))
  let below := value / scale
  let above := below + 1
  match inside below, inside above with
  | true, true => if value - below * scale < above * scale - value then some below else some above
  | true, false => some below
  | false, true => some above
  | false, false => none

/-- The fewest digits that read back to a number, as a natural and the place of its last digit. -/
def Binary.shortest (b : Binary) : Nat × Int :=
  search 700 310
where
  search : Nat → Int → Nat × Int
    | 0, place => (0, place)
    | fuel + 1, place =>
      match b.onGrid? place with
      | some n => (n, place)
      | none => search fuel (place - 1)

/-- A natural with its decimal point moved, in positional notation; a whole number keeps one zero behind the point. -/
def positional (n : Nat) (place : Int) : String :=
  if 0 ≤ place then toString n ++ String.ofList (List.replicate place.toNat '0') ++ ".0"
  else
    let behind := place.natAbs
    let digits := (toString n).toList
    let padded := List.replicate (behind + 1 - digits.length) '0' ++ digits
    String.ofList (padded.take (padded.length - behind)) ++ "." ++
      String.ofList (padded.drop (padded.length - behind))

/-- A floating-point number in positional notation with the fewest digits that read back to it. -/
def fractionText (f : Float) : String :=
  if f.isNaN then "NaN"
  else
    let sign := if binaryRange 63 ≤ f.toBits.toNat then "-" else ""
    if f.isInf then sign ++ "inf"
    else if f == 0 then sign ++ "0.0"
    else
      let (n, place) := (Binary.ofFloat f).shortest
      sign ++ positional n place

end ShardStore
