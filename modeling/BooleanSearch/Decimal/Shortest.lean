import BooleanSearch.Text.Decimal

/-!
This module contains the shortest decimal notation of floating point numbers. All numbers in an
interval around a float round to it. The notation is the decimal number with the fewest digits in that
interval, and of two such numbers the one that is closer to the float, written positionally.
-/

namespace BooleanSearch.Decimal

/--
A positive finite float and the interval of the numbers that round to it, all in units of
`1 / scale`.
-/
structure Interval where
  low : Nat
  value : Nat
  high : Nat
  scale : Nat
  /-- Whether the ends of the interval round to the float as well. -/
  closed : Bool

/--
The interval of the float with the given bits, the sign apart. In a binade the floats are evenly
spaced; below a power of two the gap to the next float is only half as wide as above it.
-/
def Interval.ofBits (bits : UInt64) : Interval :=
  let exponent := ((bits >>> 52) &&& 0x7FF).toNat
  let fraction := (bits &&& 0xFFFFFFFFFFFFF).toNat
  let mantissa := if exponent = 0 then fraction else Nat.pow 2 52 + fraction
  let below := if fraction = 0 ∧ 1 < exponent then 1 else 2
  -- A quarter of the gap above the float is `2 ^ (exponent - 1077)`.
  let shift := Nat.pow 2 (exponent - 1077)
  { low := (4 * mantissa - below) * shift
    value := 4 * mantissa * shift
    high := (4 * mantissa + 2) * shift
    scale := Nat.pow 2 (1077 - max exponent 1)
    closed := mantissa % 2 = 0 }

/--
A decimal number: `digits` with `places` digits behind the point, or with zeros appended if the
number of places is negative.
-/
structure Number where
  digits : Nat
  places : Int
deriving DecidableEq, Repr

def Interval.contains (interval : Interval) (n unit : Nat) : Bool :=
  let n := n * interval.scale
  let low := interval.low * unit
  let high := interval.high * unit
  if interval.closed then low ≤ n && n ≤ high else low < n && n < high

/--
The closest number with the given number of places in an interval, if there is one. A number that is
equally close on both sides is rounded up.
-/
def Interval.closest? (interval : Interval) (places : Int) : Option Number :=
  -- The number `n` stands for `n * step / unit`.
  let unit := Nat.pow 10 places.toNat
  let step := Nat.pow 10 (-places).toNat
  let below := interval.value * unit / (interval.scale * step)
  let belowIn := interval.contains (below * step) unit
  let aboveIn := interval.contains ((below + 1) * step) unit
  let twice := 2 * interval.value * unit
  let middle := (2 * below + 1) * step * interval.scale
  match belowIn, aboveIn with
  | true, true => some ⟨if twice < middle then below else below + 1, places⟩
  | true, false => some ⟨below, places⟩
  | false, true => some ⟨below + 1, places⟩
  | false, false => none

/--
The shortest number in an interval. The search goes from numbers with many trailing zeros to numbers
with many places, and it ends before the number of places at which every float is exact.
-/
def Interval.shortest (interval : Interval) : Number :=
  let integerDigits := (Text.decimal (interval.value / interval.scale)).length
  let grids := (List.range (integerDigits + 1080)).map fun (i : Nat) =>
    (i : Int) - (integerDigits : Int)
  (grids.findSome? interval.closest?).getD ⟨0, 0⟩

def Number.text (number : Number) : Text :=
  let places := number.places.toNat
  let digits := number.digits * Nat.pow 10 (-number.places).toNat
  let fraction := Text.decimal (digits % Nat.pow 10 places)
  let padded := List.replicate (places - fraction.length) '0' ++ fraction
  let significant := Text.dropEndWhile (· == '0') padded
  let whole := Text.decimal (digits / Nat.pow 10 places)
  if places = 0 ∨ significant.isEmpty then whole else whole ++ '.' :: significant

def ofFloat (x : Float) : Text :=
  let bits := x.toBits
  let magnitude := bits &&& 0x7FFFFFFFFFFFFFFF
  let sign := if bits = magnitude then [] else ['-']
  if 0x7FF0000000000000 < magnitude then
    "NaN".toList
  else if magnitude = 0x7FF0000000000000 then
    sign ++ "inf".toList
  else if magnitude = 0 then
    sign ++ ['0']
  else
    sign ++ (Interval.ofBits magnitude).shortest.text

end BooleanSearch.Decimal
