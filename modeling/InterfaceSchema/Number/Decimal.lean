import InterfaceSchema.Number.BinaryFormat

/-!
# Decimal text of a binary number

A binary number is printed with the fewest digits that read back to it: on the coarsest decimal
grid `d · 10 ^ k` that has a point among the reals which round to the number, the point nearest to
the number is taken. The text never has an exponent, so it may be hundreds of digits long, and a
whole number has no point.

* `Decimal.ofFinite` chooses the digits, in exact arithmetic on naturals;
* `Decimal.positional` lays them out;
* `BinaryFormat.text` prints every word of a format.
-/

namespace InterfaceSchema

/-! ## 1. The reals that round to a binary number -/

/-- The reals between two ends, given by their numerators over one denominator, around a value. -/
structure Interval where
  low : Nat
  value : Nat
  high : Nat
  denominator : Nat
  /-- Do the two ends belong to it? -/
  closed : Bool

namespace Interval

/-- The reals that round to `significand · 2 ^ exponent`: half a place to either side. Below a
    power of two the places are half as wide, unless it is the least normal number; and the ends
    round to the number exactly when its significand is even. -/
def ofFinite (f : BinaryFormat) (significand : Nat) (exponent : Int) : Interval :=
  let narrow := significand = Nat.pow 2 f.fractionBits ∧ f.leastExponent < exponent
  let scale := Nat.pow 2 (exponent - 2).toNat
  { low := (4 * significand - if narrow then 1 else 2) * scale
    value := 4 * significand * scale
    high := (4 * significand + 2) * scale
    denominator := Nat.pow 2 (2 - exponent).toNat
    closed := significand % 2 == 0 }

/-- The interval measured in units of `10 ^ exponent`. -/
def inUnits (i : Interval) (exponent : Int) : Interval :=
  let shift := Nat.pow 10 (-exponent).toNat
  { i with
    low := i.low * shift
    value := i.value * shift
    high := i.high * shift
    denominator := i.denominator * Nat.pow 10 exponent.toNat }

/-- Does the whole number lie in the interval? -/
def holds (i : Interval) (n : Nat) : Bool :=
  if i.closed then i.low ≤ n * i.denominator && n * i.denominator ≤ i.high
  else i.low < n * i.denominator && n * i.denominator < i.high

/-- The whole number in the interval that is nearest to the value; of two equally near ones, the
    larger. If any whole number lies in the interval, one of the value's two neighbours does. -/
def nearestWhole? (i : Interval) : Option Nat :=
  let down := i.value / i.denominator
  let up := down + 1
  let upIsNearer := i.denominator ≤ 2 * (i.value % i.denominator)
  if i.holds down && !(upIsNearer && i.holds up) then some down
  else if i.holds up then some up
  else none

end Interval

/-! ## 2. The fewest digits -/

/-- The number `digits · 10 ^ exponent`. -/
structure Decimal where
  digits : Nat
  exponent : Int

namespace Decimal

/-- No grid coarser than that of `10 ^ largestExponent` has a positive point in the interval: such a
    point is at least `10 ^ k`, which is at least `8 ^ k`. -/
def largestExponent (i : Interval) : Nat :=
  (i.high / i.denominator).log2 / 3

/-- The fewest digits that read back to `significand · 2 ^ exponent`, and of those the nearest.
    The grids are tried from coarse to fine; the grid of `10 ^ (exponent - 2)` is finer than the
    interval is wide, so the search ends before the list does. -/
def ofFinite (f : BinaryFormat) (significand : Nat) (exponent : Int) : Decimal :=
  let i := Interval.ofFinite f significand exponent
  let top := largestExponent i
  let grids := (List.range (top + (2 - exponent).toNat + 1)).map fun n : Nat =>
    (top : Int) - (n : Int)
  (grids.findSome? fun k => ((i.inUnits k).nearestWhole?).map fun d => ⟨d, k⟩).getD ⟨0, 0⟩

/-! ## 3. Layout -/

/-- The digits before and after the point, without an exponent: zeros fill the places that the
    digits do not reach. -/
def positional (d : Decimal) : String :=
  let places := (-d.exponent).toNat
  let digits := (Nat.toDigits 10 (d.digits * Nat.pow 10 d.exponent.toNat))
  let padded := List.replicate (places + 1 - digits.length) '0' ++ digits
  let whole := padded.take (padded.length - places)
  let fraction := padded.drop (padded.length - places)
  String.ofList (if fraction.isEmpty then whole else whole ++ '.' :: fraction)

end Decimal

/-- The text of a word. The sign of a zero is kept; a word that holds no number has no sign. -/
def BinaryFormat.text (f : BinaryFormat) (word : Nat) : String :=
  match f.decode word with
  | .nan => "NaN"
  | .infinite negative => sign negative ++ "inf"
  | .finite negative significand exponent =>
    let digits : Decimal := if significand = 0 then ⟨0, 0⟩ else .ofFinite f significand exponent
    sign negative ++ digits.positional
where
  sign (negative : Bool) : String := if negative then "-" else ""

end InterfaceSchema
