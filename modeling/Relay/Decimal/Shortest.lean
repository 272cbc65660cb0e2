/-!
# Shortest decimals

The decimal with the fewest digits that reads back as a given double, and of those the one nearest
to it. A finite double is `m · 2 ^ q`; the reals that round to it form an interval whose ends belong
to it exactly if `m` is even. Grids of one digit, two digits, … are tried in turn: the first one
with a point in the interval has it next to the double, so that two candidates per grid suffice.
-/

namespace Relay.Decimal

/-! ## (1) Decoding -/

/-- **A positive double in exact form**: `significand · 2 ^ exponent`, with the distance to the
next smaller double halved when `lowestInBinade` holds. -/
structure Dyadic where
  significand : Nat
  exponent : Int
  lowestInBinade : Bool

/-- The bit that normal doubles have in front of the 52 bits of their fraction. -/
def leadingBit : Nat := 0x10000000000000

/-- The exact form of the magnitude behind the 63 lower bits of a finite double. -/
def Dyadic.ofBits (bits : Nat) : Dyadic :=
  let fraction : Nat := bits % leadingBit
  let biased : Nat := bits / leadingBit % 0x800
  if biased = 0 then ⟨fraction, -1074, false⟩
  else ⟨fraction + leadingBit, (biased : Int) - 1075, fraction = 0 ∧ 1 < biased⟩

/-! ## (2) The interval of reals that round to a double -/

/-- **A closed or open interval around a value**, all three over one denominator. -/
structure Interval where
  low : Nat
  value : Nat
  high : Nat
  denominator : Nat
  closed : Bool

/-- The reals that round to `d`; a quarter of a unit in the last place is the common measure. -/
def Dyadic.interval (d : Dyadic) : Interval :=
  let scale := d.exponent - 2
  let up := Nat.pow 2 scale.toNat
  { low := (4 * d.significand - (if d.lowestInBinade then 1 else 2)) * up
    value := 4 * d.significand * up
    high := (4 * d.significand + 2) * up
    denominator := Nat.pow 2 (-scale).toNat
    closed := d.significand % 2 = 0 }

/-- Whether `digits · 10 ^ place` lies in the interval. -/
def Interval.holds (i : Interval) (digits : Nat) (place : Int) : Bool :=
  let point := digits * Nat.pow 10 place.toNat * i.denominator
  let unit := Nat.pow 10 (-place).toNat
  if i.closed then i.low * unit ≤ point && point ≤ i.high * unit
  else i.low * unit < point && point < i.high * unit

/-! ## (3) The search -/

/-- **A decimal** `digits · 10 ^ place`. -/
structure Scaled where
  digits : Nat
  place : Int
  deriving DecidableEq

/-- The candidate on the grid `10 ^ place`: of the two grid points around the value that lie in the
interval the nearer one, the even one if both are equally near. -/
def Interval.onGrid? (i : Interval) (place : Int) : Option Scaled :=
  let numerator := i.value * Nat.pow 10 (-place).toNat
  let denominator := i.denominator * Nat.pow 10 place.toNat
  let below := numerator / denominator
  let rest := 2 * (numerator % denominator)
  let preferBelow := rest < denominator || (rest == denominator && below % 2 == 0)
  match i.holds below place, i.holds (below + 1) place with
  | true, true => some ⟨if preferBelow then below else below + 1, place⟩
  | true, false => some ⟨below, place⟩
  | false, true => some ⟨below + 1, place⟩
  | false, false => none

/-- The decimal exponent of the value: the power of ten of its first digit. -/
def Interval.magnitude (i : Interval) : Int :=
  if i.denominator ≤ i.value then ((Nat.toDigits 10 (i.value / i.denominator)).length : Int) - 1
  else
    let guess := (Nat.toDigits 10 (i.denominator / i.value)).length
    if i.denominator ≤ i.value * Nat.pow 10 (guess - 1) then -((guess - 1 : Nat) : Int)
    else -(guess : Int)

/-- The first grid, counted down from the coarsest, that meets the interval. -/
def Interval.search (i : Interval) : (grids : Nat) → (place : Int) → Scaled
  | 0, place =>
    ⟨i.value * Nat.pow 10 (-place).toNat / (i.denominator * Nat.pow 10 place.toNat), place⟩
  | grids + 1, place =>
    match i.onGrid? place with
    | some decimal => decimal
    | none => i.search grids (place - 1)

/-- **The shortest decimal** of a positive finite double, given by its bits. -/
def shortest (bits : Nat) : Scaled :=
  let interval := (Dyadic.ofBits bits).interval
  interval.search 17 interval.magnitude

end Relay.Decimal
