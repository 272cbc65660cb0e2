import Relay.Decimal.Scaling
import Relay.Decimal.Shortest

/-!
# JSON numbers

A numeral as it stands in a text, the number it denotes, and the numeral a number is written with.
Integers within the range of 64-bit words stay exact; every other numeral denotes a double.
-/

namespace Relay.Json

/-! ## (1) Numbers -/

/-- **A number**: an exact integer or a double. -/
inductive Number where
  | int (value : Int)
  | real (value : Float)
  deriving BEq, Inhabited

/-- The double nearest to a number. -/
def Number.toFloat : Number → Float
  | .int value => Float.ofInt value
  | .real value => value

/-! ## (2) Numerals -/

/-- **The power of ten behind a numeral**: its sign and its digits. -/
structure Exponent where
  negative : Bool
  digits : List Char
  deriving DecidableEq

/-- **A numeral**, split where its grammar splits it. An absent fraction is the empty list. -/
structure Numeral where
  negative : Bool
  whole : List Char
  fraction : List Char
  exponent : Option Exponent
  deriving DecidableEq

/-- A numeral without fraction and exponent. -/
def Numeral.isInteger (n : Numeral) : Bool := n.fraction.isEmpty && n.exponent.isNone

/-- The numeral of a natural number, with an optional minus sign. -/
def Numeral.ofNat (negative : Bool) (n : Nat) : Numeral :=
  { negative, whole := Nat.toDigits 10 n, fraction := [], exponent := none }

/-- The numeral of an integer. -/
def Numeral.ofInt (n : Int) : Numeral := .ofNat (n < 0) n.natAbs

/-- The double with the sign of a numeral. -/
def Numeral.signed (n : Numeral) (magnitude : Float) : Float :=
  if n.negative then -magnitude else magnitude

/-- The largest exponent that is read; one beyond it is out of range or yields zero. -/
def largestExponent : Nat := 0x7FFFFFFF

/-- **The double of a numeral**; `none` if it is too large. An exponent beyond `largestExponent`
leaves nothing but zero when it is negative or the leading digits are zeros. -/
def Numeral.toFloat? (n : Numeral) : Option Float :=
  match n.exponent with
  | none => (Decimal.toFloat? n.whole n.fraction 0).map n.signed
  | some e =>
    let size := Nat.ofDigitChars 10 e.digits 0
    if size ≤ largestExponent then
      let shift : Int := if e.negative then -(size : Int) else size
      (Decimal.toFloat? n.whole n.fraction shift).map n.signed
    else if e.negative || (Decimal.leading (Decimal.leading 0 n.whole).1 n.fraction).1 == 0 then
      some (n.signed 0)
    else none

/-- The sign bit of a word of 64 bits, which is the magnitude of the least signed word. -/
def signBit : Nat := 0x8000000000000000

/-- **The number of a numeral**; `none` if it is too large. An integer numeral denotes an integer
within `-2 ^ 63` and `2 ^ 64`, except that minus zero is a double. -/
def Numeral.value? (n : Numeral) : Option Number :=
  let magnitude := Nat.ofDigitChars 10 n.whole 0
  if n.isInteger && !n.negative && magnitude < UInt64.size then some (.int magnitude)
  else if n.isInteger && n.negative && magnitude != 0 && magnitude ≤ signBit then
    some (.int (-magnitude))
  else n.toFloat?.map .real

/-- A natural number below `2 ^ 64` is denoted by its numeral. -/
theorem Numeral.value?_ofNat {n : Nat} (h : n < UInt64.size) :
    (Numeral.ofNat false n).value? = some (.int n) := by
  have magnitude : Nat.ofDigitChars 10 (Numeral.ofNat false n).whole 0 = n :=
    Nat.ofDigitChars_ten_toDigits
  have sign : (Numeral.ofNat false n).negative = false := rfl
  have integer : (Numeral.ofNat false n).isInteger = true := rfl
  simp only [Numeral.value?, magnitude, sign, integer]
  rw [if_pos]
  simp only [Bool.not_false, Bool.and_eq_true, decide_eq_true_eq, true_and]
  exact h

/-- A negative integer from `-2 ^ 63` on is denoted by its numeral. -/
theorem Numeral.value?_ofInt_neg {n : Int} (neg : n < 0) (h : -(signBit : Int) ≤ n) :
    (Numeral.ofInt n).value? = some (.int n) := by
  have magnitude : Nat.ofDigitChars 10 (Numeral.ofInt n).whole 0 = n.natAbs :=
    Nat.ofDigitChars_ten_toDigits
  have sign : (Numeral.ofInt n).negative = true := decide_eq_true neg
  have integer : (Numeral.ofInt n).isInteger = true := rfl
  have back : -((n.natAbs : Nat) : Int) = n := by omega
  have nonzero : n.natAbs ≠ 0 := by omega
  have bound : n.natAbs ≤ signBit := by omega
  simp only [Numeral.value?, magnitude, sign, integer, back]
  rw [if_neg (by simp only [Bool.not_true, Bool.and_false, Bool.false_and, Bool.false_eq_true,
    not_false_eq_true]), if_pos]
  simp only [Bool.and_eq_true, decide_eq_true_eq, bne_iff_ne, true_and]
  exact ⟨nonzero, bound⟩

/-! ## (3) Writing -/

/-- The digits of a decimal with the point `exponent + 1` places behind their start, in the layout
for doubles: positional from `10 ^ -5` up to below `10 ^ 16`, with `.0` behind a whole number, and
with a signed exponent elsewhere. -/
def layout (digits : List Char) (exponent : Int) : List Char :=
  if 0 ≤ exponent ∧ exponent < 16 then
    let point := exponent.toNat + 1
    let fraction := digits.drop point
    digits.take point ++ List.replicate (point - digits.length) '0' ++ '.' ::
      (if fraction.isEmpty then ['0'] else fraction)
  else if -5 ≤ exponent ∧ exponent < 0 then
    '0' :: '.' :: List.replicate ((-exponent).toNat - 1) '0' ++ digits
  else
    digits.take 1 ++ (if digits.length ≤ 1 then [] else '.' :: digits.drop 1) ++
      'e' :: (if exponent < 0 then '-' else '+') :: Nat.toDigits 10 exponent.natAbs

/-- The digits of a decimal without trailing zeros, and the power of ten of the first one. -/
def normalized (decimal : Decimal.Scaled) : List Char × Int :=
  let digits := Nat.toDigits 10 decimal.digits
  let kept := (digits.reverse.dropWhile (· == '0')).reverse
  (kept, decimal.place + (digits.length : Int) - 1)

/-- **The text of a finite double**: its shortest decimal in the layout for doubles; a zero keeps
its sign. -/
def writeFloat (value : Float) : List Char :=
  let bits := value.toBits.toNat
  let magnitude := bits % signBit
  let sign := if signBit ≤ bits then ['-'] else []
  if magnitude = 0 then sign ++ ['0', '.', '0']
  else
    let (digits, exponent) := normalized (Decimal.shortest magnitude)
    sign ++ layout digits exponent

/-- **The text of a number.** -/
def Number.write : Number → List Char
  | .int value => (if value < 0 then ['-'] else []) ++ Nat.toDigits 10 value.natAbs
  | .real value => writeFloat value

end Relay.Json
