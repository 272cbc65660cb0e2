/-!
# Reading decimals into doubles

A decimal is read in two roundings: its leading digits, as many as fit into a word of 64 bits, are
rounded to a double, which is then multiplied or divided by a rounded power of ten. Later digits
only count for the place of the point.
-/

namespace Relay.Decimal

/-- **Digits that fit a word**: the value of the leading digits of a list on top of `start`, and how
many of them were taken before the next one would have reached `2 ^ 64`. -/
def leading (start : Nat) : List Char → Nat × Nat
  | [] => (start, 0)
  | digit :: rest =>
    let next := start * 10 + (digit.toNat - '0'.toNat)
    if next < UInt64.size then
      let (value, taken) := leading next rest
      (value, taken + 1)
    else (start, 0)

/-- `10 ^ exponent` as a double. -/
def tenTo (exponent : Nat) : Float := Float.ofScientific 1 false exponent

/-- `value / 10 ^ exponent`, in steps that divide by no more than the largest power of ten. -/
def scaleDown (value : Float) (exponent : Nat) : Float :=
  if exponent ≤ 308 then value / tenTo exponent
  else if value == 0 then value
  else scaleDown (value / tenTo 308) (exponent - 308)
termination_by exponent

/-- **Scaling by a power of ten**; `none` if the result is beyond the finite doubles. -/
def scale? (value : Float) (exponent : Int) : Option Float :=
  if exponent < 0 then some (scaleDown value (-exponent).toNat)
  else if exponent ≤ 308 then
    let result := value * tenTo exponent.toNat
    if result.isInf then none else some result
  else if value == 0 then some value
  else none

/-- **The double of a decimal** with the digits `whole` before and `fraction` behind the point,
moved by `exponent` places; `none` if it is beyond the finite doubles. -/
def toFloat? (whole fraction : List Char) (exponent : Int) : Option Float :=
  let (integral, wholeTaken) := leading 0 whole
  let (significand, fractionTaken) := leading integral fraction
  scale? significand.toUInt64.toFloat
    (exponent + (whole.length - wholeTaken : Nat) - (fractionTaken : Nat))

end Relay.Decimal
