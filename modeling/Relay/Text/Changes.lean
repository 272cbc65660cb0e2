/-!
# Sets of characters by their changes

A set of characters that consists of long stretches is given by the code points where membership
changes, in increasing order: a character is in the set if the number of changes up to it is odd.
-/

namespace Relay.Text

/-- The number of changes at or below `code`; the list is increasing, so the count stops early. -/
def changesUpTo (code : Nat) : List Nat → Nat
  | [] => 0
  | change :: rest => if change ≤ code then changesUpTo code rest + 1 else 0

/-- **Whether a code point is in the set** with the given changes. -/
def isWithin (changes : List Nat) (code : Nat) : Bool := changesUpTo code changes % 2 == 1

/-- A set with two changes is the stretch from the first to the second. -/
theorem isWithin_pair {first second code : Nat} :
    isWithin [first, second] code = true ↔ first ≤ code ∧ code < second := by
  by_cases low : first ≤ code
  · by_cases high : second ≤ code <;> simp [isWithin, changesUpTo, low, high]
    omega
  · simp [isWithin, changesUpTo, low]

end Relay.Text
