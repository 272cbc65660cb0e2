/-!
# Hexadecimal digits

Writing numbers in base sixteen with lower-case digits, and reading single digits of either case.
-/

namespace Relay.Text

/-- The lower-case hexadecimal digit of a number below sixteen. -/
def hexDigit (n : Nat) : Char :=
  if n < 10 then Char.ofNat (0x30 + n) else Char.ofNat (0x61 + (n - 10))

/-- The value of a hexadecimal digit of either case, if `c` is one. -/
def hexValue? (c : Char) : Option Nat :=
  let code := c.toNat
  if 0x30 ≤ code ∧ code ≤ 0x39 then some (code - 0x30)
  else if 0x61 ≤ code ∧ code ≤ 0x66 then some (code - 0x61 + 10)
  else if 0x41 ≤ code ∧ code ≤ 0x46 then some (code - 0x41 + 10)
  else none

/-- **Fixed-width hexadecimal**: the last `width` digits of `n`, padded with zeros. -/
def hexFixed : (width : Nat) → Nat → List Char
  | 0, _ => []
  | width + 1, n => hexFixed width (n / 16) ++ [hexDigit (n % 16)]

/-- The number of hexadecimal digits that `n` needs, at least one. -/
def hexWidth (n : Nat) : Nat := Nat.log2 n / 4 + 1

/-- **Shortest hexadecimal**: the digits of `n` without leading zeros. -/
def hex (n : Nat) : List Char := hexFixed (hexWidth n) n

/-- A fixed-width numeral has the width it was asked for. -/
@[simp] theorem length_hexFixed (width n : Nat) : (hexFixed width n).length = width := by
  induction width generalizing n with
  | zero => rfl
  | succ width ih => simp [hexFixed, ih]

/-- Reading a digit back gives the number it was written for. -/
theorem hexValue?_hexDigit {n : Nat} (h : n < 16) : hexValue? (hexDigit n) = some n := by
  have digits : ∀ k : Fin 16, hexValue? (hexDigit k) = some k.val := by decide
  exact digits ⟨n, h⟩

/-- Different digits are written differently. -/
theorem hexDigit_inj {m n : Nat} (hm : m < 16) (hn : n < 16) :
    hexDigit m = hexDigit n ↔ m = n := by
  constructor
  · intro same
    have read := hexValue?_hexDigit hm
    rw [same, hexValue?_hexDigit hn] at read
    exact (Option.some.inj read).symm
  · exact congrArg hexDigit

/-- A digit is no hyphen. -/
theorem hexDigit_ne_hyphen {n : Nat} (h : n < 16) : hexDigit n ≠ '-' := by
  have digits : ∀ k : Fin 16, hexDigit k ≠ '-' := by decide
  exact digits ⟨n, h⟩

/-- **Numbers that fit into a width** are told apart by their numerals. -/
theorem hexFixed_inj {width m n : Nat} (hm : m < Nat.pow 16 width) (hn : n < Nat.pow 16 width) :
    hexFixed width m = hexFixed width n ↔ m = n := by
  refine ⟨fun same => ?_, congrArg (hexFixed width)⟩
  induction width generalizing m n with
  | zero =>
    rw [Nat.lt_one_iff.mp hm, Nat.lt_one_iff.mp hn]
  | succ width ih =>
    obtain ⟨high, low⟩ := List.append_inj' same rfl
    have lastDigit := (hexDigit_inj (Nat.mod_lt m (by decide)) (Nat.mod_lt n (by decide))).mp
      (List.cons.inj low).1
    have shorter {k : Nat} (fits : k < Nat.pow 16 width * 16) : k / 16 < Nat.pow 16 width :=
      Nat.div_lt_of_lt_mul (by rwa [Nat.mul_comm])
    have others := ih (shorter hm) (shorter hn) high
    omega

/-- No hyphen stands in a numeral. -/
theorem hyphen_not_mem_hexFixed (width n : Nat) : '-' ∉ hexFixed width n := by
  induction width generalizing n with
  | zero => simp [hexFixed]
  | succ width ih =>
    rw [hexFixed, List.mem_append, List.mem_singleton]
    rintro (early | late)
    · exact ih (n / 16) early
    · exact hexDigit_ne_hyphen (Nat.mod_lt n (by decide)) late.symm

end Relay.Text
