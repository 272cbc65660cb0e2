import Relay.Json.Reader
import Relay.Text.Hex

/-!
# Run identifiers

Each run has an identifier of 128 bits. It is written as 32 lower-case hexadecimal digits with
hyphens that part groups of 8, 4, 4, 4 and 12 digits, and read in that form, without hyphens, in
braces or behind `urn:uuid:`, in either case of the digits and of that word.
-/

namespace Relay

/-- **The identifier of a run.** -/
structure RunId where
  bits : BitVec 128
  deriving DecidableEq

namespace RunId

/-- The identifier that stands for no run. -/
def nil : RunId := ⟨0⟩

instance : Inhabited RunId := ⟨nil⟩

/-- The hyphenated form of 32 digits. -/
def hyphenate (digits : List Char) : List Char :=
  digits.take 8 ++ '-' :: (digits.drop 8).take 4 ++ '-' :: (digits.drop 12).take 4 ++
    '-' :: (digits.drop 16).take 4 ++ '-' :: digits.drop 20

/-- **The text of an identifier.** -/
def text (id : RunId) : String := String.ofList (hyphenate (Text.hexFixed 32 id.bits.toNat))

/-- The digits are what is left of a hyphenated form without its hyphens. -/
theorem filter_hyphenate {digits : List Char} (noHyphen : '-' ∉ digits) :
    (hyphenate digits).filter (· != '-') = digits := by
  have all : ∀ part : List Char, (∀ c ∈ part, c ∈ digits) → part.filter (· != '-') = part := by
    intro part within
    refine List.filter_eq_self.mpr fun c member => ?_
    simp only [bne_iff_ne]
    rintro rfl
    exact noHyphen (within _ member)
  have taken : ∀ (m n : Nat), ∀ c ∈ (digits.drop m).take n, c ∈ digits := fun _ _ _ member =>
    List.mem_of_mem_drop (List.mem_of_mem_take member)
  have hyphen : ∀ rest : List Char, ('-' :: rest).filter (· != '-') = rest.filter (· != '-') :=
    fun rest => List.filter_cons_of_neg (by decide)
  simp only [hyphenate, List.filter_append, hyphen,
    all _ fun c member => List.mem_of_mem_take member, all _ (taken 8 4), all _ (taken 12 4),
    all _ (taken 16 4), all _ fun c member => List.mem_of_mem_drop member]
  -- The groups are put together again from the last one on.
  have rejoined : ∀ m n, (digits.drop m).take n ++ digits.drop (m + n) = digits.drop m := by
    intro m n
    rw [← List.drop_drop, List.take_append_drop]
  rw [List.append_assoc, rejoined 16 4, List.append_assoc, rejoined 12 4, List.append_assoc,
    rejoined 8 4, List.take_append_drop]

/-- **Different identifiers have different texts.** -/
theorem text_inj {a b : RunId} : a.text = b.text ↔ a = b := by
  constructor
  · intro same
    have hyphenated := String.ofList_injective same
    have digits := congrArg (List.filter (· != '-')) hyphenated
    rw [filter_hyphenate (Text.hyphen_not_mem_hexFixed _ _),
      filter_hyphenate (Text.hyphen_not_mem_hexFixed _ _)] at digits
    have numbers := (Text.hexFixed_inj a.bits.isLt b.bits.isLt).mp digits
    obtain ⟨bits⟩ := a
    exact congrArg RunId.mk (BitVec.eq_of_toNat_eq numbers)
  · exact congrArg text

/-- The identifier with the given digits, if these are 32 hexadecimal digits. -/
def ofDigits? (digits : List Char) : Option RunId :=
  if digits.length = 32 then
    (digits.mapM Text.hexValue?).map fun values =>
      ⟨BitVec.ofNat 128 (values.foldl (fun n value => n * 16 + value) 0)⟩
  else none

/-- The identifier in hyphenated form. -/
def ofHyphenated? (chars : List Char) : Option RunId :=
  let digits := chars.filter (· != '-')
  if chars.length = 36 ∧ chars[8]? = some '-' ∧ chars[13]? = some '-' ∧ chars[18]? = some '-' ∧
      chars[23]? = some '-' then
    ofDigits? digits
  else none

/-- **The identifier that a text denotes**, if it denotes one. -/
def ofText? (text : String) : Option RunId :=
  let chars := text.toList
  if chars.length = 32 then ofDigits? chars
  else if chars.length = 36 then ofHyphenated? chars
  else if chars.length = 38 ∧ chars.head? = some '\x7b' ∧ chars.getLast? = some '\x7d' then
    ofHyphenated? (chars.drop 1).dropLast
  else if chars.length = 45 ∧ (chars.take 9).map Char.toLower = "urn:uuid:".toList then
    ofHyphenated? (chars.drop 9)
  else none

/-- Reading an identifier. -/
def read : Json.Reader RunId := fun node => do
  match ofText? (← Json.readText node) with
  | some id => .ok id
  | none => .error .mismatch

end RunId

end Relay
