import Relay.Json.Lexer
import Relay.Json.Value

/-!
# Reading JSON

A reader of a type takes a document to a value of the type or to the first fault it meets. Readers
of texts, numbers, truth values, lists and optional values are here; records and variants are built
on them elsewhere. Whatever the expected type, a scalar of another type is read to its end before it
is refused, while a container of the wrong kind is refused at its bracket.
-/

namespace Relay.Json

/-- **A reader** of values of type `α`. -/
abbrev Reader (α : Type) : Type := Node → Except Fault α

/-! ## (1) Passing over -/

mutual

/-- **Passing over a value**: only faults of the text count. -/
def Node.skip : Node → Except Fault Unit
  | .null | .bool _ | .number _ | .text _ => .ok ()
  | .array items => items.skip
  | .object members => members.skip
  | .broken at' => .error at'.skipped

/-- Passing over the items of an array. -/
def Items.skip : Items → Except Fault Unit
  | .done .closed => .ok ()
  | .done (.broken at' _) => .error at'.skipped
  | .more item rest => do
    item.skip
    rest.skip

/-- Passing over the members of an object. -/
def Members.skip : Members → Except Fault Unit
  | .done .closed => .ok ()
  | .done (.broken at' _) => .error at'.skipped
  | .more _ value rest => do
    value.skip
    rest.skip

end

/-! ## (2) Scalars -/

/-- **The fault of a value of an unexpected type.** -/
def Node.unexpected : Node → Fault
  | .broken at' => at'.kept
  | .text none | .number none => .malformed
  | .null | .bool _ | .number (some _) | .text (some _) | .array _ | .object _ => .mismatch

/-- Reading a text. -/
def readText : Reader String
  | .text (some content) => .ok content
  | node => .error node.unexpected

/-- Reading a truth value. -/
def readBool : Reader Bool
  | .bool value => .ok value
  | node => .error node.unexpected

/-- **Reading an integer** between two bounds. Numbers that are doubles are refused, whatever their
value. -/
def readInt (low high : Int) : Reader Int
  | .number (some (.int value)) =>
    if low ≤ value ∧ value ≤ high then .ok value else .error .mismatch
  | node => .error node.unexpected

/-- Reading a natural number of at most `bits` bits. -/
def readNat (bits : Nat) : Reader Nat := fun node =>
  (readInt 0 (Nat.pow 2 bits - 1 : Nat) node).map Int.toNat

/-- Reading a double; integers count as doubles. -/
def readFloat : Reader Float
  | .number (some value) => .ok value.toFloat
  | node => .error node.unexpected

/-- Reading a value of the type with one element, which is written as `null`. -/
def readNull : Reader Unit
  | .null => .ok ()
  | node => .error node.unexpected

/-! ## (3) Lists and optional values -/

/-- Reading an optional value: `null` is its absence. -/
def readOption {α : Type} (read : Reader α) : Reader (Option α)
  | .null => .ok none
  | node => (read node).map some

/-- Reading the items of an array. -/
def readItems {α : Type} (read : Reader α) : Items → Except Fault (List α)
  | .done .closed => .ok []
  | .done (.broken at' _) => .error at'.kept
  | .more item rest => do
    let first ← read item
    let others ← readItems read rest
    return first :: others

/-- Reading a list. -/
def readList {α : Type} (read : Reader α) : Reader (List α)
  | .array items => readItems read items
  | node => .error node.unexpected

/-! ## (4) Documents -/

/-- **The document of a text.** -/
def document (text : String) : Document := (Position.valueDue []).build (tokens text.toList)

/-- **Reading a text**: its value, and nothing but blanks behind it. -/
def parse {α : Type} (read : Reader α) (text : String) : Except Fault α := do
  let value ← read (document text).root
  if (document text).trailing then .error .malformed else .ok value

/-- **Reading a value** that stands in no text: every fault is one of type. -/
def decode {α : Type} (read : Reader α) (value : Json) : Except Fault α :=
  (read value.toNode).mapError fun _ => .mismatch

/-- Reading the text of a single value, with at most `depth` containers around each other. -/
def parseValue (depth : Nat) (text : String) : Except Fault Json := parse (ofNode depth) text

/-! ## (5) Readers and written values -/

/-- A list is read back if its items are. -/
theorem readList_toNode {α : Type} {read : Reader α} {write : α → Json}
    (items : List α) (h : ∀ a ∈ items, read (write a).toNode = .ok a) :
    readList read (Json.array (items.map write)).toNode = .ok items := by
  show readItems read (toItems (items.map write)) = .ok items
  induction items with
  | nil => rfl
  | cons a rest ih =>
    have first := h a (by simp)
    have others := ih fun b hb => h b (by simp [hb])
    simp [toItems, readItems, first, others, bind, Except.bind, pure, Except.pure]

end Relay.Json
