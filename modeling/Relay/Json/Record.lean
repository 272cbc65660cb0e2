import Relay.Json.Reader

/-!
# Records in JSON

A record is written as an object with its fields in order, and read from such an object in any order
of its keys, with keys of its own left out where the field has a value for that case and with
foreign keys passed over; or from an array of its fields in order, which may stop early. The same
description serves for writing and for both ways of reading.
-/

namespace Relay.Json

/-! ## (1) Fields -/

/-- **A field** of a record: how its value is read and written, which value it has where it is left
out, and which values are not written at all. -/
structure Field (α : Type) where
  name : String
  read : Reader α
  write : α → Json
  /-- The value of a field that is left out of an object. -/
  ifMissing : Option α := none
  /-- The value of a field behind the end of an array. -/
  ifBeyond : Option α := none
  /-- The values that an object leaves out. -/
  omits : α → Bool := fun _ => false

/-- **The fields of a record**, in order, each of a type of its own. -/
inductive Fields : List Type → Type 1 where
  | nil : Fields []
  | cons {α : Type} {αs : List Type} (field : Field α) (rest : Fields αs) : Fields (α :: αs)

/-- **The values of a record**, one for each field. -/
def Row : List Type → Type
  | [] => Unit
  | α :: αs => α × Row αs

/-- **A record under way**: the values of the fields that have been met. -/
def Draft : List Type → Type
  | [] => Unit
  | α :: αs => Option α × Draft αs

namespace Fields

/-- The draft in which no field has been met. -/
def blank : {αs : List Type} → Fields αs → Draft αs
  | [], .nil => ()
  | _ :: _, .cons _ rest => (none, rest.blank)

/-- **A member of an object.** A field that has been met before is refused before its value is
looked at; the value of a foreign key is passed over. -/
def accept : {αs : List Type} → Fields αs → String → Node → Draft αs → Except Fault (Draft αs)
  | [], .nil, _, value, draft => value.skip.map fun _ => draft
  | _ :: _, .cons field rest, key, value, (met, others) =>
    if key = field.name then
      if met.isSome then .error .mismatch else (field.read value).map fun a => (some a, others)
    else (rest.accept key value others).map fun others => (met, others)

/-- **The end of an object**: fields that have not been met take their values for that case. -/
def complete : {αs : List Type} → Fields αs → Draft αs → Except Fault (Row αs)
  | [], .nil, _ => .ok ()
  | _ :: _, .cons field rest, (met, others) =>
    match met <|> field.ifMissing with
    | some a => (rest.complete others).map fun row => (a, row)
    | none => .error .mismatch

/-- Reading the members of an object on top of a draft. -/
def readMembers {αs : List Type} (fields : Fields αs) (draft : Draft αs) :
    Members → Except Fault (Row αs)
  | .done .closed => fields.complete draft
  | .done (.broken at' _) => .error at'.kept
  | .more none _ _ => .error .malformed
  | .more (some key) value rest => do
    let draft ← fields.accept key value draft
    fields.readMembers draft rest

/-- **Reading the items of an array**, one for each field. An array that goes on behind the last
field is refused at the comma. -/
def readItems : {αs : List Type} → Fields αs → Items → Except Fault (Row αs)
  | [], .nil, .done .closed => .ok ()
  | [], .nil, .done (.broken at' behindComma) =>
    .error (if behindComma then .malformed else at'.kept)
  | [], .nil, .more _ _ => .error .malformed
  | _ :: _, .cons field rest, .done .closed =>
    match field.ifBeyond with
    | some a => (rest.readItems (.done .closed)).map fun row => (a, row)
    | none => .error .mismatch
  | _ :: _, .cons _ _, .done (.broken at' _) => .error at'.kept
  | _ :: _, .cons field rest, .more item items => do
    let a ← field.read item
    let row ← rest.readItems items
    return (a, row)

/-- **Reading a record** from an object or an array. -/
def read {αs : List Type} (fields : Fields αs) : Reader (Row αs)
  | .object members => fields.readMembers fields.blank members
  | .array items => fields.readItems items
  | node => .error node.unexpected

/-- **The members of a written record**, in the order of its fields. -/
def write : {αs : List Type} → Fields αs → Row αs → List (String × Json)
  | [], .nil, _ => []
  | _ :: _, .cons field rest, (a, others) =>
    if field.omits a then rest.write others else (field.name, field.write a) :: rest.write others

/-- The names of the fields, in order. -/
def names : {αs : List Type} → Fields αs → List String
  | [], .nil => []
  | _ :: _, .cons field rest => field.name :: rest.names

end Fields

/-! ## (2) Records -/

/-- **A record type**: its fields, and the passage between its values and rows. -/
structure Record (τ : Type) where
  types : List Type
  fields : Fields types
  toRow : τ → Row types
  ofRow : Row types → τ
  ofRow_toRow : ∀ t, ofRow (toRow t) = t := by intro t; rfl

namespace Record

variable {τ : Type}

/-- Reading a value of a record type. -/
def read (record : Record τ) : Reader τ := fun node => (record.fields.read node).map record.ofRow

/-- The object of a value of a record type. -/
def write (record : Record τ) (t : τ) : Json := .object (record.fields.write (record.toRow t))

end Record

/-! ## (3) Kinds of fields -/

namespace Field

/-- A field that has to be there. -/
def required {α : Type} (name : String) (read : Reader α) (write : α → Json) : Field α :=
  { name, read, write }

/-- A field that may be left out and then has the value `default`. -/
def defaulted {α : Type} (name : String) (read : Reader α) (write : α → Json) (default : α) :
    Field α :=
  { name, read, write, ifMissing := some default, ifBeyond := some default }

/-- An optional field that is written as `null` when it is absent. -/
def nullable {α : Type} (name : String) (read : Reader α) (write : α → Json) : Field (Option α) :=
  { name, read := readOption read, write := Json.option write, ifMissing := some none }

/-- An optional field that is left out when it is absent. -/
def omittable {α : Type} (name : String) (read : Reader α) (write : α → Json) : Field (Option α) :=
  { name, read := readOption read, write := Json.option write, ifMissing := some none,
    ifBeyond := some none, omits := Option.isNone }

/-- A text that has to be there. -/
def text (name : String) : Field String := required name readText .text

end Field

end Relay.Json
