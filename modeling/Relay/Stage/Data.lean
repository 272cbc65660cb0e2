import Relay.Text.Shown

/-!
# Data of a stage

What a processor keeps at its stage between its callbacks: values of several types under names. A
name holds one value at a time, whatever its type; to a key of another type the value is invisible.
-/

namespace Relay

/-- **A key**: a name together with the type of value it stands for. -/
structure DataKey (Kind : Type) where
  name : String
  kind : Kind
  deriving DecidableEq

/-- **A value together with its type.** -/
structure Stored {Kind : Type} (Value : Kind → Type) where
  kind : Kind
  value : Value kind

/-- The value, if it is of the given type. -/
def Stored.as? {Kind : Type} [DecidableEq Kind] {Value : Kind → Type} (kind : Kind)
    (stored : Stored Value) : Option (Value kind) :=
  if h : stored.kind = kind then some (h ▸ stored.value) else none

/-- A value is of its own type. -/
@[simp] theorem Stored.as?_self {Kind : Type} [DecidableEq Kind] {Value : Kind → Type} (kind : Kind)
    (value : Value kind) : (Stored.mk kind value).as? kind = some value := by
  simp [Stored.as?]

/-- **The data of a stage**: at most one value under each name. -/
structure StageData {Kind : Type} (Value : Kind → Type) where
  entries : List (String × Stored Value)
  distinct : (entries.map Prod.fst).Nodup

namespace StageData

variable {Kind : Type} {Value : Kind → Type}

/-! ## (1) Names -/

/-- The data of a stage that keeps nothing. -/
def empty : StageData Value := ⟨[], List.nodup_nil⟩

instance : Inhabited (StageData Value) := ⟨empty⟩

/-- **What is kept under a name.** -/
def stored? (data : StageData Value) (name : String) : Option (Stored Value) :=
  (data.entries.find? (·.1 = name)).map Prod.snd

/-- The number of names in use. -/
def size (data : StageData Value) : Nat := data.entries.length

/-- Whether no name is in use. -/
def isEmpty (data : StageData Value) : Bool := data.entries.isEmpty

/-- The names in use, in alphabetical order. -/
def names (data : StageData Value) : List String :=
  (data.entries.map Prod.fst).mergeSort fun a b => a ≤ b

/-- The data without whatever is kept under a name. -/
def erase (data : StageData Value) (name : String) : StageData Value :=
  ⟨data.entries.filter (·.1 ≠ name),
    data.distinct.sublist (List.filter_sublist.map Prod.fst)⟩

/-- The data with a value under a name, in place of any earlier one. -/
def insert (data : StageData Value) (name : String) (stored : Stored Value) : StageData Value where
  entries := (name, stored) :: (data.erase name).entries
  distinct := by
    refine List.nodup_cons.mpr ⟨?_, (data.erase name).distinct⟩
    simp [erase]

/-- Nothing is kept at first. -/
@[simp] theorem stored?_empty (name : String) : (empty : StageData Value).stored? name = none := rfl

/-- A name holds what was put under it last. -/
@[simp] theorem stored?_insert_self (data : StageData Value) (name : String)
    (stored : Stored Value) : (data.insert name stored).stored? name = some stored := by
  simp [stored?, insert]

/-- A name that was erased holds nothing. -/
@[simp] theorem stored?_erase_self (data : StageData Value) (name : String) :
    (data.erase name).stored? name = none := by
  simp [stored?, erase]

/-- Erasing a name leaves the others as they are. -/
theorem stored?_erase_of_ne (data : StageData Value) {name other : String} (h : other ≠ name) :
    (data.erase name).stored? other = data.stored? other := by
  simp only [stored?, erase, List.find?_filter]
  congr 2
  funext entry
  by_cases found : entry.1 = other <;> simp [found, h]

/-- Putting a value under a name leaves the others as they are. -/
theorem stored?_insert_of_ne (data : StageData Value) {name other : String} (stored : Stored Value)
    (h : other ≠ name) : (data.insert name stored).stored? other = data.stored? other := by
  rw [← stored?_erase_of_ne data h]
  simp [stored?, insert, h.symm]

/-! ## (2) Keys -/

variable [DecidableEq Kind]

/-- **The value of a key**: what is kept under its name, if it is of its type. -/
def get? (data : StageData Value) (key : DataKey Kind) : Option (Value key.kind) :=
  (data.stored? key.name).bind (·.as? key.kind)

/-- Whether a key has a value. -/
def contains (data : StageData Value) (key : DataKey Kind) : Bool := (data.get? key).isSome

/-- **Putting a value** under a key; the answer is the value that the key had before. -/
def put (data : StageData Value) (key : DataKey Kind) (value : Value key.kind) :
    Option (Value key.kind) × StageData Value :=
  (data.get? key, data.insert key.name ⟨key.kind, value⟩)

/-- **Changing the value** of a key, if it has one; the answer is the new value. -/
def modify (data : StageData Value) (key : DataKey Kind) (f : Value key.kind → Value key.kind) :
    Option (Value key.kind) × StageData Value :=
  match data.get? key with
  | some value => (some (f value), data.insert key.name ⟨key.kind, f value⟩)
  | none => (none, data)

/-- **Removing the value** of a key, if it has one; the answer is that value. -/
def remove (data : StageData Value) (key : DataKey Kind) :
    Option (Value key.kind) × StageData Value :=
  match data.get? key with
  | some value => (some value, data.erase key.name)
  | none => (none, data)

/-- A key has the value that was put under it last. -/
@[simp] theorem get?_put_self (data : StageData Value) (key : DataKey Kind)
    (value : Value key.kind) : (data.put key value).2.get? key = some value := by
  simp [get?, put]

/-- A key without a value cannot be changed. -/
theorem modify_of_get?_eq_none {data : StageData Value} {key : DataKey Kind}
    (h : data.get? key = none) (f : Value key.kind → Value key.kind) :
    data.modify key f = (none, data) := by
  simp [modify, h]

/-- A key without a value cannot be removed. -/
theorem remove_of_get?_eq_none {data : StageData Value} {key : DataKey Kind}
    (h : data.get? key = none) : data.remove key = (none, data) := by
  simp [remove, h]

/-! ## (3) Display -/

open Relay.Text in
/-- The display of data: the names in use. -/
def shown (data : StageData Value) : Shown :=
  .fields "StageData" [("keys", .texts data.names)] false

end StageData

open Relay.Text in
/-- The display of a key: its name. -/
def DataKey.shown {Kind : Type} (key : DataKey Kind) : Shown := .tuple "DataKey" [.quoted key.name]

end Relay
