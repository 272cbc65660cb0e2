import Relay.Json.Value
import Relay.Stage.Data

/-!
# Data of scripts

The types of values that scripts keep at their stages, and the operations on them. Each operation
answers with a value that can be shown.
-/

namespace Relay.Script

/-! ## (1) Values -/

/-- **The types of values.** -/
inductive Kind where
  | int
  | text
  | list
  | flag
  deriving DecidableEq

/-- The values of a type. -/
@[reducible] def Value : Kind → Type
  | .int => Int64
  | .text => String
  | .list => List String
  | .flag => Bool

/-- The type with a given name. -/
def Kind.ofName? : String → Option Kind
  | "int" => some .int
  | "str" => some .text
  | "list" => some .list
  | "flag" => some .flag
  | _ => none

/-- The written form of a value. -/
def writeValue : (kind : Kind) → Value kind → Json
  | .int, n => .int n.toInt
  | .text, s => .text s
  | .list, items => .texts items
  | .flag, b => .bool b

/-- **Reading a value leniently**: anything that is not of the type counts as its empty value. -/
def readValue (json : Json) : (kind : Kind) → Value kind
  | .int =>
    match json with
    | .number (.int n) =>
      if Int64.minValue.toInt ≤ n ∧ n ≤ Int64.maxValue.toInt then Int64.ofInt n else 0
    | _ => 0
  | .text =>
    match json with
    | .text s => s
    | _ => ""
  | .list =>
    match json with
    | .array items => items.map fun
      | .text s => s
      | _ => ""
    | _ => []
  | .flag =>
    match json with
    | .bool b => b
    | _ => false

/-- A value with its texts changed. -/
def mapTexts (f : String → String) : (kind : Kind) → Value kind → Value kind
  | .int, n => n
  | .text, s => f s
  | .list, items => items.map f
  | .flag, b => b

/-- **Changing a value in place** by another one: sums that wrap around at 64 bits, texts and lists
in a row, and the opposite of a flag. -/
def combine : (kind : Kind) → Value kind → Value kind → Value kind
  | .int, old, added => old + added
  | .text, old, added => old ++ added
  | .list, old, added => old ++ added
  | .flag, old, _ => !old

/-! ## (2) Operations -/

/-- **What is done to the data of a stage.** -/
inductive DataVerb where
  | put
  | get
  | modify
  | remove
  | contains
  | display
  deriving DecidableEq

/-- The verb with a given name. -/
def DataVerb.ofName? : String → Option DataVerb
  | "put" => some .put
  | "get" => some .get
  | "mut" => some .modify
  | "remove" => some .remove
  | "contains" => some .contains
  | "key_debug" => some .display
  | _ => none

/-- **An operation** on the data of a stage. -/
structure DataAction where
  verb : DataVerb
  key : DataKey Kind
  value : Value key.kind

/-- The operation with the texts of its value changed. -/
def DataAction.mapTexts (f : String → String) (action : DataAction) : DataAction :=
  { action with value := Script.mapTexts f action.key.kind action.value }

/-- **The answer of an operation**, and the data after it. -/
def DataAction.apply (action : DataAction) (data : StageData Value) : Json × StageData Value :=
  let key := action.key
  let answer := Json.option (writeValue key.kind)
  match action.verb with
  | .put =>
    let (previous, data) := data.put key action.value
    (answer previous, data)
  | .get => (answer (data.get? key), data)
  | .modify =>
    let (value, data) := data.modify key fun old => combine key.kind old action.value
    (answer value, data)
  | .remove =>
    let (removed, data) := data.remove key
    (answer removed, data)
  | .contains => (.bool (data.contains key), data)
  | .display => (.texts [key.shown.render, key.name], data)

/-- **An answer as a text**: nothing for an absent value, texts as they are, lists with commas, and
the written form of everything else. -/
def answerText : Json → String
  | .null => ""
  | .text s => s
  | .array items => ",".intercalate (items.map fun
    | .text s => s
    | _ => "")
  | json => json.render

end Relay.Script
