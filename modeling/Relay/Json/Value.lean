import Relay.Json.Node
import Relay.Text.Shown

/-!
# JSON values

Values without a text around them: what event payloads are made of and what records are written as.
A value has a written form, a display for developers, and a place among the documents read from
texts, so that a typed reader of documents reads values too.
-/

namespace Relay

/-- **A JSON value.** Members of objects keep their order. -/
inductive Json where
  | null
  | bool (value : Bool)
  | number (value : Json.Number)
  | text (content : String)
  | array (items : List Json)
  | object (members : List (String × Json))
  deriving Inhabited

namespace Json

/-- The value of a natural number. -/
def nat (n : Nat) : Json := .number (.int n)

/-- The value of an integer. -/
def int (n : Int) : Json := .number (.int n)

/-- The value of a list of texts. -/
def texts (items : List String) : Json := .array (items.map .text)

/-- The value of an optional part, `null` if it is absent. -/
def option {α : Type} (value : α → Json) : Option α → Json
  | none => .null
  | some a => value a

/-- The value behind a key of an object. -/
def get? (key : String) : Json → Option Json
  | .object members => members.lookup key
  | _ => none

/-! ## (1) Written form -/

/-- **One character of a written string.** The quote, the backslash and the control characters are
escaped, by a letter where there is one. -/
def writeChar (c : Char) : List Char :=
  if c = '"' then ['\\', '"']
  else if c = '\\' then ['\\', '\\']
  else if c = '\n' then ['\\', 'n']
  else if c = '\r' then ['\\', 'r']
  else if c = '\t' then ['\\', 't']
  else if c = '\x08' then ['\\', 'b']
  else if c = '\x0c' then ['\\', 'f']
  else if c.toNat < 0x20 then ['\\', 'u'] ++ Text.hexFixed 4 c.toNat
  else [c]

/-- A written string. -/
def writeText (content : String) : List Char :=
  '"' :: content.toList.flatMap writeChar ++ ['"']

mutual

/-- **The text of a value**, without blanks. -/
def write : Json → List Char
  | .null => ['n', 'u', 'l', 'l']
  | .bool true => ['t', 'r', 'u', 'e']
  | .bool false => ['f', 'a', 'l', 's', 'e']
  | .number value => value.write
  | .text content => writeText content
  | .array items => '[' :: writeItems items ++ [']']
  | .object members => '\x7b' :: writeMembers members ++ ['\x7d']

/-- The texts of the items of an array, with commas between them. -/
def writeItems : List Json → List Char
  | [] => []
  | [item] => item.write
  | item :: next :: rest => item.write ++ ',' :: writeItems (next :: rest)

/-- The texts of the members of an object, with commas between them. -/
def writeMembers : List (String × Json) → List Char
  | [] => []
  | [(key, value)] => writeText key ++ ':' :: value.write
  | (key, value) :: next :: rest =>
    writeText key ++ ':' :: value.write ++ ',' :: writeMembers (next :: rest)

end

/-- The text of a value. -/
def render (value : Json) : String := String.ofList value.write

/-! ## (2) Display -/

mutual

/-- **The display of a value**; the members of an object in the order of their keys. -/
def shown : Json → Text.Shown
  | .null => .plain "Null"
  | .bool value => .tuple "Bool" [.bool value]
  | .number value => .tuple "Number" [.plain (String.ofList value.write)]
  | .text content => .tuple "String" [.quoted content]
  | .array items => .labelled "Array" (.list (shownItems items))
  | .object members =>
    .labelled "Object" (.table ((shownMembers members).mergeSort fun a b => a.1 ≤ b.1))

/-- The displays of the items of an array. -/
def shownItems : List Json → List Text.Shown
  | [] => []
  | item :: rest => item.shown :: shownItems rest

/-- The displays of the members of an object. -/
def shownMembers : List (String × Json) → List (String × Text.Shown)
  | [] => []
  | (key, value) :: rest => (key, value.shown) :: shownMembers rest

end

/-! ## (3) Values as documents -/

mutual

/-- **A value as it would stand in a text.** -/
def toNode : Json → Node
  | .null => .null
  | .bool value => .bool value
  | .number value => .number (some value)
  | .text content => .text (some content)
  | .array items => .array (toItems items)
  | .object members => .object (toMembers members)

/-- The items of an array as they would stand in a text. -/
def toItems : List Json → Items
  | [] => .done .closed
  | item :: rest => .more item.toNode (toItems rest)

/-- The members of an object as they would stand in a text. -/
def toMembers : List (String × Json) → Members
  | [] => .done .closed
  | (key, value) :: rest => .more (some key) value.toNode (toMembers rest)

end

/-- A member in a list of members; a later one with the same key replaces the earlier one. -/
def insertMember (key : String) (value : Json) (members : List (String × Json)) :
    List (String × Json) :=
  members.filter (·.1 != key) ++ [(key, value)]

mutual

/-- **Keeping a document as a value**, with at most `depth` containers around each other. -/
def ofNode (depth : Nat) : Node → Except Fault Json
  | .null => .ok .null
  | .bool value => .ok (.bool value)
  | .number (some value) => .ok (.number value)
  | .number none => .error .malformed
  | .text (some content) => .ok (.text content)
  | .text none => .error .malformed
  | .array items =>
    if depth = 0 then .error .malformed else (ofItems (depth - 1) items).map .array
  | .object members =>
    if depth = 0 then .error .malformed else (ofMembers (depth - 1) [] members).map .object
  | .broken at' => .error at'.kept

/-- Keeping the items of an array. -/
def ofItems (depth : Nat) : Items → Except Fault (List Json)
  | .done .closed => .ok []
  | .done (.broken at' _) => .error at'.kept
  | .more item rest => do
    let value ← ofNode depth item
    let values ← ofItems depth rest
    return value :: values

/-- Keeping the members of an object behind those in `before`. -/
def ofMembers (depth : Nat) (before : List (String × Json)) :
    Members → Except Fault (List (String × Json))
  | .done .closed => .ok before
  | .done (.broken at' _) => .error at'.kept
  | .more none _ _ => .error .malformed
  | .more (some key) value rest => do
    let value ← ofNode depth value
    ofMembers depth (insertMember key value before) rest

end

end Json

end Relay
