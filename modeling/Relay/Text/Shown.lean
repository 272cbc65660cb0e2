import Relay.Text.Hex
import Relay.Text.Printable

/-!
# Structured display

The text under which a value is shown to a developer: a tree of names, fields and lists, written on
one line. Texts inside it are quoted, with every unprintable character spelled out, so that the
display of a value is always a printable line.
-/

namespace Relay.Text

/-! ## Quoted text -/

/-- **One character inside quotes.** The quote, the backslash and four control characters have short
escapes; other unprintable characters are written by code point; all else stands for itself. The
single quote needs no escape between double quotes. -/
def quoteChar (c : Char) : List Char :=
  if c = '"' then ['\\', '"']
  else if c = '\\' then ['\\', '\\']
  else if c = '\n' then ['\\', 'n']
  else if c = '\r' then ['\\', 'r']
  else if c = '\t' then ['\\', 't']
  else if c.toNat = 0 then ['\\', '0']
  else if isPrintable c then [c]
  else ['\\', 'u', '\x7b'] ++ hex c.toNat ++ ['\x7d']

/-- **A quoted text.** -/
def quote (text : String) : String :=
  String.ofList ('"' :: text.toList.flatMap quoteChar ++ ['"'])

/-! ## Display trees -/

/-- **What is shown of a value.** -/
inductive Shown where
  /-- A word or a number, as it is. -/
  | plain (text : String)
  /-- A text in quotes. -/
  | quoted (text : String)
  /-- A name with parts in parentheses: `Some(1)`. -/
  | tuple (name : String) (parts : List Shown)
  /-- A name with named fields; `more` says that further fields are left out. -/
  | fields (name : String) (entries : List (String × Shown)) (more : Bool)
  /-- Items in square brackets. -/
  | list (items : List Shown)
  /-- Items in braces. -/
  | set (items : List Shown)
  /-- Quoted keys with their values in braces. -/
  | table (entries : List (String × Shown))
  /-- A name in front of a display, parted by a blank. -/
  | labelled (name : String) (body : Shown)

/-- Texts in order with `, ` between neighbours. -/
def commaSeparated : List String → String
  | [] => ""
  | [text] => text
  | text :: next :: rest => text ++ ", " ++ commaSeparated (next :: rest)

namespace Shown

/-- The display of an optional value. -/
def option {α : Type} (shown : α → Shown) : Option α → Shown
  | none => .plain "None"
  | some a => .tuple "Some" [shown a]

/-- The display of a truth value. -/
def bool (b : Bool) : Shown := .plain (if b then "true" else "false")

/-- The display of a natural number. -/
def nat (n : Nat) : Shown := .plain (toString n)

/-- The display of a list of texts. -/
def texts (items : List String) : Shown := .list (items.map .quoted)

mutual

/-- **The line under which a value is shown.** -/
def render : Shown → String
  | .plain text => text
  | .quoted text => quote text
  | .tuple name parts => name ++ "(" ++ commaSeparated (renderAll parts) ++ ")"
  | .fields name entries more =>
    let inner := renderFields entries ++ (if more then [".."] else [])
    if inner.isEmpty then name else name ++ " \x7b " ++ commaSeparated inner ++ " \x7d"
  | .list items => "[" ++ commaSeparated (renderAll items) ++ "]"
  | .set items => "\x7b" ++ commaSeparated (renderAll items) ++ "\x7d"
  | .table entries => "\x7b" ++ commaSeparated (renderTable entries) ++ "\x7d"
  | .labelled name body => name ++ " " ++ body.render

/-- The displays of all items of a list. -/
def renderAll : List Shown → List String
  | [] => []
  | item :: rest => item.render :: renderAll rest

/-- The displays of named fields, each behind its name. -/
def renderFields : List (String × Shown) → List String
  | [] => []
  | (name, value) :: rest => (name ++ ": " ++ value.render) :: renderFields rest

/-- The displays of table entries, each behind its quoted key. -/
def renderTable : List (String × Shown) → List String
  | [] => []
  | (key, value) :: rest => (quote key ++ ": " ++ value.render) :: renderTable rest

end

end Shown

end Relay.Text
