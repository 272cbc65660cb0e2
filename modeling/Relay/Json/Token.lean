import Relay.Json.Number

/-!
# JSON tokens

The pieces a JSON text falls into, and the three causes for which reading one fails. A text that
breaks off or is misspelled still has tokens: the fault is the last of them, so that whoever reads
from left to right meets it where it stands.
-/

namespace Relay.Json

/-- **Why a text is refused.** -/
inductive Fault where
  /-- The text ends too early. -/
  | truncated
  /-- The text is not JSON, or goes on where it should end. -/
  | malformed
  /-- The text is JSON, but not of the value that was asked for. -/
  | mismatch
  deriving DecidableEq, Repr, Inhabited

/-- The short name of a fault. -/
def Fault.word : Fault → String
  | .truncated => "eof"
  | .malformed => "syntax"
  | .mismatch => "data"

/-! ## (1) Strings -/

/-- **A piece of a string**: a character that stands for itself or has a short escape, or a code
unit of sixteen bits written by number. -/
inductive Piece where
  | char (c : Char)
  | codeUnit (code : Nat)
  deriving DecidableEq

/-- The first halves of surrogate pairs. -/
def isHighSurrogate (code : Nat) : Bool := 0xD800 ≤ code && code ≤ 0xDBFF

/-- The second halves of surrogate pairs. -/
def isLowSurrogate (code : Nat) : Bool := 0xDC00 ≤ code && code ≤ 0xDFFF

/-- The character of a surrogate pair. -/
def joinSurrogates (high low : Nat) : Char :=
  Char.ofNat (0x10000 + (high - 0xD800) * 0x400 + (low - 0xDC00))

/-- **The characters of a string**; `none` if it has a surrogate without its partner. -/
def assemble? : List Piece → Option (List Char)
  | [] => some []
  | .char c :: rest => (assemble? rest).map (c :: ·)
  | .codeUnit code :: rest =>
    if isHighSurrogate code then
      match rest with
      | .codeUnit low :: rest =>
        if isLowSurrogate low then (assemble? rest).map (joinSurrogates code low :: ·) else none
      | _ => none
    else if isLowSurrogate code then none
    else (assemble? rest).map (Char.ofNat code :: ·)

/-- Whether pieces hold a surrogate whose partner cannot follow any more. -/
def isUnpairable : List Piece → Bool
  | [] => false
  | .char _ :: rest => isUnpairable rest
  | .codeUnit code :: rest =>
    if isHighSurrogate code then
      match rest with
      | [] => false
      | .codeUnit low :: rest => if isLowSurrogate low then isUnpairable rest else true
      | .char _ :: _ => true
    else if isLowSurrogate code then true
    else isUnpairable rest

/-! ## (2) Tokens -/

/-- **A token.** -/
inductive Token where
  | openBrace
  | closeBrace
  | openBracket
  | closeBracket
  | colon
  | comma
  | null
  | bool (value : Bool)
  | number (numeral : Numeral)
  /-- A complete string; without content if it has a surrogate without its partner. -/
  | text (content : Option String)
  /-- A string that breaks off: the fault met by a reader that keeps it, and the one met by a
  reader that passes over it. -/
  | brokenText (kept skipped : Fault)
  /-- A number or a word that breaks off or is misspelled, with the same two faults. -/
  | broken (kept skipped : Fault)
  /-- A character that begins no token. -/
  | stray
  deriving DecidableEq

end Relay.Json
