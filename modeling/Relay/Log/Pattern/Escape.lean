import Relay.Text.Blank
import Relay.Text.Hex

/-!
# Characters and escapes of a pattern

What a pattern is made of below its brackets: single characters, escapes behind a backslash, and the
flags that say how they are meant. Patterns are matched on bytes and without tables of the kinds and
cases of characters. Hence two rules say what may stand in a pattern. While characters count as
those of Unicode, there are no shorthand classes and no word boundaries, and case cannot be ignored.
While they count as bytes, nothing may match a part of a character.
-/

namespace Relay.Log.Pattern

/-! ## (1) Flags and spacing -/

/-- **The flags in force** at a place of a pattern, as far as they decide what may stand there. -/
structure Flags where
  /-- Case is ignored. -/
  ignoreCase : Bool
  /-- Characters count as those of Unicode, and not as bytes. -/
  unicode : Bool
  /-- White space and comments are passed over. -/
  spaced : Bool
  deriving DecidableEq

/-- The flags at the start of a pattern. -/
def Flags.initial : Flags := ⟨false, true, false⟩

/-- A text without the white space and the comments that it starts with. A comment goes from a
number sign to the end of its line. -/
def skipSpacing : (inComment : Bool) → List Char → List Char
  | _, [] => []
  | true, c :: rest => skipSpacing (c != '\n') rest
  | false, c :: rest =>
    if Text.isWhiteSpace c then skipSpacing false rest
    else if c = '#' then skipSpacing true rest
    else c :: rest

/-- The text from its first character that is not passed over. -/
def Flags.skip (flags : Flags) (text : List Char) : List Char :=
  if flags.spaced then skipSpacing false text else text

/-- The first character that is neither white space nor the number sign of a comment. -/
def peekSpaced : (inComment : Bool) → List Char → Option Char
  | _, [] => none
  | inComment, c :: rest =>
    if Text.isWhiteSpace c then peekSpaced inComment rest
    else if c = '#' ∧ inComment = false then peekSpaced true rest
    else some c

/-- The next character of a text. -/
def Flags.peek (flags : Flags) (text : List Char) : Option Char :=
  if flags.spaced then peekSpaced false text else text.head?

/-! ## (2) Escapes -/

/-- **The smallest pieces of a pattern.** -/
inductive Atom where
  /-- A character; `isByte` if it is written by two hexadecimal digits. -/
  | literal (char : Char) (isByte : Bool)
  /-- A class with a letter of its own: digits, white space, or the characters of words. -/
  | shorthand (negated : Bool)
  /-- The start or the end of a text or a line. -/
  | anchor
  /-- The start or the end of a word. -/
  | wordBoundary
  deriving DecidableEq

/-- The number with the given count of hexadecimal digits, at the start of a text. -/
def readCode (flags : Flags) : (count code : Nat) → List Char → Option (Nat × List Char)
  | 0, code, text => some (code, text)
  | count + 1, code, text =>
    match flags.skip text with
    | [] => none
    | c :: rest =>
      match Text.hexValue? c with
      | some digit => readCode flags count (code * 16 + digit) rest
      | none => none

/-- The character whose code is written with the given count of digits. -/
def readCoded (flags : Flags) (count : Nat) (text : List Char) : Option (Atom × List Char) :=
  match readCode flags count 0 text with
  | some (code, rest) =>
    if code.isValidChar then some (.literal (Char.ofNat code) (count == 2), rest) else none
  | none => none

/-- The pieces that are written with a letter or an angle bracket behind the backslash. -/
def lettered? (c : Char) : Option Atom :=
  match c with
  | 'd' | 's' | 'w' => some (.shorthand false)
  | 'D' | 'S' | 'W' => some (.shorthand true)
  | 'A' | 'z' => some .anchor
  | 'b' | 'B' | '<' | '>' => some .wordBoundary
  | 'a' => some (.literal '\x07' false)
  | 'f' => some (.literal '\x0c' false)
  | 'n' => some (.literal '\n' false)
  | 'r' => some (.literal '\r' false)
  | 't' => some (.literal '\t' false)
  | 'v' => some (.literal '\x0b' false)
  | _ => none

/-- **The piece behind a backslash.** Besides codes and letters with a meaning, every ASCII
character that is neither letter nor digit may be escaped and stands for itself. -/
def readEscape (flags : Flags) : List Char → Option (Atom × List Char)
  | [] => none
  | c :: rest =>
    if c = 'x' then readCoded flags 2 rest
    else if c = 'u' then readCoded flags 4 rest
    else if c = 'U' then readCoded flags 8 rest
    else
      match lettered? c with
      | some atom => some (atom, rest)
      | none =>
        if c.toNat < 0x80 ∧ c.isAlphanum = false then some (.literal c false, rest) else none

/-! ## (3) What may stand where -/

/-- **Whether a piece may stand outside the brackets of a class.** Of bytes, the negation of a class
matches parts of characters. -/
def Atom.isAllowed (flags : Flags) : Atom → Bool
  | .literal char isByte =>
    if flags.unicode then !flags.ignoreCase else !isByte || char.toNat < 0x80
  | .shorthand negated => !flags.unicode && !negated
  | .anchor => true
  | .wordBoundary => !flags.unicode

/-- Whether a class may hold a character. -/
def Flags.allowsMember (flags : Flags) (c : Char) : Bool :=
  if flags.unicode then !flags.ignoreCase else c.toNat < 0x80

/-- **Whether a piece may stand inside the brackets of a class.** -/
def Atom.isMember (flags : Flags) : Atom → Bool
  | .literal char _ => flags.allowsMember char
  | .shorthand negated => !flags.unicode && !negated
  | .anchor | .wordBoundary => false

end Relay.Log.Pattern
