import Relay.Json.Token
import Relay.Text.Hex

/-!
# Splitting a text into tokens

An automaton over the characters. Each mode says what has been read of the token under way; one step
takes a character, emits the tokens that it completes and gives the next mode. The automaton stops
at the first fault.
-/

namespace Relay.Json

/-! ## (1) Modes -/

/-- **How far a numeral has been read.** -/
inductive NumeralPart where
  | minus
  | zero
  | whole
  | point
  | fraction
  | mark
  | sign
  | exponent
  deriving DecidableEq

/-- **What has been read of the token under way.** Lists of pieces are kept latest first. -/
inductive Mode where
  | between
  /-- The word that `token` stands for, of which `rest` is still due. -/
  | word (rest : List Char) (token : Token)
  | numeral (part : NumeralPart) (read : Numeral)
  | text (pieces : List Piece)
  /-- Behind a backslash. -/
  | escape (pieces : List Piece)
  /-- Inside a numeric escape, with `missing` digits still due. -/
  | codeUnit (pieces : List Piece) (missing code : Nat)
  | stopped

/-- The blanks between tokens. -/
def isSpace (c : Char) : Bool := c = ' ' ∨ c = '\n' ∨ c = '\t' ∨ c = '\r'

/-- Whether `count` more bytes are left, in the encoding of one to four bytes a character. -/
def hasBytes : (count : Nat) → List Char → Bool
  | 0, _ => true
  | _ + 1, [] => false
  | count + 1, c :: rest => hasBytes (count + 1 - c.utf8Size) rest

/-- The token of a string that breaks off with `fault` behind the given pieces. -/
def brokenText (pieces : List Piece) (fault : Fault) : Token :=
  .brokenText (if isUnpairable pieces.reverse then .malformed else fault) fault

/-- The token of a complete string. -/
def completeText (pieces : List Piece) : Token :=
  .text ((assemble? pieces.reverse).map String.ofList)

/-! ## (2) Steps -/

/-- What a character between two tokens starts or is. -/
def Mode.start (c : Char) : List Token × Mode :=
  if isSpace c then ([], .between)
  else if c = '\x7b' then ([.openBrace], .between)
  else if c = '\x7d' then ([.closeBrace], .between)
  else if c = '[' then ([.openBracket], .between)
  else if c = ']' then ([.closeBracket], .between)
  else if c = ':' then ([.colon], .between)
  else if c = ',' then ([.comma], .between)
  else if c = '"' then ([], .text [])
  else if c = 'n' then ([], .word ['u', 'l', 'l'] .null)
  else if c = 't' then ([], .word ['r', 'u', 'e'] (.bool true))
  else if c = 'f' then ([], .word ['a', 'l', 's', 'e'] (.bool false))
  else if c = '-' then ([], .numeral .minus ⟨true, [], [], none⟩)
  else if c = '0' then ([], .numeral .zero ⟨false, [c], [], none⟩)
  else if c.isDigit then ([], .numeral .whole ⟨false, [c], [], none⟩)
  else ([.stray], .stopped)

/-- A fault in a number or a word, which ends the reading. -/
def Mode.halt (fault : Fault) : List Token × Mode := ([.broken fault fault], .stopped)

/-- The end of a numeral in front of the character `c`, which belongs to the next token. -/
def Mode.afterNumeral (read : Numeral) (c : Char) : List Token × Mode :=
  let (tokens, next) := start c
  (.number read :: tokens, next)

/-- A numeral with one more digit in its exponent. -/
def Numeral.pushExponent (read : Numeral) (c : Char) : Numeral :=
  { read with exponent := read.exponent.map fun e => { e with digits := e.digits ++ [c] } }

/-- **One character of a numeral.** Behind a leading zero no digit may follow, and a point and the
mark of an exponent need digits behind them. -/
def Mode.stepNumeral (part : NumeralPart) (read : Numeral) (c : Char) : List Token × Mode :=
  let pushWhole := { read with whole := read.whole ++ [c] }
  let pushFraction := { read with fraction := read.fraction ++ [c] }
  let withExponent (negative : Bool) (digits : List Char) :=
    { read with exponent := some ⟨negative, digits⟩ }
  match part with
  | .minus =>
    if c = '0' then ([], .numeral .zero pushWhole)
    else if c.isDigit then ([], .numeral .whole pushWhole)
    else halt .malformed
  | .zero =>
    if c.isDigit then halt .malformed
    else if c = '.' then ([], .numeral .point read)
    else if c = 'e' ∨ c = 'E' then ([], .numeral .mark (withExponent false []))
    else afterNumeral read c
  | .whole =>
    if c.isDigit then ([], .numeral .whole pushWhole)
    else if c = '.' then ([], .numeral .point read)
    else if c = 'e' ∨ c = 'E' then ([], .numeral .mark (withExponent false []))
    else afterNumeral read c
  | .point => if c.isDigit then ([], .numeral .fraction pushFraction) else halt .malformed
  | .fraction =>
    if c.isDigit then ([], .numeral .fraction pushFraction)
    else if c = 'e' ∨ c = 'E' then ([], .numeral .mark (withExponent false []))
    else afterNumeral read c
  | .mark =>
    if c = '+' then ([], .numeral .sign read)
    else if c = '-' then ([], .numeral .sign (withExponent true []))
    else if c.isDigit then ([], .numeral .exponent (read.pushExponent c))
    else halt .malformed
  | .sign =>
    if c.isDigit then ([], .numeral .exponent (read.pushExponent c)) else halt .malformed
  | .exponent =>
    if c.isDigit then ([], .numeral .exponent (read.pushExponent c)) else afterNumeral read c

/-- The character that a short escape stands for. -/
def shortEscape? (c : Char) : Option Char :=
  if c = '"' ∨ c = '\\' ∨ c = '/' then some c
  else if c = 'b' then some '\x08'
  else if c = 'f' then some '\x0c'
  else if c = 'n' then some '\n'
  else if c = 'r' then some '\r'
  else if c = 't' then some '\t'
  else none

/-- **One character**, with the text behind it in view. A numeric escape that is misspelled within
its last four bytes of text counts as broken off. -/
def Mode.step (mode : Mode) (c : Char) (rest : List Char) : List Token × Mode :=
  match mode with
  | .between => start c
  | .word [] token => let (tokens, next) := start c; (token :: tokens, next)
  | .word (due :: later) token =>
    if c = due then
      if later.isEmpty then ([token], .between) else ([], .word later token)
    else halt .malformed
  | .numeral part read => stepNumeral part read c
  | .text pieces =>
    if c = '"' then ([completeText pieces], .between)
    else if c = '\\' then ([], .escape pieces)
    else if c.toNat < 0x20 then ([brokenText pieces .malformed], .stopped)
    else ([], .text (.char c :: pieces))
  | .escape pieces =>
    if c = 'u' then ([], .codeUnit pieces 4 0)
    else
      match shortEscape? c with
      | some meant => ([], .text (.char meant :: pieces))
      | none => ([brokenText pieces .malformed], .stopped)
  | .codeUnit pieces missing code =>
    match Text.hexValue? c with
    | some digit =>
      let code := code * 16 + digit
      if missing ≤ 1 then ([], .text (.codeUnit code :: pieces))
      else ([], .codeUnit pieces (missing - 1) code)
    | none =>
      let fault := if hasBytes missing (c :: rest) then .malformed else .truncated
      ([brokenText pieces fault], .stopped)
  | .stopped => ([], .stopped)

/-- The token that the end of the text completes or breaks off. A numeral that lacks digits at the
end of the text is cut short for a reader that keeps it, and misspelled for one that passes over
it. -/
def Mode.finish : Mode → List Token
  | .between => []
  | .word [] token => [token]
  | .word (_ :: _) _ => [.broken .truncated .truncated]
  | .numeral part read =>
    match part with
    | .zero | .whole | .fraction | .exponent => [.number read]
    | .minus | .point | .mark | .sign => [.broken .truncated .malformed]
  | .text pieces | .escape pieces | .codeUnit pieces _ _ => [brokenText pieces .truncated]
  | .stopped => []

/-- **The tokens of a text**, from a mode on. -/
def Mode.scan : Mode → List Char → List Token
  | mode, [] => mode.finish
  | mode, c :: rest =>
    let (tokens, next) := mode.step c rest
    tokens ++ next.scan rest

/-- **The tokens of a text.** -/
def tokens (text : List Char) : List Token := Mode.between.scan text

/-- Reading takes one step for each character. -/
theorem Mode.scan_cons (mode : Mode) (c : Char) (rest : List Char) :
    mode.scan (c :: rest) = (mode.step c rest).1 ++ (mode.step c rest).2.scan rest := rfl

/-- Blanks between tokens leave no trace. -/
theorem Mode.scan_space {c : Char} (h : isSpace c) (rest : List Char) :
    Mode.between.scan (c :: rest) = Mode.between.scan rest := by
  simp [scan_cons, step, start, h]

end Relay.Json
