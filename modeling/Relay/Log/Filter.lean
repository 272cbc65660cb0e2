import Relay.Log.Level
import Relay.Log.Pattern
import Relay.Text.Cut

/-!
# Filter directives

A filter is a list of directives with commas between them. A directive is a level, or a target with
a level behind an equals sign, or a target alone, which lets everything of that target through. A
target may name a span in brackets, with a condition on a field of the span in braces: that the
field is there, or that it has a value, given as a number or by a pattern.

The marks between the parts of a directive are found in its text without the white space at its
ends, while the parts are cut out of its whole text at the distances of these marks. White space in
front of a directive thus shifts its parts against the marks.
-/

namespace Relay.Log

/-- **Why a text is no filter.** -/
inductive FilterFault where
  /-- A directive is misspelled. -/
  | directive
  /-- A part of a directive cannot be cut out. -/
  | cut (split : Text.SplitCharacter)
  deriving DecidableEq

/-! ## (1) Levels and values -/

/-- A text without the sign that it may start with, one of the given ones. -/
def withoutSign (signs : List Char) : List Char → List Char
  | [] => []
  | c :: rest => if signs.contains c then rest else c :: rest

/-- Whether a text is a number of digits, at least one. -/
def isDigits (text : List Char) : Bool := !text.isEmpty && text.all Char.isDigit

/-- **Whether a text is a level**: one of the five, `off`, or a number from 0 to 5. -/
def isLevelWord (word : List Char) : Bool :=
  let upper := String.ofList (word.map Char.toUpper)
  let digits := withoutSign ['+'] word
  (Level.ofName? upper).isSome || upper == "OFF" ||
    isDigits digits && Nat.ofDigitChars 10 digits 0 ≤ 5

/-- Whether a text is nothing, or the exponent of a number. -/
def isExponent : List Char → Bool
  | [] => true
  | c :: rest => (c = 'e' || c = 'E') && isDigits (withoutSign ['+', '-'] rest)

/-- Whether a text is a number without a sign: digits with a point among them or at an end, and an
exponent. -/
def isDecimal (text : List Char) : Bool :=
  let rest := text.dropWhile Char.isDigit
  let fraction := if rest.head? = some '.' then rest.drop 1 else []
  let behind := if rest.head? = some '.' then fraction.dropWhile Char.isDigit else rest
  ((text.head?.any Char.isDigit) || fraction.head?.any Char.isDigit) && isExponent behind

/-- **Whether a text is a number**, an infinity or no number at all included. -/
def isNumber (text : List Char) : Bool :=
  let size := withoutSign ['+', '-'] text
  ["inf", "infinity", "nan"].contains (String.ofList (size.map Char.toLower)) || isDecimal size

/-- **Whether a text is a condition on a field**: its name, or its name and, behind an equals sign,
its value. What stands behind a second equals sign does not matter. -/
def isCondition (text : List Char) : Bool :=
  match text.dropWhile (· != '=') with
  | [] => !text.isEmpty
  | _ :: rest =>
    let value := rest.takeWhile (· != '=')
    isNumber value || Pattern.isPattern value

/-! ## (2) Directives -/

/-- **How far a directive has been read**: the part under way and the distance where it starts. -/
inductive DirectivePart where
  | start
  | target
  | span (first : Nat)
  | field (first : Nat)
  | behindField
  | behindSpan
  | level (first : Nat)
  deriving DecidableEq

/-- Whether a character may begin a target or a level. -/
def beginsTarget (c : Char) : Bool :=
  c == '-' || c == ':' || c == '_' || Text.isAlphanumeric c

/-- The part of a directive between two distances. -/
def partBetween (text : List Char) (start stop : Nat) : Except FilterFault (List Char) :=
  (Text.cut text start stop).mapError .cut

/-- **One character of a directive**, at the distance `here`. A part is cut out at the mark behind
it. -/
def DirectivePart.step (text : List Char) (here : Nat) (c : Char) :
    DirectivePart → Except FilterFault DirectivePart
  | .start =>
    if c = '[' then .ok (.span (here + 1))
    else if beginsTarget c then .ok .target
    else .error .directive
  | .target =>
    if c = '=' then (partBetween text 0 here).map fun _ => .level (here + 1)
    else if c = '[' then (partBetween text 0 here).map fun _ => .span (here + 1)
    else .ok .target
  | .span first =>
    if c = ']' then (partBetween text first here).map fun _ => .behindSpan
    else if c = '\x7b' then (partBetween text first here).map fun _ => .field (here + 1)
    else .ok (.span first)
  | .field first =>
    if c = '\x7d' then do
      if isCondition (← partBetween text first here) then .ok .behindField else .error .directive
    else .ok (.field first)
  | .behindField => if c = ']' then .ok .behindSpan else .error .directive
  | .behindSpan => if c = '=' then .ok (.level (here + 1)) else .error .directive
  | .level first => .ok (.level first)

/-- Whether a directive may end here. A level may be left out behind its equals sign. -/
def DirectivePart.finish (text : List Char) : DirectivePart → Except FilterFault Unit
  | .target | .behindSpan => .ok ()
  | .level first => do
    let word ← partBetween text first (Text.byteLength text)
    if word.isEmpty || isLevelWord word then .ok () else .error .directive
  | .start | .span _ | .field _ | .behindField => .error .directive

/-- The part of the directive `text` that is under way behind some of its characters. -/
def DirectivePart.read (text : List Char) :
    (here : Nat) → DirectivePart → List Char → Except FilterFault DirectivePart
  | _, part, [] => .ok part
  | here, part, c :: rest => do
    let next ← part.step text here c
    next.read text (here + c.utf8Size) rest

/-- **Checking a directive.** -/
def checkDirective (text : List Char) : Except FilterFault Unit := do
  let part ← DirectivePart.start.read text 0 (Text.trimmed text)
  part.finish text

/-! ## (3) Filters -/

/-- The parts of a text between commas. -/
def betweenCommas : List Char → List (List Char)
  | [] => [[]]
  | c :: rest =>
    match betweenCommas rest with
    | [] => [[c]]
    | part :: parts => if c = ',' then [] :: part :: parts else (c :: part) :: parts

/-- Checking directives one after the other; nothing between two commas is no directive. -/
def checkDirectives : List (List Char) → Except FilterFault Unit
  | [] => .ok ()
  | text :: rest => do
    if !text.isEmpty then checkDirective text
    checkDirectives rest

/-- **Checking a filter**: the first directive that is none decides. -/
def checkFilter (text : String) : Except FilterFault Unit :=
  checkDirectives (betweenCommas text.toList)

/-- White space alone is no directive. -/
theorem checkDirective_of_isWhiteSpace {text : List Char}
    (isWhite : ∀ c ∈ text, Text.isWhiteSpace c = true) :
    checkDirective text = .error .directive := by
  have nothingLeft := Text.trimmed_eq_nil_iff.mpr isWhite
  simp [checkDirective, nothingLeft, DirectivePart.read, DirectivePart.finish, bind, Except.bind]

end Relay.Log
