import Relay.Log.Pattern.Escape

/-!
# Classes in brackets

A class lists characters, ranges of them, named classes and further classes in brackets, and may
combine such lists by operators for the intersection and the two differences of sets. Of a class
only its height is kept: how deep lists, operators and brackets are nested in it.
-/

namespace Relay.Log.Pattern

/-! ## (1) Heights -/

/-- **The height of parts side by side**: one more than the highest of them, but a part on its own
adds nothing. -/
def heightAbove : List Nat → Nat
  | [] => 0
  | [height] => height
  | heights => 1 + heights.foldl max 0

/-- **A class that is still open.** -/
structure OpenClass where
  /-- The heights of the members behind the last operator, latest first. -/
  members : List Nat
  /-- The height of what stands in front of that operator. -/
  operand : Option Nat
  /-- Nothing but hyphens has been read, which count as members in this place. -/
  isFresh : Bool
  deriving DecidableEq

namespace OpenClass

/-- A class of which only the bracket has been read. -/
def fresh : OpenClass := ⟨[], none, true⟩

/-- The height of a class without its brackets. -/
def setHeight (cls : OpenClass) : Nat :=
  match cls.operand with
  | none => heightAbove cls.members
  | some height => 1 + max height (heightAbove cls.members)

/-- **The height of a class.** -/
def height (cls : OpenClass) : Nat := 1 + cls.setHeight

/-- A class with one more member. -/
def add (cls : OpenClass) (height : Nat) : OpenClass :=
  { cls with members := height :: cls.members, isFresh := false }

/-- A class behind an operator. -/
def combine (cls : OpenClass) : OpenClass := ⟨[], some cls.setHeight, false⟩

end OpenClass

/-! ## (2) Members -/

/-- The names of the named classes. -/
def classNames : List String :=
  ["alnum", "alpha", "ascii", "blank", "cntrl", "digit", "graph", "lower", "print", "punct",
    "space", "upper", "word", "xdigit"]

/-- A named class at the start of a text, behind its first bracket: whether it is negated, and the
text behind it. -/
def namedClass? (text : List Char) : Option (Bool × List Char) :=
  match text with
  | ':' :: rest =>
    let negated := rest.head? == some '^'
    let name := if negated then rest.drop 1 else rest
    match name.dropWhile (· != ':') with
    | ':' :: ']' :: behind =>
      if classNames.contains (String.ofList (name.takeWhile (· != ':'))) then some (negated, behind)
      else none
    | _ => none
  | _ => none

/-- Whether a named class may stand in a class. -/
def Flags.allowsNamed (flags : Flags) (negated : Bool) : Bool :=
  if flags.unicode then !flags.ignoreCase else !negated

/-- One end of a range, or a member on its own. -/
def readItem (flags : Flags) : List Char → Option (Atom × List Char)
  | [] => none
  | c :: rest => if c = '\\' then readEscape flags rest else some (.literal c false, rest)

/-- **The text behind a member**: a piece that may stand in a class, or a range of characters in
increasing order. A hyphen makes no range in front of the closing bracket or of another hyphen. -/
def readMember (flags : Flags) (text : List Char) : Option (List Char) := do
  let (low, rest) ← readItem flags text
  match flags.skip rest with
  | [] => none
  | c :: behind =>
    let next := flags.peek behind
    if c ≠ '-' ∨ next = some ']' ∨ next = some '-' then
      if low.isMember flags then some (c :: behind) else none
    else do
      let (high, rest) ← readItem flags (flags.skip behind)
      match low, high with
      | .literal first _, .literal last _ =>
        if first ≤ last ∧ low.isMember flags ∧ high.isMember flags then some rest else none
      | _, _ => none

/-! ## (3) Whole classes -/

/-- The text behind the bracket that opens a class, and behind the mark that negates it. Classes of
bytes cannot be negated. -/
def openBracket (flags : Flags) (text : List Char) : Option (List Char) :=
  match flags.skip text with
  | '^' :: rest => if flags.unicode then some rest else none
  | rest => some rest

/-- **The height of a class and the text behind it**, where `cls` has been read of it and `outer`
are the classes around it. Each round takes at least one character, so `fuel` need not exceed the
length of the text. -/
def readClass (flags : Flags) : (fuel : Nat) → OpenClass → (outer : List OpenClass) →
    List Char → Option (Nat × List Char)
  | 0, _, _, _ => none
  | fuel + 1, cls, outer, text =>
    match flags.skip text with
    | [] => none
    | c :: rest =>
      if cls.isFresh ∧ (c = '-' ∨ c = ']' ∧ cls.members = []) then
        if flags.allowsMember c then
          readClass flags fuel { cls.add 0 with isFresh := c = '-' } outer rest
        else none
      else if c = '[' then
        match namedClass? rest with
        | some (negated, behind) =>
          if flags.allowsNamed negated then readClass flags fuel (cls.add 0) outer behind else none
        | none =>
          match openBracket flags rest with
          | some behind => readClass flags fuel .fresh (cls :: outer) behind
          | none => none
      else if c = ']' then
        match outer with
        | [] => some (cls.height, rest)
        | parent :: outer => readClass flags fuel (parent.add cls.height) outer rest
      else if (c = '&' ∨ c = '-' ∨ c = '~') ∧ rest.head? = some c then
        readClass flags fuel cls.combine outer (rest.drop 1)
      else
        match readMember flags (c :: rest) with
        | some behind => readClass flags fuel (cls.add 0) outer behind
        | none => none

/-- The height of the class whose first bracket stands in front of a text, and the text behind. -/
def readBracket (flags : Flags) (text : List Char) : Option (Nat × List Char) := do
  let behind ← openBracket flags text
  readClass flags (text.length + 1) .fresh [] behind

end Relay.Log.Pattern
