import Relay.Log.Pattern.Bracket
import Relay.Text.Alphanumeric

/-!
# Patterns

A condition on a field of a span may ask for a value by a pattern, which is a regular expression.
Here it is only decided which texts are patterns: groups have to be closed and named apart,
repetitions need something to repeat, every piece has to be allowed under the flags in force, and
nothing may be nested too deep. A repetition with a count is none of them, since its closing brace
would end the condition.
-/

namespace Relay.Log.Pattern

/-! ## (1) Groups under way -/

/-- **One of the parts that follow each other**: its height, and whether it can be repeated, which
only a change of flags cannot. -/
structure Part where
  height : Nat
  isRepeatable : Bool
  deriving DecidableEq

/-- **What has been read of a group**: the heights of its finished alternatives, and the parts of
the last one, latest first. -/
structure Alternatives where
  finished : List Nat
  parts : List Part
  deriving DecidableEq

namespace Alternatives

/-- A group of which nothing has been read. -/
def empty : Alternatives := ⟨[], []⟩

/-- The alternatives with the last one finished. -/
def next (group : Alternatives) : Alternatives :=
  ⟨heightAbove (group.parts.map Part.height) :: group.finished, []⟩

/-- **The height of what a group holds.** -/
def height (group : Alternatives) : Nat := heightAbove group.next.finished

/-- A group with one more part. -/
def push (group : Alternatives) (height : Nat) : Alternatives :=
  { group with parts := ⟨height, true⟩ :: group.parts }

/-- A group with its last part repeated, if it has one that can be. -/
def repeatLast? (group : Alternatives) : Option Alternatives :=
  match group.parts with
  | [] => none
  | part :: parts =>
    if part.isRepeatable then some { group with parts := ⟨part.height + 1, true⟩ :: parts }
    else none

end Alternatives

/-- **A place in a pattern**: the flags in force, the names given to groups, what has been read of
the innermost group, and the groups around it, each with the flags that are in force again behind
the inner one. -/
structure Place where
  flags : Flags
  names : List (List Char)
  group : Alternatives
  outer : List (Flags × Alternatives)

/-- The place in front of a pattern. -/
def Place.start : Place := ⟨.initial, [], .empty, []⟩

/-! ## (2) Openings of groups -/

/-- The letters of the flags. -/
def flagLetters : List Char := ['i', 'm', 's', 'U', 'u', 'R', 'x']

/-- A flag behind a change that turns on the letters `on` and turns off the letters `off`. -/
def changed (on off : List Char) (letter : Char) (before : Bool) : Bool :=
  on.contains letter || before && !off.contains letter

/-- The flags behind a change. Letters behind a hyphen are turned off; no letter is named twice, the
hyphen stands once at most, and something stands behind it. -/
def Flags.change (flags : Flags) (letters : List Char) : Option Flags :=
  if letters.all (fun c => c = '-' || flagLetters.contains c) ∧ letters.Nodup ∧
      letters.getLast? ≠ some '-' then
    let on := letters.takeWhile (· != '-')
    let off := letters.dropWhile (· != '-')
    some ⟨changed on off 'i' flags.ignoreCase, changed on off 'u' flags.unicode,
      changed on off 'x' flags.spaced⟩
  else none

/-- **Whether a group may have a name**: a letter or an underscore, and behind it also digits,
points and square brackets. -/
def isGroupName : List Char → Bool
  | [] => false
  | first :: rest =>
    (first = '_' || Text.isAlphabetic first) &&
      rest.all fun c => ['_', '.', '[', ']'].contains c || Text.isAlphanumeric c

/-- The place inside a new group. -/
def Place.enter (place : Place) (flags : Flags) : Place :=
  { place with flags, group := .empty, outer := (place.flags, place.group) :: place.outer }

/-- Behind the opening of a group with a name. -/
def Place.enterNamed (place : Place) (text : List Char) : Option (Place × List Char) :=
  let name := text.takeWhile (· != '>')
  match text.dropWhile (· != '>') with
  | [] => none
  | _ :: rest =>
    if isGroupName name ∧ name ∉ place.names then
      some ({ place with names := name :: place.names }.enter place.flags, rest)
    else none

/-- Behind a change of flags, which holds for the group that it opens or for the rest of the group
that it stands in. -/
def Place.enterFlagged (place : Place) (text : List Char) : Option (Place × List Char) :=
  let letters := text.takeWhile fun c => c != ':' && c != ')'
  match text.dropWhile fun c => c != ':' && c != ')' with
  | [] => none
  | c :: rest =>
    match place.flags.change letters with
    | none => none
    | some flags =>
      if c = ':' then some (place.enter flags, rest)
      else if letters.isEmpty then none
      else
        let group := { place.group with parts := ⟨0, false⟩ :: place.group.parts }
        some ({ place with flags, group }, rest)

/-- Behind the parenthesis that opens a group. -/
def Place.openGroup (place : Place) (text : List Char) : Option (Place × List Char) :=
  match place.flags.skip text with
  | '?' :: 'P' :: '<' :: rest | '?' :: '<' :: rest => place.enterNamed rest
  | '?' :: rest => place.enterFlagged rest
  | rest => some (place.enter place.flags, rest)

/-! ## (3) Steps -/

/-- The place behind a part. -/
def Place.push (place : Place) (height : Nat) : Place :=
  { place with group := place.group.push height }

/-- The place behind a piece that has to be allowed there. -/
def Place.pushAtom (place : Place) (atom : Atom) (rest : List Char) : Option (Place × List Char) :=
  if atom.isAllowed place.flags then some (place.push 0, rest) else none

/-- **The place behind the character `c` and what belongs to it**, with the text behind that. -/
def Place.step (place : Place) (c : Char) (rest : List Char) : Option (Place × List Char) :=
  match c with
  | '(' => place.openGroup rest
  | ')' =>
    match place.outer with
    | [] => none
    | (flags, group) :: outer =>
      some ({ place with flags, group := group.push (1 + place.group.height), outer }, rest)
  | '|' => some ({ place with group := place.group.next }, rest)
  | '[' => (readBracket place.flags rest).map fun (height, rest) => (place.push height, rest)
  | '?' | '*' | '+' =>
    place.group.repeatLast?.map fun group =>
      ({ place with group }, if rest.head? = some '?' then rest.drop 1 else rest)
  | '\x7b' => none
  | '.' => if place.flags.unicode then some (place.push 0, rest) else none
  | '^' | '$' => place.pushAtom .anchor rest
  | '\\' =>
    match readEscape place.flags rest with
    | some (atom, rest) => place.pushAtom atom rest
    | none => none
  | c => place.pushAtom (.literal c false) rest

/-- The place behind a whole text. Each step takes at least one character, so `fuel` need not exceed
the length of the text. -/
def Place.run : (fuel : Nat) → Place → List Char → Option Place
  | 0, _, _ => none
  | fuel + 1, place, text =>
    match place.flags.skip text with
    | [] => some place
    | c :: rest =>
      match place.step c rest with
      | some (place, rest) => place.run fuel rest
      | none => none

/-- The greatest height of a pattern. -/
def heightLimit : Nat := 250

/-- **Whether a text is a pattern.** -/
def isPattern (text : List Char) : Bool :=
  match Place.start.run (text.length + 1) text with
  | some place => place.outer.isEmpty && place.group.height ≤ heightLimit
  | none => false

end Relay.Log.Pattern
