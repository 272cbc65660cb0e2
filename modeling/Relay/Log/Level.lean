/-!
# Levels of severity

A log is cut off at a level: it holds what is at that level or more severe.
-/

namespace Relay.Log

/-- **A level of severity**, from the most to the least severe. -/
inductive Level where
  | error
  | warn
  | info
  | debug
  | trace
  deriving DecidableEq, Repr, Inhabited

namespace Level

/-- The name of a level. -/
def name : Level → String
  | error => "ERROR"
  | warn => "WARN"
  | info => "INFO"
  | debug => "DEBUG"
  | trace => "TRACE"

/-- The place of a level, counted from the most severe one. -/
def rank : Level → Nat
  | error => 1
  | warn => 2
  | info => 3
  | debug => 4
  | trace => 5

/-- **Whether a log cut off at `threshold` holds what is at `level`.** -/
def isEnabled (level threshold : Level) : Bool := level.rank ≤ threshold.rank

/-- The level with a given name, in either case of its letters. -/
def ofName? (name : String) : Option Level :=
  [error, warn, info, debug, trace].find? fun level =>
    level.name.toList == name.toList.map Char.toUpper

end Level

end Relay.Log
