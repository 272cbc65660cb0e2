import Relay.Json.Reader

/-!
# Variants in JSON

A value of a type with several forms is written as the name of its form, or as an object with that
name as its only key and the contents of the form behind it. A form without contents may also be
written as such an object, with `null` for its contents.
-/

namespace Relay.Json

/-- **A form** of a type: its name, and its value or the reader of its contents. -/
inductive Form (τ : Type) where
  | plain (name : String) (value : τ)
  | carrying (name : String) (read : Reader τ)

namespace Form

variable {τ : Type}

/-- The name of a form. -/
def name : Form τ → String
  | .plain name _ => name
  | .carrying name _ => name

/-- The value of a form that is written as its name alone. -/
def alone : Form τ → Except Fault τ
  | .plain _ value => .ok value
  | .carrying _ _ => .error .mismatch

/-- Reading the contents of a form. -/
def contents : Form τ → Reader τ
  | .plain _ value => fun node => (readNull node).map fun _ => value
  | .carrying _ read => read

/-- The form with a given name. -/
def find (forms : List (Form τ)) (name : String) : Except Fault (Form τ) :=
  match forms.find? (·.name = name) with
  | some form => .ok form
  | none => .error .mismatch

/-- The end of an object that has one member already. -/
def endOfObject : Members → Except Fault Unit
  | .done .closed => .ok ()
  | .done (.broken at' behindComma) => .error (if behindComma then .malformed else at'.kept)
  | .more _ _ _ => .error .malformed

/-- Reading an object with the name of a form as its only key. -/
def readMembers (forms : List (Form τ)) : Members → Except Fault τ
  | .done .closed => .error .malformed
  | .done (.broken at' _) => .error at'.named
  | .more none _ _ => .error .malformed
  | .more (some name) value rest => do
    let form ← find forms name
    let result ← form.contents value
    endOfObject rest
    return result

/-- **Reading a value with several forms.** Anything but a string or an object is refused at its
first character. -/
def read (forms : List (Form τ)) : Reader τ
  | .text (some name) => do (← find forms name).alone
  | .object members => readMembers forms members
  | .broken at' => .error at'.named
  | .text none | .null | .bool _ | .number _ | .array _ => .error .malformed

end Form

end Relay.Json
