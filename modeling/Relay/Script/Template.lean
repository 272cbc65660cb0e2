/-!
# Templates

Texts with places for what a script knows: its message, its scratch text, the name of its processor
and the number of its stage. All places are filled in one pass, so that what is filled in is never
looked at again.
-/

namespace Relay.Script

/-- **What the places of a template are filled with.** -/
structure Filling where
  message : String
  scratch : String
  name : String
  index : Nat

/-- The characters of a template with its places filled. -/
def fill (filling : Filling) : List Char → List Char
  | [] => []
  | '\x7b' :: 'm' :: '\x7d' :: rest => filling.message.toList ++ fill filling rest
  | '\x7b' :: 'v' :: '\x7d' :: rest => filling.scratch.toList ++ fill filling rest
  | '\x7b' :: 'n' :: 'a' :: 'm' :: 'e' :: '\x7d' :: rest => filling.name.toList ++ fill filling rest
  | '\x7b' :: 'i' :: '\x7d' :: rest => Nat.toDigits 10 filling.index ++ fill filling rest
  | c :: rest => c :: fill filling rest

/-- **The text of a template.** -/
def Filling.apply (filling : Filling) (template : String) : String :=
  String.ofList (fill filling template.toList)

end Relay.Script
