import Relay.Text.Shown

/-!
# Cutting a text by bytes

A part of a text is given by the distances of its two ends from the start of the text, in bytes, in
the encoding of one to four bytes a character. A part can only be cut out if both ends fall between
two characters; otherwise the cut fails, and it is known which character it would have split. Where
a text is split, its two parts make up the text again.
-/

namespace Relay.Text

/-- **The two ends of a part.** -/
inductive Edge where
  | start
  | stop
  deriving DecidableEq

/-- **An end of a part that falls inside a character**: its distance, the character, and the
distance at which the character starts. -/
structure SplitCharacter where
  edge : Edge
  position : Nat
  char : Char
  charStart : Nat
  deriving DecidableEq

/-- The wording of a failed cut. -/
def SplitCharacter.message (split : SplitCharacter) : String :=
  (match split.edge with
    | .start => "start"
    | .stop => "end") ++
    " byte index " ++ toString split.position ++ " is not a char boundary; it is inside '" ++
    String.ofList (quoteChar split.char) ++ "' (bytes " ++ toString split.charStart ++ ".." ++
    toString (split.charStart + split.char.utf8Size) ++ " of string)"

/-- **A text in two parts**: what lies in front of the distance `position`, and the rest. The text
starts at the distance `passed`; if the position falls inside a character, the failure says which
and where it starts. A position behind the text is its end. -/
def splitAtByte (passed position : Nat) :
    List Char → Except (Char × Nat) (List Char × List Char)
  | [] => .ok ([], [])
  | c :: rest =>
    if position ≤ passed then .ok ([], c :: rest)
    else if position < passed + c.utf8Size then .error (c, passed)
    else
      match splitAtByte (passed + c.utf8Size) position rest with
      | .ok (front, back) => .ok (c :: front, back)
      | .error inside => .error inside

/-- **The part of a text** between two distances. -/
def cut (text : List Char) (start stop : Nat) : Except SplitCharacter (List Char) :=
  match splitAtByte 0 start text with
  | .error (c, at') => .error ⟨.start, start, c, at'⟩
  | .ok (_, back) =>
    match splitAtByte start stop back with
    | .error (c, at') => .error ⟨.stop, stop, c, at'⟩
    | .ok (middle, _) => .ok middle

/-- The number of bytes of a text. -/
def byteLength : List Char → Nat
  | [] => 0
  | c :: rest => c.utf8Size + byteLength rest

/-- The two parts of a text make up the text. -/
theorem append_of_splitAtByte {passed position : Nat} {text front back : List Char}
    (h : splitAtByte passed position text = .ok (front, back)) : front ++ back = text := by
  induction text generalizing passed front back with
  | nil => simp_all [splitAtByte]
  | cons c rest ih =>
    unfold splitAtByte at h
    split at h
    · simp_all
    · split at h
      · simp at h
      · split at h
        · next heq =>
          simp only [Except.ok.injEq, Prod.mk.injEq] at h
          obtain ⟨rfl, rfl⟩ := h
          simp [ih heq]
        · simp at h

/-- A text can be split behind any of its beginnings. -/
theorem splitAtByte_append (passed : Nat) (front back : List Char) :
    splitAtByte passed (passed + byteLength front) (front ++ back) = .ok (front, back) := by
  induction front generalizing passed with
  | nil => cases back <;> simp [splitAtByte, byteLength]
  | cons c rest ih =>
    have size := c.utf8Size_pos
    have tail := ih (passed + c.utf8Size)
    rw [Nat.add_assoc] at tail
    simp only [List.cons_append, splitAtByte, byteLength]
    rw [if_neg (by omega), if_neg (by omega), tail]

end Relay.Text
