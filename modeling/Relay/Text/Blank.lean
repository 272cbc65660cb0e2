/-!
# Blank text

The characters of the Unicode property *White_Space*, texts without the white space at their ends,
and the texts of which nothing is left in this way. A pipeline may not be named by such a text.
-/

namespace Relay.Text

/-- **White space**: the code points with the Unicode property of that name. -/
def isWhiteSpace (c : Char) : Bool :=
  let code := c.toNat
  (0x09 ≤ code && code ≤ 0x0D) || code == 0x20 || code == 0x85 || code == 0xA0 || code == 0x1680 ||
    (0x2000 ≤ code && code ≤ 0x200A) || code == 0x2028 || code == 0x2029 || code == 0x202F ||
    code == 0x205F || code == 0x3000

/-- The text without the white space at its two ends. -/
def trimmed (text : List Char) : List Char :=
  ((text.dropWhile isWhiteSpace).reverse.dropWhile isWhiteSpace).reverse

/-- **Blank texts** are those of which trimming leaves nothing; the empty text is one of them. -/
def isBlank (text : String) : Bool := (trimmed text.toList).isEmpty

/-- Trimming leaves nothing exactly of white space. -/
theorem trimmed_eq_nil_iff {text : List Char} :
    trimmed text = [] ↔ ∀ c ∈ text, isWhiteSpace c = true := by
  rw [trimmed, List.reverse_eq_nil_iff, ← List.all_eq_true]
  constructor
  · intro nothingLeft
    -- What is dropped at the end is white space, and so is what has been dropped in front of it.
    have atEnd := List.any_dropWhile (p := isWhiteSpace)
      (l := (text.dropWhile isWhiteSpace).reverse)
    have inFront := List.any_dropWhile (p := isWhiteSpace) (l := text)
    rw [nothingLeft, List.all_reverse, List.any_nil, eq_comm, Bool.not_eq_false'] at atEnd
    rw [← List.not_all_eq_any_not, atEnd] at inFront
    simpa using inFront
  · intro isWhite
    have inFront : (text ++ []).dropWhile isWhiteSpace = [].dropWhile isWhiteSpace :=
      List.dropWhile_append_of_pos (List.all_eq_true.mp isWhite)
    rw [List.append_nil, List.dropWhile_nil] at inFront
    rw [inFront, List.reverse_nil, List.dropWhile_nil]

/-- A text is blank exactly if no character of it is anything but white space. -/
theorem isBlank_iff {text : String} : isBlank text = true ↔ ∀ c ∈ text.toList, isWhiteSpace c := by
  rw [isBlank, List.isEmpty_iff, trimmed_eq_nil_iff]

end Relay.Text
