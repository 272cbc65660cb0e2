import Relay.Json.Reader

/-!
# Texts that spell values

A text spells a value if a reader that is due to meet a value there meets that one, whatever stands
around it. Since this says what happens in front of any further text, and inside any open
containers, values that are spelled can be put together: items and members with commas between them
spell the items and members of arrays and objects.

* `Mode.scan_numeral` and `Mode.scan_digits` say where numerals end and how they go on, which takes
  a look at the text behind them.
* `Spells` is the notion; `Spells.of_token` has the values of single tokens, `Spells.array` and
  `Spells.object` put values together, and `Spells.padded` allows blanks around them.
-/

namespace Relay.Json

/-! ## (1) Numerals -/

/-- **A text that ends a numeral** in front of it: it does not go on with a digit, a point or the
mark of an exponent. -/
def EndsNumeral (rest : List Char) : Prop :=
  ∀ c ∈ rest.head?, c.isDigit = false ∧ c ≠ '.' ∧ c ≠ 'e' ∧ c ≠ 'E'

/-- The end of the text ends a numeral. -/
@[simp] theorem endsNumeral_nil : EndsNumeral [] := by simp [EndsNumeral]

/-- So does a comma. -/
@[simp] theorem endsNumeral_comma (rest : List Char) : EndsNumeral (',' :: rest) := by
  simp [EndsNumeral]

/-- So does the end of an array. -/
@[simp] theorem endsNumeral_closeBracket (rest : List Char) : EndsNumeral (']' :: rest) := by
  simp [EndsNumeral]

/-- So does the end of an object. -/
@[simp] theorem endsNumeral_closeBrace (rest : List Char) : EndsNumeral ('\x7d' :: rest) := by
  simp [EndsNumeral]

/-- So does a blank. -/
theorem endsNumeral_blank {c : Char} (h : isSpace c) (rest : List Char) :
    EndsNumeral (c :: rest) := by
  simp only [isSpace, Bool.decide_or, Bool.or_eq_true, decide_eq_true_eq] at h
  rcases h with rfl | rfl | rfl | rfl <;> simp [EndsNumeral]

/-- **A numeral with more digits** in the part that has been reached. -/
def Numeral.push (part : NumeralPart) (read : Numeral) (digits : List Char) : Numeral :=
  match part with
  | .fraction => { read with fraction := read.fraction ++ digits }
  | .exponent =>
    { read with exponent := read.exponent.map fun e => { e with digits := e.digits ++ digits } }
  | _ => { read with whole := read.whole ++ digits }

namespace Mode

/-- **A complete numeral** ends with what is no part of it. -/
theorem scan_numeral {part : NumeralPart} (complete : part ∈ [.zero, .whole, .fraction, .exponent])
    (read : Numeral) {rest : List Char} (ends : EndsNumeral rest) :
    (numeral part read).scan rest = .number read :: between.scan rest := by
  simp only [List.mem_cons, List.not_mem_nil, or_false] at complete
  cases rest with
  | nil => rcases complete with rfl | rfl | rfl | rfl <;> rfl
  | cons c rest =>
    obtain ⟨noDigit, noPoint, noMark, noCapital⟩ := ends c rfl
    rcases complete with rfl | rfl | rfl | rfl <;>
      simp [scan_cons, step, stepNumeral, afterNumeral, noDigit, noPoint, noMark, noCapital]

/-- **More digits join a numeral** behind its first ones. -/
theorem scan_digits {part : NumeralPart} (open' : part ∈ [.whole, .fraction, .exponent])
    (read : Numeral) {digits : List Char} (areDigits : ∀ c ∈ digits, c.isDigit)
    (rest : List Char) :
    (numeral part read).scan (digits ++ rest) =
      (numeral part (read.push part digits)).scan rest := by
  simp only [List.mem_cons, List.not_mem_nil, or_false] at open'
  induction digits generalizing read with
  | nil =>
    have same : read.push part [] = read := by
      rcases open' with rfl | rfl | rfl <;> cases read <;> simp [Numeral.push]
    rw [same, List.nil_append]
  | cons c digits ih =>
    have isDigit : c.isDigit = true := areDigits c List.mem_cons_self
    have others := ih (read.push part [c]) fun d member =>
      areDigits d (List.mem_cons_of_mem _ member)
    have first : (numeral part read).step c (digits ++ rest) =
        ([], numeral part (read.push part [c])) := by
      rcases open' with rfl | rfl | rfl <;>
        simp [step, stepNumeral, isDigit, Numeral.push, Numeral.pushExponent]
    have together : (read.push part [c]).push part digits = read.push part (c :: digits) := by
      rcases open' with rfl | rfl | rfl <;> simp [Numeral.push, Function.comp_def]
    rw [List.cons_append, scan_cons, first, ← together, ← others]
    rfl

end Mode

/-! ## (2) Values -/

/-- **A text that spells a value**: in front of a text that ends numerals, a reader that is due to
meet a value meets this one, in any containers, and goes on with the text behind. The first token is
not the end of an array, which could not be told from the end of an empty one. -/
def Spells (text : List Char) (node : Node) : Prop :=
  ∀ rest, EndsNumeral rest → ∃ token tokens, Mode.between.scan (text ++ rest) = token :: tokens ∧
    token ≠ .closeBracket ∧ ∀ frames, (Position.valueDue frames).build (token :: tokens) =
      (Position.complete node frames).build (Mode.between.scan rest)

/-- A text that is read as a single token spells the value of that token. -/
theorem Spells.of_token {text : List Char} {node : Node} (token : Token)
    (scans : ∀ rest, EndsNumeral rest →
      Mode.between.scan (text ++ rest) = token :: Mode.between.scan rest)
    (noEnd : token ≠ .closeBracket)
    (taken : ∀ frames, Position.takeValue frames token = .inr (Position.complete node frames)) :
    Spells text node := fun rest ends =>
  ⟨token, Mode.between.scan rest, scans rest ends, noEnd, fun frames =>
    @Position.build_cons (.valueDue frames) _ _ (taken frames) _⟩

/-- A value that is due is read where its text stands. -/
theorem Spells.build_valueDue {text : List Char} {node : Node} (spells : Spells text node)
    {rest : List Char} (ends : EndsNumeral rest) (frames : List Frame) :
    (Position.valueDue frames).build (Mode.between.scan (text ++ rest)) =
      (Position.complete node frames).build (Mode.between.scan rest) := by
  obtain ⟨token, tokens, scans, -, builds⟩ := spells rest ends
  rw [scans, builds]

/-- **Blanks**, which may stand around any value. -/
def AreBlanks (blanks : List Char) : Prop := ∀ c ∈ blanks, isSpace c

/-- Blanks between tokens leave no trace, however many they are. -/
theorem Mode.scan_blanks {blanks : List Char} (areBlanks : AreBlanks blanks)
    (rest : List Char) : between.scan (blanks ++ rest) = between.scan rest := by
  induction blanks with
  | nil => rfl
  | cons c blanks ih =>
    rw [List.cons_append, scan_space (areBlanks c List.mem_cons_self),
      ih fun d member => areBlanks d (List.mem_cons_of_mem _ member)]

/-- **Blanks around a text** that spells a value do no harm. -/
theorem Spells.padded {text : List Char} {node : Node} (spells : Spells text node)
    {before after : List Char} (blanksBefore : AreBlanks before) (blanksAfter : AreBlanks after) :
    Spells (before ++ text ++ after) node := by
  intro rest ends
  have endsBefore : EndsNumeral (after ++ rest) := by
    cases after with
    | nil => exact ends
    | cons c after => exact endsNumeral_blank (blanksAfter c List.mem_cons_self) _
  have reads := spells (after ++ rest) endsBefore
  rw [Mode.scan_blanks blanksAfter] at reads
  rwa [List.append_assoc, List.append_assoc, Mode.scan_blanks blanksBefore]

/-! ## (3) Arrays -/

/-- Behind a comma the next item is read like any value. -/
theorem Position.build_nextItem {token : Token} (noEnd : token ≠ .closeBracket)
    (before : List Node) (frames : List Frame) (tokens : List Token) :
    (Position.nextItem before frames).build (token :: tokens) =
      (Position.valueDue (.item before :: frames)).build (token :: tokens) := by
  simp only [build, take, if_neg noEnd]

/-- The first item of an array is read like any value. -/
theorem Position.build_firstItem {token : Token} (noEnd : token ≠ .closeBracket)
    (frames : List Frame) (tokens : List Token) :
    (Position.firstItem frames).build (token :: tokens) =
      (Position.valueDue (.item [] :: frames)).build (token :: tokens) := by
  simp only [build, take, if_neg noEnd]

/-- A comma or a bracket stands behind every item. -/
theorem endsNumeral_items (others : List (List Char)) (rest : List Char) :
    EndsNumeral (others.flatMap (',' :: ·) ++ ']' :: rest) := by
  cases others <;> simp

/-- **Items behind commas** join the ones that have been read. -/
theorem Spells.build_afterItem {parts : List (List Char × Node)}
    (spelled : ∀ part ∈ parts, Spells part.1 part.2) (before : List Node) (frames : List Frame)
    (rest : List Char) :
    (Position.afterItem before frames).build
        (Mode.between.scan ((parts.map (·.1)).flatMap (',' :: ·) ++ ']' :: rest)) =
      (Position.complete (closedArray ((parts.map (·.2)).reverse ++ before)) frames).build
        (Mode.between.scan rest) := by
  -- Along the items, each of which joins those before it.
  induction parts generalizing before with
  | nil => rfl
  | cons part parts ih =>
    obtain ⟨token, tokens, scans, noEnd, builds⟩ := spelled part List.mem_cons_self _
      (endsNumeral_items (parts.map (·.1)) rest)
    have others := ih (fun other member => spelled other (List.mem_cons_of_mem _ member))
      (part.2 :: before)
    have comma : Mode.between.scan (((part :: parts).map (·.1)).flatMap (',' :: ·) ++ ']' :: rest) =
        .comma :: token :: tokens := by
      simp only [List.map_cons, List.flatMap_cons, List.append_assoc, List.cons_append, ← scans]
      rfl
    rw [comma, @Position.build_cons _ (.nextItem before frames) _ rfl,
      Position.build_nextItem noEnd, builds, Position.complete]
    simpa using others

/-- **An array is spelled by its items** with commas between them. -/
theorem Spells.array {part : List Char × Node} {parts : List (List Char × Node)}
    (spelled : ∀ one ∈ part :: parts, Spells one.1 one.2) :
    Spells ('[' :: part.1 ++ (parts.map (·.1)).flatMap (',' :: ·) ++ [']'])
      (.array (.prepend ((part :: parts).map (·.2)) (.done .closed))) := by
  intro rest _
  obtain ⟨token, tokens, scans, noEnd, builds⟩ := spelled part List.mem_cons_self _
    (endsNumeral_items (parts.map (·.1)) rest)
  refine ⟨.openBracket, token :: tokens, ?_, by simp, fun frames => ?_⟩
  · simp only [List.append_assoc, List.cons_append, List.nil_append, ← scans]
    rfl
  · rw [@Position.build_cons _ (.firstItem frames) _ rfl, Position.build_firstItem noEnd, builds]
    refine (build_afterItem (fun other member => spelled other (List.mem_cons_of_mem _ member))
      [part.2] frames rest).trans ?_
    simp [closedArray]

/-- The array without items is spelled by its brackets, with blanks between them. -/
theorem Spells.emptyArray {blanks : List Char} (areBlanks : AreBlanks blanks) :
    Spells ('[' :: blanks ++ [']']) (.array (.done .closed)) := by
  refine fun rest _ => ⟨.openBracket, .closeBracket :: Mode.between.scan rest, ?_, by simp,
    fun _ => rfl⟩
  rw [List.append_assoc]
  exact congrArg (Token.openBracket :: ·) (Mode.scan_blanks areBlanks (']' :: rest))

/-! ## (4) Objects -/

/-- **A member of an object and its text**, which is the text of its key and the one of its
value. -/
structure Entry where
  keyText : List Char
  key : Option String
  valueText : List Char
  value : Node

namespace Entry

/-- The text of a member. -/
def text (entry : Entry) : List Char := entry.keyText ++ ':' :: entry.valueText

/-- The member that an entry stands for. -/
def member (entry : Entry) : Option String × Node := (entry.key, entry.value)

/-- **An entry that is spelled**: the text of the key is read as the key, and the text of the value
spells the value. -/
structure Spelled (entry : Entry) : Prop where
  key : ∀ rest, Mode.between.scan (entry.keyText ++ rest) =
    .text entry.key :: Mode.between.scan rest
  value : Spells entry.valueText entry.value

/-- A member is read where a key is due. -/
theorem Spelled.build_keyDue {entry : Entry} (spelled : entry.Spelled) {rest : List Char}
    (ends : EndsNumeral rest) (before : List (Option String × Node)) (frames : List Frame) :
    (Position.keyDue before frames).build (Mode.between.scan (entry.text ++ rest)) =
      (Position.afterMember (entry.member :: before) frames).build (Mode.between.scan rest) := by
  have scans : Mode.between.scan (entry.text ++ rest) =
      .text entry.key :: .colon :: Mode.between.scan (entry.valueText ++ rest) := by
    rw [text, List.append_assoc, spelled.key]
    rfl
  rw [scans, @Position.build_cons _ (.colonDue before entry.key frames) _ rfl,
    @Position.build_cons _ (.valueDue (.member before entry.key :: frames)) _ rfl,
    spelled.value.build_valueDue ends]
  rfl

end Entry

/-- A comma or a brace stands behind every member. -/
theorem endsNumeral_members (others : List Entry) (rest : List Char) :
    EndsNumeral (others.flatMap (',' :: ·.text) ++ '\x7d' :: rest) := by
  cases others <;> simp

/-- **Members behind commas** join the ones that have been read. -/
theorem Spells.build_afterMember {entries : List Entry} (spelled : ∀ e ∈ entries, e.Spelled)
    (before : List (Option String × Node)) (frames : List Frame) (rest : List Char) :
    (Position.afterMember before frames).build
        (Mode.between.scan (entries.flatMap (',' :: ·.text) ++ '\x7d' :: rest)) =
      (Position.complete (closedObject ((entries.map Entry.member).reverse ++ before)) frames).build
        (Mode.between.scan rest) := by
  induction entries generalizing before with
  | nil => rfl
  | cons entry entries ih =>
    have others := ih (fun other member => spelled other (List.mem_cons_of_mem _ member))
      (entry.member :: before)
    have comma : Mode.between.scan ((entry :: entries).flatMap (',' :: ·.text) ++ '\x7d' :: rest) =
        .comma :: Mode.between.scan
          (entry.text ++ (entries.flatMap (',' :: ·.text) ++ '\x7d' :: rest)) := by
      simp only [List.flatMap_cons, List.append_assoc, List.cons_append]
      rfl
    rw [comma, @Position.build_cons _ (.keyDue before frames) _ rfl,
      (spelled entry List.mem_cons_self).build_keyDue (endsNumeral_members entries rest)]
    simpa using others

/-- **An object is spelled by its members** with commas between them. -/
theorem Spells.object {entry : Entry} {entries : List Entry}
    (spelled : ∀ e ∈ entry :: entries, e.Spelled) :
    Spells ('\x7b' :: entry.text ++ entries.flatMap (',' :: ·.text) ++ ['\x7d'])
      (.object (.prepend ((entry :: entries).map Entry.member) (.done .closed))) := by
  intro rest _
  refine ⟨.openBrace, Mode.between.scan
    (entry.text ++ (entries.flatMap (',' :: ·.text) ++ '\x7d' :: rest)), ?_, by simp,
    fun frames => ?_⟩
  · simp only [List.append_assoc, List.cons_append, List.nil_append]
    rfl
  · rw [@Position.build_cons _ (.keyDue [] frames) _ rfl,
      (spelled entry List.mem_cons_self).build_keyDue (endsNumeral_members entries rest)]
    refine (build_afterMember (fun other member => spelled other (List.mem_cons_of_mem _ member))
      [entry.member] frames rest).trans ?_
    simp [closedObject]

/-- The object without members is spelled by its braces, with blanks between them. -/
theorem Spells.emptyObject {blanks : List Char} (areBlanks : AreBlanks blanks) :
    Spells ('\x7b' :: blanks ++ ['\x7d']) (.object (.done .closed)) := by
  refine fun rest _ => ⟨.openBrace, .closeBrace :: Mode.between.scan rest, ?_, by simp,
    fun _ => rfl⟩
  rw [List.append_assoc]
  exact congrArg (Token.openBrace :: ·) (Mode.scan_blanks areBlanks ('\x7d' :: rest))

end Relay.Json
