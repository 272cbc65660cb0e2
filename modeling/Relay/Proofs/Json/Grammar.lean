import Relay.Proofs.Json.Spelling

/-!
# The grammar of JSON texts

Which texts are JSON, and which values they stand for, said as the format says it: numerals with
their fractions and exponents, strings with their escapes, containers with commas inside, and blanks
around every value and every key. The automaton over characters and the builder of trees are not
mentioned, and both agree with the grammar.

* `IsNumeral`, `IsQuoted` and `Denotes` are the grammar of numerals, strings and values.
* `IsNumeral.scan` and `IsQuoted.scan` say that numerals and strings of the grammar are read as
  single tokens, in front of any text that ends them.
* `Denotes.spells` takes this to values; `Denotes.document` says that the document of a text is the
  value it stands for, and `Denotes.skip` that this value holds no fault of the text.
-/

namespace Relay.Json

/-! ## (1) Numerals -/

/-- **A run of digits**, at least one. -/
structure IsDigits (digits : List Char) : Prop where
  nonempty : digits ≠ []
  all : ∀ d ∈ digits, d.isDigit

/-- **The digits in front of the point**: a zero alone, or digits that begin with another one. -/
inductive IsWhole : List Char → Prop where
  | zero : IsWhole ['0']
  | digits {c : Char} {others : List Char} (notZero : c ≠ '0')
      (all : ∀ d ∈ c :: others, d.isDigit) : IsWhole (c :: others)

/-- **A fraction**: nothing, or a point with digits behind it. -/
inductive IsFraction : List Char → List Char → Prop where
  | absent : IsFraction [] []
  | present {digits : List Char} (areDigits : IsDigits digits) : IsFraction ('.' :: digits) digits

/-- **An exponent**: nothing, or its mark with a sign and digits behind it, where the sign may be
missing. -/
inductive IsExponent : List Char → Option Exponent → Prop where
  | absent : IsExponent [] none
  | present {mark : Char} {sign digits : List Char} {negative : Bool}
      (isMark : mark ∈ ['e', 'E'])
      (isSign : (sign, negative) ∈ [([], false), (['+'], false), (['-'], true)])
      (areDigits : IsDigits digits) :
      IsExponent (mark :: sign ++ digits) (some ⟨negative, digits⟩)

/-- **A numeral**, part by part. -/
inductive IsNumeral : List Char → Numeral → Prop where
  | mk {sign whole point fraction mark : List Char} {negative : Bool} {exponent : Option Exponent}
      (isSign : (sign, negative) ∈ [([], false), (['-'], true)]) (isWhole : IsWhole whole)
      (isFraction : IsFraction point fraction) (isExponent : IsExponent mark exponent) :
      IsNumeral (sign ++ (whole ++ (point ++ mark))) ⟨negative, whole, fraction, exponent⟩

namespace Mode

/-- **An exponent joins the numeral** in front of it. -/
theorem scan_exponent {part : NumeralPart} (before : part ∈ [.zero, .whole, .fraction])
    {read : Numeral} (none : read.exponent = none) {text : List Char} {exponent : Option Exponent}
    (isExponent : IsExponent text exponent) {rest : List Char} (ends : EndsNumeral rest) :
    (numeral part read).scan (text ++ rest) =
      .number { read with exponent } :: between.scan rest := by
  cases isExponent with
  | absent =>
    have complete : part ∈ [.zero, .whole, .fraction, .exponent] :=
      List.mem_append_left [NumeralPart.exponent] before
    rw [List.nil_append, scan_numeral complete read ends, ← none]
  | @present mark sign digits negative isMark isSign areDigits =>
    obtain ⟨nonempty, all⟩ := areDigits
    obtain ⟨c, digits, rfl⟩ := List.exists_cons_of_ne_nil nonempty
    have isDigit : c.isDigit = true := all c List.mem_cons_self
    -- The mark opens an exponent that has no digits yet, behind any part that may end a numeral.
    have marked (behind : List Char) : (numeral part read).step mark behind =
        ([], .numeral .mark { read with exponent := some ⟨false, []⟩ }) := by
      simp only [List.mem_cons, List.not_mem_nil, or_false] at before isMark
      rcases before with rfl | rfl | rfl <;> rcases isMark with rfl | rfl <;> rfl
    -- Whatever sign there is, the first digit finds it in the numeral.
    have first (behind : List Char) :
        (numeral .mark { read with exponent := some ⟨false, []⟩ }).scan (sign ++ c :: behind) =
          (numeral .exponent { read with exponent := some ⟨negative, [c]⟩ }).scan behind := by
      have noPlus : c ≠ '+' := by rintro rfl; simp [Char.isDigit] at isDigit
      have noMinus : c ≠ '-' := by rintro rfl; simp [Char.isDigit] at isDigit
      simp only [List.mem_cons, Prod.mk.injEq, List.not_mem_nil, or_false] at isSign
      rcases isSign with ⟨rfl, rfl⟩ | ⟨rfl, rfl⟩ | ⟨rfl, rfl⟩ <;>
        simp [scan_cons, step, stepNumeral, noPlus, noMinus, isDigit, Numeral.pushExponent]
    have others : ∀ d ∈ digits, d.isDigit = true := fun d member =>
      all d (List.mem_cons_of_mem _ member)
    rw [List.cons_append, List.cons_append, scan_cons, marked, List.append_assoc]
    show (numeral .mark _).scan (sign ++ c :: (digits ++ rest)) = _
    rw [first, scan_digits (by decide) _ others, scan_numeral (by decide) _ ends]
    rfl

/-- **A fraction and an exponent join the digits** in front of them. -/
theorem scan_fraction {part : NumeralPart} (before : part ∈ [.zero, .whole]) {read : Numeral}
    (noFraction : read.fraction = []) (noExponent : read.exponent = none)
    {point fraction : List Char} (isFraction : IsFraction point fraction)
    {mark : List Char} {exponent : Option Exponent} (isExponent : IsExponent mark exponent)
    {rest : List Char} (ends : EndsNumeral rest) :
    (numeral part read).scan (point ++ (mark ++ rest)) =
      .number { read with fraction, exponent } :: between.scan rest := by
  cases isFraction with
  | absent =>
    have earlier : part ∈ [.zero, .whole, .fraction] :=
      List.mem_append_left [NumeralPart.fraction] before
    rw [List.nil_append, scan_exponent earlier noExponent isExponent ends, ← noFraction]
  | present areDigits =>
    obtain ⟨nonempty, all⟩ := areDigits
    obtain ⟨c, digits, rfl⟩ := List.exists_cons_of_ne_nil nonempty
    have isDigit : c.isDigit = true := all c List.mem_cons_self
    -- The point asks for a first digit; behind it there may be others, and then an exponent.
    have first (behind : List Char) : (numeral part read).scan ('.' :: c :: behind) =
        (numeral .fraction { read with fraction := [c] }).scan behind := by
      simp only [List.mem_cons, List.not_mem_nil, or_false] at before
      rcases before with rfl | rfl <;>
        simp [scan_cons, step, stepNumeral, isDigit, noFraction]
    have others : ∀ d ∈ digits, d.isDigit = true := fun d member =>
      all d (List.mem_cons_of_mem _ member)
    have stillNone :
        (Numeral.push .fraction { read with fraction := [c] } digits).exponent = none := noExponent
    rw [List.cons_append, List.cons_append, first, scan_digits (by decide) _ others,
      scan_exponent (by decide) stillNone isExponent ends]
    rfl

/-- A digit other than zero begins a numeral. -/
theorem start_digit {c : Char} (isDigit : c.isDigit = true) (notZero : c ≠ '0') :
    start c = ([], .numeral .whole ⟨false, [c], [], none⟩) := by
  have other (d : Char) (noDigit : d.isDigit = false) : c ≠ d := by
    rintro rfl
    simp [isDigit] at noDigit
  have noSpace : isSpace c = false := by
    simp [isSpace, other ' ' (by decide), other '\n' (by decide), other '\t' (by decide),
      other '\r' (by decide)]
  simp [start, noSpace, isDigit, notZero, other '\x7b' (by decide), other '\x7d' (by decide),
    other '[' (by decide), other ']' (by decide), other ':' (by decide), other ',' (by decide),
    other '"' (by decide), other 'n' (by decide), other 't' (by decide), other 'f' (by decide),
    other '-' (by decide)]

end Mode

/-- **A numeral is read as it stands.** -/
theorem IsNumeral.scan {text : List Char} {read : Numeral} (isNumeral : IsNumeral text read)
    {rest : List Char} (ends : EndsNumeral rest) :
    Mode.between.scan (text ++ rest) = .number read :: Mode.between.scan rest := by
  obtain @⟨sign, whole, point, fraction, mark, negative, exponent, isSign, isWhole, isFraction,
    isExponent⟩ := isNumeral
  -- The first digit decides how the digits in front of the point go on.
  obtain ⟨part, before, reads⟩ : ∃ part ∈ [NumeralPart.zero, .whole], ∀ behind,
      Mode.between.scan (sign ++ (whole ++ behind)) =
        (Mode.numeral part ⟨negative, whole, [], none⟩).scan behind := by
    simp only [List.mem_cons, Prod.mk.injEq, List.not_mem_nil, or_false] at isSign
    cases isWhole with
    | zero =>
      refine ⟨.zero, by decide, fun behind => ?_⟩
      rcases isSign with ⟨rfl, rfl⟩ | ⟨rfl, rfl⟩ <;> rfl
    | @digits c others notZero all =>
      have isDigit : c.isDigit = true := all c List.mem_cons_self
      refine ⟨.whole, by decide, fun behind => ?_⟩
      have first : Mode.between.scan (sign ++ c :: (others ++ behind)) =
          (Mode.numeral .whole ⟨negative, [c], [], none⟩).scan (others ++ behind) := by
        rcases isSign with ⟨rfl, rfl⟩ | ⟨rfl, rfl⟩
        · rw [List.nil_append, Mode.scan_cons, Mode.step, Mode.start_digit isDigit notZero]
          rfl
        · show (Mode.numeral .minus ⟨true, [], [], none⟩).scan (c :: (others ++ behind)) = _
          simp [Mode.scan_cons, Mode.step, Mode.stepNumeral, isDigit, notZero]
      rw [List.cons_append, first, Mode.scan_digits (by decide) _ fun d member =>
        all d (List.mem_cons_of_mem _ member)]
      rfl
  rw [List.append_assoc, List.append_assoc, List.append_assoc, reads,
    Mode.scan_fraction before rfl rfl isFraction isExponent ends]

/-! ## (2) Strings -/

/-- **The short escapes**: the letter behind the backslash, and the character it stands for. -/
def shortEscapes : List (Char × Char) :=
  [('"', '"'), ('\\', '\\'), ('/', '/'), ('b', '\x08'), ('f', '\x0c'), ('n', '\n'), ('r', '\r'),
    ('t', '\t')]

/-- **A piece of a string**: a character as it is, a short escape, or a code unit by number. -/
inductive IsPiece : List Char → Piece → Prop where
  | plain {c : Char} (noControl : 0x20 ≤ c.toNat) (noQuote : c ≠ '"') (noBackslash : c ≠ '\\') :
      IsPiece [c] (.char c)
  | short {letter meant : Char} (isEscape : (letter, meant) ∈ shortEscapes) :
      IsPiece ['\\', letter] (.char meant)
  | byNumber {a b c d : Char} {first second third fourth : Nat}
      (hexA : Text.hexValue? a = some first) (hexB : Text.hexValue? b = some second)
      (hexC : Text.hexValue? c = some third) (hexD : Text.hexValue? d = some fourth) :
      IsPiece ['\\', 'u', a, b, c, d]
        (.codeUnit (((first * 16 + second) * 16 + third) * 16 + fourth))

/-- **The inside of a string**, piece by piece. -/
inductive ArePieces : List Char → List Piece → Prop where
  | nil : ArePieces [] []
  | cons {text others : List Char} {piece : Piece} {pieces : List Piece}
      (first : IsPiece text piece) (behind : ArePieces others pieces) :
      ArePieces (text ++ others) (piece :: pieces)

/-- **A string in its quotes**, and its content; a surrogate without its partner leaves it without
one. -/
inductive IsQuoted : List Char → Option String → Prop where
  | mk {inside : List Char} {pieces : List Piece} (arePieces : ArePieces inside pieces) :
      IsQuoted ('"' :: inside ++ ['"']) ((assemble? pieces).map String.ofList)

/-- **A piece is read** behind others. -/
theorem IsPiece.scan {text : List Char} {piece : Piece} (isPiece : IsPiece text piece)
    (before : List Piece) (rest : List Char) :
    (Mode.text before).scan (text ++ rest) = (Mode.text (piece :: before)).scan rest := by
  cases isPiece with
  | plain noControl noQuote noBackslash =>
    rw [List.singleton_append, Mode.scan_cons]
    simp only [Mode.step, noQuote, noBackslash, if_false, if_neg (Nat.not_lt.2 noControl),
      List.nil_append]
  | short isEscape =>
    -- Letter by letter, what the table says is what is read.
    simp only [shortEscapes, List.mem_cons, Prod.mk.injEq, List.not_mem_nil, or_false] at isEscape
    rcases isEscape with ⟨rfl, rfl⟩ | ⟨rfl, rfl⟩ | ⟨rfl, rfl⟩ | ⟨rfl, rfl⟩ | ⟨rfl, rfl⟩ |
      ⟨rfl, rfl⟩ | ⟨rfl, rfl⟩ | ⟨rfl, rfl⟩ <;> rfl
  | @byNumber a b c d first second third fourth hexA hexB hexC hexD =>
    show (Mode.codeUnit before 4 0).scan (a :: b :: c :: d :: rest) = _
    simp [Mode.scan_cons, Mode.step, hexA, hexB, hexC, hexD]

/-- **A string is read as its content.** -/
theorem IsQuoted.scan {text : List Char} {content : Option String}
    (isQuoted : IsQuoted text content) (rest : List Char) :
    Mode.between.scan (text ++ rest) = .text content :: Mode.between.scan rest := by
  obtain @⟨inside, pieces, arePieces⟩ := isQuoted
  -- Inside the quotes the pieces are collected, latest first.
  have collects (before : List Piece) : (Mode.text before).scan (inside ++ '"' :: rest) =
      completeText (pieces.reverse ++ before) :: Mode.between.scan rest := by
    induction arePieces generalizing before with
    | nil => rfl
    | cons first _ ih =>
      rw [List.append_assoc, first.scan, ih]
      simp
  have whole := collects []
  rw [completeText, List.append_nil, List.reverse_reverse] at whole
  rw [List.append_assoc]
  exact whole

/-! ## (3) Values -/

/-- **A key of an object**: a string with blanks around it. -/
inductive IsKey : List Char → Option String → Prop where
  | mk {before text after : List Char} {content : Option String} (blanksBefore : AreBlanks before)
      (isQuoted : IsQuoted text content) (blanksAfter : AreBlanks after) :
      IsKey (before ++ text ++ after) content

/-- **A text and the value it stands for.** -/
inductive Denotes : List Char → Node → Prop where
  | null : Denotes ['n', 'u', 'l', 'l'] .null
  | isTrue : Denotes ['t', 'r', 'u', 'e'] (.bool true)
  | isFalse : Denotes ['f', 'a', 'l', 's', 'e'] (.bool false)
  | number {text : List Char} {numeral : Numeral} (isNumeral : IsNumeral text numeral) :
      Denotes text (.number numeral.value?)
  | text {text : List Char} {content : Option String} (isQuoted : IsQuoted text content) :
      Denotes text (.text content)
  | emptyArray {blanks : List Char} (areBlanks : AreBlanks blanks) :
      Denotes ('[' :: blanks ++ [']']) (.array (.done .closed))
  | array {part : List Char × Node} {parts : List (List Char × Node)}
      (denote : ∀ one ∈ part :: parts, Denotes one.1 one.2) :
      Denotes ('[' :: part.1 ++ (parts.map (·.1)).flatMap (',' :: ·) ++ [']'])
        (.array (.prepend ((part :: parts).map (·.2)) (.done .closed)))
  | emptyObject {blanks : List Char} (areBlanks : AreBlanks blanks) :
      Denotes ('\x7b' :: blanks ++ ['\x7d']) (.object (.done .closed))
  | object {entry : Entry} {entries : List Entry}
      (areKeys : ∀ one ∈ entry :: entries, IsKey one.keyText one.key)
      (denote : ∀ one ∈ entry :: entries, Denotes one.valueText one.value) :
      Denotes ('\x7b' :: entry.text ++ entries.flatMap (',' :: ·.text) ++ ['\x7d'])
        (.object (.prepend ((entry :: entries).map Entry.member) (.done .closed)))
  | padded {before text after : List Char} {node : Node} (blanksBefore : AreBlanks before)
      (denotes : Denotes text node) (blanksAfter : AreBlanks after) :
      Denotes (before ++ text ++ after) node

/-- A string is a key without blanks. -/
theorem IsKey.of_isQuoted {text : List Char} {content : Option String}
    (isQuoted : IsQuoted text content) : IsKey text content := by
  have none : AreBlanks [] := by simp [AreBlanks]
  simpa using IsKey.mk none isQuoted none

/-- **A key is read as its content.** -/
theorem IsKey.scan {text : List Char} {content : Option String} (isKey : IsKey text content)
    (rest : List Char) :
    Mode.between.scan (text ++ rest) = .text content :: Mode.between.scan rest := by
  obtain ⟨blanksBefore, isQuoted, blanksAfter⟩ := isKey
  rw [List.append_assoc, List.append_assoc, Mode.scan_blanks blanksBefore, isQuoted.scan,
    Mode.scan_blanks blanksAfter]

/-- **A text that denotes a value spells it.** -/
theorem Denotes.spells {text : List Char} {node : Node} (denotes : Denotes text node) :
    Spells text node := by
  -- Words, numerals and strings are single tokens; containers are spelled by their parts.
  induction denotes with
  | null => exact .of_token .null (fun _ _ => rfl) (by simp) fun _ => rfl
  | isTrue => exact .of_token (.bool true) (fun _ _ => rfl) (by simp) fun _ => rfl
  | isFalse => exact .of_token (.bool false) (fun _ _ => rfl) (by simp) fun _ => rfl
  | @number _ numeral isNumeral =>
    exact .of_token (.number numeral) (fun _ ends => isNumeral.scan ends) (by simp) fun _ => rfl
  | @text _ content isQuoted =>
    exact .of_token (.text content) (fun rest _ => isQuoted.scan rest) (by simp) fun _ => rfl
  | emptyArray areBlanks => exact .emptyArray areBlanks
  | array _ ih => exact .array ih
  | emptyObject areBlanks => exact .emptyObject areBlanks
  | object areKeys _ ih =>
    exact .object fun one member => ⟨(areKeys one member).scan, ih one member⟩
  | padded blanksBefore _ blanksAfter ih => exact ih.padded blanksBefore blanksAfter

/-- **The document of a text** is the value that it denotes, with nothing behind it. -/
theorem Denotes.document {text : String} {node : Node} (denotes : Denotes text.toList node) :
    document text = ⟨node, false⟩ := by
  have reads := denotes.spells.build_valueDue endsNumeral_nil []
  rw [List.append_nil] at reads
  rw [Json.document, tokens, reads]
  rfl

/-! ## (4) Passing over values -/

/-- Items are passed over one by one. -/
theorem skip_prepend_items {items : List Node} :
    (Items.prepend items (.done .closed)).skip = .ok () ↔ ∀ item ∈ items, item.skip = .ok () := by
  induction items with
  | nil => simp [Items.prepend, Items.skip]
  | cons item items ih =>
    rw [List.forall_mem_cons, ← ih, Items.prepend, Items.skip]
    cases item.skip <;> simp [bind, Except.bind]

/-- Members are passed over one by one. -/
theorem skip_prepend_members {members : List (Option String × Node)} :
    (Members.prepend members (.done .closed)).skip = .ok () ↔
      ∀ member ∈ members, member.2.skip = .ok () := by
  induction members with
  | nil => simp [Members.prepend, Members.skip]
  | cons member members ih =>
    obtain ⟨key, value⟩ := member
    rw [List.forall_mem_cons, ← ih, Members.prepend, Members.skip]
    cases value.skip <;> simp [bind, Except.bind]

/-- **A value that a text denotes may be passed over**: the text has no fault. -/
theorem Denotes.skip {text : List Char} {node : Node} (denotes : Denotes text node) :
    node.skip = .ok () := by
  induction denotes with
  | null | isTrue | isFalse | number | text | emptyArray | emptyObject => rfl
  | array _ ih =>
    refine skip_prepend_items.2 fun item inArray => ?_
    obtain ⟨part, isPart, rfl⟩ := List.mem_map.1 inArray
    exact ih part isPart
  | object _ _ ih =>
    refine skip_prepend_members.2 fun member inObject => ?_
    obtain ⟨entry, isEntry, rfl⟩ := List.mem_map.1 inObject
    exact ih entry isEntry
  | padded _ _ _ ih => exact ih

end Relay.Json
