import Relay.Json.Variant
import Relay.Proofs.Json.Grammar
import Relay.Proofs.Json.Members

/-!
# Reading written values

A value that is written is read as it was: its text denotes it, and a reader that undoes a writer on
values undoes it on texts. For records this is a matter of their fields. A field restores a value if
it reads back what it writes, or if it leaves the value out and takes it for what is missing; then a
record whose fields restore their values, and have names of their own, is read back.

* `Denotes.of_isExact`: texts denote the values they are written for, as long as these have no
  doubles and no integers beyond the range of words; `document_render` says so of documents.
* `ReadsBack` is the relation of a reader, a written value and what it was written for;
  `ReadsBack.parse_render` takes it to texts, and `ReadsBack.record` builds it from fields.
-/

namespace Relay.Json

/-! ## (1) Written numerals and strings -/

/-- **The digits of a positive number** begin with one that is not zero. -/
theorem exists_toDigits {n : Nat} (pos : 0 < n) :
    ∃ c digits, Nat.toDigits 10 n = c :: digits ∧ c ≠ '0' := by
  -- By the recursion of the digits, which end with the last one.
  induction n using Nat.strongRecOn with
  | _ n ih =>
    by_cases short : n < 10
    · refine ⟨n.digitChar, [], Nat.toDigits_of_lt_base short, ?_⟩
      have all : ∀ k : Fin 10, 0 < k.val → k.val.digitChar ≠ '0' := by decide
      exact all ⟨n, short⟩ pos
    · obtain ⟨c, digits, written, notZero⟩ := ih (n / 10) (by omega) (by omega)
      refine ⟨c, digits ++ [(n % 10).digitChar], ?_, notZero⟩
      rw [Nat.toDigits_of_base_le (by decide) (by omega), written]
      rfl

/-- The digits of a number may stand in front of a point. -/
theorem isWhole_toDigits (n : Nat) : IsWhole (Nat.toDigits 10 n) := by
  by_cases pos : 0 < n
  · obtain ⟨c, digits, written, notZero⟩ := exists_toDigits pos
    rw [written]
    refine .digits notZero fun d member => ?_
    exact Nat.isDigit_of_mem_toDigits (by decide) (by decide) (written ▸ member)
  · obtain rfl : n = 0 := by omega
    exact .zero

/-- **A written integer** is its numeral. -/
theorem isNumeral_int (n : Int) : IsNumeral (Number.int n).write (.ofInt n) := by
  have isSign : ((if n < 0 then ['-'] else []), decide (n < 0)) ∈
      [([], false), (['-'], true)] := by
    by_cases negative : n < 0 <;> simp [negative]
  have numeral := IsNumeral.mk isSign (isWhole_toDigits n.natAbs) .absent .absent
  rw [List.append_nil, List.append_nil] at numeral
  exact numeral

/-- **An integer in the range of words**, signed or unsigned. -/
def InWords (n : Int) : Prop := -(signBit : Int) ≤ n ∧ n < (UInt64.size : Int)

/-- Integers in the range of words are denoted by their numerals. -/
theorem Numeral.value?_ofInt {n : Int} (inWords : InWords n) :
    (Numeral.ofInt n).value? = some (.int n) := by
  obtain ⟨low, high⟩ := inWords
  by_cases negative : n < 0
  · exact value?_ofInt_neg negative low
  · have size : n.natAbs < UInt64.size := by omega
    have back : (n.natAbs : Int) = n := by omega
    rw [ofInt, decide_eq_false negative, value?_ofNat size, back]

/-- **The piece that a written character is.** Control characters without a letter of their own come
by number. -/
def pieceOf (c : Char) : Piece :=
  if c.toNat < 0x20 ∧ c ∉ ['\n', '\r', '\t', '\x08', '\x0c'] then .codeUnit c.toNat else .char c

/-- **A written character** is a piece of a string. -/
theorem isPiece_writeChar (c : Char) : IsPiece (writeChar c) (pieceOf c) := by
  by_cases lettered : c ∈ ['"', '\\', '\n', '\r', '\t', '\x08', '\x0c']
  · -- Each of these has a letter of its own behind the backslash.
    simp only [List.mem_cons, List.not_mem_nil, or_false] at lettered
    rcases lettered with rfl | rfl | rfl | rfl | rfl | rfl | rfl <;>
      exact .short (by simp [shortEscapes])
  · simp only [List.mem_cons, List.not_mem_nil, or_false, not_or] at lettered
    obtain ⟨noQuote, noBackslash, noNewline, noReturn, noTab, noBell, noFeed⟩ := lettered
    by_cases control : c.toNat < 0x20
    · -- Two zeros, and the two digits of a number below sixteen times sixteen.
      have written : writeChar c = ['\\', 'u', '0', '0', Text.hexDigit (c.toNat / 16),
          Text.hexDigit (c.toNat % 16)] := by
        have none : c.toNat / 16 / 16 = 0 := by omega
        have short : c.toNat / 16 % 16 = c.toNat / 16 := by omega
        simp only [writeChar, noQuote, noBackslash, noNewline, noReturn, noTab, noBell, noFeed,
          control, Text.hexFixed, none, short, if_false, if_true, List.nil_append,
          List.cons_append]
        rfl
      have piece : pieceOf c =
          .codeUnit (((0 * 16 + 0) * 16 + c.toNat / 16) * 16 + c.toNat % 16) := by
        have value : ((0 * 16 + 0) * 16 + c.toNat / 16) * 16 + c.toNat % 16 = c.toNat := by omega
        rw [value]
        simp [pieceOf, noNewline, noReturn, noTab, noBell, noFeed, control]
      rw [written, piece]
      exact .byNumber rfl rfl (Text.hexValue?_hexDigit (by omega))
        (Text.hexValue?_hexDigit (by omega))
    · have written : writeChar c = [c] := by
        simp [writeChar, noQuote, noBackslash, noNewline, noReturn, noTab, noBell, noFeed, control]
      have piece : pieceOf c = .char c := by simp [pieceOf, control]
      rw [written, piece]
      exact .plain (by omega) noQuote noBackslash

/-- The pieces of characters assemble to the characters. -/
theorem assemble?_pieceOf (cs : List Char) : assemble? (cs.map pieceOf) = some cs := by
  induction cs with
  | nil => rfl
  | cons c cs ih =>
    rw [List.map_cons, pieceOf]
    split
    · rename_i control
      -- Control characters are far below the surrogates.
      have noHigh : isHighSurrogate c.toNat = false := by
        have below : ¬ 0xD800 ≤ c.toNat := by omega
        simp only [isHighSurrogate, below, decide_false, Bool.false_and]
      have noLow : isLowSurrogate c.toNat = false := by
        have below : ¬ 0xDC00 ≤ c.toNat := by omega
        simp only [isLowSurrogate, below, decide_false, Bool.false_and]
      unfold assemble?
      simp [noHigh, noLow, ih, Char.ofNat_toNat]
    · simp [assemble?, ih]

/-- **A written string** is a string in its quotes. -/
theorem isQuoted_writeText (content : String) : IsQuoted (writeText content) (some content) := by
  have inside (cs : List Char) : ArePieces (cs.flatMap writeChar) (cs.map pieceOf) := by
    induction cs with
    | nil => exact .nil
    | cons c cs ih => exact .cons (isPiece_writeChar c) ih
  have quoted := IsQuoted.mk (inside content.toList)
  rwa [assemble?_pieceOf, Option.map_some, String.ofList_toList] at quoted

/-! ## (2) Documents of written values -/

/-- **A value that is written exactly**: its numbers are integers in the range of words. -/
inductive IsExact : Json → Prop where
  | null : IsExact .null
  | bool (value : Bool) : IsExact (.bool value)
  | text (content : String) : IsExact (.text content)
  | int {n : Int} (inWords : InWords n) : IsExact (.int n)
  | array {items : List Json} (exact : ∀ item ∈ items, IsExact item) : IsExact (.array items)
  | object {members : List (String × Json)} (exact : ∀ member ∈ members, IsExact member.2) :
      IsExact (.object members)

/-- The items of a value, in front of the end. -/
theorem toItems_eq_prepend (items : List Json) :
    toItems items = .prepend (items.map toNode) (.done .closed) := by
  induction items with
  | nil => rfl
  | cons item items ih => simp only [toItems, ih, List.map_cons, Items.prepend]

/-- The text of items, with a comma in front of all but the first. -/
theorem writeItems_cons (item : Json) (items : List Json) :
    writeItems (item :: items) = item.write ++ (items.map write).flatMap (',' :: ·) := by
  induction items generalizing item with
  | nil => simp [writeItems]
  | cons next items ih => rw [writeItems, ih, List.map_cons, List.flatMap_cons, List.cons_append]

/-- The entry of a member that is written. -/
def entryOf (member : String × Json) : Entry :=
  ⟨writeText member.1, some member.1, member.2.write, member.2.toNode⟩

/-- The members of a value, in front of the end. -/
theorem toMembers_eq_prepend (members : List (String × Json)) :
    toMembers members =
      .prepend ((members.map entryOf).map Entry.member) (.done .closed) := by
  induction members with
  | nil => rfl
  | cons member members ih =>
    simp only [toMembers, ih, List.map_cons, Members.prepend, Entry.member, entryOf]

/-- The text of members, with a comma in front of all but the first. -/
theorem writeMembers_cons (member : String × Json) (members : List (String × Json)) :
    writeMembers (member :: members) =
      (entryOf member).text ++ (members.map entryOf).flatMap (',' :: ·.text) := by
  induction members generalizing member with
  | nil => simp [writeMembers, Entry.text, entryOf]
  | cons next members ih =>
    rw [writeMembers, ih, List.map_cons, List.flatMap_cons]
    simp [Entry.text, entryOf]

/-- **An exact value is denoted by its text.** -/
theorem Denotes.of_isExact {value : Json} (exact : value.IsExact) :
    Denotes value.write value.toNode := by
  -- One case for each kind of value; arrays and objects are put together from their parts.
  induction exact with
  | null => exact .null
  | bool value =>
    cases value with
    | true => exact .isTrue
    | false => exact .isFalse
  | text content => exact .text (isQuoted_writeText content)
  | @int n inWords =>
    have denotes := Denotes.number (isNumeral_int n)
    rwa [Numeral.value?_ofInt inWords] at denotes
  | @array items _ ih =>
    rw [write, toNode, toItems_eq_prepend]
    cases items with
    | nil => exact @Denotes.emptyArray [] (by simp [AreBlanks])
    | cons item items =>
      have denote : ∀ part ∈ (item :: items).map fun i => (i.write, i.toNode),
          Denotes part.1 part.2 := by
        simpa using ih
      simpa [writeItems_cons, Function.comp_def] using Denotes.array denote
  | @object members _ ih =>
    rw [write, toNode, toMembers_eq_prepend]
    cases members with
    | nil => exact @Denotes.emptyObject [] (by simp [AreBlanks])
    | cons member members =>
      rw [writeMembers_cons]
      have written (entry : Entry) (inEntries : entry ∈ (member :: members).map entryOf) :
          IsKey entry.keyText entry.key ∧ Denotes entry.valueText entry.value := by
        obtain ⟨one, isMember, rfl⟩ := List.mem_map.1 inEntries
        exact ⟨.of_isQuoted (isQuoted_writeText one.1), ih one isMember⟩
      exact .object (fun entry inEntries => (written entry inEntries).1)
        fun entry inEntries => (written entry inEntries).2

/-- **The document of a written value** is the value, with nothing behind it. -/
theorem document_render {value : Json} (exact : value.IsExact) :
    document value.render = ⟨value.toNode, false⟩ := by
  refine Denotes.document ?_
  rw [render, String.toList_ofList]
  exact .of_isExact exact

/-! ## (3) Reading back -/

/-- **A value that a reader takes back** to what it was written for. -/
structure ReadsBack {α : Type} (read : Reader α) (value : Json) (a : α) : Prop where
  exact : value.IsExact
  back : read value.toNode = .ok a

namespace ReadsBack

variable {α : Type} {read : Reader α} {write : α → Json}

/-- **What is read back from the value is read back from its text.** -/
theorem parse_render {value : Json} {a : α} (h : ReadsBack read value a) :
    parse read value.render = .ok a := by
  simp [parse, document_render h.exact, h.back, bind, Except.bind]

/-- Texts are read back. -/
theorem text (content : String) : ReadsBack readText (.text content) content :=
  ⟨.text content, rfl⟩

/-- Truth values are read back. -/
theorem bool (value : Bool) : ReadsBack readBool (.bool value) value := ⟨.bool value, rfl⟩

/-- Integers between the bounds of their reader are read back. -/
theorem int {low high n : Int} (inWords : InWords n) (bounds : low ≤ n ∧ n ≤ high) :
    ReadsBack (readInt low high) (.int n) n :=
  ⟨.int inWords, if_pos bounds⟩

/-- Reading on from a value that is read back. -/
theorem map {β : Type} {value : Json} {a : α} (h : ReadsBack read value a) (f : α → β) :
    ReadsBack (fun node => (read node).map f) value (f a) :=
  ⟨h.exact, by rw [h.back, Except.map]⟩

/-- Natural numbers of 64 bits are read back. -/
theorem nat {n : Nat} (small : n < UInt64.size) : ReadsBack (readNat 64) (.nat n) n := by
  have size : (Nat.pow 2 64 - 1 : Nat) + 1 = UInt64.size := rfl
  have inWords : InWords n := ⟨by omega, by omega⟩
  have bounds : (0 : Int) ≤ n ∧ (n : Int) ≤ (Nat.pow 2 64 - 1 : Nat) := by omega
  exact (int inWords bounds).map Int.toNat

/-- Optional values are read back, if none of them is written as the absence of one. -/
theorem option {value : Option α} (present : ∀ a ∈ value, ReadsBack read (write a) a)
    (noNull : ∀ a, write a ≠ .null) :
    ReadsBack (readOption read) (Json.option write value) value := by
  cases value with
  | none => exact ⟨.null, rfl⟩
  | some a =>
    obtain ⟨exact, back⟩ := present a rfl
    refine ⟨exact, ?_⟩
    have other : (write a).toNode ≠ .null := by
      have := noNull a
      cases written : write a <;> simp_all [toNode]
    show readOption read (write a).toNode = _
    unfold readOption
    split
    · exact absurd (by assumption) other
    · rw [back, Except.map]

/-- Lists are read back if their items are. -/
theorem list {items : List α} (h : ∀ a ∈ items, ReadsBack read (write a) a) :
    ReadsBack (readList read) (.array (items.map write)) items where
  exact := .array fun item member => by
    obtain ⟨a, inItems, rfl⟩ := List.mem_map.1 member
    exact (h a inItems).exact
  back := readList_toNode items fun a member => (h a member).back

end ReadsBack

/-! ## (4) Records -/

/-- **A field that restores a value**: it reads back what it writes, and what it leaves out is the
value of the field that is missing. -/
def Field.Restores {α : Type} (field : Field α) (a : α) : Prop :=
  if field.omits a then field.ifMissing = some a else ReadsBack field.read (field.write a) a

/-- A field that is never left out restores what it reads back. -/
theorem Field.Restores.of_readsBack {α : Type} {field : Field α} {a : α}
    (written : field.omits a = false) (h : ReadsBack field.read (field.write a) a) :
    field.Restores a := by
  rw [Restores, if_neg (by simp [written])]
  exact h

namespace Fields

/-- **Fields that restore a row**: each one restores its value. -/
def Restore : {αs : List Type} → Fields αs → Row αs → Prop
  | [], .nil, _ => True
  | _ :: _, .cons field rest, (a, others) => field.Restores a ∧ rest.Restore others

/-- The keys of a written record are names of fields. -/
theorem mem_names_of_mem_write {αs : List Type} (fields : Fields αs) (row : Row αs)
    {member : String × Json} (h : member ∈ fields.write row) : member.1 ∈ fields.names := by
  induction fields with
  | nil => exact absurd h List.not_mem_nil
  | cons field rest ih =>
    obtain ⟨a, others⟩ := row
    rw [write] at h
    rw [names]
    split at h
    · exact List.mem_cons_of_mem _ (ih others h)
    · rcases List.mem_cons.1 h with rfl | h
      · exact List.mem_cons_self
      · exact List.mem_cons_of_mem _ (ih others h)

/-- **A written record is read back**, field by field. -/
theorem readMembers_write {αs : List Type} (fields : Fields αs) (distinct : fields.names.Nodup)
    {row : Row αs} (restore : fields.Restore row) :
    fields.readMembers fields.blank (toMembers (fields.write row)) = .ok row := by
  induction fields with
  | nil => rfl
  | cons field rest ih =>
    obtain ⟨a, others⟩ := row
    obtain ⟨restores, restoreOthers⟩ := restore
    obtain ⟨newName, distinct⟩ := List.nodup_cons.1 distinct
    have behind := ih distinct restoreOthers
    have foreign : ∀ member ∈ (rest.write others).map fun member => (member.1, member.2.toNode),
        member.1 ≠ field.name := by
      rintro _ inRest same
      obtain ⟨member, written, rfl⟩ := List.mem_map.1 inRest
      exact newName (same ▸ mem_names_of_mem_write rest others written)
    -- No other field writes under the name of this one.
    rw [toMembers_eq_keyed] at behind ⊢
    refine readMembers_eq_ok_iff.2 ?_
    rw [Field.Restores] at restores
    rw [write]
    split
    · rename_i omitted
      rw [if_pos omitted] at restores
      rw [valuesOf_eq_nil foreign, without_eq_self foreign]
      exact ⟨restores, behind⟩
    · rename_i written
      rw [if_neg written] at restores
      rw [List.map_cons, valuesOf_cons_self, valuesOf_eq_nil foreign, without_cons_self,
        without_eq_self foreign]
      exact ⟨⟨rfl, restores.back⟩, behind⟩

/-- Fields that restore their values write them exactly. -/
theorem isExact_of_mem_write {αs : List Type} (fields : Fields αs) {row : Row αs}
    (restore : fields.Restore row) : ∀ member ∈ fields.write row, member.2.IsExact := by
  induction fields with
  | nil => exact fun member h => absurd h List.not_mem_nil
  | cons field rest ih =>
    obtain ⟨a, others⟩ := row
    obtain ⟨restores, restoreOthers⟩ := restore
    rw [write]
    rw [Field.Restores] at restores
    split
    · exact ih restoreOthers
    · rename_i written
      rw [if_neg written] at restores
      intro member h
      rcases List.mem_cons.1 h with rfl | h
      · exact restores.exact
      · exact ih restoreOthers member h

end Fields

/-- **A record is read back** if its fields have names of their own and restore their values. -/
theorem ReadsBack.record {τ : Type} {record : Record τ} (distinct : record.fields.names.Nodup)
    {t : τ} (restore : record.fields.Restore (record.toRow t)) :
    ReadsBack record.read (record.write t) t where
  exact := .object (record.fields.isExact_of_mem_write restore)
  back := by
    show (record.fields.readMembers _ (toMembers _)).map _ = _
    rw [record.fields.readMembers_write distinct restore, Except.map, record.ofRow_toRow]

end Relay.Json
