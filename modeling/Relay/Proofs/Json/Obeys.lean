import Relay.Proofs.Json.Layout

/-!
# Readers that obey a layout

A reader obeys a style if it reads every layout of a value as the value and refuses whatever is
amiss. For a record this follows from its fields, one by one, as each takes the values under its own
name out of an object and the next item out of an array.

* `Obeys.option`, `Obeys.list` and `Obeys.record` put readers together that obey their styles.
* `Fields.Follow` compares the fields of a record with its columns.
-/

namespace Relay.Json

/-! ## (1) Items of arrays -/

namespace Fields

variable {α : Type} {αs : List Type} {field : Field α} {rest : Fields αs}

/-- Behind the end of an array a field takes its value for that case. -/
theorem readItems_cons_done :
    (cons field rest).readItems (.done .closed) =
      match field.ifBeyond with
      | some a => (rest.readItems (.done .closed)).map fun row => (a, row)
      | none => .error .mismatch :=
  rfl

/-- An item of an array is the value of the field that is due. -/
theorem readItems_cons_more (item : Node) (items : Items) :
    (cons field rest).readItems (.more item items) =
      (field.read item).bind fun a => (rest.readItems items).bind fun row => .ok (a, row) :=
  rfl

end Fields

/-! ## (2) Readers that obey a style -/

/-- **A reader obeys a style**: it reads every layout of a value as that value, as long as the text
has no fault, and refuses what is amiss. -/
structure Obeys {α : Type} (read : Reader α) (style : Style α) : Prop where
  reads : ∀ {a node}, style.lays a node → node.skip = .ok () → read node = .ok a
  refuses : ∀ {node}, style.amiss node → ∀ a, read node ≠ .ok a

namespace Obeys

variable {α : Type} {read : Reader α} {style : Style α}

/-- Values with one layout are read if that one is. -/
theorem exactly {node : α → Node} (reads : ∀ a, read (node a) = .ok a) :
    Obeys read (.exactly node) where
  reads laid _ := laid ▸ reads _
  refuses amiss := amiss.elim

/-- Optional values are read by their style, if `null` is the layout of none of them. -/
theorem option (obeys : Obeys read style) (noNull : ∀ a, ¬ style.lays a .null)
    (nullable : ¬ style.amiss .null) : Obeys (readOption read) style.option where
  reads := by
    intro value node laid sound
    cases value with
    | none =>
      obtain rfl : node = .null := laid
      rfl
    | some a =>
      have reads := obeys.reads laid sound
      unfold readOption
      split
      · exact absurd laid (noNull a)
      · rw [reads, Except.map]
  refuses := by
    intro node amiss value
    unfold readOption
    split
    · exact absurd amiss nullable
    · intro accepted
      obtain ⟨a, reads, -⟩ := exists_of_map_eq_ok accepted
      exact obeys.refuses amiss a reads

/-- Lists are read by their style. -/
theorem list (obeys : Obeys read style) : Obeys (readList read) style.list where
  reads := by
    rintro items _ ⟨nodes, rfl, laid⟩ sound
    have soundItems := skip_prepend_items.1 sound
    show readItems read _ = _
    clear sound
    induction laid with
    | nil => rfl
    | @cons a node items nodes first _ ih =>
      have others := ih fun item member => soundItems item (List.mem_cons_of_mem _ member)
      simp [Items.prepend, readItems, obeys.reads first (soundItems node List.mem_cons_self),
        others, bind, Except.bind, pure, Except.pure]
  refuses := by
    rintro _ ⟨nodes, rfl, item, member, amiss⟩ items accepted
    have readsAll : readItems read (.prepend nodes (.done .closed)) = .ok items := accepted
    clear accepted
    -- Whatever is read in front, the item itself is refused.
    induction nodes generalizing items with
    | nil => exact absurd member List.not_mem_nil
    | cons node nodes ih =>
      obtain ⟨a, first, readsAll⟩ := exists_of_bind_eq_ok readsAll
      obtain ⟨items, others, -⟩ := exists_of_bind_eq_ok readsAll
      rcases List.mem_cons.1 member with rfl | member
      · exact obeys.refuses amiss a first
      · exact ih member items others

end Obeys

/-! ## (3) Records -/

/-- **Fields that follow columns**: the names are the same, the value of a field that is left out is
the default in objects and arrays alike, and the readers obey the styles. -/
def Fields.Follow : {αs : List Type} → Fields αs → Columns αs → Prop
  | [], .nil, .nil => True
  | _ :: _, .cons field fields, .cons name default style columns =>
    field.name = name ∧ field.ifMissing = default ∧ field.ifBeyond = default ∧
      Obeys field.read style ∧ fields.Follow columns

namespace Fields.Follow

variable {αs : List Type} {fields : Fields αs} {columns : Columns αs}

/-- **An object is read in any order**, with foreign members and without defaults. -/
theorem readMembers_eq_ok (follow : fields.Follow columns) (distinct : columns.names.Nodup)
    {row : Row αs} {own foreign members : List (String × Node)}
    (arranged : columns.Arranged row own)
    (unknown : ∀ member ∈ foreign, member.1 ∉ columns.names)
    (shuffled : members.Perm (own ++ foreign))
    (sound : ∀ member ∈ members, member.2.skip = .ok ()) :
    fields.readMembers fields.blank (keyed members) = .ok row := by
  -- Field by field, each with the members that those before it have left.
  induction fields generalizing own members with
  | nil => exact nil_readMembers_eq_ok sound
  | @cons α αs field fields ih =>
    obtain _ | ⟨name, default, style, columns⟩ := columns
    obtain ⟨a, others⟩ := row
    obtain ⟨rfl, rfl, -, obeys, follow⟩ := follow
    obtain ⟨newName, distinct⟩ := List.nodup_cons.1 distinct
    have foreignOthers : ∀ member ∈ foreign, member.1 ∉ columns.names :=
      fun member inForeign known => unknown member inForeign (List.mem_cons_of_mem _ known)
    have soundOthers : ∀ member ∈ without field.name members, member.2.skip = .ok () :=
      fun member inOthers => sound member (mem_without.1 inOthers).1
    -- None of the others has the name of this field.
    have otherName {behind : List (String × Node)} (arranged : columns.Arranged others behind) :
        ∀ member ∈ behind ++ foreign, member.1 ≠ field.name := by
      rintro member inEither same
      rcases List.mem_append.1 inEither with inBehind | inForeign
      · exact newName (same ▸ Columns.mem_names_of_arranged arranged inBehind)
      · exact unknown member inForeign (same ▸ List.mem_cons_self)
    refine readMembers_eq_ok_iff.2 ?_
    have values := valuesOf_perm field.name shuffled
    have left := without_perm field.name shuffled
    rcases arranged with ⟨isDefault, arranged⟩ | ⟨node, behind, rfl, laid, arranged⟩
    · rw [valuesOf_eq_nil (otherName arranged), List.perm_nil] at values
      rw [without_eq_self (otherName arranged)] at left
      refine ⟨?_, ih follow distinct arranged foreignOthers left soundOthers⟩
      rw [values]
      exact isDefault
    · rw [List.cons_append, valuesOf_cons_self, valuesOf_eq_nil (otherName arranged),
        List.perm_singleton] at values
      rw [List.cons_append, without_cons_self, without_eq_self (otherName arranged)] at left
      have inMembers : (field.name, node) ∈ members := shuffled.mem_iff.2 List.mem_cons_self
      refine ⟨?_, ih follow distinct arranged foreignOthers left soundOthers⟩
      rw [values]
      exact ⟨rfl, obeys.reads laid (sound _ inMembers)⟩

/-- **An array is read item by item**, up to where only defaults are left. -/
theorem readItems_eq_ok (follow : fields.Follow columns) {row : Row αs} {items : List Node}
    (listed : columns.Listed row items) (sound : ∀ item ∈ items, item.skip = .ok ()) :
    fields.readItems (.prepend items (.done .closed)) = .ok row := by
  induction fields generalizing items with
  | nil =>
    cases columns
    obtain rfl : items = [] := listed
    rfl
  | cons field fields ih =>
    obtain _ | ⟨name, default, style, columns⟩ := columns
    obtain ⟨a, others⟩ := row
    obtain ⟨rfl, -, rfl, obeys, follow⟩ := follow
    rcases listed with ⟨rfl, isDefault, listed⟩ | ⟨node, behind, rfl, laid, listed⟩
    · have behind : fields.readItems (.done .closed) = .ok others := ih follow listed sound
      show readItems _ (.done .closed) = _
      rw [readItems_cons_done, isDefault]
      simp only [behind, Except.map]
    · have first := obeys.reads laid (sound node List.mem_cons_self)
      have others := ih follow listed fun item member => sound item (List.mem_cons_of_mem _ member)
      rw [Items.prepend, readItems_cons_more, first, others]
      rfl

/-- **An object that is read** has every field without a default. -/
theorem mem_of_required (follow : fields.Follow columns) {row : Row αs}
    {members : List (String × Node)}
    (reads : fields.readMembers fields.blank (keyed members) = .ok row) {name : String}
    (required : name ∈ columns.required) : ∃ member ∈ members, member.1 = name := by
  induction fields generalizing members with
  | nil =>
    cases columns
    exact absurd required List.not_mem_nil
  | cons field fields ih =>
    obtain _ | ⟨first, default, style, columns⟩ := columns
    obtain ⟨a, others⟩ := row
    obtain ⟨rfl, rfl, -, -, follow⟩ := follow
    obtain ⟨takes, behind⟩ := readMembers_eq_ok_iff.1 reads
    -- The fields behind this one read a part of the members, and find the name there.
    have later (isLater : name ∈ columns.required) : ∃ member ∈ members, member.1 = name := by
      obtain ⟨member, inOthers, same⟩ := ih follow behind isLater
      exact ⟨member, (mem_without.1 inOthers).1, same⟩
    rw [Columns.required] at required
    split at required
    · rename_i noDefault
      rcases List.mem_cons.1 required with rfl | isLater
      · by_contra lacks
        push Not at lacks
        rw [valuesOf_eq_nil lacks, Field.Takes, Option.isNone_iff_eq_none.1 noDefault] at takes
        simp at takes
      · exact later isLater
    · exact later required

/-- **An object that is read** gives no field twice. -/
theorem length_valuesOf_le_one (follow : fields.Follow columns) (distinct : columns.names.Nodup)
    {row : Row αs} {members : List (String × Node)}
    (reads : fields.readMembers fields.blank (keyed members) = .ok row) {name : String}
    (known : name ∈ columns.names) : (valuesOf name members).length ≤ 1 := by
  induction fields generalizing members with
  | nil =>
    cases columns
    exact absurd known List.not_mem_nil
  | cons field fields ih =>
    obtain _ | ⟨first, default, style, columns⟩ := columns
    obtain ⟨a, others⟩ := row
    obtain ⟨rfl, -, -, -, follow⟩ := follow
    obtain ⟨newName, distinct⟩ := List.nodup_cons.1 distinct
    obtain ⟨takes, behind⟩ := readMembers_eq_ok_iff.1 reads
    rcases List.mem_cons.1 known with rfl | isLater
    · exact takes.length_le_one
    · -- To take out the members of this field changes nothing about another name.
      have other : name ≠ field.name := fun same => newName (same ▸ isLater)
      have later := ih follow distinct behind isLater
      rwa [valuesOf_without other] at later

/-- **An object that is read** has nothing amiss in any of its columns. -/
theorem not_amissAt (follow : fields.Follow columns) (distinct : columns.names.Nodup)
    {row : Row αs} {members : List (String × Node)}
    (reads : fields.readMembers fields.blank (keyed members) = .ok row) {member : String × Node}
    (given : member ∈ members) : ¬ columns.AmissAt (some member.1) member.2 := by
  induction fields generalizing members with
  | nil =>
    cases columns
    exact id
  | cons field fields ih =>
    obtain _ | ⟨first, default, style, columns⟩ := columns
    obtain ⟨a, others⟩ := row
    obtain ⟨rfl, -, -, obeys, follow⟩ := follow
    obtain ⟨newName, distinct⟩ := List.nodup_cons.1 distinct
    obtain ⟨takes, behind⟩ := readMembers_eq_ok_iff.1 reads
    rintro (⟨same, amiss⟩ | amiss)
    · have isValue : member.2 ∈ valuesOf field.name members :=
        mem_valuesOf.2 (Option.some.inj same ▸ given)
      exact obeys.refuses amiss a (takes.reads_of_mem isValue)
    · have other : member.1 ≠ field.name := fun same =>
        newName (same ▸ Columns.mem_names_of_amissAt amiss)
      exact ih follow distinct behind (mem_without.2 ⟨given, other⟩) amiss

/-- **An array in which something is amiss is refused.** -/
theorem readItems_ne_ok (follow : fields.Follow columns) {items : List Node}
    (amiss : columns.AmissAmong items) (row : Row αs) :
    fields.readItems (.prepend items (.done .closed)) ≠ .ok row := by
  induction fields generalizing items with
  | nil =>
    cases columns
    exact amiss.elim
  | cons field fields ih =>
    obtain _ | ⟨first, default, style, columns⟩ := columns
    obtain ⟨-, -, rfl, obeys, follow⟩ := follow
    intro reads
    cases items with
    | nil =>
      -- Behind the end each field takes its default, up to the first one that has none.
      have reads : readItems (cons field fields) (.done .closed) = .ok row := reads
      rw [readItems_cons_done] at reads
      cases beyond : field.ifBeyond with
      | none => simp [beyond] at reads
      | some a =>
        rw [beyond] at reads
        obtain ⟨others, behind, -⟩ := exists_of_map_eq_ok reads
        rcases amiss with lacks | amiss
        · exact absurd beyond (by simp [lacks])
        · exact ih follow amiss others behind
    | cons node items =>
      rw [Items.prepend, readItems_cons_more] at reads
      obtain ⟨a, first, reads⟩ := exists_of_bind_eq_ok reads
      obtain ⟨others, behind, -⟩ := exists_of_bind_eq_ok reads
      rcases amiss with amiss | amiss
      · exact obeys.refuses amiss a first
      · exact ih follow amiss others behind

end Fields.Follow

/-- **A record is read by its columns** if its fields follow them, under names of their own. -/
theorem Obeys.record {τ : Type} (record : Record τ) (columns : Columns record.types)
    (follow : record.fields.Follow columns) (distinct : columns.names.Nodup) :
    Obeys record.read (.record columns record.toRow) where
  reads := by
    intro t node laid sound
    suffices reads : record.fields.read node = .ok (record.toRow t) by
      rw [Record.read, reads, Except.map, record.ofRow_toRow]
    cases laid with
    | object arranged unknown shuffled =>
      refine follow.readMembers_eq_ok distinct arranged unknown shuffled fun member given => ?_
      exact skip_prepend_members.1 sound (some member.1, member.2)
        (List.mem_map.2 ⟨member, given, rfl⟩)
    | array listed => exact follow.readItems_eq_ok listed (skip_prepend_items.1 sound)
  refuses := by
    intro node amiss t accepted
    -- An object that is read has strings for keys, and then the fields speak about its members.
    obtain ⟨row, reads, -⟩ := exists_of_map_eq_ok accepted
    cases amiss with
    | lacking required lacks =>
      obtain ⟨named, rfl⟩ := Fields.exists_keyed reads
      obtain ⟨member, given, rfl⟩ := follow.mem_of_required reads required
      exact lacks (by simpa using ⟨member.2, given⟩)
    | twice known twice =>
      obtain ⟨named, rfl⟩ := Fields.exists_keyed reads
      have once := follow.length_valuesOf_le_one distinct reads known
      rw [length_valuesOf] at once
      omega
    | inside given amiss =>
      obtain ⟨named, rfl⟩ := Fields.exists_keyed reads
      obtain ⟨member, isMember, rfl⟩ := List.mem_map.1 given
      exact follow.not_amissAt distinct reads isMember amiss
    | among amiss => exact follow.readItems_ne_ok amiss row reads

end Relay.Json
