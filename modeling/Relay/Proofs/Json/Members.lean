import Relay.Json.Record

/-!
# Members of objects, one name at a time

A record is read from an object by going through its members in order, and the fields that have been
met are kept in a draft. Seen from one field this is simpler: it takes the values under its own
name, wherever they stand, and the other fields read what is left without them. What no field takes
is passed over at the end.

* `Fields.readMembers_eq_ok_iff` takes one field out of an object in this way.
-/

namespace Relay.Json

/-! ## (1) Results of readings in a row -/

section

variable {α β : Type} {reading : Except Fault α} {b : β}

/-- What comes of two readings in a row has come of the first one. -/
theorem exists_of_bind_eq_ok {next : α → Except Fault β} (h : reading.bind next = .ok b) :
    ∃ a, reading = .ok a ∧ next a = .ok b := by
  cases reading with
  | error fault => cases h
  | ok a => exact ⟨a, rfl, h⟩

/-- So has what comes of a reading that is turned into something else. -/
theorem exists_of_map_eq_ok {f : α → β} (h : reading.map f = .ok b) :
    ∃ a, reading = .ok a ∧ f a = b := by
  cases reading with
  | error fault => cases h
  | ok a => exact ⟨a, rfl, Except.ok.inj h⟩

end

/-! ## (2) Members of one name -/

/-- **Members of an object that ends**, under keys that are strings. An escape which leaves a
surrogate without its partner makes no string, and no record has room for such a key. -/
def keyed (members : List (String × Node)) : Members :=
  .prepend (members.map fun member => (some member.1, member.2)) (.done .closed)

/-- A written object ends, and its keys have contents. -/
theorem toMembers_eq_keyed (members : List (String × Json)) :
    toMembers members = keyed (members.map fun member => (member.1, member.2.toNode)) := by
  induction members with
  | nil => rfl
  | cons member members ih => rw [toMembers, ih]; rfl

/-- The values under a name. -/
def valuesOf (name : String) (members : List (String × Node)) : List Node :=
  (members.filter (·.1 = name)).map (·.2)

/-- The members under other names. -/
def without (name : String) (members : List (String × Node)) : List (String × Node) :=
  members.filter (·.1 ≠ name)

section

variable {name : String} {members others : List (String × Node)}

@[simp] theorem valuesOf_cons_self (node : Node) :
    valuesOf name ((name, node) :: members) = node :: valuesOf name members := by
  simp [valuesOf]

@[simp] theorem without_cons_self (node : Node) :
    without name ((name, node) :: members) = without name members := by
  simp [without]

theorem valuesOf_cons_of_ne {member : String × Node} (other : member.1 ≠ name) :
    valuesOf name (member :: members) = valuesOf name members := by
  simp [valuesOf, other]

theorem without_cons_of_ne {member : String × Node} (other : member.1 ≠ name) :
    without name (member :: members) = member :: without name members := by
  simp [without, other]

/-- There are no values under a name that no member has. -/
theorem valuesOf_eq_nil (foreign : ∀ member ∈ members, member.1 ≠ name) :
    valuesOf name members = [] := by
  simpa [valuesOf] using foreign

/-- Nothing is taken out under a name that no member has. -/
theorem without_eq_self (foreign : ∀ member ∈ members, member.1 ≠ name) :
    without name members = members := by
  simpa [without] using foreign

/-- The members under other names. -/
theorem mem_without {member : String × Node} :
    member ∈ without name members ↔ member ∈ members ∧ member.1 ≠ name := by
  simp [without]

/-- The values under a name are the ones of its members. -/
theorem mem_valuesOf {node : Node} : node ∈ valuesOf name members ↔ (name, node) ∈ members := by
  simp [valuesOf]

/-- Members under other names keep their values. -/
theorem valuesOf_without {name' : String} (other : name ≠ name') :
    valuesOf name (without name' members) = valuesOf name members := by
  have own : members.filter (fun member => member.1 = name ∧ member.1 ≠ name') =
      members.filter (·.1 = name) :=
    List.filter_congr fun member _ => by grind
  simp only [valuesOf, without, List.filter_filter]
  simpa using congrArg (List.map (·.2)) own

/-- There are as many values under a name as it is given. -/
theorem length_valuesOf : (valuesOf name members).length =
    ((members.map fun member => (some member.1, member.2)).map (·.1)).count (some name) := by
  rw [valuesOf, List.length_map, ← List.countP_eq_length_filter, List.map_map, List.count,
    List.countP_map]
  exact List.countP_congr fun member _ => by simp

/-- The order of members is none of their values. -/
theorem valuesOf_perm (name : String) (shuffled : members.Perm others) :
    (valuesOf name members).Perm (valuesOf name others) := (shuffled.filter _).map _

/-- The order of members is the only thing that taking others out may change. -/
theorem without_perm (name : String) (shuffled : members.Perm others) :
    (without name members).Perm (without name others) := shuffled.filter _

end

/-! ## (3) One field at a time -/

section

variable {α : Type} {αs : List Type} {field : Field α} {rest : Fields αs} {met : Option α} {a : α}

/-- **The values that a field takes** for its own: a single one if none has been met before, or
none at all. -/
def Field.Takes (field : Field α) (met : Option α) (a : α) : List Node → Prop
  | [] => (met <|> field.ifMissing) = some a
  | [node] => met = none ∧ field.read node = .ok a
  | _ => False

/-- A field takes one value at most. -/
theorem Field.Takes.length_le_one {values : List Node} (takes : field.Takes met a values) :
    values.length ≤ 1 := by
  rcases values with _ | ⟨first, _ | ⟨second, others⟩⟩
  · simp
  · simp
  · exact takes.elim

/-- A value that a field takes is read. -/
theorem Field.Takes.reads_of_mem {values : List Node} (takes : field.Takes met a values)
    {node : Node} (h : node ∈ values) : field.read node = .ok a := by
  rcases values with _ | ⟨first, _ | ⟨second, others⟩⟩
  · exact absurd h List.not_mem_nil
  · obtain rfl := List.mem_singleton.1 h
    exact takes.2
  · exact takes.elim

namespace Fields

/-- Members of an object are read one by one. -/
theorem readMembers_keyed_cons (fields : Fields αs) (draft : Draft αs) (key : String) (node : Node)
    (members : List (String × Node)) :
    fields.readMembers draft (keyed ((key, node) :: members)) =
      (fields.accept key node draft).bind fun draft => fields.readMembers draft (keyed members) :=
  rfl

/-- Members that are read have keys with contents. -/
theorem exists_keyed {fields : Fields αs} {draft : Draft αs} {row : Row αs}
    {members : List (Option String × Node)}
    (reads : fields.readMembers draft (.prepend members (.done .closed)) = .ok row) :
    ∃ named : List (String × Node),
      members = named.map fun member => (some member.1, member.2) := by
  induction members generalizing draft with
  | nil => exact ⟨[], rfl⟩
  | cons member members ih =>
    obtain ⟨_ | key, node⟩ := member
    · simp [Members.prepend, readMembers] at reads
    · obtain ⟨later, -, reads⟩ := exists_of_bind_eq_ok reads
      obtain ⟨named, rfl⟩ := ih reads
      exact ⟨(key, node) :: named, rfl⟩

/-- **One field of an object.** It takes the values under its name, and the fields behind it read
what is left without them. -/
theorem readMembers_eq_ok_iff {others : Draft αs} {row : Row αs}
    {members : List (String × Node)} :
    (cons field rest).readMembers (met, others) (keyed members) = .ok (a, row) ↔
      field.Takes met a (valuesOf field.name members) ∧
        rest.readMembers others (keyed (without field.name members)) = .ok row := by
  -- Along the members; a value of the field itself must be the first one that is met.
  induction members generalizing met others with
  | nil =>
    show complete (cons field rest) (met, others) = _ ↔
      (met <|> field.ifMissing) = some a ∧ rest.complete others = _
    rw [complete]
    cases met <|> field.ifMissing with
    | none => simp
    | some b =>
      cases rest.complete others with
      | error fault => simp [Except.map]
      | ok row' =>
        show Except.ok (b, row') = Except.ok (a, row) ↔ some b = some a ∧ Except.ok row' = .ok row
        rw [Except.ok.injEq, Except.ok.injEq, Option.some.injEq]
        exact Prod.mk.injEq .. ▸ Iff.rfl
  | cons member members ih =>
    obtain ⟨key, node⟩ := member
    show ((cons field rest).accept key node (met, others)).bind _ = _ ↔ _
    rw [accept]
    by_cases own : key = field.name
    · subst own
      rw [if_pos rfl, valuesOf_cons_self, without_cons_self]
      cases met with
      | some b =>
        have late : ¬ field.Takes (some b) a (node :: valuesOf field.name members) := by
          cases valuesOf field.name members <;> simp [Field.Takes]
        simp [late, Except.bind]
      | none =>
        cases reads : field.read node with
        | error fault =>
          have refused : ¬ field.Takes none a (node :: valuesOf field.name members) := by
            cases valuesOf field.name members <;> simp [Field.Takes, reads]
          simp [refused, Except.bind, Except.map]
        | ok b =>
          have first : field.Takes none a (node :: valuesOf field.name members) ↔
              field.Takes (some b) a (valuesOf field.name members) := by
            rcases valuesOf field.name members with _ | ⟨next, _ | ⟨last, behind⟩⟩ <;>
              simp [Field.Takes, reads]
          rw [first]
          exact ih
    · rw [if_neg own, valuesOf_cons_of_ne own, without_cons_of_ne own, readMembers_keyed_cons]
      cases rest.accept key node others with
      | error fault => simp [Except.bind, Except.map]
      | ok others => exact ih

/-- **No field at all** passes over every member. -/
theorem nil_readMembers_eq_ok {members : List (String × Node)} {draft : Draft []}
    (sound : ∀ member ∈ members, member.2.skip = .ok ()) :
    nil.readMembers draft (keyed members) = .ok () := by
  induction members with
  | nil => rfl
  | cons member members ih =>
    rw [readMembers_keyed_cons, accept, sound member List.mem_cons_self]
    exact ih fun other inMembers => sound other (List.mem_cons_of_mem _ inMembers)

end Fields

end

end Relay.Json
