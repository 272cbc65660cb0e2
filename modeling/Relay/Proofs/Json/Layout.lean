import Mathlib.Data.List.Forall2
import Relay.Proofs.Json.Restoring

/-!
# Layouts of records

One value may stand in a text in many ways. A record is laid out as an object, with its members in
any order, with foreign members among them, and without those whose values are defaults; or as an
array of its fields, which may stop early if only defaults are left. This goes on inside the fields,
and each of them may be laid out in a way of its own. A text may also miss: it lacks a field that
has no default, or gives a field twice.

The layouts are described without a reader: nothing is said here of how they are read.

* `Style` describes the layouts of the values of a type, and `Columns` those of the fields of a
  record with their names and defaults.
* `Columns.Lays` and `Columns.Amiss` are the layouts of whole records and what is amiss in them.
* `Style.record_lays_write` says that what is written of a record is one of its layouts.
-/

namespace Relay.Json

/-! ## (1) Styles -/

/-- **The layouts of the values of a type**: which values of texts stand for a value, and which ones
are refused because something is amiss inside. -/
structure Style (α : Type) where
  lays : α → Node → Prop
  amiss : Node → Prop

/-- **A record by its columns**: names, defaults and layouts of its fields. A field without a
default has to be there. -/
inductive Columns : List Type → Type 1 where
  | nil : Columns []
  | cons {α : Type} {αs : List Type} (name : String) (default : Option α) (style : Style α)
      (rest : Columns αs) : Columns (α :: αs)

namespace Style

variable {α : Type}

/-- Values that stand in texts in one way only. -/
def exactly (node : α → Node) : Style α := ⟨fun a laid => laid = node a, fun _ => False⟩

/-- Optional values; `null` is the absence of one. -/
def option (style : Style α) : Style (Option α) where
  lays value node :=
    match value with
    | none => node = .null
    | some a => style.lays a node
  amiss := style.amiss

/-- Lists, item by item. -/
def list (style : Style α) : Style (List α) where
  lays items node := ∃ nodes, node = .array (.prepend nodes (.done .closed)) ∧
    List.Forall₂ style.lays items nodes
  amiss node := ∃ nodes, node = .array (.prepend nodes (.done .closed)) ∧
    ∃ item ∈ nodes, style.amiss item

end Style

/-! ## (2) Columns -/

namespace Columns

/-- The names of the columns, in order. -/
def names : {αs : List Type} → Columns αs → List String
  | [], .nil => []
  | _ :: _, .cons name _ _ rest => name :: rest.names

/-- The names of the columns without a default. -/
def required : {αs : List Type} → Columns αs → List String
  | [], .nil => []
  | _ :: _, .cons name default _ rest =>
    if default.isNone then name :: rest.required else rest.required

/-- **Members for the values of a row**, in the order of the columns. Where the value is the default
there need not be one. -/
def Arranged : {αs : List Type} → Columns αs → Row αs → List (String × Node) → Prop
  | [], .nil, _, members => members = []
  | _ :: _, .cons name default style rest, (a, others), members =>
    (default = some a ∧ rest.Arranged others members) ∨
      ∃ node behind, members = (name, node) :: behind ∧ style.lays a node ∧
        rest.Arranged others behind

/-- **Items for the values of a row.** The items may end where all values behind are defaults. -/
def Listed : {αs : List Type} → Columns αs → Row αs → List Node → Prop
  | [], .nil, _, items => items = []
  | _ :: _, .cons _ default style rest, (a, others), items =>
    (items = [] ∧ default = some a ∧ rest.Listed others []) ∨
      ∃ node behind, items = node :: behind ∧ style.lays a node ∧ rest.Listed others behind

/-- **The layouts of a row**: the members of its values among foreign ones, in any order, or its
items. -/
inductive Lays {αs : List Type} (columns : Columns αs) (row : Row αs) : Node → Prop where
  | object {own foreign members : List (String × Node)} (arranged : columns.Arranged row own)
      (unknown : ∀ member ∈ foreign, member.1 ∉ columns.names)
      (shuffled : members.Perm (own ++ foreign)) : Lays columns row (.object (keyed members))
  | array {items : List Node} (listed : columns.Listed row items) :
      Lays columns row (.array (.prepend items (.done .closed)))

/-- A value under a key has something amiss, in the style of the column of that name. -/
def AmissAt : {αs : List Type} → Columns αs → Option String → Node → Prop
  | [], .nil, _, _ => False
  | _ :: _, .cons name _ style rest, key, node =>
    (key = some name ∧ style.amiss node) ∨ rest.AmissAt key node

/-- Items have something amiss: one of them does, or they end in front of a column without a
default. -/
def AmissAmong : {αs : List Type} → Columns αs → List Node → Prop
  | [], .nil, _ => False
  | _ :: _, .cons _ default _ rest, [] => default = none ∨ rest.AmissAmong []
  | _ :: _, .cons _ _ style rest, node :: behind => style.amiss node ∨ rest.AmissAmong behind

/-- **What is amiss in a record**: an object lacks a column without a default, gives a column twice,
or has something amiss in one of its columns; or an array has something amiss among its items. -/
inductive Amiss {αs : List Type} (columns : Columns αs) : Node → Prop where
  | lacking {members : List (Option String × Node)} {name : String}
      (required : name ∈ columns.required) (lacks : some name ∉ members.map (·.1)) :
      Amiss columns (.object (.prepend members (.done .closed)))
  | twice {members : List (Option String × Node)} {name : String} (known : name ∈ columns.names)
      (twice : 2 ≤ (members.map (·.1)).count (some name)) :
      Amiss columns (.object (.prepend members (.done .closed)))
  | inside {members : List (Option String × Node)} {member : Option String × Node}
      (given : member ∈ members) (amiss : columns.AmissAt member.1 member.2) :
      Amiss columns (.object (.prepend members (.done .closed)))
  | among {items : List Node} (amiss : columns.AmissAmong items) :
      Amiss columns (.array (.prepend items (.done .closed)))

/-- Members are arranged under names of columns. -/
theorem mem_names_of_arranged {αs : List Type} {columns : Columns αs} {row : Row αs}
    {members : List (String × Node)} (arranged : columns.Arranged row members)
    {member : String × Node} (h : member ∈ members) : member.1 ∈ columns.names := by
  induction columns generalizing members with
  | nil =>
    obtain rfl : members = [] := arranged
    exact absurd h List.not_mem_nil
  | cons name default style rest ih =>
    obtain ⟨a, others⟩ := row
    rcases arranged with ⟨-, arranged⟩ | ⟨node, behind, rfl, -, arranged⟩
    · exact List.mem_cons_of_mem _ (ih arranged h)
    · rcases List.mem_cons.1 h with rfl | h
      · exact List.mem_cons_self
      · exact List.mem_cons_of_mem _ (ih arranged h)

/-- Something is amiss only under names of columns. -/
theorem mem_names_of_amissAt {αs : List Type} {columns : Columns αs} {key : String} {node : Node}
    (amiss : columns.AmissAt (some key) node) : key ∈ columns.names := by
  induction columns with
  | nil => exact amiss.elim
  | cons name default style rest ih =>
    rcases amiss with ⟨same, -⟩ | amiss
    · obtain rfl := Option.some.inj same
      exact List.mem_cons_self
    · exact List.mem_cons_of_mem _ (ih amiss)

end Columns

/-- The style of a record. -/
def Style.record {τ : Type} {αs : List Type} (columns : Columns αs) (row : τ → Row αs) :
    Style τ where
  lays t := columns.Lays (row t)
  amiss := columns.Amiss

namespace Style

variable {τ : Type} {αs : List Type} {columns : Columns αs} {row : τ → Row αs}

/-- A record is never laid out as `null`. -/
theorem not_record_lays_null (t : τ) : ¬ (record columns row).lays t .null := nofun

/-- There is nothing amiss in `null`, which is no layout of a record at all. -/
theorem not_record_amiss_null : ¬ (record columns row).amiss .null := nofun

end Style

/-! ## (3) Written records -/

/-- **Fields that write layouts**: what a field writes is a layout of its value, and what it leaves
out is the default. -/
def Fields.WriteLayouts : {αs : List Type} → Fields αs → Columns αs → Row αs → Prop
  | [], .nil, .nil, _ => True
  | _ :: _, .cons field fields, .cons name default style columns, (a, others) =>
    field.name = name ∧
      (if field.omits a then default = some a else style.lays a (field.write a).toNode) ∧
      fields.WriteLayouts columns others

/-- Written members are arranged. -/
theorem Fields.arranged_write {αs : List Type} {fields : Fields αs} {columns : Columns αs}
    {row : Row αs} (written : fields.WriteLayouts columns row) :
    columns.Arranged row ((fields.write row).map fun member => (member.1, member.2.toNode)) := by
  induction fields with
  | nil =>
    cases columns
    rfl
  | cons field fields ih =>
    obtain _ | ⟨name, default, style, columns⟩ := columns
    obtain ⟨a, others⟩ := row
    obtain ⟨rfl, first, behind⟩ := written
    rw [write]
    by_cases omitted : field.omits a
    · rw [if_pos omitted] at first ⊢
      exact .inl ⟨first, ih behind⟩
    · rw [if_neg omitted] at first ⊢
      exact .inr ⟨_, _, rfl, first, ih behind⟩

/-- **A written record is a layout** of its value if its fields write layouts. -/
theorem Style.record_lays_write {τ : Type} (record : Record τ) (columns : Columns record.types)
    {t : τ} (written : record.fields.WriteLayouts columns (record.toRow t)) :
    (Style.record columns record.toRow).lays t (record.write t).toNode := by
  have arranged := Fields.arranged_write written
  show Columns.Lays columns _ (.object (toMembers _))
  rw [toMembers_eq_keyed]
  have noForeign : ∀ member ∈ ([] : List (String × Node)), member.1 ∉ columns.names := nofun
  refine .object arranged noForeign ?_
  rw [List.append_nil]

end Relay.Json
