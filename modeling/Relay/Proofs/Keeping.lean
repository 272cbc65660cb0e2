import Mathlib.Data.Set.Card
import Relay.Stage.Data

/-!
# What a stage keeps

The data of a stage are put, looked up, changed and removed by keys that share their names across
types. What a key has is told by the history alone: the latest value put under its name, if it was
put by that very key and not removed by it since, with all changes that the key has brought about.

* `DataStep` lists what may be done, and `StageData.ofHistory` does it.
* `DataStep.Tells` says what a history tells of a key, and `DataStep.tells_concat` how one more step
  changes that.
* `StageData.history_tells` is the result.
-/

namespace Relay

variable {Kind : Type} {Value : Kind → Type}

/-! ## (1) Histories -/

/-- **What may be done** with the data of a stage. -/
inductive DataStep (Value : Kind → Type) where
  | put (key : DataKey Kind) (value : Value key.kind)
  | get (key : DataKey Kind)
  | change (key : DataKey Kind) (f : Value key.kind → Value key.kind)
  | remove (key : DataKey Kind)
  | contains (key : DataKey Kind)

namespace DataStep

/-- The key that something is done with. -/
def key : DataStep Value → DataKey Kind
  | put key _ | get key | change key _ | remove key | contains key => key

variable [DecidableEq Kind]

/-- The data afterwards. -/
def apply (data : StageData Value) : DataStep Value → StageData Value
  | put key value => (data.put key value).2
  | change key f => (data.modify key f).2
  | remove key => (data.remove key).2
  | get _ | contains _ => data

/-- **Steps that leave a key its value**: nothing is put under its name, not even by a key of
another type, and the key itself does not remove it. -/
def Spares (target : DataKey Kind) : DataStep Value → Prop
  | put key _ => key.name ≠ target.name
  | remove key => key ≠ target
  | get _ | change _ _ | contains _ => True

/-- What a step makes of the value of a key that it spares. -/
def revise (target : DataKey Kind) : DataStep Value → Value target.kind → Value target.kind
  | change key f, value => if same : key = target then (same ▸ f) value else value
  | put _ _, value | get _, value | remove _, value | contains _, value => value

/-- A change makes of a value what it is meant to. -/
@[simp] theorem revise_change_self (key : DataKey Kind) (f : Value key.kind → Value key.kind) :
    (change key f).revise key = f := by
  funext value
  exact dif_pos rfl

/-- A change by another key makes nothing of it. -/
theorem revise_change_of_ne {key target : DataKey Kind} (other : key ≠ target)
    (f : Value key.kind → Value key.kind) : (change key f).revise target = id := by
  funext value
  exact dif_neg other

/-- **What a history tells of a key**: its value has been put by the key, has been spared by all
steps since, and is what their changes have made of it. -/
def Tells (history : List (DataStep Value)) (target : DataKey Kind) (value : Value target.kind) :
    Prop :=
  ∃ before first behind, history = before ++ put target first :: behind ∧
    (∀ step ∈ behind, step.Spares target) ∧
      value = behind.foldl (fun value step => step.revise target value) first

end DataStep

/-- **The data after a history** that begins with none. -/
def StageData.ofHistory [DecidableEq Kind] (history : List (DataStep Value)) : StageData Value :=
  history.foldl DataStep.apply .empty

/-- Keys with the same name are told apart by their types. -/
theorem DataKey.kind_ne_of_name_eq {key target : DataKey Kind} (name : key.name = target.name)
    (other : key ≠ target) : key.kind ≠ target.kind := by
  intro kind
  cases key
  cases target
  cases name
  cases kind
  exact other rfl

/-! ## (2) One more step -/

section Step

variable [DecidableEq Kind] {history : List (DataStep Value)} {step : DataStep Value}
  {data : StageData Value} {target : DataKey Kind} {value : Value target.kind}

/-- A history that is empty tells nothing. -/
theorem DataStep.not_tells_nil : ¬ Tells [] target value := by
  rintro ⟨before, first, behind, split, -⟩
  cases before <;> cases split

/-- **What a history tells with one more step**: a value that this step puts, or what it makes of
one that it spares. -/
theorem DataStep.tells_concat :
    Tells (history ++ [step]) target value ↔ step = put target value ∨
      ∃ old, Tells history target old ∧ step.Spares target ∧ value = step.revise target old := by
  constructor
  · rintro ⟨before, first, behind, split, spared, rfl⟩
    rcases List.eq_nil_or_concat' behind with rfl | ⟨rest, last, rfl⟩
    · obtain ⟨-, same⟩ := List.append_inj' split rfl
      exact .inl (List.singleton_inj.mp same)
    · have shorter : history ++ [step] = (before ++ put target first :: rest) ++ [last] := by
        simp [split]
      obtain ⟨rfl, same⟩ := List.append_inj' shorter rfl
      obtain rfl := List.singleton_inj.mp same
      refine .inr ⟨_, ⟨before, first, rest, rfl, ?_, rfl⟩, ?_, ?_⟩
      · exact fun other member => spared other (List.mem_append_left _ member)
      · exact spared step (by simp)
      · simp
  · rintro (rfl | ⟨old, ⟨before, first, behind, rfl, spared, rfl⟩, isSpared, rfl⟩)
    · exact ⟨history, value, [], rfl, by simp, rfl⟩
    · refine ⟨before, first, behind ++ [step], by simp, fun other member => ?_, by simp⟩
      rcases List.mem_append.mp member with isEarlier | isLast
      · exact spared other isEarlier
      · rwa [List.mem_singleton.mp isLast]

namespace StageData

/-- What is kept under a name is read by the keys of its type. -/
theorem get?_of_stored? {stored : Stored Value}
    (isStored : data.stored? target.name = some stored) :
    data.get? target = stored.as? target.kind := by
  rw [get?, isStored]
  rfl

/-- Nothing is read where nothing is kept. -/
theorem get?_of_stored?_eq_none (isFree : data.stored? target.name = none) :
    data.get? target = none := by
  rw [get?, isFree]
  rfl

/-- Names that keep the same are read alike. -/
theorem get?_congr {other : StageData Value}
    (same : other.stored? target.name = data.stored? target.name) :
    other.get? target = data.get? target := by
  rw [get?, get?, same]

/-- A value is read by a key of its type only. -/
theorem get?_eq_none_of_kind_ne {key : DataKey Kind} (has : (data.get? key).isSome = true)
    (name : key.name = target.name) (kind : key.kind ≠ target.kind) : data.get? target = none := by
  obtain ⟨value, isValue⟩ := Option.isSome_iff_exists.mp has
  obtain ⟨stored, isStored, isRead⟩ := Option.bind_eq_some_iff.mp isValue
  have own : stored.kind = key.kind := by
    by_contra other
    simp [Stored.as?, other] at isRead
  rw [get?_of_stored? (name ▸ isStored), Stored.as?, dif_neg (own ▸ kind)]

/-- **A step keeps to its name.** -/
theorem stored?_apply_of_ne {name : String} (other : name ≠ step.key.name) :
    (step.apply data).stored? name = data.stored? name := by
  cases step with
  | put key value => exact stored?_insert_of_ne data _ other
  | get _ => rfl
  | change key f =>
    rw [DataStep.apply, modify]
    split
    · exact stored?_insert_of_ne data _ other
    · rfl
  | remove key =>
    rw [DataStep.apply, remove]
    split
    · exact stored?_erase_of_ne data other
    · rfl
  | contains _ => rfl

/-- **What a key has after a put.** -/
theorem get?_put (data : StageData Value) (key : DataKey Kind) (put : Value key.kind) :
    (data.put key put).2.get? target = some value ↔
      DataStep.put key put = DataStep.put target value ∨
        data.get? target = some value ∧ key.name ≠ target.name := by
  by_cases name : key.name = target.name
  · have isStored : (data.put key put).2.stored? target.name = some ⟨key.kind, put⟩ :=
      name ▸ stored?_insert_self data key.name _
    rw [get?_of_stored? isStored]
    obtain ⟨_, kind⟩ := key
    obtain ⟨_, other⟩ := target
    cases name
    by_cases same : kind = other
    · subst same
      simp
    · simp [Stored.as?, same]
  · have apart : (data.put key put).2.get? target = data.get? target :=
      get?_congr (stored?_insert_of_ne data _ (Ne.symm name))
    have notPut : DataStep.put key put ≠ DataStep.put target value :=
      fun same => name (congrArg (fun step => step.key.name) same)
    simp [apart, name, notPut]

/-- **What a key has after a change.** -/
theorem get?_modify (data : StageData Value) (key : DataKey Kind)
    (f : Value key.kind → Value key.kind) :
    (data.modify key f).2.get? target =
      (data.get? target).map ((DataStep.change key f).revise target) := by
  cases has : data.get? key with
  | none =>
    rw [modify_of_get?_eq_none has]
    by_cases same : key = target
    · subst same
      rw [has]
      rfl
    · rw [DataStep.revise_change_of_ne same, Option.map_id_fun]
      rfl
  | some value =>
    have changed : (data.modify key f).2 = (data.put key (f value)).2 := by
      rw [modify, has]
      rfl
    rw [changed]
    by_cases same : key = target
    · subst same
      rw [get?_put_self, has, DataStep.revise_change_self]
      rfl
    · rw [DataStep.revise_change_of_ne same, Option.map_id_fun]
      by_cases name : key.name = target.name
      · -- What is kept under the name is of the type of the other key, before as after.
        have kind := DataKey.kind_ne_of_name_eq name same
        have isNew : ((data.put key (f value)).2.get? key).isSome = true := by
          rw [get?_put_self]
          rfl
        exact (get?_eq_none_of_kind_ne isNew name kind).trans
          (get?_eq_none_of_kind_ne (Option.isSome_of_eq_some has) name kind).symm
      · exact get?_congr (stored?_insert_of_ne data _ (Ne.symm name))

/-- **What a key has after a removal.** -/
theorem get?_remove (data : StageData Value) (key : DataKey Kind) :
    (data.remove key).2.get? target = if key = target then none else data.get? target := by
  cases has : data.get? key with
  | none =>
    rw [remove_of_get?_eq_none has]
    split
    · rename_i same
      exact same ▸ has
    · rfl
  | some value =>
    have erased : (data.remove key).2 = data.erase key.name := by rw [remove, has]
    rw [erased]
    by_cases name : key.name = target.name
    · have isFree : (data.erase key.name).get? target = none :=
        get?_of_stored?_eq_none (name ▸ stored?_erase_self data key.name)
      rw [isFree]
      split
      · rfl
      · rename_i other
        exact (get?_eq_none_of_kind_ne (Option.isSome_of_eq_some has) name
          (DataKey.kind_ne_of_name_eq name other)).symm
    · rw [if_neg fun same => name (congrArg DataKey.name same)]
      exact get?_congr (stored?_erase_of_ne data (Ne.symm name))

/-- **What a key has after a step**: a value that the step puts, or what it makes of one that it
spares. -/
theorem get?_apply :
    (step.apply data).get? target = some value ↔ step = .put target value ∨
      ∃ old, data.get? target = some old ∧ step.Spares target ∧ value = step.revise target old := by
  cases step with
  | put key put =>
    rw [DataStep.apply, get?_put]
    simp [DataStep.Spares, DataStep.revise]
  | get _ => simp [DataStep.apply, DataStep.Spares, DataStep.revise]
  | change key f =>
    rw [DataStep.apply, get?_modify]
    simp [DataStep.Spares, eq_comm]
  | remove key =>
    rw [DataStep.apply, get?_remove]
    by_cases same : key = target <;> simp [DataStep.Spares, DataStep.revise, same]
  | contains _ => simp [DataStep.apply, DataStep.Spares, DataStep.revise]

/-! ## (3) Names in use -/

omit [DecidableEq Kind] in
/-- Something is kept under exactly the names in use. -/
theorem stored?_isSome_iff {name : String} :
    (data.stored? name).isSome = true ↔ name ∈ data.entries.map Prod.fst := by
  rw [stored?, Option.isSome_map, List.find?_isSome, List.mem_map]
  simp

/-- **A name is in use** exactly if a key of that name has a value. -/
theorem exists_get?_iff {name : String} :
    (∃ kind value, data.get? ⟨name, kind⟩ = some value) ↔ name ∈ data.entries.map Prod.fst := by
  rw [← stored?_isSome_iff]
  constructor
  · rintro ⟨kind, value, has⟩
    obtain ⟨stored, isStored, -⟩ := Option.bind_eq_some_iff.mp has
    exact Option.isSome_of_eq_some isStored
  · intro inUse
    obtain ⟨⟨kind, value⟩, isStored⟩ := Option.isSome_iff_exists.mp inUse
    refine ⟨kind, value, ?_⟩
    rw [get?, isStored]
    exact Stored.as?_self kind value

/-- **There are as many entries as names in use.** -/
theorem encard_names (data : StageData Value) :
    {name | ∃ kind value, data.get? ⟨name, kind⟩ = some value}.encard = data.size := by
  have names : {name | ∃ kind value, data.get? ⟨name, kind⟩ = some value} =
      ((data.entries.map Prod.fst).toFinset : Set String) := by
    ext name
    have inUse : (∃ kind value, data.get? ⟨name, kind⟩ = some value) ↔
        name ∈ data.entries.map Prod.fst := exists_get?_iff
    simpa using inUse
  rw [names, Set.encard_coe_eq_coe_finsetCard, List.toFinset_card_of_nodup data.distinct,
    List.length_map]
  rfl

/-! ## (4) The result -/

/-- **What the data tell is what the history tells.** -/
theorem get?_ofHistory (history : List (DataStep Value)) (target : DataKey Kind)
    (value : Value target.kind) :
    (ofHistory history).get? target = some value ↔ DataStep.Tells history target value := by
  induction history using List.reverseRecOn generalizing value with
  | nil => exact iff_of_false (by simp [ofHistory, get?]) DataStep.not_tells_nil
  | append_singleton history step ih =>
    have last : ofHistory (history ++ [step]) = step.apply (ofHistory history) := by
      simp [ofHistory]
    rw [last, get?_apply, DataStep.tells_concat]
    simp only [ih]

/-- **What a stage keeps is told by the history of its data.** A key has a value exactly if the
latest value put under its name was put by that key and not removed by it since, and the value is
what the changes by the key have made of that one, in order. A put answers with what its key had
before, and takes the place of whatever is kept under the name; a change and a removal answer with
what becomes of the value of their key. A key of another type than the one in use under its name has
no value, and neither changes nor removes anything. A key is contained if it has a value. There are
as many entries as names that are in use, each with one value of one type, and nothing that is done
with one name affects another. -/
theorem history_tells {Kind : Type} [DecidableEq Kind] {Value : Kind → Type}
    (history : List (DataStep Value)) :
    let data := ofHistory history
    (∀ key value, data.get? key = some value ↔ DataStep.Tells history key value) ∧
    (∀ key value, (data.put key value).1 = data.get? key ∧
      (data.put key value).2.get? key = some value ∧
      ∀ other : DataKey Kind, other.name = key.name → other ≠ key →
        (data.put key value).2.get? other = none) ∧
    (∀ key value, DataStep.Tells history key value →
      (∀ f, (data.modify key f).1 = some (f value) ∧
        (data.modify key f).2.get? key = some (f value)) ∧
      (data.remove key).1 = some value ∧
      (∀ kind, (data.remove key).2.get? ⟨key.name, kind⟩ = none) ∧
      ∀ other : DataKey Kind, other.name = key.name → other ≠ key → data.get? other = none ∧
        (∀ f, data.modify other f = (none, data)) ∧ data.remove other = (none, data)) ∧
    (∀ key, (∀ value, ¬ DataStep.Tells history key value) →
      (∀ f, data.modify key f = (none, data)) ∧ data.remove key = (none, data)) ∧
    (∀ key, data.contains key = true ↔ ∃ value, DataStep.Tells history key value) ∧
    {name | ∃ kind value, DataStep.Tells history ⟨name, kind⟩ value}.encard = data.size ∧
    ∀ (step : DataStep Value) (key : DataKey Kind), key.name ≠ step.key.name →
      (step.apply data).get? key = data.get? key := by
  intro data
  have tells (key : DataKey Kind) (value : Value key.kind) :
      data.get? key = some value ↔ DataStep.Tells history key value :=
    get?_ofHistory history key value
  refine ⟨tells, ?put, ?has, ?lacks, ?contains, ?names, ?others⟩
  case put =>
    intro key value
    refine ⟨rfl, get?_put_self data key value, fun other name different => ?_⟩
    have isNew : ((data.put key value).2.get? key).isSome = true :=
      Option.isSome_of_eq_some (get?_put_self data key value)
    exact get?_eq_none_of_kind_ne isNew name.symm
      (DataKey.kind_ne_of_name_eq name.symm different.symm)
  case has =>
    intro key value told
    have has := (tells key value).mpr told
    have apart (other : DataKey Kind) (name : other.name = key.name) (different : other ≠ key) :
        data.get? other = none :=
      get?_eq_none_of_kind_ne (Option.isSome_of_eq_some has) name.symm
        (DataKey.kind_ne_of_name_eq name.symm different.symm)
    refine ⟨fun f => ⟨?_, ?_⟩, ?_, fun kind => ?_, fun other name different => ?_⟩
    · rw [modify, has]
    · rw [get?_modify, has, DataStep.revise_change_self]
      rfl
    · rw [remove, has]
    · rw [get?_remove]
      split
      · rfl
      · rename_i different
        exact apart _ rfl (Ne.symm different)
    · have lacks := apart other name different
      exact ⟨lacks, modify_of_get?_eq_none lacks, remove_of_get?_eq_none lacks⟩
  case lacks =>
    intro key untold
    have lacks : data.get? key = none :=
      Option.eq_none_iff_forall_not_mem.mpr fun value has => untold value ((tells key value).mp has)
    exact ⟨modify_of_get?_eq_none lacks, remove_of_get?_eq_none lacks⟩
  case contains =>
    intro key
    rw [contains, Option.isSome_iff_exists]
    exact exists_congr (tells key)
  case names =>
    rw [← encard_names data]
    simp only [tells]
  case others =>
    intro step key other
    exact get?_congr (stored?_apply_of_ne other)

end StageData

end Step

end Relay
