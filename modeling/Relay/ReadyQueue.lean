import Relay.Message

/-!
# The ready queue

Which message queues of which stages hold messages. Slots are ordered by stage, and within a stage
the requests come first, so that the first slot is the message to treat next.
-/

namespace Relay

/-! ## (1) Slots -/

/-- **A message queue**: that of the requests or that of the responses waiting at a stage. -/
structure Slot where
  stage : Nat
  kind : MessageKind
  deriving DecidableEq, Inhabited

/-- The place of a slot in the order of treatment. -/
def Slot.rank (slot : Slot) : Nat := 2 * slot.stage + slot.kind.rank

/-- Slots with the same rank are the same. -/
theorem Slot.rank_inj {a b : Slot} : a.rank = b.rank ↔ a = b := by
  obtain ⟨s, k⟩ := a
  obtain ⟨t, l⟩ := b
  cases k <;> cases l <;> simp [Slot.rank, MessageKind.rank] <;> omega

/-- Slots are treated by stage, and within a stage the request first. -/
theorem Slot.rank_lt_iff {a b : Slot} :
    a.rank < b.rank ↔ a.stage < b.stage ∨ a.stage = b.stage ∧ a.kind.rank < b.kind.rank := by
  obtain ⟨s, k⟩ := a
  obtain ⟨t, l⟩ := b
  cases k <;> cases l <;> simp [Slot.rank, MessageKind.rank] <;> omega

/-! ## (2) The queue -/

/-- Slots in the order of treatment, each at most once. -/
def Slot.Ordered (slots : List Slot) : Prop := slots.Pairwise fun a b => a.rank < b.rank

/-- A slot put in its place. -/
def Slot.insert (slot : Slot) : List Slot → List Slot
  | [] => [slot]
  | first :: rest =>
    if slot.rank < first.rank then slot :: first :: rest
    else if slot = first then first :: rest
    else first :: insert slot rest

/-- Exactly the new slot joins. -/
theorem Slot.mem_insert {slot other : Slot} {slots : List Slot} :
    other ∈ slot.insert slots ↔ other = slot ∨ other ∈ slots := by
  induction slots with
  | nil => simp [Slot.insert]
  | cons first rest ih =>
    unfold Slot.insert
    split
    · simp
    · split
      · rename_i same
        simp [same]
      · simp only [List.mem_cons, ih]
        exact ⟨fun h => by rcases h with h | h | h <;> simp [h],
          fun h => by rcases h with h | h | h <;> simp [h]⟩

/-- Insertion keeps the order. -/
theorem Slot.Ordered.insert {slots : List Slot} (h : Slot.Ordered slots) (slot : Slot) :
    Slot.Ordered (slot.insert slots) := by
  induction slots with
  | nil => simp [Slot.insert, Slot.Ordered]
  | cons first rest ih =>
    obtain ⟨before, ordered⟩ := List.pairwise_cons.mp h
    unfold Slot.insert
    split
    · rename_i less
      refine List.pairwise_cons.mpr ⟨fun other mem => ?_, h⟩
      rcases List.mem_cons.mp mem with rfl | mem
      · exact less
      · exact Nat.lt_trans less (before other mem)
    · split
      · exact h
      · rename_i notLess different
        refine List.pairwise_cons.mpr ⟨fun other mem => ?_, ih ordered⟩
        rcases Slot.mem_insert.mp mem with rfl | mem
        · have := mt Slot.rank_inj.mp different
          omega
        · exact before other mem

/-- **The ready queue**: the slots of the queues that hold messages, in the order of treatment. -/
structure ReadyQueue where
  slots : List Slot
  ordered : Slot.Ordered slots

namespace ReadyQueue

instance : Membership Slot ReadyQueue := ⟨fun queue slot => slot ∈ queue.slots⟩

instance (slot : Slot) (queue : ReadyQueue) : Decidable (slot ∈ queue) :=
  inferInstanceAs (Decidable (slot ∈ queue.slots))

/-- The queue in which nothing is ready. -/
def empty : ReadyQueue := ⟨[], List.Pairwise.nil⟩

instance : Inhabited ReadyQueue := ⟨empty⟩

/-- The queue with a slot marked as holding messages. -/
def mark (queue : ReadyQueue) (slot : Slot) : ReadyQueue :=
  ⟨slot.insert queue.slots, queue.ordered.insert slot⟩

/-- The queue with a slot no longer marked. -/
def clear (queue : ReadyQueue) (slot : Slot) : ReadyQueue :=
  ⟨queue.slots.filter (· ≠ slot), queue.ordered.filter _⟩

/-- **The slot to treat next.** -/
def next? (queue : ReadyQueue) : Option Slot := queue.slots.head?

/-- The number of marked slots. -/
def size (queue : ReadyQueue) : Nat := queue.slots.length

/-- Whether nothing is ready. -/
def isEmpty (queue : ReadyQueue) : Bool := queue.slots.isEmpty

/-- Nothing is in the empty queue. -/
@[simp] theorem not_mem_empty (slot : Slot) : slot ∉ empty := List.not_mem_nil

/-- Marking adds exactly the marked slot. -/
@[simp] theorem mem_mark {queue : ReadyQueue} {slot other : Slot} :
    other ∈ queue.mark slot ↔ other = slot ∨ other ∈ queue := Slot.mem_insert

/-- Clearing removes exactly the cleared slot. -/
@[simp] theorem mem_clear {queue : ReadyQueue} {slot other : Slot} :
    other ∈ queue.clear slot ↔ other ∈ queue ∧ other ≠ slot := by
  show other ∈ queue.slots.filter _ ↔ other ∈ queue.slots ∧ _
  simp

/-- Queues with the same slots are the same. -/
theorem ext {a b : ReadyQueue} (h : a.slots = b.slots) : a = b := by
  cases a
  cases b
  cases h
  rfl

open Relay.Text in
/-- The display of a slot. -/
def showSlot (slot : Slot) : Shown := .tuple "" [.nat slot.stage, .plain slot.kind.label]

open Relay.Text in
/-- The display of a queue. -/
def shown (queue : ReadyQueue) : Shown :=
  .fields "ReadyQueue" [("slots", .set (queue.slots.map showSlot))] false

end ReadyQueue

end Relay
