import Mathlib.Data.Set.Card
import Relay.Proofs.Schedule

/-!
# What is ready

The ready queue is a set of slots with an order of treatment. What it holds is told by the history
of its marks alone: a slot is in it if the last thing done with the slot was to mark it, however
often it was marked and whatever was done with other slots in between.

* `ReadyStep` lists what may be done, and `ReadyQueue.ofHistory` does it.
* `ReadyStep.Marks` says what a history tells of a slot, and `ReadyStep.marks_concat` how one more
  step changes that.
* `ReadyQueue.marks_are_kept_in_order` is the result.
-/

namespace Relay

/-! ## (1) Histories -/

/-- **What may be done** with the ready queue. -/
inductive ReadyStep where
  | mark (slot : Slot)
  | clear (slot : Slot)
  deriving DecidableEq

namespace ReadyStep

/-- The slot that something is done with. -/
def slot : ReadyStep → Slot
  | mark slot | clear slot => slot

/-- The queue afterwards. -/
def apply (queue : ReadyQueue) : ReadyStep → ReadyQueue
  | mark slot => queue.mark slot
  | clear slot => queue.clear slot

/-- One step decides about its own slot and leaves all others as they are. -/
theorem mem_apply {queue : ReadyQueue} {step : ReadyStep} {slot : Slot} :
    slot ∈ step.apply queue ↔
      step = mark slot ∨ step.slot ≠ slot ∧ slot ∈ queue := by
  cases step with
  | mark own =>
    rw [apply, ReadyQueue.mem_mark, mark.injEq, ReadyStep.slot]
    by_cases same : own = slot
    · simp [same]
    · simp [same, Ne.symm same]
  | clear own =>
    rw [apply, ReadyQueue.mem_clear, ReadyStep.slot, ne_comm, and_comm]
    simp

/-- **What a history tells of a slot**: the last thing done with it was to mark it. -/
def Marks (history : List ReadyStep) (slot : Slot) : Prop :=
  ∃ before behind, history = before ++ mark slot :: behind ∧ ∀ step ∈ behind, step.slot ≠ slot

/-- At the beginning nothing is marked. -/
theorem not_marks_nil (slot : Slot) : ¬ Marks [] slot := by
  rintro ⟨before, behind, history, -⟩
  exact absurd history (by simp)

/-- **One more step** marks its slot, or is one that leaves what was told of the slot. -/
theorem marks_concat {history : List ReadyStep} {step : ReadyStep} {slot : Slot} :
    Marks (history ++ [step]) slot ↔ step = mark slot ∨ step.slot ≠ slot ∧ Marks history slot := by
  constructor
  · rintro ⟨before, behind, split, spared⟩
    -- Either the mark is the new step, or the new step is one of those that spare the slot.
    rcases List.eq_nil_or_concat' behind with rfl | ⟨behind, last, rfl⟩
    · obtain ⟨-, isLast⟩ := List.append_inj' split rfl
      exact .inl (List.singleton_inj.mp isLast)
    · rw [← List.cons_append, ← List.append_assoc] at split
      obtain ⟨rfl, isLast⟩ := List.append_inj' split rfl
      obtain rfl := List.singleton_inj.mp isLast
      refine .inr ⟨spared _ (by simp), before, behind, rfl, fun other member => ?_⟩
      exact spared other (by simp [member])
  · rintro (rfl | ⟨other, before, behind, rfl, spared⟩)
    · exact ⟨history, [], rfl, by simp⟩
    · refine ⟨before, behind ++ [step], by simp, fun one member => ?_⟩
      rcases List.mem_append.mp member with member | member
      · exact spared one member
      · rwa [List.mem_singleton.mp member]

/-- What is told of a slot hangs on the steps with that slot, and on the last of these. -/
theorem marks_iff_getLast? {history : List ReadyStep} {slot : Slot} :
    Marks history slot ↔ (history.filter (·.slot = slot)).getLast? = some (mark slot) := by
  induction history using List.reverseRecOn with
  | nil => simp [not_marks_nil]
  | append_singleton history step ih =>
    rw [marks_concat, ih, List.filter_append]
    by_cases own : step.slot = slot
    · simp [own]
    · have other : step ≠ mark slot := by
        rintro rfl
        exact own rfl
      simp [own, other]

end ReadyStep

/-! ## (2) The queue as a set -/

/-- **A slot comes no later than another one** if its stage is no higher and, where the stages are
the same, no response comes before a request. -/
theorem Slot.rank_le_iff {a b : Slot} :
    a.rank ≤ b.rank ↔ a.stage ≤ b.stage ∧
      (a.stage = b.stage → a.kind = .response → b.kind = .response) := by
  obtain ⟨s, k⟩ := a
  obtain ⟨t, l⟩ := b
  cases k <;> cases l <;> simp [rank, MessageKind.rank] <;> omega

namespace ReadyQueue

/-- Each slot is in the queue at most once. -/
theorem nodup_slots (queue : ReadyQueue) : queue.slots.Nodup :=
  queue.ordered.imp fun less same => absurd (congrArg Slot.rank same) (Nat.ne_of_lt less)

/-- **Queues that hold the same slots are the same.** -/
theorem ext_mem {a b : ReadyQueue} (same : ∀ slot, slot ∈ a ↔ slot ∈ b) : a = b := by
  have perm : a.slots.Perm b.slots :=
    (List.perm_ext_iff_of_nodup a.nodup_slots b.nodup_slots).mpr same
  -- Two lists of the same slots, both in strict order, cannot differ.
  refine ext (perm.eq_of_pairwise (fun x y _ _ less more => ?_) a.ordered b.ordered)
  exact absurd (Nat.lt_trans less more) (Nat.lt_irrefl _)

/-- **The size of a queue** is the number of slots in it. -/
theorem encard_mem (queue : ReadyQueue) : {slot | slot ∈ queue}.encard = queue.size := by
  have slots : {slot | slot ∈ queue} = (queue.slots.toFinset : Set Slot) := by
    ext slot
    simp only [Set.mem_ofPred_eq, List.coe_toFinset]
    rfl
  rw [slots, Set.encard_coe_eq_coe_finsetCard, List.toFinset_card_of_nodup queue.nodup_slots]
  rfl

/-- Nothing is ready in a queue of size zero. -/
theorem isEmpty_iff_size {queue : ReadyQueue} : queue.isEmpty = true ↔ queue.size = 0 := by
  rw [isEmpty, size, List.isEmpty_iff, List.length_eq_zero_iff]

/-- There is no next slot exactly if nothing is ready. -/
theorem next?_eq_none_iff_isEmpty {queue : ReadyQueue} :
    queue.next? = none ↔ queue.isEmpty = true := by
  rw [next?, isEmpty, List.head?_eq_none_iff, List.isEmpty_iff]

/-! ## (3) The result -/

/-- **The queue after a history** that begins with nothing marked. -/
def ofHistory (history : List ReadyStep) : ReadyQueue := history.foldl ReadyStep.apply empty

/-- **What the queue holds is what the history tells.** -/
theorem mem_ofHistory {history : List ReadyStep} {slot : Slot} :
    slot ∈ ofHistory history ↔ ReadyStep.Marks history slot := by
  induction history using List.reverseRecOn with
  | nil => exact iff_of_false (not_mem_empty slot) (ReadyStep.not_marks_nil slot)
  | append_singleton history step ih =>
    have last : ofHistory (history ++ [step]) = step.apply (ofHistory history) := by
      simp [ofHistory]
    rw [last, ReadyStep.mem_apply, ReadyStep.marks_concat, ih]

/-- **The ready queue is a set of slots, by stage and with requests first.** Whatever is marked and
cleared, a slot is in the queue exactly if the last thing done with it was to mark it. The size is
the number of such slots, and nothing is ready if it is zero. The next slot is among them, is one of
the lowest stage that has any, and is the request of that stage if there is one; there is none only
if nothing is ready. Histories that do the same with each slot, in the same order, lead to the same
queue, however the steps with different slots are mixed. -/
theorem marks_are_kept_in_order (history : List ReadyStep) :
    let queue := ofHistory history
    (∀ slot, slot ∈ queue ↔ ReadyStep.Marks history slot) ∧
    {slot | ReadyStep.Marks history slot}.encard = queue.size ∧
    (queue.isEmpty = true ↔ queue.size = 0) ∧
    (queue.next? = none ↔ queue.isEmpty = true) ∧
    (∀ slot, queue.next? = some slot ↔ slot ∈ queue ∧
      (∀ other ∈ queue, slot.stage ≤ other.stage) ∧
      (slot.kind = .request ↔ ⟨slot.stage, .request⟩ ∈ queue)) ∧
    ∀ other : List ReadyStep,
      (∀ slot, other.filter (·.slot = slot) = history.filter (·.slot = slot)) →
        ofHistory other = queue := by
  intro queue
  have holds (slot : Slot) : slot ∈ queue ↔ ReadyStep.Marks history slot := mem_ofHistory
  refine ⟨holds, ?size, isEmpty_iff_size, next?_eq_none_iff_isEmpty, fun slot => ?next,
    fun other same => ?mixed⟩
  case size =>
    rw [← encard_mem queue]
    simp only [holds]
  case next =>
    rw [next?_eq_some_iff]
    refine and_congr_right fun isReady => ?_
    simp only [Slot.rank_le_iff]
    constructor
    · intro first
      refine ⟨fun other member => (first other member).1, fun isRequest => ?_, fun request => ?_⟩
      · rwa [← isRequest]
      · cases kind : slot.kind with
        | request => rfl
        | response => cases (first _ request).2 rfl kind
    · rintro ⟨lowest, request⟩ other member
      refine ⟨lowest other member, fun sameStage isResponse => ?_⟩
      cases kind : other.kind with
      | response => rfl
      | request =>
        have waits : (⟨slot.stage, .request⟩ : Slot) ∈ queue := by
          rw [sameStage, ← kind]
          exact member
        cases (request.mpr waits).symm.trans isResponse
  case mixed =>
    refine ext_mem fun slot => ?_
    rw [mem_ofHistory, holds, ReadyStep.marks_iff_getLast?, ReadyStep.marks_iff_getLast?, same]

/-- A slot that is marked twice counts once, a cleared one not at all, and of the lowest stage the
request comes first. -/
example :
    let queue := ofHistory [.mark ⟨3, .request⟩, .mark ⟨1, .response⟩, .mark ⟨0, .request⟩,
      .mark ⟨1, .response⟩, .mark ⟨1, .request⟩, .clear ⟨0, .request⟩]
    queue.size = 3 ∧ queue.next? = some ⟨1, .request⟩ := by decide

end ReadyQueue

end Relay
