import Relay.Proofs.Run.Effects

/-!
# The detour of an inserted stage

A stage is put into a pipeline, and the stages from there on move up by one place. What used to go
from one neighbour of the gap to the other now goes to the inserted stage first.

* `place` and `Slot.shift` say where stages and queues have moved to, and `Slot.reroute` where a
  message for a queue goes first.
* `Outgoing.arrivals_reroute` says that nothing else changes about the ways of messages.
* `Pipeline.withPass` is the pipeline with a stage that forwards everything.
-/

namespace Relay

variable {T : Traffic} {η : Type} {k : Nat}

/-! ## (1) Places -/

/-- **The place that a stage has moved to** when one has been inserted at place `k`. -/
def place (k index : Nat) : Nat := if index < k then index else index + 1

/-- No stage has moved to the place of the inserted one. -/
theorem place_ne (k index : Nat) : place k index ≠ k := by
  unfold place
  split <;> omega

/-- Stages keep their order. -/
theorem place_lt_place_iff {first second : Nat} :
    place k first < place k second ↔ first < second := by
  unfold place
  split <;> split <;> omega

/-- Different stages have moved to different places. -/
theorem place_inj {first second : Nat} : place k first = place k second ↔ first = second := by
  unfold place
  split <;> split <;> omega

/-- Every other place is that of a stage that has moved there. -/
theorem exists_place {index : Nat} (other : index ≠ k) : ∃ old, index = place k old := by
  rcases Nat.lt_or_gt_of_ne other with before | behind
  · exact ⟨index, by rw [place, if_pos before]⟩
  · have notBefore : ¬ index - 1 < k := by omega
    refine ⟨index - 1, ?_⟩
    rw [place, if_neg notBefore]
    omega

/-- The first stage stays the first one, unless one is put before it. -/
theorem place_eq_zero_iff (pos : 0 < k) {index : Nat} : place k index = 0 ↔ index = 0 := by
  unfold place
  split <;> omega

/-- The last stage stays the last one, unless one is put behind it. -/
theorem place_last_iff {size index : Nat} (within : k < size) :
    place k index + 1 = size + 1 ↔ index + 1 = size := by
  unfold place
  split <;> omega

/-- Stages move to places of the longer pipeline. -/
theorem place_lt_succ_iff {size index : Nat} (within : k < size) :
    place k index < size + 1 ↔ index < size := by
  unfold place
  split <;> omega

/-! ## (2) Queues -/

namespace Slot

/-- **The queue of a stage**, where the stage has moved to. -/
def shift (k : Nat) (slot : Slot) : Slot := ⟨place k slot.stage, slot.kind⟩

/-- **The queue of the inserted stage** on the way to a queue, if it lies on the way. -/
def detour? (k : Nat) : Slot → Option Slot
  | ⟨stage, .request⟩ => if stage = k then some ⟨k, .request⟩ else none
  | ⟨stage, .response⟩ => if stage + 1 = k then some ⟨k, .response⟩ else none

/-- **Where a message for a queue goes first.** -/
def reroute (k : Nat) (slot : Slot) : Slot := (slot.detour? k).getD (slot.shift k)

variable {slot other detour : Slot}

/-- A detour leads through the inserted stage, by the queue of its kind. -/
theorem of_detour? (isDetour : slot.detour? k = some detour) : detour = ⟨k, slot.kind⟩ := by
  obtain ⟨stage, kind⟩ := slot
  cases kind with
  | request =>
    simp only [detour?] at isDetour
    split at isDetour
    · exact (Option.some.inj isDetour).symm
    · cases isDetour
  | response =>
    simp only [detour?] at isDetour
    split at isDetour
    · exact (Option.some.inj isDetour).symm
    · cases isDetour

/-- Only one queue is reached by a detour. -/
theorem detour?_inj (first : slot.detour? k = some detour)
    (second : other.detour? k = some detour) : slot = other := by
  have same : (⟨k, slot.kind⟩ : Slot) = ⟨k, other.kind⟩ :=
    (of_detour? first).symm.trans (of_detour? second)
  have kinds : slot.kind = other.kind := (Slot.mk.inj same).2
  obtain ⟨stage, kind⟩ := slot
  obtain ⟨otherStage, otherKind⟩ := other
  obtain rfl : kind = otherKind := kinds
  have stages : stage = otherStage := by
    cases kind <;> simp only [detour?] at first second <;> split at first <;> split at second <;>
      first | omega | simp_all
  rw [stages]

/-- Different queues have moved to different places. -/
theorem shift_inj : slot.shift k = other.shift k ↔ slot = other := by
  obtain ⟨stage, kind⟩ := slot
  obtain ⟨otherStage, otherKind⟩ := other
  rw [shift, shift, Slot.mk.injEq, Slot.mk.injEq, place_inj]

/-- No queue has moved to the inserted stage. -/
theorem shift_ne_detour (slot : Slot) (kind : MessageKind) : slot.shift k ≠ ⟨k, kind⟩ :=
  fun same => place_ne k slot.stage (congrArg Slot.stage same)

/-- Every queue of another stage is one that has moved there. -/
theorem exists_shift (elsewhere : slot.stage ≠ k) : ∃ old : Slot, slot = old.shift k := by
  obtain ⟨old, moved⟩ := exists_place elsewhere
  exact ⟨⟨old, slot.kind⟩, by rw [shift, ← moved]⟩

/-- **Queues keep their order.** -/
theorem rank_shift_le_iff :
    (slot.shift k).rank ≤ (other.shift k).rank ↔ slot.rank ≤ other.rank := by
  have stages : place k other.stage < place k slot.stage ↔ other.stage < slot.stage :=
    place_lt_place_iff
  have same : place k other.stage = place k slot.stage ↔ other.stage = slot.stage := place_inj
  rw [← Nat.not_lt, ← Nat.not_lt, rank_lt_iff, rank_lt_iff]
  show ¬ (place k other.stage < place k slot.stage ∨
    place k other.stage = place k slot.stage ∧ _) ↔ _
  rw [stages, same]
  rfl

/-- **Messages for different queues go to different queues first.** -/
theorem reroute_inj (same : slot.reroute k = other.reroute k) : slot = other := by
  -- Of the four cases, in two only one of the queues is on a detour: then the first goes to the
  -- inserted stage and the second does not.
  unfold reroute at same
  cases first : slot.detour? k with
  | none =>
    cases second : other.detour? k with
    | none => exact shift_inj.mp (by simpa [first, second] using same)
    | some detour =>
      rw [first, second, of_detour? second] at same
      exact absurd same (shift_ne_detour slot other.kind)
  | some detour =>
    cases second : other.detour? k with
    | none =>
      rw [first, second, of_detour? first] at same
      exact absurd same.symm (shift_ne_detour other slot.kind)
    | some another =>
      have detours : detour = another := by simpa [first, second] using same
      exact detour?_inj first (detours ▸ second)

/-- Nothing goes directly to a queue that is reached by a detour. -/
theorem reroute_ne_shift (isDetour : slot.detour? k = some detour) :
    other.reroute k ≠ slot.shift k := by
  intro same
  unfold reroute at same
  cases otherDetour : other.detour? k with
  | none =>
    have isOther : other = slot := shift_inj.mp (by simpa [otherDetour] using same)
    rw [isOther, isDetour] at otherDetour
    cases otherDetour
  | some another =>
    rw [otherDetour, of_detour? otherDetour] at same
    exact shift_ne_detour slot other.kind same.symm

end Slot

/-! ## (3) Messages -/

namespace Outgoing

/-- **Where a message goes** when a stage has been inserted. -/
theorem destination?_place (pos : 0 < k) (message : Outgoing T) (stage : Nat) :
    message.destination? (place k stage) =
      (message.destination? stage).map (·.reroute k) := by
  cases message with
  | request request =>
    simp only [destination?, Option.map_some, Slot.reroute, Slot.detour?, Slot.shift, place]
    split <;> split <;> simp <;> omega
  | response reply =>
    have isFirst : place k stage = 0 ↔ stage = 0 := place_eq_zero_iff pos
    by_cases first : stage = 0
    · simp [destination?, first, place, pos]
    · have notFirst : 0 < place k stage := Nat.pos_of_ne_zero (mt isFirst.mp first)
      rw [destination?, destination?, if_pos notFirst, if_pos (Nat.pos_of_ne_zero first)]
      simp only [Option.map_some, Slot.reroute, Slot.detour?, Slot.shift, place]
      -- Only the stage right behind the gap replies to another place than it used to.
      rcases Nat.lt_trichotomy stage k with before | here | behind
      · have notNext : stage - 1 + 1 ≠ k := by omega
        have earlier : stage - 1 < k := by omega
        rw [if_pos before, if_neg notNext, if_pos earlier]
        rfl
      · have isNext : stage - 1 + 1 = k := by omega
        have notBefore : ¬ stage < k := by omega
        rw [if_neg notBefore, if_pos isNext, here]
        rfl
      · have notNext : stage - 1 + 1 ≠ k := by omega
        have notEarlier : ¬ stage - 1 < k := by omega
        have notBefore : ¬ stage < k := by omega
        have again : stage - 1 + 1 = stage := by omega
        rw [if_neg notBefore, if_neg notNext, if_neg notEarlier, again]
        rfl

/-- **What arrives, arrives first where it is rerouted to.** -/
theorem arrivals_reroute (pos : 0 < k) (stage : Nat) (slot : Slot) (sent : List (Outgoing T)) :
    arrivals (place k stage) (slot.reroute k) sent = arrivals stage slot sent := by
  refine List.filterMap_congr fun message _ => ?_
  rw [destination?_place pos]
  cases destination : message.destination? stage with
  | none => simp
  | some other =>
    by_cases same : other = slot
    · simp [same]
    · have elsewhere : other.reroute k ≠ slot.reroute k :=
        fun equal => same (Slot.reroute_inj equal)
      simp [same, elsewhere]

/-- Nothing arrives directly where there is a detour. -/
theorem arrivals_shift_of_detour? (pos : 0 < k) (stage : Nat) {slot detour : Slot}
    (isDetour : slot.detour? k = some detour) (sent : List (Outgoing T)) :
    arrivals (place k stage) (slot.shift k) sent = [] := by
  refine List.filterMap_eq_nil_iff.mpr fun message _ => ?_
  rw [destination?_place pos]
  cases message.destination? stage with
  | none => simp
  | some other => simp [Slot.reroute_ne_shift isDetour]

/-- **What the inserted stage sends** goes on to where the detour leads, and nowhere else. -/
theorem destination?_self_iff (pos : 0 < k) (message : Outgoing T) (slot : Slot) :
    message.destination? k = some (slot.shift k) ↔
      slot.detour? k = some ⟨k, message.toMessage.kind⟩ := by
  obtain ⟨stage, kind⟩ := slot
  cases message with
  | request request =>
    cases kind with
    | request =>
      simp only [destination?, toMessage, Message.kind, Slot.detour?, Slot.shift, place]
      split <;> split <;> simp <;> omega
    | response =>
      simp only [destination?, toMessage, Message.kind, Slot.detour?, Slot.shift]
      split <;> simp
  | response reply =>
    cases kind with
    | request =>
      simp only [destination?, toMessage, Message.kind, Slot.detour?, Slot.shift, if_pos pos]
      split <;> simp
    | response =>
      simp only [destination?, toMessage, Message.kind, Slot.detour?, Slot.shift, place, if_pos pos]
      split <;> split <;> simp <;> omega

/-- **What arrives behind the inserted stage** when it sends a message: that message, if the detour
is for its kind. -/
theorem arrivals_of_self (pos : 0 < k) (message : Outgoing T) (slot : Slot) :
    arrivals k (slot.shift k) [message] =
      (slot.detour? k).elim [] fun detour => [message.toMessage].filter (·.kind = detour.kind) := by
  rw [arrivals, List.filterMap_cons, List.filterMap_nil,
    if_congr (destination?_self_iff pos message slot) rfl rfl]
  cases isDetour : slot.detour? k with
  | none => simp
  | some detour =>
    obtain rfl := Slot.of_detour? isDetour
    by_cases same : message.toMessage.kind = slot.kind
    · simp [same]
    · have different : ¬ slot.kind = message.toMessage.kind := fun equal => same equal.symm
      simp [same, different]

/-- A stage sends nothing to itself. -/
theorem arrivals_self (stage : Nat) (kind : MessageKind) (sent : List (Outgoing T)) :
    arrivals stage ⟨stage, kind⟩ sent = [] := by
  refine List.filterMap_eq_nil_iff.mpr fun message _ => ?_
  have elsewhere : message.destination? stage ≠ some ⟨stage, kind⟩ := by
    intro here
    cases message with
    | request request => simp [destination?] at here
    | response reply =>
      rw [destination?] at here
      split at here
      · have same : stage - 1 = stage := congrArg Slot.stage (Option.some.inj here)
        omega
      · cases here
  rw [if_neg elsewhere]

end Outgoing

/-! ## (4) Pipelines -/

/-- **The pipeline with one more stage at place `k`**, which forwards everything. -/
def Pipeline.withPass (pipeline : Pipeline T) (k : Nat) (name : String) : Pipeline T :=
  { pipeline with
    processors := pipeline.processors.insertIdx k (.passThrough name)
    processors_ne_nil := by
      have longer := List.length_le_length_insertIdx (x := Processor.passThrough (T := T) name)
        (l := pipeline.processors) (i := k)
      have pos := pipeline.size_pos
      rw [Pipeline.size] at pos
      exact List.length_pos_iff.mp (Nat.lt_of_lt_of_le pos longer) }

/-- **The job with one more stage** in its pipeline. -/
def Job.withPass (job : Job T η) (k : Nat) (name : String) : Job T η :=
  { job with pipeline := job.pipeline.withPass k name }

namespace Pipeline

variable {pipeline : Pipeline T} {name : String}

/-- There is one more stage. -/
theorem size_withPass (within : k < pipeline.size) (name : String) :
    (pipeline.withPass k name).size = pipeline.size + 1 :=
  List.length_insertIdx_of_le_length (Nat.le_of_lt within) _

/-- The inserted processor. -/
theorem processor?_withPass_self (within : k < pipeline.size) (name : String) :
    (pipeline.withPass k name).processor? k = some (.passThrough name) := by
  rw [processor?, withPass, List.getElem?_insertIdx_self]
  exact if_pos (Nat.le_of_lt within)

/-- The processors that have moved are the same ones. -/
theorem processor?_withPass_place (pipeline : Pipeline T) (name : String) (index : Nat) :
    (pipeline.withPass k name).processor? (place k index) = pipeline.processor? index := by
  rw [processor?, withPass, processor?, place]
  split
  · next before => exact List.getElem?_insertIdx_of_lt before
  · next behind => exact List.getElem?_insertIdx_of_gt (Nat.lt_succ_of_le (Nat.le_of_not_lt behind))

end Pipeline

/-- A job has one more stage. -/
theorem Job.size_withPass (job : Job T η) (within : k < job.pipeline.size) (name : String) :
    (job.withPass k name).pipeline.size = job.pipeline.size + 1 :=
  Pipeline.size_withPass within name

end Relay
