import Mathlib.Data.Nat.Find
import Relay.Proofs.Drained

/-!
# Stages wake in order

A callback is called with the request of the job, or with what a neighbour has sent before. Causes
go back from call to call, to the first one; so stages are called for the first time one after the
other, each with a request, and a reply only comes from a stage that has been called.

* `Call.Due.exists_requester` and `Call.Due.exists_replier` give the cause of a call.
* `Turn.AllDue.exists_called` follows the causes back.
* `Run.stages_wake_in_order` is the result.
-/

namespace Relay

variable {T : Traffic} {η : Type}

/-! ## (1) Causes of calls -/

section Causes

variable {job : Job T η} {before : List (Turn T)} {call : Call T} {slot : Slot}
  {message : Message T}

/-- Only the request of the job waits before a run. -/
theorem Run.mem_initial :
    message ∈ initial job slot ↔ slot = ⟨0, .request⟩ ∧ message = .request job.request := by
  by_cases first : slot = ⟨0, .request⟩ <;> simp [initial, first]

/-- What has been contributed to a queue has been sent by a callback that has ended well. -/
theorem Turn.exists_sender {turns : List (Turn T)} (member : message ∈ contributed slot turns) :
    ∃ sender ∈ turns, sender.isClean = true ∧
      message ∈ Outgoing.arrivals sender.call.stage slot sender.sent := by
  obtain ⟨sender, isTurn, arrives⟩ := List.mem_flatMap.mp member
  by_cases clean : sender.isClean = true
  · rw [if_pos clean] at arrives
    exact ⟨sender, isTurn, clean, arrives⟩
  · simp [clean] at arrives

/-- Nothing is contributed to the requests of the first stage. -/
theorem Turn.contributed_first (turns : List (Turn T)) :
    contributed ⟨0, .request⟩ turns = [] := by
  apply List.flatMap_eq_nil_iff.mpr
  intro turn _
  rw [Outgoing.arrivals_first]
  exact ite_self _

namespace Call.Due

/-- **A call with a request past the first stage** has its cause in a callback of the stage before.
-/
theorem exists_requester (due : call.Due job before) {place : Nat}
    (isSlot : call.slot = ⟨place + 1, .request⟩) :
    ∃ sender ∈ before, sender.isClean = true ∧ sender.call.stage = place := by
  have waited := due.waited
  rw [isSlot, Run.initial, if_neg (by simp), List.nil_append] at waited
  obtain ⟨sender, isEarlier, clean, arrives⟩ := Turn.exists_sender waited
  rw [Outgoing.arrivals_request] at arrives
  by_cases here : sender.call.stage = place
  · exact ⟨sender, isEarlier, clean, here⟩
  · simp [here] at arrives

/-- **A call with a reply** has its cause in a callback of the stage behind. -/
theorem exists_replier (due : call.Due job before) (isReply : call.message.kind = .response) :
    ∃ sender ∈ before, sender.isClean = true ∧ sender.call.stage = call.stage + 1 ∧
      call.message ∈ sender.replies := by
  have waited := due.waited
  have isSlot : call.slot = ⟨call.stage, .response⟩ := by rw [Call.slot, isReply]
  rw [isSlot, Run.initial_response, List.nil_append] at waited
  obtain ⟨sender, isEarlier, clean, arrives⟩ := Turn.exists_sender waited
  rw [Outgoing.arrivals_response] at arrives
  by_cases here : sender.call.stage = call.stage + 1
  · rw [if_pos here] at arrives
    exact ⟨sender, isEarlier, clean, here, arrives⟩
  · simp [here] at arrives

end Call.Due

end Causes

/-! ## (2) From cause to cause -/

namespace Turn.AllDue

variable {job : Job T η} {turns before behind : List (Turn T)} {turn : Turn T}

/-- **The first call** is that of the first stage with the request of the job. -/
theorem first_call (due : AllDue job (turn :: behind)) :
    turn.call.slot = ⟨0, .request⟩ ∧ turn.call.message = .request job.request := by
  have waited := (due [] turn behind rfl).waited
  rw [contributed, List.flatMap_nil, List.append_nil] at waited
  exact Run.mem_initial.mp waited

/-- **Stages whose requests come before a call** have been called before it: the stages in front of
its own, and its own if the call is with a reply. -/
theorem exists_called (due : AllDue job turns) (split : turns = before ++ turn :: behind)
    {place : Nat} (earlier : (⟨place, .request⟩ : Slot).rank < turn.call.slot.rank) :
    ∃ other ∈ before, other.call.stage = place := by
  induction length : before.length using Nat.strong_induction_on
    generalizing before turn behind with
  | h n ih =>
    have isDue := due before turn behind split
    -- The cause of the call is a callback of a stage that is no farther in front.
    have cause : ∃ sender ∈ before, place ≤ sender.call.stage := by
      rw [Call.slot, Slot.rank, Slot.rank] at earlier
      cases kind : turn.call.message.kind with
      | request =>
        simp only [kind, MessageKind.rank] at earlier
        obtain ⟨last, isLast⟩ : ∃ last, turn.call.stage = last + 1 :=
          Nat.exists_eq_succ_of_ne_zero (by omega)
        obtain ⟨sender, isEarlier, -, stage⟩ :=
          isDue.exists_requester (by rw [Call.slot, isLast, kind])
        exact ⟨sender, isEarlier, by omega⟩
      | response =>
        simp only [kind, MessageKind.rank] at earlier
        obtain ⟨sender, isEarlier, -, stage, -⟩ := isDue.exists_replier kind
        exact ⟨sender, isEarlier, by omega⟩
    obtain ⟨sender, isEarlier, reach⟩ := cause
    by_cases here : sender.call.stage = place
    · exact ⟨sender, isEarlier, here⟩
    · obtain ⟨first, second, parts⟩ := List.append_of_mem isEarlier
      have shorter : first.length < n := by
        rw [← length, parts]
        simp
      have farther : (⟨place, .request⟩ : Slot).rank < sender.call.slot.rank := by
        apply Slot.rank_lt_iff.mpr
        left
        show place < sender.call.stage
        omega
      have again : turns = first ++ sender :: (second ++ turn :: behind) := by simp [split, parts]
      obtain ⟨other, member, stage⟩ := ih first.length shorter again farther rfl
      exact ⟨other, by simp [parts, member], stage⟩

/-- **The stages called are the first ones** of the pipeline. -/
theorem exists_depth (due : AllDue job turns) :
    ∃ d ≤ job.pipeline.size, ∀ i, (∃ turn ∈ turns, turn.call.stage = i) ↔ i < d := by
  classical
  have within : ∀ turn ∈ turns, turn.call.stage < job.pipeline.size := by
    intro turn member
    obtain ⟨before, behind, split⟩ := List.append_of_mem member
    exact (due before turn behind split).within
  -- The first stage that has not been called.
  have uncalled : ∃ d, ∀ turn ∈ turns, turn.call.stage ≠ d :=
    ⟨job.pipeline.size, fun turn member => Nat.ne_of_lt (within turn member)⟩
  refine ⟨Nat.find uncalled, Nat.find_min' uncalled fun turn member =>
    Nat.ne_of_lt (within turn member), fun i => ?_⟩
  constructor
  · rintro ⟨turn, member, rfl⟩
    by_contra beyond
    have least : ∀ other ∈ turns, other.call.stage ≠ Nat.find uncalled := Nat.find_spec uncalled
    have notHere := least turn member
    obtain ⟨before, behind, split⟩ := List.append_of_mem member
    have earlier : (⟨Nat.find uncalled, .request⟩ : Slot).rank < turn.call.slot.rank := by
      apply Slot.rank_lt_iff.mpr
      left
      show Nat.find uncalled < turn.call.stage
      omega
    obtain ⟨other, isEarlier, stage⟩ := due.exists_called split earlier
    exact least other (by simp [split, isEarlier]) stage
  · intro below
    have called := Nat.find_min uncalled below
    push Not at called
    exact called

end Turn.AllDue

/-! ## (3) The result -/

namespace Run

variable {job : Job T η} {run : Run T η}

/-- **The first stage is called with one request** and with replies otherwise. -/
theorem kind_of_behind_first (conserved : Conserved job run) {first : Turn T}
    {behind : List (Turn T)} (split : run.turns = first :: behind)
    (isFirst : first.call.slot = ⟨0, .request⟩) :
    ∀ other ∈ behind, other.call.stage = 0 → other.call.message.kind = .response := by
  intro other member stage
  have balance := conserved ⟨0, .request⟩ job.pipeline.size_pos
  have own : first.isFrom ⟨0, .request⟩ = true := by
    have place := congrArg Slot.stage isFirst
    have kind := congrArg Slot.kind isFirst
    exact decide_eq_true ⟨place, kind⟩
  rw [split, Turn.contributed_first, List.append_nil] at balance
  -- There is one request, and the first call has taken it.
  have lengths := congrArg List.length balance
  simp only [Turn.delivered, initial, List.filter_cons_of_pos own, if_true, List.length_append,
    List.length_map, List.length_cons, List.length_nil] at lengths
  have none : behind.filter (Turn.isFrom ⟨0, .request⟩) = [] :=
    List.eq_nil_of_length_eq_zero (by omega)
  cases kind : other.call.message.kind with
  | response => rfl
  | request =>
    have notFrom := List.filter_eq_nil_iff.mp none other member
    simp [Turn.isFrom, stage, kind] at notFrom

/-- **Stages wake in order, and always with a request.** The first callback is one of the first
stage with the request of the job, and no other request ever comes to that stage. The stages that have
been called are always the first ones of the pipeline, and the first callback of each handles a
request. A reply is handled only after the callback of the stage behind that has sent it has ended
well; so the last stage handles none. -/
theorem stages_wake_in_order (job : Job T η) (received : η) (memory : T.Memory) (n : Nat) :
    let turns := ((seed job received memory).after job n).turns
    (∀ turn behind, turns = turn :: behind →
      turn.call.stage = 0 ∧ turn.call.message = .request job.request ∧
        ∀ other ∈ behind, other.call.stage = 0 → other.call.message.kind = .response) ∧
    (∃ d ≤ job.pipeline.size, ∀ i, (∃ turn ∈ turns, turn.call.stage = i) ↔ i < d) ∧
    (∀ before turn behind, turns = before ++ turn :: behind →
      (∀ other ∈ before, other.call.stage ≠ turn.call.stage) →
        turn.call.message.kind = .request) ∧
    (∀ before turn behind, turns = before ++ turn :: behind →
      turn.call.message.kind = .response → ∃ sender ∈ before, sender.isClean = true ∧
        sender.call.stage = turn.call.stage + 1 ∧ turn.call.message ∈ sender.replies) ∧
    (∀ turn ∈ turns, turn.call.stage + 1 = job.pipeline.size →
      turn.call.message.kind = .request) := by
  intro turns
  have due : Turn.AllDue job turns := callsDue_after job received memory n
  refine ⟨?_, due.exists_depth, ?_, ?_, ?_⟩
  · intro turn behind split
    obtain ⟨isFirst, isRequest⟩ := Turn.AllDue.first_call (split ▸ due)
    exact ⟨congrArg Slot.stage isFirst, isRequest,
      kind_of_behind_first (conserved_after job received memory n) split isFirst⟩
  · intro before turn behind split unwoken
    cases kind : turn.call.message.kind with
    | request => rfl
    | response =>
      have earlier : (⟨turn.call.stage, .request⟩ : Slot).rank < turn.call.slot.rank := by
        simp [Call.slot, Slot.rank, kind, MessageKind.rank]
      obtain ⟨other, isEarlier, stage⟩ := due.exists_called split earlier
      exact absurd stage (unwoken other isEarlier)
  · intro before turn behind split isReply
    exact (due before turn behind split).exists_replier isReply
  · intro turn member isLast
    cases kind : turn.call.message.kind with
    | request => rfl
    | response =>
      obtain ⟨before, behind, split⟩ := List.append_of_mem member
      obtain ⟨sender, isEarlier, -, stage, -⟩ := (due before turn behind split).exists_replier kind
      obtain ⟨first, second, parts⟩ := List.append_of_mem isEarlier
      have within := (due first sender (second ++ turn :: behind) (by simp [split, parts])).within
      omega

end Run

end Relay
