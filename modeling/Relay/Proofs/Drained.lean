import Relay.Proofs.Run.Calls

/-!
# Stages are drained before they are called again

The message to treat next is one of the lowest stage that has any. So a callback finds all queues in
front of its stage empty, and one that handles a reply finds no request at its own stage either.
What a callback replies therefore never meets the replies of an earlier callback of its stage:
those have been handled before.

* `Turn.delivered_since` is the reason: what a queue delivers since the last callback behind it.
* `Run.upstream_is_drained` is the result.
-/

namespace Relay

variable {T : Traffic} {η : Type}

/-! ## (1) Since the last callback of a stage -/

namespace Turn

/-- **What a callback has replied**, in order, ends of the pipe included. -/
def replies (turn : Turn T) : List (Message T) :=
  (turn.sent.map Outgoing.toMessage).filter (·.kind = .response)

variable {slot : Slot} {place : Nat} {turn : Turn T}

/-- What a queue delivers in two parts of a run. -/
theorem delivered_append (slot : Slot) (first second : List (Turn T)) :
    delivered slot (first ++ second) = delivered slot first ++ delivered slot second := by
  rw [delivered, List.filter_append, List.map_append]
  rfl

/-- What two parts of a run contribute to a queue. -/
theorem contributed_append (slot : Slot) (first second : List (Turn T)) :
    contributed slot (first ++ second) = contributed slot first ++ contributed slot second :=
  List.flatMap_append

/-- Turns of other stages than the one behind contribute no replies. -/
theorem contributed_response_of_forall_ne {turns : List (Turn T)}
    (elsewhere : ∀ turn ∈ turns, turn.call.stage ≠ place + 1) :
    contributed ⟨place, .response⟩ turns = [] := by
  refine List.flatMap_eq_nil_iff.mpr fun turn member => ?_
  rw [Outgoing.arrivals_response, if_neg (elsewhere turn member)]
  exact ite_self _

/-- **What a queue of replies delivers since a callback of the stage behind**, and what then waits
in it, is what that callback has replied, as long as it is the latest of its stage and has found
the queue empty. -/
theorem delivered_since {before between : List (Turn T)} {waiting : List (Message T)}
    (sender : turn.call.stage = place + 1)
    (latest : ∀ other ∈ between, other.call.stage ≠ place + 1)
    (empty : delivered ⟨place, .response⟩ before = contributed ⟨place, .response⟩ before)
    (conserved : delivered ⟨place, .response⟩ (before ++ turn :: between) ++ waiting =
      contributed ⟨place, .response⟩ (before ++ turn :: between)) :
    delivered ⟨place, .response⟩ between ++ waiting =
      if turn.isClean then turn.replies else [] := by
  -- The callback has not been called with a reply to the stage in front of it.
  have elsewhere : turn.isFrom ⟨place, .response⟩ = false := by simp [isFrom, sender]
  have own : contributed ⟨place, .response⟩ [turn] = if turn.isClean then turn.replies else [] := by
    rw [contributed, List.flatMap_singleton, Outgoing.arrivals_response, if_pos sender]
    rfl
  have nothing : delivered ⟨place, .response⟩ [turn] = [] := by simp [delivered, elsewhere]
  rw [List.append_cons, delivered_append, delivered_append, contributed_append,
    contributed_append, contributed_response_of_forall_ne latest, nothing, own, empty,
    List.append_nil, List.append_nil, List.append_assoc] at conserved
  exact List.append_cancel_left conserved

end Turn

/-! ## (2) Empty queues -/

section Due

variable {job : Job T η} {before : List (Turn T)} {call : Call T}

/-- No reply waits before a run. -/
theorem Run.initial_response (job : Job T η) (place : Nat) :
    Run.initial job ⟨place, .response⟩ = [] :=
  if_neg (by simp)

/-- **A call finds the queue of replies to the stage in front of it empty.** -/
theorem Call.Due.delivered_response (due : call.Due job before) {place : Nat}
    (sender : call.stage = place + 1) :
    Turn.delivered ⟨place, .response⟩ before = Turn.contributed ⟨place, .response⟩ before := by
  have earlier : (⟨place, .response⟩ : Slot).rank < call.slot.rank := by
    apply Slot.rank_lt_iff.mpr
    left
    show place < call.stage
    omega
  rw [due.drained _ earlier, Run.initial_response, List.nil_append]

end Due

namespace Run

variable {job : Job T η} {run : Run T η}

/-- **A call finds the queues before its own empty.** -/
theorem pendingAt_of_due {call : Call T} (conserved : Conserved job run)
    (due : call.Due job run.turns) {slot : Slot} (earlier : slot.rank < call.slot.rank) :
    run.pendingAt slot = [] := by
  have inside : slot.stage < job.pipeline.size := by
    have within : call.slot.stage < job.pipeline.size := due.within
    have before := Slot.rank_lt_iff.mp earlier
    omega
  have balance := conserved slot inside
  rw [due.drained slot earlier] at balance
  exact List.self_eq_append_right.mp balance.symm

/-- **The start of a callback empties no queue but its own**, so that the queues before it are as
empty as it has found them. -/
theorem pendingAt_of_started (sound : Sound job run) (conserved : Conserved job run)
    (due : Turn.AllDue job (run.step job).turns) {turn : Turn T}
    (started : (run.step job).turns = run.turns ++ [turn]) {slot : Slot}
    (earlier : slot.rank < turn.call.slot.rank) : (run.step job).pendingAt slot = [] := by
  have found : run.pendingAt slot = [] :=
    pendingAt_of_due conserved (due run.turns turn [] started) earlier
  have lengths := congrArg List.length started
  rw [turns, turns, List.length_append, List.length_reverse, List.length_reverse] at lengths
  cases change_step sound with
  | still same =>
    rw [same] at lengths
    simp at lengths
  | opened place call _ _ _ pending =>
    rw [pending slot] at found
    exact (List.append_eq_nil_iff.mp found).2
  | acted _ _ _ _ before later =>
    rw [before, later] at lengths
    simp at lengths

/-! ## (3) The result -/

/-- **What waits for a stage since the latest callback behind it.** -/
theorem delivered_append_pendingAt (conserved : Conserved job run)
    (due : Turn.AllDue job run.turns) {place : Nat} {before behind : List (Turn T)} {turn : Turn T}
    (split : run.turns = before ++ turn :: behind) (sender : turn.call.stage = place + 1)
    (latest : ∀ other ∈ behind, other.call.stage ≠ place + 1) :
    Turn.delivered ⟨place, .response⟩ behind ++ run.pendingAt ⟨place, .response⟩ =
      if turn.isClean then turn.replies else [] := by
  have isDue := due before turn behind split
  have inside : place < job.pipeline.size := by
    have within := isDue.within
    omega
  have balance := conserved ⟨place, .response⟩ inside
  rw [initial_response, List.nil_append, split] at balance
  exact Turn.delivered_since sender latest (isDue.delivered_response sender) balance

/-- **What a stage is called with between two callbacks of the stage behind.** -/
theorem delivered_between (due : Turn.AllDue job run.turns) {place : Nat}
    {before between behind : List (Turn T)} {turn again : Turn T}
    (split : run.turns = before ++ turn :: (between ++ again :: behind))
    (sender : turn.call.stage = place + 1) (isAgain : again.call.stage = place + 1)
    (latest : ∀ other ∈ between, other.call.stage ≠ place + 1) :
    Turn.delivered ⟨place, .response⟩ between = turn.replies ∧
      ∀ other ∈ turn :: between, other.isClean = true := by
  have isDue := due before turn _ split
  have isDueAgain := due (before ++ turn :: between) again behind (by simp [split])
  have clean : ∀ other ∈ turn :: between, other.isClean = true := fun other member =>
    isDueAgain.clean other (List.mem_append_right _ member)
  refine ⟨?_, clean⟩
  have balance := isDueAgain.delivered_response isAgain
  have since := Turn.delivered_since sender latest (isDue.delivered_response sender)
    ((List.append_nil _).trans balance)
  rwa [List.append_nil, if_pos (clean turn List.mem_cons_self)] at since

/-- **Stages are drained before those behind them are called again.** When a callback is started, no
message waits at any stage in front of its own, and if it handles a reply, no request waits at its
own stage. So the replies that wait at a stage are the last of those that the latest callback of the
stage behind has sent, and none wait if there was no such callback; and between two callbacks of a
stage, the stage in front of it is called with all that the first of them has replied, and those
calls end well. -/
theorem upstream_is_drained (job : Job T η) (received : η) (memory : T.Memory) :
    let run := (seed job received memory).after job
    (∀ n turn, (run (n + 1)).turns = (run n).turns ++ [turn] →
      (∀ i < turn.call.stage, ∀ kind,
        (run n).pendingAt ⟨i, kind⟩ = [] ∧ (run (n + 1)).pendingAt ⟨i, kind⟩ = []) ∧
      (turn.call.message.kind = .response →
        (run n).pendingAt ⟨turn.call.stage, .request⟩ = [] ∧
          (run (n + 1)).pendingAt ⟨turn.call.stage, .request⟩ = [])) ∧
    (∀ n i, (∀ before turn behind, (run n).turns = before ++ turn :: behind →
        turn.call.stage = i + 1 → (∀ other ∈ behind, other.call.stage ≠ i + 1) →
          (run n).pendingAt ⟨i, .response⟩ <:+ turn.replies) ∧
      ((∀ turn ∈ (run n).turns, turn.call.stage ≠ i + 1) →
        (run n).pendingAt ⟨i, .response⟩ = [])) ∧
    (∀ n i before turn between again behind,
      (run n).turns = before ++ turn :: (between ++ again :: behind) →
      turn.call.stage = i + 1 → again.call.stage = i + 1 →
      (∀ other ∈ between, other.call.stage ≠ i + 1) →
        Turn.delivered ⟨i, .response⟩ between = turn.replies ∧
          ∀ other ∈ turn :: between, other.isClean = true) := by
  intro run
  have sound (n : Nat) : Sound job (run n) := sound_after job received memory n
  have conserved (n : Nat) : Conserved job (run n) := conserved_after job received memory n
  have due (n : Nat) : Turn.AllDue job (run n).turns := callsDue_after job received memory n
  refine ⟨?_, ?_, ?_⟩
  · intro n turn started
    have isDue := due (n + 1) (run n).turns turn [] started
    have empty {slot : Slot} (earlier : slot.rank < turn.call.slot.rank) :
        (run n).pendingAt slot = [] ∧ (run (n + 1)).pendingAt slot = [] :=
      ⟨pendingAt_of_due (conserved n) isDue earlier,
        pendingAt_of_started (sound n) (conserved n) (due (n + 1)) started earlier⟩
    constructor
    · intro i below kind
      apply empty
      exact Slot.rank_lt_iff.mpr (.inl below)
    · intro isResponse
      have before : MessageKind.request.rank < turn.call.message.kind.rank := by
        rw [isResponse]
        decide
      apply empty
      exact Slot.rank_lt_iff.mpr (.inr ⟨rfl, before⟩)
  · intro n i
    constructor
    · intro before turn behind split sender latest
      have since := delivered_append_pendingAt (conserved n) (due n) split sender latest
      by_cases clean : turn.isClean = true
      · rw [if_pos clean] at since
        exact ⟨_, since⟩
      · rw [if_neg clean] at since
        rw [(List.append_eq_nil_iff.mp since).2]
        exact List.nil_suffix
    · intro elsewhere
      by_cases inside : i < job.pipeline.size
      · have balance := conserved n ⟨i, .response⟩ inside
        rw [initial_response, Turn.contributed_response_of_forall_ne elsewhere] at balance
        exact (List.append_eq_nil_iff.mp balance).2
      · apply pendingAt_of_outside
        rw [(sound n).length_eq]
        exact Nat.not_lt.mp inside
  · intro n i before turn between again behind split sender isAgain latest
    exact delivered_between (due n) split sender isAgain latest

end Run

end Relay
