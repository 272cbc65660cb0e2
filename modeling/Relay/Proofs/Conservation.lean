import Relay.Proofs.Run.Changes

/-!
# Messages are conserved

No message between stages is lost, duplicated, invented or put out of order. At any time the
messages that a stage has been called with, followed by those that still wait for it, are those that
the callbacks of its neighbour have sent, of all callbacks that have ended well; and the first stage
is called with the one request of the job.

* `Run.Conserved` is the invariant, for one queue after the other.
* `Run.messages_conserved` is the result.
-/

namespace Relay

variable {T : Traffic} {η : Type}

/-! ## (1) Messages in turns -/

namespace Turn

variable {turn : Turn T} {slot : Slot}

/-- Whether a turn has been called with a message of a queue. -/
def isFrom (slot : Slot) (turn : Turn T) : Bool :=
  turn.call.stage = slot.stage ∧ turn.call.message.kind = slot.kind

/-- **The messages of a queue** that callbacks have been called with, in order. -/
def delivered (slot : Slot) (turns : List (Turn T)) : List (Message T) :=
  (turns.filter (isFrom slot)).map (·.call.message)

/-- **What turns have contributed to a queue**, in order. Only those that have ended well
contribute. -/
def contributed (slot : Slot) (turns : List (Turn T)) : List (Message T) :=
  turns.flatMap fun turn =>
    if turn.isClean then Outgoing.arrivals turn.call.stage slot turn.sent else []

/-- **The messages of a kind that the callbacks of a stage have sent**, in order, as far as they
have ended well. -/
def sentFrom (stage : Nat) (kind : MessageKind) (turns : List (Turn T)) : List (Message T) :=
  (turns.filter fun turn => turn.isClean && turn.call.stage == stage).flatMap fun turn =>
    (turn.sent.map Outgoing.toMessage).filter (·.kind = kind)

/-- One more turn delivers its message to its own queue. -/
theorem delivered_concat (slot : Slot) (turns : List (Turn T)) (turn : Turn T) :
    delivered slot (turns ++ [turn]) =
      delivered slot turns ++ if turn.isFrom slot then [turn.call.message] else [] := by
  by_cases own : turn.isFrom slot = true <;> simp [delivered, own]

/-- One more turn contributes what arrives of it, if it has ended well. -/
theorem contributed_concat (slot : Slot) (turns : List (Turn T)) (turn : Turn T) :
    contributed slot (turns ++ [turn]) = contributed slot turns ++
      if turn.isClean then Outgoing.arrivals turn.call.stage slot turn.sent else [] := by
  simp [contributed]

/-- Where all that arrives in a queue comes from one stage, contributions are what that stage has
sent. -/
theorem contributed_eq_sentFrom {sender : Nat} {kind : MessageKind} (turns : List (Turn T))
    (arrivals : ∀ stage (sent : List (Outgoing T)), Outgoing.arrivals stage slot sent =
      if stage = sender then (sent.map Outgoing.toMessage).filter (·.kind = kind) else []) :
    contributed slot turns = sentFrom sender kind turns := by
  induction turns with
  | nil => rfl
  | cons turn rest ih =>
    rw [contributed, List.flatMap_cons, ← contributed, ih, arrivals, sentFrom, sentFrom]
    by_cases clean : turn.isClean = true
    · by_cases here : turn.call.stage = sender <;> simp [clean, here]
    · simp [clean]

end Turn

namespace Outgoing

/-- What arrives are the messages sent to the queue. -/
theorem arrivals_eq_filter (stage : Nat) (slot : Slot) (sent : List (Outgoing T)) :
    arrivals stage slot sent = (sent.filter (·.destination? stage = some slot)).map toMessage := by
  induction sent with
  | nil => rfl
  | cons message rest ih =>
    rw [arrivals, List.filterMap_cons, ← arrivals, ih]
    by_cases here : message.destination? stage = some slot <;> simp [here]

/-- **Requests arrive from the stage before.** -/
theorem arrivals_request (stage place : Nat) (sent : List (Outgoing T)) :
    arrivals stage ⟨place + 1, .request⟩ sent =
      if stage = place then (sent.map toMessage).filter (·.kind = .request) else [] := by
  rw [arrivals_eq_filter, List.filter_map]
  by_cases here : stage = place
  · rw [if_pos here]
    refine congrArg _ (List.filter_congr fun message _ => ?_)
    cases message <;> simp [destination?, toMessage, Message.kind, here]
  · rw [if_neg here]
    refine List.map_eq_nil_iff.mpr (List.filter_eq_nil_iff.mpr fun message _ => ?_)
    cases message <;> simp [destination?, here]

/-- **Replies arrive from the stage behind.** -/
theorem arrivals_response (stage place : Nat) (sent : List (Outgoing T)) :
    arrivals stage ⟨place, .response⟩ sent =
      if stage = place + 1 then (sent.map toMessage).filter (·.kind = .response) else [] := by
  rw [arrivals_eq_filter, List.filter_map]
  by_cases here : stage = place + 1
  · rw [if_pos here]
    refine congrArg _ (List.filter_congr fun message _ => ?_)
    cases message <;> simp [destination?, toMessage, Message.kind, here]
  · rw [if_neg here]
    refine List.map_eq_nil_iff.mpr (List.filter_eq_nil_iff.mpr fun message _ => ?_)
    cases message with
    | request => simp [destination?]
    | response =>
      by_cases first : 0 < stage
      · have elsewhere : stage - 1 ≠ place := by omega
        simp [destination?, first, elsewhere]
      · simp [destination?, first]

/-- No request arrives at the first stage. -/
theorem arrivals_first (stage : Nat) (sent : List (Outgoing T)) :
    arrivals stage ⟨0, .request⟩ sent = [] := by
  rw [arrivals_eq_filter]
  refine List.map_eq_nil_iff.mpr (List.filter_eq_nil_iff.mpr fun message _ => ?_)
  cases message <;> simp [destination?]

end Outgoing

/-! ## (2) The invariant -/

namespace Run

variable {job : Job T η} {run : Run T η}

/-- The message that waits in a queue before a run. -/
def initial (job : Job T η) (slot : Slot) : List (Message T) :=
  if slot = ⟨0, .request⟩ then [.request job.request] else []

/-- **Conservation**: what a queue has delivered and what waits in it are what has been put into
it. -/
def Conserved (job : Job T η) (run : Run T η) : Prop :=
  ∀ slot : Slot, slot.stage < job.pipeline.size →
    Turn.delivered slot run.turns ++ run.pendingAt slot =
      initial job slot ++ Turn.contributed slot run.turns

/-- At the beginning only the request waits. -/
theorem conserved_seed (job : Job T η) (received : η) (memory : T.Memory) :
    Conserved job (seed job received memory) := by
  intro slot _
  rw [pendingAt_seed]
  exact (List.append_nil _).symm

/-- **Conservation survives every change.** -/
theorem conserved_of_change {next : Run T η} (conserved : Conserved job run)
    (change : Change job run next) : Conserved job next := by
  intro slot within
  have before := conserved slot within
  cases change with
  | still turns pending caller =>
    rw [show next.turns = run.turns from congrArg List.reverse turns, pending]
    exact before
  | opened origin call turns place kind pending caller outcome =>
    have later : next.turns = run.turns ++ [({ call } : Turn T)] := turns_eq_concat turns
    -- What the queue has lost it has delivered, and a turn that has just begun contributes nothing.
    have own : Turn.isFrom slot { call } = decide (slot = origin) := by
      rw [Turn.isFrom, place, kind]
      refine decide_eq_decide.mpr ⟨?_, ?_⟩
      · rintro ⟨stage, kinds⟩
        cases slot
        cases origin
        cases stage
        cases kinds
        rfl
      · rintro rfl
        exact ⟨rfl, rfl⟩
    have nothing : Turn.isClean { call } = false := Turn.isClean_of_underWay rfl
    rw [pending slot, ← List.append_assoc] at before
    rw [later, Turn.delivered_concat, Turn.contributed_concat, own, nothing]
    simpa only [decide_eq_true_eq, if_neg Bool.false_ne_true, List.append_nil] using before
  | acted turn late earlier sent started turns underWay unfinished call more pending =>
    have sooner := turns_eq_concat started
    have later := turns_eq_concat turns
    have own : late.isFrom slot = turn.isFrom slot := by rw [Turn.isFrom, Turn.isFrom, call]
    -- As long as it was under way, the turn had not contributed anything.
    have nothing := Turn.isClean_of_underWay underWay
    rw [sooner, Turn.delivered_concat, Turn.contributed_concat, nothing,
      if_neg Bool.false_ne_true, List.append_nil] at before
    rw [later, Turn.delivered_concat, Turn.contributed_concat, own, call, pending slot within, call,
      ← List.append_assoc, before, List.append_assoc]

/-- **Messages are conserved in every state that a run comes to.** -/
theorem conserved_after (job : Job T η) (received : η) (memory : T.Memory) (n : Nat) :
    Conserved job ((seed job received memory).after job n) := by
  induction n with
  | zero => exact conserved_seed job received memory
  | succ n ih => exact conserved_of_change ih (change_step (sound_after job received memory n))

/-! ## (3) The result -/

/-- **A step that fails a run moves no message.** -/
theorem pendingAt_step_of_error (sound : Sound job run) {error : RunError}
    (failed : (run.step job).outcome = some (.error error)) (slot : Slot)
    (within : slot.stage < job.pipeline.size) :
    (run.step job).pendingAt slot = run.pendingAt slot := by
  cases change_step sound with
  | still turns pending => exact pending slot
  | opened origin call turns place kind pending caller outcome => cases outcome.symm.trans failed
  | acted turn late earlier sent started turns underWay _ call more pending caller outcome =>
    have unclean : ¬ late.isClean = true := by
      intro clean
      cases (outcome clean).symm.trans failed
    rw [pending slot within, if_neg unclean, List.append_nil]

/-- **No message between stages is lost, duplicated, invented or reordered.** In every state that a
run comes to, the requests that a stage has been called with and those that wait there are those
that the callbacks of the stage before have sent; the replies are those that the callbacks of the
stage behind have sent, ends of the pipe and what came after them included; the first stage is
called with the request of the job, once; and a callback with which the run fails changes no queue.
-/
theorem messages_conserved (job : Job T η) (received : η) (memory : T.Memory) (n : Nat) :
    let run := (seed job received memory).after job n
    (∀ i, i + 1 < job.pipeline.size →
      Turn.delivered ⟨i + 1, .request⟩ run.turns ++ run.pendingAt ⟨i + 1, .request⟩ =
        Turn.sentFrom i .request run.turns) ∧
    (∀ i < job.pipeline.size,
      Turn.delivered ⟨i, .response⟩ run.turns ++ run.pendingAt ⟨i, .response⟩ =
        Turn.sentFrom (i + 1) .response run.turns) ∧
    Turn.delivered ⟨0, .request⟩ run.turns ++ run.pendingAt ⟨0, .request⟩ =
      [.request job.request] ∧
    (∀ error, (run.step job).outcome = some (.error error) → ∀ slot : Slot,
      slot.stage < job.pipeline.size →
        (run.step job).pendingAt slot = run.pendingAt slot) := by
  intro run
  have sound : Sound job run := sound_after job received memory n
  have conserved : Conserved job run := conserved_after job received memory n
  refine ⟨?_, ?_, ?_, fun error failed => pendingAt_step_of_error sound failed⟩
  · intro i within
    have isElsewhere : initial job ⟨i + 1, .request⟩ = [] := if_neg (by simp)
    rw [conserved ⟨i + 1, .request⟩ within, isElsewhere, List.nil_append]
    exact Turn.contributed_eq_sentFrom _ fun stage sent => Outgoing.arrivals_request stage i sent
  · intro i within
    have isElsewhere : initial job ⟨i, .response⟩ = [] := if_neg (by simp)
    rw [conserved ⟨i, .response⟩ within, isElsewhere, List.nil_append]
    exact Turn.contributed_eq_sentFrom _ fun stage sent => Outgoing.arrivals_response stage i sent
  · have nothing : Turn.contributed ⟨0, .request⟩ run.turns = [] := by
      refine List.flatMap_eq_nil_iff.mpr fun turn _ => ?_
      rw [Outgoing.arrivals_first]
      exact ite_self _
    rw [conserved ⟨0, .request⟩ job.pipeline.size_pos, nothing]
    rfl

end Run

end Relay
