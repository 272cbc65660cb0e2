import Relay.Proofs.Run.Changes

/-!
# What the caller gets

The caller's handler is offered exactly the items that callbacks of the first stage have sent, in
the order of sending, up to the first item that it refuses. How a callback ends makes no difference
to the items that it has sent before, and neither does the end of the pipe.

* `Handler.offer_append` says what offering on and on comes to.
* `Run.Delivered` is the invariant, and `Run.caller_gets_what_first_stage_sends` the result.
-/

namespace Relay

variable {T : Traffic} {η : Type}

/-! ## (1) Offers -/

namespace Handler

variable {α : Type} {handler : Handler α η}

/-- Items with good verdicts. -/
def acceptances (items : List α) : List (α × Except Failure Unit) :=
  items.map fun item => (item, .ok ())

/-- The items that good verdicts are on. -/
@[simp] theorem map_fst_acceptances (items : List α) :
    (acceptances items).map Prod.fst = items := by
  rw [acceptances, List.map_map]
  exact List.map_id items

/-- Good verdicts are good. -/
@[simp] theorem filter_acceptances (items : List α) :
    (acceptances items).filter (·.2.isOk) = acceptances items := by
  refine List.filter_eq_self.mpr fun verdict member => ?_
  obtain ⟨item, -, rfl⟩ := List.mem_map.mp member
  rfl

/-- There are as many good verdicts as items. -/
@[simp] theorem countP_acceptances (items : List α) :
    (acceptances items).countP (·.2.isOk) = items.length := by
  rw [List.countP_eq_length_filter, filter_acceptances, acceptances, List.length_map]

/-- **More items are offered** if none has been refused so far. -/
theorem offer_append {memory : η} {early : List α} (late : List α)
    (accepted : (handler.offer memory early).2.2 = none) :
    handler.offer memory (early ++ late) =
      ((handler.offer (handler.offer memory early).1 late).1,
        (handler.offer memory early).2.1 ++ (handler.offer (handler.offer memory early).1 late).2.1,
        (handler.offer (handler.offer memory early).1 late).2.2) := by
  -- Along the earlier items, each of which leaves the handler with another memory.
  induction early generalizing memory with
  | nil => rfl
  | cons item rest ih =>
    rcases handled : handler.handle memory item with ⟨next, _ | _⟩
    · simp [offer, handled] at accepted
    · have acceptedRest : (handler.offer next rest).2.2 = none := by
        simpa only [offer, handled] using accepted
      simp only [List.cons_append, offer, handled, ih acceptedRest]

/-- If no item is refused, all are offered and accepted. -/
theorem offer_of_accepted {memory : η} {items : List α}
    (accepted : (handler.offer memory items).2.2 = none) :
    (handler.offer memory items).2.1 = acceptances items := by
  induction items generalizing memory with
  | nil => rfl
  | cons item rest ih =>
    rcases handled : handler.handle memory item with ⟨next, _ | _⟩
    · simp [offer, handled] at accepted
    · have acceptedRest : (handler.offer next rest).2.2 = none := by
        simpa only [offer, handled] using accepted
      simp only [offer, handled, ih acceptedRest, acceptances, List.map_cons]

/-- **If an item is refused**, all before it have been accepted, and none behind it is offered. -/
theorem offer_of_refused {memory : η} {items : List α} {failure : Failure}
    (refused : (handler.offer memory items).2.2 = some failure) :
    ∃ before item behind, items = before ++ item :: behind ∧
      (handler.offer memory items).2.1 = acceptances before ++ [(item, .error failure)] := by
  induction items generalizing memory with
  | nil => cases refused
  | cons item rest ih =>
    rcases handled : handler.handle memory item with ⟨next, other | _⟩
    · have same : other = failure := by simpa [offer, handled] using refused
      exact ⟨[], item, rest, rfl, by simp [offer, handled, same, acceptances]⟩
    · have refusedRest : (handler.offer next rest).2.2 = some failure := by
        simpa only [offer, handled] using refused
      obtain ⟨before, refusedItem, behind, split, offers⟩ := ih refusedRest
      refine ⟨item :: before, refusedItem, behind, by rw [split]; rfl, ?_⟩
      simp only [offer, handled, offers, acceptances, List.map_cons, List.cons_append]

end Handler

/-! ## (2) Items for the caller -/

/-- What is sent for the caller is so one message after the other. -/
theorem Outgoing.forCaller_append (stage : Nat) (early late : List (Outgoing T)) :
    forCaller stage (early ++ late) = forCaller stage early ++ forCaller stage late := by
  unfold forCaller
  split
  · exact List.filterMap_append
  · rfl

/-- **The items that turns have sent to the caller**, in order, however they have ended. -/
def Turn.forCaller (turns : List (Turn T)) : List T.Response :=
  turns.flatMap fun turn => Outgoing.forCaller turn.call.stage turn.sent

/-- One more turn sends its items last. -/
theorem Turn.forCaller_concat (turns : List (Turn T)) (turn : Turn T) :
    forCaller (turns ++ [turn]) =
      forCaller turns ++ Outgoing.forCaller turn.call.stage turn.sent := by
  simp [forCaller]

namespace Run

variable {job : Job T η} {run : Run T η} {received : η}

/-! ## (3) The invariant -/

/-- **The handler has been offered what the first stage has sent**, up to a first refusal, with
which the run has failed. -/
structure Delivered (job : Job T η) (received : η) (run : Run T η) : Prop where
  verdicts : run.verdicts = (job.handler.offer received (Turn.forCaller run.turns)).2.1
  remembered : run.received = (job.handler.offer received (Turn.forCaller run.turns)).1
  count : run.responsesDelivered = run.verdicts.countP (·.2.isOk)
  refused : ∀ failure, (job.handler.offer received (Turn.forCaller run.turns)).2.2 = some failure →
    run.outcome = some (.error (.handler failure))

/-- At the beginning nothing has been sent or offered. -/
theorem delivered_seed (job : Job T η) (received : η) (memory : T.Memory) :
    Delivered job received (seed job received memory) :=
  ⟨rfl, rfl, rfl, fun _ refused => by cases refused⟩

/-- **What has been delivered stays so** with every change of a run that has not come to its end. -/
theorem delivered_of_change {next : Run T η} (delivered : Delivered job received run)
    (unfinished : run.outcome = none) (change : Change job run next) :
    Delivered job received next := by
  -- A refusal would have ended the run.
  have accepted : (job.handler.offer received (Turn.forCaller run.turns)).2.2 = none := by
    cases verdict : (job.handler.offer received (Turn.forCaller run.turns)).2.2 with
    | none => rfl
    | some failure => cases unfinished.symm.trans (delivered.refused failure verdict)
  -- As long as nothing more has been sent, nothing more has been offered.
  have unsent : Turn.forCaller next.turns = Turn.forCaller run.turns → run.Unasked next →
      Delivered job received next := by
    intro same caller
    refine ⟨?_, ?_, ?_, fun failure refused => ?_⟩
    · rw [same, caller.verdicts, delivered.verdicts]
    · rw [same, caller.received, delivered.remembered]
    · rw [caller.delivered, caller.verdicts, delivered.count]
    · rw [same] at refused
      cases accepted.symm.trans refused
  cases change with
  | still turns pending caller =>
    have sameTurns : next.turns = run.turns := congrArg List.reverse turns
    exact unsent (by rw [sameTurns]) caller
  | opened slot call turns place kind pending caller outcome =>
    have later : next.turns = run.turns ++ [({ call } : Turn T)] := turns_eq_concat turns
    have nothing : Outgoing.forCaller call.stage ([] : List (Outgoing T)) = [] := ite_self _
    refine unsent ?_ caller
    rw [later, Turn.forCaller_concat, nothing, List.append_nil]
  | acted turn late earlier sent before turns underWay _ call more pending caller outcome =>
    have sooner := turns_eq_concat before
    have later : Turn.forCaller next.turns =
        Turn.forCaller run.turns ++ Outgoing.forCaller turn.call.stage sent := by
      rw [sooner, turns_eq_concat turns, Turn.forCaller_concat, Turn.forCaller_concat, call, more,
        Outgoing.forCaller_append, List.append_assoc]
    -- So far nothing has been refused, and the handler goes on from what it remembers.
    have offered := Handler.offer_append (Outgoing.forCaller turn.call.stage sent) accepted
    rw [← later, ← delivered.remembered] at offered
    refine ⟨?_, ?_, ?_, fun failure refused => ?_⟩
    · rw [offered, caller.verdicts, delivered.verdicts]
    · rw [offered, caller.received]
    · rw [caller.delivered, caller.verdicts, List.countP_append, delivered.count]
    · rw [offered] at refused
      exact caller.refused failure refused

/-- **What has been delivered stays so** with every step. -/
theorem delivered_step (sound : Sound job run) (delivered : Delivered job received run) :
    Delivered job received (run.step job) := by
  cases outcome : run.outcome with
  | none => exact delivered_of_change delivered outcome (change_step sound)
  | some result =>
    rw [step_of_finished sound outcome]
    exact ⟨delivered.verdicts, delivered.remembered, delivered.count, delivered.refused⟩

/-- **In every state that a run comes to**, the handler has been offered what the first stage has
sent. -/
theorem delivered_after (job : Job T η) (received : η) (memory : T.Memory) (n : Nat) :
    Delivered job received ((seed job received memory).after job n) := by
  induction n with
  | zero => exact delivered_seed job received memory
  | succ n ih => exact delivered_step (sound_after job received memory n) ih

/-! ## (4) The result -/

/-- **How a move can end a run**: not at all, with an error, or with the summary of the run. -/
theorem outcome_of_move {next : Run T η} (sound : Sound job run) (move : Move job run next) :
    next.outcome = run.outcome ∧ next.summary job = run.summary job ∨
      run.outcome = none ∧ (next.outcome = none ∨ (∃ error, next.outcome = some (.error error)) ∨
        next.outcome = some (.ok (next.summary job))) := by
  cases move with
  | announce state =>
    obtain ⟨unfinished, -, -⟩ := sound.atRest state (.inl rfl)
    obtain ⟨reports, announced⟩ := run.announce_eq job
    rw [announced]
    exact .inr ⟨unfinished, .inl unfinished⟩
  | succeed state =>
    obtain ⟨unfinished, -, -⟩ := sound.atRest state (.inr rfl)
    obtain ⟨reports, succeeded⟩ := run.succeed_eq job
    rw [succeeded]
    exact .inr ⟨unfinished, .inr (.inr rfl)⟩
  | starve state =>
    obtain ⟨unfinished, -, -⟩ := sound.atRest state (.inr rfl)
    exact .inr ⟨unfinished, .inr (.inl ⟨_, outcome_fail job run _⟩)⟩
  | exceed slot limit state =>
    obtain ⟨unfinished, -, -⟩ := sound.atRest state (.inr rfl)
    exact .inr ⟨unfinished, .inr (.inl ⟨_, outcome_fail job run _⟩)⟩
  | choose slot state =>
    obtain ⟨unfinished, -, -⟩ := sound.atRest state (.inr rfl)
    exact .inr ⟨unfinished, .inl unfinished⟩
  | start slot stage processor message rest state unfinished =>
    exact .inr ⟨unfinished, .inl unfinished⟩
  | refuse flight stage status scene failure polled =>
    exact .inr ⟨polled.outcome, .inr (.inl ⟨_, outcome_fail job _ _⟩)⟩
  | wait flight stage scene rest polled => exact .inr ⟨polled.outcome, .inl polled.outcome⟩
  | overreach flight stage scene result polled =>
    exact .inr ⟨polled.outcome, .inr (.inl ⟨_, outcome_fail job _ _⟩)⟩
  | fail flight stage scene failure polled =>
    exact .inr ⟨polled.outcome, .inr (.inl ⟨_, outcome_fail job _ _⟩)⟩
  | finish flight stage scene polled =>
    obtain ⟨turn, earlier, acts, engaged, acted⟩ := exists_acted sound polled
    obtain ⟨reports, finished⟩ := finish_eq sound.toWired engaged acted
    rw [finished]
    exact .inr ⟨polled.outcome, .inl polled.outcome⟩
  | stop => exact .inl ⟨rfl, rfl⟩

/-- **A run that succeeds returns its own summary.** -/
theorem summary_of_success (job : Job T η) (received : η) (memory : T.Memory) (n : Nat)
    {summary : RunSummary}
    (succeeded : ((seed job received memory).after job n).outcome = some (.ok summary)) :
    summary = ((seed job received memory).after job n).summary job := by
  induction n with
  | zero => cases succeeded
  | succ n ih =>
    have sound := sound_after job received memory n
    rw [after] at succeeded ⊢
    rcases outcome_of_move sound.awake (move_step sound) with ⟨same, summaries⟩ | ⟨-, ends⟩
    · rw [summaries]
      exact ih (same.symm.trans succeeded)
    · rcases ends with unfinished | ⟨error, failed⟩ | returned
      · cases unfinished.symm.trans succeeded
      · cases failed.symm.trans succeeded
      · have isOwn := Option.some.inj (succeeded.symm.trans returned)
        exact Except.ok.inj isOwn

/-- **What is offered**: all that the first stage has sent, or that up to the first refusal. -/
theorem Delivered.offers_cut (delivered : Delivered job received run) :
    run.verdicts = Handler.acceptances (Turn.forCaller run.turns) ∨
      ∃ before item behind failure, Turn.forCaller run.turns = before ++ item :: behind ∧
        run.verdicts = Handler.acceptances before ++ [(item, .error failure)] ∧
        run.outcome = some (.error (.handler failure)) := by
  rw [delivered.verdicts]
  cases verdict : (job.handler.offer received (Turn.forCaller run.turns)).2.2 with
  | none => exact .inl (Handler.offer_of_accepted verdict)
  | some failure =>
    obtain ⟨before, item, behind, split, offers⟩ := Handler.offer_of_refused verdict
    exact .inr ⟨before, item, behind, failure, split, offers, delivered.refused failure verdict⟩

/-- In a run that has not failed, everything sent has been accepted. -/
theorem Delivered.verdicts_eq (delivered : Delivered job received run)
    (unfailed : ∀ error, run.outcome ≠ some (.error error)) :
    run.verdicts = Handler.acceptances (Turn.forCaller run.turns) := by
  rcases delivered.offers_cut with all | ⟨_, _, _, failure, -, -, failed⟩
  · exact all
  · exact absurd failed (unfailed _)

/-- **The caller gets exactly what the first stage has sent.** In every state that a run comes to,
the items offered to the handler are those that callbacks of the first stage have sent, cut right
behind the first item that is refused, with which the run has failed; nothing waits for the caller;
the items accepted are counted; and a run that succeeds has had all of them accepted. A run that
collects items returns them all, and they are as many as its summary tells. -/
theorem caller_gets_what_first_stage_sends (job : Job T η) (received : η) (memory : T.Memory)
    (n : Nat) :
    let run := (seed job received memory).after job n
    let items := Turn.forCaller run.turns
    run.verdicts = (job.handler.offer received items).2.1 ∧
    run.received = (job.handler.offer received items).1 ∧
    ((Journal.offers run.journal = items ∧ Journal.accepted run.journal = items) ∨
      ∃ before item behind failure, items = before ++ item :: behind ∧
        Journal.offers run.journal = before ++ [item] ∧ Journal.accepted run.journal = before ∧
        run.outcome = some (.error (.handler failure))) ∧
    (∀ stage ∈ run.stages, stage.callerQueue = []) ∧
    run.responsesDelivered = (Journal.accepted run.journal).length ∧
    (∀ summary, run.outcome = some (.ok summary) →
      Journal.offers run.journal = items ∧ summary.responsesDelivered = items.length) ∧
    (∀ (collector : Job T (List T.Response)) (summary : RunSummary),
      collector.handler = Handler.collecting →
      ((seed collector [] memory).after collector n).outcome = some (.ok summary) →
      ((seed collector [] memory).after collector n).collected =
          Turn.forCaller ((seed collector [] memory).after collector n).turns ∧
        ((seed collector [] memory).after collector n).collected.length =
          summary.responsesDelivered) := by
  intro run items
  have sound : Sound job run := sound_after job received memory n
  have delivered : Delivered job received run := delivered_after job received memory n
  have offers : Journal.offers run.journal = run.verdicts.map Prod.fst :=
    Journal.offers_eq_verdicts run.journal
  have accepted : Journal.accepted run.journal =
      (run.verdicts.filter (·.2.isOk)).map Prod.fst := Journal.accepted_eq_verdicts run.journal
  refine ⟨delivered.verdicts, delivered.remembered, ?cut, ?nothingWaits, ?count, ?success,
    ?collecting⟩
  case cut =>
    rw [offers, accepted]
    rcases delivered.offers_cut with all | ⟨before, item, behind, failure, split, cut, failed⟩
    · left
      rw [all, Handler.filter_acceptances, Handler.map_fst_acceptances]
      exact ⟨rfl, rfl⟩
    · right
      refine ⟨before, item, behind, failure, split, ?_, ?_, failed⟩
      · rw [cut, List.map_append, Handler.map_fst_acceptances]
        rfl
      · rw [cut, List.filter_append, Handler.filter_acceptances, List.map_append,
          Handler.map_fst_acceptances]
        exact List.append_nil before
  case nothingWaits =>
    intro stage member
    obtain ⟨index, found⟩ := List.mem_iff_getElem?.mp member
    exact sound.callerQueue_eq_nil found
  case count =>
    rw [Journal.length_accepted]
    exact delivered.count
  case success =>
    intro summary succeeded
    have unfailed : ∀ error, run.outcome ≠ some (.error error) := by
      intro error failed
      cases succeeded.symm.trans failed
    have all := delivered.verdicts_eq unfailed
    have own : summary = run.summary job := summary_of_success job received memory n succeeded
    constructor
    · rw [offers, all, Handler.map_fst_acceptances]
    · have count : summary.responsesDelivered = run.verdicts.countP (·.2.isOk) := by
        rw [own]
        exact delivered.count
      rw [count, all, Handler.countP_acceptances]
  case collecting =>
    intro collector summary collects succeeded
    have collected := delivered_after collector [] memory n
    have all := collected.remembered
    rw [collects, Handler.offer_collecting, List.nil_append] at all
    have verdicts := collected.verdicts
    rw [collects, Handler.offer_collecting, ← Handler.acceptances] at verdicts
    refine ⟨all, ?_⟩
    have own := summary_of_success collector [] memory n succeeded
    have count : summary.responsesDelivered =
        ((seed collector [] memory).after collector n).verdicts.countP (·.2.isOk) := by
      rw [own]
      exact collected.count
    rw [count, verdicts, Run.collected, all, Handler.countP_acceptances]

end Run

end Relay
