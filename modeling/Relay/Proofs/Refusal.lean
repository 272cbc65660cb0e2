import Relay.Proofs.Conservation
import Relay.Proofs.Run.Growth
import Relay.Proofs.Run.Offering

/-!
# What a refusal does to a run

A handler has no other influence on a run than to end it. As long as it accepts what it is offered,
the run is the one with a handler that accepts everything. With the first item that it refuses the
run fails: nothing is offered behind that item, no further callback is started, and the callback
that has sent the item contributes to no queue, however it would have ended.

* `Run.whole` is the run with everything accepted, and `Run.after_eq_recast_whole` compares with it.
* `Run.refusal_truncates` is the result.
-/

namespace Relay

variable {T : Traffic} {η θ : Type}

namespace Run

/-! ## (1) The whole run -/

/-- **The whole run of a job**: everything that it offers to the caller is accepted. -/
def whole (job : Job T η) (next : θ → T.Response → θ) (kept : θ) (memory : T.Memory) (n : Nat) :
    Run T θ :=
  (seed (job.withHandler (.accepting next)) kept memory).after (job.withHandler (.accepting next)) n

section Whole

variable {job : Job T η} {received : η} {next : θ → T.Response → θ} {kept : θ} {memory : T.Memory}
  {m n : Nat} {failure : Failure}

/-- The whole run is sound. -/
theorem sound_whole (job : Job T η) (next : θ → T.Response → θ) (kept : θ) (memory : T.Memory)
    (n : Nat) : Sound (job.withHandler (.accepting next)) (whole job next kept memory n) :=
  sound_after (job.withHandler (.accepting next)) kept memory n

/-- In the whole run everything is offered that the first stage sends. -/
theorem offers_whole (job : Job T η) (next : θ → T.Response → θ) (kept : θ) (memory : T.Memory)
    (n : Nat) : Journal.offers (whole job next kept memory n).journal =
      Turn.forCaller (whole job next kept memory n).turns := by
  have verdicts := (delivered_after (job.withHandler (.accepting next)) kept memory n).verdicts
  rw [show (job.withHandler (.accepting next)).handler = .accepting next from rfl,
    Handler.offer_accepting] at verdicts
  exact (offers_of_acceptances verdicts).1

/-- A step of the whole run adds the items that are due with it. -/
theorem forCaller_whole_succ (job : Job T η) (next : θ → T.Response → θ) (kept : θ)
    (memory : T.Memory) (n : Nat) : Turn.forCaller (whole job next kept memory (n + 1)).turns =
      Turn.forCaller (whole job next kept memory n).turns ++ (whole job next kept memory n).due :=
  forCaller_step (sound_whole job next kept memory n)

/-- **As long as everything is accepted**, a run is the whole run, but for what the handler
remembers. -/
theorem after_eq_recast_whole (accepted : (job.handler.offer received
      (Turn.forCaller (whole job next kept memory n).turns)).2.2 = none) :
    (seed job received memory).after job n = (whole job next kept memory n).recast
      (job.handler.offer received (Turn.forCaller (whole job next kept memory n).turns)).1 [] := by
  induction n with
  | zero => rfl
  | succ n ih =>
    let run := whole job next kept memory n
    rw [forCaller_whole_succ] at accepted ⊢
    have before := Handler.accepted_of_append accepted
    have later := Handler.offer_append run.due before
    rw [later] at accepted
    -- Both handlers accept what is due with this step.
    have agree : (job.handler.offer (job.handler.offer received (Turn.forCaller run.turns)).1
        run.due).2 = ((Handler.accepting next).offer run.received run.due).2 := by
      rw [Handler.offer_accepting]
      exact Prod.ext (Handler.offer_of_accepted accepted) accepted
    have sound : Sound (job.withHandler (.accepting next)) (run.onto []) := by
      rw [onto, recast_self]
      exact sound_whole job next kept memory n
    rw [after, ih before, later]
    exact step_recast sound [] agree

/-- **A refusal happens in one step**: before it everything has been accepted. -/
theorem exists_step_of_refused (refused : (job.handler.offer received
      (Turn.forCaller (whole job next kept memory n).turns)).2.2 = some failure) :
    ∃ m < n, (job.handler.offer received
        (Turn.forCaller (whole job next kept memory m).turns)).2.2 = none ∧
      (job.handler.offer received
        (Turn.forCaller (whole job next kept memory (m + 1)).turns)).2.2 = some failure := by
  induction n with
  | zero => cases refused
  | succ n ih =>
    cases before : (job.handler.offer received
        (Turn.forCaller (whole job next kept memory n).turns)).2.2 with
    | none => exact ⟨n, Nat.lt_succ_self n, before, refused⟩
    | some other =>
      -- What has been refused before is not offered again.
      have same := Handler.offer_append_of_refused (whole job next kept memory n).due before
      rw [forCaller_whole_succ, same, before] at refused
      obtain ⟨m, lt, accepted, isRefused⟩ := ih (before.trans refused)
      exact ⟨m, Nat.lt_succ_of_lt lt, accepted, isRefused⟩

/-- Nothing else is due with a run recast. -/
theorem due_recast (run : Run T η) (received : θ) : (run.recast received []).due = run.due := by
  simp only [due, recast, List.append_nil]

/-! ## (2) The refusal -/

/-- **The step with the refusal.** The turn under way is the same in both runs; in the whole run it
goes on, and in the other it stays open. The refused item has been sent in it. -/
theorem exists_truncated (accepted : (job.handler.offer received
      (Turn.forCaller (whole job next kept memory m).turns)).2.2 = none)
    (refused : (job.handler.offer received
      (Turn.forCaller (whole job next kept memory (m + 1)).turns)).2.2 = some failure) :
    ∃ earlier turn late before item behind,
      (whole job next kept memory (m + 1)).turns = earlier ++ [late] ∧
      ((seed job received memory).after job (m + 1)).turns = earlier ++ [turn] ∧
      turn.result = none ∧ late.call = turn.call ∧
      Turn.forCaller (earlier ++ [late]) = before ++ item :: behind ∧
      (Turn.forCaller earlier).length ≤ before.length ∧
      Turn.forCaller ((seed job received memory).after job (m + 1)).turns =
        before ++ item :: behind ∧
      (job.handler.offer received before).2.2 = none ∧
      (job.handler.handle (job.handler.offer received before).1 item).2 = .error failure ∧
      ((seed job received memory).after job (m + 1)).outcome =
        some (.error (.handler failure)) := by
  let run := whole job next kept memory m
  have sound := sound_whole job next kept memory m
  have equal := after_eq_recast_whole accepted
  have later := Handler.offer_append run.due accepted
  have isRefused : (job.handler.offer (job.handler.offer received (Turn.forCaller run.turns)).1
      run.due).2.2 = some failure := by
    rw [forCaller_whole_succ, later] at refused
    exact refused
  -- The refused item is one of those that are due.
  obtain ⟨others, item, behind, due, acceptedOthers, handled⟩ := Handler.exists_refused isRefused
  have offered := Handler.offer_append others accepted
  have items : Turn.forCaller (whole job next kept memory (m + 1)).turns =
      (Turn.forCaller run.turns ++ others) ++ item :: behind := by
    rw [forCaller_whole_succ, List.append_assoc, ← due]
  -- The run itself fails with it.
  have own := sound_after job received memory m
  have ownRefused : (job.handler.offer ((seed job received memory).after job m).received
      ((seed job received memory).after job m).due).2.2 = some failure := by
    rw [equal, due_recast]
    exact isRefused
  obtain ⟨turn, late, earlier, underWay, stopped, call, unended, outcome, -⟩ :=
    step_of_refused own ownRefused
  have ownItems : Turn.forCaller ((seed job received memory).after job (m + 1)).turns =
      (Turn.forCaller run.turns ++ others) ++ item :: behind := by
    have sent := forCaller_step own
    have sameTurns : (run.recast (job.handler.offer received (Turn.forCaller run.turns)).1 []).turns
        = run.turns := by rw [Run.turns, recast, List.append_nil]; rfl
    rw [equal, due_recast, sameTurns, due, ← equal] at sent
    rw [after, sent, List.append_assoc]
  -- In the whole run the same turn goes on.
  obtain ⟨same, later, _, started, goesOn, sameCall⟩ := exists_acting sound (by rw [due]; simp)
  have samePast : ((seed job received memory).after job m).past = run.past := by
    rw [equal, recast, List.append_nil]
  obtain ⟨rfl, rfl⟩ := List.cons.inj ((samePast ▸ underWay).symm.trans started)
  have turns : (whole job next kept memory (m + 1)).turns = earlier.reverse ++ [later] :=
    turns_eq_concat goesOn
  refine ⟨earlier.reverse, late, later, _, item, behind, turns, turns_eq_concat stopped, unended,
    sameCall.trans call.symm, ?_, ?_, ownItems, ?_, ?_, outcome⟩
  · rw [← turns]
    exact items
  · rw [turns_eq_concat started, Turn.forCaller_concat, List.length_append, List.length_append]
    omega
  · rw [offered]
    exact acceptedOthers
  · rw [offered]
    exact handled

/-- **What a run offers to its handler** are the items of the whole run, as far as the handler
accepts them. -/
theorem offer_after (job : Job T η) (received : η) (next : θ → T.Response → θ) (kept : θ)
    (memory : T.Memory) (n : Nat) :
    job.handler.offer received (Turn.forCaller ((seed job received memory).after job n).turns) =
      job.handler.offer received (Turn.forCaller (whole job next kept memory n).turns) := by
  cases verdict : (job.handler.offer received
      (Turn.forCaller (whole job next kept memory n).turns)).2.2 with
  | none =>
    have turns : ((seed job received memory).after job n).turns =
        (whole job next kept memory n).turns := by
      rw [after_eq_recast_whole verdict, Run.turns, recast, List.append_nil]
      rfl
    rw [turns]
  | some failure =>
    obtain ⟨m, lt, accepted, refused⟩ := exists_step_of_refused verdict
    obtain ⟨earlier, turn, late, before, item, behind, whole, -, -, -, items, -, own, -, -, failed⟩ :=
      exists_truncated accepted refused
    -- From the refusal on, the run offers nothing more, and the whole run only adds items.
    obtain ⟨more, grown⟩ := forCaller_prefix (job.withHandler (.accepting next)) kept memory lt
    have split := grown.symm
    rw [turns_after_of_finished lt failed, own, ← items, ← whole]
    have same := Handler.offer_append_of_refused more refused
    exact same.symm.trans (congrArg (job.handler.offer received) grown)

end Whole

/-! ## (3) The result -/

/-- **A refusal truncates a run.** Beside the run with a handler that accepts everything, and as long
as it accepts what that run offers, any handler has the very same run, but for what it remembers.
If it refuses one of these items, the first such item is where the run ends: the outcome is the
handler's failure, everything before the item has been offered and accepted, and nothing is offered
behind it. The callbacks started are those of the whole run up to the one that has sent the item,
and of them all but the last one contribute to the queues. The handler that accepts a number of
items has received so many of those that the whole run offers. -/
theorem refusal_truncates (job : Job T η) (received : η) (next : θ → T.Response → θ) (kept : θ)
    (memory : T.Memory) :
    let whole := whole job next kept memory
    let run := (seed job received memory).after job
    let items := fun n => Journal.offers (whole n).journal
    (∀ n, (job.handler.offer received (items n)).2.2 = none →
      run n = (whole n).recast (job.handler.offer received (items n)).1 []) ∧
    (∀ n failure, (job.handler.offer received (items n)).2.2 = some failure →
      ∃ before item behind earlier turn late later m,
        items n = before ++ item :: behind ∧
        (job.handler.offer received before).2.2 = none ∧
        (job.handler.handle (job.handler.offer received before).1 item).2 = .error failure ∧
        (whole n).turns = earlier ++ late :: later ∧ late.call = turn.call ∧
        (Turn.forCaller earlier).length ≤ before.length ∧
        before.length < (Turn.forCaller (earlier ++ [late])).length ∧
        m ≤ n ∧ ∀ l, m ≤ l →
          (run l).outcome = some (.error (.handler failure)) ∧
          Journal.offers (run l).journal = before ++ [item] ∧
          Journal.accepted (run l).journal = before ∧
          (run l).turns = earlier ++ [turn] ∧
          ∀ slot, slot.stage < job.pipeline.size →
            Turn.delivered slot (run l).turns ++ (run l).pendingAt slot =
              initial job slot ++ Turn.contributed slot earlier) ∧
    ∀ accepted message n,
      let limited := job.withHandler (.failingAfter accepted message)
      ((seed limited [] memory).after limited n).received = (items n).take accepted := by
  intro whole run items
  have isSent : ∀ n, items n = Turn.forCaller (whole n).turns := offers_whole job next kept memory
  refine ⟨?same, ?truncated, ?counted⟩
  case same =>
    intro n accepted
    rw [isSent] at accepted ⊢
    exact after_eq_recast_whole accepted
  case truncated =>
    intro n failure isRefused
    rw [isSent] at isRefused
    obtain ⟨m, lt, accepted, refused⟩ := exists_step_of_refused isRefused
    obtain ⟨earlier, turn, late, before, item, behind, wholeTurns, turns, unended, call, sent, least,
      own, acceptedBefore, handled, failed⟩ := exists_truncated accepted refused
    obtain ⟨later, others, grown, goesOn⟩ := turns_grow lt wholeTurns
    obtain ⟨more, split⟩ := forCaller_prefix (job.withHandler (.accepting next)) kept memory lt
    refine ⟨before, item, behind ++ more, earlier, turn, later, others, m + 1, ?_, acceptedBefore,
      handled, grown, goesOn.call.trans call, least, ?_, lt, fun l le => ?_⟩
    · have sentBefore : Turn.forCaller (whole (m + 1)).turns = before ++ item :: behind := by
        rw [← sent, ← wholeTurns]
      rw [isSent]
      exact split.symm.trans ((congrArg (· ++ more) sentBefore).trans (by simp))
    · -- Since the turn goes on, it has sent the item in any later state as well.
      have among : before.length < (Turn.forCaller (earlier ++ [late])).length := by
        rw [sent, List.length_append, List.length_cons]
        omega
      obtain ⟨rest, isRest⟩ := goesOn.sent
      rw [Turn.forCaller_concat, List.length_append] at among ⊢
      rw [goesOn.call, ← isRest, Outgoing.forCaller_append, List.length_append]
      omega
    · have delivered := delivered_after job received memory l
      have stays : (run l).turns = earlier ++ [turn] :=
        (turns_after_of_finished le failed).trans turns
      have verdicts : (run l).verdicts = Handler.acceptances before ++ [(item, .error failure)] := by
        rw [delivered.verdicts, turns_after_of_finished le failed, own]
        exact Handler.verdicts_of_refused behind acceptedBefore handled
      obtain ⟨offers, accepted⟩ := offers_of_refusal verdicts
      refine ⟨outcome_after_of_finished le failed, offers, accepted, stays, fun slot within => ?_⟩
      have conserved := conserved_after job received memory l slot within
      rw [stays, Turn.contributed_concat, Turn.isClean_of_underWay unended] at conserved
      rw [stays, conserved, if_neg Bool.false_ne_true, List.append_nil]
  case counted =>
    intro accepted message n limited
    have remembered := (delivered_after limited [] memory n).remembered
    rw [remembered, offer_after limited [] next kept memory n]
    refine (Handler.offer_failingAfter accepted message [] _).trans ?_
    rw [isSent, List.nil_append, List.length_nil, Nat.sub_zero]
    rfl

end Run

end Relay
