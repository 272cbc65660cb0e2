import Mathlib.Algebra.BigOperators.Group.Finset.Basic
import Relay.Proofs.Chain.Way
import Relay.Proofs.Counters
import Relay.Proofs.Run.Offering
import Relay.Proofs.Termination
import Relay.Script.Processor

/-!
# A chain computes the composition of its links

A run of a chain succeeds if it has no limit and the caller's handler accepts everything. Its
messages come along the legs in whatever order the schedule has it; but on each leg they come in
order, so that what has come along it so far is the beginning of what will. Each leg is closed by
one last message, which only comes when the leg before is closed. So when the end of the pipe is
out, nothing is missing anywhere; and a run that starved would have handled all its messages, the
last of which had put the end of the pipe out.

* `Run.delivered_begins` is what holds of each leg at any time, `Run.delivered_eq_of_closed` what
  holds when the last leg is closed.
* `Run.chain_succeeds` says that runs succeed.
* `Run.chains_compose` is the result.
-/

namespace Relay

variable {T : Traffic} {η : Type} {α : Type}

/-! ## (1) Handlers that accept everything -/

/-- **A handler that accepts everything**, whatever it remembers. -/
def Handler.IsAccepting (handler : Handler α η) : Prop :=
  ∀ memory item, (handler.handle memory item).2 = .ok ()

/-- Such a handler is offered everything. -/
theorem Handler.IsAccepting.offer_eq {handler : Handler α η} (accepting : handler.IsAccepting)
    (memory : η) (items : List α) :
    handler.offer memory items =
      (items.foldl (fun memory item => (handler.handle memory item).1) memory,
        acceptances items, none) := by
  have same : handler = Handler.accepting fun memory item => (handler.handle memory item).1 :=
    congrArg Handler.mk (funext₂ fun memory item => Prod.ext rfl (accepting memory item))
  rw [same]
  exact offer_accepting _ memory items

/-! ## (2) Messages counted by their queues -/

/-- **The callbacks with messages of a kind**, counted one stage after the other. -/
theorem Turn.handled_eq_sum {size : Nat} {turns : List (Turn T)} (kind : MessageKind)
    (within : ∀ turn ∈ turns, turn.call.stage < size) :
    handled kind turns =
      ∑ stage ∈ Finset.range size, (delivered ⟨stage, kind⟩ turns).length := by
  induction turns with
  | nil => simp [handled, delivered]
  | cons turn rest ih =>
    have inside := within turn List.mem_cons_self
    have others := ih fun other member => within other (List.mem_cons_of_mem _ member)
    have own : ∑ stage ∈ Finset.range size,
        (if turn.call.slot = ⟨stage, kind⟩ then [turn.call.message] else []).length =
          if turn.call.message.kind = kind then 1 else 0 := by
      by_cases same : turn.call.message.kind = kind
      · rw [if_pos same, Finset.sum_eq_single_of_mem _ (Finset.mem_range.mpr inside)]
        · simp [Call.slot, same]
        · intro stage _ other
          simp [Call.slot, Ne.symm other]
      · rw [if_neg same]
        refine Finset.sum_eq_zero fun stage _ => ?_
        simp [Call.slot, same]
    simp only [delivered_cons, List.length_append, Finset.sum_add_distrib, own, ← others]
    rw [handled, List.countP_cons, handled, Nat.add_comm]
    simp

/-! ## (3) Turns that have gone all the way -/

namespace Transform

variable {transform : Transform T} {request : T.Request} {turns : List (Turn T)} {turn : Turn T}

/-- **Turns in which a request has gone all the way**: they have followed the transform, and nothing
is missing on any leg. -/
structure Complete (transform : Transform T) (request : T.Request) (turns : List (Turn T)) :
    Prop where
  follow : ∀ turn ∈ turns, transform.Follows turn
  delivered : ∀ p ≤ 2 * transform.last,
    Turn.delivered (transform.leg p) turns = transform.handed request (transform.leg p)

/-- Legs are within the chain. -/
theorem stage_leg_le {p : Nat} (isLeg : p ≤ 2 * transform.last) :
    (transform.leg p).stage ≤ transform.last := by
  rcases Nat.lt_or_ge transform.last p with back | out
  · rw [leg_back back]
    show 2 * transform.last - p ≤ transform.last
    omega
  · rw [leg_out out]
    exact out

/-- So are the turns that follow a transform. -/
theorem Follows.stage_le (follows : transform.Follows turn) :
    turn.call.stage ≤ transform.last := by
  obtain ⟨p, isLeg, slot⟩ := follows.isLeg
  rw [show turn.call.stage = (transform.leg p).stage from congrArg Slot.stage slot]
  exact stage_leg_le isLeg

namespace Complete

variable (complete : transform.Complete request turns)

include complete

/-- **The caller gets what the chain makes of the request.** -/
theorem forCaller_eq : Turn.forCaller turns = transform.apply request := by
  rw [forCaller_turns complete.follow, complete.delivered _ (Nat.le_refl _), flatMap_output_last,
    Outgoing.filterMap_item?_replies]

/-- **Each stage handles one request.** -/
theorem handled_request : Turn.handled .request turns = transform.last + 1 := by
  have one : ∀ stage ∈ Finset.range (transform.last + 1),
      (Turn.delivered ⟨stage, .request⟩ turns).length = 1 := by
    intro stage inside
    have out : stage ≤ transform.last := Nat.le_of_lt_succ (Finset.mem_range.mp inside)
    rw [← leg_out out, complete.delivered stage (by omega), leg_out out]
    rfl
  have within : ∀ turn ∈ turns, turn.call.stage < transform.last + 1 := fun turn member =>
    Nat.lt_succ_of_le (complete.follow turn member).stage_le
  rw [Turn.handled_eq_sum .request within, Finset.sum_congr rfl one]
  simp

/-- **Each link handles the items of the stage behind it**, and the end of the pipe; nothing comes
back to the last stage. -/
theorem handled_response :
    Turn.handled .response turns = ∑ stage ∈ Finset.range transform.last,
      ((transform.itemsFrom request (stage + 1)).length + 1) := by
  have replies : ∀ stage ∈ Finset.range transform.last,
      (Turn.delivered ⟨stage, .response⟩ turns).length =
        (transform.itemsFrom request (stage + 1)).length + 1 := by
    intro stage inside
    have lt := Finset.mem_range.mp inside
    have leg : transform.leg (2 * transform.last - stage) = ⟨stage, .response⟩ := by
      rw [leg_back (by omega)]
      exact congrArg (Slot.mk · .response) (by omega)
    rw [← leg, complete.delivered _ (Nat.sub_le _ _), leg]
    simp [handed, Outgoing.replies]
  have none : Turn.delivered ⟨transform.last, .response⟩ turns = [] := by
    refine List.map_eq_nil_iff.mpr (List.filter_eq_nil_iff.mpr fun turn member isFrom => ?_)
    obtain ⟨p, isLeg, slot⟩ := (complete.follow turn member).isLeg
    exact leg_ne_last_response isLeg (slot.symm.trans (Turn.isFrom_iff.mp isFrom))
  have within : ∀ turn ∈ turns, turn.call.stage < transform.last + 1 := fun turn member =>
    Nat.lt_succ_of_le (complete.follow turn member).stage_le
  rw [Turn.handled_eq_sum .response within, Finset.sum_range_succ, none,
    Finset.sum_congr rfl replies]
  rfl

end Complete

end Transform

namespace Run

variable {job : Job T η} {transform : Transform T} {run : Run T η} {p q : Nat}

/-! ## (4) From leg to leg -/

/-- **The first leg** is that of the request. -/
theorem delivered_first (transform : Transform T) (conserved : Conserved job run) :
    Turn.delivered (transform.leg 0) run.turns ++ run.pendingAt (transform.leg 0) =
      transform.handed job.request (transform.leg 0) := by
  rw [Transform.leg_out (Nat.zero_le _), conserved ⟨0, .request⟩ job.pipeline.size_pos,
    Turn.contributed_first]
  rfl

/-- **A turn that ends the pipe** closes the last leg. -/
theorem closed_of_endsPipe {turn : Turn T} (follows : transform.Follows turn)
    (member : turn ∈ run.turns) (ends : turn.EndsPipe) :
    ∃ message ∈ Turn.delivered (transform.leg (2 * transform.last)) run.turns,
      Transform.closes message = true := by
  obtain ⟨p, isLeg, slot, goes⟩ := follows.destination?
  -- The end of the pipe goes to the caller, and so the turn is one of the last leg.
  have isLast : p = 2 * transform.last := by
    by_contra other
    have goesOn := goes _ ends.sentEop
    rw [if_pos (Nat.lt_of_le_of_ne isLeg other), ends.first] at goesOn
    cases goesOn
  refine ⟨turn.call.message, ?_, ?_⟩
  · refine List.mem_map.mpr ⟨turn, List.mem_filter.mpr ⟨member, ?_⟩, rfl⟩
    exact Turn.isFrom_iff.mpr (isLast ▸ slot)
  · have sent := ends.sentEop
    rw [follows.sent] at sent
    exact Transform.closes_of_output sent rfl

section Legs

variable (conserved : Conserved job run) (size : job.pipeline.size = transform.last + 1)
  (follow : ∀ turn ∈ run.turns, transform.Follows turn)

include conserved size follow

/-- **What has come along a leg, and what still waits there**, has been sent in answer to what has
come along the one before. -/
theorem delivered_succ (goesOn : q < 2 * transform.last) :
    Turn.delivered (transform.leg (q + 1)) run.turns ++ run.pendingAt (transform.leg (q + 1)) =
      ((Turn.delivered (transform.leg q) run.turns).flatMap
        (transform.output (transform.leg q).stage)).map Outgoing.toMessage := by
  have notFirst : transform.leg (q + 1) ≠ ⟨0, .request⟩ := by
    rw [← Transform.leg_out (Nat.zero_le transform.last), Ne,
      Transform.leg_inj (Nat.succ_le_of_lt goesOn) (Nat.zero_le _)]
    exact Nat.succ_ne_zero q
  have within : (transform.leg (q + 1)).stage < job.pipeline.size := by
    rw [size]
    exact Nat.lt_succ_of_le (Transform.stage_leg_le (Nat.succ_le_of_lt goesOn))
  rw [conserved _ within, initial, if_neg notFirst,
    List.nil_append, Transform.contributed_leg follow goesOn]

/-- **What has come along a leg** is the beginning of what comes along it. -/
theorem delivered_begins (isLeg : p ≤ 2 * transform.last) :
    Turn.delivered (transform.leg p) run.turns <+:
      transform.handed job.request (transform.leg p) := by
  induction p with
  | zero => exact ⟨_, delivered_first transform conserved⟩
  | succ p ih =>
    obtain ⟨missing, isMissing⟩ := ih (Nat.le_of_succ_le isLeg)
    rw [Transform.handed_succ isLeg, ← isMissing, List.flatMap_append, List.map_append,
      ← delivered_succ conserved size follow isLeg, List.append_assoc]
    exact List.prefix_append _ _

/-- **If nothing waits**, all has come along each leg. -/
theorem delivered_eq_of_empty (empty : ∀ slot, run.pendingAt slot = [])
    (isLeg : p ≤ 2 * transform.last) :
    Turn.delivered (transform.leg p) run.turns =
      transform.handed job.request (transform.leg p) := by
  induction p with
  | zero =>
    have all := delivered_first transform conserved
    rwa [empty, List.append_nil] at all
  | succ p ih =>
    have all := delivered_succ conserved size follow isLeg
    rw [empty, List.append_nil, ih (Nat.le_of_succ_le isLeg)] at all
    rw [all, Transform.handed_succ isLeg]

/-- **If the last leg is closed**, so are all before. -/
theorem closed_of_closed
    (closed : ∃ message ∈ Turn.delivered (transform.leg (2 * transform.last)) run.turns,
      Transform.closes message = true) (back : Nat) :
    ∃ message ∈ Turn.delivered (transform.leg (2 * transform.last - back)) run.turns,
      Transform.closes message = true := by
  -- Induction on the legs that lie behind.
  induction back with
  | zero => exact closed
  | succ back ih =>
    rcases Nat.lt_or_ge back (2 * transform.last) with goesOn | start
    · have next : 2 * transform.last - back = 2 * transform.last - (back + 1) + 1 := by omega
      rw [next] at ih
      obtain ⟨message, member, closing⟩ := ih
      have arrived := List.mem_append_left
        (run.pendingAt (transform.leg (2 * transform.last - (back + 1) + 1))) member
      rw [delivered_succ conserved size follow (by omega)] at arrived
      obtain ⟨sent, isSent, rfl⟩ := List.mem_map.mp arrived
      obtain ⟨cause, isCause, isOutput⟩ := List.mem_flatMap.mp isSent
      exact ⟨cause, isCause, Transform.closes_of_output isOutput closing⟩
    · have same : 2 * transform.last - (back + 1) = 2 * transform.last - back := by omega
      rw [same]
      exact ih

/-- **If the last leg is closed**, all has come along each leg. -/
theorem delivered_eq_of_closed
    (closed : ∃ message ∈ Turn.delivered (transform.leg (2 * transform.last)) run.turns,
      Transform.closes message = true) (isLeg : p ≤ 2 * transform.last) :
    Turn.delivered (transform.leg p) run.turns =
      transform.handed job.request (transform.leg p) := by
  have isClosed := closed_of_closed conserved size follow closed (2 * transform.last - p)
  rw [Nat.sub_sub_self isLeg] at isClosed
  exact Transform.eq_handed_of_closed (delivered_begins conserved size follow isLeg) isClosed

/-- **If nothing waits**, some turn has ended the pipe. -/
theorem exists_endsPipe_of_empty (empty : ∀ slot, run.pendingAt slot = []) :
    ∃ turn ∈ run.turns, turn.EndsPipe := by
  have sent := transform.flatMap_output_last job.request
  rw [← delivered_eq_of_empty conserved size follow empty (Nat.le_refl _)] at sent
  have isSent : .response .eop ∈ Outgoing.replies (transform.apply job.request) :=
    List.mem_append_right _ List.mem_cons_self
  rw [← sent] at isSent
  obtain ⟨message, isDelivered, isOutput⟩ := List.mem_flatMap.mp isSent
  obtain ⟨turn, isTurn, rfl⟩ := List.mem_map.mp isDelivered
  obtain ⟨member, isFrom⟩ := List.mem_filter.mp isTurn
  have first : turn.call.stage = 0 :=
    (congrArg Slot.stage (Turn.isFrom_iff.mp isFrom)).trans transform.stage_leg_last
  have follows := follow turn member
  refine ⟨turn, member, first, ?_, Turn.result_eq_of_isClean follows.clean, ?_⟩
  · rw [follows.sent, first]
    exact isOutput
  · simpa using (Bool.and_eq_true_iff.mp follows.clean).1

end Legs

/-! ## (5) Runs succeed -/

section Chains

variable (carries : job.pipeline.CarriesOut transform) (received : η) (memory : T.Memory) (n : Nat)

include carries

/-- **Turns that have ended well** have followed the transform. -/
theorem follows_after {turn : Turn T}
    (member : turn ∈ ((seed job received memory).after job n).turns)
    (clean : turn.isClean = true) : transform.Follows turn := by
  have due := callsDue_after job received memory n
  have told := asTold_after carries.answers_output received memory n
  have within : turn.call.slot.stage ≤ transform.last := by
    obtain ⟨before, behind, split⟩ := List.append_of_mem member
    have inside := (due before turn behind split).within
    rw [carries.size] at inside
    exact Nat.le_of_lt_succ inside
  have comes := due.slot_ne_last member
  rw [carries.size, Nat.add_sub_cancel] at comes
  obtain ⟨-, sent⟩ := told.ended turn (List.mem_reverse.mp member) _
    (Turn.result_eq_of_isClean clean)
  exact ⟨clean, sent, Transform.exists_leg within comes⟩

/-- **Replies are answered with replies.** -/
theorem not_turnsBack_of_carries {turn : Turn T}
    (member : turn ∈ ((seed job received memory).after job n).turns) :
    turn.turnsBack = false := by
  cases clean : turn.isClean with
  | false => exact Turn.turnsBack_of_unclean clean
  | true =>
    obtain ⟨p, isLeg, slot⟩ := (follows_after carries received memory n member clean).isLeg
    cases kind : turn.call.message.kind with
    | request => simp [Turn.turnsBack, kind]
    | response =>
      have back : transform.last ≤ p := by
        by_contra out
        have isRequest := congrArg Slot.kind slot
        rw [Transform.leg_out (by omega)] at isRequest
        cases kind.symm.trans isRequest
      have stage : turn.call.stage = (transform.leg p).stage := congrArg Slot.stage slot
      have noRequest : turn.sent.any (·.request?.isSome) = false := by
        refine List.any_eq_false.mpr fun sent isSent => ?_
        rw [(follows_after carries received memory n member clean).sent, stage] at isSent
        obtain ⟨reply, rfl⟩ :=
          Transform.reply_of_output back isLeg (congrArg Slot.kind slot) isSent
        exact Bool.false_ne_true
      simp [Turn.turnsBack, noRequest]

/-- **Every run of a chain comes to its end.** -/
theorem chain_ends :
    ∃ n result, ((seed job received memory).after job n).outcome = some result := by
  have quiet (n : Nat) :
      ((seed job received memory).after job n).turns.countP Turn.turnsBack = 0 := by
    refine List.countP_eq_zero.mpr fun turn member => ?_
    rw [not_turnsBack_of_carries carries received memory n member]
    exact Bool.false_ne_true
  exact ends_of_forward (m := 0) fun n => by rw [quiet, quiet]

/-- **Without a limit, and with a handler that accepts everything**, no run of a chain fails. -/
theorem chain_succeeds (unlimited : job.config.maxSteps = none)
    (accepting : job.handler.IsAccepting) {result : Except RunError RunSummary}
    (ended : ((seed job received memory).after job n).outcome = some result) :
    ∃ summary, result = .ok summary := by
  cases result with
  | ok summary => exact ⟨summary, rfl⟩
  | error error =>
    have told := asTold_after carries.answers_output received memory n
    have isTurn {turn : Turn T}
        (latest : ((seed job received memory).after job n).turns.getLast? = some turn) :
        turn ∈ Turn.ofPast ((seed job received memory).after job n).past :=
      List.mem_reverse.mp (List.mem_of_getLast? latest)
    cases cause_after job received memory n ended with
    | refusal turn item failure _ _ _ refused =>
      have verdicts := (delivered_after job received memory n).verdicts
      rw [accepting.offer_eq] at verdicts
      rw [verdicts] at refused
      obtain ⟨other, -, same⟩ := List.mem_map.mp (List.mem_of_getLast? refused)
      cases same
    | overreach turn processor _ latest _ _ isRefused =>
      cases isRefused.symm.trans (told.notRefused turn (isTurn latest))
    | failure turn processor source _ latest _ _ failed =>
      cases (told.ended turn (isTurn latest) _ failed).1
    | starvation blameless empty =>
      have follow : ∀ turn ∈ ((seed job received memory).after job n).turns,
          transform.Follows turn := fun turn member =>
        follows_after carries received memory n member (blameless.clean turn member)
      obtain ⟨turn, member, ends⟩ := exists_endsPipe_of_empty
        (conserved_after job received memory n) carries.size follow empty
      exact absurd ends (blameless.unended turn member)
    | stepLimit limit _ _ _ isLimit => cases unlimited.symm.trans isLimit

end Chains

/-! ## (6) The result -/

/-- **What a run of a chain comes to**: it has succeeded, the handler has been offered exactly what
the chain makes of the request, in that order, and the counters tell how many requests and replies
it has taken. -/
structure Composed (transform : Transform T) (job : Job T η) (received : η) (run : Run T η)
    (summary : RunSummary) : Prop where
  outcome : run.outcome = some (.ok summary)
  offers : Journal.offers run.journal = transform.apply job.request
  accepted : Journal.accepted run.journal = transform.apply job.request
  received : run.received = (transform.apply job.request).foldl
    (fun memory item => (job.handler.handle memory item).1) received
  requests : summary.requestsProcessed = transform.last + 1
  /-- Each link handles the items of the stage behind it and the end of the pipe. -/
  responses : summary.responsesProcessed = ∑ stage ∈ Finset.range transform.last,
    ((transform.itemsFrom job.request (stage + 1)).length + 1)
  steps : summary.steps = summary.requestsProcessed + summary.responsesProcessed
  delivered : summary.responsesDelivered = (transform.apply job.request).length

/-- **A run of a chain that succeeds** has let everything come along every leg. -/
theorem composed_of_success (carries : job.pipeline.CarriesOut transform)
    (accepting : job.handler.IsAccepting) {received : η} {memory : T.Memory} {n : Nat}
    {summary : RunSummary}
    (succeeded : ((seed job received memory).after job n).outcome = some (.ok summary)) :
    Composed transform job received ((seed job received memory).after job n) summary := by
  have sound := sound_after job received memory n
  have orderly := orderly_after job received memory n
  have known := pipeEnd_after job received memory n
  have counted := counted_after job received memory n
  have offered := delivered_after job received memory n
  have own := summary_of_success job received memory n succeeded
  have unfailed : ∀ error,
      ((seed job received memory).after job n).outcome ≠ some (.error error) := by
    simp [succeeded]
  have idle : ((seed job received memory).after job n).flight = none :=
    sound.flight_eq_none (by simp [succeeded])
  -- The last turn has ended the pipe, so that the last leg is closed, and with it all the others.
  have complete : transform.Complete job.request
      ((seed job received memory).after job n).turns := by
    have follow : ∀ turn ∈ ((seed job received memory).after job n).turns,
        transform.Follows turn := fun turn member =>
      follows_after carries received memory n member
        (orderly.latest unfailed idle turn (List.mem_reverse.mp member))
    obtain ⟨before, turn, turns, ends⟩ := known.exists_endsPipe (known.success summary succeeded)
    have isTurn : turn ∈ ((seed job received memory).after job n).turns := by simp [turns]
    have closed := closed_of_endsPipe (follow turn isTurn) isTurn ends
    exact ⟨follow, fun p isLeg => delivered_eq_of_closed (conserved_after job received memory n)
      carries.size follow closed isLeg⟩
  have verdicts := offered.verdicts_eq unfailed
  rw [complete.forCaller_eq] at verdicts
  subst own
  constructor
  case outcome => exact succeeded
  case offers =>
    rw [Journal.offers_eq_verdicts, ← Run.verdicts, verdicts, Handler.map_fst_acceptances]
  case accepted =>
    rw [Journal.accepted_eq_verdicts, ← Run.verdicts, verdicts, Handler.filter_acceptances,
      Handler.map_fst_acceptances]
  case received => rw [offered.remembered, complete.forCaller_eq, accepting.offer_eq]
  case requests => exact counted.requests.trans complete.handled_request
  case responses => exact counted.responses.trans complete.handled_response
  case steps =>
    have kinds := Turn.handled_add_handled ((seed job received memory).after job n).turns
    rw [← counted.requests, ← counted.responses] at kinds
    exact (orderly.length_turns_eq_steps unfailed idle).symm.trans kinds.symm
  case delivered =>
    have count := offered.count
    rwa [verdicts, Handler.countP_acceptances] at count

/-- **All runs of a chain succeed alike**, whoever polls them. -/
theorem exists_composed (carries : job.pipeline.CarriesOut transform)
    (unlimited : job.config.maxSteps = none) (accepting : job.handler.IsAccepting) (received : η)
    (memory : T.Memory) :
    ∃ summary, (∃ n, ∀ fuel polls, n ≤ fuel → n ≤ polls → Composed transform job received
        ((seed job received memory).pollToEnd job fuel polls).1 summary) ∧
      ∀ n, ((seed job received memory).after job n).outcome ≠ none →
        Composed transform job received ((seed job received memory).after job n) summary := by
  obtain ⟨n, result, ended⟩ := chain_ends carries received memory
  obtain ⟨summary, rfl⟩ := chain_succeeds carries received memory n unlimited accepting ended
  refine ⟨summary, ⟨n, fun fuel polls enough often => ?_⟩, fun m unfinished => ?_⟩
  · have ends : ((seed job received memory).after job n).isFinished = true :=
      Option.isSome_iff_exists.mpr ⟨.ok summary, ended⟩
    rw [pollToEnd_eq (sound_seed job received memory) rfl ends enough often]
    exact composed_of_success carries accepting ended
  · obtain ⟨other, isOther⟩ := Option.ne_none_iff_exists'.mp unfinished
    -- Both ends are that of the later of the two states.
    have first := outcome_after_of_finished (Nat.le_max_left n m) ended
    have second := outcome_after_of_finished (Nat.le_max_right n m) isOther
    obtain rfl := Option.some.inj (first.symm.trans second)
    exact composed_of_success carries accepting isOther

/-- **A chain computes the composition of its links.** Let each stage of a pipeline but the last one
pass a request on as one request, answer an item with any number of items and pass on the end of the
pipe, and let the last stage answer a request with items and the end of the pipe. Without a limit,
and with a handler that accepts everything, every run succeeds, and in one way only: the handler is
offered exactly the items that the links make of the answer, in order; each stage handles one
request, and each link the items of the stage behind it and the end of the pipe; and nothing else is
counted. In particular, a chain that only forwards delivers the answer of its last stage, in as many
steps as it has stages and, for each of these but the last, one for each item and one for the end of
the pipe. -/
theorem chains_compose :
    (∀ (T : Traffic) (η : Type) (transform : Transform T) (job : Job T η) (received : η)
      (memory : T.Memory), job.pipeline.CarriesOut transform → job.config.maxSteps = none →
        job.handler.IsAccepting →
      ∃ summary, (∃ n, ∀ fuel polls, n ≤ fuel → n ≤ polls → Composed transform job received
          ((seed job received memory).pollToEnd job fuel polls).1 summary) ∧
        ∀ n, ((seed job received memory).after job n).outcome ≠ none →
          Composed transform job received ((seed job received memory).after job n) summary) ∧
    ∀ size responses, 0 < size → ∃ pipeline,
      (Script.chain size responses).build = .ok pipeline ∧
      ∀ job : Job Script.traffic (List String), job.pipeline = pipeline →
        job.config.maxSteps = none → job.handler = .collecting →
        ∃ n summary, ((seed job [] ()).after job n).outcome = some (.ok summary) ∧
          ((seed job [] ()).after job n).collected = responses ∧
          summary.steps = size + (size - 1) * (responses.length + 1) := by
  refine ⟨fun T η transform job received memory carries unlimited accepting =>
    exists_composed carries unlimited accepting received memory, fun size responses pos => ?_⟩
  obtain ⟨pipeline, built, isChain⟩ := Script.build_chain size responses
  refine ⟨pipeline, built, fun job isPipeline unlimited collects => ?_⟩
  subst isPipeline
  have carries := Script.carriesOut_chain isChain
  have accepting : job.handler.IsAccepting := by
    rw [collects]
    exact fun _ _ => rfl
  obtain ⟨n, result, ended⟩ := chain_ends carries [] ()
  obtain ⟨summary, rfl⟩ := chain_succeeds carries [] () n unlimited accepting ended
  have composed := composed_of_success carries accepting ended
  have applied : (Transform.forwarding size responses).apply job.request = responses :=
    Transform.itemsFrom_forwarding (T := Script.traffic) size responses job.request 0
  refine ⟨n, summary, ended, ?_, ?_⟩
  · have offered := accepting.offer_eq [] responses
    rw [collects, Handler.offer_collecting] at offered
    rw [collected, composed.received, applied, collects]
    exact (congrArg Prod.fst offered).symm
  · rw [composed.steps, composed.requests, composed.responses, Transform.last_forwarding,
      Nat.sub_add_cancel pos]
    simp [Transform.itemsFrom_forwarding]

/-- **A transform of numbers**: one more on the way out and each item twice on the way back, then
twice the number on the way out and all smaller ones on the way back. -/
def spreading : Transform numbers where
  links := [⟨fun n => n + 1, fun n => [n, n]⟩, ⟨fun n => 2 * n, fun n => List.range n⟩]
  answer n := [n]

/-- A job for the chain of this transform. -/
def spread : Job numbers (List Nat) where
  pipeline :=
    { name := "spread"
      processors := spreading.processors
      metadata := {}
      name_not_blank := by decide
      processors_ne_nil := by simp [Transform.processors] }
  request := (0 : Nat)
  handler := .collecting
  runId := .nil
  startedAt := ⟨⟨2024, 1, 1⟩, 0, 0⟩
  durationMs := 0

/-- The request `0` becomes `2` on the way out, and the answer `2` becomes four items on the way
back: three requests, and two and three replies on the two legs back. -/
theorem spread_composes :
    spread.pipeline.CarriesOut spreading ∧ ∃ n summary,
      ((seed spread [] ()).pollToEnd spread n n).1.outcome = some (.ok summary) ∧
      ((seed spread [] ()).pollToEnd spread n n).1.collected = [0, 0, 1, 1] ∧
      summary.requestsProcessed = 3 ∧ summary.responsesProcessed = 5 ∧ summary.steps = 8 := by
  have carries : spread.pipeline.CarriesOut spreading := Transform.carriesOut_processors rfl
  obtain ⟨summary, ⟨n, polled⟩, -⟩ := chains_compose.1 numbers (List Nat) spreading spread [] ()
    carries rfl fun _ _ => rfl
  have composed := polled n n (Nat.le_refl n) (Nat.le_refl n)
  have responses : summary.responsesProcessed = 5 := composed.responses.trans (by decide)
  refine ⟨carries, n, summary, composed.outcome, composed.received.trans (by decide),
    composed.requests, responses, ?_⟩
  rw [composed.steps, composed.requests, responses]
  rfl

end Run

end Relay
