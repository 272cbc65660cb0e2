import Mathlib.Algebra.BigOperators.Group.Finset.Basic
import Mathlib.Data.Finset.Prod
import Mathlib.Data.Multiset.DershowitzManna
import Relay.Proofs.Conservation
import Relay.Proofs.PassThrough.Invisible
import Relay.Proofs.Pauses.Suspension
import Relay.Proofs.Run.Flight

/-!
# When runs end

Each callback may put any number of messages in the place of the one that it handles, so that no
number of messages counts a run down. But a request only leads to requests nearer to the last stage
and to replies, and a reply only to replies nearer to the first one, as long as no reply is answered
with a request. Messages are weighed accordingly, and the weights of all messages of a run get less
in the order of multisets: what is taken away is heavier than all that comes in its place. So only
requests sent in answer to replies can keep a run going for ever.

* `Callback.SendsNoRequest` and `Turn.turnsBack` say where replies are answered with requests.
* `Run.load` is what a run carries; `Run.lighter_of_change` is the step lemma, and
  `Run.lighter_after` the run lemma.
* `Run.ends_unless_turning_back` is the result.
-/

namespace Relay

variable {T : Traffic} {η : Type} {α : Type}

/-! ## (1) Answers to replies -/

namespace Callback

/-- **A callback that sends no request**, whatever it finds. -/
def SendsNoRequest : Callback T α → Prop
  | done _ => True
  | fail _ => True
  | pause next => next.SendsNoRequest
  | look next => ∀ view, (next view).SendsNoRequest
  | keep _ next => next.SendsNoRequest
  | sendRequest _ _ => False
  | sendReply _ next => next.SendsNoRequest
  | note _ next => next.SendsNoRequest
  | consult next => ∀ memory, (next memory).SendsNoRequest
  | remember _ next => next.SendsNoRequest

/-- **A poll of a callback that sends no request** sends none, and leaves one that sends none. -/
theorem poll_sendsNoRequest {callback : Callback T α} (none : callback.SendsNoRequest)
    (scene : Scene T) :
    (∃ acts, (callback.poll scene).2.past = acts ++ scene.past ∧
      ∀ message ∈ Journal.sent acts, message.request? = Option.none) ∧
    ∀ rest, (callback.poll scene).1 = .waiting rest → rest.SendsNoRequest := by
  -- What is done before the rest of the poll stands below what the rest adds to the journal.
  have before {past between later : List (Entry T)} (early : List (Entry T))
      (grown : between = early ++ past)
      (noRequest : ∀ message ∈ Journal.sent early, message.request? = Option.none)
      (rest : ∃ acts, later = acts ++ between ∧
        ∀ message ∈ Journal.sent acts, message.request? = Option.none) :
      ∃ acts, later = acts ++ past ∧
        ∀ message ∈ Journal.sent acts, message.request? = Option.none := by
    obtain ⟨late, isLater, noneLate⟩ := rest
    refine ⟨late ++ early, by rw [isLater, grown, List.append_assoc], fun message member => ?_⟩
    rw [Journal.sent_append] at member
    exact (List.mem_append.mp member).elim (noRequest message) (noneLate message)
  induction callback generalizing scene with
  | done _ => exact ⟨⟨[], rfl, by simp⟩, fun _ waiting => by cases waiting⟩
  | fail _ => exact ⟨⟨[], rfl, by simp⟩, fun _ waiting => by cases waiting⟩
  | pause next =>
    refine ⟨⟨[.paused scene.stage.index], rfl, by simp [Entry.sent?]⟩, fun rest waiting => ?_⟩
    cases waiting
    exact none
  | look _ ih => exact ih _ (none _) scene
  | keep _ _ ih => exact ih none _
  | sendRequest _ _ => exact none.elim
  | sendReply reply _ ih =>
    obtain ⟨sending, acted, sent, -⟩ := Scene.Acted.sendReply scene reply
    obtain ⟨acts, others⟩ := ih none (scene.sendReply reply)
    exact ⟨before sending acted.past (by simp [sent, Outgoing.request?]) acts, others⟩
  | note entry _ ih =>
    obtain ⟨acts, others⟩ := ih none (scene.log (.noted scene.stage.index entry))
    exact ⟨before [_] rfl (by simp [Entry.sent?]) acts, others⟩
  | consult _ ih => exact ih _ (none _) scene
  | remember _ _ ih => exact ih none _

end Callback

/-- **A turn that turns back**: its callback has answered a reply with a request, and has ended
well, so that the request is on its way. -/
def Turn.turnsBack (turn : Turn T) : Bool :=
  turn.isClean && turn.call.message.kind == .response && turn.sent.any (·.request?.isSome)

namespace Turn

/-- A turn that has not ended well has not turned back yet. -/
theorem turnsBack_of_unclean {turn : Turn T} (unclean : turn.isClean = false) :
    turn.turnsBack = false := by
  rw [turnsBack, unclean, Bool.false_and, Bool.false_and]

/-- A turn that has ended well without turning back has answered no reply with a request. -/
theorem request?_of_not_turnsBack {turn : Turn T} (clean : turn.isClean = true)
    (forward : turn.turnsBack = false) (isReply : turn.call.message.kind = .response) :
    ∀ message ∈ turn.sent, message.request? = none := by
  intro message isSent
  by_contra isRequest
  have some : turn.sent.any (·.request?.isSome) = true :=
    List.any_eq_true.mpr ⟨message, isSent, Option.isSome_iff_ne_none.mpr isRequest⟩
  simp [turnsBack, clean, isReply, some] at forward

end Turn

namespace Run

variable {job : Job T η} {run : Run T η}

/-- Where processors answer no reply with a request, no callback in flight for a reply sends one. -/
theorem sendsNoRequest_after (none : ∀ processor ∈ job.pipeline.processors, ∀ reply,
      (processor.onResponse reply).SendsNoRequest) (received : η) (memory : T.Memory) (n : Nat)
    {flight : Flight T} (isFlight : ((seed job received memory).after job n).flight = some flight)
    (isReply : flight.slot.kind = .response) : flight.callback.SendsNoRequest := by
  refine callback_after (P := fun slot callback => slot.kind = .response → callback.SendsNoRequest)
    ?starts ?leaves received memory n flight isFlight isReply
  case starts =>
    intro slot processor message hasProcessor kind isReply
    cases message with
    | request => cases kind.trans isReply
    | response reply => exact none processor (List.mem_of_getElem? hasProcessor) reply
  case leaves =>
    rintro slot callback rest restrained ⟨scene, later, polled⟩ isReply
    exact (Callback.poll_sendsNoRequest (restrained isReply) scene).2 rest (by rw [polled])

/-- **Where processors answer no reply with a request**, no turn turns back. -/
theorem not_turnsBack_after (none : ∀ processor ∈ job.pipeline.processors, ∀ reply,
      (processor.onResponse reply).SendsNoRequest) (received : η) (memory : T.Memory) (n : Nat) :
    ∀ turn ∈ Turn.ofPast ((seed job received memory).after job n).past,
      turn.turnsBack = false := by
  -- Already while the callback is under way, it sends no request in answer to a reply.
  suffices quiet : ∀ turn ∈ Turn.ofPast ((seed job received memory).after job n).past,
      turn.call.message.kind = .response → ∀ message ∈ turn.sent, message.request? = Option.none by
    intro turn member
    by_cases reply : turn.call.message.kind = .response
    · have noRequest : turn.sent.any (·.request?.isSome) = false :=
        List.any_eq_false.mpr fun message isSent => by simp [quiet turn member reply message isSent]
      rw [Turn.turnsBack, noRequest, Bool.and_false]
    · simp [Turn.turnsBack, reply]
  induction n with
  | zero => simp [after, seed]
  | succ n ih =>
    intro turn member
    have sound := sound_after job received memory n
    have move := move_step sound
    rw [after] at member
    cases isFlight : ((seed job received memory).after job n).flight with
    | none =>
      rcases opened_of_move move isFlight with
        ⟨-, -, turns⟩ | ⟨slot, stage, processor, message, rest, -, -, -, opened⟩
      · rw [turns] at member
        exact ih turn member
      · rw [opened] at member
        rcases List.mem_cons.mp member with rfl | isEarlier
        · simp
        · exact ih turn isEarlier
    | some flight =>
      obtain ⟨stage, before, late, earlier, acts, polled⟩ := exists_late sound.awake move isFlight
      have whole := polled.engaged.turns
      rw [polled.turns] at member
      rcases List.mem_cons.mp member with rfl | isEarlier
      · intro isReply message isSent
        rw [polled.sent] at isSent
        rw [polled.call] at isReply
        rcases List.mem_append.mp isSent with isOld | isNew
        · exact ih before (whole ▸ List.mem_cons_self) isReply message isOld
        · -- What is sent in the poll is told by its acts, which are in the journal.
          have restrained : flight.callback.SendsNoRequest :=
            sendsNoRequest_after none received memory n isFlight
              (polled.engaged.kind.symm.trans isReply)
          obtain ⟨⟨others, same, noRequest⟩, -⟩ :=
            Callback.poll_sendsNoRequest restrained ⟨stage, _, _⟩
          obtain rfl := List.append_cancel_right (polled.acted.past.symm.trans same)
          exact noRequest message isNew
      · exact ih turn (whole ▸ List.mem_cons_of_mem _ isEarlier)

end Run

/-! ## (2) Weights -/

/-- **The weight of a message** in a queue. Requests are heavier than replies, and the heavier the
farther from the last stage; replies are the heavier the farther from the first one. -/
def Slot.weight (size : Nat) (slot : Slot) : Nat :=
  match slot.kind with
  | .request => 2 * size - slot.stage
  | .response => slot.stage

/-- **What a callback sends is lighter** than the message that it handles, unless it answers a reply
with a request. -/
theorem Outgoing.weight_lt {size sender : Nat} {kind : MessageKind} {message : Outgoing T}
    {slot : Slot} (isDestination : message.destination? sender = some slot)
    (within : slot.stage < size) (noRequest : kind = .response → message.request? = none) :
    slot.weight size < (Slot.mk sender kind).weight size := by
  cases message with
  | request request =>
    obtain rfl := Option.some.inj isDestination
    cases kind with
    | request =>
      simp only [Slot.weight] at within ⊢
      omega
    | response => simp [request?] at noRequest
  | response reply =>
    rw [destination?] at isDestination
    split at isDestination
    · obtain rfl := Option.some.inj isDestination
      cases kind <;> simp only [Slot.weight] at within ⊢ <;> omega
    · cases isDestination

/-- The queues of a pipeline. -/
def slots (size : Nat) : Finset Slot :=
  (Finset.range size ×ˢ {MessageKind.request, MessageKind.response}).image
    fun place => ⟨place.1, place.2⟩

theorem mem_slots {size : Nat} {slot : Slot} : slot ∈ slots size ↔ slot.stage < size := by
  obtain ⟨stage, kind⟩ := slot
  cases kind <;> simp [slots]

/-- **The weights of messages that wait**, given by their queues. A message that waits weighs a bit
more than when it is handled. -/
def waitingLoad (size : Nat) (queues : Slot → List (Message T)) : Multiset Nat :=
  ∑ slot ∈ slots size, Multiset.replicate (queues slot).length (2 * slot.weight size + 1)

/-- **The weight of the message under way**, if the latest turn has not ended well. -/
def underWayLoad (size : Nat) : List (Turn T) → Multiset Nat
  | [] => 0
  | turn :: _ => if turn.isClean then 0 else {2 * turn.call.slot.weight size}

namespace Run

/-- **What a run carries**: the weights of its messages. -/
def load (size : Nat) (run : Run T η) : Multiset Nat :=
  waitingLoad size run.pendingAt + underWayLoad size (Turn.ofPast run.past)

end Run

section Load

variable {size : Nat} {queues later : Slot → List (Message T)}

/-- The same queues carry the same. -/
theorem waitingLoad_congr (same : ∀ slot, slot.stage < size → later slot = queues slot) :
    waitingLoad size later = waitingLoad size queues :=
  Finset.sum_congr rfl fun slot member => by rw [same slot (mem_slots.mp member)]

/-- Messages join the load at the end of their queues. -/
theorem waitingLoad_append (more : Slot → List (Message T)) :
    waitingLoad size (fun slot => queues slot ++ more slot) =
      waitingLoad size queues + waitingLoad size more := by
  simp only [waitingLoad, List.length_append, Multiset.replicate_add, Finset.sum_add_distrib]

/-- A single message. -/
theorem waitingLoad_single {slot : Slot} (within : slot.stage < size) (message : Message T) :
    waitingLoad size (fun other => if other = slot then [message] else []) =
      {2 * slot.weight size + 1} := by
  rw [waitingLoad, Finset.sum_eq_single slot]
  · simp
  · intro other _ elsewhere
    simp [elsewhere]
  · exact fun outside => absurd (mem_slots.mpr within) outside

/-- What is in the load waits in some queue. -/
theorem exists_of_mem_waitingLoad {weight : Nat} (member : weight ∈ waitingLoad size queues) :
    ∃ slot, slot.stage < size ∧ queues slot ≠ [] ∧ weight = 2 * slot.weight size + 1 := by
  obtain ⟨slot, isSlot, inQueue⟩ := Multiset.mem_sum.mp member
  obtain ⟨nonempty, rfl⟩ := Multiset.mem_replicate.mp inQueue
  exact ⟨slot, mem_slots.mp isSlot, fun empty => nonempty (by rw [empty]; rfl), rfl⟩

end Load

namespace Run

variable {job : Job T η} {run next : Run T η}

/-! ## (3) Steps -/

/-- A run that carries strictly less. -/
def Lighter (size : Nat) (next run : Run T η) : Prop :=
  (next.load size).IsDershowitzMannaLT (run.load size)

/-- **To start a callback makes a run lighter**, since the message is not waiting any longer. -/
theorem lighter_of_opened (sound : Sound job run) (orderly : Orderly next) {slot : Slot}
    {call : Call T} (turns : Turn.ofPast next.past = { call } :: Turn.ofPast run.past)
    (isSlot : call.slot = slot)
    (pending : ∀ other, run.pendingAt other =
      (if other = slot then [call.message] else []) ++ next.pendingAt other) :
    Lighter job.pipeline.size next run := by
  have within : slot.stage < job.pipeline.size := by
    by_contra outside
    have empty := pendingAt_of_outside (sound.length_eq.trans_le (Nat.le_of_not_lt outside))
    simp [pending] at empty
  -- The callback before has ended well, so that nothing else is under way.
  have ended : underWayLoad job.pipeline.size (Turn.ofPast run.past) = 0 := by
    have clean := orderly.earlier
    rw [turns, List.tail_cons] at clean
    cases isPast : Turn.ofPast run.past with
    | nil => rfl
    | cons turn earlier => rw [underWayLoad, if_pos (clean turn (isPast ▸ List.mem_cons_self))]
  have taken : waitingLoad job.pipeline.size run.pendingAt =
      waitingLoad job.pipeline.size next.pendingAt + {2 * slot.weight job.pipeline.size + 1} := by
    rw [← waitingLoad_single within call.message, add_comm, ← waitingLoad_append]
    exact waitingLoad_congr fun other _ => pending other
  refine ⟨waitingLoad job.pipeline.size next.pendingAt, {2 * slot.weight job.pipeline.size},
    {2 * slot.weight job.pipeline.size + 1}, Multiset.singleton_ne_zero _, ?_, ?_, by simp⟩
  · rw [load, turns, underWayLoad, isSlot]
    rfl
  · rw [load, ended, taken, add_zero]

/-- **A callback that ends well makes a run lighter**, unless it turns back: all that it has sent is
lighter than the message that it has handled. -/
theorem lighter_of_ended {size : Nat} {turn late : Turn T} {earlier : List (Turn T)}
    (before : Turn.ofPast run.past = turn :: earlier)
    (turns : Turn.ofPast next.past = late :: earlier) (call : late.call = turn.call)
    (unclean : turn.isClean = false) (clean : late.isClean = true)
    (forward : late.turnsBack = false)
    (pending : ∀ slot, slot.stage < size → next.pendingAt slot =
      run.pendingAt slot ++ Outgoing.arrivals late.call.stage slot late.sent) :
    Lighter size next run := by
  have joined : waitingLoad size next.pendingAt = waitingLoad size run.pendingAt +
      waitingLoad size fun slot => Outgoing.arrivals late.call.stage slot late.sent := by
    rw [← waitingLoad_append]
    exact waitingLoad_congr pending
  refine ⟨waitingLoad size run.pendingAt,
    waitingLoad size fun slot => Outgoing.arrivals late.call.stage slot late.sent,
    {2 * late.call.slot.weight size}, Multiset.singleton_ne_zero _, ?_, ?_, ?_⟩
  · rw [load, turns, underWayLoad, if_pos clean, joined, add_zero]
  · rw [load, before, underWayLoad, unclean, ← call]
    rfl
  · intro weight member
    obtain ⟨slot, within, arrive, rfl⟩ := exists_of_mem_waitingLoad member
    obtain ⟨message, isSent, isDestination⟩ :=
      List.mem_filterMap.mp (Outgoing.arrivals_ne_nil_iff.mp arrive)
    have less : slot.weight size < late.call.slot.weight size :=
      Outgoing.weight_lt isDestination within fun isReply =>
        Turn.request?_of_not_turnsBack clean forward isReply message isSent
    exact ⟨_, Multiset.mem_singleton_self _, by omega⟩

/-- **A step makes a run lighter or keeps its load**, and only if it makes it lighter does it call a
processor, as long as no turn turns back with it. -/
theorem lighter_of_change (sound : Sound job run) (orderly : Orderly next)
    (change : Change job run next)
    (forward : next.turns.countP Turn.turnsBack ≤ run.turns.countP Turn.turnsBack) :
    Lighter job.pipeline.size next run ∨
      next.load job.pipeline.size = run.load job.pipeline.size ∧
        next.turns.length = run.turns.length := by
  cases change with
  | still turns pending =>
    refine .inr ⟨?_, congrArg (·.reverse.length) turns⟩
    rw [load, load, turns, waitingLoad_congr fun slot _ => pending slot]
  | opened slot call turns place kind pending =>
    exact .inl (lighter_of_opened sound orderly turns (by rw [Call.slot, place, kind]) pending)
  | acted turn late earlier sent before turns underWay unfinished call more pending =>
    have unclean := Turn.isClean_of_underWay underWay
    cases clean : late.isClean with
    | false =>
      have same : waitingLoad job.pipeline.size next.pendingAt =
          waitingLoad job.pipeline.size run.pendingAt :=
        waitingLoad_congr fun slot within => by simp [pending slot within, clean]
      refine .inr ⟨?_, by simp [Run.turns, turns, before]⟩
      rw [load, load, turns, before, underWayLoad, underWayLoad, same, call, clean, unclean]
    | true =>
      have notBack : late.turnsBack = false := by
        by_contra isBack
        have quiet := Turn.turnsBack_of_unclean unclean
        simp only [Run.turns, turns, before, List.countP_reverse, List.countP_cons, quiet,
          Bool.not_eq_false] at forward isBack
        simp only [isBack, if_true, Bool.false_eq_true, if_false, add_zero] at forward
        omega
      refine .inl (lighter_of_ended before turns call unclean clean notBack fun slot within => ?_)
      rw [pending slot within, if_pos clean]

/-- Turns that have turned back stay so. -/
theorem countP_turnsBack_le (change : Change job run next) :
    run.turns.countP Turn.turnsBack ≤ next.turns.countP Turn.turnsBack := by
  cases change with
  | still turns => simp [Run.turns, turns]
  | opened slot call turns => simp [Run.turns, turns]
  | acted turn late earlier sent before turns underWay =>
    have unclean := Turn.isClean_of_underWay underWay
    simp [Run.turns, turns, before, Turn.turnsBack_of_unclean unclean]

/-! ## (4) Runs -/

section Runs

variable {received : η} {memory : T.Memory}

/-- However many steps are taken. -/
theorem countP_turnsBack_le_after (m n : Nat) :
    ((seed job received memory).after job m).turns.countP Turn.turnsBack ≤
      ((seed job received memory).after job (m + n)).turns.countP Turn.turnsBack := by
  induction n with
  | zero => exact Nat.le_refl _
  | succ n ih =>
    exact Nat.le_trans ih (countP_turnsBack_le (change_step (sound_after job received memory _)))

/-- **However many steps are taken** without a turn turning back, the run gets lighter or keeps its
load, and only if it gets lighter has it called a processor. -/
theorem lighter_after {m : Nat} (forward : ∀ n,
      ((seed job received memory).after job n).turns.countP Turn.turnsBack ≤
        ((seed job received memory).after job m).turns.countP Turn.turnsBack) (n : Nat) :
    Lighter job.pipeline.size ((seed job received memory).after job (m + n))
        ((seed job received memory).after job m) ∨
      ((seed job received memory).after job (m + n)).load job.pipeline.size =
          ((seed job received memory).after job m).load job.pipeline.size ∧
        ((seed job received memory).after job (m + n)).turns.length =
          ((seed job received memory).after job m).turns.length := by
  induction n with
  | zero => exact .inr ⟨rfl, rfl⟩
  | succ n ih =>
    have step := lighter_of_change (sound_after job received memory (m + n))
      (orderly_after job received memory (m + n + 1))
      (change_step (sound_after job received memory (m + n)))
      (Nat.le_trans (forward (m + n + 1)) (countP_turnsBack_le_after m n))
    rcases ih with lighter | ⟨load, length⟩ <;> rcases step with now | ⟨still, same⟩
    · exact .inl (now.trans lighter)
    · refine .inl ?_
      rw [Lighter, ← Nat.add_assoc, still]
      exact lighter
    · refine .inl ?_
      rw [Lighter, ← load]
      exact now
    · exact .inr ⟨still.trans load, same.trans length⟩

/-- **A run in which no turn turns back any longer comes to its end.** -/
theorem ends_of_forward {m : Nat} (forward : ∀ n,
      ((seed job received memory).after job n).turns.countP Turn.turnsBack ≤
        ((seed job received memory).after job m).turns.countP Turn.turnsBack) :
    ∃ n result, ((seed job received memory).after job n).outcome = some result := by
  -- Induction on the load, in the order of multisets: each further call makes it lighter.
  have wellFounded : WellFounded fun light heavy : Multiset Nat =>
      light.IsDershowitzMannaLT heavy := Multiset.wellFounded_isDershowitzMannaLT
  induction isLoad : ((seed job received memory).after job m).load job.pipeline.size using
    wellFounded.induction generalizing m with
  | _ _ ih =>
    subst isLoad
    obtain ⟨n, ended | called⟩ := exists_longer (sound_after job received memory m)
    · obtain ⟨result, outcome⟩ := ended
      exact ⟨m + n, result, by rw [after_add]; exact outcome⟩
    · rw [← after_add] at called
      rcases lighter_after forward n with lighter | ⟨-, same⟩
      · exact ih _ lighter (fun k => Nat.le_trans (forward k) (countP_turnsBack_le_after m n)) rfl
      · omega

/-- **Only requests sent in answer to replies can keep a run going for ever**: a run comes to its
end, or again and again a callback answers a reply with a request. So if the processors never do so,
every run comes to its end, whatever its limit, and is so found by whoever polls it often enough. -/
theorem ends_unless_turning_back (job : Job T η) (received : η) (memory : T.Memory) :
    let run := (seed job received memory).after job
    ((∃ n result, (run n).outcome = some result) ∨
      ∀ n, ∃ m, (run n).turns.countP Turn.turnsBack < (run m).turns.countP Turn.turnsBack) ∧
    ((∀ processor ∈ job.pipeline.processors, ∀ reply,
        (processor.onResponse reply).SendsNoRequest) →
      ∃ n result, (run n).outcome = some result ∧ ∀ fuel polls, n ≤ fuel → n ≤ polls →
        ((seed job received memory).pollToEnd job fuel polls).1.outcome = some result) := by
  intro run
  refine ⟨?_, fun none => ?_⟩
  · by_cases ends : ∃ n result, (run n).outcome = some result
    · exact .inl ends
    · refine .inr fun n => ?_
      by_contra never
      exact ends (ends_of_forward fun m => Nat.le_of_not_lt fun more => never ⟨m, more⟩)
  · have quiet (n : Nat) : (run n).turns.countP Turn.turnsBack = 0 := by
      refine List.countP_eq_zero.mpr fun turn member => ?_
      rw [not_turnsBack_after none received memory n turn (List.mem_reverse.mp member)]
      exact Bool.false_ne_true
    have forward (n : Nat) : (run n).turns.countP Turn.turnsBack ≤
        (run 0).turns.countP Turn.turnsBack := by rw [quiet, quiet]
    obtain ⟨n, result, outcome⟩ := ends_of_forward forward
    refine ⟨n, result, outcome, fun fuel polls enough often => ?_⟩
    have ends : (run n).isFinished = true := Option.isSome_iff_exists.mpr ⟨result, outcome⟩
    rw [pollToEnd_eq (sound_seed job received memory) rfl ends enough often]
    exact outcome

end Runs

/-- The exchange of two items comes to its end, because both of its processors only pass replies
on. -/
theorem exchange_ends :
    (∀ processor ∈ exchange.pipeline.processors, ∀ reply,
      (processor.onResponse reply).SendsNoRequest) ∧
    ∃ n result, ((seed exchange [] ()).after exchange n).outcome = some result := by
  have none : ∀ processor ∈ exchange.pipeline.processors, ∀ reply,
      (processor.onResponse reply).SendsNoRequest := by
    intro processor member reply
    rcases List.mem_pair.mp member with rfl | rfl <;> trivial
  obtain ⟨n, result, outcome, -⟩ := (ends_unless_turning_back exchange [] ()).2 none
  exact ⟨none, n, result, outcome⟩

end Run

end Relay
