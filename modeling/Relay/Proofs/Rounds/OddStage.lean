import Relay.Processor.Stock
import Relay.Proofs.PassThrough.Invisible
import Relay.Proofs.Rounds.Passage

/-!
# One odd stage in a chain of forwarders

A chain whose stages forward everything, up to a last one that answers, brings the answer to the
caller. If one of its stages is another one, the caller gets nothing, and what comes of the run is
told by the place of that stage and the length of the chain: the request has come as far as the odd
stage lets it, and so has the first reply on its way back.

* `Forwarders` is such a chain, and `Job.withOdd` puts another processor into it.
* `Run.Unheard` is what comes of a run that tells the caller nothing.
* `Run.odd_stage_tells` is the result.
-/

namespace Relay

open Relay.Text

variable {T : Traffic} {η : Type}

/-! ## (1) Chains of forwarders -/

/-- **A chain of forwarders**: how many stages there are, what they are called, and what the last
one answers. -/
structure Forwarders (T : Traffic) where
  size : Nat
  names : Nat → String
  shownItem : T.Response → Shown
  responses : List T.Response

namespace Forwarders

/-- The processors of a chain. -/
def processors (chain : Forwarders T) : List (Processor T) :=
  (List.range (chain.size - 1)).map (fun stage => .passThrough (chain.names stage)) ++
    [.terminal chain.shownItem (chain.names (chain.size - 1)) chain.responses]

/-- There are as many processors as stages. -/
theorem length_processors {chain : Forwarders T} (pos : 0 < chain.size) :
    chain.processors.length = chain.size := by
  simp [processors, Nat.sub_add_cancel pos]

end Forwarders

/-- There is a first reply. -/
theorem Outgoing.exists_first_reply (items : List T.Response) :
    ∃ reply rest, (replies items).map toMessage = .response reply :: rest := by
  cases items with
  | nil => exact ⟨_, _, rfl⟩
  | cons item rest => exact ⟨_, _, rfl⟩

/-- **A pipeline that is a chain of forwarders with another processor at one of its stages.** -/
structure Pipeline.HasOdd (pipeline : Pipeline T) (chain : Forwarders T) (place : Nat)
    (odd : Processor T) : Prop where
  within : place < chain.size
  processors : pipeline.processors = chain.processors.set place odd

/-- **The job for a chain of forwarders with another processor at one of its stages**, instead of
its own pipeline. -/
def Job.withOdd (job : Job T η) (chain : Forwarders T) (place : Nat) (odd : Processor T) :
    Job T η :=
  { job with
    pipeline :=
      { job.pipeline with
        processors := chain.processors.set place odd
        processors_ne_nil := by simp [Forwarders.processors] } }

namespace Pipeline.HasOdd

variable {pipeline : Pipeline T} {chain : Forwarders T} {place stage : Nat} {odd : Processor T}

/-- The odd processor changes nothing of the length. -/
theorem size_eq (hasOdd : pipeline.HasOdd chain place odd) : pipeline.size = chain.size := by
  rw [size, hasOdd.processors, List.length_set,
    Forwarders.length_processors (Nat.zero_lt_of_lt hasOdd.within)]

/-- The odd processor is at its place. -/
theorem processor?_self (hasOdd : pipeline.HasOdd chain place odd) :
    pipeline.processor? place = some odd := by
  rw [processor?, hasOdd.processors, List.getElem?_set_self]
  rw [Forwarders.length_processors (Nat.zero_lt_of_lt hasOdd.within)]
  exact hasOdd.within

/-- Every other stage but the last one forwards everything. -/
theorem processor?_of_lt (hasOdd : pipeline.HasOdd chain place odd)
    (notLast : stage + 1 < chain.size) (other : place ≠ stage) :
    pipeline.processor? stage = some (.passThrough (chain.names stage)) := by
  have before : stage < chain.size - 1 := Nat.lt_sub_of_add_lt notLast
  rw [processor?, hasOdd.processors, List.getElem?_set_ne other, Forwarders.processors,
    List.getElem?_append_left (by simpa using before), List.getElem?_map,
    List.getElem?_range before]
  rfl

/-- The last stage answers. -/
theorem processor?_last (hasOdd : pipeline.HasOdd chain place odd) (last : stage + 1 = chain.size)
    (other : place ≠ stage) :
    pipeline.processor? stage =
      some (.terminal chain.shownItem (chain.names stage) chain.responses) := by
  obtain rfl : stage = chain.size - 1 := Nat.eq_sub_of_add_eq last
  rw [processor?, hasOdd.processors, List.getElem?_set_ne other, Forwarders.processors,
    List.getElem?_append_right (by simp)]
  simp

/-- So it forwards replies. -/
theorem exists_forwarder (hasOdd : pipeline.HasOdd chain place odd)
    (notLast : stage + 1 < chain.size) (other : place ≠ stage) (reply : Reply T.Response) :
    ∃ processor, pipeline.processor? stage = some processor ∧
      ∀ isLast, (processor.onResponse reply).Sends isLast [.response reply] :=
  ⟨_, hasOdd.processor?_of_lt notLast other, fun _ => Callback.sends_send reply⟩

end Pipeline.HasOdd

/-! ## (2) Runs that the caller hears nothing of -/

namespace Run

variable {job : Job T η} {result : Except RunError RunSummary} {run : Run T η} {received : η}
  {memory : T.Memory} {n : Nat} {requests responses : Nat}

/-- **A run that has told the caller nothing**: its result, after callbacks with the request at so
many stages, the first one first, and with one reply at so many of those before, the last one
first. -/
structure Unheard (result : Except RunError RunSummary) (requests responses : Nat)
    (run : Run T η) : Prop where
  outcome : run.outcome = some result
  calls : run.turns.map (·.call.slot) =
    Slot.out 0 requests 1 ++ Slot.back (requests - 2) responses
  steps : run.steps = requests + responses
  offers : Journal.offers run.journal = []
  summary : ∀ summary, result = .ok summary → summary.Counts requests responses 0
  requests : run.requestsProcessed = requests
  responses : run.responsesProcessed = responses

/-- **A run that has come out** so has told the caller nothing. -/
theorem CameOut.unheard (cameOut : CameOut result
    (Slot.out 0 requests 1 ++ Slot.back (requests - 2) responses) [] run) :
    Unheard result requests responses run := by
  have count : ∀ kind : MessageKind,
      (Slot.out 0 requests 1 ++ Slot.back (requests - 2) responses).countP (·.kind = kind) =
        (if kind = .request then requests else 0) + if kind = .response then responses else 0 := by
    intro kind
    rw [List.countP_append, Slot.countP_out, Slot.countP_back, Nat.mul_one]
  have isRequest := count .request
  have isResponse := count .response
  simp only [if_true, reduceCtorEq, if_false, Nat.add_zero, Nat.zero_add] at isRequest isResponse
  refine ⟨cameOut.outcome, cameOut.calls, ?_, cameOut.offers, fun summary succeeded => ?_,
    cameOut.requests.trans isRequest, cameOut.responses.trans isResponse⟩
  · rw [cameOut.steps, List.length_append, Slot.length_out, Slot.length_back, Nat.mul_one]
  · have counts := cameOut.summary summary succeeded
    rwa [isRequest, isResponse] at counts

/-- **A run that has told so far, and is at its end,** settles so. -/
theorem Told.settles_unheard
    (told : Told (Slot.out 0 requests 1 ++ Slot.back (requests - 2) responses) []
      ((seed job received memory).after job n))
    (accepting : job.handler.IsAccepting)
    (finished : ((seed job received memory).after job n).outcome = some result) :
    Settles job received memory (Unheard result requests responses) :=
  (told.cameOut accepting finished).settles.imp fun _ => CameOut.unheard

/-- So it does if nothing has come back from the last stage that has got the request. -/
theorem Told.settles_out {place : Nat} {sent : List (Outgoing T)}
    (told : Told (Slot.out 0 place 1 ++ [⟨place, .request⟩])
      ([] ++ Outgoing.forCaller place sent) ((seed job received memory).after job n))
    (noItem : Outgoing.forCaller place sent = []) (accepting : job.handler.IsAccepting)
    (finished : ((seed job received memory).after job n).outcome = some result) :
    Settles job received memory (Unheard result (place + 1) 0) := by
  rw [Slot.out_concat, noItem] at told
  refine Told.settles_unheard ?_ accepting finished
  rwa [Slot.back_zero, List.append_nil]

/-- Such a run has come no farther than the request. -/
theorem Unheard.stage_lt (unheard : Unheard result (requests + 1) responses run) {turn : Turn T}
    (member : turn ∈ run.turns) : turn.call.stage < requests + 1 := by
  have isSlot : turn.call.slot ∈ run.turns.map (·.call.slot) := List.mem_map_of_mem member
  rw [unheard.calls] at isSlot
  rcases List.mem_append.mp isSlot with outward | homeward
  · exact (Nat.zero_add (requests + 1)) ▸ (Slot.mem_out outward).2
  · exact Nat.lt_succ_of_le ((Slot.mem_back homeward).trans (Nat.sub_le _ 1))

/-! ## (3) The ways there and back -/

/-- **What a stage that overreaches leaves behind**: the end of the pipe on its way back, and the
request farther out. -/
theorem moveOn_overreaching (stage : Nat) (request : T.Request) (other : Slot) :
    moveOn (Slot.holding ⟨stage + 1, .request⟩ [.request request]) ⟨stage + 1, .request⟩
        [.request request, .response .eop] other =
      Slot.holding ⟨stage, .response⟩ [.response .eop] other ++
        Slot.holding ⟨stage + 2, .request⟩ [.request request] other := by
  have onward : ∀ message ∈ [(.request request : Outgoing T)],
      message.destination? (stage + 1) = some ⟨stage + 2, .request⟩ :=
    List.forall_mem_singleton.mpr rfl
  have back : ∀ message ∈ [(.response .eop : Outgoing T)],
      message.destination? (stage + 1) = some ⟨stage, .response⟩ :=
    List.forall_mem_singleton.mpr rfl
  refine (moveOn_append _ _ [.request request] [.response .eop] other).trans ?_
  rw [moveOn_alone onward, Outgoing.arrivals_of_destination back]
  exact Slot.holding_comm (by simp) _ _

section Ways

variable {chain : Forwarders T} {place : Nat} {odd : Processor T}
  (hasOdd : job.pipeline.HasOdd chain place odd) (unlimited : job.config.maxSteps = none)
  (accepting : job.handler.IsAccepting) (received : η) (memory : T.Memory)

include hasOdd unlimited accepting

/-- **The request comes to a stage**: to the odd one, or to another one if that forwards it. -/
theorem exists_out {stage : Nat} (isStage : stage < chain.size)
    (forwards : place < stage →
      ∀ request, (odd.onRequest request).Sends false [.request request]) :
    ∃ n, Stands job (Slot.out 0 stage 1) [] (Slot.holding ⟨stage, .request⟩ [.request job.request])
      (fun _ _ => True) ((seed job received memory).after job n) := by
  have first : Stands job [] [] (initial job) (fun _ _ => True)
      ((seed job received memory).after job 1) := stands_first job received memory trivial
  have passes : ∀ i < stage, ∃ processor, job.pipeline.processor? (0 + i) = some processor ∧
      ∀ request, (processor.onRequest request).Sends false [.request request] := by
    intro i before
    rw [Nat.zero_add]
    by_cases here : place = i
    · subst here
      exact ⟨odd, hasOdd.processor?_self, forwards before⟩
    · exact ⟨_, hasOdd.processor?_of_lt (by omega) here, Callback.sends_forwardRequest⟩
  have size : 0 + stage < job.pipeline.size := by rwa [Nat.zero_add, hasOdd.size_eq]
  obtain ⟨n, stands⟩ := first.requests_pass accepting unlimited stage [job.request] size passes
  refine ⟨n, ?_⟩
  rwa [Nat.zero_add] at stands

/-- **The request comes to the odd stage.** -/
theorem exists_out_self :
    ∃ n, Stands job (Slot.out 0 place 1) [] (Slot.holding ⟨place, .request⟩ [.request job.request])
        (fun _ _ => True) ((seed job received memory).after job n) ∧
      IsNext job (Slot.holding ⟨place, .request⟩ [.request job.request]) ⟨place, .request⟩
        (.request job.request) odd := by
  obtain ⟨n, stands⟩ := exists_out hasOdd unlimited accepting received memory hasOdd.within
    fun after => absurd after (Nat.lt_irrefl _)
  exact ⟨n, stands, isNext_holding hasOdd.processor?_self⟩

/-- **The last stage answers** if the odd one, which comes before, has forwarded the request. -/
theorem exists_answer {inner : Nat} (size : chain.size = inner + 2) (before : place ≤ inner)
    (forwards : ∀ request, (odd.onRequest request).Sends false [.request request]) :
    ∃ n, Stands job (Slot.out 0 (inner + 2) 1) []
      (Slot.holding ⟨inner, .response⟩
        ((Outgoing.replies chain.responses).map Outgoing.toMessage)) (fun _ _ => True)
      ((seed job received memory).after job n) := by
  have within : inner + 1 < chain.size := by rw [size]; exact Nat.lt_succ_self _
  obtain ⟨n, stands⟩ := exists_out hasOdd unlimited accepting received memory within
    fun _ => forwards
  have isNext : IsNext job _ ⟨inner + 1, .request⟩ (.request job.request) _ :=
    isNext_holding (hasOdd.processor?_last size.symm (Nat.ne_of_lt (Nat.lt_succ_of_le before)))
  obtain ⟨m, answered⟩ := stands.sends accepting unlimited isNext
    (Callback.sends_items chain.responses) nofun
  rw [Outgoing.forCaller_of_ne_zero (Nat.succ_ne_zero inner), Slot.out_concat] at answered
  exact ⟨m, answered.of_queues_eq fun other _ =>
    moveOn_alone Outgoing.destination?_of_mem_replies _ other⟩

/-- **The first reply comes back to the odd stage.** -/
theorem exists_back {inner : Nat} (size : chain.size = inner + 2) (before : place ≤ inner)
    (forwards : ∀ request, (odd.onRequest request).Sends false [.request request]) :
    ∃ n reply queues, Stands job (Slot.out 0 (inner + 2) 1 ++ Slot.back inner (inner - place)) []
        queues (fun _ _ => True) ((seed job received memory).after job n) ∧
      IsNext job queues ⟨place, .response⟩ (.response reply) odd := by
  obtain ⟨n, answered⟩ :=
    exists_answer hasOdd unlimited accepting received memory size before forwards
  obtain ⟨reply, rest, replies⟩ := Outgoing.exists_first_reply chain.responses
  have queues : Stands job (Slot.out 0 (inner + 2) 1) []
      (fun other => Slot.holding ⟨inner, .response⟩ (.response reply :: rest) other ++ [])
      (fun _ _ => True) ((seed job received memory).after job n) :=
    answered.of_queues_eq fun other _ => by rw [replies, List.append_nil]
  obtain ⟨k, back⟩ := queues.first_reply_passes accepting unlimited (inner - place) reply rest
    (Nat.sub_le _ _) (fun _ _ => rfl)
    fun i lt => hasOdd.exists_forwarder (by omega) (by omega) reply
  rw [Nat.sub_sub_self before] at back
  refine ⟨k, reply, _, back, isNext_holding_append (fun _ lower => ?_) hasOdd.processor?_self⟩
  rw [List.append_nil]
  exact Slot.holding_of_rank_lt (Nat.lt_of_lt_of_le lower (Slot.rank_mono _ before))

/-- **The end of the pipe comes back to the first stage** if the odd one sends it behind the request
that it forwards. -/
theorem exists_eop_back {before : Nat} (isPlace : place = before + 1)
    (notLast : place + 1 < chain.size)
    (overreaches : ∀ request, (odd.onRequest request).Sends false
      [.request request, .response .eop]) :
    ∃ n queues, Stands job (Slot.out 0 (place + 1) 1 ++ Slot.back before before) [] queues
        (fun _ _ => True) ((seed job received memory).after job n) ∧
      IsNext job queues ⟨0, .response⟩ (.response .eop) (.passThrough (chain.names 0)) := by
  subst isPlace
  obtain ⟨n, stands, isNext⟩ := exists_out_self hasOdd unlimited accepting received memory
  have isLast : (before + 1 + 1 == job.pipeline.size) = false := by
    rw [hasOdd.size_eq, beq_false_of_ne (Nat.ne_of_lt notLast)]
  obtain ⟨m, overreached⟩ := stands.sends accepting unlimited isNext
    (isLast.symm ▸ overreaches job.request) nofun
  have farther : ∀ other : Slot, other.rank < (⟨before, .response⟩ : Slot).rank →
      Slot.holding ⟨before + 2, .request⟩ [.request job.request] other = [] :=
    fun _ lower => Slot.holding_of_rank_lt
      (Nat.lt_trans lower (Slot.rank_lt_iff.mpr (.inl (Nat.lt_add_of_pos_right Nat.two_pos))))
  have queues := overreached.of_queues_eq fun other _ => moveOn_overreaching before _ other
  obtain ⟨k, passed⟩ := queues.reply_passes accepting unlimited before .eop (Nat.le_refl _) farther
    fun i lt => hasOdd.exists_forwarder (by omega) (by omega) .eop
  have front : job.pipeline.processor? 0 = some (.passThrough (chain.names 0)) :=
    hasOdd.processor?_of_lt (by omega) (Nat.succ_ne_zero before)
  rw [Nat.sub_self, Slot.out_concat, Outgoing.forCaller_of_ne_zero (Nat.succ_ne_zero before)]
    at passed
  exact ⟨k, _, passed, isNext_holding_append (fun other lower =>
    farther other (Nat.lt_of_lt_of_le lower (Slot.rank_mono _ (Nat.zero_le _)))) front⟩

/-! ## (4) One odd stage -/

/-- **A stage that does nothing** with its request starves the run. -/
theorem unheard_of_nothing
    (sends : ∀ isLast request, (odd.onRequest request).Sends isLast []) :
    Settles job received memory
      (Unheard (.error (.starvation (place + 1) chain.size)) (place + 1) 0) := by
  obtain ⟨n, stands, isNext⟩ := exists_out_self hasOdd unlimited accepting received memory
  obtain ⟨m, swallowed⟩ := stands.sends accepting unlimited isNext (sends _ _) fun _ => rfl
  obtain ⟨k, starved, told⟩ := swallowed.starves fun other _ => moveOn_nothing _ other
  rw [List.length_append, Slot.length_out, Nat.mul_one, hasOdd.size_eq] at starved
  exact told.settles_out (ite_self _) accepting starved

/-- **A stage that fails** with its request fails the run. -/
theorem unheard_of_failing_request {failure : Failure}
    (fails : ∀ isLast request data memory, (odd.onRequest request).Ends isLast data memory
      fun ending => ending.sent = [] ∧ ending.isRefused = false ∧ ending.result = .error failure) :
    Settles job received memory
      (Unheard (.error (.processor place odd.name .request failure)) (place + 1) 0) := by
  obtain ⟨n, stands, isNext⟩ := exists_out_self hasOdd unlimited accepting received memory
  obtain ⟨m, failed, told⟩ := stands.fails accepting unlimited isNext (fails _ _)
  exact told.settles_out (ite_self _) accepting failed

/-- **A stage that forwards its request and fails with a reply** fails the run with the first one,
unless it is the last stage. -/
theorem unheard_of_failing_response {failure : Failure} (before : place + 1 < chain.size)
    (forwards : ∀ request, (odd.onRequest request).Sends false [.request request])
    (fails : ∀ isLast reply data memory, (odd.onResponse reply).Ends isLast data memory
      fun ending => ending.sent = [] ∧ ending.isRefused = false ∧ ending.result = .error failure) :
    Settles job received memory (Unheard (.error (.processor place odd.name .response failure))
      chain.size (chain.size - 1 - place)) := by
  obtain ⟨inner, size⟩ : ∃ inner, chain.size = inner + 2 := ⟨chain.size - 2, by omega⟩
  obtain ⟨n, reply, queues, stands, isNext⟩ :=
    exists_back hasOdd unlimited accepting received memory size (by omega) forwards
  obtain ⟨m, failed, told⟩ := stands.fails accepting unlimited isNext (fails _ _)
  refine Told.settles_unheard ?_ accepting failed
  have farther : inner + 2 - 1 - place = inner - place + 1 := by omega
  rw [size, farther, Nat.add_sub_cancel, Slot.back_succ, Nat.sub_sub_self (by omega),
    ← List.append_assoc]
  simpa [Outgoing.forCaller] using told

/-- **A stage that ends the pipe** behind the request that it forwards has the run succeed, unless
it is the last stage. -/
theorem unheard_of_overreaching (before : place + 1 < chain.size)
    (overreaches : ∀ request, (odd.onRequest request).Sends false
      [.request request, .response .eop]) :
    ∃ summary, Settles job received memory (Unheard (.ok summary) (place + 1) place) := by
  cases place with
  | zero =>
    obtain ⟨n, stands, isNext⟩ := exists_out_self hasOdd unlimited accepting received memory
    have isLast : (0 + 1 == job.pipeline.size) = false := by
      rw [hasOdd.size_eq, beq_false_of_ne (Nat.ne_of_lt before)]
    obtain ⟨m, summary, succeeded, told, -⟩ := stands.sends_eop accepting unlimited isNext
      (isLast.symm ▸ overreaches job.request) rfl rfl
    exact ⟨summary, Told.settles_unheard told accepting succeeded⟩
  | succ place =>
    obtain ⟨n, queues, stands, isNext⟩ :=
      exists_eop_back hasOdd unlimited accepting received memory rfl before overreaches
    obtain ⟨m, summary, succeeded, told, -⟩ := stands.sends_eop accepting unlimited isNext
      (Callback.sends_send .eop) rfl rfl
    refine ⟨summary, Told.settles_unheard ?_ accepting succeeded⟩
    rw [show place + 1 + 1 - 2 = place from rfl, Slot.back_succ, Nat.sub_self, ← List.append_assoc]
    exact told

/-- **A last stage that sends a request** fails the run at the boundary. -/
theorem unheard_of_overstepping (last : place + 1 = chain.size) {sent : List (Outgoing T)}
    (noItem : Outgoing.forCaller place sent = [])
    (oversteps : ∀ request data memory, (odd.onRequest request).Ends true data memory
      fun ending => ending.sent = sent ∧ ending.isRefused = true) :
    Settles job received memory
      (Unheard (.error (.boundary (chain.size - 1) odd.name)) chain.size 0) := by
  obtain ⟨n, stands, isNext⟩ := exists_out_self hasOdd unlimited accepting received memory
  have ends : ∀ data memory, (odd.handle (.request job.request)).Ends
      (place + 1 == job.pipeline.size) data memory
      fun ending => ending.sent = sent ∧ ending.isRefused = true := by
    rw [hasOdd.size_eq, last, beq_self_eq_true]
    exact oversteps job.request
  have isLast : place = chain.size - 1 := Nat.eq_sub_of_add_eq last
  obtain ⟨m, failed, told⟩ := stands.oversteps accepting unlimited isNext ends
    (isLast.trans (congrArg (· - 1) hasOdd.size_eq.symm))
  rw [← isLast, ← last]
  exact told.settles_out noItem accepting failed

end Ways

/-- **One odd stage has a determined effect.** Put another processor into a chain of forwarders, and
run it without limit, with a handler that accepts everything. A processor that does nothing starves
the run, and one that fails on requests fails it, when the request has come to it. Unless it is the
last one, a processor that fails on replies fails the run when the first reply has come back to it;
and one that overreaches has the run succeed when its end of the pipe has come back to the first
stage, while the request stays where it is. If it is the last one, any of them that forwards the
request fails the run at the boundary. The caller's handler is offered nothing. -/
theorem odd_stage_tells (job : Job T η) (chain : Forwarders T) {place : Nat}
    (within : place < chain.size) (unlimited : job.config.maxSteps = none)
    (accepting : job.handler.IsAccepting) (name message : String) (received : η)
    (memory : T.Memory) :
    Settles (job.withOdd chain place (.silent name)) received memory
        (Unheard (.error (.starvation (place + 1) chain.size)) (place + 1) 0) ∧
      Settles (job.withOdd chain place (.failing name .request message)) received memory
        (Unheard (.error (.processor place name .request ⟨message, []⟩)) (place + 1) 0) ∧
      (place + 1 < chain.size →
        Settles (job.withOdd chain place (.failing name .response message)) received memory
          (Unheard (.error (.processor place name .response ⟨message, []⟩)) chain.size
            (chain.size - 1 - place)) ∧
        ∃ summary : RunSummary, summary.steps = 2 * place + 1 ∧
          summary.requestsProcessed = place + 1 ∧
          Settles (job.withOdd chain place (.overreaching name)) received memory fun run =>
            Unheard (.ok summary) (place + 1) place run ∧
              ∀ turn ∈ run.turns, turn.call.stage ≠ place + 1) ∧
      (place + 1 = chain.size → ∀ odd ∈ [Processor.passThrough name,
          .failing name .response message, .overreaching name],
        Settles (job.withOdd chain place odd) received memory
          (Unheard (.error (.boundary (chain.size - 1) name)) chain.size 0)) := by
  have hasOdd : ∀ odd, (job.withOdd chain place odd).pipeline.HasOdd chain place odd :=
    fun odd => ⟨within, rfl⟩
  refine ⟨?silent, ?failingRequest, fun before => ⟨?failingResponse, ?overreaching⟩, ?last⟩
  case silent =>
    exact unheard_of_nothing (hasOdd _) unlimited accepting received memory
      fun _ _ => Callback.sends_nothing
  case failingRequest =>
    exact unheard_of_failing_request (hasOdd _) unlimited accepting received memory
      fun _ _ _ _ => ⟨rfl, rfl, rfl⟩
  case failingResponse =>
    exact unheard_of_failing_response (hasOdd _) unlimited accepting received memory before
      Callback.sends_forwardRequest fun _ _ _ _ => ⟨rfl, rfl, rfl⟩
  case overreaching =>
    obtain ⟨summary, settles⟩ := unheard_of_overreaching (hasOdd (.overreaching name)) unlimited
      accepting received memory before fun _ _ _ _ holds => holds
    obtain ⟨n, polled⟩ := settles.1
    have counts := (polled n n (Nat.le_refl _) (Nat.le_refl _)).summary summary rfl
    refine ⟨summary, counts.steps.trans (by omega), counts.requests, ?_⟩
    exact settles.imp fun run unheard =>
      ⟨unheard, fun turn member => Nat.ne_of_lt (unheard.stage_lt member)⟩
  case last =>
    intro last odd isOdd
    -- The three of them differ in what they have sent beside the request.
    have isOne : odd.name = name ∧ ∃ sent, Outgoing.forCaller place sent = [] ∧
        ∀ request data memory, (odd.onRequest request).Ends true data memory
          fun ending => ending.sent = sent ∧ ending.isRefused = true := by
      simp only [List.mem_cons, List.not_mem_nil, or_false] at isOdd
      rcases isOdd with rfl | rfl | rfl
      · exact ⟨rfl, [], ite_self _, fun request _ _ =>
          (Callback.ends_forwardRequest_of_last request).mpr fun _ => ⟨rfl, rfl⟩⟩
      · exact ⟨rfl, [], ite_self _, fun request _ _ =>
          (Callback.ends_forwardRequest_of_last request).mpr fun _ => ⟨rfl, rfl⟩⟩
      · exact ⟨rfl, [.response .eop], ite_self _, fun _ _ _ _ => ⟨rfl, rfl⟩⟩
    obtain ⟨isName, sent, noItem, oversteps⟩ := isOne
    exact isName ▸ unheard_of_overstepping (hasOdd odd) unlimited accepting received memory last
      noItem oversteps

/-- **A chain of three stages** that answers with two numbers. -/
def threeForwarders : Forwarders numbers where
  size := 3
  names _ := "forwarder"
  shownItem item := .nat item
  responses := [1, 2]

/-- The middle one of three stages says nothing, or fails with the first number; or the last one
overreaches. -/
theorem odd_stage_of_three :
    1 < threeForwarders.size ∧ exchange.config.maxSteps = none ∧ exchange.handler.IsAccepting ∧
      Settles (exchange.withOdd threeForwarders 1 (.silent "odd")) [] ()
        (Unheard (.error (.starvation 2 3)) 2 0) ∧
      Settles (exchange.withOdd threeForwarders 1 (.failing "odd" .response "no")) [] ()
        (Unheard (.error (.processor 1 "odd" .response ⟨"no", []⟩)) 3 1) ∧
      Settles (exchange.withOdd threeForwarders 2 (.overreaching "odd")) [] ()
        (Unheard (.error (.boundary 2 "odd")) 3 0) := by
  have middle : 1 < threeForwarders.size := by decide
  have last : 2 < threeForwarders.size := by decide
  have accepting : exchange.handler.IsAccepting := fun _ _ => rfl
  obtain ⟨silent, -, others, -⟩ :=
    odd_stage_tells exchange threeForwarders middle rfl accepting "odd" "no" [] ()
  obtain ⟨-, -, -, boundary⟩ :=
    odd_stage_tells exchange threeForwarders last rfl accepting "odd" "no" [] ()
  exact ⟨middle, rfl, accepting, silent, (others last).1, boundary rfl _ (by simp)⟩

end Run

end Relay
