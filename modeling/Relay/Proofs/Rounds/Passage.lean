import Relay.Proofs.Chain.Transform
import Relay.Proofs.Rounds.Stands

/-!
# Messages that are passed on

Where stages only pass messages on, it is known where these come out: requests move from stage to
stage, all that wait at one before the first of them is handled at the next; and a reply that has
been sent first goes down all the way before the next one moves, because each stage that it comes to
is lower than all where others wait.

* `Callback.Sends` is what a callback does that sends some messages and nothing else.
* `Run.Stands.requests_pass` and `Run.Stands.reply_passes` say where requests and replies come out.
-/

namespace Relay

variable {T : Traffic} {η : Type}

/-! ## (1) Callbacks that only send -/

/-- **A callback that sends some messages** and does nothing else. -/
def Callback.Sends (isLast : Bool) (callback : Callback T Unit) (sent : List (Outgoing T)) : Prop :=
  ∀ data memory holds, holds ⟨sent, false, .ok (), data, memory⟩ →
    callback.Ends isLast data memory holds

namespace Callback

variable {isLast : Bool}

/-- A callback that does nothing sends nothing. -/
theorem sends_nothing : (nothing (T := T)).Sends isLast [] := fun _ _ _ => ends_nothing.mpr

/-- A request that is forwarded is sent. -/
theorem sends_forwardRequest (request : T.Request) :
    (forwardRequest (T := T) request).Sends false [.request request] :=
  fun _ _ _ => (ends_forwardRequest request).mpr

/-- A reply that is forwarded is sent. -/
theorem sends_send (reply : Reply T.Response) :
    (send (T := T) reply).Sends isLast [.response reply] := fun _ _ _ => (ends_send reply).mpr

/-- Items are sent with the end of the pipe behind them. -/
theorem sends_items (items : List T.Response) :
    (sendItems items sendEop).Sends isLast (Outgoing.replies items) :=
  fun _ _ _ holds => (ends_sendItems items).mpr holds

/-- **A callback that only sends** ends well, and what was known of what is kept stays so. -/
theorem Sends.ends_clean {callback : Callback T Unit} {sent : List (Outgoing T)}
    {keeps : List (StageData T.Value) → T.Memory → Prop} {place : Nat} {data : StageData T.Value}
    {kept : List (StageData T.Value)} {memory : T.Memory} (sends : callback.Sends isLast sent)
    (known : keeps kept memory) (isData : kept[place]? = some data) :
    callback.Ends isLast data memory
      (Ending.IsClean sent fun data memory => keeps (kept.set place data) memory) := by
  refine sends data memory _ ⟨rfl, rfl, rfl, ?_⟩
  obtain ⟨within, rfl⟩ := List.getElem?_eq_some_iff.mp isData
  rwa [List.set_getElem_self]

end Callback

/-! ## (2) A queue with all others empty -/

/-- The queue of a slot with some messages, all others being empty. -/
def Slot.holding (slot : Slot) (messages : List (Message T)) : Slot → List (Message T) :=
  fun other => if other = slot then messages else []

namespace Slot

variable {slot other : Slot} {messages : List (Message T)}

/-- Messages of a kind come the later the further out they wait. -/
theorem rank_mono {low high : Nat} (kind : MessageKind) (le : low ≤ high) :
    (⟨low, kind⟩ : Slot).rank ≤ (⟨high, kind⟩ : Slot).rank := by
  simp only [rank]
  omega

/-- The messages are in the queue. -/
@[simp] theorem holding_self : slot.holding messages slot = messages := if_pos rfl

/-- They are in no other queue. -/
theorem holding_of_ne (elsewhere : other ≠ slot) : slot.holding messages other = [] :=
  if_neg elsewhere

/-- Where there are no messages, no queue has any. -/
@[simp] theorem holding_nil : slot.holding ([] : List (Message T)) other = [] := ite_self _

/-- Nothing waits before the queue. -/
theorem holding_of_rank_lt (before : other.rank < slot.rank) :
    slot.holding messages other = [] :=
  holding_of_ne fun same => Nat.lt_irrefl _ (same ▸ before)

/-- More messages in the queue. -/
theorem holding_append (early late : List (Message T)) :
    slot.holding (early ++ late) other = slot.holding early other ++ slot.holding late other := by
  by_cases here : other = slot
  · subst here
    simp only [holding_self]
  · simp only [holding_of_ne here, List.append_nil]

/-- Messages in different queues do not mind each other. -/
theorem holding_comm {left right : Slot} (apart : left ≠ right)
    (messages others : List (Message T)) :
    left.holding messages other ++ right.holding others other =
      right.holding others other ++ left.holding messages other := by
  by_cases here : other = left
  · subst here
    rw [holding_of_ne apart, List.append_nil, List.nil_append]
  · rw [holding_of_ne here, List.append_nil, List.nil_append]

/-- **The slots that requests come by** on their way out, when several of them pass stages in a
row. -/
def out (start count width : Nat) : List Slot :=
  (List.range count).flatMap fun i => List.replicate width ⟨start + i, .request⟩

/-- **The slots that a reply comes by** on its way back. -/
def back (top count : Nat) : List Slot := (List.range count).map fun i => ⟨top - i, .response⟩

/-- How often requests are handled when they pass stages. -/
@[simp] theorem length_out (start count width : Nat) :
    (out start count width).length = count * width := by simp [out]

/-- How often a reply is handled. -/
@[simp] theorem length_back (top count : Nat) : (back top count).length = count := by simp [back]

/-- A reply that passes no stage. -/
@[simp] theorem back_zero (top : Nat) : back top 0 = [] := rfl

/-- Requests pass one more stage. -/
theorem out_succ (start count width : Nat) :
    out start (count + 1) width =
      out start count width ++ List.replicate width ⟨start + count, .request⟩ := by
  simp [out, List.range_succ]

/-- A request that passes one more stage. -/
theorem out_concat (count : Nat) : out 0 count 1 ++ [⟨count, .request⟩] = out 0 (count + 1) 1 := by
  rw [out_succ, Nat.zero_add]
  rfl

/-- A reply passes one more stage. -/
theorem back_succ (top count : Nat) :
    back top (count + 1) = back top count ++ [⟨top - count, .response⟩] := by
  simp [back, List.range_succ]

/-- Where requests come by. -/
theorem mem_out {start count width : Nat} (member : slot ∈ out start count width) :
    start ≤ slot.stage ∧ slot.stage < start + count := by
  obtain ⟨i, isPlace, isSlot⟩ := List.mem_flatMap.mp member
  obtain ⟨-, rfl⟩ := List.mem_replicate.mp isSlot
  exact ⟨Nat.le_add_right _ _, Nat.add_lt_add_left (List.mem_range.mp isPlace) _⟩

/-- Where a reply comes by. -/
theorem mem_back {top count : Nat} (member : slot ∈ back top count) : slot.stage ≤ top := by
  obtain ⟨i, -, rfl⟩ := List.mem_map.mp member
  exact Nat.sub_le _ _

/-- Each of the requests comes by each of the stages. -/
theorem countP_out (start count width : Nat) (kind : MessageKind) :
    (out start count width).countP (·.kind = kind) =
      if kind = .request then count * width else 0 := by
  induction count with
  | zero => simp [out]
  | succ count ih =>
    rw [out_succ, List.countP_append, ih, List.countP_replicate]
    cases kind with
    | request => simp [Nat.succ_mul]
    | response => simp

/-- A reply comes by each of the stages. -/
theorem countP_back (top count : Nat) (kind : MessageKind) :
    (back top count).countP (·.kind = kind) = if kind = .response then count else 0 := by
  cases kind with
  | request => simp [back, Function.comp_def]
  | response => simp [back, Function.comp_def]

end Slot

namespace Outgoing

variable {stage : Nat} {sent : List (Outgoing T)}

/-- What arrives of two parts. -/
theorem arrivals_append (stage : Nat) (slot : Slot) (early late : List (Outgoing T)) :
    arrivals stage slot (early ++ late) = arrivals stage slot early ++ arrivals stage slot late :=
  List.filterMap_append

/-- **Messages that all go the same way** arrive there, and nowhere else. -/
theorem arrivals_of_destination {goal : Slot}
    (goes : ∀ message ∈ sent, message.destination? stage = some goal) (slot : Slot) :
    arrivals stage slot sent = goal.holding (sent.map toMessage) slot := by
  rw [arrivals_eq_filter]
  by_cases here : slot = goal
  · rw [here, Slot.holding_self, List.filter_eq_self.mpr]
    intro message member
    simp [goes message member]
  · rw [Slot.holding_of_ne here, List.filter_eq_nil_iff.mpr, List.map_nil]
    intro message member
    simp [goes message member, Ne.symm here]

/-- **Replies go to the stage before.** -/
theorem destination?_of_mem_replies {items : List T.Response} :
    ∀ message ∈ replies items, message.destination? (stage + 1) = some ⟨stage, .response⟩ := by
  intro message member
  obtain ⟨reply, rfl⟩ := reply_of_mem_replies member
  rfl

/-- What goes nowhere does not arrive. -/
theorem arrivals_of_nowhere (nowhere : ∀ message ∈ sent, message.destination? stage = none)
    (slot : Slot) : arrivals stage slot sent = [] := by
  rw [arrivals_eq_filter, List.filter_eq_nil_iff.mpr, List.map_nil]
  intro message member
  simp [nowhere message member]

/-- Only the first stage sends to the caller. -/
theorem forCaller_of_ne_zero (inside : stage ≠ 0) (sent : List (Outgoing T)) :
    forCaller stage sent = [] := if_neg inside

end Outgoing

namespace Run

variable {job : Job T η} {slots : List Slot} {items : List T.Response}
  {queues : Slot → List (Message T)} {keeps : List (StageData T.Value) → T.Memory → Prop}
  {received : η} {memory : T.Memory} {n : Nat}

/-- **What a round does to a queue and all others.** -/
theorem moveOn_holding (slot : Slot) (message : Message T) (rest : List (Message T))
    (base : Slot → List (Message T)) (sent : List (Outgoing T)) (other : Slot) :
    moveOn (fun other => slot.holding (message :: rest) other ++ base other) slot sent other =
      slot.holding rest other ++ base other ++ Outgoing.arrivals slot.stage other sent := by
  refine congrArg (· ++ _) ?_
  by_cases here : other = slot
  · subst here
    simp only [if_true, Slot.holding_self, List.cons_append, List.tail_cons]
  · simp only [if_neg here, Slot.holding_of_ne here, List.nil_append]

/-- Messages that have been sent behind others arrive behind them. -/
theorem moveOn_append (queues : Slot → List (Message T)) (slot : Slot)
    (early late : List (Outgoing T)) (other : Slot) :
    moveOn queues slot (early ++ late) other =
      moveOn queues slot early other ++ Outgoing.arrivals slot.stage other late := by
  rw [moveOn, Outgoing.arrivals_append, ← List.append_assoc]
  rfl

/-- At the beginning the request waits alone. -/
theorem initial_eq_holding (job : Job T η) :
    initial job = Slot.holding ⟨0, .request⟩ [.request job.request] := rfl

/-- **A message that waits before all others** is the next one. -/
theorem isNext_holding_append {slot : Slot} {message : Message T} {rest : List (Message T)}
    {base : Slot → List (Message T)} {processor : Processor T}
    (empty : ∀ other : Slot, other.rank < slot.rank → base other = [])
    (hasProcessor : job.pipeline.processor? slot.stage = some processor) :
    IsNext job (fun other => slot.holding (message :: rest) other ++ base other) slot message
      processor := by
  refine ⟨⟨rest ++ base slot, ?_⟩, fun other before => ?_, hasProcessor⟩
  · rw [Slot.holding_self, List.cons_append]
  · rw [Slot.holding_of_rank_lt before, empty other before, List.append_nil]

/-- A message that waits alone is the next one. -/
theorem isNext_holding {slot : Slot} {message : Message T} {processor : Processor T}
    (hasProcessor : job.pipeline.processor? slot.stage = some processor) :
    IsNext job (slot.holding [message]) slot message processor :=
  ⟨⟨[], Slot.holding_self⟩, fun _ before => Slot.holding_of_rank_lt before, hasProcessor⟩

/-- What a round does if its callback sends nothing to another stage. -/
theorem moveOn_out {slot : Slot} {sent : List (Outgoing T)}
    (nowhere : ∀ message ∈ sent, message.destination? slot.stage = none) (message : Message T)
    (base : Slot → List (Message T)) (other : Slot) :
    moveOn (fun other => slot.holding [message] other ++ base other) slot sent other =
      base other := by
  rw [moveOn_holding, Outgoing.arrivals_of_nowhere nowhere, Slot.holding_nil, List.nil_append,
    List.append_nil]

/-- What a round does if nothing waits in other queues. -/
theorem moveOn_self (slot : Slot) (message : Message T) (rest : List (Message T))
    (sent : List (Outgoing T)) (other : Slot) :
    moveOn (slot.holding (message :: rest)) slot sent other =
      slot.holding rest other ++ Outgoing.arrivals slot.stage other sent := by
  have moved := moveOn_holding slot message rest (fun _ => []) sent other
  simp only [List.append_nil] at moved
  exact moved

/-- What a round does if nothing else waits, and all that its callback sends goes one way. -/
theorem moveOn_alone {slot goal : Slot} {sent : List (Outgoing T)}
    (goes : ∀ message ∈ sent, message.destination? slot.stage = some goal) (message : Message T)
    (other : Slot) :
    moveOn (slot.holding [message]) slot sent other =
      goal.holding (sent.map Outgoing.toMessage) other := by
  rw [moveOn_self, Slot.holding_nil, List.nil_append, Outgoing.arrivals_of_destination goes]

/-- Nothing waits any more if nothing has been sent. -/
theorem moveOn_nothing {slot : Slot} (message : Message T) (other : Slot) :
    moveOn (slot.holding [message]) slot [] other = [] := by
  have goes : ∀ message ∈ ([] : List (Outgoing T)),
      message.destination? slot.stage = some slot := by simp
  rw [moveOn_alone goes, List.map_nil, Slot.holding_nil]

section Passing

variable (accepting : job.handler.IsAccepting) (unlimited : job.config.maxSteps = none)

include accepting unlimited

/-- **A round whose callback only sends** changes nothing of what is kept and remembered. -/
theorem Stands.sends {slot : Slot} {message : Message T} {processor : Processor T}
    (stands : Stands job slots items queues keeps ((seed job received memory).after job n))
    (isNext : IsNext job queues slot message processor) {sent : List (Outgoing T)}
    (sends : (processor.handle message).Sends (slot.stage + 1 == job.pipeline.size) sent)
    (unended : slot.stage = 0 → sent.any Outgoing.isEop = false) :
    ∃ m, Stands job (slots ++ [slot]) (items ++ Outgoing.forCaller slot.stage sent)
      (moveOn queues slot sent) keeps ((seed job received memory).after job m) :=
  stands.goes_on accepting unlimited isNext (fun _ _ _ => sends.ends_clean) unended

/-- **The run succeeds** if the first stage sends the end of the pipe so. -/
theorem Stands.sends_eop {slot : Slot} {message : Message T} {processor : Processor T}
    (stands : Stands job slots items queues keeps ((seed job received memory).after job n))
    (isNext : IsNext job queues slot message processor) {sent : List (Outgoing T)}
    (sends : (processor.handle message).Sends (slot.stage + 1 == job.pipeline.size) sent)
    (first : slot.stage = 0) (sentEop : sent.any Outgoing.isEop = true) :
    ∃ m summary, ((seed job received memory).after job m).outcome = some (.ok summary) ∧
      Told (slots ++ [slot]) (items ++ Outgoing.forCaller slot.stage sent)
        ((seed job received memory).after job m) ∧
      ∀ other : Slot, other.stage < job.pipeline.size →
        ((seed job received memory).after job m).pendingAt other =
          moveOn queues slot sent other :=
  stands.succeeds accepting unlimited isNext (fun _ _ _ => sends.ends_clean) first sentEop

/-! ## (3) Requests on their way out -/

/-- **Requests that wait at a stage** all move to the next one. -/
theorem Stands.requests_move {stage : Nat} {processor : Processor T}
    (hasProcessor : job.pipeline.processor? stage = some processor)
    (notLast : stage + 1 < job.pipeline.size)
    (passes : ∀ request, (processor.onRequest request).Sends false [.request request])
    (waiting : List T.Request) (moved : List (Message T))
    (stands : Stands job slots items (fun other =>
      Slot.holding ⟨stage, .request⟩ (waiting.map .request) other ++
        Slot.holding ⟨stage + 1, .request⟩ moved other) keeps
      ((seed job received memory).after job n)) :
    ∃ m, Stands job (slots ++ List.replicate waiting.length ⟨stage, .request⟩) items
      (Slot.holding ⟨stage + 1, .request⟩ (moved ++ waiting.map .request)) keeps
      ((seed job received memory).after job m) := by
  induction waiting generalizing slots moved n with
  | nil => exact ⟨n, by simpa using stands⟩
  | cons request rest ih =>
    have before : (⟨stage, .request⟩ : Slot).rank < (⟨stage + 1, .request⟩ : Slot).rank := by
      simp [Slot.rank, MessageKind.rank]
    have isNext : IsNext job (fun other =>
        Slot.holding ⟨stage, .request⟩ ((request :: rest).map .request) other ++
          Slot.holding ⟨stage + 1, .request⟩ moved other) ⟨stage, .request⟩ (.request request)
        processor :=
      isNext_holding_append
        (fun _ lower => Slot.holding_of_rank_lt (Nat.lt_trans lower before)) hasProcessor
    have isLast : (stage + 1 == job.pipeline.size) = false := by simpa using Nat.ne_of_lt notLast
    obtain ⟨m, next⟩ := stands.sends accepting unlimited isNext
      (isLast.symm ▸ passes request) fun _ => rfl
    have goes : ∀ message ∈ [(.request request : Outgoing T)],
        message.destination? stage = some ⟨stage + 1, .request⟩ :=
      List.forall_mem_singleton.mpr rfl
    have unheard : Outgoing.forCaller stage [(.request request : Outgoing T)] = [] := by
      simp [Outgoing.forCaller, Outgoing.item?]
    have queues := next.of_queues_eq fun other _ => by
      rw [List.map_cons, moveOn_holding, Outgoing.arrivals_of_destination goes, List.append_assoc,
        ← Slot.holding_append]
    rw [unheard, List.append_nil] at queues
    obtain ⟨k, last⟩ := ih _ queues
    refine ⟨k, ?_⟩
    simpa [List.replicate_succ, Outgoing.toMessage] using last

/-- **Requests pass stages** that forward them, and all of them do before the stage behind takes the
first. -/
theorem Stands.requests_pass {start : Nat} (count : Nat) (requests : List T.Request)
    (within : start + count < job.pipeline.size)
    (passes : ∀ i < count, ∃ processor, job.pipeline.processor? (start + i) = some processor ∧
      ∀ request, (processor.onRequest request).Sends false [.request request])
    (stands : Stands job slots items (Slot.holding ⟨start, .request⟩ (requests.map .request)) keeps
      ((seed job received memory).after job n)) :
    ∃ m, Stands job (slots ++ Slot.out start count requests.length) items
      (Slot.holding ⟨start + count, .request⟩ (requests.map .request)) keeps
      ((seed job received memory).after job m) := by
  induction count with
  | zero => exact ⟨n, by simpa [Slot.out] using stands⟩
  | succ count ih =>
    obtain ⟨m, before⟩ := ih (Nat.lt_of_succ_lt within) fun i lt => passes i (Nat.lt_succ_of_lt lt)
    obtain ⟨processor, hasProcessor, forwards⟩ := passes count (Nat.lt_succ_self count)
    have queues : Stands job (slots ++ Slot.out start count requests.length) items (fun other =>
        Slot.holding ⟨start + count, .request⟩ (requests.map .request) other ++
          Slot.holding ⟨start + count + 1, .request⟩ [] other) keeps
        ((seed job received memory).after job m) :=
      before.of_queues_eq fun other _ => by rw [Slot.holding_nil, List.append_nil]
    obtain ⟨k, behind⟩ :=
      queues.requests_move accepting unlimited hasProcessor within forwards requests []
    refine ⟨k, ?_⟩
    simpa [Slot.out_succ, ← Nat.add_assoc] using behind

/-! ## (4) Replies on their way back -/

/-- **A reply passes stages** that forward it, before any message that waits farther out is
taken. -/
theorem Stands.reply_passes {top : Nat} (count : Nat) (reply : Reply T.Response)
    {base : Slot → List (Message T)} (le : count ≤ top)
    (empty : ∀ other : Slot, other.rank < (⟨top, .response⟩ : Slot).rank → base other = [])
    (passes : ∀ i < count, ∃ processor, job.pipeline.processor? (top - i) = some processor ∧
      ∀ isLast, (processor.onResponse reply).Sends isLast [.response reply])
    (stands : Stands job slots items (fun other =>
      Slot.holding ⟨top, .response⟩ [.response reply] other ++ base other) keeps
      ((seed job received memory).after job n)) :
    ∃ m, Stands job (slots ++ Slot.back top count) items (fun other =>
      Slot.holding ⟨top - count, .response⟩ [.response reply] other ++ base other) keeps
      ((seed job received memory).after job m) := by
  induction count with
  | zero => exact ⟨n, by simpa [Slot.back] using stands⟩
  | succ count ih =>
    obtain ⟨m, before⟩ := ih (Nat.le_of_succ_le le) fun i lt => passes i (Nat.lt_succ_of_lt lt)
    obtain ⟨processor, hasProcessor, forwards⟩ := passes count (Nat.lt_succ_self count)
    have lower : ∀ other : Slot, other.rank < (⟨top - count, .response⟩ : Slot).rank →
        base other = [] := fun other before =>
      empty other (Nat.lt_of_lt_of_le before (Slot.rank_mono _ (Nat.sub_le _ _)))
    have isNext : IsNext job (fun other =>
        Slot.holding ⟨top - count, .response⟩ [.response reply] other ++ base other)
        ⟨top - count, .response⟩ (.response reply) processor :=
      isNext_holding_append lower hasProcessor
    have notFirst : top - count ≠ 0 := by omega
    obtain ⟨k, behind⟩ := before.sends accepting unlimited isNext (forwards _)
      fun first => absurd first notFirst
    have goes : ∀ message ∈ [(.response reply : Outgoing T)],
        message.destination? (top - count) = some ⟨top - (count + 1), .response⟩ := by
      refine List.forall_mem_singleton.mpr ?_
      rw [Outgoing.destination?, if_pos (Nat.pos_of_ne_zero notFirst), Nat.sub_sub]
    rw [Outgoing.forCaller_of_ne_zero notFirst, List.append_nil] at behind
    have arrived : (⟨top - (count + 1), .response⟩ : Slot).rank <
        (⟨top - count, .response⟩ : Slot).rank := by
      simp only [Slot.rank]
      omega
    have queues : Stands job (slots ++ Slot.back top count ++ [⟨top - count, .response⟩]) items
        (fun other => Slot.holding ⟨top - (count + 1), .response⟩ [.response reply] other ++
          base other) keeps ((seed job received memory).after job k) := by
      refine behind.of_queues_eq fun other _ => ?_
      rw [moveOn_holding, Outgoing.arrivals_of_destination goes, Slot.holding_nil, List.nil_append]
      -- Nothing waits where the reply arrives.
      by_cases here : other = ⟨top - (count + 1), .response⟩
      · rw [here, lower _ arrived, Slot.holding_self, Slot.holding_self]
        rfl
      · rw [Slot.holding_of_ne here, Slot.holding_of_ne here, List.append_nil, List.nil_append]
    refine ⟨k, ?_⟩
    simpa [Slot.back_succ] using queues

/-- **The first of several replies** passes stages before the others do. -/
theorem Stands.first_reply_passes {top : Nat} (count : Nat) (reply : Reply T.Response)
    (rest : List (Message T)) {base : Slot → List (Message T)} (le : count ≤ top)
    (empty : ∀ other : Slot, other.rank < (⟨top, .response⟩ : Slot).rank → base other = [])
    (passes : ∀ i < count, ∃ processor, job.pipeline.processor? (top - i) = some processor ∧
      ∀ isLast, (processor.onResponse reply).Sends isLast [.response reply])
    (stands : Stands job slots items (fun other =>
      Slot.holding ⟨top, .response⟩ (.response reply :: rest) other ++ base other) keeps
      ((seed job received memory).after job n)) :
    ∃ m, Stands job (slots ++ Slot.back top count) items (fun other =>
      Slot.holding ⟨top - count, .response⟩ [.response reply] other ++
        (Slot.holding ⟨top, .response⟩ rest other ++ base other)) keeps
      ((seed job received memory).after job m) := by
  have queues : Stands job slots items (fun other =>
      Slot.holding ⟨top, .response⟩ [.response reply] other ++
        (Slot.holding ⟨top, .response⟩ rest other ++ base other)) keeps
      ((seed job received memory).after job n) := stands.of_queues_eq fun other _ => by
    rw [← List.append_assoc, ← Slot.holding_append, List.singleton_append]
  refine queues.reply_passes accepting unlimited count reply le (fun other lower => ?_) passes
  rw [Slot.holding_of_rank_lt lower, empty other lower]
  rfl

end Passing

end Run

end Relay
