import Mathlib.Algebra.BigOperators.Ring.List
import Mathlib.Algebra.Ring.Nat
import Relay.Proofs.Rounds.Passage

/-!
# Fans

A first stage that makes several requests of the one it gets has several answers come back to it.
The last stage takes the next request only when all that it has answered to the one before has come
back to the first stage, because whatever waits farther in goes first. So the answers do not mix,
and it is up to the first stage how many of them there will be: the run is over when it sends the
end of the pipe, and the requests that still wait are dropped.

* `Job.Fans` is a job for such a pipeline, `Run.Fanned` what comes of its runs.
* `Run.Stands.answer_drains` is the way of one answer; `Run.settles_fanned` puts them together.
* `Run.fan_out` is the result.
-/

namespace Relay

variable {T : Traffic} {η : Type}

/-! ## (1) Fans -/

/-- **A first stage that fans out**: it makes requests of the one it gets, forwards all items, and
sends the end of the pipe only with some of those that it gets. What it keeps and what processors
remember tells how many of these it has had. -/
structure Processor.FansOut (processor : Processor T) (request : T.Request)
    (requests : List T.Request) (closing : Nat → Bool)
    (knows : Nat → StageData T.Value → T.Memory → Prop) (memory : T.Memory) : Prop where
  opens : (processor.onRequest request).Ends false .empty memory
    (Ending.IsClean (requests.map .request) (knows 0))
  items : ∀ count item data memory, knows count data memory →
    (processor.onResponse (.item item)).Ends false data memory
      (Ending.IsClean [.response (.item item)] (knows count))
  eops : ∀ count data memory, knows count data memory →
    (processor.onResponse .eop).Ends false data memory
      (Ending.IsClean (if closing count then [.response .eop] else []) (knows (count + 1)))

/-- **A last stage that answers each request** with items and the end of the pipe, and leaves alone
what the first stage goes by. -/
def Processor.Answers (processor : Processor T) (answer : T.Request → List T.Response)
    (knows : Nat → StageData T.Value → T.Memory → Prop) : Prop :=
  ∀ count front request data memory, knows count front memory →
    (processor.onRequest request).Ends true data memory
      (Ending.IsClean (Outgoing.replies (answer request)) fun _ memory => knows count front memory)

/-- **A job for a pipeline whose first stage fans out**, whose last one answers, and whose stages
between them, so many, forward everything. -/
structure Job.Fans (job : Job T η) (inner : Nat) (requests : List T.Request)
    (answer : T.Request → List T.Response) (closing : Nat → Bool)
    (knows : Nat → StageData T.Value → T.Memory → Prop) (memory : T.Memory) : Prop where
  size : job.pipeline.size = inner + 2
  first : ∃ processor, job.pipeline.processor? 0 = some processor ∧
    processor.FansOut job.request requests closing knows memory
  middle : ∀ i < inner, ∃ name, job.pipeline.processor? (i + 1) = some (.passThrough name)
  last : ∃ processor, job.pipeline.processor? (inner + 1) = some processor ∧
    processor.Answers answer knows

namespace Slot

/-- **The slots that replies come by** if one after the other goes all the way back. -/
def rounds (top count : Nat) : List Slot := (List.replicate count (back top (top + 1))).flatten

/-- One more reply before the others. -/
theorem rounds_succ (top count : Nat) :
    rounds top (count + 1) = back top top ++ [⟨0, .response⟩] ++ rounds top count := by
  rw [rounds, List.replicate_succ, List.flatten_cons, ← rounds, back_succ, Nat.sub_self]

/-- One more reply behind the others. -/
theorem rounds_succ' (top count : Nat) :
    rounds top (count + 1) = rounds top count ++ back top top ++ [⟨0, .response⟩] := by
  rw [rounds, List.replicate_succ', List.flatten_append, List.flatten_singleton, ← rounds,
    back_succ, Nat.sub_self, ← List.append_assoc]

/-- How often replies are handled so. -/
theorem countP_rounds (top count : Nat) (kind : MessageKind) :
    (rounds top count).countP (·.kind = kind) =
      if kind = .response then count * (top + 1) else 0 := by
  rw [rounds, List.countP_flatten, List.map_replicate, countP_back, List.sum_replicate_nat]
  split <;> simp

/-- **The slots that requests and their answers come by** if the last stage takes each request only
when the answer to the one before has come back. -/
def answers (inner : Nat) (answer : T.Request → List T.Response) (requests : List T.Request) :
    List Slot :=
  requests.flatMap fun request =>
    ⟨inner + 1, .request⟩ :: rounds inner ((answer request).length + 1)

section Answers

variable {inner : Nat} {answer : T.Request → List T.Response}

/-- Requests in two parts. -/
theorem answers_append (early late : List T.Request) :
    answers inner answer (early ++ late) =
      answers inner answer early ++ answers inner answer late := List.flatMap_append

/-- **Callbacks are counted** request by request. -/
theorem countP_answers (counted : Slot → Bool) (requests : List T.Request) :
    (answers inner answer requests).countP counted = (requests.map fun request =>
      (rounds inner ((answer request).length + 1)).countP counted +
        if counted ⟨inner + 1, .request⟩ then 1 else 0).sum := by
  rw [answers, List.countP_flatMap]
  exact congrArg List.sum (List.map_congr_left fun request _ => List.countP_cons)

/-- If only the last stage's callbacks count, there are as many as requests. -/
theorem countP_answers_of_rounds {counted : Slot → Bool}
    (others : ∀ count, (rounds inner count).countP counted = 0)
    (own : counted ⟨inner + 1, .request⟩ = true) (requests : List T.Request) :
    (answers inner answer requests).countP counted = requests.length := by
  rw [countP_answers]
  simp only [others, own, if_true, Nat.zero_add]
  rw [List.map_const', List.sum_replicate_nat, Nat.mul_one]

/-- How many of the messages are requests. -/
theorem countP_answers_request (requests : List T.Request) :
    (answers inner answer requests).countP (·.kind = .request) = requests.length :=
  countP_answers_of_rounds (fun count => countP_rounds inner count .request) rfl requests

/-- How many of them are for the last stage. -/
theorem countP_answers_last (requests : List T.Request) :
    (answers inner answer requests).countP (·.stage = inner + 1) = requests.length := by
  refine countP_answers_of_rounds (fun count => ?_) (decide_eq_true rfl) requests
  refine List.countP_eq_zero.mpr fun slot member => ?_
  obtain ⟨l, isRound, isSlot⟩ := List.mem_flatten.mp member
  rw [(List.mem_replicate.mp isRound).2] at isSlot
  simpa using Nat.ne_of_lt (Nat.lt_succ_of_le (mem_back isSlot))

/-- How many of them are replies. -/
theorem countP_answers_response (requests : List T.Request) :
    (answers inner answer requests).countP (·.kind = .response) =
      (inner + 1) * (requests.map fun request => (answer request).length + 1).sum := by
  rw [countP_answers, ← List.sum_map_mul_left]
  simp [countP_rounds, Nat.mul_comm]

end Answers

end Slot

namespace Run

variable {job : Job T η} {inner : Nat} {requests : List T.Request}
  {answer : T.Request → List T.Response} {closing : Nat → Bool}
  {knows : Nat → StageData T.Value → T.Memory → Prop} {received : η} {memory : T.Memory} {n : Nat}
  {slots : List Slot} {items : List T.Response}

/-- **What the first stage goes by** in a run. -/
def Fronted (knows : StageData T.Value → T.Memory → Prop) (kept : List (StageData T.Value))
    (memory : T.Memory) : Prop :=
  ∃ data, kept[0]? = some data ∧ knows data memory

/-- A callback of the first stage decides it. -/
theorem ends_fronted {isLast : Bool} {callback : Callback T Unit} {sent : List (Outgoing T)}
    {known : StageData T.Value → T.Memory → Prop} {data : StageData T.Value}
    {kept : List (StageData T.Value)} {memory : T.Memory} (isData : kept[0]? = some data)
    (ends : callback.Ends isLast data memory (Ending.IsClean sent known)) :
    callback.Ends isLast data memory
      (Ending.IsClean sent fun data memory => Fronted known (kept.set 0 data) memory) := by
  refine ends.imp fun ending clean => { clean with leaves := ⟨ending.data, ?_, clean.leaves⟩ }
  exact List.getElem?_set_self (List.getElem?_eq_some_iff.mp isData).1

/-- So a callback for a reply does, whatever the first stage goes by before. -/
theorem ends_of_fronted (size : job.pipeline.size = inner + 2) {callback : Callback T Unit}
    {sent : List (Outgoing T)} {known later : StageData T.Value → T.Memory → Prop}
    (ends : ∀ data memory, known data memory →
      callback.Ends false data memory (Ending.IsClean sent later))
    (data : StageData T.Value) (kept : List (StageData T.Value)) (memory : T.Memory)
    (fronted : Fronted known kept memory) (isData : kept[0]? = some data) :
    callback.Ends (0 + 1 == job.pipeline.size) data memory
      (Ending.IsClean sent fun data memory => Fronted later (kept.set 0 data) memory) := by
  obtain ⟨front, isFront, isKnown⟩ := fronted
  obtain rfl := Option.some.inj (isFront.symm.trans isData)
  rw [size]
  exact ends_fronted isData (ends front memory isKnown)

/-! ## (2) The way of an answer -/

/-- **The end of the pipe is the next message** when it has come back to the first stage. -/
theorem exists_isNext_eop (fan : job.Fans inner requests answer closing knows memory)
    (rest : List T.Request) :
    ∃ processor, IsNext job (fun other => Slot.holding ⟨0, .response⟩ [.response .eop] other ++
        Slot.holding ⟨inner + 1, .request⟩ (rest.map .request) other) ⟨0, .response⟩
        (.response .eop) processor ∧
      processor.FansOut job.request requests closing knows memory := by
  obtain ⟨processor, hasProcessor, fansOut⟩ := fan.first
  refine ⟨processor, isNext_holding_append (fun _ lower => ?_) hasProcessor, fansOut⟩
  exact Slot.holding_of_rank_lt
    (Nat.lt_trans lower (Slot.rank_lt_iff.mpr (.inl (Nat.zero_lt_succ _))))

section Passing

variable (fan : job.Fans inner requests answer closing knows memory)
  (unlimited : job.config.maxSteps = none) (accepting : job.handler.IsAccepting)

include fan unlimited accepting

/-- **The first stage makes its requests.** -/
theorem exists_requested (received : η) :
    ∃ n, Stands job [⟨0, .request⟩] []
      (Slot.holding ⟨1, .request⟩ (requests.map .request)) (Fronted (knows 0))
      ((seed job received memory).after job n) := by
  obtain ⟨processor, hasProcessor, fansOut⟩ := fan.first
  have stands : Stands job [] [] (initial job)
      (fun kept known => kept = List.replicate job.pipeline.size .empty ∧ known = memory)
      ((seed job received memory).after job 1) := stands_first job received memory ⟨rfl, rfl⟩
  have isNext : IsNext job _ ⟨0, .request⟩ (.request job.request) processor :=
    isNext_holding hasProcessor
  have ends : ∀ data kept known,
      kept = List.replicate job.pipeline.size .empty ∧ known = memory → kept[0]? = some data →
      (processor.handle (.request job.request)).Ends (0 + 1 == job.pipeline.size) data known
        (Ending.IsClean (requests.map .request) fun data memory =>
          Fronted (knows 0) (kept.set 0 data) memory) := by
    rintro data kept known ⟨isKept, rfl⟩ isData
    rw [fan.size]
    refine ends_fronted isData ?_
    rw [isKept, fan.size] at isData
    obtain rfl : .empty = data := Option.some.inj isData
    exact fansOut.opens
  have unended : (requests.map (Outgoing.request (T := T))).any Outgoing.isEop = false := by
    simp [Outgoing.isEop]
  obtain ⟨n, opened⟩ := stands.goes_on accepting unlimited isNext ends fun _ => unended
  have goes : ∀ message ∈ requests.map (Outgoing.request (T := T)),
      message.destination? 0 = some ⟨1, .request⟩ := by
    intro message member
    obtain ⟨request, -, rfl⟩ := List.mem_map.mp member
    rfl
  have noItems : Outgoing.forCaller 0 (requests.map (Outgoing.request (T := T))) = [] := by
    simp [Outgoing.forCaller, Outgoing.item?]
  rw [noItems] at opened
  refine ⟨n, opened.of_queues_eq fun other _ => ?_⟩
  rw [initial_eq_holding, moveOn_alone goes, List.map_map]
  rfl

/-- **The requests come to the last stage.** -/
theorem exists_fanned (received : η) :
    ∃ n, Stands job ([⟨0, .request⟩] ++ Slot.out 1 inner requests.length) []
      (Slot.holding ⟨inner + 1, .request⟩ (requests.map .request)) (Fronted (knows 0))
      ((seed job received memory).after job n) := by
  obtain ⟨n, opened⟩ := exists_requested fan unlimited accepting received
  have passes : ∀ i < inner, ∃ processor, job.pipeline.processor? (1 + i) = some processor ∧
      ∀ request, (processor.onRequest request).Sends false [.request request] := by
    intro i lt
    obtain ⟨name, isForwarder⟩ := fan.middle i lt
    exact ⟨_, Nat.add_comm i 1 ▸ isForwarder, Callback.sends_forwardRequest⟩
  have within : 1 + inner < job.pipeline.size := by rw [fan.size]; omega
  obtain ⟨m, passed⟩ := opened.requests_pass accepting unlimited inner requests within passes
  rw [Nat.add_comm 1 inner] at passed
  exact ⟨m, passed⟩

/-- **The last stage answers** a request. -/
theorem Stands.answers {count : Nat} {request : T.Request} {rest : List T.Request}
    (stands : Stands job slots items
      (Slot.holding ⟨inner + 1, .request⟩ ((request :: rest).map .request))
      (Fronted (knows count)) ((seed job received memory).after job n)) :
    ∃ m, Stands job (slots ++ [⟨inner + 1, .request⟩]) items
      (fun other => Slot.holding ⟨inner, .response⟩
          ((Outgoing.replies (answer request)).map Outgoing.toMessage) other ++
        Slot.holding ⟨inner + 1, .request⟩ (rest.map .request) other)
      (Fronted (knows count)) ((seed job received memory).after job m) := by
  obtain ⟨processor, hasProcessor, answers⟩ := fan.last
  have isNext : IsNext job (Slot.holding ⟨inner + 1, .request⟩ ((request :: rest).map .request))
      ⟨inner + 1, .request⟩ (.request request) processor :=
    ⟨⟨_, Slot.holding_self⟩, fun _ before => Slot.holding_of_rank_lt before, hasProcessor⟩
  have ends : ∀ data kept memory, Fronted (knows count) kept memory →
      kept[inner + 1]? = some data →
      (processor.handle (.request request)).Ends (inner + 1 + 1 == job.pipeline.size) data memory
        (Ending.IsClean (Outgoing.replies (answer request)) fun data memory =>
          Fronted (knows count) (kept.set (inner + 1) data) memory) := by
    rintro data kept memory ⟨front, isFront, known⟩ -
    rw [fan.size, beq_self_eq_true]
    refine (answers count front request data memory known).imp fun ending clean => ?_
    exact { clean with leaves := ⟨front, by simpa using isFront, clean.leaves⟩ }
  obtain ⟨m, answered⟩ := stands.goes_on accepting unlimited isNext ends nofun
  rw [Outgoing.forCaller_of_ne_zero (Nat.succ_ne_zero inner), List.append_nil] at answered
  refine ⟨m, answered.of_queues_eq fun other _ => ?_⟩
  rw [List.map_cons, moveOn_self,
    Outgoing.arrivals_of_destination Outgoing.destination?_of_mem_replies]
  exact Slot.holding_comm (by simp) _ _

/-- **A reply comes back to the first stage.** -/
theorem Stands.reply_returns {reply : Reply T.Response} {rest : List (Message T)}
    {base : Slot → List (Message T)} {keeps : List (StageData T.Value) → T.Memory → Prop}
    (empty : ∀ other : Slot, other.rank < (⟨inner, .response⟩ : Slot).rank → base other = [])
    (stands : Stands job slots items (fun other =>
      Slot.holding ⟨inner, .response⟩ (.response reply :: rest) other ++ base other) keeps
      ((seed job received memory).after job n)) :
    ∃ m, Stands job (slots ++ Slot.back inner inner) items
      (fun other => Slot.holding ⟨0, .response⟩ [.response reply] other ++
        (Slot.holding ⟨inner, .response⟩ rest other ++ base other))
      keeps ((seed job received memory).after job m) := by
  have passes : ∀ i < inner, ∃ processor, job.pipeline.processor? (inner - i) = some processor ∧
      ∀ isLast, (processor.onResponse reply).Sends isLast [.response reply] := by
    intro i lt
    obtain ⟨name, isForwarder⟩ := fan.middle (inner - i - 1) (by omega)
    rw [Nat.sub_add_cancel (Nat.sub_pos_of_lt lt)] at isForwarder
    exact ⟨_, isForwarder, fun _ => Callback.sends_send reply⟩
  obtain ⟨m, passed⟩ := stands.first_reply_passes accepting unlimited inner reply rest
    (Nat.le_refl _) empty passes
  rw [Nat.sub_self] at passed
  exact ⟨m, passed⟩

/-- **An item leaves the first stage.** -/
theorem Stands.item_leaves {count : Nat} {item : T.Response} {base : Slot → List (Message T)}
    (empty : ∀ other : Slot, other.rank < (⟨0, .response⟩ : Slot).rank → base other = [])
    (stands : Stands job slots items
      (fun other => Slot.holding ⟨0, .response⟩ [.response (.item item)] other ++ base other)
      (Fronted (knows count)) ((seed job received memory).after job n)) :
    ∃ m, Stands job (slots ++ [⟨0, .response⟩]) (items ++ [item]) base (Fronted (knows count))
      ((seed job received memory).after job m) := by
  obtain ⟨processor, hasProcessor, fansOut⟩ := fan.first
  have isNext : IsNext job
      (fun other => Slot.holding ⟨0, .response⟩ [.response (.item item)] other ++ base other)
      ⟨0, .response⟩ (.response (.item item)) processor :=
    isNext_holding_append empty hasProcessor
  obtain ⟨m, left⟩ := stands.goes_on accepting unlimited isNext
    (ends_of_fronted fan.size (fansOut.items count item)) fun _ => rfl
  have nowhere : ∀ message ∈ [(.response (.item item) : Outgoing T)],
      message.destination? 0 = none := List.forall_mem_singleton.mpr rfl
  exact ⟨m, left.of_queues_eq fun other _ => moveOn_out nowhere _ base other⟩

/-- **All items of an answer leave the first stage**, and the end of the pipe comes back to it. -/
theorem Stands.items_drain {count : Nat} (answered : List T.Response)
    {base : Slot → List (Message T)}
    (empty : ∀ other : Slot, other.rank < (⟨inner, .response⟩ : Slot).rank → base other = [])
    (stands : Stands job slots items (fun other => Slot.holding ⟨inner, .response⟩
        ((Outgoing.replies answered).map Outgoing.toMessage) other ++ base other)
      (Fronted (knows count)) ((seed job received memory).after job n)) :
    ∃ m, Stands job
      (slots ++ Slot.rounds inner answered.length ++ Slot.back inner inner) (items ++ answered)
      (fun other => Slot.holding ⟨0, .response⟩ [.response .eop] other ++ base other)
      (Fronted (knows count)) ((seed job received memory).after job m) := by
  induction answered generalizing slots items n with
  | nil =>
    have alone : Stands job slots items (fun other =>
        Slot.holding ⟨inner, .response⟩ [.response .eop] other ++ base other)
        (Fronted (knows count)) ((seed job received memory).after job n) := stands
    obtain ⟨m, returned⟩ := alone.reply_returns fan unlimited accepting empty
    simp only [Slot.holding_nil, List.nil_append] at returned
    exact ⟨m, by simpa [Slot.rounds] using returned⟩
  | cons item rest ih =>
    have queued : Stands job slots items (fun other => Slot.holding ⟨inner, .response⟩
        (.response (.item item) :: (Outgoing.replies rest).map Outgoing.toMessage) other ++
          base other) (Fronted (knows count)) ((seed job received memory).after job n) := stands
    obtain ⟨m, returned⟩ := queued.reply_returns fan unlimited accepting empty
    have others : ∀ other : Slot, other.rank < (⟨0, .response⟩ : Slot).rank →
        Slot.holding ⟨inner, .response⟩ ((Outgoing.replies rest).map Outgoing.toMessage) other ++
          base other = [] := by
      intro other lower
      have before := Nat.lt_of_lt_of_le lower (Slot.rank_mono .response (Nat.zero_le inner))
      rw [Slot.holding_of_rank_lt before, empty other before]
      rfl
    obtain ⟨k, left⟩ := returned.item_leaves fan unlimited accepting others
    obtain ⟨l, drained⟩ := ih left
    refine ⟨l, ?_⟩
    rw [List.length_cons, Slot.rounds_succ]
    simpa using drained

/-- **The answer to a request** leaves the first stage, and its end of the pipe comes back there. -/
theorem Stands.answer_drains {count : Nat} {request : T.Request} {rest : List T.Request}
    (stands : Stands job slots items
      (Slot.holding ⟨inner + 1, .request⟩ ((request :: rest).map .request))
      (Fronted (knows count)) ((seed job received memory).after job n)) :
    ∃ m, Stands job (slots ++ [⟨inner + 1, .request⟩] ++
        Slot.rounds inner (answer request).length ++ Slot.back inner inner)
      (items ++ answer request)
      (fun other => Slot.holding ⟨0, .response⟩ [.response .eop] other ++
        Slot.holding ⟨inner + 1, .request⟩ (rest.map .request) other)
      (Fronted (knows count)) ((seed job received memory).after job m) := by
  obtain ⟨m, answered⟩ := stands.answers fan unlimited accepting
  exact answered.items_drain fan unlimited accepting (answer request) fun _ lower =>
    Slot.holding_of_rank_lt (Nat.lt_trans lower (Slot.rank_lt_iff.mpr (.inl (Nat.lt_succ_self _))))

/-- **The next request comes to be taken** if the first stage does not close. -/
theorem Stands.next_request {count : Nat} (isOpen : closing count = false) {request : T.Request}
    {rest : List T.Request}
    (stands : Stands job slots items
      (Slot.holding ⟨inner + 1, .request⟩ ((request :: rest).map .request))
      (Fronted (knows count)) ((seed job received memory).after job n)) :
    ∃ m, Stands job (slots ++ Slot.answers inner answer [request]) (items ++ answer request)
      (Slot.holding ⟨inner + 1, .request⟩ (rest.map .request)) (Fronted (knows (count + 1)))
      ((seed job received memory).after job m) := by
  obtain ⟨m, drained⟩ := stands.answer_drains fan unlimited accepting
  obtain ⟨processor, isNext, fansOut⟩ := exists_isNext_eop fan rest
  have ends := fansOut.eops count
  rw [isOpen] at ends
  obtain ⟨k, swallowed⟩ := drained.goes_on accepting unlimited isNext
    (ends_of_fronted fan.size ends) fun _ => rfl
  have queues := swallowed.of_queues_eq fun other _ => moveOn_out (by simp) _ _ other
  refine ⟨k, ?_⟩
  simpa [Slot.answers, Slot.rounds_succ', Outgoing.forCaller] using queues

/-- **The run succeeds** if the first stage closes, and drops the requests that wait. -/
theorem Stands.closes {count : Nat} (isClosing : closing count = true) {request : T.Request}
    {rest : List T.Request}
    (stands : Stands job slots items
      (Slot.holding ⟨inner + 1, .request⟩ ((request :: rest).map .request))
      (Fronted (knows count)) ((seed job received memory).after job n)) :
    ∃ m summary, ((seed job received memory).after job m).outcome = some (.ok summary) ∧
      Told (slots ++ Slot.answers inner answer [request]) (items ++ answer request)
        ((seed job received memory).after job m) ∧
      ((seed job received memory).after job m).pendingAt ⟨inner + 1, .request⟩ =
        rest.map .request := by
  obtain ⟨m, drained⟩ := stands.answer_drains fan unlimited accepting
  obtain ⟨processor, isNext, fansOut⟩ := exists_isNext_eop fan rest
  have ends := fansOut.eops count
  rw [isClosing] at ends
  obtain ⟨k, summary, succeeded, told, waits⟩ := drained.succeeds accepting unlimited isNext
    (ends_of_fronted fan.size ends) rfl rfl
  have within : inner + 1 < job.pipeline.size := by rw [fan.size]; omega
  have noItem : Outgoing.forCaller 0 [(.response .eop : Outgoing T)] = [] := rfl
  refine ⟨k, summary, succeeded, ?_, ?_⟩
  · simpa [Slot.answers, Slot.rounds_succ', noItem] using told
  · have nowhere : ∀ message ∈ [(.response .eop : Outgoing T)],
        message.destination? 0 = none := List.forall_mem_singleton.mpr rfl
    rw [waits ⟨inner + 1, .request⟩ within]
    exact (moveOn_out nowhere _ _ _).trans Slot.holding_self

end Passing

/-! ## (3) All answers -/

/-- **A run that has come out of a fan**: it has succeeded, the handler has been offered the answers
to the requests that the last stage has taken, so many, in order, and the others still wait
there. -/
structure Fanned (inner : Nat) (requests : List T.Request) (answer : T.Request → List T.Response)
    (taken : Nat) (summary : RunSummary) (run : Run T η) : Prop where
  outcome : run.outcome = some (.ok summary)
  offers : Journal.offers run.journal = (requests.take taken).flatMap answer
  accepted : Journal.accepted run.journal = (requests.take taken).flatMap answer
  counts : summary.Counts (1 + requests.length * inner + taken)
    ((inner + 1) * ((requests.take taken).map fun request => (answer request).length + 1).sum)
    ((requests.take taken).flatMap answer).length
  lastCalls : run.turns.countP (·.call.stage = inner + 1) = taken
  pending : run.pendingAt ⟨inner + 1, .request⟩ = (requests.drop taken).map .request

/-- **A run that has come out** so has come out of a fan. -/
theorem CameOut.fanned {summary : RunSummary} {taken : Nat} {run : Run T η}
    (cameOut : CameOut (.ok summary)
      ([⟨0, .request⟩] ++ Slot.out 1 inner requests.length ++
        Slot.answers inner answer (requests.take taken))
      ((requests.take taken).flatMap answer) run) (le : taken ≤ requests.length)
    (pending : run.pendingAt ⟨inner + 1, .request⟩ = (requests.drop taken).map .request) :
    Fanned inner requests answer taken summary run := by
  have length : (requests.take taken).length = taken := List.length_take_of_le le
  refine ⟨cameOut.outcome, cameOut.offers, cameOut.accepted, ?_, ?_, pending⟩
  · have counts := cameOut.summary summary rfl
    simp only [List.countP_append, Slot.countP_out, Slot.countP_answers_request,
      Slot.countP_answers_response, length, List.countP_singleton, decide_true, if_true,
      reduceCtorEq, decide_false, Bool.false_eq_true, if_false, Nat.add_zero, Nat.zero_add,
      Nat.mul_comm inner] at counts
    exact counts
  · have calls : run.turns.countP (·.call.stage = inner + 1) =
        (run.turns.map (·.call.slot)).countP (·.stage = inner + 1) := by
      rw [List.countP_map]
      rfl
    have before : (Slot.out 1 inner requests.length).countP (·.stage = inner + 1) = 0 := by
      refine List.countP_eq_zero.mpr fun slot member => ?_
      have lt := (Slot.mem_out member).2
      simp only [decide_eq_true_eq]
      omega
    rw [calls, cameOut.calls, List.countP_append, List.countP_append, before,
      Slot.countP_answers_last, length]
    simp

section Whole

variable (fan : job.Fans inner requests answer closing knows memory)
  (unlimited : job.config.maxSteps = none) (accepting : job.handler.IsAccepting) (received : η)

include fan unlimited accepting

/-- **So many requests have been answered** as long as the first stage has not closed. -/
theorem exists_answered {taken : Nat} (le : taken ≤ requests.length)
    (isOpen : ∀ count < taken, closing count = false) :
    ∃ n, Stands job ([⟨0, .request⟩] ++ Slot.out 1 inner requests.length ++
        Slot.answers inner answer (requests.take taken))
      ((requests.take taken).flatMap answer)
      (Slot.holding ⟨inner + 1, .request⟩ ((requests.drop taken).map .request))
      (Fronted (knows taken)) ((seed job received memory).after job n) := by
  induction taken with
  | zero =>
    obtain ⟨n, fanned⟩ := exists_fanned fan unlimited accepting received
    exact ⟨n, by simpa [Slot.answers] using fanned⟩
  | succ taken ih =>
    obtain ⟨n, answered⟩ :=
      ih (Nat.le_of_succ_le le) fun count lt => isOpen count (Nat.lt_succ_of_lt lt)
    rw [List.drop_eq_getElem_cons le] at answered
    obtain ⟨m, next⟩ := answered.next_request fan unlimited accepting
      (isOpen taken (Nat.lt_succ_self taken))
    refine ⟨m, ?_⟩
    rw [List.take_succ_eq_append_getElem le, Slot.answers_append, List.flatMap_append,
      List.flatMap_singleton, ← List.append_assoc]
    exact next

/-- **The run comes out** as soon as the first stage closes, whoever polls it. -/
theorem settles_fanned {first : Nat} (within : first < requests.length)
    (isClosing : closing first = true) (isOpen : ∀ count < first, closing count = false) :
    ∃ summary, Settles job received memory
      (Fanned inner requests answer (first + 1) summary) := by
  obtain ⟨n, answered⟩ := exists_answered fan unlimited accepting received (Nat.le_of_lt within)
    isOpen
  rw [List.drop_eq_getElem_cons within] at answered
  obtain ⟨m, summary, succeeded, told, pending⟩ :=
    answered.closes fan unlimited accepting isClosing
  rw [List.append_assoc, ← Slot.answers_append, ← List.flatMap_singleton answer,
    ← List.flatMap_append, ← List.take_succ_eq_append_getElem within] at told
  have fanned := (told.cameOut accepting succeeded).fanned within pending
  exact ⟨summary, settles_of_finished succeeded fun _ => ⟨fanned.outcome, fanned.offers,
    fanned.accepted, fanned.counts, fanned.lastCalls, fanned.pending⟩⟩

end Whole

/-- **Fan-out and early exit.** Let the first stage of a pipeline make several requests of the one
it gets and forward all items, let the last one answer each request with items and the end of the
pipe, and let the stages between them forward everything. Run without limit, with a handler that
accepts everything, it succeeds. If the first stage sends the end of the pipe only when it has got
as many as it has made requests, the handler is offered all answers, in the order of the requests.
If it forwards each one that it gets, the handler is offered the answer to the first request only;
the last stage is called once, and the other requests still wait there when the run is over. -/
theorem fan_out {inner : Nat} {first : T.Request} {rest : List T.Request}
    {answer : T.Request → List T.Response} {knows : Nat → StageData T.Value → T.Memory → Prop}
    (unlimited : job.config.maxSteps = none) (accepting : job.handler.IsAccepting) (received : η)
    (memory : T.Memory) :
    (job.Fans inner (first :: rest) answer (fun count => count == rest.length) knows memory →
      ∃ summary : RunSummary,
        summary.requestsProcessed = 1 + (first :: rest).length * (inner + 1) ∧
        summary.responsesProcessed =
          (inner + 1) * ((first :: rest).map fun request => (answer request).length + 1).sum ∧
        Settles job received memory fun run =>
          run.outcome = some (.ok summary) ∧
          Journal.offers run.journal = (first :: rest).flatMap answer) ∧
    (job.Fans inner (first :: rest) answer (fun _ => true) knows memory →
      ∃ summary : RunSummary,
        summary.requestsProcessed = 2 + (first :: rest).length * inner ∧
        summary.responsesProcessed = (inner + 1) * ((answer first).length + 1) ∧
        Settles job received memory fun run =>
          run.outcome = some (.ok summary) ∧
          Journal.offers run.journal = answer first ∧
          run.turns.countP (·.call.stage = inner + 1) = 1 ∧
          run.pendingAt ⟨inner + 1, .request⟩ = rest.map .request) := by
  constructor
  · intro fan
    have isOpen : ∀ count < rest.length, (count == rest.length) = false :=
      fun count lt => beq_false_of_ne (Nat.ne_of_lt lt)
    obtain ⟨summary, settles⟩ := settles_fanned fan unlimited accepting received
      (Nat.lt_succ_self rest.length) (beq_self_eq_true _) isOpen
    obtain ⟨n, polled⟩ := settles.1
    have counts := (polled n n (Nat.le_refl _) (Nat.le_refl _)).counts
    have whole : (first :: rest).take (rest.length + 1) = first :: rest :=
      List.take_of_length_le (Nat.le_refl _)
    rw [whole] at counts
    refine ⟨summary, ?_, counts.responses, settles.imp fun run fanned => ?_⟩
    · rw [counts.requests, List.length_cons, Nat.mul_succ, Nat.add_assoc]
    · exact ⟨fanned.outcome, whole ▸ fanned.offers⟩
  · intro fan
    obtain ⟨summary, settles⟩ := settles_fanned fan unlimited accepting received
      (Nat.succ_pos rest.length) rfl nofun
    obtain ⟨n, polled⟩ := settles.1
    have counts := (polled n n (Nat.le_refl _) (Nat.le_refl _)).counts
    refine ⟨summary, ?_, counts.responses, settles.imp fun run fanned => ?_⟩
    · rw [counts.requests]
      omega
    · exact ⟨fanned.outcome, fanned.offers.trans (List.flatMap_singleton answer first),
        fanned.lastCalls, fanned.pending⟩

end Run

/-! ## (4) A stage that counts -/

/-- Requests that are sent one after the other, whatever comes of it. -/
def Callback.sendRequests : List T.Request → Callback T Unit
  | [] => nothing
  | request :: rest => .sendRequest request fun _ => sendRequests rest

/-- All of them are sent. -/
theorem Callback.sends_sendRequests (requests : List T.Request) :
    (sendRequests (T := T) requests).Sends false (requests.map .request) := by
  induction requests with
  | nil => exact fun _ _ _ holds => holds
  | cons request rest ih => exact fun data memory holds isEnd => ih data memory _ isEnd

/-- A pipeline for numbers, whose stages may keep numbers. -/
@[reducible] def countedNumbers : Traffic where
  Request := Nat
  Response := Nat
  Kind := Unit
  Value _ := Nat

/-- How many ends of the pipe a stage has counted. -/
def endsCounted (data : StageData countedNumbers.Value) : Nat := (data.get? ⟨"ends", ()⟩).getD 0

/-- **A stage that fans out** and counts the ends of the pipe that it gets. -/
def fanning (requests : List Nat) (closing : Nat → Bool) : Processor countedNumbers where
  name := "fan"
  onRequest _ := Callback.sendRequests requests
  onResponse
    | .item item => Callback.send (.item item)
    | .eop => .look fun view =>
      .keep (view.data.put ⟨"ends", ()⟩ (endsCounted view.data + 1)).2 <|
        if closing (endsCounted view.data) then Callback.sendEop else Callback.nothing

/-- **It is a first stage that fans out.** -/
theorem fansOut_fanning (request : Nat) (requests : List Nat) (closing : Nat → Bool) :
    (fanning requests closing).FansOut request requests closing
      (fun count data _ => endsCounted data = count) () := by
  constructor
  case opens =>
    exact Callback.sends_sendRequests (T := countedNumbers) requests .empty () _
      ⟨rfl, rfl, rfl, rfl⟩
  case items =>
    intro count item data memory known
    exact ⟨rfl, rfl, rfl, known⟩
  case eops =>
    rintro _ data memory rfl view rfl
    have known : endsCounted (view.data.put ⟨"ends", ()⟩ (endsCounted view.data + 1)).2 =
        endsCounted view.data + 1 := by simp [endsCounted]
    show Callback.Ends false (if closing (endsCounted view.data) then _ else _) _ _ _
    split
    · exact ⟨rfl, rfl, rfl, known⟩
    · exact ⟨rfl, rfl, rfl, known⟩

/-- **A job for three stages**: the first one makes two requests, and the last one answers each with
two numbers. -/
def fanningJob (closing : Nat → Bool) : Job countedNumbers (List Nat) where
  pipeline :=
    { name := "fan"
      processors := [fanning [1, 2] closing, .passThrough "middle",
        .ofCallbacks "back" fun request =>
          Callback.sendItems [request, 10 * request] Callback.sendEop]
      metadata := {}
      name_not_blank := by decide
      processors_ne_nil := by simp }
  request := (0 : Nat)
  handler := .collecting
  runId := .nil
  startedAt := ⟨⟨2024, 1, 1⟩, 0, 0⟩
  durationMs := 0

/-- The stages do what is asked of them. -/
theorem fans_fanningJob (closing : Nat → Bool) :
    (fanningJob closing).Fans 1 [(1 : Nat), 2] (fun request => [request, 10 * request]) closing
      (fun count data _ => endsCounted data = count) () where
  size := rfl
  first := ⟨_, rfl, fansOut_fanning _ _ _⟩
  middle i lt := by
    obtain rfl : i = 0 := Nat.lt_one_iff.mp lt
    exact ⟨_, rfl⟩
  last := ⟨_, rfl, fun _ _ request data memory known =>
    Callback.sends_items [request, 10 * request] data memory _ ⟨rfl, rfl, rfl, known⟩⟩

/-- If the first stage waits for both answers, the handler is offered four numbers; if it does not,
the second request is dropped. -/
theorem fan_out_of_two :
    (fanningJob (· == 1)).config.maxSteps = none ∧ (fanningJob (· == 1)).handler.IsAccepting ∧
      (∃ summary : RunSummary, summary.requestsProcessed = 5 ∧ summary.responsesProcessed = 12 ∧
        Run.Settles (fanningJob (· == 1)) [] () fun run =>
          run.outcome = some (.ok summary) ∧ Journal.offers run.journal = [(1 : Nat), 10, 2, 20]) ∧
      ∃ summary : RunSummary, summary.requestsProcessed = 4 ∧ summary.responsesProcessed = 6 ∧
        Run.Settles (fanningJob fun _ => true) [] () fun run =>
          run.outcome = some (.ok summary) ∧ Journal.offers run.journal = [(1 : Nat), 10] ∧
          run.turns.countP (·.call.stage = 2) = 1 ∧
          run.pendingAt ⟨2, .request⟩ = [.request (2 : Nat)] := by
  have accepting : ∀ closing, (fanningJob closing).handler.IsAccepting := fun _ _ _ => rfl
  exact ⟨rfl, accepting _, (Run.fan_out rfl (accepting _) [] ()).1 (fans_fanningJob (· == 1)),
    (Run.fan_out rfl (accepting _) [] ()).2 (fans_fanningJob fun _ => true)⟩

end Relay
