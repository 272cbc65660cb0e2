import Relay.Proofs.Chain.Yields
import Relay.Script.Processor

/-!
# Transforming chains

A chain of links makes of a request the request that comes to its last stage, and of the answer
given there the items that come back to the caller: each link changes requests on their way out, and
puts any number of items in the place of one on its way back.

* `Transform` is what a chain does; `Transform.requestAt` and `Transform.itemsFrom` say what comes
  of a request.
* `Transform.output` says what each stage sends, and `Pipeline.CarriesOut` which pipelines do so.
* `Transform.carriesOut_processors` says that every transform is carried out by some pipeline, and
  `Script.carriesOut_chain` what the chains of scripts carry out.
-/

namespace Relay

variable {T : Traffic} {η : Type}

/-! ## (1) What a chain makes of a request -/

/-- **A link of a chain**: what it makes of a request, and what it makes of an item. -/
structure Link (T : Traffic) where
  forward : T.Request → T.Request
  expand : T.Response → List T.Response

/-- **A transform**: the links of a chain, the first one first, and the answer at its end. -/
structure Transform (T : Traffic) where
  links : List (Link T)
  answer : T.Request → List T.Response

namespace Transform

variable {transform : Transform T} {request : T.Request} {stage : Nat} {link : Link T}

/-- The place of the last stage. -/
def last (transform : Transform T) : Nat := transform.links.length

/-- There is a link at each place before. -/
theorem exists_link (transform : Transform T) {stage : Nat} (before : stage < transform.last) :
    ∃ link, transform.links[stage]? = some link := ⟨_, List.getElem?_eq_getElem before⟩

/-- **The request that comes to a stage**: what the links before it have made of the request. -/
def requestAt (transform : Transform T) (request : T.Request) (stage : Nat) : T.Request :=
  (transform.links.take stage).foldl (fun request link => link.forward request) request

/-- The items that links make of the answer behind them. -/
def itemsThrough (answer : T.Request → List T.Response) :
    List (Link T) → T.Request → List T.Response
  | [], request => answer request
  | link :: links, request =>
    (itemsThrough answer links (link.forward request)).flatMap link.expand

/-- **The items that a stage sends**: what it and the links behind it have made of the answer. -/
def itemsFrom (transform : Transform T) (request : T.Request) (stage : Nat) : List T.Response :=
  itemsThrough transform.answer (transform.links.drop stage) (transform.requestAt request stage)

/-- **What a chain makes of a request**: the items that its first stage sends. -/
def apply (transform : Transform T) (request : T.Request) : List T.Response :=
  transform.itemsFrom request 0

/-- **Each link passes its request on.** -/
theorem requestAt_succ (isLink : transform.links[stage]? = some link) (request : T.Request) :
    transform.requestAt request (stage + 1) =
      link.forward (transform.requestAt request stage) := by
  rw [requestAt, List.take_add_one, isLink, List.foldl_append]
  rfl

/-- **The last stage sends its answer.** -/
theorem itemsFrom_last (transform : Transform T) (request : T.Request) :
    transform.itemsFrom request transform.last =
      transform.answer (transform.requestAt request transform.last) := by
  rw [itemsFrom, last, List.drop_length]
  rfl

/-- **Each link expands the items that come back to it.** -/
theorem itemsFrom_of_link (isLink : transform.links[stage]? = some link) (request : T.Request) :
    transform.itemsFrom request stage =
      (transform.itemsFrom request (stage + 1)).flatMap link.expand := by
  obtain ⟨within, here⟩ := List.getElem?_eq_some_iff.mp isLink
  rw [itemsFrom, itemsFrom, List.drop_eq_getElem_cons within, here, requestAt_succ isLink]
  rfl

end Transform

/-! ## (2) What the stages send -/

/-- **Items with the end of the pipe behind them.** -/
def Outgoing.replies (items : List T.Response) : List (Outgoing T) :=
  items.map (fun item => .response (.item item)) ++ [.response .eop]

/-- All of it are replies. -/
theorem Outgoing.reply_of_mem_replies {items : List T.Response} {sent : Outgoing T}
    (member : sent ∈ replies items) : ∃ reply, sent = .response reply := by
  rcases List.mem_append.mp member with isItem | isEop
  · obtain ⟨item, -, rfl⟩ := List.mem_map.mp isItem
    exact ⟨.item item, rfl⟩
  · exact ⟨.eop, List.mem_singleton.mp isEop⟩

/-- The caller gets the items. -/
theorem Outgoing.filterMap_item?_replies (items : List T.Response) :
    (replies items).filterMap item? = items := by
  rw [replies, List.filterMap_append, List.filterMap_map]
  exact (List.append_nil _).trans List.filterMap_some

/-- **What a link sends** in answer to a message. -/
def Link.output (link : Link T) : Message T → List (Outgoing T)
  | .request request => [.request (link.forward request)]
  | .response (.item item) => (link.expand item).map fun item => .response (.item item)
  | .response .eop => [.response .eop]

/-- What a link makes of items with the end of the pipe behind them. -/
theorem Link.flatMap_output (link : Link T) (items : List T.Response) :
    ((Outgoing.replies items).map Outgoing.toMessage).flatMap link.output =
      Outgoing.replies (items.flatMap link.expand) := by
  rw [Outgoing.replies, Outgoing.replies, List.map_append, List.flatMap_append, List.map_map,
    List.flatMap_map, List.map_flatMap]
  rfl

namespace Transform

variable {transform : Transform T} {request : T.Request} {message : Message T} {sent : Outgoing T}
  {p : Nat}

/-- **What a stage sends** in answer to a message. Nothing comes back to the last stage. -/
def output (transform : Transform T) (stage : Nat) (message : Message T) : List (Outgoing T) :=
  match transform.links[stage]? with
  | some link => link.output message
  | none => message.request?.elim [] fun request => Outgoing.replies (transform.answer request)

/-- What a link sends. -/
theorem output_of_link {link : Link T} {stage : Nat}
    (isLink : transform.links[stage]? = some link) (message : Message T) :
    transform.output stage message = link.output message := by
  rw [output, isLink]

/-- What the last stage sends. -/
theorem output_last (transform : Transform T) (message : Message T) :
    transform.output transform.last message =
      message.request?.elim [] fun request => Outgoing.replies (transform.answer request) := by
  rw [output, last, List.getElem?_length]

/-- The last stage sends replies only. -/
theorem reply_of_output_last (member : sent ∈ transform.output transform.last message) :
    ∃ reply, sent = .response reply := by
  rw [output_last] at member
  cases message with
  | response _ => cases member
  | request _ => exact Outgoing.reply_of_mem_replies member

end Transform

/-- **A processor that is a link.** -/
def Processor.IsLink (processor : Processor T) (link : Link T) : Prop :=
  ∀ message, (processor.handle message).Yields (link.output message)

/-- **A processor that answers** requests, whatever it would do with a reply. -/
def Processor.IsEnd (processor : Processor T) (answer : T.Request → List T.Response) : Prop :=
  ∀ request, (processor.onRequest request).Yields (Outgoing.replies (answer request))

/-- **A pipeline that carries out a transform**: its stages are the links, and behind them the one
that answers. -/
structure Pipeline.CarriesOut (pipeline : Pipeline T) (transform : Transform T) : Prop where
  size : pipeline.size = transform.last + 1
  link : ∀ stage link processor, transform.links[stage]? = some link →
    pipeline.processor? stage = some processor → processor.IsLink link
  answers : ∀ processor, pipeline.processor? transform.last = some processor →
    processor.IsEnd transform.answer

/-- The processors of such a pipeline answer as the transform tells. -/
theorem Pipeline.CarriesOut.answers_output {job : Job T η} {transform : Transform T}
    (carries : job.pipeline.CarriesOut transform) : job.Answers transform.output := by
  have isLast : job.pipeline.size - 1 = transform.last := by
    rw [carries.size, Nat.add_sub_cancel]
  constructor
  case yields =>
    intro slot processor message hasProcessor kind comes
    cases isLink : transform.links[slot.stage]? with
    | some link =>
      rw [Transform.output_of_link isLink]
      exact carries.link slot.stage link processor isLink hasProcessor message
    | none =>
      -- Behind the links there is only the last stage, to which only requests come.
      have beyond : transform.last ≤ slot.stage := List.getElem?_eq_none_iff.mp isLink
      have within : slot.stage < job.pipeline.size :=
        (List.getElem?_eq_some_iff.mp hasProcessor).1
      have here : slot.stage = transform.last := by
        rw [carries.size] at within
        omega
      rw [here, Transform.output_last]
      cases message with
      | request request => exact carries.answers processor (here ▸ hasProcessor) request
      | response reply =>
        refine absurd ?_ comes
        rw [isLast, ← here]
        exact congrArg (Slot.mk slot.stage) kind.symm
  case replies =>
    intro message sent member
    rw [isLast] at member
    obtain ⟨reply, rfl⟩ := Transform.reply_of_output_last member
    rfl

/-- **Processors in a row**: links, and behind them one that answers. -/
theorem Pipeline.carriesOut_of_append {pipeline : Pipeline T} {transform : Transform T}
    {front : List (Processor T)} {final : Processor T}
    (isChain : pipeline.processors = front ++ [final]) (length : front.length = transform.last)
    (areLinks : ∀ (stage : Nat) (link : Link T) (processor : Processor T),
      transform.links[stage]? = some link → front[stage]? = some processor →
        processor.IsLink link)
    (answers : final.IsEnd transform.answer) : pipeline.CarriesOut transform := by
  constructor
  case size => rw [Pipeline.size, isChain, List.length_append, length, List.length_singleton]
  case link =>
    intro stage link processor isLink hasProcessor
    have within : stage < front.length := by
      rw [length]
      exact (List.getElem?_eq_some_iff.mp isLink).1
    rw [Pipeline.processor?, isChain, List.getElem?_append_left within] at hasProcessor
    exact areLinks stage link processor isLink hasProcessor
  case answers =>
    intro processor hasProcessor
    rw [Pipeline.processor?, isChain, ← length, List.getElem?_concat_length] at hasProcessor
    obtain rfl := Option.some.inj hasProcessor
    exact answers

/-! ## (3) Chains for all transforms -/

namespace Transform

/-- The processor of a link. -/
def linkProcessor (link : Link T) (name : String) : Processor T :=
  .ofCallbacks name (fun request => Callback.forwardRequest (link.forward request)) <| some fun
    | .item item => Callback.sendItems (link.expand item) Callback.nothing
    | .eop => Callback.sendEop

/-- The processor that answers. -/
def endProcessor (answer : T.Request → List T.Response) (name : String) : Processor T :=
  .ofCallbacks name fun request => Callback.sendItems (answer request) Callback.sendEop

/-- **The processors of a transform.** -/
def processors (transform : Transform T) : List (Processor T) :=
  transform.links.map (linkProcessor · "link") ++ [endProcessor transform.answer "end"]

/-- The processor of a link is that link. -/
theorem isLink_linkProcessor (link : Link T) (name : String) :
    (linkProcessor link name).IsLink link := by
  intro message
  rcases message with request | item | _
  · exact Callback.yields_forwardRequest (link.forward request)
  · have yields := Callback.yields_sendItems (link.expand item)
      (show (Callback.nothing (T := T)).Yields [] from rfl)
    rwa [List.append_nil] at yields
  · exact Callback.yields_send .eop

/-- **Every transform is carried out** by a pipeline of its processors. -/
theorem carriesOut_processors {pipeline : Pipeline T} {transform : Transform T}
    (isChain : pipeline.processors = transform.processors) : pipeline.CarriesOut transform := by
  refine Pipeline.carriesOut_of_append isChain (List.length_map _) ?areLinks ?answers
  case areLinks =>
    intro stage link processor isLink isProcessor
    rw [List.getElem?_map, isLink] at isProcessor
    obtain rfl := Option.some.inj isProcessor
    exact isLink_linkProcessor link "link"
  case answers =>
    exact fun request =>
      Callback.yields_sendItems (transform.answer request) (Callback.yields_send .eop)

/-! ## (4) Chains that only forward -/

/-- The link that changes nothing. -/
def plainLink : Link T := ⟨id, fun item => [item]⟩

/-- **The transform of a chain that only forwards** and gives the same answer to every request. -/
def forwarding (size : Nat) (responses : List T.Response) : Transform T where
  links := List.replicate (size - 1) plainLink
  answer _ := responses

/-- The place of its last stage. -/
theorem last_forwarding (size : Nat) (responses : List T.Response) :
    (forwarding (T := T) size responses).last = size - 1 := List.length_replicate

/-- Its stages all send the answer. -/
theorem itemsFrom_forwarding (size : Nat) (responses : List T.Response) (request : T.Request)
    (stage : Nat) :
    (forwarding size responses).itemsFrom request stage = responses := by
  have through (count : Nat) (request : T.Request) :
      itemsThrough (fun _ => responses) (List.replicate count plainLink) request = responses := by
    induction count generalizing request with
    | zero => rfl
    | succ count ih =>
      rw [List.replicate_succ, itemsThrough, ih]
      exact List.flatMap_singleton' responses
  rw [itemsFrom, forwarding, List.drop_replicate, through]

end Transform

namespace Processor

/-- A processor that forwards everything is the link that changes nothing. -/
theorem isLink_passThrough (name : String) :
    (passThrough (T := T) name).IsLink Transform.plainLink := by
  intro message
  rcases message with request | item | _
  · exact Callback.yields_forwardRequest request
  · exact Callback.yields_send (.item item)
  · exact Callback.yields_send .eop

/-- A processor that always gives the same answer answers requests. -/
theorem isEnd_terminal (shownItem : T.Response → Text.Shown) (name : String)
    (responses : List T.Response) :
    (terminal shownItem name responses).IsEnd fun _ => responses := fun _ =>
  Callback.yields_sendItems responses (Callback.yields_send .eop)

end Processor

namespace Script

/-- **A chain can be built**, whatever its length. -/
theorem build_chain (size : Nat) (responses : List String) :
    ∃ pipeline, (chain size responses).build = .ok pipeline ∧
      pipeline.processors = (chain size responses).processors := by
  have named : Text.isBlank (chain size responses).name = false := by
    refine Bool.eq_false_iff.mpr fun blank => ?_
    have name : (chain size responses).name = "chain-" ++ toString size := rfl
    have isLetter : 'c' ∈ (chain size responses).name.toList := by
      rw [name, String.toList_append]
      exact List.mem_append_left _ (by decide)
    exact absurd (Text.isBlank_iff.mp blank 'c' isLetter) (by decide)
  have hasProcessor : (chain size responses).processors ≠ [] := by simp [chain]
  refine ⟨⟨(chain size responses).name, (chain size responses).processors,
    (chain size responses).metadata, named, hasProcessor⟩, ?_, rfl⟩
  rw [Builder.build, dif_neg (by simp [named]), dif_neg hasProcessor]

/-- **What a chain carries out.** -/
theorem carriesOut_chain {size : Nat} {responses : List String} {pipeline : Pipeline traffic}
    (isChain : pipeline.processors = (chain size responses).processors) :
    pipeline.CarriesOut (Transform.forwarding size responses) := by
  refine Pipeline.carriesOut_of_append isChain ?length ?areLinks ?answers
  case length => rw [List.length_map, List.length_range, Transform.last_forwarding]
  case areLinks =>
    intro stage link processor isLink isProcessor
    obtain rfl := (List.mem_replicate.mp (List.mem_of_getElem? isLink)).2
    obtain ⟨index, -, rfl⟩ := List.mem_map.mp (List.mem_of_getElem? isProcessor)
    exact Processor.isLink_passThrough _
  case answers => exact Processor.isEnd_terminal (T := traffic) .quoted "terminal" responses

end Script

end Relay
