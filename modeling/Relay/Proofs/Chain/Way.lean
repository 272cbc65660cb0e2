import Relay.Proofs.Chain.Transform
import Relay.Proofs.Delivery

/-!
# The way through a chain

The messages of a run through a chain go one way: from the queue of requests of each stage to that
of the next one, and from the last stage back through the queues of replies. The queues on this way
are its legs. Whatever the order in which the messages are handled, what comes along a leg is what
has been sent in answer to what came along the one before.

* `Transform.leg` counts the legs, and `Transform.handed` says what comes along them when a request
  goes all the way; `Transform.handed_succ` is the step from leg to leg.
* `Transform.eq_handed_of_closed` says when nothing is missing on a leg.
* `Transform.contributed_leg` and `Transform.forCaller_turns` say where turns send what they send.
-/

namespace Relay

variable {T : Traffic} {η : Type}

/-! ## (1) The way of messages -/

namespace Transform

variable {transform : Transform T} {request : T.Request} {message : Message T} {sent : Outgoing T}
  {p q : Nat}

/-- **The legs of the way**: the requests of one stage after the other, and then, from the last
stage back, the replies. -/
def leg (transform : Transform T) (p : Nat) : Slot :=
  if p ≤ transform.last then ⟨p, .request⟩ else ⟨2 * transform.last - p, .response⟩

/-- **The messages that come along a leg** when a request goes all the way. -/
def handed (transform : Transform T) (request : T.Request) (slot : Slot) : List (Message T) :=
  match slot.kind with
  | .request => [.request (transform.requestAt request slot.stage)]
  | .response =>
    (Outgoing.replies (transform.itemsFrom request (slot.stage + 1))).map Outgoing.toMessage

/-- The way out. -/
theorem leg_out (out : p ≤ transform.last) : transform.leg p = ⟨p, .request⟩ := if_pos out

/-- The way back. -/
theorem leg_back (back : transform.last < p) :
    transform.leg p = ⟨2 * transform.last - p, .response⟩ := if_neg (Nat.not_le.mpr back)

/-- From the last stage on, the way leads back. -/
theorem stage_leg (turned : transform.last ≤ p) :
    (transform.leg p).stage = 2 * transform.last - p := by
  rcases Nat.eq_or_lt_of_le turned with rfl | back
  · rw [leg_out (Nat.le_refl _)]
    show transform.last = 2 * transform.last - transform.last
    omega
  · rw [leg_back back]

/-- The last leg is one of the first stage. -/
theorem stage_leg_last (transform : Transform T) :
    (transform.leg (2 * transform.last)).stage = 0 := by
  rw [stage_leg (by omega), Nat.sub_self]

/-- No leg is passed twice. -/
theorem leg_inj (pLeg : p ≤ 2 * transform.last) (qLeg : q ≤ 2 * transform.last) :
    transform.leg p = transform.leg q ↔ p = q := by
  refine ⟨fun same => ?_, fun same => congrArg _ same⟩
  have stage := congrArg Slot.stage same
  have kind := congrArg Slot.kind same
  rcases Nat.lt_or_ge transform.last p with back | out <;>
    rcases Nat.lt_or_ge transform.last q with isBack | isOut
  · rw [leg_back back, leg_back isBack] at stage
    simp only at stage
    omega
  · rw [leg_back back, leg_out isOut] at kind
    cases kind
  · rw [leg_out out, leg_back isBack] at kind
    cases kind
  · rw [leg_out out, leg_out isOut] at stage
    exact stage

/-- No leg leads back to the last stage. -/
theorem leg_ne_last_response (isLeg : p ≤ 2 * transform.last) :
    transform.leg p ≠ ⟨transform.last, .response⟩ := by
  intro same
  rcases Nat.lt_or_ge transform.last p with back | out
  · rw [leg_back back] at same
    have stage : 2 * transform.last - p = transform.last := congrArg Slot.stage same
    omega
  · rw [leg_out out] at same
    cases congrArg Slot.kind same

/-- **Each queue to which messages come is a leg.** -/
theorem exists_leg {slot : Slot} (within : slot.stage ≤ transform.last)
    (comes : slot ≠ ⟨transform.last, .response⟩) :
    ∃ p ≤ 2 * transform.last, slot = transform.leg p := by
  obtain ⟨stage, kind⟩ := slot
  cases kind with
  | request => exact ⟨stage, by simp at within; omega, (leg_out within).symm⟩
  | response =>
    have lt : stage < transform.last :=
      Nat.lt_of_le_of_ne within fun same => comes (congrArg (Slot.mk · .response) same)
    refine ⟨2 * transform.last - stage, by omega, ?_⟩
    rw [leg_back (by omega)]
    exact congrArg (Slot.mk · .response) (by omega)

/-- **What is sent on the way out** is the next request. -/
theorem output_out {link : Link T} (isLink : transform.links[p]? = some link)
    (request : T.Request) :
    transform.output (transform.leg p).stage (.request request) =
      [.request (link.forward request)] := by
  have out : p < transform.last := (List.getElem?_eq_some_iff.mp isLink).1
  rw [leg_out (Nat.le_of_lt out), output_of_link isLink]
  rfl

/-- **What is sent from the last stage on** are replies. -/
theorem reply_of_output (turned : transform.last ≤ p) (isLeg : p ≤ 2 * transform.last)
    (kind : message.kind = (transform.leg p).kind)
    (member : sent ∈ transform.output (transform.leg p).stage message) :
    ∃ reply, sent = .response reply := by
  rcases Nat.eq_or_lt_of_le turned with rfl | back
  · rw [leg_out (Nat.le_refl _)] at member
    exact reply_of_output_last member
  · obtain ⟨link, isLink⟩ := transform.exists_link (show 2 * transform.last - p < _ by omega)
    rw [leg_back back] at kind member
    rw [output_of_link isLink] at member
    rcases message with _ | item | _
    · cases kind
    · obtain ⟨other, -, rfl⟩ := List.mem_map.mp member
      exact ⟨.item other, rfl⟩
    · exact ⟨.eop, List.mem_singleton.mp member⟩

/-- **What is sent on a leg goes to the next one**, and from the last leg to the caller. -/
theorem destination?_of_output (isLeg : p ≤ 2 * transform.last)
    (kind : message.kind = (transform.leg p).kind)
    (member : sent ∈ transform.output (transform.leg p).stage message) :
    sent.destination? (transform.leg p).stage =
      if p < 2 * transform.last then some (transform.leg (p + 1)) else none := by
  rcases Nat.lt_or_ge p transform.last with out | turned
  · rw [leg_out (Nat.le_of_lt out)] at kind
    cases message with
    | response _ => cases kind
    | request request =>
      obtain ⟨link, isLink⟩ := transform.exists_link out
      rw [output_out isLink] at member
      obtain rfl := List.mem_singleton.mp member
      rw [if_pos (by omega), leg_out (Nat.le_of_lt out), leg_out (Nat.succ_le_of_lt out)]
      rfl
  · obtain ⟨reply, rfl⟩ := reply_of_output turned isLeg kind member
    rw [Outgoing.destination?, stage_leg turned]
    by_cases goesOn : p < 2 * transform.last
    · rw [if_pos (by omega), if_pos goesOn, leg_back (by omega)]
      exact congrArg (some <| Slot.mk · .response) (by omega)
    · rw [if_neg (by omega), if_neg goesOn]

/-- **A request that goes all the way** is passed on by each stage on the way out, -/
theorem flatMap_output_out (out : p < transform.last) (request : T.Request) :
    (transform.handed request (transform.leg p)).flatMap
        (transform.output (transform.leg p).stage) =
      [.request (transform.requestAt request (p + 1))] := by
  obtain ⟨link, isLink⟩ := transform.exists_link out
  have handed : transform.handed request (transform.leg p) =
      [.request (transform.requestAt request p)] := by
    rw [leg_out (Nat.le_of_lt out)]
    rfl
  rw [handed, List.flatMap_singleton, output_out isLink, requestAt_succ isLink]

/-- and makes each stage send its items from the last stage on. -/
theorem flatMap_output_back (turned : transform.last ≤ p) (isLeg : p ≤ 2 * transform.last)
    (request : T.Request) :
    (transform.handed request (transform.leg p)).flatMap
        (transform.output (transform.leg p).stage) =
      Outgoing.replies (transform.itemsFrom request (transform.leg p).stage) := by
  rcases Nat.eq_or_lt_of_le turned with rfl | back
  · have handed : transform.handed request (transform.leg transform.last) =
        [.request (transform.requestAt request transform.last)] := by
      rw [leg_out (Nat.le_refl _)]
      rfl
    rw [handed, List.flatMap_singleton, leg_out (Nat.le_refl _), itemsFrom_last, output_last]
    rfl
  · obtain ⟨link, isLink⟩ := transform.exists_link (show 2 * transform.last - p < _ by omega)
    have outputs := funext (output_of_link isLink)
    rw [leg_back back, itemsFrom_of_link isLink]
    show List.flatMap (transform.output (2 * transform.last - p)) _ = _
    rw [outputs]
    exact Link.flatMap_output _ _

/-- **The first stage sends what the chain makes of the request.** -/
theorem flatMap_output_last (transform : Transform T) (request : T.Request) :
    (transform.handed request (transform.leg (2 * transform.last))).flatMap
        (transform.output 0) = Outgoing.replies (transform.apply request) := by
  have sent := transform.flatMap_output_back (by omega) (Nat.le_refl _) request
  rwa [stage_leg_last] at sent

/-- **What comes along a leg** is what is sent on the one before. -/
theorem handed_succ (goesOn : p < 2 * transform.last) (request : T.Request) :
    transform.handed request (transform.leg (p + 1)) =
      ((transform.handed request (transform.leg p)).flatMap
        (transform.output (transform.leg p).stage)).map Outgoing.toMessage := by
  rcases Nat.lt_or_ge p transform.last with out | turned
  · rw [flatMap_output_out out, leg_out (Nat.succ_le_of_lt out)]
    rfl
  · have stage : 2 * transform.last - (p + 1) + 1 = 2 * transform.last - p := by omega
    rw [flatMap_output_back turned (Nat.le_of_lt goesOn), leg_back (by omega), stage_leg turned,
      ← stage]
    rfl

/-! ## (2) The last message of a leg -/

/-- Whether a message is a request or the end of the pipe. -/
def closes (message : Message T) : Bool := message.kind == .request || message.isEop

/-- **A leg is closed by its last message**: its only request, or the end of the pipe. -/
theorem handed_closed (transform : Transform T) (request : T.Request) (slot : Slot) :
    ∃ before close, transform.handed request slot = before ++ [close] ∧
      closes close = true ∧ ∀ message ∈ before, closes message = false := by
  obtain ⟨stage, kind⟩ := slot
  cases kind with
  | request => exact ⟨[], .request (transform.requestAt request stage), rfl, rfl, by simp⟩
  | response =>
    refine ⟨(transform.itemsFrom request (stage + 1)).map fun item => .response (.item item),
      .response .eop, ?_, rfl, ?_⟩
    · simp [handed, Outgoing.replies, Outgoing.toMessage]
    · intro message member
      obtain ⟨item, -, rfl⟩ := List.mem_map.mp member
      rfl

/-- **Messages among those of a leg** are all of them if one of them closes it. -/
theorem eq_handed_of_closed {messages : List (Message T)} {slot : Slot}
    (isPrefix : messages <+: transform.handed request slot)
    (closed : ∃ message ∈ messages, closes message = true) :
    messages = transform.handed request slot := by
  obtain ⟨before, close, handed, -, isOpen⟩ := transform.handed_closed request slot
  rw [handed] at isPrefix ⊢
  rcases List.prefix_concat_iff.mp isPrefix with all | part
  · exact all
  · obtain ⟨message, member, isClosing⟩ := closed
    cases isClosing.symm.trans (isOpen message (part.subset member))

/-- **Only in answer to the message that closes a leg** the next one is closed. -/
theorem closes_of_output {stage : Nat} (member : sent ∈ transform.output stage message)
    (closing : closes sent.toMessage = true) : closes message = true := by
  rcases message with request | item | _
  · rfl
  · cases isLink : transform.links[stage]? with
    | none =>
      rw [output, isLink] at member
      cases member
    | some link =>
      rw [output_of_link isLink] at member
      obtain ⟨other, -, rfl⟩ := List.mem_map.mp member
      cases closing
  · rfl

end Transform

/-! ## (3) Turns on the way -/

namespace Turn

variable {turn : Turn T} {slot : Slot}

/-- The queue that a turn has been called with a message of. -/
theorem isFrom_iff : turn.isFrom slot = true ↔ turn.call.slot = slot := by
  obtain ⟨stage, kind⟩ := slot
  simp [isFrom, Call.slot]

/-- The first turn delivers its message to its own queue. -/
theorem delivered_cons (slot : Slot) (turn : Turn T) (turns : List (Turn T)) :
    delivered slot (turn :: turns) =
      (if turn.call.slot = slot then [turn.call.message] else []) ++ delivered slot turns := by
  by_cases own : turn.call.slot = slot
  · simp [delivered, isFrom_iff.mpr own, own]
  · have notFrom : turn.isFrom slot = false := Bool.eq_false_iff.mpr (mt isFrom_iff.mp own)
    simp [delivered, notFrom, own]

end Turn

namespace Transform

variable {transform : Transform T} {turn : Turn T} {turns : List (Turn T)} {q : Nat}

/-- **A turn that follows a transform**: it has ended well, has sent what the transform tells, and
has been called on the way. -/
structure Follows (transform : Transform T) (turn : Turn T) : Prop where
  clean : turn.isClean = true
  sent : turn.sent = transform.output turn.call.stage turn.call.message
  isLeg : ∃ p ≤ 2 * transform.last, turn.call.slot = transform.leg p

/-- All that such a turn has sent goes the same way. -/
theorem Follows.destination? (follows : transform.Follows turn) :
    ∃ p ≤ 2 * transform.last, turn.call.slot = transform.leg p ∧
      ∀ sent ∈ turn.sent, sent.destination? turn.call.stage =
        if p < 2 * transform.last then some (transform.leg (p + 1)) else none := by
  obtain ⟨p, isLeg, slot⟩ := follows.isLeg
  have stage : turn.call.stage = (transform.leg p).stage := congrArg Slot.stage slot
  refine ⟨p, isLeg, slot, fun sent member => ?_⟩
  rw [follows.sent] at member
  rw [stage] at member ⊢
  exact destination?_of_output isLeg (congrArg Slot.kind slot) member

/-- **What arrives on a leg** is what turns on the one before have sent. -/
theorem Follows.arrivals (follows : transform.Follows turn) (goesOn : q < 2 * transform.last) :
    Outgoing.arrivals turn.call.stage (transform.leg (q + 1)) turn.sent =
      if turn.call.slot = transform.leg q then turn.sent.map Outgoing.toMessage else [] := by
  obtain ⟨p, isLeg, slot, goes⟩ := follows.destination?
  rw [Outgoing.arrivals_eq_filter]
  by_cases here : p = q
  · subst here
    rw [if_pos slot, List.filter_eq_self.mpr]
    intro sent member
    simp [goes sent member, goesOn]
  · have elsewhere : turn.call.slot ≠ transform.leg q := by
      rw [slot, Ne, leg_inj isLeg (Nat.le_of_lt goesOn)]
      exact here
    rw [if_neg elsewhere, List.filter_eq_nil_iff.mpr, List.map_nil]
    intro sent member
    rw [goes sent member]
    by_cases last : p < 2 * transform.last
    · simp [last, leg_inj (Nat.succ_le_of_lt last) (Nat.succ_le_of_lt goesOn), here]
    · simp [last]

/-- **What turns contribute to a leg** is what they have sent in answer to what came along the one
before. -/
theorem contributed_leg (follow : ∀ turn ∈ turns, transform.Follows turn)
    (goesOn : q < 2 * transform.last) :
    Turn.contributed (transform.leg (q + 1)) turns =
      ((Turn.delivered (transform.leg q) turns).flatMap
        (transform.output (transform.leg q).stage)).map Outgoing.toMessage := by
  induction turns with
  | nil => rfl
  | cons turn rest ih =>
    have follows := follow turn List.mem_cons_self
    have others := ih fun other member => follow other (List.mem_cons_of_mem _ member)
    rw [Turn.contributed, List.flatMap_cons, ← Turn.contributed, others, if_pos follows.clean,
      follows.arrivals goesOn, Turn.delivered_cons]
    by_cases here : turn.call.slot = transform.leg q
    · have stage : turn.call.stage = (transform.leg q).stage := congrArg Slot.stage here
      simp [here, follows.sent, stage]
    · simp [here]

/-- **What the caller gets** are the items sent in answer to what came along the last leg. -/
theorem forCaller_turns (follow : ∀ turn ∈ turns, transform.Follows turn) :
    Turn.forCaller turns = ((Turn.delivered (transform.leg (2 * transform.last)) turns).flatMap
      (transform.output 0)).filterMap Outgoing.item? := by
  induction turns with
  | nil => rfl
  | cons turn rest ih =>
    have follows := follow turn List.mem_cons_self
    have others := ih fun other member => follow other (List.mem_cons_of_mem _ member)
    rw [Turn.forCaller, List.flatMap_cons, ← Turn.forCaller, others, Turn.delivered_cons,
      Outgoing.forCaller]
    obtain ⟨p, isLeg, slot, goes⟩ := follows.destination?
    by_cases here : p = 2 * transform.last
    · subst here
      have stage : turn.call.stage = 0 := (congrArg Slot.stage slot).trans transform.stage_leg_last
      simp [slot, stage, follows.sent]
    · have lt : p < 2 * transform.last := Nat.lt_of_le_of_ne isLeg here
      have elsewhere : turn.call.slot ≠ transform.leg (2 * transform.last) := by
        rw [slot, Ne, leg_inj isLeg (Nat.le_refl _)]
        exact here
      -- An item of the first stage would go nowhere, but all that the turn has sent goes on.
      have noItems : (if turn.call.stage = 0 then turn.sent.filterMap Outgoing.item? else []) =
          [] := by
        by_cases stage : turn.call.stage = 0
        · rw [if_pos stage]
          refine List.filterMap_eq_nil_iff.mpr fun sent member => ?_
          have goesOn := goes sent member
          rw [if_pos lt, stage] at goesOn
          cases sent with
          | request _ => rfl
          | response _ => cases goesOn
        · rw [if_neg stage]
      rw [noItems, if_neg elsewhere]
      rfl

end Transform

end Relay
