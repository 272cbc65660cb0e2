import Relay.Run

/-!
# Turns

The journal of a run falls into turns. A turn is what one callback has done from its call on: what
it has sent, whether a request of it was refused, and how it has ended. Between the turns stand
reports to the log and to the event sink, and offers to the caller's handler; neither belongs to a
turn.

* `Turn.ofPast` reads the turns off a journal, latest first.
* `Turn.ofPast_acts` says what the acts of a callback change: only its own turn, the latest one.
-/

namespace Relay

variable {T : Traffic} {η : Type}

/-! ## (1) Messages and what they carry -/

/-- The request that a message is, if it is one. -/
def Message.request? : Message T → Option T.Request
  | .request payload => some payload
  | .response _ => none

namespace Outgoing

/-- The request that a message is, if it is one. -/
def request? : Outgoing T → Option T.Request
  | .request payload => some payload
  | .response _ => none

/-- The reply that a message is, if it is one. -/
def reply? : Outgoing T → Option (Reply T.Response)
  | request _ => none
  | response reply => some reply

/-- The payload of a message that is an item. -/
def item? : Outgoing T → Option T.Response
  | request _ => none
  | response reply => reply.item?

/-- Whether a message is the end of the pipe. -/
def isEop : Outgoing T → Bool
  | request _ => false
  | response reply => reply.isEop

/-- A message as it is handed to the processor that it is for. -/
def toMessage : Outgoing T → Message T
  | .request payload => .request payload
  | .response reply => .response reply

end Outgoing

/-! ## (2) Kinds of entries -/

namespace Entry

/-- Whether an entry is a report to the log or to the event sink. -/
def isReport : Entry T → Bool
  | logged _ | emitted _ => true
  | _ => false

/-- Whether an entry is an act of the callback under way at a stage. A warning about a late response
counts as one, because it is the callback that brings it about. -/
def isActAt (index : Nat) : Entry T → Bool
  | sent stage _ | refused stage | noted stage _ | paused stage => stage == index
  | logged (.lateResponse stage _ _) => stage == index
  | _ => false

/-- The message that an entry reports as sent. -/
def sent? : Entry T → Option (Outgoing T)
  | sent _ message => some message
  | _ => none

/-- Whether an entry reports that a request was refused. -/
def isRefusal : Entry T → Bool
  | refused _ => true
  | _ => false

/-- **The verdict of the caller's handler** that an entry reports: the item, and whether it was
accepted. -/
def verdict? : Entry T → Option (T.Response × Except Failure Unit)
  | offered item result => some (item, result)
  | _ => none

/-- The entry that reports a verdict. -/
def ofVerdict (verdict : T.Response × Except Failure Unit) : Entry T :=
  offered verdict.1 verdict.2

end Entry

/-- **Reports**: entries that neither callbacks nor the caller's handler have made, latest first. -/
structure Reports (T : Traffic) where
  entries : List (Entry T)
  isReport_of_mem : ∀ entry ∈ entries, entry.isReport = true

namespace Reports

/-- No reports. -/
def none : Reports T := ⟨[], by simp⟩

/-- One log record. -/
def ofRecord (record : Log.Record) : Reports T := ⟨[.logged record], by simp [Entry.isReport]⟩

/-- Later reports on top of earlier ones. -/
def append (later earlier : Reports T) : Reports T where
  entries := later.entries ++ earlier.entries
  isReport_of_mem entry member := by
    rcases List.mem_append.mp member with late | early
    · exact later.isReport_of_mem entry late
    · exact earlier.isReport_of_mem entry early

end Reports

namespace Journal

/-- The messages sent in a part of a journal that is given latest first, in the order of sending. -/
def sent (acts : List (Entry T)) : List (Outgoing T) := acts.reverse.filterMap Entry.sent?

/-- Whether a request was refused in a part of a journal. -/
def isRefused (acts : List (Entry T)) : Bool := acts.any Entry.isRefusal

/-- **The verdicts of the caller's handler** in a journal, in order. -/
def verdicts (journal : List (Entry T)) : List (T.Response × Except Failure Unit) :=
  journal.filterMap Entry.verdict?

@[simp] theorem sent_nil : sent ([] : List (Entry T)) = [] := rfl

@[simp] theorem isRefused_nil : isRefused ([] : List (Entry T)) = false := rfl

@[simp] theorem sent_cons (entry : Entry T) (earlier : List (Entry T)) :
    sent (entry :: earlier) = sent earlier ++ entry.sent?.toList := by
  cases message : entry.sent? <;> simp [sent, message]

@[simp] theorem isRefused_cons (entry : Entry T) (earlier : List (Entry T)) :
    isRefused (entry :: earlier) = (entry.isRefusal || isRefused earlier) := rfl

@[simp] theorem sent_append (later earlier : List (Entry T)) :
    sent (later ++ earlier) = sent earlier ++ sent later := by
  simp [sent]

@[simp] theorem isRefused_append (later earlier : List (Entry T)) :
    isRefused (later ++ earlier) = (isRefused later || isRefused earlier) := by
  simp [isRefused]

/-- The items offered are those that a verdict was given on. -/
theorem offers_eq_verdicts (journal : List (Entry T)) :
    offers journal = (verdicts journal).map Prod.fst := by
  rw [offers, verdicts, List.map_filterMap]
  refine congrArg (List.filterMap · journal) (funext fun entry => ?_)
  cases entry <;> rfl

/-- The items accepted are those with a good verdict. -/
theorem accepted_eq_verdicts (journal : List (Entry T)) :
    accepted journal = ((verdicts journal).filter (·.2.isOk)).map Prod.fst := by
  induction journal with
  | nil => rfl
  | cons entry rest ih =>
    rcases entry with _ | _ | _ | _ | _ | _ | ⟨item, _ | _⟩ | _ | _ <;>
      simp_all [accepted, verdicts, List.filterMap_cons, Entry.accepted?, Entry.verdict?,
        Except.isOk, Except.toBool]

/-- There are as many items accepted as good verdicts. -/
theorem length_accepted (journal : List (Entry T)) :
    (accepted journal).length = (verdicts journal).countP (·.2.isOk) := by
  rw [accepted_eq_verdicts, List.length_map, ← List.countP_eq_length_filter]

end Journal

/-! ## (3) Turns -/

/-- The queue that a call has taken its message from. -/
def Call.slot (call : Call T) : Slot := ⟨call.stage, call.message.kind⟩

/-- **A turn**: one callback from its call on. -/
structure Turn (T : Traffic) where
  call : Call T
  /-- What it has sent, in order; refused requests are not among it. -/
  sent : List (Outgoing T) := []
  /-- Whether it has tried to send a request past the last stage. -/
  isRefused : Bool := false
  /-- How it has ended, if it has. -/
  result : Option (Except Failure Unit) := none

/-- **The turns after one more entry**, latest first. A call opens a turn; what a callback does and
how it ends belong to the turn opened last. -/
def Entry.tell : Entry T → List (Turn T) → List (Turn T)
  | called call, turns => { call } :: turns
  | sent _ message, turns =>
    turns.modifyHead fun turn => { turn with sent := turn.sent ++ [message] }
  | refused _, turns => turns.modifyHead fun turn => { turn with isRefused := true }
  | returned _ result, turns => turns.modifyHead fun turn => { turn with result := some result }
  | noted _ _, turns | paused _, turns | offered _ _, turns | logged _, turns
  | emitted _, turns => turns

namespace Turn

/-- **The turns of a journal** that is given latest first; latest turn first as well. -/
def ofPast (past : List (Entry T)) : List (Turn T) := past.foldr Entry.tell []

/-- **Whether a turn has ended well**: the callback has returned without a failure, and has not
tried to send past the last stage. -/
def isClean (turn : Turn T) : Bool :=
  !turn.isRefused && turn.result.any (·.isOk)

/-- The turn after more acts of its callback. -/
def extend (turn : Turn T) (acts : List (Entry T)) : Turn T :=
  { turn with
    sent := turn.sent ++ Journal.sent acts
    isRefused := turn.isRefused || Journal.isRefused acts }

/-- The turn with the end of its callback. -/
def ended (turn : Turn T) (result : Except Failure Unit) : Turn T :=
  { turn with result := some result }

/-- A turn that has not ended has not ended well. -/
theorem isClean_of_underWay {turn : Turn T} (underWay : turn.result = none) :
    turn.isClean = false := by
  rw [isClean, underWay]
  exact Bool.and_false _

/-- Nor has one in which a request was refused. -/
theorem isClean_of_isRefused {turn : Turn T} (isRefused : turn.isRefused = true) :
    turn.isClean = false := by
  rw [isClean, isRefused]
  rfl

/-- Nor has one whose callback has failed. -/
theorem isClean_ended_error (turn : Turn T) (failure : Failure) :
    (turn.ended (.error failure)).isClean = false := Bool.and_false _

/-- Otherwise a turn ends well. -/
theorem isClean_ended_ok {turn : Turn T} (notRefused : turn.isRefused = false) :
    (turn.ended (.ok ())).isClean = true := by
  simp only [isClean, ended, notRefused]
  rfl

@[simp] theorem ofPast_nil : ofPast ([] : List (Entry T)) = [] := rfl

/-- One entry after another. -/
@[simp] theorem ofPast_cons (entry : Entry T) (past : List (Entry T)) :
    ofPast (entry :: past) = entry.tell (ofPast past) := rfl

/-- The calls of the turns are those of the journal. -/
theorem map_call_ofPast (past : List (Entry T)) :
    (ofPast past).map (·.call) = past.filterMap Entry.call? := by
  induction past with
  | nil => rfl
  | cons entry rest ih =>
    rw [ofPast_cons, List.filterMap_cons, ← ih]
    cases entry <;> cases ofPast rest <;> rfl

/-- Reports leave the turns as they are. -/
@[simp] theorem ofPast_reports (reports : Reports T) (past : List (Entry T)) :
    ofPast (reports.entries ++ past) = ofPast past := by
  obtain ⟨entries, isReport⟩ := reports
  induction entries with
  | nil => rfl
  | cons entry rest ih =>
    have isReportEntry := isReport entry List.mem_cons_self
    have tail := ih fun other member => isReport other (List.mem_cons_of_mem _ member)
    rw [List.cons_append, ofPast_cons, tail]
    cases entry <;> simp [Entry.isReport] at isReportEntry <;> rfl

/-- Offers to the caller's handler leave the turns as they are. -/
theorem ofPast_offers (offers : List (T.Response × Except Failure Unit)) (past : List (Entry T)) :
    ofPast ((offers.map Entry.ofVerdict).reverse ++ past) = ofPast past := by
  induction offers generalizing past with
  | nil => rfl
  | cons offer rest ih =>
    rw [List.map_cons, List.reverse_cons, List.append_assoc, ih]
    rfl

/-- **The acts of a callback extend its turn**, which is the latest one, and no other. -/
theorem ofPast_acts {index : Nat} {acts past : List (Entry T)} {turn : Turn T}
    {rest : List (Turn T)} (areActs : ∀ entry ∈ acts, entry.isActAt index = true)
    (turns : ofPast past = turn :: rest) :
    ofPast (acts ++ past) = turn.extend acts :: rest := by
  induction acts with
  | nil => simpa [extend] using turns
  | cons entry acts ih =>
    have isAct := areActs entry List.mem_cons_self
    have tail := ih fun other member => areActs other (List.mem_cons_of_mem _ member)
    rw [List.cons_append, ofPast_cons, tail]
    -- Only the message of a `sent` and the flag of a `refused` entry change the turn.
    cases entry <;>
      simp_all [Entry.tell, Entry.isActAt, extend, Entry.sent?, Entry.isRefusal]

end Turn

namespace Journal

/-- Reports hold no verdicts. -/
@[simp] theorem verdicts_reports (reports : Reports T) (past : List (Entry T)) :
    verdicts (reports.entries ++ past).reverse = verdicts past.reverse := by
  obtain ⟨entries, isReport⟩ := reports
  have none : verdicts entries.reverse = [] := by
    refine List.filterMap_eq_nil_iff.mpr fun entry member => ?_
    have isReportEntry := isReport entry (List.mem_reverse.mp member)
    cases entry <;> simp_all [Entry.isReport, Entry.verdict?]
  rw [List.reverse_append, verdicts, List.filterMap_append]
  exact (congrArg _ none).trans (List.append_nil _)

/-- The acts of a callback hold no verdicts. -/
theorem verdicts_acts {index : Nat} {acts : List (Entry T)} (past : List (Entry T))
    (areActs : ∀ entry ∈ acts, entry.isActAt index = true) :
    verdicts (acts ++ past).reverse = verdicts past.reverse := by
  have none : verdicts acts.reverse = [] := by
    refine List.filterMap_eq_nil_iff.mpr fun entry member => ?_
    have isAct := areActs entry (List.mem_reverse.mp member)
    cases entry <;> simp_all [Entry.isActAt, Entry.verdict?]
  rw [List.reverse_append, verdicts, List.filterMap_append]
  exact (congrArg _ none).trans (List.append_nil _)

/-- Offers come with their verdicts. -/
theorem verdicts_offers (offers : List (T.Response × Except Failure Unit))
    (past : List (Entry T)) :
    verdicts ((offers.map Entry.ofVerdict).reverse ++ past).reverse =
      verdicts past.reverse ++ offers := by
  have all : verdicts (offers.map (Entry.ofVerdict (T := T))) = offers := by
    rw [verdicts, List.filterMap_map]
    exact List.filterMap_some
  rw [List.reverse_append, List.reverse_reverse, verdicts, List.filterMap_append]
  exact congrArg _ all

end Journal

/-- **The turns of a run**, in order. -/
def Run.turns (run : Run T η) : List (Turn T) := (Turn.ofPast run.past).reverse

/-- **There is one turn for each call** of a run, in order. -/
theorem Run.map_call_turns (run : Run T η) :
    run.turns.map (·.call) = Journal.calls run.journal := by
  rw [turns, List.map_reverse, Turn.map_call_ofPast, Journal.calls, journal, List.filterMap_reverse]

/-- The latest turn of a run is the last one. -/
theorem Run.turns_eq_concat {run : Run T η} {turn : Turn T} {earlier : List (Turn T)}
    (turns : Turn.ofPast run.past = turn :: earlier) : run.turns = earlier.reverse ++ [turn] := by
  rw [Run.turns, turns, List.reverse_cons]

/-- The last turn of a run is the latest one. -/
theorem Run.ofPast_of_turns_eq {run : Run T η} {turn : Turn T} {before : List (Turn T)}
    (turns : run.turns = before ++ [turn]) : Turn.ofPast run.past = turn :: before.reverse := by
  rw [← List.reverse_reverse (Turn.ofPast run.past), ← Run.turns, turns]
  simp

/-- Where nothing happens to the turns, there are as many as before. -/
theorem Run.length_turns_of_turns_eq {run next : Run T η}
    (turns : Turn.ofPast next.past = Turn.ofPast run.past) :
    next.turns.length = run.turns.length := by
  rw [Run.turns, Run.turns, turns]

/-- Of a turn that goes on or ends there is still one. -/
theorem Run.length_turns_of_latest {run next : Run T η} {turn late : Turn T}
    {earlier : List (Turn T)}
    (turns : Turn.ofPast run.past = turn :: earlier)
    (later : Turn.ofPast next.past = late :: earlier) : next.turns.length = run.turns.length := by
  simp [Run.turns, turns, later]

/-- **The verdicts of the caller's handler** on the items of a run, in order. -/
def Run.verdicts (run : Run T η) : List (T.Response × Except Failure Unit) :=
  Journal.verdicts run.journal

end Relay
