import Relay.Proofs.Run.Orderly

/-!
# The chronicle of a run

The milestones of a run are the changes of its state and the events that it sends to the sink. They
stand in its journal among everything else that happens. What the sink writes into the log behind an
event is none of the run's doing, and is passed by whatever it looks like.

* `Run.milestones` reads the milestones off the journal of a run.
* `Run.Chronicled` says what they are; `Run.Chronicled.fail` and its neighbours what the parts of a
  step add to them.
-/

namespace Relay

variable {T : Traffic} {η : Type}

/-! ## (1) Milestones -/

/-- **A milestone** of a run. -/
inductive Milestone where
  /-- The run changes its state. -/
  | change (before after : RunState)
  /-- An event goes to the sink. -/
  | event (event : Event)

namespace Milestone

/-- The change of state that a milestone is, if it is one. -/
def change? : Milestone → Option (RunState × RunState)
  | change before after => some (before, after)
  | event _ => none

/-- The event that a milestone is, if it is one. -/
def event? : Milestone → Option Event
  | change _ _ => none
  | event told => some told

end Milestone

namespace Entry

/-- The milestone that an entry is, if it is one. -/
def milestone? : Entry T → Option Milestone
  | logged (.transition before after) => some (.change before after)
  | emitted event => some (.event event)
  | _ => none

/-- An entry that is no milestone is no event. -/
theorem event?_of_milestone? {entry : Entry T} (quiet : entry.milestone? = none) :
    entry.event? = none := by
  cases entry <;> simp_all [milestone?, event?]

/-- **The milestones after one more entry**, in order, beside the number of records of the sink that
are still to come. -/
def pass (sink : EventSink) (entry : Entry T) : Nat × List Milestone → Nat × List Milestone
  | (owed + 1, milestones) => (owed, milestones)
  | (0, milestones) =>
    (entry.event?.elim 0 fun event => (sink.records event).length,
      milestones ++ entry.milestone?.toList)

/-- The records of the sink are passed by. -/
theorem foldr_pass (sink : EventSink) (entries : List (Entry T)) (owed : Nat)
    (milestones : List Milestone) :
    entries.foldr (pass sink) (owed + entries.length, milestones) = (owed, milestones) := by
  induction entries generalizing owed with
  | nil => rfl
  | cons entry rest ih =>
    have more : owed + (entry :: rest).length = (owed + 1) + rest.length := by
      rw [List.length_cons]
      omega
    rw [List.foldr_cons, more, ih]
    rfl

end Entry

/-- The events of two parts of a journal. -/
theorem Journal.events_append (first second : List (Entry T)) :
    events (first ++ second) = events first ++ events second := List.filterMap_append

/-- **The milestones of a run**, in order. -/
def Run.milestones (job : Job T η) (run : Run T η) : List Milestone :=
  (run.past.foldr (Entry.pass job.sink) (0, [])).2

/-! ## (2) Chronicles -/

/-- **The chronicle of a journal** that is given latest first: its milestones are read, no record of
the sink is still to come, and the events among them are all events of the journal. -/
structure Chronicle (sink : EventSink) (past : List (Entry T)) (milestones : List Milestone) :
    Prop where
  read : past.foldr (Entry.pass sink) (0, []) = (0, milestones)
  events : Journal.events past.reverse = milestones.filterMap Milestone.event?

namespace Chronicle

variable {sink : EventSink} {past : List (Entry T)} {milestones : List Milestone}

/-- Nothing is in the chronicle of an empty journal. -/
theorem nil (sink : EventSink) : Chronicle sink ([] : List (Entry T)) [] := ⟨rfl, rfl⟩

/-- One more entry that is no event. -/
theorem cons (chronicle : Chronicle sink past milestones) (entry : Entry T)
    (noEvent : entry.event? = none) :
    Chronicle sink (entry :: past) (milestones ++ entry.milestone?.toList) where
  read := by
    rw [List.foldr_cons, chronicle.read, Entry.pass, noEvent]
    rfl
  events := by
    -- Only changes of state are milestones beside events.
    have nothing : entry.milestone?.toList.filterMap Milestone.event? = [] := by
      cases entry with
      | emitted event => cases noEvent
      | logged record => cases record <;> simp [Entry.milestone?, Milestone.event?]
      | _ => rfl
    have none : Journal.events [entry] = [] := by simp [Journal.events, noEvent]
    rw [List.reverse_cons, Journal.events_append, none, chronicle.events, List.filterMap_append,
      nothing]

/-- One more entry that is no milestone. -/
theorem skip (chronicle : Chronicle sink past milestones) (entry : Entry T)
    (quiet : entry.milestone? = none) : Chronicle sink (entry :: past) milestones := by
  have told := chronicle.cons entry (Entry.event?_of_milestone? quiet)
  rwa [quiet, Option.toList_none, List.append_nil] at told

/-- More entries that are no milestones. -/
theorem append (chronicle : Chronicle sink past milestones) {later : List (Entry T)}
    (quiet : ∀ entry ∈ later, entry.milestone? = none) :
    Chronicle sink (later ++ past) milestones := by
  induction later with
  | nil => exact chronicle
  | cons entry rest ih =>
    have before := ih fun other member => quiet other (List.mem_cons_of_mem _ member)
    exact before.skip entry (quiet entry List.mem_cons_self)

/-- **An event**, with what the sink writes into the log about it. -/
theorem emit (chronicle : Chronicle sink past milestones) (event : Event) :
    Chronicle sink
      (((sink.records event).map (Entry.logged (T := T))).reverse ++ .emitted event :: past)
      (milestones ++ [.event event]) where
  read := by
    have passed := Entry.foldr_pass sink ((sink.records event).map (Entry.logged (T := T))).reverse
      0 (milestones ++ [.event event])
    rw [Nat.zero_add, List.length_reverse, List.length_map] at passed
    rw [List.foldr_append, List.foldr_cons, chronicle.read]
    exact passed
  events := by
    have noEvents : Journal.events ((sink.records event).map (Entry.logged (T := T))) = [] := by
      rw [Journal.events, List.filterMap_map]
      exact List.filterMap_eq_nil_iff.mpr fun _ _ => rfl
    rw [List.reverse_append, List.reverse_reverse, List.reverse_cons, Journal.events_append,
      Journal.events_append, noEvents, chronicle.events, List.append_nil, List.filterMap_append]
    rfl

end Chronicle

/-! ## (3) Parts of a step -/

/-- What the sink is told of an event, if events are wanted. -/
def Job.told (job : Job T η) (event : Event) : List Milestone :=
  if job.config.emitEvents then [.event event] else []

/-- The event that reports a run that has succeeded. -/
def RunSummary.completedEvent (summary : RunSummary) : Event :=
  ⟨Event.completedType, some summary.payload⟩

namespace Run

variable {job : Job T η} {run : Run T η} {milestones : List Milestone}

/-- **The milestones of a run**, with all its events among them. -/
def Chronicled (job : Job T η) (run : Run T η) (milestones : List Milestone) : Prop :=
  Chronicle job.sink run.past milestones

/-- Records go to the journal one after the other. -/
theorem past_foldl_record (run : Run T η) (records : List Log.Record) :
    (records.foldl record run).past = (records.map Entry.logged).reverse ++ run.past := by
  induction records generalizing run with
  | nil => rfl
  | cons first rest ih =>
    rw [List.foldl_cons, ih, List.map_cons, List.reverse_cons, List.append_assoc]
    rfl

namespace Chronicled

/-- The milestones read off the journal are those of the chronicle. -/
theorem milestones_eq (chronicled : Chronicled job run milestones) :
    run.milestones job = milestones := congrArg Prod.snd chronicled.read

/-- The events of the journal are those of the chronicle. -/
theorem events_eq (chronicled : Chronicled job run milestones) :
    Journal.events run.journal = milestones.filterMap Milestone.event? := chronicled.events

/-- Records other than of a change of state are no milestones. -/
theorem record (chronicled : Chronicled job run milestones) (record : Log.Record)
    (quiet : (Entry.logged (T := T) record).milestone? = none) :
    Chronicled job (run.record record) milestones :=
  Chronicle.skip chronicled (.logged record) quiet

/-- A change of state is a milestone. -/
theorem become (chronicled : Chronicled job run milestones) (next : RunState) :
    Chronicled job (run.become next) (milestones ++ [.change run.state next]) :=
  Chronicle.cons chronicled (.logged (.transition run.state next)) rfl

/-- An event is a milestone, if events are wanted. -/
theorem emit (chronicled : Chronicled job run milestones) (event : Event) :
    Chronicled job (run.emit job event) (milestones ++ job.told event) := by
  unfold Chronicled Run.emit Job.told
  by_cases wanted : job.config.emitEvents = true
  · rw [if_pos wanted, if_pos wanted, past_foldl_record]
    exact Chronicle.emit chronicled event
  · rw [if_neg wanted, if_neg wanted, List.append_nil]
    exact chronicled

/-- The start of a run is told. -/
theorem announce (chronicled : Chronicled job run milestones) :
    Chronicled job (run.announce job) (milestones ++ job.told (startedEvent job)) :=
  (chronicled.emit (startedEvent job)).record _ rfl

/-- **Success** is a change of state, which is told. -/
theorem succeed (chronicled : Chronicled job run milestones) :
    Chronicled job (run.succeed job) (milestones ++
      .change run.state .terminated :: job.told (run.summary job).completedEvent) := by
  have ended := (chronicled.become .terminated).record (.completed job.runId job.pipeline.name
    run.steps run.responsesDelivered job.durationMs) rfl
  have told := ended.emit (run.summary job).completedEvent
  rw [List.append_assoc] at told
  exact told

/-- **Failure** is a change of state, which is told. -/
theorem fail (chronicled : Chronicled job run milestones) (error : RunError) :
    Chronicled job (run.fail job error) (milestones ++
      .change run.state .failed :: job.told (failedEvent job run error)) := by
  have dropped : Chronicled job { run.become .failed with flight := none }
      (milestones ++ [.change run.state .failed]) := chronicled.become .failed
  have ended := dropped.record (.failed job.runId job.pipeline.name run.steps error) rfl
  have told := ended.emit (failedEvent job run error)
  rw [List.append_assoc] at told
  exact told

/-- **A poll passes no milestone**: neither callbacks nor the caller's handler set any. -/
theorem afterPoll (chronicled : Chronicled job run milestones) (index : Nat) {stage : Stage T}
    {scene : Callback.Scene T} {acts : List (Entry T)}
    (acted : Callback.Scene.Acted ⟨stage, run.memory, run.past⟩ scene acts) :
    Chronicled job (run.afterPoll job index scene) milestones := by
  have poll : Chronicle job.sink scene.past milestones := by
    rw [acted.past]
    apply Chronicle.append chronicled
    intro entry member
    have isAct := acted.areActs entry member
    cases entry with
    | logged record => cases record <;> simp_all [Entry.isActAt, Entry.milestone?]
    | emitted => simp [Entry.isActAt] at isAct
    | _ => rfl
  apply Chronicle.append poll
  intro entry member
  obtain ⟨verdict, -, rfl⟩ := List.mem_map.mp (List.mem_reverse.mp member)
  rfl

/-- Nor does the end of a callback. -/
theorem settled (chronicled : Chronicled job run milestones) (flight : Flight T)
    (result : Except Failure Unit) : Chronicled job (run.settled flight result) milestones :=
  Chronicle.skip chronicled (.returned flight.slot.stage result) rfl

/-- Nor its start. -/
theorem opened (chronicled : Chronicled job run milestones) (slot : Slot)
    (processor : Processor T) (message : Message T) (rest : Stage T) :
    Chronicled job (run.opened slot processor message rest) milestones := by
  have recorded := Chronicle.skip chronicled
    (.logged (dispatchRecord slot.stage processor.name message)) (by cases message <;> rfl)
  exact recorded.skip (.called (rest.callFor slot.stage message)) rfl

/-- Nor does the way of a message; the state stays. -/
theorem routeOne (chronicled : Chronicled job run milestones) (stage : Nat)
    (message : Outgoing T) :
    Chronicled job (run.routeOne job stage message).2 milestones ∧
      (run.routeOne job stage message).2.state = run.state := by
  cases message with
  | request request => exact ⟨chronicled, rfl⟩
  | response reply =>
    by_cases notFirst : 0 < stage
    · simp only [Run.routeOne, notFirst, if_true]
      exact ⟨chronicled, rfl⟩
    · cases reply with
      | item item =>
        rcases handled : job.handler.handle run.received item with ⟨received, result⟩
        have offered : Chronicled job (run.log (.offered item result)) milestones :=
          Chronicle.skip chronicled (.offered item result) rfl
        simp only [Run.routeOne, notFirst, if_false, handled]
        cases result <;> exact ⟨offered, rfl⟩
      | eop =>
        simp only [Run.routeOne, notFirst, if_false]
        exact ⟨chronicled.record _ rfl, rfl⟩

/-- Nor do the ways of several messages. -/
theorem routeAll (chronicled : Chronicled job run milestones) (stage : Nat)
    (sent : List (Outgoing T)) :
    Chronicled job (run.routeAll job stage sent).2 milestones ∧
      (run.routeAll job stage sent).2.state = run.state := by
  induction sent generalizing run with
  | nil => exact ⟨chronicled, rfl⟩
  | cons message rest ih =>
    obtain ⟨one, same⟩ := chronicled.routeOne stage message
    rw [Run.routeAll]
    rcases routed : run.routeOne job stage message with ⟨_ | _, next⟩
    · rw [routed] at one same
      exact ⟨one, same⟩
    · rw [routed] at one same
      obtain ⟨others, still⟩ := ih one
      exact ⟨others, still.trans same⟩

/-- **Routing what a stage has sent** lets the run choose again, which is a change of state. -/
theorem route (chronicled : Chronicled job run milestones) {stage : Nat}
    (goesOn : (run.route job stage).state = .running) :
    Chronicled job (run.route job stage) (milestones ++ [.change run.state .running]) := by
  have cleared : Chronicled job (run.modifyStage stage (·.clearOutbox)) milestones := chronicled
  obtain ⟨routed, same⟩ := cleared.routeAll stage ((run.stages[stage]?.map (·.outbox)).getD [])
  rcases result : (run.modifyStage stage (·.clearOutbox)).routeAll job stage
    ((run.stages[stage]?.map (·.outbox)).getD []) with ⟨error | _, next⟩
  · simp only [Run.route, result] at goesOn
    cases (state_fail job next error).symm.trans goesOn
  · rw [result] at routed same
    have running := routed.become .running
    simp only [Run.route, result]
    rwa [show next.state = run.state from same] at running

end Chronicled

end Run

end Relay
