import Mathlib.Data.List.Induction
import Mathlib.Logic.Function.Basic
import Relay.Fleet
import Relay.Proofs.Fleet.Confined
import Relay.Proofs.PassThrough.Invisible
import Relay.Proofs.Pauses.Immaterial
import Relay.Proofs.Run.Growth

/-!
# Runs side by side do not meet

Runs that are polled in turn share the processors, what these remember, the notes and the event
sink. If the processors are confined, then each run goes exactly as it goes alone, polled as often,
and its own part of what the runs have in common is what it leaves behind alone.

* `Run.pollToEnd_succ` counts one more poll of a run alone.
* `Fleet.Separate` says where a fleet is after some polls, and `Fleet.separate_pollAll` that every
  order of polls leads there.
* `Fleet.runs_are_separate` is the result.
-/

namespace Relay

open Processor (CallRecord)

variable {T : Traffic} {η : Type}

/-! ## (1) A run alone -/

namespace Run

variable {job : Job T η} {run : Run T η}

/-- **One more poll**, unless the run has come to its end before. -/
theorem pollToEnd_succ (job : Job T η) (fuel polls : Nat) (unfinished : run.isFinished = false) :
    run.pollToEnd job fuel (polls + 1) =
      let before := run.pollToEnd job fuel polls
      if before.1.isFinished then before else (before.1.poll job fuel, before.2 + 1) := by
  induction polls generalizing run with
  | zero =>
    simp only [pollToEnd, unfinished, Bool.false_eq_true, if_false, Nat.zero_add]
    split <;> rfl
  | succ polls ih =>
    rw [pollToEnd]
    cases ends : (run.poll job fuel).isFinished with
    | true => simp only [pollToEnd, ends, if_true]
    | false =>
      rw [ih ends]
      simp only [pollToEnd, ends, Bool.false_eq_true, if_false]
      split <;> rfl

/-- **A run that has come to its end** within a number of polls is not polled any more. -/
theorem pollToEnd_of_isFinished {fuel polls more : Nat} (unfinished : run.isFinished = false)
    (ends : (run.pollToEnd job fuel polls).1.isFinished = true) (le : polls ≤ more) :
    run.pollToEnd job fuel more = run.pollToEnd job fuel polls := by
  induction more, le using Nat.le_induction with
  | base => rfl
  | succ more _ ih =>
    rw [pollToEnd_succ job fuel more unfinished, ih]
    simp only [ends, if_true]

/-- Polls only add to the journal. -/
theorem exists_news_poll (sound : Sound job run) (fuel : Nat) :
    ∃ news, (run.poll job fuel).past = news ++ run.past := by
  have grows (n : Nat) : ∃ news, (run.after job n).past = news ++ run.past := by
    induction n with
    | zero => exact ⟨[], rfl⟩
    | succ n ih =>
      obtain ⟨early, before⟩ := ih
      obtain ⟨late, step⟩ := exists_news (sound.after n)
      exact ⟨late ++ early, by rw [after, step, before, List.append_assoc]⟩
  obtain ⟨n, polled⟩ := run.poll_eq_after job fuel
  rw [polled]
  exact grows n

end Run

section

variable {record? : T.Note → Option CallRecord} {starts : List (Job T η × η)} {memory : T.Memory}
  {fuel : Nat} {fleet : Fleet T η} {start : Job T η × η}

namespace Member

/-- **The member that a start comes to alone**, with at most a number of polls. -/
def alone (fuel : Nat) (memory : T.Memory) (start : Job T η × η) (polls : Nat) : Member T η :=
  let solo := (Run.seed start.1 start.2 memory).pollToEnd start.1 fuel polls
  ⟨start.1, solo.1, solo.2⟩

/-- Alone, a run that has come to its end is not polled any more. -/
theorem alone_succ_of_isFinished {polls : Nat}
    (ends : (alone fuel memory start polls).run.isFinished = true) :
    alone fuel memory start (polls + 1) = alone fuel memory start polls := by
  have still : (Run.seed start.1 start.2 memory).pollToEnd start.1 fuel (polls + 1) =
      (Run.seed start.1 start.2 memory).pollToEnd start.1 fuel polls :=
    Run.pollToEnd_of_isFinished rfl ends (Nat.le_succ polls)
  simp only [alone, still]

/-- Alone, a run that goes on is polled once more. -/
theorem alone_succ_of_unfinished {polls : Nat}
    (goesOn : (alone fuel memory start polls).run.isFinished = false) :
    alone fuel memory start (polls + 1) =
      ⟨start.1, (alone fuel memory start polls).run.poll start.1 fuel,
        (alone fuel memory start polls).polls + 1⟩ := by
  have more := Run.pollToEnd_succ start.1 fuel polls
    (show (Run.seed start.1 start.2 memory).isFinished = false from rfl)
  have unfinished : ((Run.seed start.1 start.2 memory).pollToEnd start.1 fuel
    polls).1.isFinished = false := goesOn
  simp only [alone, more, unfinished, Bool.false_eq_true, if_false]

/-- Alone, a run with confined processors stays sound and to itself. -/
theorem confined_alone (confined : ∀ processor ∈ start.1.pipeline.processors,
    processor.IsConfined record?) (fuel : Nat) (memory : T.Memory) (polls : Nat) :
    Run.Sound start.1 (alone fuel memory start polls).run ∧
      Run.Confined record? start.1 memory (alone fuel memory start polls).run := by
  obtain ⟨n, same⟩ := Run.pollToEnd_eq_after start.1 fuel polls (Run.seed start.1 start.2 memory)
  have isAfter : (alone fuel memory start polls).run =
    (Run.seed start.1 start.2 memory).after start.1 n := same
  rw [isAfter]
  exact ⟨Run.sound_after start.1 start.2 memory n, Run.confined_after confined start.2 memory n⟩

end Member

namespace Fleet

/-! ## (2) Polls of a fleet -/

/-- **One more poll of a run that is where it is alone** takes it to where it is alone after one more
poll; the chronicle gets what its journal gets, and what the processors remember stays. -/
theorem pollAt_eq {polls index : Nat}
    (confined : ∀ processor ∈ start.1.pipeline.processors, processor.IsConfined record?)
    (sameMemory : fleet.memory = memory)
    (isMember : fleet.members[index]? = some (Member.alone fuel memory start polls)) :
    ∃ news,
      (Member.alone fuel memory start (polls + 1)).run.past =
        news ++ (Member.alone fuel memory start polls).run.past ∧
      fleet.pollAt fuel index =
        { members := fleet.members.set index (Member.alone fuel memory start (polls + 1))
          memory
          past := news.map (fun entry => (index, entry)) ++ fleet.past } := by
  cases ends : (Member.alone fuel memory start polls).run.isFinished with
  | true =>
    refine ⟨[], ?_, ?_⟩
    · rw [Member.alone_succ_of_isFinished ends, List.nil_append]
    · obtain ⟨within, isAt⟩ := List.getElem?_eq_some_iff.mp isMember
      have unchanged : fleet.members.set index (Member.alone fuel memory start (polls + 1)) =
          fleet.members := by
        rw [Member.alone_succ_of_isFinished ends, ← isAt, List.set_getElem_self]
      simp only [pollAt, isMember, ends, if_true]
      rw [unchanged, ← sameMemory]
      rfl
  | false =>
    obtain ⟨sound, before⟩ := Member.confined_alone confined fuel memory polls
    have after := (Member.confined_alone confined fuel memory (polls + 1)).2
    have later := Member.alone_succ_of_unfinished ends
    -- What the processors remember is what the run has found alone.
    have found : { (Member.alone fuel memory start polls).run with memory := fleet.memory } =
        (Member.alone fuel memory start polls).run := by
      rw [sameMemory.trans before.memory.symm]
    have polled : (Member.alone fuel memory start polls).poll fuel fleet.memory =
        Member.alone fuel memory start (polls + 1) := by
      rw [later, Member.poll, found]
      rfl
    obtain ⟨news, grown⟩ := Run.exists_news_poll sound fuel
    have grownAlone : (Member.alone fuel memory start (polls + 1)).run.past =
        news ++ (Member.alone fuel memory start polls).run.past := by
      rw [later]
      exact grown
    have isNews : (Member.alone fuel memory start polls).news
        (Member.alone fuel memory start (polls + 1)) = news := by
      rw [Member.news, grownAlone, List.length_append, Nat.add_sub_cancel, List.take_left]
    refine ⟨news, grownAlone, ?_⟩
    simp only [pollAt, isMember, ends, Bool.false_eq_true, if_false, polled, isNews, after.memory]

/-- A number that belongs to no run polls none. -/
theorem pollAt_of_none {index : Nat} (noMember : fleet.members[index]? = none) :
    fleet.pollAt fuel index = fleet := by
  simp only [pollAt, noMember]

/-- The part of the chronicle that is about one run, latest entry first. -/
def pastOf (fleet : Fleet T η) (index : Nat) : List (Entry T) :=
  (fleet.past.filter (·.1 = index)).map (·.2)

/-- **A fleet whose runs are separate**: each is where it is alone after as many polls, what the
processors remember is as it was, and the chronicle has the journal of each run. -/
structure Separate (starts : List (Job T η × η)) (memory : T.Memory) (fuel : Nat)
    (polls : Nat → Nat) (fleet : Fleet T η) : Prop where
  remembered : fleet.memory = memory
  members : ∀ index, fleet.members[index]? =
    starts[index]?.map fun start => Member.alone fuel memory start (polls index)
  past : ∀ index, fleet.pastOf index =
    (fleet.members[index]?.map fun member => member.run.past).getD []

/-- At the beginning the runs are separate. -/
theorem separate_ofStarts (starts : List (Job T η × η)) (memory : T.Memory) (fuel : Nat) :
    Separate starts memory fuel (fun _ => 0) (ofStarts starts memory) where
  remembered := rfl
  members index := by
    rw [ofStarts, List.getElem?_map]
    rfl
  past index := by
    rw [ofStarts, List.getElem?_map]
    cases starts[index]? <;> rfl

/-- **One more poll of one run** keeps the runs separate. -/
theorem Separate.pollAt {polls : Nat → Nat}
    (confined : ∀ start ∈ starts, ∀ processor ∈ start.1.pipeline.processors,
      processor.IsConfined record?)
    (separate : Separate starts memory fuel polls fleet) (index : Nat) :
    Separate starts memory fuel (Function.update polls index (polls index + 1))
      (fleet.pollAt fuel index) := by
  have member := separate.members index
  cases isStart : starts[index]? with
  | none =>
    rw [isStart, Option.map_none] at member
    rw [pollAt_of_none member]
    refine ⟨separate.remembered, fun other => ?_, separate.past⟩
    rw [separate.members]
    by_cases here : other = index
    · rw [here, isStart, Option.map_none, Option.map_none]
    · rw [Function.update_of_ne here]
  | some start =>
    rw [isStart, Option.map_some] at member
    obtain ⟨news, grown, polled⟩ :=
      pollAt_eq (confined start (List.mem_of_getElem? isStart)) separate.remembered member
    have within : index < fleet.members.length := (List.getElem?_eq_some_iff.mp member).1
    have others {other : Nat} (elsewhere : other ≠ index) :=
      members_pollAt_of_ne fuel fleet (Ne.symm elsewhere)
    rw [polled] at others ⊢
    refine ⟨rfl, fun other => ?members, fun other => ?past⟩
    case members =>
      by_cases here : other = index
      · subst here
        rw [List.getElem?_set_self within, isStart, Function.update_self, Option.map_some]
      · rw [others here, separate.members, Function.update_of_ne here]
    case past =>
      have before := separate.past other
      simp only [pastOf, List.filter_append, List.map_append] at before ⊢
      by_cases here : other = index
      · subst here
        rw [before, member, List.getElem?_set_self within, Option.map_some, Option.map_some,
          Option.getD_some, Option.getD_some, grown]
        simp [List.filter_map, Function.comp_def]
      · rw [before, others here]
        simp [List.filter_map, Function.comp_def, Ne.symm here]

/-- **In whatever order runs are polled**, they stay separate. -/
theorem separate_pollAll (confined : ∀ start ∈ starts, ∀ processor ∈ start.1.pipeline.processors,
      processor.IsConfined record?) (memory : T.Memory) (fuel : Nat) (order : List Nat) :
    Separate starts memory fuel order.count ((ofStarts starts memory).pollAll fuel order) := by
  induction order using List.reverseRecOn with
  | nil => exact separate_ofStarts starts memory fuel
  | append_singleton order index ih =>
    have counts : (order ++ [index]).count = Function.update order.count index
        (order.count index + 1) := by
      funext other
      by_cases here : other = index
      · rw [here, Function.update_self, List.count_append, List.count_singleton_self]
      · rw [Function.update_of_ne here, List.count_append, List.count_singleton]
        simp [Ne.symm here]
    rw [pollAll, List.foldl_append, ← pollAll, counts]
    exact ih.pollAt confined index

/-! ## (3) What the runs have in common -/

/-- **Every entry of the chronicle** names no run but its own. -/
theorem Separate.isOf {polls : Nat → Nat}
    (confined : ∀ start ∈ starts, ∀ processor ∈ start.1.pipeline.processors,
      processor.IsConfined record?)
    (separate : Separate starts memory fuel polls fleet) {told : Nat × Entry T}
    (member : told ∈ fleet.past) :
    ∃ start, starts[told.1]? = some start ∧ told.2.IsOf record? start.1.runId := by
  have inPart : told.2 ∈ fleet.pastOf told.1 :=
    List.mem_map_of_mem (List.mem_filter.mpr ⟨member, decide_eq_true rfl⟩)
  rw [separate.past, separate.members] at inPart
  cases isStart : starts[told.1]? with
  | none =>
    rw [isStart] at inPart
    cases inPart
  | some start =>
    rw [isStart] at inPart
    have own := (Member.confined_alone (confined start (List.mem_of_getElem? isStart)) fuel memory
      (polls told.1)).2
    exact ⟨start, rfl, own.past told.2 inPart⟩

/-- **What is told of one run** is found in its part of a chronicle, if nothing else tells of it. -/
theorem filter_filterMap_eq {α : Type} {tell : Entry T → Option α} {isOf : α → Bool}
    {chronicle : List (Nat × Entry T)} {index : Nat}
    (own : ∀ told ∈ chronicle, ∀ a, tell told.2 = some a → (isOf a = true ↔ told.1 = index)) :
    ((chronicle.map (·.2)).filterMap tell).filter isOf =
      ((chronicle.filter (·.1 = index)).map (·.2)).filterMap tell := by
  rw [List.filterMap_map, List.filterMap_map, List.filter_filterMap, List.filterMap_filter]
  refine List.filterMap_congr fun told member => ?_
  cases isTold : tell told.2 with
  | none => simp [isTold]
  | some a =>
    have iff := own told member a isTold
    by_cases here : told.1 = index
    · simp [isTold, here, iff.mpr here]
    · simp [isTold, here, mt iff.mp here]

/-- **Concurrent runs do not influence each other.** Runs of confined processors are polled in
whatever order. Each of them is where it is alone, under the same identifier and after as many
polls, up to its end, which it reaches after as many polls as alone: state and outcome, what its
handler remembers, and its whole journal with every callback in it. Its part of the chronicle is its
journal alone; and so, if no two runs have the same identifier, are the records of calls among all
notes that name the run, and the events that tell of it. -/
theorem runs_are_separate
    (confined : ∀ start ∈ starts, ∀ processor ∈ start.1.pipeline.processors,
      processor.IsConfined record?)
    (distinct : (starts.map fun start => start.1.runId).Nodup) (memory : T.Memory) (fuel : Nat)
    (order : List Nat) {index : Nat} {job : Job T η} {received : η}
    (isStart : starts[index]? = some (job, received)) :
    let fleet := (ofStarts starts memory).pollAll fuel order
    let shared := fleet.chronicle.map (·.2)
    let solo := (Run.seed job received memory).pollToEnd job fuel
    let own := (solo (order.count index)).1.journal
    fleet.members[index]? =
      some ⟨job, (solo (order.count index)).1, (solo (order.count index)).2⟩ ∧
    (∀ polls, (solo polls).1.isFinished = true → polls ≤ order.count index →
      solo (order.count index) = solo polls) ∧
    (fleet.chronicle.filter (·.1 = index)).map (·.2) = own ∧
    ((Journal.notes shared).filterMap record?).filter (·.runId = job.runId) =
      (Journal.notes own).filterMap record? ∧
    (Journal.events shared).filter (·.runId? = some job.runId.text) = Journal.events own := by
  intro fleet shared solo own
  have separate : Separate starts memory fuel order.count fleet :=
    separate_pollAll confined memory fuel order
  have isMember : fleet.members[index]? =
      some ⟨job, (solo (order.count index)).1, (solo (order.count index)).2⟩ := by
    rw [separate.members, isStart]
    rfl
  have part : (fleet.chronicle.filter (·.1 = index)).map (·.2) = own := by
    have past := separate.past index
    rw [isMember, Option.map_some, Option.getD_some] at past
    rw [chronicle, List.filter_reverse, List.map_reverse, ← pastOf, past]
    rfl
  -- Whose an entry is, is known from the identifier that it names.
  have named : ∀ told ∈ fleet.chronicle, ∃ start : Job T η × η,
      told.2.IsOf record? start.1.runId ∧ (start.1.runId = job.runId ↔ told.1 = index) := by
    intro told member
    obtain ⟨start, isTold, isOf⟩ := separate.isOf confined (List.mem_reverse.mp member)
    refine ⟨start, isOf, fun same => ?_, fun same => ?_⟩
    · obtain ⟨within, -⟩ := List.getElem?_eq_some_iff.mp isTold
      refine (List.getElem?_inj (by simpa using within) distinct).mp ?_
      rw [List.getElem?_map, List.getElem?_map, isTold, isStart]
      exact congrArg some same
    · rw [same, isStart] at isTold
      rw [← Option.some.inj isTold]
  refine ⟨isMember, fun polls ends le => Run.pollToEnd_of_isFinished rfl ends le, part, ?_, ?_⟩
  · have split (journal : List (Entry T)) : (Journal.notes journal).filterMap record? =
        journal.filterMap fun entry => entry.note?.bind record? := List.filterMap_filterMap
    rw [split, split, ← part]
    refine filter_filterMap_eq fun told member record isRecord => ?_
    obtain ⟨start, isOf, iff⟩ := named told member
    obtain ⟨note, isNote, recorded⟩ := Option.bind_eq_some_iff.mp isRecord
    have names : record.runId = start.1.runId := by
      cases entry : told.2 <;> rw [entry] at isOf isNote <;> cases isNote
      exact isOf record recorded
    rw [decide_eq_true_iff, names, iff]
  · rw [Journal.events, Journal.events, ← part]
    refine filter_filterMap_eq fun told member event isEvent => ?_
    obtain ⟨start, isOf, iff⟩ := named told member
    have names : event.runId? = some start.1.runId.text := by
      cases entry : told.2 <;> rw [entry] at isOf isEvent <;> cases isEvent
      exact isOf
    rw [decide_eq_true_iff, names, Option.some.injEq, RunId.text_inj, iff]

end Fleet

end

/-! ## (4) Two runs of one pipeline -/

/-- A processor that forwards everything is confined. -/
theorem Processor.isConfined_passThrough (record? : T.Note → Option CallRecord) (name : String) :
    (Processor.passThrough name : Processor T).IsConfined record? := by
  intro id message
  cases message with
  | request request => rintro (_ | _) <;> trivial
  | response reply => trivial

/-- A pipeline for numbers that notes down its calls. -/
@[reducible] def watched : Traffic where
  Request := Nat
  Response := Nat
  Kind := Empty
  Value := nofun
  Note := CallRecord

/-- **A job for two stages with a call log**: the first one forwards everything, and the last one
pauses and then answers each request with the same two items. -/
def errand (bits : BitVec 128) : Job watched (List Nat) where
  pipeline :=
    { name := "errand"
      processors :=
        [.recording id (.passThrough "front"),
          .recording id (.hesitant (.terminal (fun item => .nat item) "back" [1, 2]))]
      metadata := {}
      name_not_blank := by decide
      processors_ne_nil := by simp }
  request := (0 : Nat)
  handler := .collecting
  runId := ⟨bits⟩
  startedAt := ⟨⟨2024, 1, 1⟩, 0, 0⟩
  durationMs := 0

/-- The processors of an errand are confined. -/
theorem isConfined_errand (bits : BitVec 128) : ∀ processor ∈ (errand bits).pipeline.processors,
    processor.IsConfined (some : CallRecord → Option CallRecord) := by
  intro processor member
  rcases List.mem_pair.mp member with rfl | rfl
  · refine Processor.IsConfined.recording ?_ _ fun _ => rfl
    exact Processor.isConfined_passThrough _ "front"
  · refine Processor.IsConfined.recording (fun _ message => ?_) _ fun _ => rfl
    cases message <;> simp [Processor.hesitant, Processor.terminal, Processor.handle,
      Callback.Confined, Callback.sendItems, Callback.sendEop, Callback.send, Callback.nothing]

/-- Two errands, polled in turn, and the first one of them as alone. -/
theorem errands_are_separate :
    let starts := [(errand 1, []), (errand 2, [])]
    let fleet := (Fleet.ofStarts starts ()).pollAll 40 [1, 0, 0, 1, 1]
    let solo := (Run.seed (errand 1) [] ()).pollToEnd (errand 1) 40 2
    (starts.map fun start => start.1.runId).Nodup ∧
    fleet.members[0]? = some ⟨errand 1, solo.1, solo.2⟩ ∧ solo.1.isFinished = true ∧
    (fleet.chronicle.filter (·.1 = 0)).map (·.2) = solo.1.journal := by
  intro starts fleet solo
  have confined : ∀ start ∈ starts, ∀ processor ∈ start.1.pipeline.processors,
      processor.IsConfined (some : CallRecord → Option CallRecord) := by
    intro start member
    rcases List.mem_pair.mp member with rfl | rfl
    · exact isConfined_errand 1
    · exact isConfined_errand 2
  have distinct : (starts.map fun start => start.1.runId).Nodup := by decide
  obtain ⟨isMember, -, part, -⟩ := Fleet.runs_are_separate confined distinct () 40 [1, 0, 0, 1, 1]
    (show starts[0]? = some (errand 1, []) from rfl)
  exact ⟨distinct, isMember, by rfl, part⟩

end Relay
