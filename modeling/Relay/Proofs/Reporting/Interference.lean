import Relay.Proofs.Fleet.Separate
import Relay.Proofs.Run.Course

/-!
# Runs with other runs beside them

Processors may remember things outside their stages, and then a run that is polled in turn with
others finds something else remembered at each poll. What a run tells does not depend on that: its
states are sound and on course whatever is remembered when it goes on.

* `Run.Reached` are the states that a run can come to beside others; `Run.Reached.sound` and
  `Run.Reached.course` say what holds of them.
* `Fleet.mixed_pollAll` says that the runs of a fleet only come to such states, whatever their
  processors do, and that the chronicle of the fleet has the journal of each of them.
-/

namespace Relay

variable {T : Traffic} {η : Type}

namespace Run

variable {job : Job T η} {run : Run T η}

/-! ## (1) Runs that find something else remembered -/

/-- **The states that a run can come to** when what processors remember is changed from outside. -/
inductive Reached (job : Job T η) : Run T η → Prop where
  | seed (received : η) (memory : T.Memory) : Reached job (seed job received memory)
  | step {run : Run T η} (before : Reached job run) : Reached job (run.step job)
  | remember {run : Run T η} (before : Reached job run) (memory : T.Memory) :
      Reached job { run with memory }

/-- What is remembered plays no part in the course of a run. -/
theorem Course.remember {milestones : List Milestone} (course : Course job run milestones)
    (memory : T.Memory) : Course job { run with memory } milestones := by
  have still : Stride job run { run with memory } [] := .still rfl rfl rfl rfl rfl
  have stays := course.step still
  rwa [List.append_nil] at stays

namespace Reached

/-- **Whatever is remembered, a run stays sound.** -/
theorem sound (reached : Reached job run) : Sound job run := by
  induction reached with
  | seed received memory => exact sound_seed job received memory
  | step _ ih => exact sound_step ih
  | remember _ memory ih => exact ih.beside memory _

/-- **Whatever is remembered, a run stays on course.** -/
theorem course (reached : Reached job run) :
    ∃ milestones, Course job run milestones ∧ Chronicled job run milestones := by
  induction reached with
  | seed received memory => exact ⟨[], .seeded rfl rfl, Chronicle.nil job.sink⟩
  | step before ih =>
    obtain ⟨milestones, course, chronicled⟩ := ih
    obtain ⟨more, stride, later⟩ := stride_step before.sound chronicled
    exact ⟨milestones ++ more, course.step stride, later⟩
  | remember _ memory ih =>
    obtain ⟨milestones, course, chronicled⟩ := ih
    exact ⟨milestones, course.remember memory, chronicled⟩

/-- Several steps lead to such states. -/
theorem after (reached : Reached job run) (n : Nat) : Reached job (run.after job n) := by
  induction n with
  | zero => exact reached
  | succ n ih => exact ih.step

/-- Polls lead to such states. -/
theorem poll (reached : Reached job run) (fuel : Nat) : Reached job (run.poll job fuel) := by
  obtain ⟨n, polled⟩ := run.poll_eq_after job fuel
  rw [polled]
  exact reached.after n

end Reached

end Run

/-! ## (2) Fleets of whatever processors -/

namespace Fleet

variable {fleet : Fleet T η}

/-- **A fleet whose runs may influence each other** through what processors remember: each run is in
a state that it can come to, and the chronicle has the journal of each. -/
structure Mixed (fleet : Fleet T η) : Prop where
  reached : ∀ {index : Nat} {member : Member T η}, fleet.members[index]? = some member →
    Run.Reached member.job member.run
  past : ∀ {index : Nat} {member : Member T η}, fleet.members[index]? = some member →
    fleet.pastOf index = member.run.past

/-- Fleets begin so. -/
theorem mixed_ofStarts (starts : List (Job T η × η)) (memory : T.Memory) :
    Mixed (ofStarts starts memory) where
  reached := by
    intro index member isMember
    rw [ofStarts, List.getElem?_map] at isMember
    obtain ⟨start, -, rfl⟩ := Option.map_eq_some_iff.mp isMember
    exact .seed start.2 memory
  past := by
    intro index member isMember
    rw [ofStarts, List.getElem?_map] at isMember
    obtain ⟨start, -, rfl⟩ := Option.map_eq_some_iff.mp isMember
    rfl

/-- **One more poll of one run** adds to the journal of this run what it adds to the chronicle. -/
theorem Mixed.pollAt (mixed : Mixed fleet) (fuel index : Nat) :
    Mixed (fleet.pollAt fuel index) := by
  unfold Fleet.pollAt
  split
  next => exact mixed
  next member isMember =>
    split
    next => exact mixed
    next =>
      have reached := (mixed.reached isMember).remember fleet.memory
      have within : index < fleet.members.length := (List.getElem?_eq_some_iff.mp isMember).1
      obtain ⟨news, grown⟩ := Run.exists_news_poll reached.sound fuel
      have grownHere : (member.poll fuel fleet.memory).run.past = news ++ member.run.past := grown
      have isNews : member.news (member.poll fuel fleet.memory) = news := by
        rw [Member.news, grownHere, List.length_append, Nat.add_sub_cancel, List.take_left]
      refine ⟨fun {other polled} isOther => ?reached, fun {other polled} isOther => ?past⟩
      case reached =>
        rcases getElem?_set_cases isOther with ⟨rfl, rfl⟩ | ⟨-, isOld⟩
        · exact reached.poll fuel
        · exact mixed.reached isOld
      case past =>
        simp only [pastOf, isNews, List.filter_append, List.map_append]
        rcases getElem?_set_cases isOther with ⟨rfl, rfl⟩ | ⟨elsewhere, isOld⟩
        · have before := mixed.past isMember
          rw [pastOf] at before
          rw [before, grownHere]
          simp [List.filter_map, Function.comp_def]
        · have before := mixed.past isOld
          rw [pastOf] at before
          rw [before]
          simp [List.filter_map, Function.comp_def, Ne.symm elsewhere]

/-- **In whatever order the runs of a fleet are polled**, each only comes to states that it can come
to beside others. -/
theorem mixed_pollAll (starts : List (Job T η × η)) (memory : T.Memory) (fuel : Nat)
    (order : List Nat) : Mixed ((ofStarts starts memory).pollAll fuel order) := by
  induction order using List.reverseRecOn with
  | nil => exact mixed_ofStarts starts memory
  | append_singleton order index ih =>
    rw [pollAll, List.foldl_append]
    exact ih.pollAt fuel index

end Fleet

end Relay
