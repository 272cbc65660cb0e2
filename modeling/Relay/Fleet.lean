import Relay.Run

/-!
# Several runs at once

Runs that are polled in turn by one caller. The processors are there once for all of them, and so is
what these remember outside their stages; else the runs share nothing but the order of time. The
chronicle of a fleet holds the entries of all journals in the order in which they were made, each
with the number of its run.
-/

namespace Relay

variable {T : Traffic} {η : Type}

/-- **A member of a fleet**: a job, the run of it, and how often the run has been polled. -/
structure Member (T : Traffic) (η : Type) where
  job : Job T η
  run : Run T η
  polls : Nat := 0

/-- **A fleet**: its members, what the processors remember by now, and the entries of all journals,
latest first. -/
structure Fleet (T : Traffic) (η : Type) where
  members : List (Member T η)
  memory : T.Memory
  past : List (Nat × Entry T) := []

namespace Member

/-- The member after one more poll of its run, which finds what the processors remember. -/
def poll (fuel : Nat) (memory : T.Memory) (member : Member T η) : Member T η :=
  { member with
    run := { member.run with memory }.poll member.job fuel
    polls := member.polls + 1 }

/-- The entries that `later` has and `earlier` has not, latest first. -/
def news (earlier later : Member T η) : List (Entry T) :=
  later.run.past.take (later.run.past.length - earlier.run.past.length)

end Member

namespace Fleet

/-- **The fleet of runs at their beginning**, each with what its own handler remembers. -/
def ofStarts (starts : List (Job T η × η)) (memory : T.Memory) : Fleet T η where
  members := starts.map fun (job, received) => ⟨job, Run.seed job received memory, 0⟩
  memory

/-- The fleet of runs whose handlers all remember the same at their beginning. -/
def ofJobs (jobs : List (Job T η)) (received : η) (memory : T.Memory) : Fleet T η :=
  ofStarts (jobs.map fun job => (job, received)) memory

/-- **The chronicle of a fleet**, in order. -/
def chronicle (fleet : Fleet T η) : List (Nat × Entry T) := fleet.past.reverse

/-- Whether all runs have come to their end. -/
def isFinished (fleet : Fleet T η) : Bool := fleet.members.all (·.run.isFinished)

/-- **Polling one run** of a fleet, if it has not come to its end. -/
def pollAt (fuel : Nat) (fleet : Fleet T η) (index : Nat) : Fleet T η :=
  match fleet.members[index]? with
  | none => fleet
  | some member =>
    if member.run.isFinished then fleet
    else
      let later := member.poll fuel fleet.memory
      { members := fleet.members.set index later
        memory := later.run.memory
        past := (member.news later).map (fun entry => (index, entry)) ++ fleet.past }

/-- Polling one run leaves the others as they are. -/
theorem members_pollAt_of_ne (fuel : Nat) (fleet : Fleet T η) {index other : Nat}
    (h : index ≠ other) : (fleet.pollAt fuel index).members[other]? = fleet.members[other]? := by
  unfold pollAt
  split
  · rfl
  · split
    · rfl
    · exact List.getElem?_set_ne h

/-- Polling runs in a given order. -/
def pollAll (fuel : Nat) (fleet : Fleet T η) (order : List Nat) : Fleet T η :=
  order.foldl (pollAt fuel) fleet

/-- Polling one run until it has come to its end. -/
def finishAt (fuel : Nat) (index : Nat) : (polls : Nat) → Fleet T η → Fleet T η
  | 0, fleet => fleet
  | polls + 1, fleet =>
    match fleet.members[index]? with
    | none => fleet
    | some member =>
      if member.run.isFinished then fleet else finishAt fuel index polls (fleet.pollAt fuel index)

/-- **One run after the other.** -/
def finishInTurn (fuel : Nat) (fleet : Fleet T η) : Fleet T η :=
  (List.range fleet.members.length).foldl (fun fleet index => finishAt fuel index fuel fleet) fleet

/-- **In rounds**: each round polls every run that has not come to its end, in order. -/
def finishInRounds (fuel : Nat) : (rounds : Nat) → Fleet T η → Fleet T η
  | 0, fleet => fleet
  | rounds + 1, fleet =>
    if fleet.isFinished then fleet
    else finishInRounds fuel rounds (fleet.pollAll fuel (List.range fleet.members.length))

end Fleet

end Relay
