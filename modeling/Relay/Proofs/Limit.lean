import Mathlib.Data.Nat.Find
import Relay.Proofs.Run.Offering
import Relay.Proofs.Run.Progress

/-!
# What a step limit does to a run

A limit is looked at in one place only: when a message has been found and the run is about to choose
it. So a run with a limit is the run without one, up to the moment when it would start one callback
too many; there it fails. It follows that every run with a limit ends, and that a higher limit makes
no difference to a run that has ended for another reason.

* `Run.AtLimit` says when a limit strikes, and `Run.step_limited` that it does nothing otherwise.
* `Run.Within` is the invariant of runs with a limit.
* `Run.limit_truncates` is the result.
-/

namespace Relay

variable {T : Traffic} {η : Type}

/-- **The job with another limit**, or with none. -/
def Job.withMaxSteps (job : Job T η) (maxSteps : Option UInt64) : Job T η :=
  { job with config := { job.config with maxSteps } }

namespace Run

variable {job : Job T η} {run next : Run T η} {limit : UInt64}

/-! ## (1) Steps under a limit -/

/-- **A run that is about to exceed a limit**: a message has been found, and as many callbacks have
come to their end as the limit allows. -/
def AtLimit (limit : Nat) (run : Run T η) : Prop :=
  run.state = .running ∧ run.eopReached = false ∧ (∃ slot, run.ready.next? = some slot) ∧
    limit ≤ run.steps

/-- No limit is looked at when a callback is started. -/
theorem start_withMaxSteps (job : Job T η) (maxSteps : Option UInt64) (run : Run T η)
    (slot : Slot) : run.start (job.withMaxSteps maxSteps) slot = run.start job slot := by
  have routes : ∀ (run : Run T η) sender,
      run.route (job.withMaxSteps maxSteps) sender = run.route job sender :=
    route_congr rfl fun _ _ => rfl
  simp only [start, routes]
  rfl

/-- Nor while it is polled. -/
theorem pollFlight_withMaxSteps (job : Job T η) (maxSteps : Option UInt64) (run : Run T η)
    (flight : Flight T) :
    run.pollFlight (job.withMaxSteps maxSteps) flight = run.pollFlight job flight := by
  have handler : (job.withMaxSteps maxSteps).handler = job.handler := rfl
  exact pollFlight_congr handler (fun _ _ => rfl) run flight

/-- **A limit does nothing to a run that is not about to exceed it.** -/
theorem step_limited (below : ¬ AtLimit limit.toNat run) :
    run.step (job.withMaxSteps (some limit)) = run.step (job.withMaxSteps none) := by
  rw [step_eq, step_eq]
  cases state : run.state with
  | seeded => rfl
  | terminated => rfl
  | failed => rfl
  | delivering =>
    simp only [pollFlight_withMaxSteps, start_withMaxSteps]
  | running =>
    cases eop : run.awake.eopReached with
    | true => simp only [choose_of_eop eop]; rfl
    | false =>
      cases found : run.ready.next? with
      | none => simp only [choose_none eop]; rfl
      | some slot =>
        -- A message has been found, so that it is the limit which is not reached.
        have more : ¬ limit.toNat ≤ run.steps := fun reached =>
          below ⟨state, eop, ⟨slot, found⟩, reached⟩
        have free : run.awake.limitReached (job.withMaxSteps (some limit)) = none := if_neg more
        have unlimited : run.awake.limitReached (job.withMaxSteps none) = none := rfl
        show run.awake.choose _ (some slot) = run.awake.choose _ (some slot)
        rw [choose_some eop free, choose_some eop unlimited]

/-- **A run that is about to exceed its limit** fails. -/
theorem step_of_atLimit (cut : AtLimit limit.toNat run) :
    run.step (job.withMaxSteps (some limit)) =
      run.awake.fail (job.withMaxSteps (some limit)) (.stepLimit limit.toNat) := by
  obtain ⟨running, eop, ⟨slot, found⟩, reached⟩ := cut
  have limitReached : run.awake.limitReached (job.withMaxSteps (some limit)) =
      some limit.toNat := if_pos reached
  have notOut : run.awake.eopReached = false := eop
  rw [step_of_running running, found, choose_of_limitReached notOut limitReached]

/-! ## (2) Runs under a limit -/

/-- **The run of a job under a limit**, or under none. -/
def under (job : Job T η) (maxSteps : Option UInt64) (received : η) (memory : T.Memory) (n : Nat) :
    Run T η :=
  (seed (job.withMaxSteps maxSteps) received memory).after (job.withMaxSteps maxSteps) n

/-- **The run stays within a limit**: so many turns at most, and one of them is still free when a
message has been chosen. -/
structure Within (limit : Nat) (run : Run T η) : Prop where
  length : run.turns.length ≤ limit
  chosen : run.state = .delivering → run.flight = none → run.turns.length < limit

/-- Where no turn is opened, a run stays within its limit. -/
theorem Within.of_length {limit : Nat} (within : Within limit run)
    (length : next.turns.length = run.turns.length)
    (busy : next.state = .delivering → next.flight ≠ none) : Within limit next :=
  ⟨length ▸ within.length, fun state idle => absurd idle (busy state)⟩

/-- **Moves stay within the limit.** -/
theorem within_of_move (sound : Sound (job.withMaxSteps (some limit)) run) (orderly : Orderly run)
    (within : Within limit.toNat run) (move : Move (job.withMaxSteps (some limit)) run next) :
    Within limit.toNat next := by
  have same : Turn.ofPast next.past = Turn.ofPast run.past →
      next.turns.length = run.turns.length := fun turns => congrArg (·.reverse.length) turns
  have failed : ∀ {mid : Run T η} (error : RunError), mid.turns.length = run.turns.length →
      Within limit.toNat (mid.fail (job.withMaxSteps (some limit)) error) := by
    intro mid error length
    obtain ⟨reports, isFailed⟩ := mid.fail_eq (job.withMaxSteps (some limit)) error
    refine within.of_length ?_ ?_
    · rw [Run.turns, ofPast_fail, ← Run.turns, length]
    · rw [isFailed]
      exact fun delivering => by cases delivering
  cases move with
  | announce state =>
    obtain ⟨reports, announced⟩ := run.announce_eq (job.withMaxSteps (some limit))
    refine within.of_length (same ?_) fun delivering => by cases delivering
    rw [announced, become_eq, reporting_reporting]
    exact Turn.ofPast_reports _ _
  | succeed state =>
    obtain ⟨reports, succeeded⟩ := run.succeed_eq (job.withMaxSteps (some limit))
    rw [succeeded]
    exact within.of_length (congrArg (·.reverse.length) (Turn.ofPast_reports reports run.past))
      fun delivering => by cases delivering
  | starve => exact failed _ rfl
  | exceed => exact failed _ rfl
  | choose slot state eop found free =>
    -- This is where the limit is looked at; between callbacks the steps are the turns.
    obtain ⟨outcome, flight, -⟩ := sound.atRest state (.inr rfl)
    have steps := orderly.length_turns_eq_steps (by simp [outcome]) flight
    have more : ¬ limit.toNat ≤ run.steps := fun reached =>
      Option.some_ne_none limit.toNat ((if_pos reached).symm.trans free)
    have length : ({ run with current := some slot }.become .delivering).turns.length =
        run.turns.length := rfl
    refine ⟨length ▸ within.length, fun _ _ => ?_⟩
    rw [length]
    omega
  | start slot stage processor message rest state outcome flight =>
    have length : (run.opened slot processor message rest).turns.length =
        run.turns.length + 1 := by simp [Run.turns, opened, Entry.tell]
    have more := within.chosen state flight
    refine ⟨?_, fun _ idle => by cases idle⟩
    rw [length]
    omega
  | refuse flight stage status scene failure polled =>
    obtain ⟨turn, earlier, acts, engaged, acted⟩ := exists_acted sound polled
    have still := engaged_afterPoll (job.withMaxSteps (some limit)) engaged acted
    exact failed _ (length_turns_of_latest engaged.turns still.turns)
  | wait flight stage scene rest polled =>
    obtain ⟨turn, earlier, acts, engaged, acted⟩ := exists_acted sound polled
    have still := engaged_afterPoll (job.withMaxSteps (some limit)) engaged acted
    exact within.of_length (length_turns_of_latest engaged.turns still.turns)
      fun _ idle => by cases idle
  | overreach flight stage scene result polled =>
    obtain ⟨turn, earlier, acts, engaged, acted⟩ := exists_acted sound polled
    exact failed _ (length_turns_of_latest engaged.turns
      (ofPast_afterPoll_settled (job.withMaxSteps (some limit)) engaged acted result))
  | fail flight stage scene failure polled =>
    obtain ⟨turn, earlier, acts, engaged, acted⟩ := exists_acted sound polled
    exact failed _ (length_turns_of_latest engaged.turns
      (ofPast_afterPoll_settled (job.withMaxSteps (some limit)) engaged acted (.error failure)))
  | finish flight stage scene polled =>
    obtain ⟨turn, earlier, acts, engaged, acted⟩ := exists_acted sound polled
    obtain ⟨reports, finished⟩ := finish_eq sound.toWired engaged acted
    rw [finished]
    exact within.of_length (length_turns_of_latest engaged.turns
      ((Turn.ofPast_reports reports _).trans (ofPast_afterPoll_settled
        (job.withMaxSteps (some limit)) engaged acted (.ok ())))) fun delivering => by
          cases delivering
  | stop => exact within

/-- **A run under a limit stays within it** in every state that it comes to. -/
theorem within_under (job : Job T η) (limit : UInt64) (received : η) (memory : T.Memory) (n : Nat) :
    Within limit.toNat (under job (some limit) received memory n) := by
  induction n with
  | zero => exact ⟨Nat.zero_le _, fun state => by cases state⟩
  | succ n ih =>
    have sound := sound_after (job.withMaxSteps (some limit)) received memory n
    have orderly := orderly_after (job.withMaxSteps (some limit)) received memory n
    have awake : Within limit.toNat (under job (some limit) received memory n).awake :=
      ⟨ih.length, ih.chosen⟩
    exact within_of_move sound.awake ⟨orderly.earlier, orderly.latest, orderly.steps⟩ awake
      (move_step sound)

/-- Between callbacks a run that is about to exceed a limit has called that many processors. -/
theorem AtLimit.le_length {limit : Nat} (cut : AtLimit limit run) (sound : Sound job run)
    (orderly : Orderly run) : limit ≤ run.turns.length := by
  obtain ⟨running, -, -, reached⟩ := cut
  obtain ⟨outcome, flight, -⟩ := sound.atRest running (.inr rfl)
  rw [orderly.length_turns_eq_steps (by simp [outcome]) flight]
  exact reached

/-- **A run without limit goes on where a limit would strike**: it starts one callback more. -/
theorem AtLimit.length_step_step {limit : Nat} (cut : AtLimit limit run)
    (sound : Sound (job.withMaxSteps none) run) :
    ((run.step (job.withMaxSteps none)).step (job.withMaxSteps none)).turns.length =
      run.turns.length + 1 := by
  obtain ⟨running, eop, ⟨slot, found⟩, -⟩ := cut
  obtain ⟨-, flight, -⟩ := sound.atRest running (.inr rfl)
  have notOut : run.awake.eopReached = false := eop
  have unlimited : run.awake.limitReached (job.withMaxSteps none) = none := rfl
  have chosen : run.step (job.withMaxSteps none) =
      { run.awake with current := some slot }.become .delivering := by
    rw [step_of_running running, found, choose_some notOut unlimited]
  have state : (run.step (job.withMaxSteps none)).state = .delivering := by rw [chosen]; rfl
  have idle : (run.step (job.withMaxSteps none)).flight = none := by rw [chosen]; exact flight
  rw [length_turns_step_of_chosen (sound_step sound) state idle, chosen]
  rfl

section Under

variable {received : η} {memory : T.Memory} {m n : Nat}

/-- **Up to the first time that it is about to exceed the limit**, a run is the one without. -/
theorem under_eq (uncut : ∀ i < n, ¬ AtLimit limit.toNat (under job none received memory i)) :
    under job (some limit) received memory n = under job none received memory n := by
  induction n with
  | zero => rfl
  | succ n ih =>
    have before := ih fun i lt => uncut i (Nat.lt_succ_of_lt lt)
    have step : (under job none received memory n).step (job.withMaxSteps (some limit)) =
        (under job none received memory n).step (job.withMaxSteps none) :=
      step_limited (uncut n (Nat.lt_succ_self n))
    exact (congrArg (Run.step (job.withMaxSteps (some limit))) before).trans step

/-- **Where a limit strikes**, exactly as many callbacks have been run as it allows. -/
theorem cut_at_limit (uncut : ∀ i < n, ¬ AtLimit limit.toNat (under job none received memory i))
    (cut : AtLimit limit.toNat (under job none received memory n)) :
    (under job none received memory n).turns.length = limit.toNat ∧
      (under job (some limit) received memory (n + 1)).turns =
        (under job none received memory n).turns ∧
      (under job (some limit) received memory (n + 1)).outcome =
        some (.error (.stepLimit limit.toNat)) := by
  have same := under_eq uncut
  have within := within_under job limit received memory n
  rw [same] at within
  have least := cut.le_length (sound_after (job.withMaxSteps none) received memory n)
    (orderly_after (job.withMaxSteps none) received memory n)
  have struck : under job (some limit) received memory (n + 1) =
      (under job none received memory n).awake.fail (job.withMaxSteps (some limit))
        (.stepLimit limit.toNat) :=
    (congrArg (Run.step (job.withMaxSteps (some limit))) same).trans (step_of_atLimit cut)
  refine ⟨Nat.le_antisymm within.length least, ?_, ?_⟩
  · rw [struck, Run.turns, ofPast_fail]
    rfl
  · rw [struck]
    exact outcome_fail _ _ _

/-- **A run without limit that stays short** is never about to exceed the limit. -/
theorem not_atLimit_of_short {limit : Nat}
    (short : ∀ n, (under job none received memory n).turns.length ≤ limit) (n : Nat) :
    ¬ AtLimit limit (under job none received memory n) := by
  intro cut
  have sound := sound_after (job.withMaxSteps none) received memory n
  have least := cut.le_length sound (orderly_after (job.withMaxSteps none) received memory n)
  have longer : (under job none received memory (n + 2)).turns.length =
      (under job none received memory n).turns.length + 1 := cut.length_step_step sound
  have most := short (n + 2)
  omega

/-- **A limit that never strikes** is one that the run without limit stays within. -/
theorem short_of_not_atLimit
    (uncut : ∀ n, ¬ AtLimit limit.toNat (under job none received memory n)) (n : Nat) :
    (under job none received memory n).turns.length ≤ limit.toNat := by
  rw [← under_eq fun i _ => uncut i]
  exact (within_under job limit received memory n).length

/-- The first time that a limit strikes. -/
theorem exists_first_cut {limit : Nat} (cut : ∃ n, AtLimit limit (under job none received memory n)) :
    ∃ n, (∀ i < n, ¬ AtLimit limit (under job none received memory i)) ∧
      AtLimit limit (under job none received memory n) := by
  classical
  exact ⟨Nat.find cut, fun i lt => Nat.find_min cut lt, Nat.find_spec cut⟩

/-- **The callbacks up to the limit** are the first ones of the run without limit. -/
theorem turns_eq_take (cut : AtLimit limit.toNat (under job none received memory m))
    (full : (under job none received memory m).turns.length = limit.toNat)
    (longer : limit.toNat < (under job none received memory n).turns.length) :
    (under job none received memory m).turns =
      (under job none received memory n).turns.take limit.toNat := by
  have sound := sound_after (job.withMaxSteps none) received memory m
  obtain ⟨outcome, flight, -⟩ := sound.atRest cut.1 (.inr rfl)
  have ended := (orderly_after (job.withMaxSteps none) received memory m).result_ne_none
    (by simp [outcome]) flight
  rcases Nat.le_total m n with le | le
  · have isPrefix := turns_prefix le ended
    have taken := List.prefix_iff_eq_take.mp isPrefix
    rw [← full]
    exact taken
  · obtain ⟨k, rfl⟩ := Nat.exists_eq_add_of_le le
    have grown := length_turns_le (sound_after (job.withMaxSteps none) received memory n) k
    rw [← after_add] at grown
    exact absurd longer (Nat.not_lt.mpr (full ▸ grown))

/-- **Every run under a limit comes to its end.** -/
theorem exists_end (job : Job T η) (limit : UInt64) (received : η) (memory : T.Memory) :
    ∃ n result, (under job (some limit) received memory n).outcome = some result := by
  by_contra unfinished
  push Not at unfinished
  -- A run that never ends would start any number of callbacks.
  have many : ∀ count, ∃ n, count ≤ (under job (some limit) received memory n).turns.length := by
    intro count
    induction count with
    | zero => exact ⟨0, Nat.zero_le _⟩
    | succ count ih =>
      obtain ⟨n, least⟩ := ih
      have sound := sound_after (job.withMaxSteps (some limit)) received memory n
      obtain ⟨k, ⟨result, ended⟩ | longer⟩ := exists_longer sound
      · rw [← after_add] at ended
        exact absurd ended (unfinished (n + k) result)
      · rw [← after_add] at longer
        exact ⟨n + k, Nat.lt_of_le_of_lt least longer⟩
  obtain ⟨n, tooMany⟩ := many (limit.toNat + 1)
  have within := (within_under job limit received memory n).length
  omega

end Under

/-! ## (3) The result -/

/-- **A step limit only truncates.** If the run without limit starts no more callbacks than the
limit allows, the run with the limit is the same. Otherwise it is the same up to the moment when it
would start one callback too many, and fails there: its callbacks are the first ones of the run
without limit, as many as the limit allows, and the handler has been offered, and has accepted,
what they have sent. So a run with a limit never starts more callbacks than that, and none with a
limit of zero; it always comes to an end; and if it has ended for another reason, it is the same
under any higher limit and under none. -/
theorem limit_truncates (job : Job T η) (limit : UInt64) (received : η) (memory : T.Memory) :
    let free := under job none received memory
    let limited := under job (some limit) received memory
    ((∀ n, (free n).turns.length ≤ limit.toNat) → ∀ n, limited n = free n) ∧
    ((∃ n, limit.toNat < (free n).turns.length) →
      ∃ m, (∀ i ≤ m, limited i = free i) ∧ ∀ l, m < l →
        (limited l).outcome = some (.error (.stepLimit limit.toNat)) ∧
        (∀ n, limit.toNat < (free n).turns.length →
          (limited l).turns = (free n).turns.take limit.toNat) ∧
        Journal.offers (limited l).journal = Turn.forCaller (limited l).turns ∧
        Journal.accepted (limited l).journal = Turn.forCaller (limited l).turns) ∧
    (∀ n, (limited n).turns.length ≤ limit.toNat) ∧
    (∃ n result, (limited n).outcome = some result) ∧
    (limit = 0 → ∀ n, (limited n).turns = []) ∧
    ∀ higher, limit ≤ higher →
      (∀ n, (limited n).outcome ≠ some (.error (.stepLimit limit.toNat))) →
        ∀ n, under job (some higher) received memory n = limited n ∧ free n = limited n := by
  intro free limited
  have within : ∀ n, (limited n).turns.length ≤ limit.toNat := fun n =>
    (within_under job limit received memory n).length
  refine ⟨?short, ?long, within, exists_end job limit received memory, ?zero, ?raised⟩
  case short =>
    intro short n
    exact under_eq fun i _ => not_atLimit_of_short short i
  case long =>
    rintro ⟨k, longer⟩
    -- A limit that does not strike would keep the run without limit short.
    have strikes : ∃ n, AtLimit limit.toNat (free n) := by
      by_contra never
      push Not at never
      exact absurd longer (Nat.not_lt.mpr (short_of_not_atLimit never k))
    obtain ⟨m, uncut, cut⟩ := exists_first_cut strikes
    obtain ⟨full, turns, failed⟩ := cut_at_limit uncut cut
    refine ⟨m, fun i le => under_eq fun j lt => uncut j (Nat.lt_of_lt_of_le lt le), fun l lt => ?_⟩
    have outcome : (limited l).outcome = _ := outcome_after_of_finished lt failed
    have stays : (limited l).turns = (free m).turns :=
      (turns_after_of_finished lt failed).trans turns
    have accepted : (limited l).verdicts =
        Handler.acceptances (Turn.forCaller (limited l).turns) := by
      rcases (delivered_after (job.withMaxSteps (some limit)) received memory l).offers_cut with
        all | ⟨_, _, _, _, -, -, refused⟩
      · exact all
      · cases outcome.symm.trans refused
    refine ⟨outcome, fun n longer => ?_, offers_of_acceptances accepted⟩
    rw [stays]
    exact turns_eq_take cut full longer
  case zero =>
    rintro rfl n
    exact List.eq_nil_of_length_eq_zero (Nat.le_zero.mp (within n))
  case raised =>
    intro higher le otherwise
    have uncut : ∀ n, ¬ AtLimit limit.toNat (free n) := by
      intro n cut
      obtain ⟨m, first, struck⟩ := exists_first_cut ⟨n, cut⟩
      exact otherwise (m + 1) (cut_at_limit first struck).2.2
    -- The run without limit stays within the lower limit, and so within the higher one.
    have short : ∀ n, (free n).turns.length ≤ higher.toNat := fun n =>
      Nat.le_trans (short_of_not_atLimit uncut n) (UInt64.le_iff_toNat_le.mp le)
    intro n
    have same : limited n = free n := under_eq fun i _ => uncut i
    rw [same]
    exact ⟨under_eq fun i _ => not_atLimit_of_short short i, rfl⟩

end Run

end Relay
