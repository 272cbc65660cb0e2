import Mathlib.Data.Nat.Init
import Relay.Proofs.Run.Changes
import Relay.Proofs.Run.Recast

/-!
# Runs only go on

What has happened in a run stays so: its journal only grows, a turn that has begun keeps its call
and what has been sent in it, a turn that has ended stays as it is, and a run that has come to its
end does not go on at all.

* `Run.exists_news_after` says so for the journal, `Run.turns_grow` and `Run.turns_prefix` for the
  turns, and `Run.awake_after_of_finished` for runs that have come to their end.
-/

namespace Relay

variable {T : Traffic} {η : Type}

/-! ## (1) Turns -/

namespace Turn

/-- **A turn that has gone on**: the same call, and at least what had been sent before. -/
structure GoesOn (turn later : Turn T) : Prop where
  call : later.call = turn.call
  sent : turn.sent <+: later.sent
  isRefused : turn.isRefused = true → later.isRefused = true

/-- A turn goes on as itself. -/
theorem GoesOn.refl (turn : Turn T) : turn.GoesOn turn := ⟨rfl, List.prefix_refl _, id⟩

/-- Going on and on is going on. -/
theorem GoesOn.trans {first second third : Turn T} (early : first.GoesOn second)
    (late : second.GoesOn third) : first.GoesOn third where
  call := late.call.trans early.call
  sent := early.sent.trans late.sent
  isRefused refused := late.isRefused (early.isRefused refused)

/-- **One more entry** lets the latest turn go on, or opens a new one. -/
theorem exists_tell (entry : Entry T) (turn : Turn T) (earlier : List (Turn T)) :
    ∃ behind later, entry.tell (turn :: earlier) = behind ++ later :: earlier ∧
      turn.GoesOn later := by
  cases entry with
  | called call => exact ⟨[{ call }], turn, rfl, .refl turn⟩
  | sent stage message => exact ⟨[], _, rfl, rfl, List.prefix_append _ _, id⟩
  | refused stage => exact ⟨[], _, rfl, rfl, List.prefix_refl _, fun _ => rfl⟩
  | returned stage result => exact ⟨[], _, rfl, rfl, List.prefix_refl _, id⟩
  | noted | paused | offered | logged | emitted => exact ⟨[], turn, rfl, .refl turn⟩

/-- **More entries** let the latest turn go on, and may open new ones; the earlier turns stay. -/
theorem exists_ofPast_append (news : List (Entry T)) {past : List (Entry T)} {turn : Turn T}
    {earlier : List (Turn T)} (turns : ofPast past = turn :: earlier) :
    ∃ behind later, ofPast (news ++ past) = behind ++ later :: earlier ∧ turn.GoesOn later := by
  -- Along the news, earliest entry first; each is told to the turns that those before have left.
  induction news with
  | nil => exact ⟨[], turn, turns, .refl turn⟩
  | cons entry rest ih =>
    obtain ⟨behind, later, split, goesOn⟩ := ih
    rw [List.cons_append, ofPast_cons, split]
    cases behind with
    | nil =>
      obtain ⟨opened, next, told, further⟩ := exists_tell entry later earlier
      exact ⟨opened, next, told, goesOn.trans further⟩
    | cons latest others =>
      obtain ⟨opened, next, told, -⟩ := exists_tell entry latest (others ++ later :: earlier)
      refine ⟨opened ++ next :: others, later, ?_, goesOn⟩
      rw [List.cons_append, told, List.append_assoc, List.cons_append]

end Turn

namespace Run

variable {job : Job T η} {run : Run T η} {received : η} {memory : T.Memory} {m n : Nat}

/-! ## (2) The journal -/

/-- **A step only adds to the journal.** -/
theorem exists_news (sound : Sound job run) : ∃ news, (run.step job).past = news ++ run.past := by
  have own : Sound job (run.anew.onto run.past) := sound
  exact ⟨(run.anew.step job).past, congrArg Run.past (step_onto own run.past)⟩

/-- **The journal of a run only grows.** -/
theorem exists_news_after (job : Job T η) (received : η) (memory : T.Memory) (le : m ≤ n) :
    ∃ news, ((seed job received memory).after job n).past =
      news ++ ((seed job received memory).after job m).past := by
  induction n, le using Nat.le_induction with
  | base => exact ⟨[], rfl⟩
  | succ n _ ih =>
    obtain ⟨early, before⟩ := ih
    obtain ⟨late, step⟩ := exists_news (sound_after job received memory n)
    exact ⟨late ++ early, by rw [after, step, before, List.append_assoc]⟩

/-- **Turns go on**: of the turns that a run has come to, the latest one goes on, and the earlier
ones stay. -/
theorem turns_grow (le : m ≤ n) {before : List (Turn T)} {turn : Turn T}
    (turns : ((seed job received memory).after job m).turns = before ++ [turn]) :
    ∃ later behind, ((seed job received memory).after job n).turns = before ++ later :: behind ∧
      turn.GoesOn later := by
  obtain ⟨news, grown⟩ := exists_news_after job received memory le
  obtain ⟨behind, later, split, goesOn⟩ :=
    Turn.exists_ofPast_append news (ofPast_of_turns_eq turns)
  refine ⟨later, behind.reverse, ?_, goesOn⟩
  rw [Run.turns, grown, split]
  simp

/-! ## (3) Turns that have ended -/

/-- **A turn that has ended stays as it is.** -/
theorem prefix_of_change {next : Run T η} (change : Change job run next) {done : List (Turn T)}
    (ended : ∀ turn ∈ done, turn.result ≠ none) (isPrefix : done <+: run.turns) :
    done <+: next.turns := by
  cases change with
  | still turns =>
    rw [Run.turns, turns]
    exact isPrefix
  | opened slot call turns =>
    rw [turns_eq_concat turns]
    exact isPrefix.trans (List.prefix_append _ _)
  | acted turn late earlier sent before turns underWay =>
    rw [turns_eq_concat before] at isPrefix
    rw [turns_eq_concat turns]
    -- The callback under way is none of those that have ended.
    rcases List.prefix_concat_iff.mp isPrefix with all | isEarlier
    · exact absurd underWay (ended turn (by rw [all]; simp))
    · exact isEarlier.trans (List.prefix_append _ _)

/-- **Turns that have ended stay**, and new ones come behind them. -/
theorem turns_prefix (le : m ≤ n)
    (ended : ∀ turn ∈ ((seed job received memory).after job m).turns, turn.result ≠ none) :
    ((seed job received memory).after job m).turns <+:
      ((seed job received memory).after job n).turns := by
  induction n, le using Nat.le_induction with
  | base => exact List.prefix_refl _
  | succ n _ ih => exact prefix_of_change (change_step (sound_after job received memory n)) ended ih

/-! ## (4) Runs that have come to their end -/

/-- **A run that has come to its end stays there.** -/
theorem awake_after_of_finished {result : Except RunError RunSummary} (le : m ≤ n)
    (finished : ((seed job received memory).after job m).outcome = some result) :
    ((seed job received memory).after job n).awake =
      ((seed job received memory).after job m).awake := by
  obtain ⟨k, rfl⟩ := Nat.exists_eq_add_of_le le
  rw [after_add]
  exact (sound_after job received memory m).awake_after finished k

/-- The outcome of a run is final. -/
theorem outcome_after_of_finished {result : Except RunError RunSummary} (le : m ≤ n)
    (finished : ((seed job received memory).after job m).outcome = some result) :
    ((seed job received memory).after job n).outcome = some result :=
  (congrArg Run.outcome (awake_after_of_finished le finished)).trans finished

/-- A run that has come to its end calls no processor any longer. -/
theorem turns_after_of_finished {result : Except RunError RunSummary} (le : m ≤ n)
    (finished : ((seed job received memory).after job m).outcome = some result) :
    ((seed job received memory).after job n).turns =
      ((seed job received memory).after job m).turns := by
  have awake := congrArg Run.turns (awake_after_of_finished le finished)
  exact awake

end Run

end Relay
