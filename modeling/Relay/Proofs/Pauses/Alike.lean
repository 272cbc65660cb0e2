import Relay.Proofs.Pauses.Unpaused
import Relay.Proofs.Run.Offering

/-!
# Runs that are alike

The items of the first stage are offered to the handler at the end of each poll. So pauses do two
things to a journal: they stand in it, and the offers move forward to them. Two runs are alike if
they differ in nothing else. They stay alike with every step.

* `Journal.Akin` compares journals, and `Run.Alike` compares runs.
* `Run.Alike.step` says that steps keep runs alike.
-/

namespace Relay

variable {T : Traffic} {η θ : Type}

/-! ## (1) Journals -/

/-- Whether an entry belongs to the course of a run, which pauses and offers do not. -/
def Entry.isCourse : Entry T → Bool
  | paused _ | offered _ _ => false
  | _ => true

namespace Journal

/-- **Journals that tell the same**, but for pauses and the places of offers. Both are given latest
first. -/
structure Akin (past other : List (Entry T)) : Prop where
  /-- Calls, messages, notes, ends of callbacks, and reports are the same in the same order. -/
  course : past.filter Entry.isCourse = other.filter Entry.isCourse
  /-- So are the items offered, and what the handler has said about them. -/
  verdicts : verdicts past.reverse = verdicts other.reverse

variable {past other third : List (Entry T)}

/-- A journal tells the same as itself. -/
theorem Akin.refl (past : List (Entry T)) : Akin past past := ⟨rfl, rfl⟩

theorem Akin.symm (akin : Akin past other) : Akin other past :=
  ⟨akin.course.symm, akin.verdicts.symm⟩

theorem Akin.trans (early : Akin past other) (late : Akin other third) : Akin past third :=
  ⟨early.course.trans late.course, early.verdicts.trans late.verdicts⟩

/-- **The same news** leave journals that tell the same. -/
theorem Akin.append (akin : Akin past other) (news : List (Entry T)) :
    Akin (news ++ past) (news ++ other) where
  course := by rw [List.filter_append, List.filter_append, akin.course]
  verdicts := by
    have before := akin.verdicts
    simp only [Journal.verdicts] at before
    simp only [Journal.verdicts, List.reverse_append, List.filterMap_append, before]

/-- The turns belong to the course of a run. -/
theorem Akin.ofPast_eq (akin : Akin past other) : Turn.ofPast past = Turn.ofPast other := by
  have ofCourse : ∀ past : List (Entry T),
      Turn.ofPast (past.filter Entry.isCourse) = Turn.ofPast past := by
    intro past
    induction past with
    | nil => rfl
    | cons entry rest ih =>
      cases entry <;> simp [List.filter_cons, Entry.isCourse, ih, Entry.tell]
  rw [← ofCourse past, ← ofCourse other, akin.course]

/-- No offer belongs to the course of a run. -/
theorem filter_isCourse_offers (offers : List (T.Response × Except Failure Unit)) :
    ((offers.map (Entry.ofVerdict (T := T))).reverse).filter Entry.isCourse = [] := by
  refine List.filter_eq_nil_iff.mpr fun entry member => ?_
  obtain ⟨verdict, -, rfl⟩ := List.mem_map.mp (List.mem_reverse.mp member)
  simp [Entry.ofVerdict, Entry.isCourse]

/-- **A pause in the middle of a callback** and the offers that come with it make no difference. -/
theorem akin_of_paused {index : Nat} {acts : List (Entry T)}
    (areActs : ∀ entry ∈ acts, entry.isActAt index = true)
    (early late : List (T.Response × Except Failure Unit)) (past : List (Entry T)) (stage : Nat) :
    Akin (((early ++ late).map Entry.ofVerdict).reverse ++ (acts ++ past))
      ((late.map Entry.ofVerdict).reverse ++
        (acts ++ ((early.map Entry.ofVerdict).reverse ++ .paused stage :: past))) where
  course := by
    have isPause : Entry.isCourse (.paused stage : Entry T) = false := rfl
    simp only [List.filter_append, filter_isCourse_offers, List.nil_append, List.filter_cons,
      isPause, Bool.false_eq_true, if_false]
  verdicts := by
    -- Acts have no verdicts, so that the later offers come right behind the earlier ones.
    have pause : verdicts (Entry.paused stage :: past).reverse = verdicts past.reverse := by
      simp [verdicts, Entry.verdict?]
    rw [verdicts_offers, verdicts_acts past areActs, verdicts_offers, verdicts_acts _ areActs,
      verdicts_offers, pause, List.append_assoc]

end Journal

namespace Run

variable {job : Job T η} {run other third : Run T η}

/-! ## (2) Runs -/

/-- **Runs that are alike**: everything is the same, but that their journals only tell the same, and
that one may just have paused. -/
structure Alike (run other : Run T η) : Prop where
  same : run.anew.awake = other.anew.awake
  akin : Journal.Akin run.past other.past

namespace Alike

/-- A run is like itself. -/
theorem refl (run : Run T η) : Alike run run := ⟨rfl, .refl _⟩

theorem symm (alike : Alike run other) : Alike other run := ⟨alike.same.symm, alike.akin.symm⟩

theorem trans (early : Alike run other) (late : Alike other third) : Alike run third :=
  ⟨early.same.trans late.same, early.akin.trans late.akin⟩

theorem outcome (alike : Alike run other) : run.outcome = other.outcome := by
  have outcomes := congrArg Run.outcome alike.same
  exact outcomes

theorem verdicts (alike : Alike run other) : run.verdicts = other.verdicts := alike.akin.verdicts

/-- Runs that are alike have called the same processors, which have done the same. -/
theorem turns (alike : Alike run other) : run.turns = other.turns :=
  congrArg List.reverse alike.akin.ofPast_eq

/-- A run on two journals that tell the same. -/
theorem recast (run : Run T η) (received : θ) {past late : List (Entry T)}
    (akin : Journal.Akin past late) :
    Alike (run.recast received past) (run.recast received late) := ⟨rfl, akin.append run.past⟩

/-- **Steps keep runs alike.** -/
theorem step (alike : Alike run other) (sound : Sound job run) :
    Alike (run.step job) (other.step job) := by
  -- Neither run looks at its journal, and without journals both are the same.
  have own : Sound job (run.anew.awake.onto run.past) := sound.awake
  have first : run.step job = (run.anew.awake.step job).onto run.past := step_onto own run.past
  have second : other.step job = (run.anew.awake.step job).onto other.past := by
    rw [← step_onto own other.past, alike.same]
    rfl
  rw [first, second]
  exact Alike.recast _ _ alike.akin

end Alike

end Run

end Relay
