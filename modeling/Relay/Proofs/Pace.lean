import Mathlib.Order.Monotone.Basic

/-!
# Keeping pace

Two systems take step after step, and the second one sometimes takes a step of its own. If it cannot
do so for ever, the second keeps pace with the first: each state of the first one is held for a
while by the second, and these whiles follow each other without a gap.

* `exists_pace` makes the pace from what single steps do.
-/

namespace Relay

variable {α β : Type} {a : Nat → α} {b : Nat → β} {R : α → β → Prop} {rank : β → Nat}

/-- **A state is held for a while.** From any two related states on, the second system comes to its
next common step, and until then the states stay related. -/
theorem exists_next_pace
    (advance : ∀ m k, R (a m) (b k) →
      (R (a m) (b (k + 1)) ∧ rank (b (k + 1)) < rank (b k)) ∨ R (a (m + 1)) (b (k + 1)))
    (m k : Nat) (related : R (a m) (b k)) :
    ∃ next, k < next ∧ R (a (m + 1)) (b next) ∧ ∀ l, k ≤ l → l < next → R (a m) (b l) := by
  -- By induction on the rank, which steps of the second system alone bring down.
  induction size : rank (b k) using Nat.strongRecOn generalizing k with
  | ind size ih =>
    rcases advance m k related with ⟨alone, smaller⟩ | together
    · obtain ⟨next, later, atNext, held⟩ := ih _ (size ▸ smaller) (k + 1) alone rfl
      refine ⟨next, Nat.lt_of_succ_lt later, atNext, fun l from_k before => ?_⟩
      rcases Nat.eq_or_lt_of_le from_k with rfl | behind
      · exact related
      · exact held l behind before
    · refine ⟨k + 1, Nat.lt_succ_self k, together, fun l from_k before => ?_⟩
      have same : l = k := by omega
      exact same ▸ related

/-- **The second system keeps pace with the first.** -/
theorem exists_pace (start : R (a 0) (b 0))
    (advance : ∀ m k, R (a m) (b k) →
      (R (a m) (b (k + 1)) ∧ rank (b (k + 1)) < rank (b k)) ∨ R (a (m + 1)) (b (k + 1))) :
    ∃ pace : Nat → Nat, pace 0 = 0 ∧ StrictMono pace ∧
      ∀ m k, pace m ≤ k → k < pace (m + 1) → R (a m) (b k) := by
  have proceed : ∀ m k, ∃ next, R (a m) (b k) →
      k < next ∧ R (a (m + 1)) (b next) ∧ ∀ l, k ≤ l → l < next → R (a m) (b l) := by
    intro m k
    by_cases related : R (a m) (b k)
    · obtain ⟨next, held⟩ := exists_next_pace advance m k related
      exact ⟨next, fun _ => held⟩
    · exact ⟨0, fun isRelated => absurd isRelated related⟩
  choose next spec using proceed
  let pace : Nat → Nat := fun m => Nat.rec 0 (fun m k => next m k) m
  have related : ∀ m, R (a m) (b (pace m)) := by
    intro m
    induction m with
    | zero => exact start
    | succ m ih => exact (spec m (pace m) ih).2.1
  refine ⟨pace, rfl, strictMono_nat_of_lt_succ fun m => (spec m (pace m) (related m)).1, ?_⟩
  intro m k from_m before
  exact (spec m (pace m) (related m)).2.2 k from_m before

/-- Every step of the second system belongs to a while. -/
theorem exists_while {pace : Nat → Nat} (start : pace 0 = 0) (rising : StrictMono pace) (k : Nat) :
    ∃ m, pace m ≤ k ∧ k < pace (m + 1) := by
  induction k with
  | zero =>
    have first : pace 0 < pace 1 := rising Nat.zero_lt_one
    exact ⟨0, Nat.le_of_eq start, Nat.zero_lt_of_lt first⟩
  | succ k ih =>
    obtain ⟨m, from_m, before⟩ := ih
    rcases Nat.lt_or_ge (k + 1) (pace (m + 1)) with still | beyond
    · exact ⟨m, Nat.le_succ_of_le from_m, still⟩
    · refine ⟨m + 1, beyond, ?_⟩
      have later : pace (m + 1) < pace (m + 1 + 1) := rising (Nat.lt_succ_self (m + 1))
      omega

end Relay
