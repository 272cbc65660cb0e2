import Mathlib.Data.Nat.Init
import Relay.Proofs.Delivery
import Relay.Proofs.Run.Recast

/-!
# What a step offers to the caller

The items that are due with a step are those that it adds to what the first stage has sent for the
caller. They are offered to the handler as far as it accepts them; with the first one that it
refuses the run fails.

* `Handler.exists_refused` and `Handler.offer_append_of_refused` take a refusal apart.
* `Run.forCaller_step` and `Run.step_of_refused` say what a step with due items does.
-/

namespace Relay

variable {T : Traffic} {η θ : Type}

/-! ## (1) Handlers -/

namespace Handler

variable {α : Type} {handler : Handler α η} {memory : η} {items early : List α}

/-- **A handler that accepts everything**, whatever it makes of it. -/
def accepting (next : θ → α → θ) : Handler α θ := ⟨fun memory item => (next memory item, .ok ())⟩

/-- Everything is offered to a handler that accepts everything. -/
theorem offer_accepting (next : θ → α → θ) (memory : θ) (items : List α) :
    (accepting next).offer memory items = (items.foldl next memory, acceptances items, none) := by
  induction items generalizing memory with
  | nil => rfl
  | cons item rest ih => simp only [offer, accepting] at ih ⊢; rw [ih]; rfl

/-- Whoever accepts items has accepted the first ones of them. -/
theorem accepted_of_append {late : List α}
    (accepted : (handler.offer memory (early ++ late)).2.2 = none) :
    (handler.offer memory early).2.2 = none := by
  induction early generalizing memory with
  | nil => rfl
  | cons item rest ih =>
    rcases handled : handler.handle memory item with ⟨next, _ | _⟩
    · simp [offer, handled] at accepted
    · simp only [List.cons_append, offer, handled] at accepted ⊢
      exact ih accepted

/-- **Behind an item that is refused** nothing is offered. -/
theorem offer_append_of_refused {failure : Failure} (late : List α)
    (refused : (handler.offer memory early).2.2 = some failure) :
    handler.offer memory (early ++ late) = handler.offer memory early := by
  induction early generalizing memory with
  | nil => cases refused
  | cons item rest ih =>
    rcases handled : handler.handle memory item with ⟨next, _ | _⟩
    · simp only [List.cons_append, offer, handled]
    · simp only [offer, handled] at refused
      simp only [List.cons_append, offer, handled, ih refused]

/-- **The first item that is refused**: everything before it is accepted, and it is what the failure
comes from. -/
theorem exists_refused {failure : Failure}
    (refused : (handler.offer memory items).2.2 = some failure) :
    ∃ before item behind, items = before ++ item :: behind ∧
      (handler.offer memory before).2.2 = none ∧
      (handler.handle (handler.offer memory before).1 item).2 = .error failure := by
  induction items generalizing memory with
  | nil => cases refused
  | cons item rest ih =>
    rcases handled : handler.handle memory item with ⟨next, other | _⟩
    · have same : other = failure := by simpa [offer, handled] using refused
      exact ⟨[], item, rest, rfl, rfl, by rw [offer, handled, same]⟩
    · have refusedRest : (handler.offer next rest).2.2 = some failure := by
        simpa only [offer, handled] using refused
      obtain ⟨before, refusedItem, behind, split, accepted, isRefused⟩ := ih refusedRest
      refine ⟨item :: before, refusedItem, behind, by rw [split]; rfl, ?_, ?_⟩
      · simp only [offer, handled, accepted]
      · simp only [offer, handled, isRefused]

/-- **Offers up to a refusal**: all before it with good verdicts, and then it. -/
theorem verdicts_of_refused {failure : Failure} {before : List α} {item : α} (behind : List α)
    (accepted : (handler.offer memory before).2.2 = none)
    (refused : (handler.handle (handler.offer memory before).1 item).2 = .error failure) :
    (handler.offer memory (before ++ item :: behind)).2.1 =
      acceptances before ++ [(item, .error failure)] := by
  rw [offer_append (item :: behind) accepted, offer_of_accepted accepted]
  rcases handled : handler.handle (handler.offer memory before).1 item with ⟨next, result⟩
  rw [handled] at refused
  obtain rfl : result = .error failure := refused
  simp only [offer, handled]

/-- **The handler that accepts a number of items** has collected so many of those offered to it. -/
theorem offer_failingAfter (accepted : Nat) (message : String) (received items : List α) :
    ((failingAfter accepted message).offer received items).1 =
      received ++ items.take (accepted - received.length) := by
  induction items generalizing received with
  | nil => simp [offer]
  | cons item rest ih =>
    by_cases full : accepted ≤ received.length
    · have none : accepted - received.length = 0 := by omega
      simp [offer, failingAfter, full, none]
    · have more : accepted - received.length = accepted - (received.length + 1) + 1 := by omega
      have step : ((failingAfter accepted message).offer received (item :: rest)).1 =
          ((failingAfter accepted message).offer (received ++ [item]) rest).1 := by
        simp [offer, failingAfter, full]
      rw [step, ih, more, List.take_succ_cons, List.length_append, List.length_singleton,
        List.append_assoc, List.singleton_append]

end Handler

namespace Run

variable {job : Job T η} {run next : Run T η}

/-! ## (2) Items that are due -/

/-- While no callback is in flight, nothing is added to what has been sent for the caller. -/
theorem forCaller_of_idle (idle : run.flight = none)
    (turns : Turn.ofPast next.past = Turn.ofPast run.past) :
    Turn.forCaller next.turns = Turn.forCaller run.turns ++ run.due := by
  rw [due_of_idle idle, List.append_nil, Run.turns, turns]
  rfl

section Polling

variable {flight : Flight T} {stage : Stage T} {status : Callback.Status T Unit}
  {scene : Callback.Scene T} {turn late : Turn T} {earlier : List (Turn T)}
  {acts : List (Entry T)}

/-- **A poll adds the items that are due with it.** -/
theorem forCaller_of_polled (sound : Sound job run) (polled : run.Polled flight stage status scene)
    (engaged : run.Engaged job flight stage turn earlier)
    (acted : Callback.Scene.Acted ⟨stage, run.memory, run.past⟩ scene acts)
    (later : Turn.ofPast next.past = late :: earlier) (call : late.call = turn.call)
    (sent : late.sent = turn.sent ++ Journal.sent acts) :
    Turn.forCaller next.turns = Turn.forCaller run.turns ++ run.due := by
  have due := (due_of_polled polled).trans (callerQueue_of_acted sound.toWired polled.found acted)
  rw [turns_eq_concat later, turns_eq_concat engaged.turns, Turn.forCaller_concat,
    Turn.forCaller_concat, call, sent, Outgoing.forCaller_append, List.append_assoc, due,
    engaged.place]

end Polling

/-- **A move adds the items that are due** to what has been sent for the caller. -/
theorem forCaller_of_move (sound : Sound job run) (move : Move job run next) :
    Turn.forCaller next.turns = Turn.forCaller run.turns ++ run.due := by
  -- Items are due with the polls only, which are the last moves but one.
  cases move with
  | announce state =>
    obtain ⟨-, flight, -⟩ := sound.atRest state (.inl rfl)
    obtain ⟨reports, announced⟩ := run.announce_eq job
    rw [announced, become_eq, reporting_reporting]
    exact forCaller_of_idle flight (Turn.ofPast_reports _ _)
  | succeed state =>
    obtain ⟨-, flight, -⟩ := sound.atRest state (.inr rfl)
    obtain ⟨reports, succeeded⟩ := run.succeed_eq job
    rw [succeeded]
    exact forCaller_of_idle flight (Turn.ofPast_reports _ _)
  | starve state =>
    obtain ⟨-, flight, -⟩ := sound.atRest state (.inr rfl)
    exact forCaller_of_idle flight (ofPast_fail job run _)
  | exceed slot limit state =>
    obtain ⟨-, flight, -⟩ := sound.atRest state (.inr rfl)
    exact forCaller_of_idle flight (ofPast_fail job run _)
  | choose slot state =>
    obtain ⟨-, flight, -⟩ := sound.atRest state (.inr rfl)
    rw [become_eq]
    exact forCaller_of_idle flight
      (Turn.ofPast_reports (.ofRecord (.transition run.state .delivering)) _)
  | start slot stage processor message rest state outcome flight =>
    have later : (run.opened slot processor message rest).turns =
        run.turns ++ [{ call := rest.callFor slot.stage message }] := turns_eq_concat rfl
    have nothing : Outgoing.forCaller slot.stage ([] : List (Outgoing T)) = [] := ite_self _
    rw [later, Turn.forCaller_concat, due_of_idle flight]
    exact congrArg (Turn.forCaller run.turns ++ ·) nothing
  | refuse flight stage status scene failure polled =>
    obtain ⟨turn, earlier, acts, engaged, acted⟩ := exists_acted sound polled
    have still := engaged_afterPoll job engaged acted
    exact forCaller_of_polled sound polled engaged acted
      ((ofPast_fail job _ _).trans still.turns) rfl rfl
  | wait flight stage scene rest polled =>
    obtain ⟨turn, earlier, acts, engaged, acted⟩ := exists_acted sound polled
    have still := engaged_afterPoll job engaged acted
    exact forCaller_of_polled sound polled engaged acted still.turns rfl rfl
  | overreach flight stage scene result polled =>
    obtain ⟨turn, earlier, acts, engaged, acted⟩ := exists_acted sound polled
    exact forCaller_of_polled sound polled engaged acted
      ((ofPast_fail job _ _).trans (ofPast_afterPoll_settled job engaged acted result)) rfl rfl
  | fail flight stage scene failure polled =>
    obtain ⟨turn, earlier, acts, engaged, acted⟩ := exists_acted sound polled
    exact forCaller_of_polled sound polled engaged acted
      ((ofPast_fail job _ _).trans (ofPast_afterPoll_settled job engaged acted _)) rfl rfl
  | finish flight stage scene polled =>
    obtain ⟨turn, earlier, acts, engaged, acted⟩ := exists_acted sound polled
    obtain ⟨reports, finished⟩ := finish_eq sound.toWired engaged acted
    rw [finished]
    exact forCaller_of_polled sound polled engaged acted
      ((Turn.ofPast_reports reports _).trans (ofPast_afterPoll_settled job engaged acted (.ok ())))
      rfl rfl
  | stop isTerminal =>
    refine forCaller_of_idle ?_ rfl
    cases flight : run.flight with
    | none => rfl
    | some flight =>
      obtain ⟨state, -, -⟩ := sound.inFlight flight
      cases (congrArg RunState.isTerminal state).symm.trans isTerminal

/-- **A step adds the items that are due** to what has been sent for the caller. -/
theorem forCaller_step (sound : Sound job run) :
    Turn.forCaller (run.step job).turns = Turn.forCaller run.turns ++ run.due := by
  have moved := forCaller_of_move sound.awake (move_step sound)
  exact moved

/-- **What has been sent for the caller only grows.** -/
theorem forCaller_prefix (job : Job T η) (received : η) (memory : T.Memory) {m n : Nat}
    (le : m ≤ n) :
    Turn.forCaller ((seed job received memory).after job m).turns <+:
      Turn.forCaller ((seed job received memory).after job n).turns := by
  induction n, le using Nat.le_induction with
  | base => exact List.prefix_refl _
  | succ n _ ih =>
    rw [after, forCaller_step (sound_after job received memory n)]
    exact ih.trans (List.prefix_append _ _)

/-- **Items are due with the latest turn only**: it goes on, and no other is opened. -/
theorem exists_acting (sound : Sound job run) (due : run.due ≠ []) :
    ∃ turn late earlier, Turn.ofPast run.past = turn :: earlier ∧
      Turn.ofPast (run.step job).past = late :: earlier ∧ late.call = turn.call := by
  have more := forCaller_step sound
  cases change_step sound with
  | still turns =>
    rw [Run.turns, turns, ← Run.turns, List.self_eq_append_right] at more
    exact absurd more due
  | opened slot call turns =>
    have nothing : Outgoing.forCaller call.stage ([] : List (Outgoing T)) = [] := ite_self _
    have begun : (run.step job).turns = run.turns ++ [({ call } : Turn T)] := turns_eq_concat turns
    rw [begun, Turn.forCaller_concat, nothing, List.append_nil, List.self_eq_append_right] at more
    exact absurd more due
  | acted turn late earlier sent before turns underWay unfinished call =>
    exact ⟨turn, late, earlier, before, turns, call⟩

/-- **A step with an item that is refused** fails the run. The callback under way does not come to
its end, and the handler's failure is the outcome. -/
theorem step_of_refused (sound : Sound job run) {failure : Failure}
    (refused : (job.handler.offer run.received run.due).2.2 = some failure) :
    ∃ turn late earlier, Turn.ofPast run.past = turn :: earlier ∧
      Turn.ofPast (run.step job).past = late :: earlier ∧ late.call = turn.call ∧
      late.result = none ∧ (run.step job).outcome = some (.error (.handler failure)) ∧
      (run.step job).verdicts = run.verdicts ++ (job.handler.offer run.received run.due).2.1 := by
  cases isFlight : run.flight with
  | none =>
    rw [due_of_idle isFlight] at refused
    cases refused
  | some flight =>
    obtain ⟨stage, status, scene, polled⟩ := sound.exists_polled isFlight
    obtain ⟨turn, earlier, acts, engaged, acted⟩ := exists_acted sound.awake polled
    have still := engaged_afterPoll job engaged acted
    have due : run.awake.due = scene.stage.callerQueue := due_of_polled polled
    have refused : (job.handler.offer run.received run.awake.due).2.2 = some failure := refused
    rw [due] at refused
    have verdicts := (unasked_fail job (run.awake.afterPoll job flight.slot.stage scene)
      (.handler failure)).verdicts.trans (verdicts_afterPoll job _ acted)
    rw [← due] at verdicts
    have state : run.state = .delivering := polled.state
    rw [step_of_inFlight state isFlight, pollFlight_of_refused polled.found polled.polled refused]
    exact ⟨turn, turn.extend acts, earlier, engaged.turns, (ofPast_fail job _ _).trans still.turns,
      rfl, still.result, outcome_fail job _ _, verdicts⟩

/-! ## (3) Items that have been offered -/

/-- Good verdicts are on the items offered, all of which have been accepted. -/
theorem offers_of_acceptances {items : List T.Response}
    (all : run.verdicts = Handler.acceptances items) :
    Journal.offers run.journal = items ∧ Journal.accepted run.journal = items := by
  have verdicts : Journal.verdicts run.journal = Handler.acceptances items := all
  rw [Journal.offers_eq_verdicts, Journal.accepted_eq_verdicts, verdicts,
    Handler.filter_acceptances, Handler.map_fst_acceptances]
  exact ⟨rfl, rfl⟩

/-- A bad verdict is on the last item offered, before which all have been accepted. -/
theorem offers_of_refusal {before : List T.Response} {item : T.Response} {failure : Failure}
    (cut : run.verdicts = Handler.acceptances before ++ [(item, .error failure)]) :
    Journal.offers run.journal = before ++ [item] ∧ Journal.accepted run.journal = before := by
  have verdicts : Journal.verdicts run.journal = _ := cut
  rw [Journal.offers_eq_verdicts, Journal.accepted_eq_verdicts, verdicts, List.filter_append,
    Handler.filter_acceptances, List.map_append, List.map_append, Handler.map_fst_acceptances]
  exact ⟨rfl, List.append_nil before⟩

end Run

end Relay
