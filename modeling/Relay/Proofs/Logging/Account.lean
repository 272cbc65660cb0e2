import Relay.Proofs.Logging.Lines

/-!
# The account of a run

What a log has to tell of a run, from its turns alone. It opens with the span of the run, tells of
the turns one after the other, and closes with the outcome. A turn is told by the dispatch of its
message, a warning about each reply that its stage sends behind its end of the pipe, and, if it is
one of the first stage and has ended well, the ends of the pipe that have reached the caller.

* `Turn.lines` is what is told of a turn; which replies are late hangs on the turns before.
* `Job.account` is what is told of all of them, between `Job.spanLine` and `Job.lastLine`.
-/

namespace Relay

variable {T : Traffic} {η : Type}

/-! ## (1) Turns -/

namespace Turn

/-- **Whether a stage has sent the end of the pipe** in one of the given turns. -/
def hasEnded (stage : Nat) (turns : List (Turn T)) : Bool :=
  turns.any fun turn => turn.call.stage == stage && turn.sent.any Outgoing.isEop

/-- One more turn. -/
theorem hasEnded_concat (stage : Nat) (turns : List (Turn T)) (turn : Turn T) :
    hasEnded stage (turns ++ [turn]) =
      (hasEnded stage turns || (turn.call.stage == stage && turn.sent.any Outgoing.isEop)) := by
  simp [hasEnded]

/-- **The line of a call**: its stage, the kind of its message, its processor, and for responses
whether it is the end of the pipe. -/
def dispatchLine (processor : String) (turn : Turn T) : Log.Line :=
  match turn.call.message with
  | .request _ => ⟨.debug, "Dispatching request",
      [("stage", .nat turn.call.stage), ("kind", .text "request"), ("processor", .text processor)]⟩
  | .response reply => ⟨.debug, "Dispatching response",
      [("stage", .nat turn.call.stage), ("kind", .text "response"), ("processor", .text processor),
        ("eop", .bool reply.isEop)]⟩

/-- The warning about a late reply. -/
def lateLine (processor : String) (stage : Nat) (reply : Reply T.Response) : Log.Line :=
  ⟨.warn, "Response sent after end-of-pipe",
    [("stage", .nat stage), ("processor", .text processor), ("eop", .bool reply.isEop)]⟩

/-- The line of an end of the pipe that reaches the caller. -/
def eopLine (steps : Nat) : Log.Line :=
  ⟨.debug, "End of pipe reached the caller", [("steps", .nat steps)]⟩

/-- **The warnings of a turn**: one for each reply that its stage sends when it has ended, be it in
a turn before or in this one. -/
def lateLines (processor : String) (before : List (Turn T)) (turn : Turn T) : List Log.Line :=
  (Outgoing.late (hasEnded turn.call.stage before) turn.sent).map
    (lateLine processor turn.call.stage)

/-- **The ends of the pipe** that the caller gets to see with a turn; by then one more step has
been taken than there were turns before. -/
def eopLines (before : List (Turn T)) (turn : Turn T) : List Log.Line :=
  if turn.isClean = true ∧ turn.call.stage = 0 then
    List.replicate (turn.sent.countP Outgoing.isEop) (eopLine (before.length + 1))
  else []

/-- **All that is told of a turn.** -/
def lines (processor : String) (before : List (Turn T)) (turn : Turn T) : List Log.Line :=
  turn.dispatchLine processor :: turn.lateLines processor before ++ turn.eopLines before

/-- At its call nothing but that is told of a turn. -/
theorem lines_called (processor : String) (before : List (Turn T)) (call : Call T) :
    lines processor before { call } = [dispatchLine processor { call }] := by
  simp [lines, lateLines, eopLines, isClean, Outgoing.late]

/-- **A turn that goes on** adds the warnings about what is sent from then on. -/
theorem lines_extend (processor : String) (before : List (Turn T)) {turn : Turn T}
    (underWay : turn.result = none) (acts : List (Entry T)) :
    (turn.extend acts).lines processor before = turn.lines processor before ++
      (Outgoing.late (hasEnded turn.call.stage (before ++ [turn])) (Journal.sent acts)).map
        (lateLine processor turn.call.stage) := by
  have notClean := isClean_of_underWay underWay
  have notCleanYet : (turn.extend acts).isClean = false := isClean_of_underWay underWay
  rw [hasEnded_concat, beq_self_eq_true, Bool.true_and]
  simp only [lines, eopLines, lateLines, notClean, notCleanYet, Bool.false_eq_true, false_and,
    if_false, List.append_nil]
  show dispatchLine processor turn :: _ = _
  rw [extend, Outgoing.late_append, List.map_append]
  rfl

/-- **A turn that ends** adds the ends of the pipe that reach the caller. -/
theorem lines_ended (processor : String) (before : List (Turn T)) {turn : Turn T}
    (underWay : turn.result = none) (result : Except Failure Unit) :
    (turn.ended result).lines processor before =
      turn.lines processor before ++ (turn.ended result).eopLines before := by
  have nothing : turn.eopLines before = [] := by simp [eopLines, isClean_of_underWay underWay]
  rw [lines, lines, nothing, List.append_nil]
  rfl

end Turn

/-! ## (2) Runs -/

namespace Job

variable (job : Job T η)

/-- The name of the processor at a place. -/
def processorName (place : Nat) : String := (job.pipeline.processor? place).elim "" (·.name)

/-- **The account of turns**, behind others that came before. -/
def account : (before turns : List (Turn T)) → List Log.Line
  | _, [] => []
  | before, turn :: rest =>
    turn.lines (job.processorName turn.call.stage) before ++ account (before ++ [turn]) rest

/-- One more turn. -/
theorem account_concat (before turns : List (Turn T)) (turn : Turn T) :
    job.account before (turns ++ [turn]) = job.account before turns ++
      turn.lines (job.processorName turn.call.stage) (before ++ turns) := by
  induction turns generalizing before with
  | nil => simp [account]
  | cons first rest ih => simp [account, ih]

/-- The line of the span that a run opens. -/
def spanLine : Log.Line :=
  ⟨.info, "pipeline.run", [("run_id", .text job.runId.text), ("pipeline", .text job.pipeline.name),
    ("stages", .nat job.pipeline.size)]⟩

/-- **The last line of a run**: that it is complete, with the steps and the deliveries of its
summary, or that it has failed, with the steps up to then and the error. -/
def lastLine (steps : Nat) : Except RunError RunSummary → Log.Line
  | .ok summary => ⟨.info, "Pipeline run completed",
      [("run_id", .text summary.runId.text), ("pipeline", .text summary.pipeline),
        ("steps", .nat summary.steps), ("responses", .nat summary.responsesDelivered),
        ("duration_ms", .number (.real summary.durationMs))]⟩
  | .error error => ⟨.warn, "Pipeline run failed",
      [("run_id", .text job.runId.text), ("pipeline", .text job.pipeline.name),
        ("steps", .nat steps), ("code", .text error.code), ("error", .text error.message)]⟩

end Job

end Relay
