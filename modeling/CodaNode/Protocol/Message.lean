/-
Module: CodaNode.Protocol.Message
Layer: Protocol
Purpose: The life of one message as a table of stages: which operation `_process_message` is in, and
  which stage each outcome of it leads to. `processMessage_tracks` shows that the coroutine follows
  the table, so every later argument about one message is a case analysis over its rows.
Imports: CodaNode.Protocol.Rows
Main exports: JobMessage, Stage, Stage.Move, processMessage_tracks, Stage.Invariant
-/
import CodaNode.Protocol.Rows

namespace CodaNode

open Coroutine

/-- A message that carries the two required fields. -/
structure JobMessage where
  messageId : String
  jobId : String
  callbackUrl : String
  decoded : List (String × String)
deriving DecidableEq

/-- What `_process_message` makes of a stream entry before its first await: undecodable, without a
required field, or a job. -/
def StreamMessage.read (message : StreamMessage) : Except Exc (Option JobMessage) :=
  match decodeFields message.fields with
  | .error exception => .error exception
  | .ok decoded =>
      match requiredFields decoded with
      | .error _ => .ok none
      | .ok (jobId, callbackUrl) => .ok (some ⟨message.messageId, jobId, callbackUrl, decoded⟩)

/-- The job of an entry, where it has one. -/
def StreamMessage.job (message : StreamMessage) : JobMessage :=
  match message.read with
  | .ok (some job) => job
  | _ => ⟨message.messageId, "", "", []⟩

theorem StreamMessage.job_of_read {message : StreamMessage} {job : JobMessage}
    (reading : message.read = .ok (some job)) : message.job = job := by
  rw [StreamMessage.job, reading]

/-- A circuit that does not parse raises an exception of the standard library or of pydantic. -/
theorem isOrdinary_of_parseCircuit {self : Consumer} {decoded : List (String × String)} {exception : Exc}
    (failed : parseCircuit self decoded = .error exception) : exception.isOrdinary = true := by
  have missing : ∀ {key : String} {failure : Exc},
      lookupField decoded key = .error failure → failure.isOrdinary = true := by
    intro key failure absent
    unfold lookupField at absent
    split at absent
    · cases absent
    · cases absent
      rfl
  unfold parseCircuit at failed
  cases irJson : lookupField decoded "ir_json" with
  | error failure =>
      rw [irJson] at failed
      cases failed
      exact missing irJson
  | ok text =>
      rw [irJson] at failed
      cases reading : NativeGateIR.fromJson self.readFields text with
      | error failure =>
          simp only [bind, Except.bind, reading, Except.mapError] at failed
          cases failed
          rfl
      | ok ir =>
          cases shotsText : lookupField decoded "shots" with
          | error failure =>
              simp only [bind, Except.bind, reading, Except.mapError, shotsText] at failed
              cases failed
              exact missing shotsText
          | ok shotsText' =>
              simp only [bind, Except.bind, reading, Except.mapError, shotsText] at failed
              split at failed
              · cases failed
              · cases failed
                rfl

/-- An entry that is not text raises the exception of the decoder. -/
theorem kind_of_read {message : StreamMessage} {exception : Exc}
    (reading : message.read = .error exception) : exception.kind = .unicodeDecodeError := by
  have text : ∀ {field : FieldText} {failure : Exc}, field.decode = .error failure →
      failure.kind = .unicodeDecodeError := by
    intro field failure failed
    unfold FieldText.decode at failed
    split at failed
    · cases failed
    · split at failed
      · cases failed
      · cases failed
        rfl
  have fields : ∀ {entries : Fields} {failure : Exc}, decodeFields entries = .error failure →
      failure.kind = .unicodeDecodeError := by
    intro entries
    induction entries with
    | nil => intro failure failed; cases failed
    | cons entry rest inductionHypothesis =>
        obtain ⟨key, value⟩ := entry
        intro failure failed
        simp only [decodeFields, bind, Except.bind] at failed
        cases first : key.decode with
        | error other =>
            rw [first] at failed
            cases failed
            exact text first
        | ok key' =>
            rw [first] at failed
            cases second : value.decode with
            | error other =>
                rw [second] at failed
                cases failed
                exact text second
            | ok value' =>
                rw [second] at failed
                cases others : decodeFields rest with
                | error other =>
                    rw [others] at failed
                    cases failed
                    exact inductionHypothesis others
                | ok rest' =>
                    rw [others] at failed
                    cases failed
  unfold StreamMessage.read at reading
  cases decoding : decodeFields message.fields with
  | error failure =>
      rw [decoding] at reading
      cases reading
      exact fields decoding
  | ok decoded =>
      rw [decoding] at reading
      simp only at reading
      split at reading <;> cases reading

theorem isOrdinary_of_read {message : StreamMessage} {exception : Exc}
    (reading : message.read = .error exception) : exception.isOrdinary = true := by
  simp [Exc.isOrdinary, Exc.isException, Exc.isForeign, kind_of_read reading]

/-! ### Stages -/

/-- The operation `_process_message` is about to perform. A stage that an exception or a result passes
through carries it. -/
inductive Stage where
  /-- Log the call. -/
  | called
  /-- Read the status. -/
  | lookUp
  /-- Read the cancellation flag before the job is taken on. -/
  | pickUpFlag
  /-- Write the cancelled status of a job that is not taken on. -/
  | drop
  /-- Acknowledge a message that is not taken on. -/
  | dismiss
  /-- Write the executing status. -/
  | takeOn
  /-- Start the executor. -/
  | launch (ir : NativeGateIR) (shots : Int)
  /-- Wait for the executor. -/
  | poll
  /-- Take the outcome of the executor. -/
  | collect
  /-- Read the flag while the executor runs. -/
  | pollFlag
  /-- Call the cancellation hook of the executor. -/
  | hook
  /-- Cancel the executor task. -/
  | abandon
  /-- Wait for the cancelled executor task. -/
  | drain
  /-- Read the flag after the executor has returned. -/
  | ranFlag (result : ExecutionResult)
  /-- Leave `_run_job_with_cancellation`: ask whether the executor task has ended. -/
  | settle (outcome : Except Exc ExecutionResult)
  /-- Leave `_run_job_with_cancellation`: cancel an executor task that has not. -/
  | abort (outcome : Except Exc ExecutionResult)
  /-- Read the flag before the completed status is written. -/
  | doneFlag (result : ExecutionResult)
  /-- Write the completed status. -/
  | complete (result : ExecutionResult)
  /-- Read the flag before the webhook is sent. -/
  | lastFlag (result : ExecutionResult)
  /-- Send the result webhook. -/
  | report (result : ExecutionResult)
  /-- Write the cancelled status of a job that was taken on. -/
  | mark
  /-- Read the flag before a failure is recorded. -/
  | errorFlag (exception : Exc)
  /-- Write the failed status. -/
  | recordFailure (exception : Exc)
  /-- Send the error webhook. -/
  | reportFailure (exception : Exc)
  /-- Acknowledge a message that was taken on; then end with the outcome. -/
  | cleanUp (outcome : Except Exc Unit)
  /-- Forget the current job. -/
  | release (outcome : Except Exc Unit)
  /-- Be idle again. -/
  | free (outcome : Except Exc Unit)
  /-- The call has ended. -/
  | ended (outcome : Except Exc Unit)

namespace Stage

/-- Where the call starts once the entry has been read. -/
def opening (message : StreamMessage) : Stage :=
  match message.read with
  | .error exception => .ended (.error exception)
  | .ok none => .dismiss
  | .ok (some _) => .lookUp

/-- Where an exception of the `try` block leads. -/
def failing (exception : Exc) : Stage :=
  if exception.kind = .jobCancelled then .mark
  else if exception.isException then .errorFlag exception
  else .cleanUp (.error exception)

/-- Where a job is once its executing status has been written. -/
def started (self : Consumer) (job : JobMessage) : Stage :=
  match parseCircuit self job.decoded with
  | .ok (ir, shots) => .launch ir shots
  | .error exception => failing exception

/-- Where `_run_job_with_cancellation` leads when it ends. -/
def settled : Except Exc ExecutionResult → Stage
  | .ok result => .doneFlag result
  | .error exception => failing exception

/-! ### Phases

The stages fall into three phases. The job is taken on between the first and the second, and the
second ends with the acknowledgement in the `finally` clause. -/

/-- Where a stage lies: before the `try` block, inside it and its clauses, or after the call. -/
inductive Phase where
  | before
  | during
  | past
deriving Repr, DecidableEq

/-- The phase of a stage. -/
def phase : Stage → Phase
  | .called | .lookUp | .pickUpFlag | .drop | .dismiss | .takeOn => .before
  | .release _ | .free _ | .ended _ => .past
  | _ => .during

section Rows

variable (self : Consumer) (message : StreamMessage) (job : JobMessage)

/-- The rows of the table. [SRC consumer.py:282-367, 525-625] -/
inductive Move : Stage → (op : Op) → Except Exc op.Reply → Stage → Prop where
  | called {outcome} :
      Move .called (.note (.processMessage message)) outcome
        (afterCall outcome (fun _ => opening message) fun exception => .ended (.error exception))
  | lookUp {outcome} :
      Move .lookUp (.hgetState job.jobId) outcome
        (afterCall outcome
          (fun status =>
            if status = some .completed ∨ status = some .cancelled then .dismiss else .pickUpFlag)
          fun exception => .ended (.error exception))
  | pickUpFlag {outcome} :
      Move .pickUpFlag (.getCancelled job.jobId) outcome
        (afterCall outcome (fun flag => if flag then .drop else .takeOn)
          fun exception => .ended (.error exception))
  | drop {now outcome} :
      Move .drop
        (.hset job.jobId
          { state := some .cancelled
            cancelledAt := some now
            messageId := some job.messageId
            qpuId := some self.qpuId })
        outcome (afterSafe outcome .dismiss fun exception => .ended (.error exception))
  | dismiss {outcome} :
      Move .dismiss (.xack message.messageId) outcome
        (afterSafe outcome (.ended (.ok ())) fun exception => .ended (.error exception))
  | takeOn {now outcome} :
      Move .takeOn
        (.hset job.jobId
          { state := some .executing
            startedAt := some now
            messageId := some job.messageId
            qpuId := some self.qpuId })
        outcome (afterSafe outcome (started self job) fun exception => .ended (.error exception))
  | launch {ir shots outcome} :
      Move (.launch ir shots) (.createRun job.jobId ir shots) outcome
        (afterCall outcome (fun _ => .poll) failing)
  | poll {outcome} :
      Move .poll .waitRun outcome
        (afterCall outcome (fun done => if done then .collect else .pollFlag)
          fun exception => .settle (.error exception))
  -- the explored part of the polling loop ends here; nothing answers
  | hang {outcome} :
      Move .poll .hang outcome
        (afterCall outcome (fun _ => .poll) fun exception => .settle (.error exception))
  | collect {outcome} :
      Move .collect .awaitRun outcome
        (afterCall outcome .ranFlag fun exception => .settle (.error exception))
  | pollFlag {outcome} :
      Move .pollFlag (.getCancelled job.jobId) outcome
        (afterCall outcome
          (fun flag => if flag then (if self.hasCancelHook then .hook else .abandon) else .poll)
          fun exception => .settle (.error exception))
  | hook {outcome} :
      Move .hook .cancelCurrentJob outcome
        (afterLogged outcome .abandon fun exception => .settle (.error exception))
  | abandon {outcome} :
      Move .abandon .cancelRun outcome
        (afterCall outcome (fun _ => .drain) fun exception => .settle (.error exception))
  | drain {outcome} :
      Move .drain .awaitRun outcome (.settle (.error jobCancelledWhileExecuting))
  | ranFlag {result outcome} :
      Move (.ranFlag result) (.getCancelled job.jobId) outcome
        (afterCall outcome
          (fun flag =>
            .settle (if flag then .error jobCancelledWhileExecuting else .ok result))
          fun exception => .settle (.error exception))
  | settle {ending outcome} :
      Move (.settle ending) .runDone outcome
        (afterCall outcome (fun done => if done then settled ending else .abort ending) failing)
  | abort {ending outcome} :
      Move (.abort ending) .cancelRun outcome
        (afterCall outcome (fun _ => settled ending) failing)
  | doneFlag {result outcome} :
      Move (.doneFlag result) (.getCancelled job.jobId) outcome
        (afterCall outcome
          (fun flag => if flag then failing jobCancelledWhileExecuting else .complete result) failing)
  | complete {result now outcome} :
      Move (.complete result)
        (.hset job.jobId { state := some .completed, completedAt := some now }) outcome
        (afterSafe outcome (.lastFlag result) failing)
  | lastFlag {result outcome} :
      Move (.lastFlag result) (.getCancelled job.jobId) outcome
        (afterCall outcome
          (fun flag => if flag then failing jobCancelledWhileExecuting else .report result) failing)
  | report {result outcome} :
      Move (.report result) (.sendResult job.callbackUrl (.ofResult job.jobId result)) outcome
        (afterCall outcome (fun _ => .cleanUp (.ok ())) failing)
  | mark {now outcome} :
      Move .mark
        (.hset job.jobId
          { state := some .cancelled
            cancelledAt := some now
            messageId := some job.messageId
            qpuId := some self.qpuId })
        outcome (afterSafe outcome (.cleanUp (.ok ())) fun exception => .cleanUp (.error exception))
  | errorFlag {exception outcome} :
      Move (.errorFlag exception) (.getCancelled job.jobId) outcome
        (afterCall outcome (fun flag => if flag then .mark else .recordFailure exception)
          fun failure => .cleanUp (.error failure))
  | recordFailure {exception now outcome} :
      Move (.recordFailure exception)
        (.hset job.jobId
          { state := some .failed, error := some (errorText exception), failedAt := some now })
        outcome (afterSafe outcome (.reportFailure exception) fun failure => .cleanUp (.error failure))
  | reportFailure {exception outcome} :
      Move (.reportFailure exception)
        (.sendError job.callbackUrl job.jobId (errorText exception)) outcome
        (afterLogged outcome (.cleanUp (.ok ())) fun failure => .cleanUp (.error failure))
  | cleanUp {ending outcome} :
      Move (.cleanUp ending) (.xack message.messageId) outcome
        (afterSafe outcome (.release ending) fun exception => .ended (.error exception))
  | release {ending} :
      Move (.release ending) (.modify fun attrs => { attrs with currentJobId := none }) (.ok ())
        (.free ending)
  | free {ending} :
      Move (.free ending) (.modify fun attrs => { attrs with idle := true }) (.ok ()) (.ended ending)
  -- before that, reading the clock and bookkeeping are not stages
  | clock {stage now} (inside : stage.phase ≠ .past) : Move stage .utcNow (.ok now) stage
  | assign {stage change} (inside : stage.phase ≠ .past) (quiet : Attrs.Quiet change) :
      Move stage (.modify change) (.ok ()) stage

end Rows

/-! ### The coroutine follows the table -/

section Tracks

variable {self : Consumer} {message : StreamMessage} {job : JobMessage} {stage : Stage}

/-- The coroutine follows the rows for this message. -/
abbrev Tracks {α : Type} (self : Consumer) (message : StreamMessage) (job : JobMessage)
    (onReturn : α → Stage → Prop) (onRaise : Exc → Stage → Prop) (body : Task α) (stage : Stage) :
    Prop :=
  Follows (Move self message job) onReturn onRaise body stage

private theorem tracks_utcNow {onRaise : Exc → Stage → Prop} (inside : stage.phase ≠ .past) :
    Tracks self message job (fun _ later => later = stage) onRaise (call .utcNow) stage :=
  Follows.answered rfl "" fun _ => .clock inside

private theorem tracks_assign {change : Attrs → Attrs} {onRaise : Exc → Stage → Prop}
    (inside : stage.phase ≠ .past) (quiet : Attrs.Quiet change) :
    Tracks self message job (fun _ later => later = stage) onRaise (assign change) stage :=
  Follows.answered rfl () fun _ => .assign inside quiet

private theorem tracks_requestRunnerCancel :
    Tracks self message job (fun _ later => later = .abandon)
      (fun exception later => later = .settle (.error exception)) (requestRunnerCancel self)
      (if self.hasCancelHook then .hook else .abandon) := by
  unfold requestRunnerCancel
  cases self.hasCancelHook with
  | true => exact Follows.logged (Follows.call_imp (fun _ => .hook) (fun _ => rfl) fun _ => rfl)
  | false => rfl

private theorem tracks_drain {onRaise : Exc → Stage → Prop} :
    Tracks self message job (fun _ later => later = .settle (.error jobCancelledWhileExecuting)) onRaise
      ((discard (call .awaitRun)).catching fun _ => .ret ()) .drain := by
  have waited : Tracks self message job
      (fun _ later => later = .settle (.error jobCancelledWhileExecuting))
      (fun _ later => later = .settle (.error jobCancelledWhileExecuting)) (discard (call .awaitRun))
      .drain :=
    Follows.call_bind (fun _ => .drain) (fun _ => rfl) fun _ => rfl
  exact waited.catching fun _ _ reached => reached

/-- Where the polling loop leads: to a result read after a last look at the flag, or to an
exception. -/
private theorem tracks_pollRun (rounds : Nat) :
    Tracks self message job (fun result later => later = .settle (.ok result))
      (fun exception later => later = .settle (.error exception)) (pollRun self job.jobId rounds)
      .poll := by
  induction rounds with
  | zero => exact Follows.call_bind (fun _ => .hang) (fun never => by cases never) fun _ => rfl
  | succ rounds inductionHypothesis =>
      refine Follows.call_bind (fun _ => .poll) (fun done => ?_) fun _ => rfl
      cases done with
      | true =>
          refine Follows.call_bind (fun _ => .collect) (fun result => ?_) fun _ => rfl
          refine Follows.call_bind (fun _ => .ranFlag) (fun flag => ?_) fun _ => rfl
          cases flag <;> rfl
      | false =>
          refine Follows.call_bind (fun _ => .pollFlag) (fun flag => ?_) fun _ => rfl
          cases flag with
          | false => exact inductionHypothesis
          | true =>
              refine tracks_requestRunnerCancel.bind ?_
              rintro _ later rfl
              refine Follows.call_bind (fun _ => .abandon) (fun _ => ?_) fun _ => rfl
              refine tracks_drain.bind ?_
              rintro _ later rfl
              rfl

private theorem tracks_leaveRun {ending : Except Exc ExecutionResult} :
    Tracks self message job (fun _ later => later = settled ending)
      (fun exception later => later = failing exception)
      (do
        if ← call .runDone then
          return ()
        else
          call .cancelRun)
      (.settle ending) := by
  refine Coro.Tracks.bind (Follows.answered rfl true fun _ => .settle) ?_
  rintro done later rfl
  cases done with
  | true => rfl
  | false => exact Follows.answered rfl () fun _ => .abort

private theorem tracks_runJobWithCancellation {ir : NativeGateIR} {shots : Int} :
    Tracks self message job (fun result later => later = .doneFlag result)
      (fun exception later => later = failing exception)
      (runJobWithCancellation self job.jobId ir shots) (.launch ir shots) := by
  refine Follows.call_bind (fun _ => .launch) (fun _ => ?_) fun _ => rfl
  refine (tracks_pollRun self.pollRounds).finally ?_ ?_
  · rintro result later rfl
    exact tracks_leaveRun
  · rintro exception later rfl
    exact tracks_leaveRun

private theorem tracks_executeJob :
    Tracks self message job (fun _ later => later = .cleanUp (.ok ()))
      (fun exception later => later = failing exception)
      (executeJob self job.jobId job.callbackUrl job.decoded) (started self job) := by
  unfold executeJob started
  cases parseCircuit self job.decoded with
  | error exception => rfl
  | ok parsed =>
      refine tracks_runJobWithCancellation.bind ?_
      rintro result later rfl
      refine Follows.call_bind (fun _ => .doneFlag) (fun flag => ?_) fun _ => rfl
      cases flag with
      | true => rfl
      | false =>
          refine (tracks_utcNow (of_decide_eq_false rfl)).bind ?_
          rintro now later rfl
          refine (Follows.safeHset fun _ => .complete).bind ?_
          rintro _ later rfl
          refine Follows.call_bind (fun _ => .lastFlag) (fun flag => ?_) fun _ => rfl
          cases flag with
          | true => rfl
          | false =>
              refine Follows.call_bind (fun _ => .report) (fun _ => ?_) fun _ => rfl
              refine (tracks_utcNow (of_decide_eq_false rfl)).bind ?_
              rintro now later rfl
              exact tracks_assign (of_decide_eq_false rfl) fun attrs => ⟨attrs.idle, attrs.currentJobId, some now, rfl⟩

private theorem tracks_handleJobError (exception : Exc) :
    Tracks self message job (fun _ later => later = .cleanUp (.ok ()))
      (fun failure later => later = .cleanUp (.error failure))
      (handleJobError self job.jobId job.messageId job.callbackUrl exception)
      (failing exception) := by
  unfold handleJobError failing
  by_cases cancelled : exception.kind = .jobCancelled
  · simp only [cancelled, if_true]
    exact Follows.markJobCancelled (fun _ => .clock (of_decide_eq_false rfl)) fun _ => .mark
  · simp only [cancelled, if_false]
    by_cases caught : exception.isException = true
    · simp only [caught, if_true]
      refine Follows.call_bind (fun _ => .errorFlag) (fun flag => ?_) fun _ => rfl
      cases flag with
      | true => exact Follows.markJobCancelled (fun _ => .clock (of_decide_eq_false rfl)) fun _ => .mark
      | false =>
          refine (tracks_utcNow (of_decide_eq_false rfl)).bind ?_
          rintro now later rfl
          refine (Follows.safeHset fun _ => .recordFailure).bind ?_
          rintro _ later rfl
          exact Follows.logged
            (Follows.call_imp (fun _ => .reportFailure) (fun _ => rfl) fun _ => rfl)
    · simp only [caught]
      rfl

private theorem tracks_cleanUpJob {ending : Except Exc Unit} :
    Tracks self message job (fun _ later => later = .ended ending)
      (fun exception later => later = .ended (.error exception)) (cleanUpJob message.messageId)
      (.cleanUp ending) := by
  refine (Follows.safeXack fun _ => .cleanUp).bind ?_
  rintro _ later rfl
  refine Coro.Tracks.bind (Follows.answered rfl () fun _ => .release) ?_
  rintro _ later rfl
  exact Follows.answered rfl () fun _ => .free

private theorem tracks_runMessage (same : job.messageId = message.messageId) :
    Tracks self message job (fun _ later => later = .ended (.ok ()))
      (fun exception later => later = .ended (.error exception))
      (runMessage self message.messageId job.jobId job.callbackUrl job.decoded) .takeOn := by
  have handled : Tracks self message job (fun _ later => later = .cleanUp (.ok ()))
      (fun exception later => later = .cleanUp (.error exception))
      ((executeJob self job.jobId job.callbackUrl job.decoded).catching
        (handleJobError self job.jobId message.messageId job.callbackUrl)) (started self job) := by
    refine tracks_executeJob.catching ?_
    rintro exception later rfl
    rw [← same]
    exact tracks_handleJobError exception
  refine (tracks_assign (of_decide_eq_false rfl) fun attrs => ⟨false, attrs.currentJobId, attrs.lastJobAt, rfl⟩).bind ?_
  rintro _ later rfl
  refine (tracks_assign (of_decide_eq_false rfl) fun attrs => ⟨attrs.idle, some job.jobId, attrs.lastJobAt, rfl⟩).bind ?_
  rintro _ later rfl
  refine (tracks_utcNow (of_decide_eq_false rfl)).bind ?_
  rintro now later rfl
  refine (Follows.safeHset (by rw [← same]; exact fun _ => .takeOn)).bind ?_
  rintro _ later rfl
  refine handled.finally ?_ ?_
  · rintro _ later rfl
    exact tracks_cleanUpJob
  · rintro exception later rfl
    exact tracks_cleanUpJob

/-- `_process_message` follows the table of its message. A message that is not a job follows the table
of any job. -/
theorem processMessage_tracks
    (fits : ∀ other, message.read = .ok (some other) → other = job) :
    Tracks self message job (fun _ later => later = .ended (.ok ()))
      (fun exception later => later = .ended (.error exception)) (processEntry self message)
      .called := by
  refine Coro.Tracks.bind (Follows.answered rfl () fun _ => .called) ?_
  rintro _ later rfl
  simp only [opening, StreamMessage.read, afterCall] at fits ⊢
  cases decoding : decodeFields message.fields with
  | error exception => rfl
  | ok decoded =>
      simp only [decoding, Coro.ofExcept, Coro.ret_bind] at fits ⊢
      cases required : requiredFields decoded with
      | error exception => exact Follows.safeXack fun _ => .dismiss
      | ok fields =>
          obtain ⟨jobId, callbackUrl⟩ := fields
          have same : (⟨message.messageId, jobId, callbackUrl, decoded⟩ : JobMessage) = job :=
            fits _ (by simp only [required])
          subst same
          refine Follows.call_bind (fun _ => .lookUp) (fun status => ?_) fun _ => rfl
          by_cases final : status = some .completed ∨ status = some .cancelled
          · simp only [afterCall, final, if_true]
            exact Follows.safeXack fun _ => .dismiss
          · simp only [afterCall, final, if_false]
            refine Follows.call_bind (fun _ => .pickUpFlag) (fun flag => ?_) fun _ => rfl
            cases flag with
            | true =>
                refine (Follows.markJobCancelled (fun _ => .clock (of_decide_eq_false rfl)) fun _ => .drop).bind ?_
                rintro _ later rfl
                exact Follows.safeXack fun _ => .dismiss
            | false => exact tracks_runMessage rfl

end Tracks

/-! ### Rows and phases -/

theorem failing_of_isOrdinary {exception : Exc} (ordinary : exception.isOrdinary = true) :
    failing exception = .errorFlag exception := by
  simp only [Exc.isOrdinary, Bool.and_eq_true] at ordinary
  unfold failing
  rw [if_neg (by simpa [Exc.isForeign] using ordinary.2), if_pos ordinary.1]

theorem failing_phase (exception : Exc) : (failing exception).phase = .during := by
  unfold failing
  split
  · rfl
  · split <;> rfl

theorem settled_phase (ending : Except Exc ExecutionResult) : (settled ending).phase = .during := by
  cases ending with
  | ok result => rfl
  | error exception => exact failing_phase exception

theorem started_phase (self : Consumer) (job : JobMessage) : (started self job).phase = .during := by
  unfold started
  split
  · rfl
  · exact failing_phase _

/-- Nothing follows the end. -/
theorem Move.not_ended {self : Consumer} {message : StreamMessage} {job : JobMessage} {next : Stage}
    {op : Op} {outcome : Except Exc op.Reply} {ending : Except Exc Unit}
    (row : Move self message job (.ended ending) op outcome next) : False := by
  cases row with
  | clock inside => exact inside rfl
  | assign inside => exact inside rfl

/-- A stage of a call inside another table, which goes on at `returned` or `raised` after it. -/
def within {S : Type} (lift : Stage → S) (returned : S) (raised : Exc → S) : Stage → S
  | .ended (.ok ()) => returned
  | .ended (.error exception) => raised exception
  | stage => lift stage

/-- Either the call goes on or it has ended. -/
theorem within_cases {S : Type} {lift : Stage → S} {returned : S} {raised : Exc → S}
    {motive : S → Prop} {stage : Stage}
    (inside : (∀ ending, stage ≠ .ended ending) → motive (lift stage))
    (returns : stage = .ended (.ok ()) → motive returned)
    (raises : ∀ exception, stage = .ended (.error exception) → motive (raised exception)) :
    motive (within lift returned raised stage) := by
  cases stage with
  | ended ending =>
      cases ending with
      | ok value => exact returns rfl
      | error exception => exact raises exception rfl
  | _ => exact inside (fun _ same => by cases same)

/-- A call of `_process_message` inside another coroutine follows the rows of its message there. -/
theorem processEntry_follows {S : Type} {move : S → (op : Op) → Except Exc op.Reply → S → Prop}
    {self : Consumer} {message : StreamMessage} {returned : S} {raised : Exc → S} (lift : Stage → S)
    (rows : ∀ {stage op outcome next}, Move self message message.job stage op outcome next →
      move (lift stage) op outcome (within lift returned raised next)) :
    Follows move (fun _ later => later = returned) (fun exception later => later = raised exception)
      (processEntry self message) (lift .called) := by
  have tracks : Tracks self message message.job (fun _ later => later = .ended (.ok ()))
      (fun exception later => later = .ended (.error exception)) (processEntry self message) .called :=
    processMessage_tracks fun other reading => (StreamMessage.job_of_read reading).symm
  refine (Coro.Tracks.map (within lift returned raised) ?_ tracks).imp ?_ ?_
  · intro first op outcome second row
    cases first with
    | ended ending => exact row.not_ended.elim
    | _ => exact rows row
  · rintro value later ⟨last, rfl, rfl⟩
    rfl
  · rintro exception later ⟨last, rfl, rfl⟩
    rfl

theorem opening_phase (message : StreamMessage) :
    (opening message).phase = .before ∨ ∃ exception, opening message = .ended (.error exception) := by
  unfold opening
  split
  · exact .inr ⟨_, rfl⟩
  · exact .inl rfl
  · exact .inl rfl

/-- Inside the `try` block and its clauses every operation leads to another one there, except the
acknowledgement, which is the last. -/
theorem Move.during {self : Consumer} {message : StreamMessage} {job : JobMessage}
    {stage next : Stage} {op : Op} {outcome : Except Exc op.Reply}
    (row : Move self message job stage op outcome next) (inside : stage.phase = .during) :
    (next.phase = .during ∧ ∀ id, op ≠ .xack id) ∨
      (next.phase = .past ∧ op = .xack message.messageId) := by
  cases row with
  | @cleanUp ending outcome =>
      refine .inr ⟨?_, rfl⟩
      cases outcome with
      | ok value => rfl
      | error exception =>
          simp only [afterSafe]
          split <;> rfl
  | drain => exact .inl ⟨rfl, by simp⟩
  | clock => exact .inl ⟨inside, by simp⟩
  | assign => exact .inl ⟨inside, by simp⟩
  | called | lookUp | pickUpFlag | drop | dismiss | takeOn | release | free => cases inside
  | _ =>
      rename_i outcome
      refine .inl ⟨?_, by simp⟩
      cases outcome <;> simp only [afterCall, afterSafe, afterLogged] <;> (repeat' split) <;>
        first | rfl | exact failing_phase _ | exact settled_phase _

/-- Once the call has begun, every operation in front of the `try` block leads to another one there, into the
block or to an exception, except the acknowledgement of a message that is not taken on. -/
theorem Move.before {self : Consumer} {message : StreamMessage} {job : JobMessage}
    {stage next : Stage} {op : Op} {outcome : Except Exc op.Reply}
    (row : Move self message job stage op outcome next) (inside : stage.phase = .before)
    (begun : stage ≠ .called) :
    ((next.phase ≠ .past ∨ ∃ exception, next = .ended (.error exception)) ∧ ∀ id, op ≠ .xack id) ∨
      (next.phase = .past ∧ op = .xack message.messageId) := by
  cases row with
  | called => exact absurd rfl begun
  | @dismiss outcome =>
      refine .inr ⟨?_, rfl⟩
      cases outcome with
      | ok value => rfl
      | error exception =>
          simp only [afterSafe]
          split <;> rfl
  | clock outside | assign outside => exact .inl ⟨.inl outside, by simp⟩
  | @lookUp outcome | @pickUpFlag outcome =>
      refine .inl ⟨?_, by simp⟩
      cases outcome with
      | ok value =>
          simp only [afterCall]
          split <;> exact .inl (by decide)
      | error exception => exact .inr ⟨exception, rfl⟩
  | @drop _ outcome =>
      refine .inl ⟨?_, by simp⟩
      cases outcome with
      | ok value => exact .inl (by simp [afterSafe, phase])
      | error exception =>
          simp only [afterSafe]
          split
          · exact .inl (by simp [phase])
          · exact .inr ⟨exception, rfl⟩
  | @takeOn _ outcome =>
      have later := started_phase self job
      refine .inl ⟨?_, by simp⟩
      cases outcome with
      | ok value => exact .inl (by simp [afterSafe, later])
      | error exception =>
          simp only [afterSafe]
          split
          · exact .inl (by simp [later])
          · exact .inr ⟨exception, rfl⟩
  | _ => cases inside

/-- No row leads back to the start of the call. -/
theorem Move.called_of {self : Consumer} {message : StreamMessage} {job : JobMessage}
    {stage : Stage} {op : Op} {outcome : Except Exc op.Reply}
    (row : Move self message job stage op outcome .called) : stage = .called ∧ op.logged = false := by
  by_cases inside : stage.phase = .during
  · rcases row.during inside with ⟨impossible, -⟩ | ⟨impossible, -⟩ <;> cases impossible
  · generalize target : Stage.called = next at row
    cases row with
    | clock | assign => exact ⟨rfl, rfl⟩
    | @called outcome =>
        cases outcome with
        | error exception => cases target
        | ok value =>
            simp only [afterCall, opening] at target
            split at target <;> cases target
    | @lookUp outcome | @pickUpFlag outcome =>
        cases outcome with
        | error exception => cases target
        | ok value =>
            simp only [afterCall] at target
            split at target <;> cases target
    | @drop _ outcome | @dismiss outcome =>
        cases outcome with
        | ok value => cases target
        | error exception =>
            simp only [afterSafe] at target
            split at target <;> cases target
    | @takeOn _ outcome =>
        have later := started_phase self job
        cases outcome with
        | ok value => rw [← show Stage.called = started self job from target] at later; cases later
        | error exception =>
            simp only [afterSafe] at target
            split at target
            · rw [← target] at later; cases later
            · cases target
    | release | free => cases target
    | _ => exact absurd rfl inside

theorem Move.inner {self : Consumer} {message : StreamMessage} {job : JobMessage}
    {stage next : Stage} {op : Op} {outcome : Except Exc op.Reply}
    (row : Move self message job stage op outcome next) : op.Inner := by
  cases row with
  | assign inside quiet => exact quiet
  | release => exact fun attrs => ⟨attrs.idle, none, attrs.lastJobAt, rfl⟩
  | free => exact fun attrs => ⟨true, attrs.currentJobId, attrs.lastJobAt, rfl⟩
  | _ => trivial

theorem Move.ofMessage {self : Consumer} {message : StreamMessage} {job : JobMessage}
    {stage next : Stage} {op : Op} {outcome : Except Exc op.Reply}
    (row : Move self message job stage op outcome next) : op.ofMessage = true := by
  cases row <;> rfl

/-! ### Runs of one call -/

/-- No row creates a task. -/
theorem Move.spawns {self : Consumer} {message : StreamMessage} {job : JobMessage} {stage next : Stage}
    {op : Op} {outcome : Except Exc op.Reply} (row : Move self message job stage op outcome next)
    (world : World) : spawned self world op = [] := by
  cases row <;> rfl

/-- An assertion about the stages that the environment and every row preserve. -/
structure Invariant (consumer : Consumer) (policy : Policy) (message : StreamMessage) (job : JobMessage)
    (holds : Stage → World → Prop) : Prop where
  env : ∀ {stage world event next}, policy.env event → world.occur event = some next →
    holds stage world → holds stage (next.record (.env event))
  row : ∀ {stage op outcome later fate world next}, Move consumer message job stage op outcome later →
    holds stage world → World.Performs policy world op outcome fate next →
      holds later (next.recordCall .loop op outcome fate)

/-- The table of one call. -/
def callTable (self : Consumer) (policy : Policy) (message : StreamMessage) (job : JobMessage) :
    Table (machine self policy) Stage where
  possible := Feasible
  move _ := Move self message job
  past _ outcome stage := stage = .ended outcome
  entry _ := .called
  feasible := feasible_of_performs
  spawned := by
    intro name stage op outcome next state row task member
    change task ∈ spawned self state op at member
    rw [row.spawns state] at member
    cases member

/-- In every state a call of `_process_message` reaches, the assertion of some stage holds, and once
the call has ended, that of the stage it has ended in. -/
theorem Invariant.reaches {self : Consumer} {policy : Policy} {message : StreamMessage}
    {job : JobMessage} {holds : Stage → World → Prop}
    (invariant : Invariant self policy message job holds)
    (fits : ∀ other, message.read = .ok (some other) → other = job) {world : World}
    (start : holds .called world) {system : System}
    (reaches : Pool.Reaches (machine self policy)
      (Pool.single world .loop (processEntry self message)) system) :
    (∃ stage, holds stage system.state) ∧
      (system.Ended → ∃ outcome, holds (.ended outcome) system.state) := by
  let table := callTable self policy message job
  have tracked : table.Tracked (Pool.single world Role.loop (processEntry self message))
      [(.loop, .called)] := .single (processMessage_tracks fits)
  let alone (snapshot : Snapshot World Role Stage) : Prop :=
    ∃ stage, snapshot.places = [(.loop, stage)] ∧ holds stage snapshot.state
  have kept : ∀ {first second : Snapshot World Role Stage}, table.Step first second →
      alone first → alone second := by
    rintro first second step ⟨stage, shape, here⟩
    cases step with
    | env move =>
        obtain ⟨event, next, allowed, occurs, rfl⟩ := move
        exact ⟨stage, shape, invariant.env allowed occurs here⟩
    | @row state state' before after name place next op outcome row performed =>
        have parts : before = [] ∧ after = [] ∧ name = .loop ∧ place = stage := by
          cases before with
          | nil =>
              obtain ⟨same, rest⟩ := List.cons.inj shape
              obtain ⟨rfl, rfl⟩ := Prod.mk.inj same
              exact ⟨rfl, rest, rfl, rfl⟩
          | cons first rest => simp at shape
        obtain ⟨rfl, rfl, rfl, rfl⟩ := parts
        obtain ⟨fate, after, performs, rfl⟩ := performed
        have fresh : (machine self policy).spawns state op = [] := row.spawns state
        refine ⟨next, ?_, invariant.row row here performs⟩
        simp [fresh]
  obtain ⟨places, tracked', stage, shape, here⟩ :=
    Table.Tracked.reaches kept tracked ⟨.called, rfl, start⟩ reaches
  refine ⟨⟨stage, here⟩, fun ended => ?_⟩
  obtain ⟨outcome, last⟩ := tracked'.past ended (.loop, stage) (by
    rw [show places = [(.loop, stage)] from shape]
    exact List.mem_singleton_self _)
  change stage = .ended outcome at last
  exact ⟨outcome, last ▸ here⟩

end Stage

/-! ### A sample job -/

/-- The job of a sample message. -/
def Sample.job : JobMessage :=
  ⟨"1-0", "job", "url", [("job_id", "job"), ("callback_url", "url"), ("ir_json", "circuit"),
    ("shots", "10")]⟩

theorem Sample.message_read : (Sample.message "1-0" "job").read = .ok (some Sample.job) := by
  decide +kernel

end CodaNode
