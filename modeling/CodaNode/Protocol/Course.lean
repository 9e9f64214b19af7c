/-
Module: CodaNode.Protocol.Course
Layer: Protocol
Purpose: The deeds of one call of `_process_message` while only the fetching of messages can fail. At
  every stage they are one of a few lists, and a call that has ended has left one of `Served`.
Imports: CodaNode.Protocol.Sound, CodaNode.Server.Deeds
Main exports: Stage.Course, Stage.Served, Stage.Course.row
-/
import CodaNode.Protocol.Sound
import CodaNode.Server.Deeds

namespace CodaNode

open Coroutine

/-- Nothing the executor task has ended with is private to the consumer. -/
def RunForeign (runTask : Option RunTask) : Prop :=
  ∀ run, runTask = some run → ∀ outcome, run.outcome = some outcome → Exc.foreign outcome = true

/-- A state in which a job is taken on. -/
def Unsettled (state : Option JobState) : Prop :=
  state ≠ some .completed ∧ state ≠ some .cancelled

namespace Stage

section Course

variable (self : Consumer) (flags : String → Bool) (message : StreamMessage)

/-! ### The status writes -/

/-- The executing status of a job that is processed by itself. -/
def wroteExecuting : Deed :=
  .wrote message.job.jobId
    { state := some .executing
      startedAt := some ""
      messageId := some message.job.messageId
      qpuId := some self.qpuId }

/-- The cancelled status. -/
def wroteCancelled : Deed :=
  .wrote message.job.jobId
    { state := some .cancelled
      cancelledAt := some ""
      messageId := some message.job.messageId
      qpuId := some self.qpuId }

/-- The completed status. -/
def wroteCompleted : Deed :=
  .wrote message.job.jobId { state := some .completed, completedAt := some "" }

/-- The failed status. -/
def wroteFailed (exception : Exc) : Deed :=
  .wrote message.job.jobId
    { state := some .failed, error := some (errorText exception), failedAt := some "" }

/-! ### Parts of a call -/

/-- The call has looked the status up and found that the job may be taken on. -/
inductive Picked : List Deed → Prop where
  | mk {state : Option JobState} (reading : message.read = .ok (some message.job))
      (unsettled : Unsettled state) : Picked [.called message, .saw message.job.jobId state]

/-- The message is not taken on. -/
inductive Turned : List Deed → Prop where
  | malformed (reading : message.read = .ok none) : Turned [.called message]
  | final {state : Option JobState} (reading : message.read = .ok (some message.job))
      (final : state = some .completed ∨ state = some .cancelled) :
      Turned [.called message, .saw message.job.jobId state]
  | dropped {deeds : List Deed} (picked : Picked message deeds) :
      Turned (deeds ++ [.flagged message.job.jobId, wroteCancelled self message])

/-- The job has been taken on. -/
inductive Taken : List Deed → Prop where
  | mk {deeds : List Deed} (picked : Picked message deeds) (clear : flags message.job.jobId = false) :
      Taken (deeds ++ [wroteExecuting self message])

/-- The executor has been started. -/
inductive Launched : List Deed → Prop where
  | mk {deeds : List Deed} {ir : NativeGateIR} {shots : Int} (taken : Taken self flags message deeds)
      (parsed : parseCircuit self message.job.decoded = .ok (ir, shots)) :
      Launched (deeds ++ [.ran message.job.jobId ir shots])

/-- The executor has returned a result. -/
inductive Returned (result : ExecutionResult) : List Deed → Prop where
  | mk {deeds : List Deed} (launched : Launched self flags message deeds) :
      Returned result (deeds ++ [.returned (.ok result)])

/-- The job has been found cancelled after it was taken on. -/
inductive Struck : List Deed → Prop where
  | polled {deeds : List Deed} {outcome : Except Exc ExecutionResult}
      (launched : Launched self flags message deeds) :
      Struck (deeds ++ [.flagged message.job.jobId, .returned outcome])
  | returned {deeds : List Deed} {result : ExecutionResult} (returned : Returned self flags message result deeds) :
      Struck (deeds ++ [.flagged message.job.jobId])
  | completed {deeds : List Deed} {result : ExecutionResult} (returned : Returned self flags message result deeds) :
      Struck (deeds ++ [wroteCompleted message, .flagged message.job.jobId])

/-- The job has failed with this exception. -/
inductive Broken (exception : Exc) : List Deed → Prop where
  | unparsed {deeds : List Deed} (taken : Taken self flags message deeds)
      (failed : parseCircuit self message.job.decoded = .error exception) : Broken exception deeds
  | raised {deeds : List Deed} (launched : Launched self flags message deeds) :
      Broken exception (deeds ++ [.returned (.error exception)])
  | undelivered {deeds : List Deed} {result : ExecutionResult} (returned : Returned self flags message result deeds) :
      Broken exception (deeds ++
        [wroteCompleted message,
          .reported message.job.callbackUrl (.ofResult message.job.jobId result) (.error exception)])

/-- What the `try` statement leaves behind. -/
inductive Worked : List Deed → Prop where
  | cancelled {deeds : List Deed} (struck : Struck self flags message deeds) :
      Worked (deeds ++ [wroteCancelled self message])
  | late {deeds : List Deed} {exception : Exc} (broken : Broken self flags message exception deeds) :
      Worked (deeds ++ [.flagged message.job.jobId, wroteCancelled self message])
  | failed {deeds : List Deed} {exception : Exc} {outcome : Except Exc Unit}
      (broken : Broken self flags message exception deeds) :
      Worked (deeds ++
        [wroteFailed message exception,
          .reportedFailure message.job.callbackUrl message.job.jobId (errorText exception) outcome])
  | completed {deeds : List Deed} {result : ExecutionResult} (returned : Returned self flags message result deeds) :
      Worked (deeds ++
        [wroteCompleted message,
          .reported message.job.callbackUrl (.ofResult message.job.jobId result) (.ok ())])

/-- A call that has ended. -/
inductive Served : List Deed → Prop where
  | turned {deeds : List Deed} (turned : Turned self message deeds) :
      Served (deeds ++ [.acked message.messageId])
  | worked {deeds : List Deed} (worked : Worked self flags message deeds) :
      Served (deeds ++ [.acked message.messageId])

/-! ### Every stage -/

/-- The deeds of a call that is at this stage. -/
inductive Course : Stage → List Deed → Prop where
  | called : Course .called []
  | lookUp (reading : message.read = .ok (some message.job)) : Course .lookUp [.called message]
  | pickUpFlag {deeds : List Deed} (picked : Picked message deeds) : Course .pickUpFlag deeds
  | drop {deeds : List Deed} (picked : Picked message deeds) :
      Course .drop (deeds ++ [.flagged message.job.jobId])
  | dismiss {deeds : List Deed} (turned : Turned self message deeds) : Course .dismiss deeds
  | takeOn {deeds : List Deed} (picked : Picked message deeds) (clear : flags message.job.jobId = false) :
      Course .takeOn deeds
  | launch {deeds : List Deed} {ir : NativeGateIR} {shots : Int} (taken : Taken self flags message deeds)
      (parsed : parseCircuit self message.job.decoded = .ok (ir, shots)) : Course (.launch ir shots) deeds
  | poll {deeds : List Deed} (launched : Launched self flags message deeds) : Course .poll deeds
  | collect {deeds : List Deed} (launched : Launched self flags message deeds) : Course .collect deeds
  | pollFlag {deeds : List Deed} (launched : Launched self flags message deeds) : Course .pollFlag deeds
  | hook {deeds : List Deed} (launched : Launched self flags message deeds) :
      Course .hook (deeds ++ [.flagged message.job.jobId])
  | abandon {deeds : List Deed} (launched : Launched self flags message deeds) :
      Course .abandon (deeds ++ [.flagged message.job.jobId])
  | drain {deeds : List Deed} (launched : Launched self flags message deeds) :
      Course .drain (deeds ++ [.flagged message.job.jobId])
  | ranFlag {deeds : List Deed} {result : ExecutionResult} (returned : Returned self flags message result deeds) :
      Course (.ranFlag result) deeds
  | settleCancelled {deeds : List Deed} (struck : Struck self flags message deeds) :
      Course (.settle (.error jobCancelledWhileExecuting)) deeds
  | settleError {deeds : List Deed} {exception : Exc} (foreign : exception.isForeign = true)
      (broken : Broken self flags message exception deeds) : Course (.settle (.error exception)) deeds
  | settle {deeds : List Deed} {result : ExecutionResult} (returned : Returned self flags message result deeds) :
      Course (.settle (.ok result)) deeds
  | doneFlag {deeds : List Deed} {result : ExecutionResult} (returned : Returned self flags message result deeds) :
      Course (.doneFlag result) deeds
  | complete {deeds : List Deed} {result : ExecutionResult} (returned : Returned self flags message result deeds) :
      Course (.complete result) deeds
  | lastFlag {deeds : List Deed} {result : ExecutionResult} (returned : Returned self flags message result deeds) :
      Course (.lastFlag result) (deeds ++ [wroteCompleted message])
  | report {deeds : List Deed} {result : ExecutionResult} (returned : Returned self flags message result deeds) :
      Course (.report result) (deeds ++ [wroteCompleted message])
  | mark {deeds : List Deed} (struck : Struck self flags message deeds) : Course .mark deeds
  | markLate {deeds : List Deed} {exception : Exc} (broken : Broken self flags message exception deeds) :
      Course .mark (deeds ++ [.flagged message.job.jobId])
  | errorFlag {deeds : List Deed} {exception : Exc} (broken : Broken self flags message exception deeds) :
      Course (.errorFlag exception) deeds
  | recordFailure {deeds : List Deed} {exception : Exc} (broken : Broken self flags message exception deeds) :
      Course (.recordFailure exception) deeds
  | reportFailure {deeds : List Deed} {exception : Exc} (broken : Broken self flags message exception deeds) :
      Course (.reportFailure exception) (deeds ++ [wroteFailed message exception])
  | cleanUp {deeds : List Deed} (worked : Worked self flags message deeds) : Course (.cleanUp (.ok ())) deeds
  | release {deeds : List Deed} (worked : Worked self flags message deeds) :
      Course (.release (.ok ())) (deeds ++ [.acked message.messageId])
  | free {deeds : List Deed} (worked : Worked self flags message deeds) :
      Course (.free (.ok ())) (deeds ++ [.acked message.messageId])
  | ended {deeds : List Deed} (served : Served self flags message deeds) : Course (.ended (.ok ())) deeds
  | undecodable {exception : Exc} (reading : message.read = .error exception) :
      Course (.ended (.error exception)) [.called message]

end Course

variable {self : Consumer} {policy : Policy} {flags : String → Bool} {message : StreamMessage}
variable {stage later : Stage}
variable {world next : World} {here : List Deed}

/-! ### A message that got this far could be read -/

theorem Picked.read (picked : Picked message here) : message.read = .ok (some message.job) := by
  cases picked with
  | mk reading => exact reading

theorem Taken.read (taken : Taken self flags message here) : message.read = .ok (some message.job) := by
  cases taken with
  | mk picked => exact picked.read

theorem Launched.read (launched : Launched self flags message here) :
    message.read = .ok (some message.job) := by
  cases launched with
  | mk taken => exact taken.read

theorem Returned.read {result : ExecutionResult} (returned : Returned self flags message result here) :
    message.read = .ok (some message.job) := by
  cases returned with
  | mk launched => exact launched.read

theorem Struck.read (struck : Struck self flags message here) : message.read = .ok (some message.job) := by
  cases struck with
  | polled launched => exact launched.read
  | returned returned | completed returned => exact returned.read

theorem Broken.read {exception : Exc} (broken : Broken self flags message exception here) :
    message.read = .ok (some message.job) := by
  cases broken with
  | unparsed taken => exact taken.read
  | raised launched => exact launched.read
  | undelivered returned => exact returned.read

/-- A call that came to an end behind the executing status had a message that could be read. -/
theorem Worked.read (worked : Worked self flags message here) : message.read = .ok (some message.job) := by
  cases worked with
  | cancelled struck => exact struck.read
  | late broken | failed broken => exact broken.read
  | completed returned => exact returned.read

/-- A call that has ended had a message that could be decoded, into a job or into nothing. -/
theorem Served.read (served : Served self flags message here) : ∃ found, message.read = .ok found := by
  cases served with
  | turned turned =>
      cases turned with
      | malformed reading | final reading => exact ⟨_, reading⟩
      | dropped picked => exact ⟨_, picked.read⟩
  | worked worked => exact ⟨_, worked.read⟩

/-! ### A job that was taken on was not flagged -/

/-- The flag was read before the executing status, and it was down. -/
theorem Taken.clear (taken : Taken self flags message here) : flags message.job.jobId = false := by
  cases taken with
  | mk _ clear => exact clear

theorem Launched.clear (launched : Launched self flags message here) : flags message.job.jobId = false := by
  cases launched with
  | mk taken => exact taken.clear

theorem Returned.clear {result : ExecutionResult} (returned : Returned self flags message result here) :
    flags message.job.jobId = false := by
  cases returned with
  | mk launched => exact launched.clear

theorem Struck.clear (struck : Struck self flags message here) : flags message.job.jobId = false := by
  cases struck with
  | polled launched => exact launched.clear
  | returned returned | completed returned => exact returned.clear

theorem Broken.clear {exception : Exc} (broken : Broken self flags message exception here) :
    flags message.job.jobId = false := by
  cases broken with
  | unparsed taken => exact taken.clear
  | raised launched => exact launched.clear
  | undelivered returned => exact returned.clear

/-- A call that came to an end behind the executing status found its job unflagged when it took it on. -/
theorem Worked.clear (worked : Worked self flags message here) : flags message.job.jobId = false := by
  cases worked with
  | cancelled struck => exact struck.clear
  | late broken | failed broken => exact broken.clear
  | completed returned => exact returned.clear

/-! ### The rows -/

/-- An exception of the job's own opens the error path: the next step asks whether the job was cancelled
meanwhile. -/
theorem course_failing {exception : Exc} (foreign : exception.isForeign = true)
    (caught : exception.isException = true) (broken : Broken self flags message exception here) :
    Course self flags message (failing exception) here := by
  simp only [Exc.isForeign, decide_eq_true_eq] at foreign
  simp only [failing, foreign, if_false, caught, if_true]
  exact .errorFlag broken

/-- The first step of a call: a message that cannot be decoded ends it, a malformed one is dismissed, and
any other is looked up. -/
theorem course_opening : Course self flags message (opening message) [.called message] := by
  unfold opening
  cases reading : message.read with
  | error exception => exact .undecodable reading
  | ok found =>
      cases found with
      | none => exact .dismiss (.malformed reading)
      | some job => exact .lookUp (by rw [StreamMessage.job_of_read reading, reading])

/-- A job that has been taken on goes to the executor, or to the error path when its circuit does not parse. -/
theorem course_started (taken : Taken self flags message here) :
    Course self flags message (started self message.job) here := by
  unfold started
  cases parsed : parseCircuit self message.job.decoded with
  | ok circuit => exact .launch taken parsed
  | error exception =>
      have ordinary := isOrdinary_of_parseCircuit parsed
      have foreign : exception.isForeign = true := by
        simp only [Exc.isOrdinary, Bool.and_eq_true] at ordinary
        exact ordinary.2
      exact course_failing foreign (Exc.isException_of_isOrdinary ordinary) (.unparsed taken parsed)

/-- Every row adds its deed. -/
theorem Course.row (undisturbed : policy.Undisturbed) {op : Op} {outcome : Except Exc op.Reply}
    {fate : Fate} (row : Move self message message.job stage op outcome later)
    (performs : World.Performs policy world op outcome fate next)
    (clears : ∀ job, world.redis.cancelled job = false → flags job = false)
    (foreign : RunForeign world.runTask) (sound : stage.Sound message world.runTask)
    (course : Course self flags message stage here) :
    Course self flags message later (here ++ (op.deed outcome).toList) := by
  cases row with
  | called =>
      cases course
      obtain ⟨value, rfl⟩ := World.feasible_of_performs performs rfl
      exact course_opening
  | lookUp =>
      obtain ⟨rfl, -, -⟩ := World.hgetState_answered undisturbed performs
      cases course with
      | lookUp reading =>
          simp only [afterCall]
          split
          · rename_i final
            exact .dismiss (.final reading final)
          · rename_i unsettled
            exact .pickUpFlag (.mk reading (not_or.mp unsettled))
  | pickUpFlag =>
      obtain ⟨rfl, -, rfl⟩ := World.getCancelled_answered undisturbed performs
      cases course with
      | pickUpFlag picked =>
          cases flag : next.redis.cancelled message.job.jobId with
          | true => exact .drop picked
          | false => simpa [Op.deed, afterCall] using Course.takeOn picked (clears _ flag)
  | drop =>
      obtain ⟨rfl, -, rfl⟩ := World.hset_answered undisturbed performs
      cases course with
      | drop picked =>
          rw [List.append_assoc]
          exact .dismiss (.dropped picked)
  | dismiss =>
      obtain ⟨rfl, -, rfl⟩ := World.xack_answered undisturbed performs
      cases course with
      | dismiss turned => exact .ended (.turned turned)
  | takeOn =>
      obtain ⟨rfl, -, rfl⟩ := World.hset_answered undisturbed performs
      cases course with
      | takeOn picked clear => exact course_started (.mk picked clear)
  | launch =>
      obtain ⟨rfl, -, rfl⟩ := World.createRun_answered undisturbed performs
      cases course with
      | launch taken parsed => exact .poll (.mk taken parsed)
  | poll =>
      obtain ⟨rfl, -, run, found, rfl⟩ := World.waitRun_answered undisturbed performs
      cases course with
      | poll launched =>
          simp only [afterCall, Op.deed, Option.toList_none, List.append_nil]
          split
          · exact .collect launched
          · exact .pollFlag launched
  | hang => exact (World.feasible_of_performs performs rfl).elim fun never => by cases never
  | @collect outcome =>
      obtain ⟨rfl, -, run, found, ended⟩ := World.awaitRun_answered undisturbed performs
      cases course with
      | collect launched =>
          cases outcome with
          | ok result => exact .ranFlag (.mk launched)
          | error exception =>
              exact .settleError (foreign run found _ ended) (.raised launched)
  | pollFlag =>
      obtain ⟨rfl, -, rfl⟩ := World.getCancelled_answered undisturbed performs
      cases course with
      | pollFlag launched =>
          cases next.redis.cancelled message.job.jobId with
          | true =>
              simp only [afterCall, if_true]
              split
              · exact .hook launched
              · exact .abandon launched
          | false => simpa [Op.deed, afterCall] using Course.poll launched
  | @hook outcome =>
      obtain ⟨rfl, -, -, ordinary⟩ := World.outward_answered undisturbed performs (.inl rfl)
      cases course with
      | hook launched =>
          simp only [Op.deed, Option.toList_none, List.append_nil]
          cases outcome with
          | ok value => exact .abandon launched
          | error exception =>
              simp only [afterLogged, Exc.isException_of_isOrdinary (ordinary exception rfl), if_true]
              exact .abandon launched
  | abandon =>
      obtain ⟨rfl, -, rfl⟩ := World.cancelRun_answered undisturbed performs
      cases course with
      | abandon launched =>
          simp only [Op.deed, Option.toList_none, List.append_nil]
          exact .drain launched
  | drain =>
      cases course with
      | drain launched =>
          rw [List.append_assoc]
          exact .settleCancelled (.polled launched)
  | @ranFlag result =>
      obtain ⟨rfl, -, rfl⟩ := World.getCancelled_answered undisturbed performs
      cases course with
      | ranFlag returned =>
          cases next.redis.cancelled message.job.jobId with
          | true => exact .settleCancelled (.returned returned)
          | false => simpa [Op.deed, afterCall] using Course.settle returned
  | @settle ending outcome =>
      obtain ⟨rfl, -, run, found, rfl⟩ := World.runDone_answered undisturbed performs
      simp only [Op.deed, Option.toList_none, List.append_nil]
      cases course with
      | settle returned =>
          simp only [afterCall, sound run found, if_true]
          exact .doneFlag returned
      | settleCancelled struck =>
          simp only [afterCall, sound.1 run found, if_true]
          exact .mark struck
      | settleError foreign broken =>
          simp only [afterCall, sound.1 run found, if_true]
          exact course_failing foreign sound.2 broken
  | abort => exact sound.elim
  | doneFlag =>
      obtain ⟨rfl, -, rfl⟩ := World.getCancelled_answered undisturbed performs
      cases course with
      | doneFlag returned =>
          cases next.redis.cancelled message.job.jobId with
          | true => exact .mark (.returned returned)
          | false => simpa [Op.deed, afterCall] using Course.complete returned
  | complete =>
      obtain ⟨rfl, -, rfl⟩ := World.hset_answered undisturbed performs
      cases course with
      | complete returned => exact .lastFlag returned
  | lastFlag =>
      obtain ⟨rfl, -, rfl⟩ := World.getCancelled_answered undisturbed performs
      cases course with
      | lastFlag returned =>
          cases next.redis.cancelled message.job.jobId with
          | true => exact .mark (by simpa [Op.deed] using Struck.completed returned)
          | false => simpa [Op.deed, afterCall] using Course.report returned
  | @report result outcome =>
      obtain ⟨rfl, -, -, ordinary⟩ :=
        World.outward_answered undisturbed performs (.inr (.inr (.inl ⟨_, _, rfl⟩)))
      cases course with
      | report returned =>
          rw [List.append_assoc]
          cases outcome with
          | ok value => exact .cleanUp (.completed returned)
          | error exception =>
              have fits := ordinary exception rfl
              have foreign : exception.isForeign = true := by
                simp only [Exc.isOrdinary, Bool.and_eq_true] at fits
                exact fits.2
              exact course_failing foreign (Exc.isException_of_isOrdinary fits) (.undelivered returned)
  | mark =>
      obtain ⟨rfl, -, rfl⟩ := World.hset_answered undisturbed performs
      cases course with
      | mark struck => exact .cleanUp (.cancelled struck)
      | markLate broken =>
          rw [List.append_assoc]
          exact .cleanUp (.late broken)
  | errorFlag =>
      obtain ⟨rfl, -, rfl⟩ := World.getCancelled_answered undisturbed performs
      cases course with
      | errorFlag broken =>
          cases next.redis.cancelled message.job.jobId with
          | true => exact .markLate broken
          | false => simpa [Op.deed, afterCall] using Course.recordFailure broken
  | recordFailure =>
      obtain ⟨rfl, -, rfl⟩ := World.hset_answered undisturbed performs
      cases course with
      | recordFailure broken => exact .reportFailure broken
  | @reportFailure _ outcome =>
      obtain ⟨rfl, -, -, ordinary⟩ :=
        World.outward_answered undisturbed performs (.inr (.inr (.inr ⟨_, _, _, rfl⟩)))
      cases course with
      | reportFailure broken =>
          rw [List.append_assoc]
          cases outcome with
          | ok value => exact .cleanUp (.failed broken)
          | error exception =>
              simp only [afterLogged, Exc.isException_of_isOrdinary (ordinary exception rfl), if_true]
              exact .cleanUp (.failed broken)
  | @cleanUp ending =>
      obtain ⟨rfl, -, rfl⟩ := World.xack_answered undisturbed performs
      cases course with
      | cleanUp worked => exact .release worked
  | @release ending =>
      simp only [Op.deed, Option.toList_none, List.append_nil]
      cases course with
      | release worked => exact .free worked
  | @free ending =>
      simp only [Op.deed, Option.toList_none, List.append_nil]
      cases course with
      | free worked => exact .ended (.worked worked)
  | clock | assign =>
      simp only [Op.deed, Option.toList_none, List.append_nil]
      exact course

end Stage

/-! ### What the executor ends with -/

section Foreign

variable {policy : Policy} {world next : World}

/-- The surroundings end the executor task only with outcomes of the executor, never with the consumer's
private exceptions. -/
theorem RunForeign.occur {event : EnvEvent} (occurs : world.occur event = some next)
    (foreign : RunForeign world.runTask) : RunForeign next.runTask := by
  unfold World.occur at occurs
  split at occurs
  · cases occurs
    exact foreign
  · split at occurs
    · split at occurs
      · rename_i possible
        cases occurs
        rintro run ⟨⟩ outcome ⟨⟩
        exact possible.2.2.1
      · cases occurs
    · cases occurs
  · cases occurs
    exact foreign
  · cases occurs
    exact foreign

/-- No operation of the consumer gives the executor task a private outcome: a new task has none, and a
cancelled one keeps its own. -/
theorem RunForeign.performs {op : Op} {outcome : Except Exc op.Reply} {fate : Fate}
    (performs : World.Performs policy world op outcome fate next)
    (foreign : RunForeign world.runTask) : RunForeign next.runTask := by
  by_cases touches : op.touchesRun = true
  · cases op with
    | createRun jobId ir shots =>
        obtain ⟨value, rfl⟩ := World.feasible_of_performs performs rfl
        cases performs with
        | answered _ effect =>
            cases effect
            rintro run ⟨⟩ outcome same
            cases same
    | cancelRun =>
        obtain ⟨value, rfl⟩ := World.feasible_of_performs performs rfl
        cases performs with
        | answered _ effect =>
            cases effect
            intro run found outcome same
            obtain ⟨other, found', rfl⟩ := Option.map_eq_some_iff.mp found
            exact foreign other found' outcome same
    | _ => cases touches
  · rw [World.runTask_of_performs performs (Bool.eq_false_iff.mpr touches)]
    exact foreign

end Foreign

end CodaNode
