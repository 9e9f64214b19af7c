/-
Module: CodaNode.Server.Consumer
Layer: Server
Purpose: `RedisConsumer`, one coroutine for each of its methods. The bodies follow the source line by
  line; a `try` block is `catching` or `finally`. Two loops of the source have no bound: the polling
  loop of `_run_job_with_cancellation` and the main loop. They carry fuel, and a run that uses it up
  waits forever, so every finite part of a run is a run for some fuel.
Imports: CodaNode.Server.World, Mathlib.Algebra.GroupWithZero.Nat
Main exports: Consumer, processMessage, processBatch, deliverSingleBatchResult, deliverBatchResults,
  recoverPending, consumeLoop, taskBody
-/
import CodaNode.Server.World
import Mathlib.Algebra.GroupWithZero.Nat

namespace CodaNode

open Coroutine

/-- The values a consumer is constructed with, the capabilities of its executor, and the reader of
circuit texts. -/
structure Consumer where
  qpuId : String
  consumerName : String := "worker-0"
  /-- `_can_batch`, decided in the constructor. -/
  canBatch : Bool
  /-- Whether `batch_run` is still callable when a batch is dispatched. -/
  batchRunCallable : Bool := true
  /-- Whether the executor has a `cancel_current_job` hook. -/
  hasCancelHook : Bool := false
  /-- The typed JSON reader of pydantic. -/
  readFields : String → Except String IRFields
  /-- How many rounds of the polling loop are explored. -/
  pollRounds : Nat

/-! ### Constants [SRC consumer.py:44-49] -/

/-- `_BACKOFF_BASE`, in seconds. -/
def backoffBase : Nat := 1

/-- `_BACKOFF_FACTOR` -/
def backoffFactor : Nat := 2

/-- `_BACKOFF_MAX`, in seconds. -/
def backoffMax : Nat := 60

/-- `_PENDING_RECHECK_SECS` -/
def pendingRecheckSecs : Rat := 60

/-- `_BATCH_READ_COUNT` -/
def batchReadCount : Nat := 100

/-- The COUNT of the XPENDING query. -/
def pendingPageCount : Nat := 100

/-! ### Operations -/

/-- Issue one operation. -/
def call (op : Op) : Task op.Reply := Coro.perform op

/-- `self.<attribute> = value` -/
def assign (change : Attrs → Attrs) : Task Unit := call (.modify change)

/-- Go on without the value. -/
def discard {α : Type} (body : Task α) : Task Unit := do
  let _ ← body
  return ()

/-! ### Helpers -/

/-- `bytes.decode()`, or the text itself. -/
def FieldText.decode : FieldText → Except Exc String
  | .str text => .ok text
  | .bytes raw =>
      match String.fromUTF8? raw with
      | some text => .ok text
      | none => .error ⟨.unicodeDecodeError, "'utf-8' codec can't decode byte"⟩

/-- `_decode_fields`. [SRC consumer.py:110-118] -/
def decodeFields : Fields → Except Exc (List (String × String))
  | [] => .ok []
  | (key, value) :: rest => do
      let key ← key.decode
      let value ← value.decode
      let rest ← decodeFields rest
      return (key, value) :: rest

/-- `decoded[key]`. A later entry of a dict display replaces an earlier one. -/
def lookupField (decoded : List (String × String)) (key : String) : Except Exc String :=
  match decoded.reverse.lookup key with
  | some value => .ok value
  | none => .error ⟨.keyError, s!"'{key}'"⟩

/-- The two fields without which a message is dropped. -/
def requiredFields (decoded : List (String × String)) : Except Exc (String × String) := do
  let jobId ← lookupField decoded "job_id"
  let callbackUrl ← lookupField decoded "callback_url"
  return (jobId, callbackUrl)

/-- `NativeGateIR.from_json(decoded["ir_json"])`, `int(decoded["shots"])`. -/
def parseCircuit (self : Consumer) (decoded : List (String × String)) :
    Except Exc (NativeGateIR × Int) := do
  let irJson ← lookupField decoded "ir_json"
  let ir ← (NativeGateIR.fromJson self.readFields irJson).mapError fun text => ⟨.validationError, text⟩
  let shotsText ← lookupField decoded "shots"
  match Python.int shotsText with
  | some shots => .ok (ir, shots)
  | none => .error ⟨.valueError, s!"invalid literal for int() with base 10: '{shotsText}'"⟩

/-- `setup`. [SRC consumer.py:120-135] -/
def setup : Task Unit :=
  (call .xgroupCreate).catching fun exception =>
    if exception.kind = .responseError ∧ Python.contains exception.text "BUSYGROUP" then .ret ()
    else .raise exception

/-- `_safe_hset`. [SRC consumer.py:261-268] -/
def safeHset (jobId : String) (mapping : StatusHash) : Task Bool :=
  Coro.catching (do
      call (.hset jobId mapping)
      return true)
    fun exception => if exception.isConnection then .ret false else .raise exception

/-- `_safe_xack`. [SRC consumer.py:270-280] -/
def safeXack (messageId : String) : Task Bool :=
  Coro.catching (do
      call (.xack messageId)
      return true)
    fun exception => if exception.isConnection then .ret false else .raise exception

/-- `_has_cancel_signal`. [SRC consumer.py:282-287] -/
def hasCancelSignal (jobId : String) : Task Bool := call (.getCancelled jobId)

/-- `_get_job_status`. [SRC consumer.py:289-300] -/
def getJobStatus (jobId : String) : Task (Option JobState) := call (.hgetState jobId)

/-- `_mark_job_cancelled`. [SRC consumer.py:302-312] -/
def markJobCancelled (self : Consumer) (jobId messageId : String) : Task Unit := do
  let now ← call .utcNow
  discard (safeHset jobId
    { state := some .cancelled
      cancelledAt := some now
      messageId := some messageId
      qpuId := some self.qpuId })

/-- `_request_runner_cancel`. [SRC consumer.py:314-325] -/
def requestRunnerCancel (self : Consumer) : Task Unit :=
  if self.hasCancelHook then
    (call .cancelCurrentJob).catching fun exception =>
      if exception.isException then .ret () else .raise exception
  else .ret ()

/-- The exception `_JobCancelledWhileExecuting`. -/
def jobCancelledWhileExecuting : Exc := ⟨.jobCancelled, ""⟩

/-- The polling loop of `_run_job_with_cancellation`. [SRC consumer.py:339-364] -/
def pollRun (self : Consumer) (jobId : String) : Nat → Task ExecutionResult
  | 0 => do
      let never ← call .hang
      nomatch never
  | rounds + 1 => do
      if ← call .waitRun then
        let result ← call .awaitRun
        if ← hasCancelSignal jobId then
          .raise jobCancelledWhileExecuting
        else
          return result
      else if ← hasCancelSignal jobId then
        requestRunnerCancel self
        call .cancelRun
        -- both handlers swallow: the cancellation of the run task, and whatever it raised instead
        (discard (call .awaitRun)).catching fun _ => .ret ()
        .raise jobCancelledWhileExecuting
      else
        pollRun self jobId rounds

/-- `_run_job_with_cancellation`. [SRC consumer.py:327-367] -/
def runJobWithCancellation (self : Consumer) (jobId : String) (ir : NativeGateIR) (shots : Int) :
    Task ExecutionResult := do
  call (.createRun jobId ir shots)
  (pollRun self jobId self.pollRounds).finally do
    if ← call .runDone then
      return ()
    else
      call .cancelRun

/-! ### One message -/

/-- The body of the outer `try` of `_process_message`. [SRC consumer.py:573-597] -/
def executeJob (self : Consumer) (jobId callbackUrl : String) (decoded : List (String × String)) :
    Task Unit := do
  let (ir, shots) ← Coro.ofExcept (parseCircuit self decoded)
  let result ← runJobWithCancellation self jobId ir shots
  if ← hasCancelSignal jobId then
    .raise jobCancelledWhileExecuting
  else
    let now ← call .utcNow
    discard (safeHset jobId { state := some .completed, completedAt := some now })
    if ← hasCancelSignal jobId then
      .raise jobCancelledWhileExecuting
    else
      call (.sendResult callbackUrl (.ofResult jobId result))
      let now ← call .utcNow
      assign fun attrs => { attrs with lastJobAt := some now }

/-- The text of an exception as it is reported. -/
def errorText (exception : Exc) : String := Python.take exception.text 500

/-- The `except` clauses of the outer `try` of `_process_message`. [SRC consumer.py:598-621] -/
def handleJobError (self : Consumer) (jobId messageId callbackUrl : String) (exception : Exc) :
    Task Unit := do
  if exception.kind = .jobCancelled then
    markJobCancelled self jobId messageId
  else if exception.isException then
    if ← hasCancelSignal jobId then
      markJobCancelled self jobId messageId
    else
      let now ← call .utcNow
      discard (safeHset jobId
        { state := some .failed, error := some (errorText exception), failedAt := some now })
      (call (.sendError callbackUrl jobId (errorText exception))).catching fun failure =>
        if failure.isException then .ret () else .raise failure
  else
    .raise exception

/-- The `finally` clause of `_process_message`. [SRC consumer.py:622-625] -/
def cleanUpJob (messageId : String) : Task Unit := do
  discard (safeXack messageId)
  assign fun attrs => { attrs with currentJobId := none }
  assign fun attrs => { attrs with idle := true }

/-- `_process_message` from the point where it takes the job on. [SRC consumer.py:560-625] -/
def runMessage (self : Consumer) (messageId jobId callbackUrl : String)
    (decoded : List (String × String)) : Task Unit := do
  assign fun attrs => { attrs with idle := false }
  assign fun attrs => { attrs with currentJobId := some jobId }
  let now ← call .utcNow
  discard (safeHset jobId
    { state := some .executing
      startedAt := some now
      messageId := some messageId
      qpuId := some self.qpuId })
  ((executeJob self jobId callbackUrl decoded).catching
    (handleJobError self jobId messageId callbackUrl)).finally (cleanUpJob messageId)

/-- `_process_message`. [SRC consumer.py:525-625] -/
def processMessage (self : Consumer) (messageId : String) (fields : Fields) : Task Unit := do
  call (.note (.processMessage ⟨messageId, fields⟩))
  let decoded ← Coro.ofExcept (decodeFields fields)
  match requiredFields decoded with
  | .error _ => discard (safeXack messageId)
  | .ok (jobId, callbackUrl) =>
      let status ← getJobStatus jobId
      if status = some .completed ∨ status = some .cancelled then
        discard (safeXack messageId)
      else if ← hasCancelSignal jobId then
        markJobCancelled self jobId messageId
        discard (safeXack messageId)
      else
        runMessage self messageId jobId callbackUrl decoded

/-- A message as `recover_pending` and `consume_loop` hand it over. -/
def processEntry (self : Consumer) (message : StreamMessage) : Task Unit :=
  processMessage self message.messageId message.fields

/-! ### A batch -/

/-- One round of the parsing loop of `_process_batch`. [SRC consumer.py:382-416] -/
def parseBatchMessage (self : Consumer) (message : StreamMessage) : Task (Option ParsedJob) := do
  let decoded ← Coro.ofExcept (decodeFields message.fields)
  match requiredFields decoded with
  | .error _ =>
      discard (safeXack message.messageId)
      return none
  | .ok (jobId, callbackUrl) =>
      let status ← getJobStatus jobId
      if status = some .completed ∨ status = some .cancelled then
        discard (safeXack message.messageId)
        return none
      else if ← hasCancelSignal jobId then
        markJobCancelled self jobId message.messageId
        discard (safeXack message.messageId)
        return none
      else
        match parseCircuit self decoded with
        | .error _ =>
            discard (safeXack message.messageId)
            return none
        | .ok (ir, shots) =>
            return some ⟨message.messageId, jobId, callbackUrl, ir, shots⟩

/-- The executing write for one job of a batch. [SRC consumer.py:426-434] -/
def markBatchExecuting (self : Consumer) (job : ParsedJob) : Task Unit := do
  let now ← call .utcNow
  discard (safeHset job.jobId
    { state := some .executing, startedAt := some now, qpuId := some self.qpuId })

/-- The job list passed to `batch_run`. -/
def batchJobs (parsed : List ParsedJob) : List (String × NativeGateIR × Int) :=
  parsed.map fun job => (job.jobId, job.ir, job.shots)

/-- `_process_batch` after the parsing loop. [SRC consumer.py:418-458, 523] -/
def runBatch (self : Consumer) (messages : List StreamMessage) (parsed : List ParsedJob) :
    Task (Option Nat) := do
  if parsed.isEmpty then
    return none
  else
    assign fun attrs => { attrs with idle := false }
    Coro.forEach parsed (markBatchExecuting self)
    if self.batchRunCallable then
      (call (.batchRun (batchJobs parsed))).handle
        (fun results => do
          let number ← call (.createTask (.deliverBatch parsed results))
          return some number)
        fun exception =>
          if exception.isException then do
            Coro.forEach messages (processEntry self)
            return none
          else .raise exception
    else
      Coro.forEach messages (processEntry self)
      return none

/-- `_process_batch`. [SRC consumer.py:369-523] -/
def processBatch (self : Consumer) (messages : List StreamMessage) : Task (Option Nat) := do
  call (.note (.processBatch messages))
  let parsed ← Coro.collect messages (parseBatchMessage self)
  runBatch self messages parsed.reduceOption

/-- `_deliver_single_batch_result`. [SRC consumer.py:460-498] -/
def deliverSingleBatchResult (self : Consumer) (delivery : Delivery) : Task Unit := do
  if ← hasCancelSignal delivery.jobId then
    markJobCancelled self delivery.jobId delivery.messageId
    discard (safeXack delivery.messageId)
  else
    discard (safeHset delivery.jobId
      { state := some .completed, completedAt := some delivery.completedAt })
    if ← hasCancelSignal delivery.jobId then
      markJobCancelled self delivery.jobId delivery.messageId
      discard (safeXack delivery.messageId)
    else
      (call (.sendResult delivery.callbackUrl (.ofResult delivery.jobId delivery.result))).catching
        fun failure => if failure.isException then .ret () else .raise failure
      discard (safeXack delivery.messageId)

/-- The deliveries `zip(parsed, results, strict=True)` yields. [SRC consumer.py:506-515] -/
def zipStrict (parsed : List ParsedJob) (results : List ExecutionResult) (completedAt : String) :
    Except Exc (List Delivery) :=
  if parsed.length = results.length then
    .ok (List.zipWith
      (fun job result => ⟨job.messageId, job.jobId, job.callbackUrl, result, completedAt⟩)
      parsed results)
  else if results.length < parsed.length then
    .error ⟨.valueError, "zip() argument 2 is shorter than argument 1"⟩
  else
    .error ⟨.valueError, "zip() argument 2 is longer than argument 1"⟩

/-- `_deliver_batch_results`. [SRC consumer.py:500-521] -/
def deliverBatchResults (parsed : List ParsedJob) (results : List ExecutionResult) : Task Unit := do
  let nowIso ← call .utcNow
  Coro.finally (do
      let deliveries ← Coro.ofExcept (zipStrict parsed results nowIso)
      let numbers ← Coro.collect deliveries fun delivery =>
        call (.createTask (.deliverSingle delivery))
      call (.gather numbers)
      assign fun attrs => { attrs with lastJobAt := some nowIso })
    (assign fun attrs => { attrs with idle := true })

/-- A background task: it starts at a later turn of the event loop and stores its outcome. -/
def taskBody (self : Consumer) (number : Nat) (spec : TaskSpec) : Task Unit := do
  call .start
  let body :=
    match spec with
    | .deliverBatch parsed results => deliverBatchResults parsed results
    | .deliverSingle delivery => deliverSingleBatchResult self delivery
  body.handle (fun _ => call (.taskDone number (.ok ())))
    fun exception => call (.taskDone number (.error exception))

/-! ### The main loop -/

/-- One round of the loop of `recover_pending`. [SRC consumer.py:158-166] -/
def recoverEntry (self : Consumer) (messageId : String) : Task Nat := do
  let messages ← call (.xrange messageId)
  match messages with
  | [] => return 0
  | message :: _ =>
      processMessage self messageId message.fields
      return 1

/-- `recover_pending`. [SRC consumer.py:137-168] -/
def recoverPending (self : Consumer) : Task Nat := do
  let pending ← call (.xpendingRange self.consumerName pendingPageCount)
  let recovered ← Coro.collect pending (recoverEntry self)
  return recovered.sum

/-- `float ** int` for the base 2.0: an exact power of two up to the largest double. -/
def floatPow (base exponent : Nat) : Except Exc Nat :=
  if base ^ exponent < 2 ^ 1024 then .ok (base ^ exponent)
  else .error ⟨.overflowError, "(34, 'Numerical result out of range')"⟩

/-- `min(_BACKOFF_BASE * (_BACKOFF_FACTOR ** (consecutive_failures - 1)), _BACKOFF_MAX)`.
[SRC consumer.py:223-226] -/
def backoffDelay (consecutiveFailures : Nat) : Except Exc Nat := do
  let power ← floatPow backoffFactor (consecutiveFailures - 1)
  return min (backoffBase * power) backoffMax

/-- How many messages one read asks for. -/
def readCount (self : Consumer) : Nat := if self.canBatch then batchReadCount else 1

/-- The dispatch of one read. [SRC consumer.py:212-219] -/
def dispatch (self : Consumer) (messages : List StreamMessage) : Task Unit := do
  if self.canBatch ∧ 1 < messages.length then
    match ← processBatch self messages with
    | some number => assign fun attrs => { attrs with pendingBatchDelivery := some number }
    | none => return ()
  else
    Coro.forEach messages (processEntry self)

/-- Await the delivery of the previous batch. [SRC consumer.py:201-203] -/
def awaitPendingDelivery : Task Unit := do
  let attrs ← call .attrs
  match attrs.pendingBatchDelivery with
  | some number =>
      call (.awaitTask number)
      assign fun attrs => { attrs with pendingBatchDelivery := none }
  | none => return ()

/-- The recheck of an idle iteration. [SRC consumer.py:206-209] -/
def recheckPending (self : Consumer) : Task Unit := do
  let now ← call .monotonic
  let attrs ← call .attrs
  if pendingRecheckSecs ≤ now - attrs.lastPendingCheck then
    discard (recoverPending self)
    assign fun attrs => { attrs with lastPendingCheck := now }
  else
    return ()

/-- The `try` block of one iteration. [SRC consumer.py:191-219] -/
def consumeOnce (self : Consumer) : Task Unit := do
  let messages ← call (.xreadgroup self.consumerName (readCount self))
  assign fun attrs => { attrs with redisHealthy := true }
  assign fun attrs => { attrs with consecutiveFailures := 0 }
  awaitPendingDelivery
  if messages.isEmpty then
    recheckPending self
  else
    dispatch self messages

/-- The `except` clauses of one iteration. [SRC consumer.py:220-235] -/
def handleLoopError (exception : Exc) : Task Unit := do
  if exception.isConnection then
    assign fun attrs => { attrs with redisHealthy := false }
    assign fun attrs => { attrs with consecutiveFailures := attrs.consecutiveFailures + 1 }
    let attrs ← call .attrs
    let delay ← Coro.ofExcept (backoffDelay attrs.consecutiveFailures)
    call (.note (.connectionLost attrs.consecutiveFailures delay))
    call (.sleep delay)
  else if exception.isException then
    call (.sleep 1)
  else
    .raise exception

/-- The `while` loop of `consume_loop`. [SRC consumer.py:189-235] -/
def consumeWhile (self : Consumer) : Nat → Task Unit
  | 0 => do
      let never ← call .hang
      nomatch never
  | iterations + 1 => do
      let attrs ← call .attrs
      if attrs.running then
        (consumeOnce self).catching handleLoopError
        consumeWhile self iterations
      else
        return ()

/-- `consume_loop`. [SRC consumer.py:170-235] -/
def consumeLoop (self : Consumer) (iterations : Nat) : Task Unit := do
  assign fun attrs => { attrs with running := true }
  setup
  discard (recoverPending self)
  assign fun attrs => { attrs with consecutiveFailures := 0 }
  let now ← call .monotonic
  assign fun attrs => { attrs with lastPendingCheck := now }
  consumeWhile self iterations

/-- `stop`. [SRC consumer.py:237-239] -/
def stop : Task Unit := assign fun attrs => { attrs with running := false }

end CodaNode
