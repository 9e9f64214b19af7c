/-
Module: CodaNode.Server.World
Layer: Server
Purpose: The operations the consumer's coroutines suspend in, the state they act on, and how that
  state answers. An operation is answered, or it fails before it has taken effect, or it takes effect
  and its answer is lost. Which failures are possible, what the executor and the webhook endpoint may
  answer, and what the cloud may do meanwhile is a policy, so that each result says under which one it
  holds.
Imports: CodaNode.Coroutine.Pool, CodaNode.Python.Text, CodaNode.Server.Outcome,
  CodaNode.Server.Redis
Main exports: Op, Op.Reply, Task, World, World.effect, Policy, World.Performs
-/
import CodaNode.Coroutine.Pool
import CodaNode.Python.Text
import CodaNode.Server.Outcome
import CodaNode.Server.Redis

namespace CodaNode

open Coroutine

/-- A message of a batch that passed the checks of `_process_batch`. -/
structure ParsedJob where
  messageId : String
  jobId : String
  callbackUrl : String
  ir : NativeGateIR
  shots : Int
deriving DecidableEq

/-- The arguments of one `_deliver_single_batch_result` call. -/
structure Delivery where
  messageId : String
  jobId : String
  callbackUrl : String
  result : ExecutionResult
  completedAt : String
deriving Repr, DecidableEq

/-- The background tasks the consumer creates. -/
inductive TaskSpec where
  | deliverBatch (parsed : List ParsedJob) (results : List ExecutionResult)
  | deliverSingle (delivery : Delivery)
deriving DecidableEq

/-- The tasks over one consumer: its loop, and the background tasks by number. -/
inductive Role where
  | loop
  | task (number : Nat) (spec : TaskSpec)

/-- The attributes of the consumer that change while it runs, and the two local variables of
`consume_loop` that keep their values when its `try` block raises. -/
structure Attrs where
  running : Bool := false
  idle : Bool := true
  pendingBatchDelivery : Option Nat := none
  currentJobId : Option String := none
  lastJobAt : Option String := none
  redisHealthy : Bool := true
  consecutiveFailures : Nat := 0
  lastPendingCheck : Rat := 0
deriving Repr, DecidableEq

/-- What the log records besides operations: the calls of the two methods that take messages on, and
the warning of the handler that backs off. -/
inductive Note where
  | processMessage (message : StreamMessage)
  | processBatch (messages : List StreamMessage)
  | connectionLost (attempt delay : Nat)
deriving DecidableEq

/-- The operations. The job identifiers in `createRun` and `batchRun` are not passed to the executor;
they say on whose behalf it is called. -/
inductive Op where
  -- Redis
  | xgroupCreate
  | xpendingRange (consumer : String) (count : Nat)
  | xrange (messageId : String)
  | xreadgroup (consumer : String) (count : Nat)
  | xack (messageId : String)
  | hset (jobId : String) (mapping : StatusHash)
  | hgetState (jobId : String)
  | getCancelled (jobId : String)
  -- the executor
  | createRun (jobId : String) (ir : NativeGateIR) (shots : Int)
  | waitRun
  | awaitRun
  | runDone
  | cancelRun
  | cancelCurrentJob
  | batchRun (jobs : List (String × NativeGateIR × Int))
  -- the webhook client
  | sendResult (callbackUrl : String) (payload : WebhookPayload)
  | sendError (callbackUrl : String) (jobId : String) (error : String)
  -- asyncio
  | createTask (spec : TaskSpec)
  | start
  | awaitTask (number : Nat)
  | gather (numbers : List Nat)
  | taskDone (number : Nat) (outcome : Except Exc Unit)
  | sleep (seconds : Nat)
  -- the process
  | attrs
  | modify (change : Attrs → Attrs)
  | utcNow
  | monotonic
  | note (call : Note)
  -- the end of the explored part of an unbounded loop
  | hang

/-- What an operation returns. -/
@[reducible] def Op.Reply : Op → Type
  | .xpendingRange _ _ => List String
  | .xrange _ | .xreadgroup _ _ => List StreamMessage
  | .hgetState _ => Option JobState
  | .getCancelled _ | .waitRun | .runDone => Bool
  | .awaitRun => ExecutionResult
  | .batchRun _ => List ExecutionResult
  | .createTask _ => Nat
  | .attrs => Attrs
  | .utcNow => String
  | .monotonic => Rat
  | .hang => Empty
  | _ => Unit

/-- Local operations do not give up control. -/
def Op.isLocal : Op → Bool
  | .createRun _ _ _ | .runDone | .cancelRun | .createTask _ | .taskDone _ _ | .attrs | .modify _
  | .utcNow | .monotonic | .note _ => true
  | _ => false

/-- The commands sent to Redis. -/
def Op.isRedis : Op → Bool
  | .xgroupCreate | .xpendingRange _ _ | .xrange _ | .xreadgroup _ _ | .xack _ | .hset _ _
  | .hgetState _ | .getCancelled _ => true
  | _ => false

/-- The operations that change the executor task. -/
def Op.touchesRun : Op → Bool
  | .createRun _ _ _ | .cancelRun => true
  | _ => false

/-- The operations at which a failure from outside can arrive. -/
def Op.interruptible (op : Op) : Bool :=
  match op with
  | .start | .hang => false
  | _ => !op.isLocal

/-- A coroutine of the consumer. -/
abbrev Task := Coro Op.Reply Exc

/-- The executor task of the job being executed. -/
structure RunTask where
  jobId : String
  cancelRequested : Bool := false
  outcome : Option (Except Exc ExecutionResult) := none

/-- How an operation came to its outcome: it was answered, it failed without having taken effect, or
it took effect and failed. -/
inductive Fate where
  | answered
  | lost
  | executed
deriving Repr, DecidableEq

/-- What the executor, the cloud and the owner of the consumer do on their own. -/
inductive EnvEvent where
  | cancelRequested (jobId : String)
  | runFinished (jobId : String) (outcome : Except Exc ExecutionResult)
  | statusWritten (jobId : String) (state : JobState)
  | stopCalled
deriving DecidableEq

/-- One record of the log. -/
inductive Entry where
  | call (role : Role) (op : Op) (outcome : Except Exc op.Reply) (fate : Fate)
  | env (event : EnvEvent)

/-- A background task: what it was created for, and its outcome once it has ended. -/
structure TaskRecord where
  spec : TaskSpec
  outcome : Option (Except Exc Unit) := none

/-- The state the tasks share. The log holds every operation except reads and writes of attributes
and clocks, oldest first. -/
structure World where
  redis : Redis := {}
  attrs : Attrs := {}
  runTask : Option RunTask := none
  tasks : List TaskRecord := []
  log : List Entry := []

/-- Whether the log keeps an operation. -/
def Op.logged : Op → Bool
  | .runDone | .attrs | .modify _ | .utcNow | .monotonic => false
  | _ => true

namespace World

/-- The outcome of a background task that has ended. -/
def outcomeOf (world : World) (number : Nat) : Option (Except Exc Unit) :=
  world.tasks[number]?.bind TaskRecord.outcome

/-- A background task ends. -/
def finish (world : World) (number : Nat) (outcome : Except Exc Unit) : World :=
  { world with
    tasks := world.tasks.modify number fun record => { record with outcome := some outcome } }

/-- What the regular answer `outcome` of an operation does. It is `none` when the operation cannot be
answered so in this world. -/
def effect (world : World) : (op : Op) → Except Exc op.Reply → Option World
  | .xgroupCreate, .ok () =>
      if world.redis.group then none
      else some { world with redis := { world.redis with group := true } }
  | .xgroupCreate, .error exception =>
      if world.redis.group ∧ exception.kind = .responseError ∧
        Python.contains exception.text "BUSYGROUP" then some world else none
  | .xpendingRange consumer count, .ok ids =>
      if ids = (world.redis.pendingOf consumer).take count then some world else none
  | .xrange messageId, .ok messages =>
      if messages = world.redis.stream.filter fun message => message.messageId = messageId then
        some world
      else none
  | .xreadgroup consumer count, .ok messages =>
      if messages.length ≤ count ∧ messages = world.redis.undelivered.take messages.length then
        some { world with redis := world.redis.deliver consumer messages.length }
      else none
  | .xack messageId, .ok () =>
      some { world with redis := world.redis.acknowledge messageId }
  | .hset jobId mapping, .ok () =>
      some { world with redis := world.redis.writeStatus jobId mapping }
  | .hgetState jobId, .ok state =>
      if state = (world.redis.status jobId).state then some world else none
  | .getCancelled jobId, .ok flag =>
      if flag = world.redis.cancelled jobId then some world else none
  | .createRun jobId _ _, .ok () => some { world with runTask := some { jobId := jobId } }
  | .waitRun, .ok done =>
      if (world.runTask.map fun run => run.outcome.isSome) = some done then some world else none
  | .awaitRun, outcome =>
      if world.runTask.bind RunTask.outcome = some outcome then some world else none
  | .runDone, .ok done =>
      if (world.runTask.map fun run => run.outcome.isSome) = some done then some world else none
  | .cancelRun, .ok () =>
      some { world with runTask := world.runTask.map fun run => { run with cancelRequested := true } }
  | .cancelCurrentJob, .ok () | .batchRun _, .ok _ | .sendResult _ _, .ok _
  | .sendError _ _ _, .ok _ => some world
  | .cancelCurrentJob, .error exception | .batchRun _, .error exception
  | .sendResult _ _, .error exception | .sendError _ _ _, .error exception =>
      if exception.isOrdinary then some world else none
  | .createTask spec, .ok number =>
      if number = world.tasks.length then some { world with tasks := world.tasks ++ [⟨spec, none⟩] }
      else none
  | .awaitTask number, outcome =>
      if world.outcomeOf number = some outcome then some world else none
  | .gather numbers, .ok () =>
      if ∀ number ∈ numbers, world.outcomeOf number = some (.ok ()) then some world else none
  | .gather numbers, .error exception =>
      if ∃ number ∈ numbers, world.outcomeOf number = some (.error exception) then some world
      else none
  | .taskDone number outcome, .ok () => some (world.finish number outcome)
  | .start, .ok () | .sleep _, .ok () | .note _, .ok () => some world
  | .attrs, .ok attrs => if attrs = world.attrs then some world else none
  | .modify change, .ok () => some { world with attrs := change world.attrs }
  | .utcNow, .ok _ | .monotonic, .ok _ => some world
  | _, _ => none

/-- Append a record to the log. -/
def record (world : World) (entry : Entry) : World :=
  { world with log := world.log ++ [entry] }

/-- Log an operation if the log keeps it. -/
def recordCall (world : World) (role : Role) (op : Op) (outcome : Except Exc op.Reply)
    (fate : Fate) : World :=
  if op.logged then world.record (.call role op outcome fate) else world

/-- What an event does. An executor raises `CancelledError` only after its task was cancelled. -/
def occur (world : World) (event : EnvEvent) : Option World :=
  match event with
  | .cancelRequested jobId =>
      some { world with redis := world.redis.requestCancel jobId }
  | .runFinished jobId outcome =>
      match world.runTask with
      | some run =>
          if run.jobId = jobId ∧ run.outcome = none ∧ Exc.foreign outcome ∧
            (run.cancelRequested ∨ Exc.regular outcome)
          then some { world with runTask := some { run with outcome := some outcome } }
          else none
      | none => none
  | .statusWritten jobId state =>
      some { world with redis := world.redis.writeStatus jobId { state := some state } }
  | .stopCalled => some { world with attrs := { world.attrs with running := false } }

end World

/-- Which behaviours of the surroundings a result is about. -/
structure Policy where
  /-- The exceptions with which an operation may fail from outside. -/
  fault : Op → Exc → Prop
  /-- The regular answers of the executor and the webhook endpoint that are considered. -/
  reply : (op : Op) → Except Exc op.Reply → Prop := fun _ _ => True
  /-- The events that may occur. -/
  env : EnvEvent → Prop

namespace World

/-- The ways an operation can come to an outcome. -/
inductive Performs (policy : Policy) (world : World) (op : Op) :
    Except Exc op.Reply → Fate → World → Prop where
  | answered {outcome : Except Exc op.Reply} {next : World} (admitted : policy.reply op outcome)
      (effect : world.effect op outcome = some next) :
      Performs policy world op outcome .answered next
  | lost {exception : Exc} (interruptible : op.interruptible = true)
      (admitted : policy.fault op exception) :
      Performs policy world op (.error exception) .lost world
  | executed {exception : Exc} {value : op.Reply} {next : World}
      (interruptible : op.interruptible = true) (admitted : policy.fault op exception)
      (effect : world.effect op (.ok value) = some next) :
      Performs policy world op (.error exception) .executed next

end World

end CodaNode
