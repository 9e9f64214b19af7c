/-
Module: CodaNode.Server.Lifespan
Layer: Server
Purpose: The part of `lifespan` behind its `yield`, and `drain`. What the teardown meets is a `Shutdown`: how the
  three background tasks stand, whether the idle event comes in time, how the delivery of a batch stands, and how
  the clients close.
Imports: CodaNode.Coroutine.Solo, CodaNode.Server.Outcome
Main exports: Raised, TaskFate, Shutdown, drain, teardown, Shutdown.performed
-/
import CodaNode.Coroutine.Solo
import CodaNode.Server.Outcome

namespace CodaNode.Lifespan

open Coroutine

/-- An exception. The teardown tells `TimeoutError` apart, which the consumer counts among the connection errors. -/
inductive Raised where
  | timeoutError
  | other (exception : Exc)
deriving DecidableEq, Repr

/-- Suppressed by `suppress(asyncio.CancelledError)`. -/
def Raised.isCancelled : Raised → Bool
  | .timeoutError => false
  | .other exception => exception.kind = .cancelledError

/-- The background tasks of the lifespan. -/
inductive Background where
  | watch
  | heartbeat
  | consumer
deriving DecidableEq, Repr

/-- How a background task stands when it is cancelled. -/
inductive TaskFate where
  /-- It has ended. -/
  | ended (outcome : Except Raised Unit)
  /-- It is running, and ends so once its cancellation is requested. -/
  | running (onCancel : Except Raised Unit)
  /-- It is running and does not end. -/
  | stuck

/-- How the pending delivery of a batch stands when it is waited for. -/
inductive DeliveryFate where
  /-- It ends in time. -/
  | ends (outcome : Except Raised Unit)
  /-- It does not. -/
  | late

/-- What the teardown meets. -/
structure Shutdown where
  watch : TaskFate
  heartbeat : TaskFate
  consumer : TaskFate
  /-- The idle event is set before the timeout of the drain. -/
  idleInTime : Bool
  /-- `_pending_batch_delivery`, once the idle event is set. -/
  pendingBatchDelivery : Option DeliveryFate
  heartbeatClose : Except Raised Unit
  webhookClose : Except Raised Unit
  redisClose : Except Raised Unit

/-- The task. -/
def Shutdown.fate (shutdown : Shutdown) : Background → TaskFate
  | .watch => shutdown.watch
  | .heartbeat => shutdown.heartbeat
  | .consumer => shutdown.consumer

/-- The operations of the teardown. -/
inductive Op where
  | guardStop
  | cancel (task : Background)
  | await (task : Background)
  | heartbeatClose
  | consumerStop
  | waitIdle
  | pendingBatchDelivery
  | waitDelivery
  | clearPending
  | webhookClose
  | redisClose
  | killOpenvpnDaemon
deriving DecidableEq, Repr

/-- What an operation returns. -/
@[reducible] def Op.Reply : Op → Type
  | .pendingBatchDelivery => Bool
  | _ => Unit

/-- A coroutine of the teardown. -/
abbrev Task := Coro Op.Reply Raised

/-- Issue one operation. -/
def call (op : Op) : Task op.Reply := Coro.perform op

/-- `with suppress(asyncio.CancelledError): await task` -/
def awaitSuppressed (task : Background) : Task Unit :=
  (call (.await task)).catching fun raised => if raised.isCancelled then .ret () else .raise raised

/-- The body of the `try` block of `drain`. [SRC consumer.py:252-257] -/
def drainInTime : Task Bool := do
  call .waitIdle
  if ← call .pendingBatchDelivery then
    call .waitDelivery
    call .clearPending
    return true
  else
    return true

/-- `drain`. [SRC consumer.py:241-259] -/
def drain : Task Bool := do
  call .consumerStop
  drainInTime.catching fun raised => if raised = .timeoutError then .ret false else .raise raised

/-- `lifespan` behind the `yield`. [SRC app.py:121-144] -/
def teardown : Task Unit := do
  call .guardStop
  call (.cancel .watch)
  awaitSuppressed .watch
  call .heartbeatClose
  call (.cancel .heartbeat)
  awaitSuppressed .heartbeat
  let _drained ← drain
  call (.cancel .consumer)
  awaitSuppressed .consumer
  call .webhookClose
  call .redisClose
  call .killOpenvpnDaemon

/-! ### A run -/

/-- How an awaited task ends, if it does. A task that has ended is not cancelled any more. -/
def TaskFate.outcome : TaskFate → Option (Except Raised Unit)
  | .ended outcome | .running outcome => some outcome
  | .stuck => none

/-- The answers. `wait_for` raises `TimeoutError` when the time is up. -/
def answer (shutdown : Shutdown) : (op : Op) → Option (Except Raised op.Reply)
  | .await task => (shutdown.fate task).outcome
  | .heartbeatClose => some shutdown.heartbeatClose
  | .waitIdle => some (if shutdown.idleInTime then .ok () else .error .timeoutError)
  | .pendingBatchDelivery => some (.ok shutdown.pendingBatchDelivery.isSome)
  | .waitDelivery =>
      match shutdown.pendingBatchDelivery with
      | some (.ends outcome) => some outcome
      | _ => some (.error .timeoutError)
  | .webhookClose => some shutdown.webhookClose
  | .redisClose => some shutdown.redisClose
  | .guardStop | .cancel _ | .consumerStop | .clearPending | .killOpenvpnDaemon => some (.ok ())

/-- One operation. The state is the list of the operations that were begun, the latest last. -/
def serve (shutdown : Shutdown) (begun : List Op) (op : Op) : Option (Except Raised op.Reply × List Op) :=
  (answer shutdown op).map fun outcome => (outcome, begun ++ [op])

/-- The operations a teardown gets to, and how it ends. -/
def Shutdown.run (shutdown : Shutdown) : List Op × Option (Except Raised Unit) :=
  teardown.exhaust (serve shutdown) []

end CodaNode.Lifespan
