/-
Module: CodaNode.Proofs.Teardown
Layer: Proofs
Purpose: Which teardowns get through. An exception that a background task died of, that a delivery left behind or
  that a client raises when it is closed ends the teardown where it is met, and what stands behind is not done.
Imports: CodaNode.Coroutine.Alone, CodaNode.Server.Lifespan, CodaNode.Server.System
Main exports: Lifespan.Shutdown.Smooth, teardown_complete_iff
-/
import CodaNode.Coroutine.Alone
import CodaNode.Server.Lifespan
import CodaNode.Server.System

namespace CodaNode

open Coroutine

namespace Lifespan

/-- The steps of the teardown, in their order. -/
def steps : List Op :=
  [.guardStop, .cancel .watch, .await .watch, .heartbeatClose, .cancel .heartbeat, .await .heartbeat, .consumerStop,
    .cancel .consumer, .await .consumer, .webhookClose, .redisClose, .killOpenvpnDaemon]

/-- The task ends, and only with a cancellation if with an exception. -/
def TaskFate.Quiet (fate : TaskFate) : Prop :=
  ∃ outcome, fate.outcome = some outcome ∧ ∀ raised, outcome = .error raised → raised.isCancelled = true

/-- Nothing escapes the drain: it does not come to a delivery, or the delivery returns, is late or timed out. -/
def Shutdown.Drains (shutdown : Shutdown) : Prop :=
  shutdown.idleInTime = true → ∀ raised, shutdown.pendingBatchDelivery = some (.ends (.error raised)) →
    raised = .timeoutError

/-- No exception escapes before the last step. -/
structure Shutdown.Smooth (shutdown : Shutdown) : Prop where
  tasks : ∀ task, (shutdown.fate task).Quiet
  drains : shutdown.Drains
  heartbeatClose : shutdown.heartbeatClose = .ok ()
  webhookClose : shutdown.webhookClose = .ok ()
  redisClose : shutdown.redisClose = .ok ()

variable {shutdown : Shutdown} {begun : List Op} {task : Background}

/-- Where the wait for a task gets. -/
theorem awaitSuppressed_quiet {next : Unit → Task Unit} (quiet : (shutdown.fate task).Quiet) :
    (awaitSuppressed task >>= next).exhaust (serve shutdown) begun =
      (next ()).exhaust (serve shutdown) (begun ++ [.await task]) := by
  obtain ⟨outcome, ends, cancelled⟩ := quiet
  have answered : serve shutdown begun (.await task) = some (outcome, begun ++ [.await task]) := by
    rw [serve, answer, ends]
    rfl
  rw [Coro.bind_eq, awaitSuppressed, Coro.catching, call, Coro.perform, Coro.handle, Coro.handle, Coro.exhaust,
    answered]
  cases outcome with
  | ok value => rfl
  | error raised =>
      simp only [Coro.handle, cancelled raised rfl, if_true]

/-- Behind a task that died nothing is begun. -/
theorem awaitSuppressed_loud {next : Unit → Task Unit} (loud : ¬ (shutdown.fate task).Quiet) :
    ∀ op ∈ ((awaitSuppressed task >>= next).exhaust (serve shutdown) begun).1, op ∈ begun ++ [.await task] := by
  rw [Coro.bind_eq, awaitSuppressed, Coro.catching, call, Coro.perform, Coro.handle, Coro.handle, Coro.exhaust]
  cases ends : (shutdown.fate task).outcome with
  | none =>
      have answered : serve shutdown begun (.await task) = none := by
        rw [serve, answer, ends]
        rfl
      rw [answered]
      exact fun op inside => List.mem_append_left _ inside
  | some outcome =>
      have answered : serve shutdown begun (.await task) = some (outcome, begun ++ [.await task]) := by
        rw [serve, answer, ends]
        rfl
      rw [answered]
      cases outcome with
      | ok value => exact absurd ⟨_, ends, fun raised same => by cases same⟩ loud
      | error raised =>
          have escapes : raised.isCancelled = false := by
            cases cancelled : raised.isCancelled with
            | false => rfl
            | true =>
                refine absurd ⟨_, ends, fun other same => ?_⟩ loud
                cases same
                exact cancelled
          simp only [Coro.handle, escapes, Bool.false_eq_true, if_false, Coro.exhaust]
          exact fun op inside => inside

/-- The operations of a drain from which nothing escapes. -/
def drained (shutdown : Shutdown) : List Op :=
  if shutdown.idleInTime then
    match shutdown.pendingBatchDelivery with
    | none => [.consumerStop, .waitIdle, .pendingBatchDelivery]
    | some (.ends (.ok ())) => [.consumerStop, .waitIdle, .pendingBatchDelivery, .waitDelivery, .clearPending]
    | some _ => [.consumerStop, .waitIdle, .pendingBatchDelivery, .waitDelivery]
  else [.consumerStop, .waitIdle]

/-- Where the drain gets. -/
theorem drain_quiet {next : Bool → Task Unit} (drains : shutdown.Drains) :
    ∃ value, (drain >>= next).exhaust (serve shutdown) begun =
      (next value).exhaust (serve shutdown) (begun ++ drained shutdown) := by
  have same (more : List Op) (others : begun ++ drained shutdown = more) {value : Bool}
      (runs : (drain >>= next).exhaust (serve shutdown) begun = (next value).exhaust (serve shutdown) more) :
      ∃ value, (drain >>= next).exhaust (serve shutdown) begun =
        (next value).exhaust (serve shutdown) (begun ++ drained shutdown) :=
    ⟨value, others ▸ runs⟩
  obtain ⟨watch, heartbeat, consumer, idleInTime, pending, heartbeatClose, webhookClose, redisClose⟩ := shutdown
  cases idleInTime with
  | false => exact same (((begun ++ [.consumerStop]) ++ [.waitIdle])) (by simp [drained]) rfl
  | true =>
      cases pending with
      | none =>
          exact same (begun ++ [.consumerStop] ++ [.waitIdle] ++ [.pendingBatchDelivery]) (by simp [drained]) rfl
      | some fate =>
          cases fate with
          | late =>
              exact same (begun ++ [.consumerStop] ++ [.waitIdle] ++ [.pendingBatchDelivery] ++ [.waitDelivery])
                (by simp [drained]) rfl
          | ends outcome =>
              cases outcome with
              | ok value =>
                  exact same (begun ++ [.consumerStop] ++ [.waitIdle] ++ [.pendingBatchDelivery] ++ [.waitDelivery] ++
                    [.clearPending]) (by simp [drained]) rfl
              | error raised =>
                  obtain rfl := drains rfl raised rfl
                  exact same (begun ++ [.consumerStop] ++ [.waitIdle] ++ [.pendingBatchDelivery] ++ [.waitDelivery])
                    (by simp [drained]) rfl

/-- Behind a drain that raises nothing is begun. -/
theorem drain_loud {next : Bool → Task Unit} (loud : ¬ shutdown.Drains) :
    ∀ op ∈ ((drain >>= next).exhaust (serve shutdown) begun).1,
      op ∈ begun ++ [.consumerStop, .waitIdle, .pendingBatchDelivery, .waitDelivery] := by
  obtain ⟨watch, heartbeat, consumer, idleInTime, pending, heartbeatClose, webhookClose, redisClose⟩ := shutdown
  cases idleInTime with
  | false => exact absurd (fun impossible => by cases impossible) loud
  | true =>
      cases pending with
      | none => exact absurd (fun _ _ impossible => by cases impossible) loud
      | some fate =>
          cases fate with
          | late => exact absurd (fun _ _ impossible => by cases impossible) loud
          | ends outcome =>
              cases outcome with
              | ok value => exact absurd (fun _ _ impossible => by cases impossible) loud
              | error raised =>
                  cases raised with
                  | timeoutError =>
                      refine absurd (fun _ other same => ?_) loud
                      cases same
                      rfl
                  | other exception =>
                      intro op inside
                      change op ∈ begun ++ [.consumerStop] ++ [.waitIdle] ++ [.pendingBatchDelivery] ++
                        [.waitDelivery] at inside
                      simpa using inside

/-- Behind a client that raises nothing is begun. -/
theorem close_loud {op : Op} {raised : Raised} {next : op.Reply → Task Unit}
    (fails : answer shutdown op = some (.error raised)) :
    ((call op >>= next).exhaust (serve shutdown) begun).1 = begun ++ [op] := by
  have answered : serve shutdown begun op = some (.error raised, begun ++ [op]) := by
    rw [serve, fails]
    rfl
  rw [Coro.bind_eq, call, Coro.perform, Coro.handle, Coro.exhaust, answered]
  rfl

theorem call_quiet {op : Op} {value : op.Reply} {next : op.Reply → Task Unit}
    (returns : answer shutdown op = some (.ok value)) :
    (call op >>= next).exhaust (serve shutdown) begun = (next value).exhaust (serve shutdown) (begun ++ [op]) := by
  have answered : serve shutdown begun op = some (.ok value, begun ++ [op]) := by
    rw [serve, returns]
    rfl
  rw [Coro.bind_eq, call, Coro.perform, Coro.handle, Coro.exhaust, answered]
  rfl

theorem consumerStop_drained : .consumerStop ∈ drained shutdown := by
  unfold drained
  split
  · split <;> simp
  · simp

/-- A smooth teardown does everything and returns. -/
theorem run_of_smooth (smooth : shutdown.Smooth) :
    shutdown.run = ([.guardStop, .cancel .watch, .await .watch, .heartbeatClose, .cancel .heartbeat, .await .heartbeat] ++
      drained shutdown ++ [.cancel .consumer, .await .consumer, .webhookClose, .redisClose, .killOpenvpnDaemon],
      some (.ok ())) := by
  obtain ⟨tasks, drains, heartbeatClose, webhookClose, redisClose⟩ := smooth
  have stopped : answer shutdown .guardStop = some (.ok ()) := rfl
  have cancelled (task : Background) : answer shutdown (.cancel task) = some (.ok ()) := rfl
  have killed : answer shutdown .killOpenvpnDaemon = some (.ok ()) := rfl
  have heartbeat : answer shutdown .heartbeatClose = some (.ok ()) := congrArg some heartbeatClose
  have webhook : answer shutdown .webhookClose = some (.ok ()) := congrArg some webhookClose
  have redis : answer shutdown .redisClose = some (.ok ()) := congrArg some redisClose
  unfold Shutdown.run teardown
  rw [call_quiet stopped, call_quiet (cancelled .watch), awaitSuppressed_quiet (tasks .watch), call_quiet heartbeat,
    call_quiet (cancelled .heartbeat), awaitSuppressed_quiet (tasks .heartbeat)]
  obtain ⟨value, drain⟩ := drain_quiet drains
  rw [drain, call_quiet (cancelled .consumer), awaitSuppressed_quiet (tasks .consumer), call_quiet webhook,
    call_quiet redis]
  have last {begun : List Op} : (call .killOpenvpnDaemon).exhaust (serve shutdown) begun =
      (begun ++ [.killOpenvpnDaemon], some (.ok ())) := rfl
  rw [last]
  simp

/-- A teardown that comes to the daemon is smooth. -/
theorem smooth_of_killed (killed : .killOpenvpnDaemon ∈ shutdown.run.1) : shutdown.Smooth := by
  have stopped : answer shutdown .guardStop = some (.ok ()) := rfl
  have cancelled (task : Background) : answer shutdown (.cancel task) = some (.ok ()) := rfl
  unfold Shutdown.run teardown at killed
  rw [call_quiet stopped, call_quiet (cancelled .watch)] at killed
  have watch : (shutdown.fate .watch).Quiet := by
    by_contra loud
    have inside := awaitSuppressed_loud loud _ killed
    simp at inside
  rw [awaitSuppressed_quiet watch] at killed
  have heartbeatClose : shutdown.heartbeatClose = .ok () := by
    cases closes : shutdown.heartbeatClose with
    | ok value => rfl
    | error raised =>
        have fails : answer shutdown .heartbeatClose = some (.error raised) := congrArg some closes
        rw [close_loud fails] at killed
        simp at killed
  have heartbeatClosed : answer shutdown .heartbeatClose = some (.ok ()) := congrArg some heartbeatClose
  rw [call_quiet heartbeatClosed, call_quiet (cancelled .heartbeat)] at killed
  have heartbeat : (shutdown.fate .heartbeat).Quiet := by
    by_contra loud
    have inside := awaitSuppressed_loud loud _ killed
    simp at inside
  rw [awaitSuppressed_quiet heartbeat] at killed
  have drains : shutdown.Drains := by
    by_contra loud
    have inside := drain_loud loud _ killed
    simp at inside
  obtain ⟨value, drain⟩ := drain_quiet drains
  have quiet : .killOpenvpnDaemon ∉ drained shutdown := by
    unfold drained
    split
    · split <;> simp
    · simp
  rw [drain, call_quiet (cancelled .consumer)] at killed
  have consumer : (shutdown.fate .consumer).Quiet := by
    by_contra loud
    have inside := awaitSuppressed_loud loud _ killed
    simp [quiet] at inside
  rw [awaitSuppressed_quiet consumer] at killed
  have webhookClose : shutdown.webhookClose = .ok () := by
    cases closes : shutdown.webhookClose with
    | ok value => rfl
    | error raised =>
        have fails : answer shutdown .webhookClose = some (.error raised) := congrArg some closes
        rw [close_loud fails] at killed
        simp [quiet] at killed
  have webhookClosed : answer shutdown .webhookClose = some (.ok ()) := congrArg some webhookClose
  rw [call_quiet webhookClosed] at killed
  have redisClose : shutdown.redisClose = .ok () := by
    cases closes : shutdown.redisClose with
    | ok value => rfl
    | error raised =>
        have fails : answer shutdown .redisClose = some (.error raised) := congrArg some closes
        rw [close_loud fails] at killed
        simp [quiet] at killed
  refine ⟨?_, drains, heartbeatClose, webhookClose, redisClose⟩
  intro task
  cases task with
  | watch => exact watch
  | heartbeat => exact heartbeat
  | consumer => exact consumer

end Lifespan

open Lifespan

/-- The teardown performs every one of its steps exactly when each background task ends, and not with an exception
other than a cancellation, nothing escapes the drain, and the clients close without an exception. -/
theorem teardown_complete_iff (shutdown : Shutdown) : (∀ step ∈ steps, step ∈ shutdown.run.1) ↔ shutdown.Smooth := by
  constructor
  · intro complete
    exact smooth_of_killed (complete _ (by simp [steps]))
  · intro smooth step member
    rw [run_of_smooth smooth]
    have drains : .consumerStop ∈ drained shutdown := consumerStop_drained
    simp only [steps, List.mem_cons, List.not_mem_nil, or_false] at member
    rcases member with rfl | rfl | rfl | rfl | rfl | rfl | rfl | rfl | rfl | rfl | rfl | rfl <;> simp [drains]

namespace Lifespan

/-- Redis cannot be reached when the consumer starts. -/
def refused : Exc := ⟨.connectionError, "Connection refused"⟩

def refuses (_ : World) : CodaNode.Op → Option Exc
  | .xgroupCreate => some refused
  | _ => none

theorem refuses_foreign (world : World) (op : CodaNode.Op) (exception : Exc)
    (fails : refuses world op = some exception) : exception.isForeign := by
  unfold refuses at fails
  split at fails
  · cases fails
    rfl
  · cases fails

theorem consumer_died : (Coro.amid (fun world op =>
      world.serveAlone ((Surroundings.plain Sample.result).failing refuses) op) World.happen [none, none] {}
        (consumeLoop Sample.consumer 1)).map (fun run => run.2) = some (.raise refused) := rfl

/-- The consumer has died, everything else is in order. -/
def died : Shutdown where
  watch := .running (.error (.other ⟨.cancelledError, ""⟩))
  heartbeat := .running (.error (.other ⟨.cancelledError, ""⟩))
  consumer := .ended (.error (.other refused))
  idleInTime := true
  pendingBatchDelivery := none
  heartbeatClose := .ok ()
  webhookClose := .ok ()
  redisClose := .ok ()

end Lifespan

open Lifespan in
/-- The consumer task dies when it sets up its group, and the teardown closes neither the webhook client nor Redis, and
leaves the daemon alone. -/
theorem teardown_incomplete :
    (∃ last, Coro.Leads (machine Sample.consumer .arbitrary) .loop {} (consumeLoop Sample.consumer 1) last
      (.raise refused)) ∧
    died.consumer = .ended (.error (.other refused)) ∧
    died.run = ([.guardStop, .cancel .watch, .await .watch, .heartbeatClose, .cancel .heartbeat, .await .heartbeat,
      .consumerStop, .waitIdle, .pendingBatchDelivery, .cancel .consumer, .await .consumer],
      some (.error (.other refused))) ∧
    ¬ ∀ step ∈ steps, step ∈ died.run.1 := by
  obtain ⟨⟨last, rest⟩, runs, same⟩ := Option.map_eq_some_iff.mp consumer_died
  cases same
  refine ⟨⟨last, ?_⟩, rfl, rfl, ?_⟩
  · exact World.amid_leads
      (Surroundings.failing_within (Surroundings.plain_within fun _ _ _ _ => trivial) refuses_foreign)
      (fun _ => trivial) runs
  · intro complete
    have killed : Op.killOpenvpnDaemon ∈ died.run.1 := complete _ (by simp [steps])
    revert killed
    decide

end CodaNode
