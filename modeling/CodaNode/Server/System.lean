/-
Module: CodaNode.Server.System
Layer: Server
Purpose: The consumer as a pool of coroutines: the machine that serves their operations under a
  policy, and scripts. A script fixes what Redis, the executor
  and the webhook endpoint answer and in which order the tasks run, so that one run can be computed.
Imports: CodaNode.Coroutine.Alone, CodaNode.Coroutine.Pool, CodaNode.Server.Consumer
Main exports: machine, Policy.arbitrary, System, Surroundings, System.play, System.play_reaches
-/
import CodaNode.Coroutine.Alone
import CodaNode.Coroutine.Pool
import CodaNode.Server.Consumer

namespace CodaNode

open Coroutine

/-- The task an operation creates. -/
def spawned (self : Consumer) (world : World) : Op → List (Role × Task Unit)
  | .createTask spec =>
      [(.task world.tasks.length spec, taskBody self world.tasks.length spec)]
  | _ => []

/-- The machine that runs the coroutines of a consumer. -/
def machine (self : Consumer) (policy : Policy) : Machine Op.Reply Exc World Role where
  perform role world op outcome world' :=
    ∃ fate next, World.Performs policy world op outcome fate next ∧
      world' = next.recordCall role op outcome fate
  spawns := spawned self
  env world world' :=
    ∃ event next, policy.env event ∧ world.occur event = some next ∧
      world' = next.record (.env event)
  isLocal := Op.isLocal

/-- Every operation may fail with every exception of code outside the consumer, and every event may occur. -/
def Policy.arbitrary : Policy where
  fault _ exception := exception.isForeign
  env _ := True

/-- The pools over a consumer. -/
abbrev System := Pool Op.Reply Exc World Role

/-- The main coroutine has returned. -/
def System.Returned (system : System) : Prop := (Role.loop, (Coro.ret () : Task Unit)) ∈ system.tasks

namespace World

@[simp] theorem record_redis (world : World) (entry : Entry) :
    (world.record entry).redis = world.redis := rfl

@[simp] theorem record_attrs (world : World) (entry : Entry) :
    (world.record entry).attrs = world.attrs := rfl

@[simp] theorem record_runTask (world : World) (entry : Entry) :
    (world.record entry).runTask = world.runTask := rfl

@[simp] theorem record_tasks (world : World) (entry : Entry) :
    (world.record entry).tasks = world.tasks := rfl

@[simp] theorem record_log (world : World) (entry : Entry) :
    (world.record entry).log = world.log ++ [entry] := rfl

variable (world : World) (role : Role) (op : Op) (outcome : Except Exc op.Reply) (fate : Fate)

@[simp] theorem recordCall_redis : (world.recordCall role op outcome fate).redis = world.redis := by
  unfold recordCall
  split <;> rfl

@[simp] theorem recordCall_attrs : (world.recordCall role op outcome fate).attrs = world.attrs := by
  unfold recordCall
  split <;> rfl

@[simp] theorem recordCall_runTask :
    (world.recordCall role op outcome fate).runTask = world.runTask := by
  unfold recordCall
  split <;> rfl

@[simp] theorem recordCall_tasks : (world.recordCall role op outcome fate).tasks = world.tasks := by
  unfold recordCall
  split <;> rfl

theorem recordCall_log : (world.recordCall role op outcome fate).log =
    if op.logged then world.log ++ [.call role op outcome fate] else world.log := by
  unfold recordCall
  split <;> rfl

variable {world op outcome}

/-- No operation touches a cancellation flag. -/
theorem cancelled_of_effect {next : World} (effect : world.effect op outcome = some next) :
    next.redis.cancelled = world.redis.cancelled := by
  unfold World.effect World.finish at effect
  split at effect
  all_goals first
    | (split at effect <;> cases effect <;> rfl)
    | (cases effect; rfl)
    | cases effect

theorem cancelled_of_performs {policy : Policy} {fate : Fate} {next : World}
    (performs : Performs policy world op outcome fate next) :
    next.redis.cancelled = world.redis.cancelled := by
  cases performs with
  | answered _ effect => exact cancelled_of_effect effect
  | lost => rfl
  | executed _ _ effect => exact cancelled_of_effect effect

/-- No operation touches the entries of the stream. -/
theorem stream_of_performs {policy : Policy} {fate : Fate} {next : World}
    (performs : Performs policy world op outcome fate next) :
    next.redis.stream = world.redis.stream := by
  have answered {outcome : Except Exc op.Reply} (effect : world.effect op outcome = some next) :
      next.redis.stream = world.redis.stream := by
    unfold World.effect World.finish at effect
    split at effect
    all_goals first
      | (split at effect <;> cases effect <;> rfl)
      | (cases effect; rfl)
      | cases effect
  cases performs with
  | answered _ effect => exact answered effect
  | lost => rfl
  | executed _ _ effect => exact answered effect

/-- Only a read and an acknowledgement move messages. -/
theorem entries_of_effect {next : World} (effect : world.effect op outcome = some next)
    (reads : ∀ name count, op ≠ .xreadgroup name count) (acks : ∀ messageId, op ≠ .xack messageId) :
    next.redis.pending = world.redis.pending ∧ next.redis.undelivered = world.redis.undelivered := by
  unfold World.effect World.finish at effect
  split at effect
  all_goals first
    | exact absurd rfl (reads _ _)
    | exact absurd rfl (acks _)
    | (split at effect <;> cases effect <;> exact ⟨rfl, rfl⟩)
    | (cases effect; exact ⟨rfl, rfl⟩)
    | cases effect

/-- The cloud and the executor touch neither the stream nor what is pending. -/
theorem entries_of_occur {event : EnvEvent} {next : World} (occurs : world.occur event = some next) :
    next.redis.stream = world.redis.stream ∧ next.redis.pending = world.redis.pending := by
  unfold occur at occurs
  split at occurs
  · cases occurs
    exact ⟨rfl, rfl⟩
  · split at occurs
    · split at occurs
      · cases occurs
        exact ⟨rfl, rfl⟩
      · cases occurs
    · cases occurs
  · cases occurs
    exact ⟨rfl, rfl⟩
  · cases occurs
    exact ⟨rfl, rfl⟩

/-- A flag that is not set now was not set before. -/
theorem unflagged_of_occur {event : EnvEvent} {next : World} (occurs : world.occur event = some next)
    {jobId : String} (clear : next.redis.cancelled jobId = false) :
    world.redis.cancelled jobId = false := by
  unfold occur at occurs
  split at occurs
  · cases occurs
    simp only [Redis.requestCancel] at clear
    split at clear
    · cases clear
    · exact clear
  · split at occurs
    · split at occurs
      · cases occurs
        exact clear
      · cases occurs
    · cases occurs
  · cases occurs
    exact clear
  · cases occurs
    exact clear

theorem runTask_of_effect {next : World} (effect : world.effect op outcome = some next)
    (other : op.touchesRun = false) : next.runTask = world.runTask := by
  unfold World.effect World.finish at effect
  split at effect
  all_goals first
    | (simp [Op.touchesRun] at other; done)
    | (split at effect <;> cases effect <;> rfl)
    | (cases effect; rfl)
    | cases effect

theorem runTask_of_performs {policy : Policy} {fate : Fate} {next : World}
    (performs : Performs policy world op outcome fate next) (other : op.touchesRun = false) :
    next.runTask = world.runTask := by
  cases performs with
  | answered _ effect => exact runTask_of_effect effect other
  | lost => rfl
  | executed _ _ effect => exact runTask_of_effect effect other

/-- A flag that could be read had the value that was read. -/
theorem flag_of_performs {policy : Policy} {jobId : String} {flag : Bool} {fate : Fate} {next : World}
    (performs : Performs policy world (.getCancelled jobId) (.ok flag) fate next) :
    flag = world.redis.cancelled jobId := by
  cases performs with
  | answered _ effect =>
      simp only [World.effect] at effect
      split at effect
      · assumption
      · cases effect

theorem log_of_effect {next : World} (effect : world.effect op outcome = some next) :
    next.log = world.log := by
  unfold World.effect World.finish at effect
  split at effect
  all_goals first
    | (split at effect <;> cases effect <;> rfl)
    | (cases effect; rfl)
    | cases effect

/-- Only the record of an operation is added to the log, and only if the log keeps it. -/
theorem recordCall_log_of_performs {policy : Policy} {fate : Fate} {next : World}
    (performs : Performs policy world op outcome fate next) :
    (next.recordCall role op outcome fate).log =
      if op.logged then world.log ++ [.call role op outcome fate] else world.log := by
  have same : next.log = world.log := by
    cases performs with
    | answered _ effect => exact log_of_effect effect
    | lost => rfl
    | executed _ _ effect => exact log_of_effect effect
  rw [recordCall_log, same]

theorem log_of_occur {event : EnvEvent} {next : World} (occurs : world.occur event = some next) :
    next.log = world.log := by
  unfold occur at occurs
  split at occurs
  · cases occurs
    rfl
  · split at occurs
    · split at occurs
      · cases occurs
        rfl
      · cases occurs
    · cases occurs
  · cases occurs
    rfl
  · cases occurs
    rfl

theorem tasks_of_effect {next : World} (effect : world.effect op outcome = some next)
    (creates : ∀ spec, op ≠ .createTask spec) (ends : ∀ number ending, op ≠ .taskDone number ending) :
    next.tasks = world.tasks := by
  unfold World.effect at effect
  split at effect
  all_goals first
    | exact absurd rfl (creates _)
    | exact absurd rfl (ends _ _)
    | (split at effect <;> cases effect <;> rfl)
    | (cases effect; rfl)
    | cases effect

/-- Only the creation and the end of a task touch the table of tasks. -/
theorem tasks_of_performs {policy : Policy} {fate : Fate} {next : World}
    (performs : Performs policy world op outcome fate next)
    (creates : ∀ spec, op ≠ .createTask spec) (ends : ∀ number ending, op ≠ .taskDone number ending) :
    next.tasks = world.tasks := by
  cases performs with
  | answered _ effect => exact tasks_of_effect effect creates ends
  | lost => rfl
  | executed _ _ effect => exact tasks_of_effect effect creates ends

/-- An operation at which nothing can arrive from outside does not fail. -/
theorem feasible_of_performs {policy : Policy} {fate : Fate} {next : World}
    (performs : Performs policy world op outcome fate next) (settled : op.interruptible = false) :
    ∃ value, outcome = .ok value := by
  cases performs with
  | answered _ effect =>
      cases outcome with
      | ok value => exact ⟨value, rfl⟩
      | error exception =>
          cases op <;> simp [Op.interruptible, Op.isLocal, World.effect] at settled effect
  | lost interruptible => rw [settled] at interruptible; cases interruptible
  | executed interruptible => rw [settled] at interruptible; cases interruptible

/-- A created task gets the next number. -/
theorem createTask_performs {policy : Policy} {spec : TaskSpec}
    {outcome : Except Exc (Op.createTask spec).Reply} {fate : Fate} {next : World}
    (performs : Performs policy world (.createTask spec) outcome fate next) :
    outcome = .ok world.tasks.length ∧ fate = .answered ∧
      next = { world with tasks := world.tasks ++ [⟨spec, none⟩] } := by
  cases performs with
  | answered _ effect =>
      cases outcome with
      | ok number =>
          simp only [World.effect] at effect
          split at effect
          · rename_i numbered
            cases effect
            exact ⟨by rw [numbered], rfl, rfl⟩
          · cases effect
      | error exception => cases effect
  | lost interruptible => cases interruptible
  | executed interruptible => cases interruptible

/-- The end of a task is stored. -/
theorem taskDone_performs {policy : Policy} {number : Nat} {ending : Except Exc Unit}
    {outcome : Except Exc (Op.taskDone number ending).Reply} {fate : Fate} {next : World}
    (performs : Performs policy world (.taskDone number ending) outcome fate next) :
    next = world.finish number ending := by
  cases performs with
  | answered _ effect =>
      cases outcome with
      | ok value => cases effect; rfl
      | error exception => cases effect
  | lost interruptible => cases interruptible
  | executed interruptible => cases interruptible

theorem tasks_of_occur {event : EnvEvent} {next : World} (occurs : world.occur event = some next) :
    next.tasks = world.tasks := by
  unfold occur at occurs
  split at occurs
  · cases occurs
    rfl
  · split at occurs
    · split at occurs
      · cases occurs
        rfl
      · cases occurs
    · cases occurs
  · cases occurs
    rfl
  · cases occurs
    rfl

end World

/-- What the environment and every operation preserve holds of the state of every pool that is reached. -/
theorem World.of_reaches {self : Consumer} {policy : Policy} {holds : World → Prop}
    (env : ∀ {world event next}, policy.env event → World.occur world event = some next →
      holds world → holds (next.record (.env event)))
    (call : ∀ {world role op outcome fate next}, World.Performs policy world op outcome fate next →
      holds world → holds (next.recordCall role op outcome fate))
    {first second : System} (here : holds first.state)
    (reaches : Pool.Reaches (machine self policy) first second) : holds second.state := by
  induction reaches with
  | refl => exact here
  | tail _ step inductionHypothesis =>
      cases step with
      | env move =>
          obtain ⟨event, next, allowed, occurs, rfl⟩ := move
          exact env allowed occurs inductionHypothesis
      | call _ performed =>
          obtain ⟨fate, next, performs, rfl⟩ := performed
          exact call performs inductionHypothesis

/-- The entries of the stream stay. -/
theorem World.stream_of_reaches {self : Consumer} {policy : Policy} {first second : System}
    (reaches : Pool.Reaches (machine self policy) first second) :
    second.state.redis.stream = first.state.redis.stream := by
  let holds (world : World) : Prop := world.redis.stream = first.state.redis.stream
  have kept : holds second.state := World.of_reaches
    (fun _ occurs same => (World.entries_of_occur occurs).1.trans same)
    (fun {world role op outcome fate next} performs (same : holds world) =>
      (congrArg Redis.stream (World.recordCall_redis next role op outcome fate)).trans
        ((World.stream_of_performs performs).trans same)) rfl reaches
  exact kept

/-! ### Scripts -/

/-- What the surroundings answer to one operation of one task. -/
abbrev Surroundings := Role → World → (op : Op) → Option (Except Exc op.Reply × Fate)

namespace World

/-- The answer when nothing fails. The executor returns `result`, and a read takes all it may. -/
def plainAnswer (result : ExecutionResult) (world : World) :
    (op : Op) → Option (Except Exc op.Reply)
  | .xgroupCreate =>
      some (if world.redis.group then
        .error ⟨.responseError, "BUSYGROUP Consumer Group name already exists"⟩ else .ok ())
  | .xpendingRange consumer count => some (.ok ((world.redis.pendingOf consumer).take count))
  | .xrange messageId =>
      some (.ok (world.redis.stream.filter fun message => message.messageId = messageId))
  | .xreadgroup _ count => some (.ok (world.redis.undelivered.take count))
  | .hgetState jobId => some (.ok (world.redis.status jobId).state)
  | .getCancelled jobId => some (.ok (world.redis.cancelled jobId))
  | .waitRun | .runDone => (world.runTask.map fun run => run.outcome.isSome).map .ok
  | .awaitRun => world.runTask.bind RunTask.outcome
  | .batchRun jobs => some (.ok (jobs.map fun _ => result))
  | .createTask _ => some (.ok world.tasks.length)
  | .awaitTask number => world.outcomeOf number
  | .attrs => some (.ok world.attrs)
  | .utcNow => some (.ok "")
  | .monotonic => some (.ok 0)
  | .hang => none
  | .xack _ | .hset _ _ | .createRun _ _ _ | .cancelRun | .cancelCurrentJob | .sendResult _ _
  | .sendError _ _ _ | .start | .gather _ | .taskDone _ _ | .sleep _ | .modify _ | .note _ =>
      some (.ok ())

/-- One operation under the given surroundings. -/
def serve (surroundings : Surroundings) (role : Role) (world : World) (op : Op) :
    Option (Except Exc op.Reply × World) :=
  match surroundings role world op with
  | some (outcome, .answered) =>
      (world.effect op outcome).map fun next => (outcome, next.recordCall role op outcome .answered)
  | some (.error exception, .lost) =>
      if op.interruptible then
        some (.error exception, world.recordCall role op (.error exception) .lost)
      else none
  | _ => none

/-- The event occurs and is logged. -/
def happen (event : EnvEvent) (world : World) : Option World :=
  (world.occur event).map fun next => next.record (.env event)

end World

/-- The surroundings do only what the policy admits. -/
def Surroundings.Within (surroundings : Surroundings) (policy : Policy) : Prop :=
  ∀ role world op outcome fate, surroundings role world op = some (outcome, fate) →
    match fate with
    | .answered => policy.reply op outcome
    | _ => ∀ exception, outcome = .error exception → policy.fault op exception

/-- Nothing fails, and the executor returns `result`. -/
def Surroundings.plain (result : ExecutionResult) : Surroundings := fun _ world op =>
  (world.plainAnswer result op).map fun outcome => (outcome, .answered)

/-- The operations that `fails` picks fail without having taken effect. -/
def Surroundings.failing (surroundings : Surroundings) (fails : World → Op → Option Exc) :
    Surroundings := fun role world op =>
  match fails world op with
  | some exception => some (.error exception, .lost)
  | none => surroundings role world op

theorem Surroundings.plain_within {policy : Policy} {result : ExecutionResult}
    (replies : ∀ world op outcome, World.plainAnswer result world op = some outcome →
      policy.reply op outcome) :
    (Surroundings.plain result).Within policy := by
  intro role world op outcome fate answered
  obtain ⟨_, found, same⟩ := Option.map_eq_some_iff.mp answered
  cases same
  exact replies world op outcome found

theorem Surroundings.failing_within {policy : Policy} {surroundings : Surroundings}
    {fails : World → Op → Option Exc} (within : surroundings.Within policy)
    (faults : ∀ world op exception, fails world op = some exception → policy.fault op exception) :
    (surroundings.failing fails).Within policy := by
  intro role world op outcome fate answered
  unfold Surroundings.failing at answered
  split at answered
  · rename_i exception picked
    cases answered
    intro failure same
    cases same
    exact faults world op exception picked
  · exact within role world op outcome fate answered

/-- The system a script leads to. -/
def System.play (self : Consumer) (policy : Policy) (surroundings : Surroundings)
    (script : List (Turn EnvEvent)) (system : System) : System :=
  system.follow (machine self policy) (World.serve surroundings) World.happen script

/-- Whether every task has ended. -/
def System.ended (system : System) : Bool :=
  system.tasks.all fun task =>
    match task.2 with
    | .call _ _ => false
    | _ => true

theorem System.ended_iff {system : System} : System.ended system = true ↔ system.Ended := by
  unfold System.ended Pool.Ended
  rw [List.all_eq_true]
  constructor
  · intro finished task member op resume shape
    have ends := finished task member
    rw [shape] at ends
    cases ends
  · intro finished task member
    cases shape : task.2 with
    | call op resume => exact absurd shape (finished task member op resume)
    | _ => rfl

/-- Whether the main coroutine has returned. -/
def System.returned (system : System) : Bool :=
  system.tasks.any fun task =>
    match task with
    | (.loop, .ret ()) => true
    | _ => false

theorem System.returned_of_Returned {system : System} (returned : system.Returned) :
    System.returned system = true :=
  List.any_eq_true.mpr ⟨_, returned, rfl⟩

/-- What is served is possible. -/
theorem World.serve_performs {self : Consumer} {policy : Policy} {surroundings : Surroundings}
    (within : surroundings.Within policy) {role : Role} {world world' : World} {op : Op}
    {outcome : Except Exc op.Reply} (served : world.serve surroundings role op = some (outcome, world')) :
    (machine self policy).perform role world op outcome world' := by
  unfold World.serve at served
  split at served
  · rename_i outcome' answered
    obtain ⟨next, effect, same⟩ := Option.map_eq_some_iff.mp served
    cases same
    exact ⟨.answered, next, .answered (within _ _ _ _ _ answered) effect, rfl⟩
  · rename_i exception answered
    split at served
    · rename_i interruptible
      cases served
      exact ⟨.lost, world, .lost interruptible (within _ _ _ _ _ answered _ rfl), rfl⟩
    · cases served
  · cases served

/-- What a script leads to is reachable. -/
theorem System.play_reaches {self : Consumer} {policy : Policy} {surroundings : Surroundings}
    (within : surroundings.Within policy) (script : List (Turn EnvEvent)) (system : System)
    (env : ∀ event, Turn.env event ∈ script → policy.env event) :
    Pool.Reaches (machine self policy) system (system.play self policy surroundings script) := by
  refine Pool.follow_reaches (World.serve_performs within) script system ?_
  intro event member world world' happened
  obtain ⟨next, occurs, rfl⟩ := Option.map_eq_some_iff.mp happened
  exact ⟨event, next, env event member, occurs, rfl⟩

/-- One operation of the loop while it is the only task. -/
def World.serveAlone (surroundings : Surroundings) (world : World) (op : Op) :
    Option (Except Exc op.Reply × World) :=
  match op with
  | .createTask _ => none
  | op => world.serve surroundings .loop op

theorem World.serveAlone_performs {self : Consumer} {policy : Policy} {surroundings : Surroundings}
    (within : surroundings.Within policy) {world world' : World} {op : Op}
    {outcome : Except Exc op.Reply}
    (served : world.serveAlone surroundings op = some (outcome, world')) :
    (machine self policy).perform .loop world op outcome world' ∧
      (machine self policy).spawns world op = [] := by
  cases op with
  | createTask spec => cases served
  | _ => exact ⟨World.serve_performs within served, rfl⟩

/-- A scripted run of the loop while it is the only task. -/
theorem World.amid_leads {self : Consumer} {policy : Policy} {surroundings : Surroundings}
    (within : surroundings.Within policy) (events : ∀ event, policy.env event) {α : Type}
    {script : List (Option EnvEvent)} {world last : World} {body rest : Task α}
    (runs : Coro.amid (fun world op => world.serveAlone surroundings op) World.happen script world body =
      some (last, rest)) :
    Coro.Leads (machine self policy) .loop world body last rest := by
  apply Coro.amid_leads _ _ runs
  · intro state op outcome next answered
    exact (World.serveAlone_performs within answered).1
  · intro event state next happened
    obtain ⟨after, occurs, rfl⟩ := Option.map_eq_some_iff.mp happened
    exact ⟨event, after, events event, occurs, rfl⟩

/-! ### A sample deployment

The inputs on which the results are instantiated. -/

namespace Sample

/-- A circuit on one qubit. -/
def circuit : IRFields where
  target := "cz"
  numQubits := 1
  gates := []
  measurements := [0]
  metadata := { sourceHash := "0", compiledAt := "0" }

/-- A consumer whose circuit reader knows one text. -/
def consumer : Consumer where
  qpuId := "qpu"
  canBatch := true
  readFields text := if text = "circuit" then .ok circuit else .error "not JSON"
  pollRounds := 3

/-- An entry of the stream. -/
def entry (messageId jobId irJson : String) : StreamMessage where
  messageId := messageId
  fields :=
    [(.str "job_id", .str jobId), (.str "callback_url", .str "url"), (.str "ir_json", .str irJson),
      (.str "shots", .str "10")]

/-- A well-formed entry. -/
def message (messageId jobId : String) : StreamMessage := entry messageId jobId "circuit"

/-- What the executor returns. -/
def result : ExecutionResult := ⟨[("0", 10)], .finite 1, 10⟩

/-- A stream from which everything has been delivered and nothing acknowledged. -/
def delivered (messages : List StreamMessage) : Redis where
  group := true
  stream := messages
  pending := messages.map fun message => ⟨message.messageId, consumer.consumerName⟩

/-- A stream from which nothing has been delivered. -/
def waiting (messages : List StreamMessage) : Redis where
  group := true
  stream := messages
  undelivered := messages

end Sample

end CodaNode
