/-
Module: CodaNode.Proofs.Backoff
Layer: Proofs
Purpose: The back-off of the main loop. The power is computed before the cap is applied, in a handler,
  so the 1025th lost connection in a row ends the loop; up to then every delay is the documented one.
Imports: CodaNode.Coroutine.Solo, CodaNode.Protocol.Crew, CodaNode.Protocol.Loop
Main exports: Outage, BacksOff, backoffDelay_iff, backsOff_iff
-/
import CodaNode.Coroutine.Solo
import CodaNode.Protocol.Crew
import CodaNode.Protocol.Loop

namespace CodaNode

open Coroutine

/-- The connection failures in a row, and whether the latest operation of the loop was a read that lost
the connection. -/
structure Outage where
  failures : Nat := 0
  latest : Bool := false
deriving DecidableEq

/-- A successful read ends an outage. A failure of another command is seen by the warning. -/
def Outage.record (outage : Outage) : Entry → Outage
  | .call .loop (.xreadgroup _ _) (.ok _) _ => {}
  | .call .loop (.xreadgroup _ _) (.error exception) _ =>
      if exception.isConnection then ⟨outage.failures + 1, true⟩ else { outage with latest := false }
  | .call .loop (.note (.connectionLost _ _)) _ _ =>
      if outage.latest then outage else { outage with failures := outage.failures + 1 }
  | .call .loop _ _ _ => { outage with latest := false }
  | _ => outage

/-- The outage at the end of a log. -/
def outage (log : List Entry) : Outage := log.foldl Outage.record {}

theorem outage_snoc (log : List Entry) (entry : Entry) :
    outage (log ++ [entry]) = (outage log).record entry := by
  unfold outage
  rw [List.foldl_append]
  rfl

/-- After this the loop reads again, unless it was stopped. The explored part of the loop may end
here. -/
def ReadsAgain (self : Consumer) (body : Task Unit) : Prop :=
  (∃ resume, body = .call .attrs resume ∧ ∀ attrs, attrs.running = true →
    ∃ later, resume (.ok attrs) = .call (.xreadgroup self.consumerName (readCount self)) later) ∨
  ∃ resume, body = .call .hang resume

/-- The loop waits for the delay of the n-th failure in a row, and then reads again. -/
def BacksOff (self : Consumer) (failures : Nat) (system : System) : Prop :=
  ∃ resume, (Role.loop, Coro.call (.sleep (min (2 ^ (failures - 1)) 60)) resume) ∈ system.tasks ∧
    ReadsAgain self (resume (.ok ()))

/-- The delay is the documented one as long as the power is a double. -/
theorem backoffDelay_eq {failures : Nat} (bounded : failures ≤ 1024) :
    backoffDelay failures = .ok (min (2 ^ (failures - 1)) 60) := by
  have small : 2 ^ (failures - 1) < 2 ^ 1024 := Nat.pow_lt_pow_right (by decide) (by omega)
  unfold backoffDelay floatPow
  rw [show backoffFactor = 2 from rfl, if_pos small]
  simp [bind, Except.bind, pure, Except.pure, backoffBase, backoffMax]

/-- Beyond that, computing it raises. -/
theorem backoffDelay_error {failures : Nat} (large : 1024 < failures) :
    ∃ exception, backoffDelay failures = .error exception := by
  have big : ¬ 2 ^ (failures - 1) < 2 ^ 1024 := by
    apply Nat.not_lt.mpr
    exact Nat.pow_le_pow_right (by decide) (by omega)
  unfold backoffDelay floatPow
  rw [show backoffFactor = 2 from rfl, if_neg big]
  exact ⟨_, rfl⟩

namespace Backoff

variable {self : Consumer} {policy : Policy}

/-- What the counter of the loop says about the outage, stage by stage. -/
def Counted (failures : Nat) (seen : Outage) : LoopStage → Prop
  | .enter | .setup | .startUp _ | .reset => seen = {}
  | .clock | .stamp _ | .top | .read | .pause => seen.latest = false ∧ failures = seen.failures
  | .healthy _ | .calm _ => seen = {}
  | .down | .count => seen.failures = if seen.latest then failures + 1 else failures
  | .reread => failures = if seen.latest then seen.failures else seen.failures + 1
  | .warn attempt delay =>
      attempt = failures ∧ backoffDelay failures = .ok delay ∧
        failures = if seen.latest then seen.failures else seen.failures + 1
  | .backOff delay => failures = seen.failures ∧ backoffDelay failures = .ok delay
  | .ended _ => seen.latest = true → ∃ exception, backoffDelay seen.failures = .error exception
  | _ => seen = {} ∧ failures = 0

/-- The assertion for a crew. -/
def Holds (crew : Crew LoopStage) : Prop :=
  Counted crew.world.attrs.consecutiveFailures (outage crew.world.log) crew.main

theorem record_inner {seen : Outage} {role : Role} {op : Op} {outcome : Except Exc op.Reply}
    {fate : Fate} (inner : op.Inner) (calm : seen.latest = false) :
    seen.record (.call role op outcome fate) = seen := by
  obtain ⟨failures, latest⟩ := seen
  cases calm
  cases role with
  | task => rfl
  | loop =>
      cases op with
      | xreadgroup => exact inner.elim
      | note call =>
          cases call with
          | connectionLost => exact inner.elim
          | _ => rfl
      | _ => rfl

theorem record_task {seen : Outage} {number : Nat} {spec : TaskSpec} {op : Op}
    {outcome : Except Exc op.Reply} {fate : Fate} :
    seen.record (.call (.task number spec) op outcome fate) = seen := by
  cases op <;> rfl

section Rows

attribute [local irreducible] backoffDelay

variable {world next : World} {op : Op} {outcome : Except Exc op.Reply} {fate : Fate}

theorem outage_logged (performs : World.Performs policy world op outcome fate next)
    (logged : op.logged = true) : outage (next.recordCall .loop op outcome fate).log =
      (outage world.log).record (.call .loop op outcome fate) := by
  rw [World.recordCall_log_of_performs .loop performs, if_pos logged, outage_snoc]

theorem outage_unlogged (performs : World.Performs policy world op outcome fate next)
    (unlogged : op.logged = false) :
    outage (next.recordCall .loop op outcome fate).log = outage world.log := by
  rw [World.recordCall_log_of_performs .loop performs, unlogged, if_neg Bool.false_ne_true]

/-- Inside the methods the loop calls, nothing is counted. -/
theorem inner_row (inner : op.Inner) (performs : World.Performs policy world op outcome fate next)
    (calm : (outage world.log).latest = false) :
    outage (next.recordCall .loop op outcome fate).log = outage world.log ∧
      (next.recordCall .loop op outcome fate).attrs.consecutiveFailures =
        world.attrs.consecutiveFailures := by
  constructor
  · cases logged : op.logged with
    | true => exact (outage_logged performs logged).trans (record_inner inner calm)
    | false => exact outage_unlogged performs logged
  · rw [World.recordCall_attrs]
    obtain ⟨idle, current, last, same⟩ := World.quiet_of_inner inner performs
    rw [same]

theorem counted_caught {failures : Nat} {seen : Outage} (exception : Exc)
    (calm : seen.latest = false) (same : failures = seen.failures) :
    Counted failures seen (.caught exception) := by
  unfold LoopStage.caught
  split
  · simp [Counted, calm, same]
  · split
    · exact ⟨calm, same⟩
    · intro latest
      rw [calm] at latest
      cases latest

theorem counted_handling (messages : List StreamMessage) : Counted 0 {} (.handling messages) := by
  cases messages with
  | nil => exact ⟨rfl, rfl⟩
  | cons message rest => exact ⟨rfl, rfl⟩

theorem counted_dispatching (messages : List StreamMessage) :
    Counted 0 {} (.dispatching self messages) := by
  unfold LoopStage.dispatching
  split
  · exact ⟨rfl, rfl⟩
  · split
    · exact ⟨rfl, rfl⟩
    · exact counted_handling messages

theorem counted_waiting {failures : Nat} {seen : Outage}
    (counted : failures = if seen.latest then seen.failures else seen.failures + 1) :
    Counted failures seen (.waiting failures) := by
  unfold LoopStage.waiting
  split
  · rename_i delay found
    exact ⟨rfl, found, counted⟩
  · rename_i exception failed
    intro latest
    rw [latest, if_pos rfl] at counted
    exact ⟨exception, counted ▸ failed⟩

/-- Every row of the loop keeps the count right. -/
theorem counted_row {stage later : LoopStage} (row : LoopStage.Move self stage op outcome later)
    (performs : World.Performs policy world op outcome fate next)
    (counted : Counted world.attrs.consecutiveFailures (outage world.log) stage) :
    Counted (next.recordCall .loop op outcome fate).attrs.consecutiveFailures
      (outage (next.recordCall .loop op outcome fate).log) later := by
  cases row with
  | @startUp stage _ _ later row =>
      change outage world.log = {} at counted
      have inner := inner_row row.inner performs (by rw [counted])
      rw [inner.1, counted]
      refine RecoveryStage.within_cases (motive := Counted _ {}) ?_ ?_ ?_
      · exact fun _ => rfl
      · exact fun _ => rfl
      · exact fun _ _ latest => by cases latest
  | @recheck now stage _ _ later row =>
      obtain ⟨fresh, zero⟩ := counted
      have inner := inner_row row.inner performs (by rw [fresh])
      rw [inner.1, inner.2, fresh, zero]
      refine RecoveryStage.within_cases (motive := Counted 0 {}) ?_ ?_ ?_
      · exact fun _ => ⟨rfl, rfl⟩
      · exact fun _ => ⟨rfl, rfl⟩
      · exact fun exception _ => counted_caught exception rfl rfl
  | @each message stage rest _ _ later row =>
      obtain ⟨fresh, zero⟩ := counted
      have inner := inner_row row.inner performs (by rw [fresh])
      rw [inner.1, inner.2, fresh, zero]
      refine Stage.within_cases (motive := Counted 0 {}) ?_ ?_ ?_
      · exact fun _ => ⟨rfl, rfl⟩
      · exact fun _ => counted_handling rest
      · exact fun exception _ => counted_caught exception rfl rfl
  | @batch messages stage _ _ later row =>
      obtain ⟨fresh, zero⟩ := counted
      have inner := inner_row row.inner performs (by rw [fresh])
      rw [inner.1, inner.2, fresh, zero]
      refine BatchStage.within_cases (motive := Counted 0 {}) ?_ ?_ ?_
      · exact fun _ => ⟨rfl, rfl⟩
      · intro delivery _
        cases delivery <;> exact ⟨rfl, rfl⟩
      · exact fun exception _ => counted_caught exception rfl rfl
  | enter =>
      rw [outage_unlogged performs rfl]
      exact counted
  | @setup outcome =>
      change outage world.log = {} at counted
      have same : outage (next.recordCall .loop .xgroupCreate outcome fate).log = {} := by
        rw [outage_logged performs rfl, counted]
        rfl
      rw [same]
      unfold LoopStage.grouped
      split
      · rfl
      · split
        · rfl
        · exact fun latest => by cases latest
  | reset =>
      change outage world.log = {} at counted
      have after := World.modify_performs performs
      rw [outage_unlogged performs rfl, World.recordCall_attrs, after]
      change Counted 0 (outage world.log) .clock
      rw [counted]
      exact ⟨rfl, rfl⟩
  | clock =>
      rw [outage_unlogged performs rfl, World.recordCall_attrs, World.attrs_of_performs performs (by simp)]
      exact counted
  | stamp | healthy =>
      have after := World.modify_performs performs
      rw [outage_unlogged performs rfl, World.recordCall_attrs, after]
      exact counted
  | @top attrs =>
      rw [outage_unlogged performs rfl, World.recordCall_attrs, World.attrs_of_performs performs (by simp)]
      obtain ⟨calm, same⟩ := counted
      split
      · exact ⟨calm, same⟩
      · intro latest
        change (outage world.log).latest = true at latest
        rw [calm] at latest
        cases latest
  | hang => exact (World.feasible_of_performs performs rfl).elim fun never => by cases never
  | @read outcome =>
      rw [World.recordCall_attrs, World.attrs_of_performs performs (by simp), outage_logged performs rfl]
      obtain ⟨calm, same⟩ := counted
      cases outcome with
      | ok messages => rfl
      | error exception =>
          simp only [Outage.record, afterCall, LoopStage.caught]
          cases exception.isConnection with
          | true => simp [Counted, same]
          | false =>
              simp only [Bool.false_eq_true, if_false]
              split
              · exact ⟨rfl, same⟩
              · exact fun latest => by cases latest
  | calm =>
      have after := World.modify_performs performs
      rw [outage_unlogged performs rfl, World.recordCall_attrs, after]
      change outage world.log = {} at counted
      change Counted 0 (outage world.log) (.peek _)
      rw [counted]
      exact ⟨rfl, rfl⟩
  | @peek messages attrs =>
      rw [outage_unlogged performs rfl, World.recordCall_attrs, World.attrs_of_performs performs (by simp)]
      obtain ⟨fresh, zero⟩ := counted
      rw [fresh, zero]
      split
      · exact ⟨rfl, rfl⟩
      · exact counted_dispatching messages
  | @await number messages outcome =>
      obtain ⟨fresh, zero⟩ := counted
      have same : outage (next.recordCall .loop (.awaitTask number) outcome fate).log = {} := by
        rw [outage_logged performs rfl, fresh]
        rfl
      rw [World.recordCall_attrs, World.attrs_of_performs performs (by simp), same, zero]
      cases outcome with
      | ok value => exact ⟨rfl, rfl⟩
      | error exception => exact counted_caught exception rfl rfl
  | @forget messages =>
      have after := World.modify_performs performs
      obtain ⟨fresh, zero⟩ := counted
      rw [outage_unlogged performs rfl, World.recordCall_attrs, after]
      change Counted world.attrs.consecutiveFailures (outage world.log) _
      rw [fresh, zero]
      exact counted_dispatching messages
  | idle =>
      rw [outage_unlogged performs rfl, World.recordCall_attrs, World.attrs_of_performs performs (by simp)]
      exact counted
  | @due now attrs =>
      rw [outage_unlogged performs rfl, World.recordCall_attrs, World.attrs_of_performs performs (by simp)]
      obtain ⟨fresh, zero⟩ := counted
      rw [fresh, zero]
      split
      · exact ⟨rfl, rfl⟩
      · exact ⟨rfl, rfl⟩
  | checked | store =>
      have after := World.modify_performs performs
      obtain ⟨fresh, zero⟩ := counted
      rw [outage_unlogged performs rfl, World.recordCall_attrs, after]
      change Counted world.attrs.consecutiveFailures (outage world.log) .top
      rw [fresh, zero]
      exact ⟨rfl, rfl⟩
  | down =>
      have after := World.modify_performs performs
      rw [outage_unlogged performs rfl, World.recordCall_attrs, after]
      exact counted
  | count =>
      have after := World.modify_performs performs
      rw [outage_unlogged performs rfl, World.recordCall_attrs, after]
      change (outage world.log).failures =
        if (outage world.log).latest then world.attrs.consecutiveFailures + 1
        else world.attrs.consecutiveFailures at counted
      change world.attrs.consecutiveFailures + 1 =
        if (outage world.log).latest then (outage world.log).failures
        else (outage world.log).failures + 1
      rw [counted]
      split <;> rfl
  | @reread attrs =>
      obtain ⟨same, after⟩ := World.attrs_performs performs
      rw [outage_unlogged performs rfl, World.recordCall_attrs, after, Except.ok.inj same]
      exact counted_waiting counted
  | @warn failures delay =>
      rw [World.recordCall_attrs, World.attrs_of_performs performs (by simp), outage_logged performs rfl]
      obtain ⟨rfl, found, counted⟩ := counted
      simp only [Outage.record]
      cases latest : (outage world.log).latest with
      | true =>
          rw [latest] at counted
          exact ⟨counted, found⟩
      | false =>
          rw [latest] at counted
          exact ⟨counted, found⟩
  | @backOff delay outcome =>
      rw [World.recordCall_attrs, World.attrs_of_performs performs (by simp), outage_logged performs rfl]
      cases outcome with
      | ok value => exact ⟨rfl, counted.1⟩
      | error exception => exact fun latest => by cases latest
  | @pause outcome =>
      rw [World.recordCall_attrs, World.attrs_of_performs performs (by simp), outage_logged performs rfl]
      cases outcome with
      | ok value => exact ⟨rfl, counted.2⟩
      | error exception => exact fun latest => by cases latest

end Rows

/-- The assertion holds in every run. -/
theorem holds_step {first second : Crew LoopStage}
    (step : Crew.Step self policy (LoopStage.Move self) first second) (holds : Holds first) :
    Holds second := by
  cases step with
  | @env world next stage posts event _ occurs =>
      have attrs : next.attrs.consecutiveFailures = world.attrs.consecutiveFailures := by
        rw [World.attrs_of_occur occurs]
        split <;> rfl
      unfold Holds
      rw [World.record_attrs, World.record_log, outage_snoc, World.log_of_occur occurs, attrs]
      exact holds
  | main row performs => exact counted_row row performs holds
  | @post world next stage before after post later op outcome fate row performs =>
      have seen : outage (next.recordCall post.role op outcome fate).log = outage world.log := by
        rw [World.recordCall_log_of_performs post.role performs]
        split
        · rw [outage_snoc]
          exact record_task
        · rfl
      obtain ⟨idle, current, last, attrs⟩ := World.quiet_of_inner row.inner performs
      unfold Holds
      rw [World.recordCall_attrs, seen, attrs]
      exact holds

/-- The stage of a suspended loop whose latest operation is a read that lost the connection: it waits
or it has ended. -/
theorem waits_or_ended {failures : Nat} {seen : Outage} {stage : LoopStage} (latest : seen.latest = true)
    (counted : Counted failures seen stage) :
    (∃ delay, stage = .backOff delay ∧ backoffDelay seen.failures = .ok delay) ∨
      (∃ outcome, stage = .ended outcome ∧ ∃ exception, backoffDelay seen.failures = .error exception) ∨
      stage = .down ∨ stage = .count ∨ stage = .reread ∨ ∃ attempt delay, stage = .warn attempt delay := by
  have fresh : seen ≠ {} := by
    rintro rfl
    cases latest
  cases stage with
  | backOff delay =>
      obtain ⟨rfl, found⟩ := counted
      exact .inl ⟨delay, rfl, found⟩
  | ended outcome => exact .inr (.inl ⟨outcome, rfl, counted latest⟩)
  | down => simp
  | count => simp
  | reread => simp
  | warn attempt delay => simp
  | enter | setup | startUp | reset | healthy | calm => exact absurd counted fresh
  | clock | stamp | top | read | pause =>
      rw [counted.1] at latest
      cases latest
  | _ => exact absurd counted.1 fresh

/-- How the coroutine of the loop goes on from a stage. -/
abbrev Runs (self : Consumer) (body : Task Unit) (stage : LoopStage) : Prop :=
  Follows (Crew.Row self (LoopStage.Move self))
    (fun _ => Crew.Over LoopStage.Over (.ok ()))
    (fun exception => Crew.Over LoopStage.Over (.error exception)) body (.main stage)

theorem readsAgain_of_top {body : Task Unit} (follows : Runs self body .top) :
    ReadsAgain self body := by
  obtain ⟨op, resume, rfl, ⟨outcome, later, row⟩, rows⟩ :=
    Crew.Stands.issued follows (fun _ same => by cases same)
  cases row with
  | hang => exact .inr ⟨resume, rfl⟩
  | top =>
      refine .inl ⟨resume, rfl, fun attrs running => ?_⟩
      obtain ⟨later, row, rest⟩ := rows (.ok attrs) (fun _ => ⟨attrs, rfl⟩)
      cases row with
      | top =>
          rw [if_pos running] at rest
          obtain ⟨op, resume', same, ⟨outcome, later, row⟩, -⟩ :=
            Crew.Stands.issued rest (fun _ same => by cases same)
          cases row with
          | read => exact ⟨resume', same⟩

end Backoff

open Backoff in
/-- In every run of the loop under any surroundings, whenever the loop has just seen a read lose the
connection and cannot go on at once: it waits for the documented delay of that failure and reads again
afterwards exactly when it is at most the 1024th failure in a row. -/
theorem backsOff_iff (self : Consumer) (iterations : Nat) (policy : Policy) (redis : Redis)
    {system : System}
    (reaches : Pool.Reaches (machine self policy)
      (Pool.single { redis := redis } .loop (consumeLoop self iterations)) system)
    (suspended : ∀ task ∈ system.tasks, (machine self policy).suspended task.2 = true)
    (latest : (outage system.state.log).latest = true) :
    BacksOff self (outage system.state.log).failures system ↔
      (outage system.state.log).failures ≤ 1024 := by
  have start : Holds ⟨{ redis := redis }, .enter, []⟩ := (rfl : outage [] = {})
  obtain ⟨crew, stands, holds⟩ :=
    (consumeLoop_follows iterations).reaches holds_step start reaches
  obtain ⟨body, others, tasks, elsewhere, follows⟩ := stands.main
  unfold Holds at holds
  rw [stands.1] at holds
  have waits : (machine self policy).suspended body = true := by
    apply suspended (.loop, body)
    rw [tasks]
    exact List.mem_cons_self
  rcases waits_or_ended latest holds with ⟨delay, stage, found⟩ | ⟨ending, stage, exception, failed⟩ | busy
  · rw [stage] at follows
    obtain ⟨op, resume, rfl, ⟨outcome, later, row⟩, rows⟩ :=
      Crew.Stands.issued follows (fun _ same => by cases same)
    have bounded : (outage system.state.log).failures ≤ 1024 := by
      apply Nat.le_of_not_lt
      intro large
      obtain ⟨exception, failed⟩ := backoffDelay_error large
      rw [found] at failed
      cases failed
    refine ⟨fun _ => bounded, fun _ => ?_⟩
    have value := found.symm.trans (backoffDelay_eq bounded)
    cases row with
    | backOff =>
        obtain ⟨later, row, rest⟩ := rows (.ok ()) (fun _ => ⟨(), rfl⟩)
        rw [Except.ok.inj value] at tasks
        refine ⟨resume, ?_, ?_⟩
        · rw [tasks]
          exact List.mem_cons_self
        · cases row with
          | backOff => exact readsAgain_of_top rest
  · have large : ¬ (outage system.state.log).failures ≤ 1024 := by
      intro bounded
      rw [backoffDelay_eq bounded] at failed
      cases failed
    refine iff_of_false ?_ large
    rintro ⟨resume, member, -⟩
    rw [tasks] at member
    rcases List.mem_cons.mp member with here | elsewhere'
    · obtain ⟨-, rfl⟩ := Prod.mk.inj here
      rw [stage] at follows
      obtain ⟨⟨outcome, next, row⟩, -⟩ := follows
      cases row with
      | main row => exact row.not_ended.elim
    · exact absurd rfl (elsewhere _ elsewhere')
  · -- between the failure and the wait the loop does not give up control
    have local_ : ∀ {op outcome later}, LoopStage.Move self crew.main op outcome later →
        op.isLocal = true := by
      intro op outcome later row
      rcases busy with stage | stage | stage | ⟨attempt, delay, stage⟩
      all_goals
        rw [stage] at row
        cases row
        rfl
    exfalso
    obtain ⟨op, resume, rfl, ⟨outcome, later, row⟩, -⟩ := Crew.Stands.issued follows (by
      intro outcome ended
      rw [show crew.main = _ from ended] at busy
      simp at busy)
    simp [Machine.suspended, machine, local_ row] at waits

/-! ### An outage without end -/

/-- Redis operations may lose the connection. -/
def Policy.offline : Policy where
  fault op exception := op.isRedis = true ∧ exception.isConnection = true
  env _ := True

namespace Backoff

/-- Every read loses the connection, and everything else is answered. -/
def outageSurroundings : Surroundings :=
  (Surroundings.plain Sample.result).failing fun _ op =>
    match op with
    | .xreadgroup _ _ => some ⟨.connectionError, "Connection lost"⟩
    | _ => none

/-- What these surroundings do for the loop. -/
abbrev answer (world : World) (op : Op) : Option (Except Exc op.Reply × World) :=
  world.serveAlone outageSurroundings op

theorem outageSurroundings_within : outageSurroundings.Within .offline := by
  apply Surroundings.failing_within (Surroundings.plain_within fun _ _ _ _ => trivial)
  intro world op exception picked
  cases op with
  | xreadgroup =>
      cases picked
      exact ⟨rfl, rfl⟩
  | _ => cases picked

/-- A part of the loop that runs by itself. -/
theorem reaches_next {α : Type} {body : Task α} {world world' : World} {value : α}
    (next : α → Task Unit) (runs : body.solo answer world = some (.ok value, world')) :
    Pool.Reaches (machine Sample.consumer .offline) (Pool.single world Role.loop (body >>= next))
      (Pool.single world' .loop (next value)) :=
  Coro.solo_reaches (World.serveAlone_performs outageSurroundings_within) runs

theorem attrs_solo (world : World) : (call .attrs).solo answer world = some (.ok world.attrs, world) := by
  have effect : world.effect .attrs (.ok world.attrs) = some world := if_pos rfl
  have answered : answer world .attrs = some (.ok world.attrs, world) := by
    change (world.effect .attrs (.ok world.attrs)).map _ = _
    rw [effect]
    rfl
  simp only [call, Coro.perform, Coro.solo, answered]

/-- The handler from the point where it reads the count. -/
def backingOff : Task Unit := do
  let attrs ← call .attrs
  let delay ← Coro.ofExcept (backoffDelay attrs.consecutiveFailures)
  call (.note (.connectionLost attrs.consecutiveFailures delay))
  call (.sleep delay)

/-- The failed read. -/
def lostRead : Entry :=
  .call .loop (.xreadgroup Sample.consumer.consumerName (readCount Sample.consumer))
    (.error ⟨.connectionError, "Connection lost"⟩) .lost

/-- The state after a failed read has been counted. -/
def counted (world : World) : World :=
  { world with
    log := world.log ++ [lostRead]
    attrs :=
      { world.attrs with
        redisHealthy := false
        consecutiveFailures := world.attrs.consecutiveFailures + 1 } }

section Runs

attribute [local irreducible] backoffDelay

theorem consumeOnce_solo (world : World) :
    ((consumeOnce Sample.consumer).catching handleLoopError).solo answer world =
      backingOff.solo answer (counted world) := rfl

theorem backingOff_solo {delay : Nat} {world : World}
    (found : backoffDelay world.attrs.consecutiveFailures = .ok delay) :
    backingOff.solo answer world =
      some (.ok (),
        { world with
          log := world.log ++
            [.call .loop (.note (.connectionLost world.attrs.consecutiveFailures delay)) (.ok ())
              .answered] ++ [.call .loop (.sleep delay) (.ok ()) .answered] }) := by
  unfold backingOff
  rw [Coro.solo_bind (attrs_solo world), found]
  rfl

theorem backingOff_solo_error {exception : Exc} {world : World}
    (failed : backoffDelay world.attrs.consecutiveFailures = .error exception) :
    backingOff.solo answer world = some (.error exception, world) := by
  unfold backingOff
  rw [Coro.solo_bind (attrs_solo world), failed]
  rfl

end Runs

/-- The loop runs and has seen this many reads fail. -/
structure Failed (count : Nat) (world : World) : Prop where
  running : world.attrs.running = true
  failures : world.attrs.consecutiveFailures = count
  log : (outage world.log).failures = count

/-- A loop that runs looks at its attributes first. -/
theorem consumeWhile_reaches {count : Nat} {world : World} (failed : Failed count world)
    (iterations : Nat) :
    Pool.Reaches (machine Sample.consumer .offline)
      (Pool.single world Role.loop (consumeWhile Sample.consumer (iterations + 1)))
      (Pool.single world .loop (do
        (consumeOnce Sample.consumer).catching handleLoopError
        consumeWhile Sample.consumer iterations)) := by
  have looked := reaches_next
    (fun attrs =>
      if attrs.running then do
        (consumeOnce Sample.consumer).catching handleLoopError
        consumeWhile Sample.consumer iterations
      else return ())
    (attrs_solo world)
  rw [if_pos failed.running] at looked
  exact looked

/-- One more failed read, as long as the delay can be computed. -/
theorem iteration_reaches {count : Nat} {world : World} (failed : Failed count world)
    (bounded : count < 1024) (iterations : Nat) :
    ∃ next, Failed (count + 1) next ∧
      Pool.Reaches (machine Sample.consumer .offline)
        (Pool.single world Role.loop (consumeWhile Sample.consumer (iterations + 1)))
        (Pool.single next .loop (consumeWhile Sample.consumer iterations)) := by
  have delay : backoffDelay (counted world).attrs.consecutiveFailures = .ok (min (2 ^ count) 60) := by
    change backoffDelay (world.attrs.consecutiveFailures + 1) = _
    rw [failed.failures]
    exact backoffDelay_eq (by omega)
  have failing := (consumeWhile_reaches failed iterations).trans
    (reaches_next (fun _ => consumeWhile Sample.consumer iterations)
      ((consumeOnce_solo world).trans (backingOff_solo delay)))
  refine ⟨_, ?_, failing⟩
  refine ⟨failed.running, congrArg (· + 1) failed.failures, ?_⟩
  change (outage (world.log ++ [lostRead] ++ [_] ++ [_])).failures = _
  rw [outage_snoc, outage_snoc, outage_snoc]
  exact congrArg (· + 1) failed.log

/-- Any number of failed reads up to the bound. -/
theorem iterations_reach {count : Nat} {world : World} (start : Failed 0 world)
    (bounded : count ≤ 1024) (iterations : Nat) :
    ∃ next, Failed count next ∧
      Pool.Reaches (machine Sample.consumer .offline)
        (Pool.single world Role.loop (consumeWhile Sample.consumer (iterations + count)))
        (Pool.single next .loop (consumeWhile Sample.consumer iterations)) := by
  induction count generalizing iterations with
  | zero => exact ⟨world, start, Relation.ReflTransGen.refl⟩
  | succ count inductionHypothesis =>
      obtain ⟨middle, failed, reaches⟩ := inductionHypothesis (by omega) (iterations + 1)
      obtain ⟨next, failed', last⟩ := iteration_reaches failed (by omega) iterations
      rw [show iterations + 1 + count = iterations + (count + 1) by omega] at reaches
      exact ⟨next, failed', reaches.trans last⟩

/-- The state after the start-up. -/
def opened : World where
  redis := { group := true }
  attrs := { running := true }
  log :=
    [.call .loop .xgroupCreate (.ok ()) .answered,
      .call .loop (.xpendingRange Sample.consumer.consumerName pendingPageCount) (.ok []) .answered]

theorem opening_reaches (iterations : Nat) :
    Pool.Reaches (machine Sample.consumer .offline)
      (Pool.single {} Role.loop (consumeLoop Sample.consumer iterations))
      (Pool.single opened .loop (consumeWhile Sample.consumer iterations)) := by
  unfold consumeLoop
  refine (reaches_next _ rfl).trans ?_
  refine (reaches_next _ rfl).trans ?_
  refine (reaches_next _ rfl).trans ?_
  refine (reaches_next _ rfl).trans ?_
  refine (reaches_next _ rfl).trans ?_
  exact reaches_next _ rfl

/-- After 1025 failed reads in a row the loop has ended. -/
theorem ended_reaches :
    ∃ (world : World) (exception : Exc), (outage world.log) = ⟨1025, true⟩ ∧
      Pool.Reaches (machine Sample.consumer .offline)
        (Pool.single {} Role.loop (consumeLoop Sample.consumer 1025))
        (Pool.single world .loop (.raise exception)) := by
  have begun : Failed 0 opened := ⟨rfl, rfl, rfl⟩
  obtain ⟨world, failed, reaches⟩ := iterations_reach begun (Nat.le_refl 1024) 1
  obtain ⟨exception, overflow⟩ := backoffDelay_error (show 1024 < 1025 by omega)
  have counts : backoffDelay (counted world).attrs.consecutiveFailures = .error exception := by
    change backoffDelay (world.attrs.consecutiveFailures + 1) = _
    rw [failed.failures]
    exact overflow
  have ends : Pool.Reaches (machine Sample.consumer .offline)
      (Pool.single world Role.loop (do
        (consumeOnce Sample.consumer).catching handleLoopError
        consumeWhile Sample.consumer 0))
      (Pool.single (counted world) .loop (.raise exception)) :=
    Coro.solo_reaches (World.serveAlone_performs outageSurroundings_within)
      ((consumeOnce_solo world).trans (backingOff_solo_error counts))
  refine ⟨counted world, exception, ?_, (opening_reaches 1025).trans
    (reaches.trans ((consumeWhile_reaches failed 0).trans ends))⟩
  change outage (world.log ++ [lostRead]) = _
  rw [outage_snoc]
  change (⟨(outage world.log).failures + 1, true⟩ : Outage) = _
  rw [failed.log]

/-- A run that has just lost the connection for the second time. -/
def secondLoss : System :=
  System.play Sample.consumer .offline outageSurroundings (List.replicate 19 (.task 0))
    (Pool.single {} .loop (consumeLoop Sample.consumer 2))

theorem secondLoss_reaches :
    Pool.Reaches (machine Sample.consumer .offline)
      (Pool.single {} .loop (consumeLoop Sample.consumer 2)) secondLoss :=
  System.play_reaches outageSurroundings_within _ _ fun _ _ => trivial

end Backoff

open Backoff in
/-- The result, for that run. -/
theorem backsOff_iff_secondLoss :
    BacksOff Sample.consumer (outage secondLoss.state.log).failures secondLoss ↔
      (outage secondLoss.state.log).failures ≤ 1024 :=
  backsOff_iff Sample.consumer 2 .offline {} secondLoss_reaches (by decide +kernel) (by decide +kernel)

open Backoff in
/-- The loop does not outlive the 1025th lost connection in a row. -/
theorem not_backsOff :
    ¬ ∀ (self : Consumer) (iterations : Nat) (policy : Policy) (redis : Redis) (system : System),
      Pool.Reaches (machine self policy)
        (Pool.single { redis := redis } .loop (consumeLoop self iterations)) system →
      (∀ task ∈ system.tasks, (machine self policy).suspended task.2 = true) →
      (outage system.state.log).latest = true →
      BacksOff self (outage system.state.log).failures system := by
  intro claim
  obtain ⟨world, exception, lost, reaches⟩ := ended_reaches
  have latest : (outage world.log).latest = true := by rw [lost]
  have waits := claim Sample.consumer 1025 .offline {} _ reaches
    (fun task member => by
      obtain rfl := List.mem_singleton.mp member
      rfl)
    latest
  obtain ⟨resume, member, again⟩ := waits
  cases List.mem_singleton.mp member

end CodaNode
