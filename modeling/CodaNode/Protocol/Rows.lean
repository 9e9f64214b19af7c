/-
Module: CodaNode.Protocol.Rows
Layer: Protocol
Purpose: What the tables of the consumer's methods share: where the outcome of a plain call, of a call
  guarded against lost connections and of a call whose exceptions are dropped leads, and the rules that
  follow the helpers of the consumer along the rows of any table.
Imports: CodaNode.Coroutine.Alone, CodaNode.Server.System
Main exports: Feasible, Op.Inner, afterCall, afterSafe, afterLogged, Follows
-/
import CodaNode.Coroutine.Alone
import CodaNode.Server.System

namespace CodaNode

open Coroutine

/-- The outcomes an operation can have at all: one at which nothing arrives from outside does not
fail. -/
def Feasible (op : Op) (outcome : Except Exc op.Reply) : Prop :=
  op.interruptible = false → ∃ value, outcome = .ok value

/-- Only outcomes that are feasible are observed. -/
theorem feasible_of_performs {self : Consumer} {policy : Policy} {role : Role} {world world' : World}
    {op : Op} {outcome : Except Exc op.Reply}
    (performed : (machine self policy).perform role world op outcome world') :
    Feasible op outcome := by
  obtain ⟨fate, next, performs, -⟩ := performed
  exact World.feasible_of_performs performs

/-- A change of attributes that the main loop does not read. -/
def Attrs.Quiet (change : Attrs → Attrs) : Prop :=
  ∀ attrs, ∃ idle current last,
    change attrs = { attrs with idle := idle, currentJobId := current, lastJobAt := last }

/-- The operations of the methods the main loop calls and of the background tasks. They leave its
attributes alone. -/
def Op.Inner : Op → Prop
  | .xreadgroup _ _ | .awaitTask _ | .sleep _ | .note (.connectionLost _ _) => False
  | .modify change => Attrs.Quiet change
  | _ => True

/-- The operations of `_process_message`. -/
def Op.ofMessage : Op → Bool
  | .xack _ | .hset _ _ | .hgetState _ | .getCancelled _ | .createRun _ _ _ | .waitRun | .awaitRun
  | .runDone | .cancelRun | .cancelCurrentJob | .sendResult _ _ | .sendError _ _ _ | .modify _ | .utcNow
  | .note _ | .hang => true
  | _ => false

/-- The operations of `_process_batch`. -/
def Op.ofBatch : Op → Bool
  | .batchRun _ | .createTask _ => true
  | op => op.ofMessage

/-- The operations of `recover_pending`. -/
def Op.ofRecovery : Op → Bool
  | .xpendingRange _ _ | .xrange _ => true
  | op => op.ofMessage

theorem Op.ofBatch_of_ofMessage {op : Op} (ofMessage : op.ofMessage = true) : op.ofBatch = true := by
  cases op <;> first | rfl | cases ofMessage

theorem Op.ofRecovery_of_ofMessage {op : Op} (ofMessage : op.ofMessage = true) :
    op.ofRecovery = true := by
  cases op <;> first | rfl | cases ofMessage

namespace World

variable {world : World} {op : Op} {outcome : Except Exc op.Reply}

theorem attrs_of_effect {next : World} (effect : world.effect op outcome = some next)
    (other : ∀ change, op ≠ .modify change) : next.attrs = world.attrs := by
  unfold World.effect World.finish at effect
  split at effect
  all_goals first
    | exact absurd rfl (other _)
    | (split at effect <;> cases effect <;> rfl)
    | (cases effect; rfl)
    | cases effect

theorem attrs_of_performs {policy : Policy} {fate : Fate} {next : World}
    (performs : Performs policy world op outcome fate next) (other : ∀ change, op ≠ .modify change) :
    next.attrs = world.attrs := by
  cases performs with
  | answered _ effect => exact attrs_of_effect effect other
  | lost => rfl
  | executed _ _ effect => exact attrs_of_effect effect other

/-- A change of attributes has that effect and no other. -/
theorem modify_performs {policy : Policy} {change : Attrs → Attrs}
    {outcome : Except Exc (Op.modify change).Reply} {fate : Fate} {next : World}
    (performs : Performs policy world (.modify change) outcome fate next) :
    next = { world with attrs := change world.attrs } := by
  cases performs with
  | answered _ effect =>
      cases outcome with
      | ok value =>
          cases effect
          rfl
      | error exception => cases effect
  | lost interruptible => cases interruptible
  | executed interruptible => cases interruptible

/-- The attributes are read as they are. -/
theorem attrs_performs {policy : Policy} {outcome : Except Exc Op.attrs.Reply} {fate : Fate}
    {next : World} (performs : Performs policy world .attrs outcome fate next) :
    outcome = .ok world.attrs ∧ next = world := by
  cases performs with
  | answered _ effect =>
      cases outcome with
      | ok attrs =>
          simp only [World.effect] at effect
          split at effect
          · rename_i same
            cases effect
            exact ⟨by rw [same], rfl⟩
          · cases effect
      | error exception => cases effect
  | lost interruptible => cases interruptible
  | executed interruptible => cases interruptible

theorem quiet_of_inner {policy : Policy} {fate : Fate} {next : World} (inner : op.Inner)
    (performs : Performs policy world op outcome fate next) :
    ∃ idle current last, next.attrs =
      { world.attrs with idle := idle, currentJobId := current, lastJobAt := last } := by
  by_cases modifies : ∃ change, op = .modify change
  · obtain ⟨change, rfl⟩ := modifies
    rw [modify_performs performs]
    exact inner world.attrs
  · rw [attrs_of_performs performs fun change same => modifies ⟨change, same⟩]
    exact ⟨world.attrs.idle, world.attrs.currentJobId, world.attrs.lastJobAt, rfl⟩

/-- Only a stop touches the attributes from outside. -/
theorem attrs_of_occur {event : EnvEvent} {next : World} (occurs : world.occur event = some next) :
    next.attrs = if event = .stopCalled then { world.attrs with running := false } else world.attrs := by
  unfold occur at occurs
  split at occurs
  · cases occurs
    rfl
  · split at occurs
    · split at occurs
      · cases occurs
        rfl
      · cases occurs
    · cases occurs
  · cases occurs
    rfl
  · cases occurs
    rfl

end World

variable {S : Type}

/-- The next stage after an operation that is not guarded. -/
def afterCall {α : Type} (outcome : Except Exc α) (next : α → S) (escaped : Exc → S) : S :=
  match outcome with
  | .ok value => next value
  | .error exception => escaped exception

/-- The next stage after `_safe_hset` or `_safe_xack`. -/
def afterSafe (outcome : Except Exc Unit) (next : S) (escaped : Exc → S) : S :=
  match outcome with
  | .ok () => next
  | .error exception => if exception.isConnection then next else escaped exception

/-- The next stage after a call whose exceptions are logged and dropped. -/
def afterLogged (outcome : Except Exc Unit) (next : S) (escaped : Exc → S) : S :=
  match outcome with
  | .ok () => next
  | .error exception => if exception.isException then next else escaped exception

/-- The coroutine follows the rows of a table of the consumer. -/
abbrev Follows {α : Type} (move : S → (op : Op) → Except Exc op.Reply → S → Prop)
    (onReturn : α → S → Prop) (onRaise : Exc → S → Prop) (body : Task α) (stage : S) : Prop :=
  body.Tracks Feasible move onReturn onRaise stage

namespace Follows

variable {move : S → (op : Op) → Except Exc op.Reply → S → Prop} {stage : S}

/-- An operation that gives up control. -/
theorem call {op : Op} {after : Except Exc op.Reply → S}
    (row : ∀ outcome, move stage op outcome (after outcome)) :
    Follows move (fun value later => later = after (.ok value))
      (fun exception later => later = after (.error exception)) (call op) stage :=
  .perform after ⟨.error ⟨.other, ""⟩, _, row _⟩ (fun outcome _ => row outcome) (fun _ => rfl)
    fun _ _ => rfl

/-- An operation that gives up control, as the last one. -/
theorem call_imp {op : Op} {after : Except Exc op.Reply → S} {onReturn : op.Reply → S → Prop}
    {onRaise : Exc → S → Prop} (row : ∀ outcome, move stage op outcome (after outcome))
    (returns : ∀ value, onReturn value (after (.ok value)))
    (raises : ∀ exception, onRaise exception (after (.error exception))) :
    Follows move onReturn onRaise (CodaNode.call op) stage := by
  refine (call row).imp ?_ ?_
  · rintro value later rfl
    exact returns value
  · rintro exception later rfl
    exact raises exception

/-- An operation and what follows it. -/
theorem call_bind {α : Type} {op : Op} {after : Except Exc op.Reply → S} {next : op.Reply → Task α}
    {onReturn : α → S → Prop} {onRaise : Exc → S → Prop}
    (row : ∀ outcome, move stage op outcome (after outcome))
    (returns : ∀ value, Follows move onReturn onRaise (next value) (after (.ok value)))
    (raises : ∀ exception, onRaise exception (after (.error exception))) :
    Follows move onReturn onRaise (CodaNode.call op >>= next) stage := by
  refine Coro.Tracks.bind ((call row).imp (fun _ _ reached => reached) ?_) ?_
  · rintro exception later rfl
    exact raises exception
  · rintro value later rfl
    exact returns value

/-- An operation that does not fail. -/
theorem answered {op : Op} {after : op.Reply → S} {onRaise : Exc → S → Prop}
    (settled : op.interruptible = false) (sample : op.Reply)
    (row : ∀ value, move stage op (.ok value) (after value)) :
    Follows move (fun value later => later = after value) onRaise (CodaNode.call op) stage := by
  refine ⟨⟨.ok sample, _, row sample⟩, fun outcome feasible => ?_⟩
  obtain ⟨value, rfl⟩ := feasible settled
  exact ⟨after value, row value, rfl⟩

/-- An operation that does not fail, and what follows it. -/
theorem answered_bind {α : Type} {op : Op} {after : op.Reply → S} {next : op.Reply → Task α}
    {onReturn : α → S → Prop} {onRaise : Exc → S → Prop} (settled : op.interruptible = false)
    (sample : op.Reply) (row : ∀ value, move stage op (.ok value) (after value))
    (returns : ∀ value, Follows move onReturn onRaise (next value) (after value)) :
    Follows move onReturn onRaise (CodaNode.call op >>= next) stage := by
  refine Coro.Tracks.bind (answered settled sample row) ?_
  rintro value later rfl
  exact returns value

theorem discard {α : Type} {body : Task α} {next : S} {onRaise : Exc → S → Prop}
    (follows : Follows move (fun _ later => later = next) onRaise body stage) :
    Follows move (fun _ later => later = next) onRaise (discard body) stage :=
  follows.bind fun _ _ reached => reached

theorem safeHset {jobId : String} {mapping : StatusHash} {next : S} {escaped : Exc → S}
    (row : ∀ outcome, move stage (.hset jobId mapping) outcome (afterSafe outcome next escaped)) :
    Follows move (fun _ later => later = next) (fun exception later => later = escaped exception)
      (CodaNode.discard (safeHset jobId mapping)) stage := by
  refine discard (.catching (.bind (call row) fun _ _ reached => reached) ?_)
  rintro exception later rfl
  simp only [afterSafe]
  split
  · rfl
  · rfl

theorem safeXack {messageId : String} {next : S} {escaped : Exc → S}
    (row : ∀ outcome, move stage (.xack messageId) outcome (afterSafe outcome next escaped)) :
    Follows move (fun _ later => later = next) (fun exception later => later = escaped exception)
      (CodaNode.discard (safeXack messageId)) stage := by
  refine discard (.catching (.bind (call row) fun _ _ reached => reached) ?_)
  rintro exception later rfl
  simp only [afterSafe]
  split
  · rfl
  · rfl

/-- A call whose exceptions are logged and dropped. -/
theorem logged {body : Task Unit} {next : S} {escaped : Exc → S}
    (follows : Follows move (fun _ later => later = next)
      (fun exception later => later = afterLogged (.error exception) next escaped) body stage) :
    Follows move (fun _ later => later = next) (fun exception later => later = escaped exception)
      (body.catching fun exception =>
        if exception.isException then .ret () else .raise exception) stage := by
  refine .catching follows ?_
  rintro exception later rfl
  simp only [afterLogged]
  split
  · rfl
  · rfl

theorem markJobCancelled {self : Consumer} {jobId messageId : String} {next : S}
    {escaped : Exc → S} (clock : ∀ now, move stage .utcNow (.ok now) stage)
    (row : ∀ {now} outcome, move stage
      (.hset jobId
        { state := some .cancelled
          cancelledAt := some now
          messageId := some messageId
          qpuId := some self.qpuId })
      outcome (afterSafe outcome next escaped)) :
    Follows move (fun _ later => later = next) (fun exception later => later = escaped exception)
      (markJobCancelled self jobId messageId) stage :=
  answered_bind rfl "" clock fun _ => safeHset row

/-- What the environment and the rows preserve holds wherever a coroutine gets that runs by itself. -/
theorem leads {α : Type} {self : Consumer} {policy : Policy} (holds : S → World → Prop)
    (occur : ∀ {stage world event next}, policy.env event → World.occur world event = some next →
      holds stage world → holds stage (next.record (.env event)))
    (row : ∀ {stage op outcome later fate world next}, move stage op outcome later →
      World.Performs policy world op outcome fate next → holds stage world →
        holds later (next.recordCall .loop op outcome fate))
    {onReturn : α → S → Prop} {onRaise : Exc → S → Prop} {body rest : Task α} {world last : World}
    (follows : Follows move onReturn onRaise body stage) (here : holds stage world)
    (leads : Coro.Leads (machine self policy) Role.loop world body last rest) :
    ∃ later, Follows move onReturn onRaise rest later ∧ holds later last := by
  refine Coro.Tracks.leads feasible_of_performs ?_ ?_ follows here leads
  · rintro stage state after ⟨event, next, allowed, occurs, rfl⟩ here
    exact occur allowed occurs here
  · rintro stage op outcome later state after moved ⟨fate, next, performs, rfl⟩ here
    exact row moved performs here

end Follows

end CodaNode
