/-
Module: CodaNode.Protocol.Delivery
Layer: Protocol
Purpose: The background tasks as tables of stages: the task that fans out the results of a batch, and
  the tasks it creates, one for each result.
Imports: CodaNode.Protocol.Rows
Main exports: SingleStage, GatherStage, Post, Post.Move, taskBody_follows
-/
import CodaNode.Protocol.Rows

namespace CodaNode

open Coroutine

/-- The operation a task for one result is about to perform. -/
inductive SingleStage where
  /-- Wait for the first turn. -/
  | start
  /-- Read the flag before the completed status is written. -/
  | firstFlag
  /-- Write the cancelled status. -/
  | mark
  /-- Acknowledge the message of a cancelled job. -/
  | dismiss
  /-- Write the completed status. -/
  | complete
  /-- Read the flag before the webhook is sent. -/
  | lastFlag
  /-- Send the result webhook. -/
  | report
  /-- Acknowledge the message of a reported job. -/
  | acknowledge
  /-- Store the outcome of the task. -/
  | finish (outcome : Except Exc Unit)
  /-- The task has ended. -/
  | past (outcome : Except Exc Unit)

/-- The operation the task for a whole batch is about to perform. -/
inductive GatherStage where
  /-- Wait for the first turn. -/
  | start
  /-- Read the clock. -/
  | clock
  /-- Create the task for one result. -/
  | spawn (nowIso : String) (numbers : List Nat) (delivery : Delivery) (todo : List Delivery)
  /-- Wait for these tasks. -/
  | gather (nowIso : String) (numbers : List Nat)
  /-- Record when the last job was done. -/
  | stamp (nowIso : String)
  /-- Set the idle event. -/
  | release (outcome : Except Exc Unit)
  /-- Store the outcome of the task. -/
  | finish (outcome : Except Exc Unit)
  /-- The task has ended. -/
  | past (outcome : Except Exc Unit)

/-- The rows of the task for one result. [SRC consumer.py:460-498] -/
inductive SingleStage.Move (self : Consumer) (number : Nat) (delivery : Delivery) :
    SingleStage → (op : Op) → Except Exc op.Reply → SingleStage → Prop where
  | start : Move self number delivery .start .start (.ok ()) .firstFlag
  | firstFlag {outcome} :
      Move self number delivery .firstFlag (.getCancelled delivery.jobId) outcome
        (afterCall outcome (fun flag => if flag then .mark else .complete)
          fun exception => .finish (.error exception))
  | clock {now} : Move self number delivery .mark .utcNow (.ok now) .mark
  | mark {now outcome} :
      Move self number delivery .mark
        (.hset delivery.jobId
          { state := some .cancelled
            cancelledAt := some now
            messageId := some delivery.messageId
            qpuId := some self.qpuId })
        outcome (afterSafe outcome .dismiss fun exception => .finish (.error exception))
  | dismiss {outcome} :
      Move self number delivery .dismiss (.xack delivery.messageId) outcome
        (afterSafe outcome (.finish (.ok ())) fun exception => .finish (.error exception))
  | complete {outcome} :
      Move self number delivery .complete
        (.hset delivery.jobId
          { state := some .completed, completedAt := some delivery.completedAt })
        outcome (afterSafe outcome .lastFlag fun exception => .finish (.error exception))
  | lastFlag {outcome} :
      Move self number delivery .lastFlag (.getCancelled delivery.jobId) outcome
        (afterCall outcome (fun flag => if flag then .mark else .report)
          fun exception => .finish (.error exception))
  | report {outcome} :
      Move self number delivery .report
        (.sendResult delivery.callbackUrl (.ofResult delivery.jobId delivery.result)) outcome
        (afterLogged outcome .acknowledge fun exception => .finish (.error exception))
  | acknowledge {outcome} :
      Move self number delivery .acknowledge (.xack delivery.messageId) outcome
        (afterSafe outcome (.finish (.ok ())) fun exception => .finish (.error exception))
  | finish {ending} :
      Move self number delivery (.finish ending) (.taskDone number ending) (.ok ()) (.past ending)

namespace GatherStage

/-- Go on with the creation of the tasks. -/
def spawning (nowIso : String) (numbers : List Nat) : List Delivery → GatherStage
  | [] => .gather nowIso numbers
  | delivery :: todo => .spawn nowIso numbers delivery todo

/-- The deliveries are fixed when the clock has been read; results that do not match the jobs are an
exception. -/
def opening (parsed : List ParsedJob) (results : List ExecutionResult) (nowIso : String) :
    GatherStage :=
  match zipStrict parsed results nowIso with
  | .error exception => .release (.error exception)
  | .ok deliveries => spawning nowIso [] deliveries

/-- The rows of the task for a whole batch. [SRC consumer.py:500-521] -/
inductive Move (number : Nat) (parsed : List ParsedJob) (results : List ExecutionResult) :
    GatherStage → (op : Op) → Except Exc op.Reply → GatherStage → Prop where
  | start : Move number parsed results .start .start (.ok ()) .clock
  | clock {now} :
      Move number parsed results .clock .utcNow (.ok now) (opening parsed results now)
  | spawn {nowIso numbers delivery todo fresh} :
      Move number parsed results (.spawn nowIso numbers delivery todo)
        (.createTask (.deliverSingle delivery)) (.ok fresh)
        (spawning nowIso (numbers ++ [fresh]) todo)
  | gather {nowIso numbers outcome} :
      Move number parsed results (.gather nowIso numbers) (.gather numbers) outcome
        (afterCall outcome (fun _ => .stamp nowIso) fun exception => .release (.error exception))
  | stamp {nowIso} :
      Move number parsed results (.stamp nowIso)
        (.modify fun attrs => { attrs with lastJobAt := some nowIso }) (.ok ()) (.release (.ok ()))
  | release {ending} :
      Move number parsed results (.release ending) (.modify fun attrs => { attrs with idle := true })
        (.ok ()) (.finish ending)
  | finish {ending} :
      Move number parsed results (.finish ending) (.taskDone number ending) (.ok ()) (.past ending)

end GatherStage

/-- A background task at its stage. -/
inductive Post where
  | gather (number : Nat) (parsed : List ParsedJob) (results : List ExecutionResult)
      (stage : GatherStage)
  | single (number : Nat) (delivery : Delivery) (stage : SingleStage)

namespace Post

/-- The number of the task. -/
def number : Post → Nat
  | .gather number _ _ _ | .single number _ _ => number

/-- What the task was created for. -/
def spec : Post → TaskSpec
  | .gather _ parsed results _ => .deliverBatch parsed results
  | .single _ delivery _ => .deliverSingle delivery

/-- The name of the task. -/
def role (post : Post) : Role := .task post.number post.spec

/-- A task that has just been created. -/
def fresh (number : Nat) : TaskSpec → Post
  | .deliverBatch parsed results => .gather number parsed results .start
  | .deliverSingle delivery => .single number delivery .start

/-- How the task has ended, if it has. -/
def ending : Post → Option (Except Exc Unit)
  | .gather _ _ _ (.past outcome) | .single _ _ (.past outcome) => some outcome
  | _ => none

/-- The rows of the background tasks. -/
inductive Move (self : Consumer) : Post → (op : Op) → Except Exc op.Reply → Post → Prop where
  | gather {number parsed results stage op outcome next}
      (row : GatherStage.Move number parsed results stage op outcome next) :
      Move self (.gather number parsed results stage) op outcome
        (.gather number parsed results next)
  | single {number delivery stage op outcome next}
      (row : SingleStage.Move self number delivery stage op outcome next) :
      Move self (.single number delivery stage) op outcome (.single number delivery next)

theorem Move.number_eq {self : Consumer} {post next : Post} {op : Op} {outcome : Except Exc op.Reply}
    (row : Move self post op outcome next) : next.number = post.number := by
  cases row <;> rfl

theorem Move.spec_eq {self : Consumer} {post next : Post} {op : Op} {outcome : Except Exc op.Reply}
    (row : Move self post op outcome next) : next.spec = post.spec := by
  cases row <;> rfl

theorem Move.role_eq {self : Consumer} {post next : Post} {op : Op} {outcome : Except Exc op.Reply}
    (row : Move self post op outcome next) : next.role = post.role := by
  rw [role, role, row.number_eq, row.spec_eq]

/-- What the state keeps of the task. -/
def record (post : Post) : TaskRecord := ⟨post.spec, post.ending⟩

/-- A task that is on a row has not ended, and it ends by storing its outcome. -/
theorem Move.ending_eq {self : Consumer} {post next : Post} {op : Op} {outcome : Except Exc op.Reply}
    (row : Move self post op outcome next) :
    post.ending = none ∧
      ((next.ending = none ∧ ∀ number ending, op ≠ .taskDone number ending) ∨
        ∃ ending, op = .taskDone post.number ending ∧ next.ending = some ending) := by
  cases row with
  | @gather number parsed results stage op outcome next row =>
      cases row with
      | finish => exact ⟨rfl, .inr ⟨_, rfl, rfl⟩⟩
      | @clock now =>
          refine ⟨rfl, .inl ⟨?_, by simp⟩⟩
          unfold GatherStage.opening
          cases zipStrict parsed results now with
          | error exception => rfl
          | ok deliveries => cases deliveries <;> rfl
      | @spawn _ _ _ todo => exact ⟨rfl, .inl ⟨by cases todo <;> rfl, by simp⟩⟩
      | @gather _ _ outcome => exact ⟨rfl, .inl ⟨by cases outcome <;> rfl, by simp⟩⟩
      | _ => exact ⟨rfl, .inl ⟨rfl, by simp⟩⟩
  | single row =>
      cases row with
      | finish => exact ⟨rfl, .inr ⟨_, rfl, rfl⟩⟩
      | start => exact ⟨rfl, .inl ⟨rfl, by simp⟩⟩
      | clock => exact ⟨rfl, .inl ⟨rfl, by simp⟩⟩
      | _ =>
          rename_i outcome
          refine ⟨rfl, .inl ⟨?_, by simp⟩⟩
          cases outcome <;> simp only [afterCall, afterSafe, afterLogged] <;> (repeat' split) <;> rfl

theorem Move.inner {self : Consumer} {post next : Post} {op : Op} {outcome : Except Exc op.Reply}
    (row : Move self post op outcome next) : op.Inner := by
  cases row with
  | gather row =>
      cases row with
      | @stamp nowIso => exact fun attrs => ⟨attrs.idle, attrs.currentJobId, some nowIso, rfl⟩
      | release => exact fun attrs => ⟨true, attrs.currentJobId, attrs.lastJobAt, rfl⟩
      | _ => trivial
  | single row => cases row <;> trivial

@[simp] theorem fresh_number (number : Nat) (spec : TaskSpec) : (fresh number spec).number = number := by
  cases spec <;> rfl

@[simp] theorem fresh_spec (number : Nat) (spec : TaskSpec) : (fresh number spec).spec = spec := by
  cases spec <;> rfl

end Post

section Follows

variable {self : Consumer} {number : Nat}

private theorem deliverSingleBatchResult_follows (delivery : Delivery) :
    Follows (SingleStage.Move self number delivery) (fun _ later => later = .finish (.ok ()))
      (fun exception later => later = .finish (.error exception))
      (deliverSingleBatchResult self delivery) .firstFlag := by
  have cancelled : Follows (SingleStage.Move self number delivery)
      (fun _ later => later = .finish (.ok ()))
      (fun exception later => later = .finish (.error exception))
      (do
        markJobCancelled self delivery.jobId delivery.messageId
        discard (safeXack delivery.messageId)) .mark := by
    refine (Follows.markJobCancelled (fun _ => .clock) fun _ => .mark).bind ?_
    rintro _ later rfl
    exact Follows.safeXack fun _ => .dismiss
  refine Follows.call_bind (fun _ => .firstFlag) (fun flag => ?_) fun _ => rfl
  cases flag with
  | true => exact cancelled
  | false =>
      refine (Follows.safeHset fun _ => .complete).bind ?_
      rintro _ later rfl
      refine Follows.call_bind (fun _ => .lastFlag) (fun flag => ?_) fun _ => rfl
      cases flag with
      | true => exact cancelled
      | false =>
          have sent : Follows (SingleStage.Move self number delivery)
              (fun _ later => later = .acknowledge)
              (fun exception later => later = .finish (.error exception))
              ((call (.sendResult delivery.callbackUrl
                  (.ofResult delivery.jobId delivery.result))).catching fun failure =>
                if failure.isException then .ret () else .raise failure)
              .report :=
            Follows.logged (Follows.call_imp (fun _ => .report) (fun _ => rfl) fun _ => rfl)
          refine sent.bind ?_
          rintro _ later rfl
          exact Follows.safeXack fun _ => .acknowledge

private theorem spawning_follows {parsed : List ParsedJob} {results : List ExecutionResult}
    {onRaise : Exc → GatherStage → Prop} (nowIso : String) (deliveries : List Delivery) :
    Follows (GatherStage.Move number parsed results)
      (fun numbers later => later = GatherStage.gather nowIso ([] ++ numbers)) onRaise
      (Coro.collect deliveries fun delivery => call (.createTask (.deliverSingle delivery)))
      (GatherStage.spawning nowIso [] deliveries) :=
  Coro.Tracks.collect (GatherStage.spawning nowIso)
    (fun _ _ _ => Follows.answered rfl 0 fun _ => .spawn) []

private theorem deliverBatchResults_follows (parsed : List ParsedJob)
    (results : List ExecutionResult) :
    Follows (GatherStage.Move number parsed results) (fun _ later => later = .finish (.ok ()))
      (fun exception later => later = .finish (.error exception))
      (deliverBatchResults parsed results) .clock := by
  refine Follows.answered_bind rfl "" (fun _ => .clock) fun nowIso => ?_
  have body : Follows (GatherStage.Move number parsed results)
      (fun _ later => later = .release (.ok ()))
      (fun exception later => later = .release (.error exception))
      (do
        let deliveries ← Coro.ofExcept (zipStrict parsed results nowIso)
        let numbers ← Coro.collect deliveries fun delivery =>
          call (.createTask (.deliverSingle delivery))
        call (.gather numbers)
        assign fun attrs => { attrs with lastJobAt := some nowIso })
      (GatherStage.opening parsed results nowIso) := by
    unfold GatherStage.opening
    cases zipStrict parsed results nowIso with
    | error exception => rfl
    | ok deliveries =>
        refine (spawning_follows nowIso deliveries).bind ?_
        rintro numbers later rfl
        refine Follows.call_bind (fun _ => .gather) (fun _ => ?_) fun _ => rfl
        exact Follows.answered rfl () fun _ => .stamp
  refine body.finally ?_ ?_
  · rintro _ later rfl
    exact Follows.answered rfl () fun _ => .release
  · rintro exception later rfl
    exact Follows.answered rfl () fun _ => .release

/-- A background task follows its table. -/
theorem taskBody_follows {onRaise : Exc → Post → Prop} (spec : TaskSpec) :
    Follows (Post.Move self)
      (fun _ later => later.role = .task number spec ∧ later.ending.isSome = true) onRaise
      (taskBody self number spec) (Post.fresh number spec) := by
  cases spec with
  | deliverBatch parsed results =>
      have follows : Follows (GatherStage.Move number parsed results)
          (fun _ later => ∃ outcome, later = .past outcome) (fun _ _ => False)
          (taskBody self number (.deliverBatch parsed results)) .start := by
        refine Follows.answered_bind rfl () (fun _ => .start) fun _ => ?_
        refine Coro.Tracks.handle ((deliverBatchResults_follows parsed results).imp ?_ ?_)
        · rintro _ later rfl
          exact (Follows.answered rfl () fun _ => .finish).imp (fun _ _ reached => ⟨_, reached⟩)
            fun _ _ raised => raised
        · rintro exception later rfl
          exact (Follows.answered rfl () fun _ => .finish).imp (fun _ _ reached => ⟨_, reached⟩)
            fun _ _ raised => raised
      refine (Coro.Tracks.map (Post.gather number parsed results) Post.Move.gather follows).imp ?_ ?_
      · rintro _ later ⟨last, rfl, outcome, rfl⟩
        exact ⟨rfl, rfl⟩
      · rintro exception later ⟨last, -, impossible⟩
        exact impossible.elim
  | deliverSingle delivery =>
      have follows : Follows (SingleStage.Move self number delivery)
          (fun _ later => ∃ outcome, later = .past outcome) (fun _ _ => False)
          (taskBody self number (.deliverSingle delivery)) .start := by
        refine Follows.answered_bind rfl () (fun _ => .start) fun _ => ?_
        refine Coro.Tracks.handle ((deliverSingleBatchResult_follows delivery).imp ?_ ?_)
        · rintro _ later rfl
          exact (Follows.answered rfl () fun _ => .finish).imp (fun _ _ reached => ⟨_, reached⟩)
            fun _ _ raised => raised
        · rintro exception later rfl
          exact (Follows.answered rfl () fun _ => .finish).imp (fun _ _ reached => ⟨_, reached⟩)
            fun _ _ raised => raised
      refine (Coro.Tracks.map (Post.single number delivery) Post.Move.single follows).imp ?_ ?_
      · rintro _ later ⟨last, rfl, outcome, rfl⟩
        exact ⟨rfl, rfl⟩
      · rintro exception later ⟨last, -, impossible⟩
        exact impossible.elim

end Follows

end CodaNode
