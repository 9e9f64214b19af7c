/-
Module: CodaNode.Server.Deeds
Layer: Server
Purpose: What a task has done and learnt, as a list of deeds read off the log: calls, status look-ups,
  cancellation flags that were found set, status writes, executor calls and their outcomes, webhooks,
  acknowledgements and the messages a recovery has found. Reads of a flag that is not set leave no deed,
  so a polling loop of any length leaves the same ones. The times of day in a status write are blanked.
Imports: CodaNode.Server.Log, CodaNode.Server.System
Main exports: Deed, Op.deed, deeds, StatusHash.timeless
-/
import CodaNode.Server.Log
import CodaNode.Server.System

namespace CodaNode

/-- A status hash with its times of day blanked. -/
def StatusHash.timeless (hash : StatusHash) : StatusHash :=
  { hash with
    startedAt := hash.startedAt.map fun _ => ""
    completedAt := hash.completedAt.map fun _ => ""
    cancelledAt := hash.cancelledAt.map fun _ => ""
    failedAt := hash.failedAt.map fun _ => "" }

/-- Blanking commutes with a write. -/
theorem StatusHash.timeless_merge (hash mapping : StatusHash) :
    (hash.merge mapping).timeless = hash.timeless.merge mapping.timeless := by
  have blank (first second : Option String) :
      (first.or second).map (fun _ => "") = (first.map fun _ => "").or (second.map fun _ => "") := by
    cases first <;> rfl
  simp only [timeless, merge, blank]

/-- What one operation of a task did or found out. -/
inductive Deed where
  | called (message : StreamMessage)
  | calledBatch (messages : List StreamMessage)
  | queried (ids : List String)
  | fetched (messageId : String) (messages : List StreamMessage)
  | saw (jobId : String) (state : Option JobState)
  | flagged (jobId : String)
  | wrote (jobId : String) (mapping : StatusHash)
  | ran (jobId : String) (ir : NativeGateIR) (shots : Int)
  | returned (outcome : Except Exc ExecutionResult)
  | batchRan (jobs : List (String × NativeGateIR × Int)) (outcome : Except Exc (List ExecutionResult))
  | created (spec : TaskSpec) (number : Nat)
  | reported (callbackUrl : String) (payload : WebhookPayload) (outcome : Except Exc Unit)
  | reportedFailure (callbackUrl jobId error : String) (outcome : Except Exc Unit)
  | acked (messageId : String)
deriving DecidableEq

/-- The deed of an operation with this outcome, if it is one. -/
def Op.deed : (op : Op) → Except Exc op.Reply → Option Deed
  | .note (.processMessage message), _ => some (.called message)
  | .note (.processBatch messages), _ => some (.calledBatch messages)
  | .xpendingRange _ _, .ok ids => some (.queried ids)
  | .xrange messageId, .ok messages => some (.fetched messageId messages)
  | .hgetState jobId, .ok state => some (.saw jobId state)
  | .getCancelled jobId, .ok true => some (.flagged jobId)
  | .hset jobId mapping, .ok () => some (.wrote jobId mapping.timeless)
  | .createRun jobId ir shots, .ok () => some (.ran jobId ir shots)
  | .awaitRun, outcome => some (.returned outcome)
  | .batchRun jobs, outcome => some (.batchRan jobs outcome)
  | .createTask spec, .ok number => some (.created spec number)
  | .sendResult callbackUrl payload, outcome => some (.reported callbackUrl payload outcome)
  | .sendError callbackUrl jobId error, outcome =>
      some (.reportedFailure callbackUrl jobId error outcome)
  | .xack messageId, .ok () => some (.acked messageId)
  | _, _ => none

/-- The number of a background task; the main coroutine has none. -/
def Role.seat : Role → Option Nat
  | .loop => none
  | .task number _ => some number

/-- The deed a record of the log holds, if it is of this task. -/
def Entry.deed (seat : Option Nat) : Entry → Option Deed
  | .call role op outcome _ => if role.seat = seat then op.deed outcome else none
  | .env _ => none

/-- The deeds of one task, oldest first. -/
def deeds (seat : Option Nat) (log : List Entry) : List Deed := log.filterMap (Entry.deed seat)

/-- Some task has done this. -/
def Did (log : List Entry) (deed : Deed) : Prop := ∃ seat, deed ∈ deeds seat log

variable {seat : Option Nat} {role : Role} {op : Op} {outcome : Except Exc op.Reply} {fate : Fate}

theorem deeds_append (log more : List Entry) : deeds seat (log ++ more) = deeds seat log ++ deeds seat more :=
  List.filterMap_append

/-- What the log does not keep is no deed. -/
theorem Op.deed_unlogged (silent : op.logged = false) : op.deed outcome = none := by
  cases op <;> first | rfl | cases silent

/-- The record behind a call of the executor for a batch. -/
theorem mem_of_batchRan {log : List Entry} {jobs : List (String × NativeGateIR × Int)}
    {outcome : Except Exc (List ExecutionResult)} (ran : Did log (.batchRan jobs outcome)) :
    ∃ role fate, .call role (.batchRun jobs) outcome fate ∈ log := by
  obtain ⟨seat, member⟩ := ran
  obtain ⟨entry, inLog, deed⟩ := List.mem_filterMap.mp member
  cases entry with
  | env event => cases deed
  | call role op outcome fate =>
      simp only [Entry.deed] at deed
      split at deed
      · unfold Op.deed at deed
        split at deed <;> cases deed
        exact ⟨role, fate, inLog⟩
      · cases deed

/-- An operation of the task adds its deed. -/
theorem deeds_of_performs {policy : Policy} {world next : World}
    (performs : World.Performs policy world op outcome fate next) (here : role.seat = seat) :
    deeds seat (next.recordCall role op outcome fate).log =
      deeds seat world.log ++ (op.deed outcome).toList := by
  rw [World.recordCall_log_of_performs role performs]
  cases kept : op.logged with
  | true =>
      rw [if_pos rfl, deeds_append]
      cases deed : op.deed outcome <;> simp [deeds, Entry.deed, here, deed]
  | false => simp [Op.deed_unlogged kept]

/-- An operation of another task adds none. -/
theorem deeds_of_other {policy : Policy} {world next : World}
    (performs : World.Performs policy world op outcome fate next) (elsewhere : role.seat ≠ seat) :
    deeds seat (next.recordCall role op outcome fate).log = deeds seat world.log := by
  rw [World.recordCall_log_of_performs role performs]
  split
  · simp [deeds, Entry.deed, elsewhere]
  · rfl

theorem deeds_of_occur {world next : World} {event : EnvEvent}
    (occurs : world.occur event = some next) :
    deeds seat (next.record (.env event)).log = deeds seat world.log := by
  rw [World.record_log, World.log_of_occur occurs, deeds_append]
  simp [deeds, Entry.deed]

end CodaNode
