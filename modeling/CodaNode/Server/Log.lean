/-
Module: CodaNode.Server.Log
Layer: Server
Purpose: Reading the log of a run: which records are acknowledgements that took effect, webhook
  attempts, status writes, and failures that came from outside. All predicates are computed, so that
  the log of a scripted run can be examined.
Imports: CodaNode.Server.World
Main exports: Entry.acknowledges, Entry.interrupts, Entry.takesOn, Entry.attempts, Entry.settles
-/
import CodaNode.Server.World

namespace CodaNode

/-- The answer arrived, or the operation took effect and its answer was lost. -/
def Fate.effective {α : Type} (outcome : Except Exc α) : Fate → Bool
  | .answered => outcome.isOk
  | .lost => false
  | .executed => true

namespace Entry

/-- An operation of a task, as opposed to an event of the surroundings. -/
def isCall : Entry → Bool
  | .call _ _ _ _ => true
  | .env _ => false

/-- The task was cancelled while it waited in this operation. -/
def interrupts : Entry → Bool
  | .call _ _ (.error exception) fate => exception.kind = .cancelledError ∧ fate ≠ .answered
  | _ => false

/-- An XACK of this message. -/
def callsXack (messageId : String) : Entry → Bool
  | .call _ (.xack id) _ _ => id = messageId
  | _ => false

/-- An XACK of this message that took effect. -/
def acknowledges (messageId : String) : Entry → Bool
  | .call _ (.xack id) outcome fate => id = messageId ∧ fate.effective outcome
  | _ => false

/-- The executing status of this job was written, or given up after a connection error. -/
def takesOn (jobId : String) : Entry → Bool
  | .call _ (.hset id mapping) outcome _ =>
      id = jobId ∧ mapping.state = some .executing ∧ Exc.regular outcome
  | _ => false

/-- The result webhook of this job was called. -/
def reportsResult (jobId : String) : Entry → Bool
  | .call _ (.sendResult _ payload) _ _ => payload.jobId = jobId
  | _ => false

/-- The error webhook of this job was called. -/
def reportsFailure (jobId : String) : Entry → Bool
  | .call _ (.sendError _ id _) _ _ => id = jobId
  | _ => false

/-- A webhook of this job was called. -/
def attempts (jobId : String) (entry : Entry) : Bool :=
  entry.reportsResult jobId || entry.reportsFailure jobId

/-- The executor was started for this job. -/
def launches (jobId : String) : Entry → Bool
  | .call _ (.createRun id _ _) _ _ => id = jobId
  | _ => false

/-- The executor raised, and the consumer has taken the exception. -/
def collectsError : Entry → Bool
  | .call _ .awaitRun (.error _) .answered => true
  | _ => false

/-- The cancellation flag of this job could not be read. -/
def failsFlagRead (jobId : String) : Entry → Bool
  | .call _ (.getCancelled id) (.error _) _ => id = jobId
  | _ => false

/-- This state of this job was written. -/
def writes (jobId : String) (state : JobState) : Entry → Bool
  | .call _ (.hset id mapping) outcome fate =>
      id = jobId ∧ mapping.state = some state ∧ fate.effective outcome
  | _ => false

/-- A final state of this job was read. -/
def readsTerminal (jobId : String) : Entry → Bool
  | .call _ (.hgetState id) (.ok (some state)) _ => id = jobId ∧ state.terminal
  | _ => false

/-- This job has a terminal outcome from here on: a webhook was attempted, its cancelled status was
written, or it was found in a final state. -/
def settles (jobId : String) (entry : Entry) : Bool :=
  entry.attempts jobId || entry.writes jobId .cancelled || entry.readsTerminal jobId

theorem isCall_of_interrupts {entry : Entry} (interrupts : entry.interrupts = true) :
    entry.isCall = true := by
  cases entry with
  | call => rfl
  | env => cases interrupts

theorem callsXack_of_acknowledges {entry : Entry} {messageId : String}
    (acknowledges : entry.acknowledges messageId = true) : entry.callsXack messageId = true := by
  unfold Entry.acknowledges at acknowledges
  split at acknowledges
  · simp only [Bool.decide_and, Bool.and_eq_true, decide_eq_true_eq] at acknowledges
    simp only [callsXack, acknowledges.1, decide_true]
  · cases acknowledges

theorem callsXack_eq_false {messageId : String} {role : Role} {op : Op}
    {outcome : Except Exc op.Reply} {fate : Fate} (other : ∀ id, op ≠ .xack id) :
    (Entry.call role op outcome fate).callsXack messageId = false := by
  cases op with
  | xack id => exact absurd rfl (other id)
  | _ => rfl

theorem isCall_of_callsXack {entry : Entry} {messageId : String}
    (called : entry.callsXack messageId = true) : entry.isCall = true := by
  cases entry with
  | call => rfl
  | env => cases called

end Entry

/-- A log, cut at one record. -/
theorem log_split (log : List Entry) (index : Fin log.length) :
    log = log.take index ++ log.get index :: log.drop (index + 1) := by
  have tail := List.drop_eq_getElem_cons index.isLt
  rw [List.get_eq_getElem, ← tail, List.take_append_drop]

/-- What holds for the records of a log and for a new one. -/
theorem forall_snoc {holds : Entry → Prop} {log : List Entry} {entry : Entry}
    (old : ∀ other ∈ log, holds other) (new : holds entry) :
    ∀ other ∈ log ++ [entry], holds other := by
  intro other member
  rcases List.mem_append.mp member with inLog | last
  · exact old other inLog
  · rw [List.mem_singleton.mp last]
    exact new

end CodaNode
