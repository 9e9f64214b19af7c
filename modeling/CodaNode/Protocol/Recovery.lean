/-
Module: CodaNode.Protocol.Recovery
Layer: Protocol
Purpose: `recover_pending` as a table of stages. The messages it hands to `_process_message` are at the
  stages of that call.
Imports: CodaNode.Protocol.Message
Main exports: RecoveryStage, RecoveryStage.Move, recoverPending_follows,
  recoverPending_follows_within
-/
import CodaNode.Protocol.Message

namespace CodaNode

open Coroutine

/-- The operation `recover_pending` is about to perform. -/
inductive RecoveryStage where
  /-- Ask for the pending entries of this consumer. -/
  | query
  /-- Fetch an entry by its id. -/
  | fetch (messageId : String) (rest : List String)
  /-- Process an entry. -/
  | process (message : StreamMessage) (stage : Stage) (rest : List String)
  /-- The call has ended. -/
  | ended (outcome : Except Exc Unit)

namespace RecoveryStage

/-- Go on with the remaining entries. -/
def next : List String → RecoveryStage
  | [] => .ended (.ok ())
  | messageId :: rest => .fetch messageId rest

/-- An entry that is still in the stream is processed. -/
def fetched (messageId : String) (rest : List String) : List StreamMessage → RecoveryStage
  | [] => next rest
  | message :: _ => .process ⟨messageId, message.fields⟩ .called rest

/-- The rows of the table. [SRC consumer.py:137-168] -/
inductive Move (self : Consumer) : RecoveryStage → (op : Op) → Except Exc op.Reply → RecoveryStage → Prop
    where
  | query {outcome} :
      Move self .query (.xpendingRange self.consumerName pendingPageCount) outcome
        (afterCall outcome next fun exception => .ended (.error exception))
  | fetch {messageId rest outcome} :
      Move self (.fetch messageId rest) (.xrange messageId) outcome
        (afterCall outcome (fetched messageId rest) fun exception => .ended (.error exception))
  | process {message stage rest op outcome later}
      (row : Stage.Move self message message.job stage op outcome later) :
      Move self (.process message stage rest) op outcome
        (Stage.within (.process message · rest) (next rest)
          (fun exception => .ended (.error exception)) later)

/-- No row creates a task. -/
theorem Move.spawns {self : Consumer} {stage next : RecoveryStage} {op : Op}
    {outcome : Except Exc op.Reply} (row : Move self stage op outcome next) (world : World) :
    spawned self world op = [] := by
  cases row with
  | query => rfl
  | fetch => rfl
  | process row => exact row.spawns world

theorem Move.inner {self : Consumer} {stage next : RecoveryStage} {op : Op}
    {outcome : Except Exc op.Reply} (row : Move self stage op outcome next) : op.Inner := by
  cases row with
  | query => trivial
  | fetch => trivial
  | process row => exact row.inner

theorem Move.ofRecovery {self : Consumer} {stage next : RecoveryStage} {op : Op}
    {outcome : Except Exc op.Reply} (row : Move self stage op outcome next) : op.ofRecovery = true := by
  cases row with
  | query => rfl
  | fetch => rfl
  | process row => exact Op.ofRecovery_of_ofMessage row.ofMessage

theorem Move.not_ended {self : Consumer} {next : RecoveryStage} {op : Op}
    {outcome : Except Exc op.Reply} {ending : Except Exc Unit}
    (row : Move self (.ended ending) op outcome next) : False := by
  cases row

/-- A stage of a recovery inside another table. -/
def within {S : Type} (lift : RecoveryStage → S) (returned : S) (raised : Exc → S) :
    RecoveryStage → S
  | .ended (.ok ()) => returned
  | .ended (.error exception) => raised exception
  | stage => lift stage

/-- Either the recovery goes on or it has ended. -/
theorem within_cases {S : Type} {lift : RecoveryStage → S} {returned : S} {raised : Exc → S}
    {motive : S → Prop} {stage : RecoveryStage}
    (inside : (∀ ending, stage ≠ .ended ending) → motive (lift stage))
    (returns : stage = .ended (.ok ()) → motive returned)
    (raises : ∀ exception, stage = .ended (.error exception) → motive (raised exception)) :
    motive (within lift returned raised stage) := by
  cases stage with
  | ended ending =>
      cases ending with
      | ok value => exact returns rfl
      | error exception => exact raises exception rfl
  | _ => exact inside (fun _ same => by cases same)

end RecoveryStage

section Follows

variable {self : Consumer}

private theorem recoverEntry_follows (messageId : String) (rest : List String) :
    Follows (RecoveryStage.Move self) (fun _ later => later = RecoveryStage.next rest)
      (fun exception later => later = .ended (.error exception)) (recoverEntry self messageId)
      (.fetch messageId rest) := by
  refine Follows.call_bind (fun _ => .fetch) (fun messages => ?_) fun _ => rfl
  cases messages with
  | nil => rfl
  | cons message others =>
      have processed : Follows (RecoveryStage.Move self)
          (fun _ later => later = RecoveryStage.next rest)
          (fun exception later => later = .ended (.error exception))
          (processEntry self ⟨messageId, message.fields⟩)
          (.process ⟨messageId, message.fields⟩ .called rest) :=
        Stage.processEntry_follows (RecoveryStage.process ⟨messageId, message.fields⟩ · rest)
          RecoveryStage.Move.process
      exact processed.bind fun _ _ reached => reached

/-- `recover_pending` follows its table. -/
theorem recoverPending_follows :
    Follows (RecoveryStage.Move self) (fun _ later => later = .ended (.ok ()))
      (fun exception later => later = .ended (.error exception)) (recoverPending self) .query := by
  refine Follows.call_bind (fun _ => .query) (fun pending => ?_) fun _ => rfl
  have rounds : Follows (RecoveryStage.Move self) (fun _ later => later = RecoveryStage.next [])
      (fun exception later => later = .ended (.error exception))
      (Coro.collect pending (recoverEntry self)) (RecoveryStage.next pending) :=
    Coro.Tracks.collect (fun _ rest => RecoveryStage.next rest)
      (fun _ messageId rest => recoverEntry_follows messageId rest) []
  refine rounds.bind ?_
  rintro recovered later rfl
  rfl

/-- A recovery inside another coroutine. -/
theorem recoverPending_follows_within {S : Type}
    {move : S → (op : Op) → Except Exc op.Reply → S → Prop} {returned : S} {raised : Exc → S}
    (lift : RecoveryStage → S)
    (rows : ∀ {stage op outcome next}, RecoveryStage.Move self stage op outcome next →
      move (lift stage) op outcome (RecoveryStage.within lift returned raised next)) :
    Follows move (fun _ later => later = returned) (fun exception later => later = raised exception)
      (discard (recoverPending self)) (lift .query) := by
  refine Follows.discard ?_
  have lifted : ∀ {first op outcome second}, RecoveryStage.Move self first op outcome second →
      move (RecoveryStage.within lift returned raised first) op outcome
        (RecoveryStage.within lift returned raised second) := by
    intro first op outcome second row
    cases first with
    | ended ending => exact row.not_ended.elim
    | _ => exact rows row
  refine (Coro.Tracks.map (RecoveryStage.within lift returned raised) lifted recoverPending_follows).imp ?_ ?_
  · rintro value later ⟨last, rfl, rfl⟩
    rfl
  · rintro exception later ⟨last, rfl, rfl⟩
    rfl

end Follows

end CodaNode
