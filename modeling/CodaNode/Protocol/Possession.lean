/-
Module: CodaNode.Protocol.Possession
Layer: Protocol
Purpose: Which messages a consumer has in hand. It gets messages only from its reads and from the query
  for its pending entries, and dispatches no others.
Imports: CodaNode.Protocol.Loop, CodaNode.Protocol.Crew, CodaNode.Server.Cluster
Main exports: Op.Yields, LoopStage.Has, LoopStage.Has.row, LoopStage.Has.dispatches
-/
import CodaNode.Protocol.Crew
import CodaNode.Protocol.Loop
import CodaNode.Server.Cluster

namespace CodaNode

open Coroutine

/-- What an operation fetches is the consumer's own. -/
def Op.Yields (own : String → Prop) : (op : Op) → Except Exc op.Reply → Prop
  | .xpendingRange _ _, .ok ids => ∀ messageId ∈ ids, own messageId
  | .xreadgroup _ _, .ok messages => ∀ message ∈ messages, own message.messageId
  | _, _ => True

/-- All of these messages are the consumer's own. -/
def Owns (own : String → Prop) (messages : List StreamMessage) : Prop :=
  ∀ message ∈ messages, own message.messageId

/-- The messages a recovery has in hand. -/
def RecoveryStage.Has (own : String → Prop) : RecoveryStage → Prop
  | .fetch messageId rest => ∀ id ∈ messageId :: rest, own id
  | .process message _ rest => own message.messageId ∧ ∀ id ∈ rest, own id
  | .query | .ended _ => True

/-- The messages a batch has in hand, which are among those it was called with. -/
def BatchStage.Has (own : String → Prop) : BatchStage → Prop
  | .process message _ rest => Owns own (message :: rest)
  | _ => True

/-- The messages the loop has in hand. -/
def LoopStage.Has (own : String → Prop) : LoopStage → Prop
  | .startUp stage | .recheck _ stage => stage.Has own
  | .healthy messages | .calm messages | .peek messages | .await _ messages | .forget messages =>
      Owns own messages
  | .each message _ rest => Owns own (message :: rest)
  | .batch messages stage => Owns own messages ∧ stage.Has own
  | _ => True

section Rows

variable {self : Consumer} {own : String → Prop} {op : Op} {outcome : Except Exc op.Reply}

theorem RecoveryStage.has_next {ids : List String} (mine : ∀ id ∈ ids, own id) :
    (RecoveryStage.next ids).Has own := by
  cases ids with
  | nil => trivial
  | cons messageId rest => exact mine

theorem RecoveryStage.Has.row {stage later : RecoveryStage}
    (row : RecoveryStage.Move self stage op outcome later) (yields : op.Yields own outcome)
    (has : stage.Has own) : later.Has own := by
  cases row with
  | @query outcome =>
      cases outcome with
      | ok ids => exact has_next yields
      | error exception => trivial
  | @fetch messageId rest outcome =>
      obtain ⟨mine, others⟩ := List.forall_mem_cons.mp has
      cases outcome with
      | ok messages =>
          cases messages with
          | nil => exact has_next others
          | cons message _ => exact ⟨mine, others⟩
      | error exception => trivial
  | process row =>
      refine Stage.within_cases (motive := RecoveryStage.Has own) ?_ ?_ ?_
      · exact fun _ => has
      · exact fun _ => has_next has.2
      · exact fun _ _ => trivial

theorem BatchStage.has_each {messages : List StreamMessage} (mine : Owns own messages) :
    (BatchStage.each messages).Has own := by
  apply each_cases (motive := BatchStage.Has own)
  · trivial
  · rintro message rest rfl
    exact mine

theorem BatchStage.has_parse {parsed : List ParsedJob} {todo : List StreamMessage} :
    (BatchStage.parse parsed todo).Has own := by
  apply parse_cases (motive := BatchStage.Has own) <;> intros <;> trivial

theorem BatchStage.has_marking {messages : List StreamMessage} (mine : Owns own messages)
    {parsed todo : List ParsedJob} : (BatchStage.marking self messages parsed todo).Has own := by
  apply marking_cases (motive := BatchStage.Has own)
  · trivial
  · exact has_each mine
  · exact fun _ _ _ => trivial

theorem BatchStage.Has.row {messages : List StreamMessage} {stage later : BatchStage}
    (row : BatchStage.Move self messages stage op outcome later) (mine : Owns own messages)
    (has : stage.Has own) : later.Has own := by
  rcases row.leads with leads | ⟨_, _, _, -, -, -, rfl⟩ | ⟨message, inner, rest, later, rfl, -, rfl⟩
  · cases leads with
    | stayed => exact has
    | called | dismissed => exact has_parse
    | accepted =>
        unfold accept
        split
        · trivial
        · exact has_parse
    | busy | marked => exact has_marking mine
    | fellBack => exact has_each mine
    | _ => trivial
  · trivial
  · refine Stage.within_cases (motive := BatchStage.Has own) ?_ ?_ ?_
    · exact fun _ => has
    · exact fun _ => has_each (List.forall_mem_cons.mp has).2
    · exact fun _ _ => trivial

theorem LoopStage.has_caught (exception : Exc) : (LoopStage.caught exception).Has own := by
  unfold LoopStage.caught
  split
  · trivial
  · split <;> trivial

theorem LoopStage.has_handling {messages : List StreamMessage} (mine : Owns own messages) :
    (LoopStage.handling messages).Has own := by
  cases messages with
  | nil => trivial
  | cons message rest => exact mine

theorem LoopStage.has_dispatching {messages : List StreamMessage} (mine : Owns own messages) :
    (LoopStage.dispatching self messages).Has own := by
  unfold LoopStage.dispatching
  split
  · trivial
  · split
    · exact ⟨mine, trivial⟩
    · exact has_handling mine

/-- A row of the loop leads to messages it already has, or to those it has fetched. -/
theorem LoopStage.Has.row {stage later : LoopStage} (row : LoopStage.Move self stage op outcome later)
    (yields : op.Yields own outcome) (has : stage.Has own) : later.Has own := by
  cases row with
  | startUp row =>
      refine RecoveryStage.within_cases (motive := LoopStage.Has own) ?_ ?_ ?_
      · exact fun _ => RecoveryStage.Has.row row yields has
      · exact fun _ => trivial
      · exact fun _ _ => trivial
  | recheck row =>
      refine RecoveryStage.within_cases (motive := LoopStage.Has own) ?_ ?_ ?_
      · exact fun _ => RecoveryStage.Has.row row yields has
      · exact fun _ => trivial
      · exact fun exception _ => has_caught exception
  | each row =>
      refine Stage.within_cases (motive := LoopStage.Has own) ?_ ?_ ?_
      · exact fun _ => has
      · exact fun _ => has_handling (List.forall_mem_cons.mp has).2
      · exact fun exception _ => has_caught exception
  | batch row =>
      refine BatchStage.within_cases (motive := LoopStage.Has own) ?_ ?_ ?_
      · exact fun _ => ⟨has.1, BatchStage.Has.row row has.1 has.2⟩
      · intro delivery _
        cases delivery <;> trivial
      · exact fun exception _ => has_caught exception
  | @read outcome =>
      cases outcome with
      | ok messages => exact yields
      | error exception => exact has_caught exception
  | @peek messages attrs =>
      cases attrs.pendingBatchDelivery with
      | some number => exact has
      | none => exact has_dispatching has
  | @await number messages outcome =>
      cases outcome with
      | ok value => exact has
      | error exception => exact has_caught exception
  | forget => exact has_dispatching has
  | healthy | calm => exact has
  | @setup outcome =>
      unfold LoopStage.grouped
      split
      · trivial
      · split <;> trivial
  | @top attrs => split <;> trivial
  | @hang outcome =>
      cases outcome with
      | ok never => trivial
      | error exception => trivial
  | due => split <;> trivial
  | @reread attrs =>
      unfold LoopStage.waiting
      split <;> trivial
  | @backOff _ outcome | @pause outcome =>
      cases outcome with
      | ok value => trivial
      | error exception => trivial
  | _ => trivial

theorem Stage.dispatches {message : StreamMessage} {job : JobMessage} {stage later : Stage}
    (row : Stage.Move self message job stage op outcome later) {role : Role} {fate : Fate}
    {messageId : String} (dispatches : (Entry.call role op outcome fate).dispatches messageId = true) :
    messageId = message.messageId := by
  cases row with
  | called => exact (of_decide_eq_true dispatches).symm
  | _ => cases dispatches

theorem RecoveryStage.Has.dispatches {stage later : RecoveryStage}
    (row : RecoveryStage.Move self stage op outcome later) (has : stage.Has own) {role : Role}
    {fate : Fate} {messageId : String}
    (dispatches : (Entry.call role op outcome fate).dispatches messageId = true) : own messageId := by
  cases row with
  | process row =>
      rw [Stage.dispatches row dispatches]
      exact has.1
  | _ => cases dispatches

theorem BatchStage.Has.dispatches {messages : List StreamMessage} {stage later : BatchStage}
    (row : BatchStage.Move self messages stage op outcome later) (mine : Owns own messages)
    (has : stage.Has own) {role : Role} {fate : Fate} {messageId : String}
    (dispatches : (Entry.call role op outcome fate).dispatches messageId = true) : own messageId := by
  cases row with
  | process row =>
      rw [Stage.dispatches row dispatches]
      exact has _ List.mem_cons_self
  | called =>
      obtain ⟨message, member, same⟩ := List.any_eq_true.mp dispatches
      rw [← of_decide_eq_true same]
      exact mine message member
  | _ => cases dispatches

/-- The loop dispatches only what it has. -/
theorem LoopStage.Has.dispatches {stage later : LoopStage}
    (row : LoopStage.Move self stage op outcome later) (has : stage.Has own) {role : Role} {fate : Fate}
    {messageId : String} (dispatches : (Entry.call role op outcome fate).dispatches messageId = true) :
    own messageId := by
  cases row with
  | startUp row | recheck row => exact RecoveryStage.Has.dispatches row has dispatches
  | each row =>
      rw [Stage.dispatches row dispatches]
      exact has _ List.mem_cons_self
  | batch row => exact BatchStage.Has.dispatches row has.1 has.2 dispatches
  | _ => cases dispatches

/-- A background task dispatches nothing. -/
theorem Post.Move.not_dispatches {post later : Post} (row : Post.Move self post op outcome later)
    {role : Role} {fate : Fate} (messageId : String) :
    (Entry.call role op outcome fate).dispatches messageId = false := by
  cases row with
  | gather row => cases row <;> rfl
  | single row => cases row <;> rfl

end Rows

/-- What is the consumer's own is so under a weaker notion. -/
theorem LoopStage.Has.mono {own own' : String → Prop} (weaker : ∀ messageId, own messageId → own' messageId)
    {stage : LoopStage} (has : stage.Has own) : stage.Has own' := by
  have owns {messages : List StreamMessage} (mine : Owns own messages) : Owns own' messages :=
    fun message member => weaker _ (mine message member)
  have recovery {stage : RecoveryStage} (has : stage.Has own) : stage.Has own' := by
    cases stage with
    | fetch => exact fun id member => weaker id (has id member)
    | process => exact ⟨weaker _ has.1, fun id member => weaker id (has.2 id member)⟩
    | _ => trivial
  cases stage with
  | startUp stage | recheck _ stage => exact recovery has
  | healthy | calm | peek | await | forget | each => exact owns has
  | batch messages stage =>
      refine ⟨owns has.1, ?_⟩
      cases stage with
      | process => exact owns has.2
      | _ => trivial
  | _ => trivial

end CodaNode
