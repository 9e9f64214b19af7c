/-
Module: CodaNode.Protocol.Queue
Layer: Protocol
Purpose: Messages that `_process_message` is called for one after another. Their calls are the fallback of
  a batch without the batch, and what they leave behind when they are over are the deeds of every call.
Imports: CodaNode.Protocol.Alone
Main exports: BatchStage.Queued, queue_replayed
-/
import CodaNode.Protocol.Alone

namespace CodaNode

open Coroutine

namespace BatchStage

/-- The deeds of a queue of messages that is at this stage. -/
inductive Queued (self : Consumer) (flags : String → Bool) (messages : List StreamMessage) :
    BatchStage → List Deed → Prop where
  | process {done rest : List StreamMessage} {message : StreamMessage} {stage : Stage}
      {replay more : List Deed} (split : messages = done ++ message :: rest)
      (replayed : Replayed self flags done replay) (course : Stage.Course self flags message stage more) :
      Queued self flags messages (.process message stage rest) (replay ++ more)
  | finished {replay : List Deed} (replayed : Replayed self flags messages replay) :
      Queued self flags messages (.ended (.ok none)) replay
  | undecodable {done rest : List StreamMessage} {message : StreamMessage} {exception : Exc}
      {replay more : List Deed} (split : messages = done ++ message :: rest)
      (replayed : Replayed self flags done replay) (reading : message.read = .error exception)
      (course : Stage.Course self flags message (.ended (.error exception)) more) :
      Queued self flags messages (.ended (.error exception)) (replay ++ more)

variable {self : Consumer} {policy : Policy} {flags : String → Bool} {messages : List StreamMessage}
variable {stage later : BatchStage} {world next : World} {here : List Deed}

theorem queued_each {done rest : List StreamMessage} (split : messages = done ++ rest)
    (replayed : Replayed self flags done here) : Queued self flags messages (each rest) here := by
  cases rest with
  | nil =>
      rw [List.append_nil] at split
      subst split
      exact .finished replayed
  | cons message rest =>
      have queued := Queued.process split replayed Stage.Course.called
      rw [List.append_nil] at queued
      exact queued

/-- Every row adds its deed. -/
theorem Queued.row (undisturbed : policy.Undisturbed) {op : Op} {outcome : Except Exc op.Reply}
    {fate : Fate} (row : Move self messages stage op outcome later)
    (performs : World.Performs policy world op outcome fate next)
    (clears : ∀ job, world.redis.cancelled job = false → flags job = false)
    (foreign : RunForeign world.runTask) (sound : stage.Sound world.runTask)
    (queued : Queued self flags messages stage here) :
    Queued self flags messages later (here ++ (op.deed outcome).toList) := by
  cases queued with
  | @process done rest message inner replay more split replayed course =>
      cases row with
      | clock =>
          simp only [Op.deed, Option.toList_none, List.append_nil]
          exact .process split replayed course
      | @process _ _ _ _ _ later row =>
          have moved := Stage.Course.row undisturbed row performs clears foreign sound course
          rw [List.append_assoc]
          cases later with
          | ended ending =>
              cases ending with
              | ok value =>
                  generalize more ++ (op.deed outcome).toList = segment at moved
                  cases moved with
                  | ended served =>
                      have grown : messages = (done ++ [message]) ++ rest := by
                        rw [split, List.append_assoc, List.singleton_append]
                      exact queued_each grown (.served replayed served)
              | error exception =>
                  generalize more ++ (op.deed outcome).toList = segment at moved
                  have reading : message.read = .error exception := by
                    cases moved with
                    | undecodable reading => exact reading
                  exact .undecodable split replayed reading moved
          | _ => exact .process split replayed moved
  | finished replayed =>
      cases row with
      | clock inside => exact absurd rfl (inside _)
  | undecodable =>
      cases row with
      | clock inside => exact absurd rfl (inside _)

theorem queue_accountable (undisturbed : policy.Undisturbed) (messages : List StreamMessage) :
    Crew.Accountable policy flags (Move self messages) (fun runTask stage => stage.Sound runTask)
      (Queued self flags messages) where
  mains row number ending same := by
    subst same
    cases row.ofBatch
  occur := Sound.occur
  sound row performs sound := Sound.row undisturbed row performs sound
  course row performs clears foreign sound queued := Queued.row undisturbed row performs clears foreign sound queued

/-- Calls that follow one another follow the rows of the fallback. -/
theorem queue_follows (messages : List StreamMessage) :
    Follows (Move self messages) (fun _ => Over (.ok ())) (fun exception => Over (.error exception))
      (Coro.forEach messages (processEntry self)) (each messages) := by
  apply (each_follows messages).imp
  · intro _ later ended
    exact ⟨none, ended⟩
  · intro exception later ended
    exact ended

theorem Queued.not_created {spec : TaskSpec} {number : Nat} (queued : Queued self flags messages stage here) :
    .created spec number ∉ here := by
  cases queued with
  | process _ replayed course => simp [replayed.anyOf.not_created, course.not_created]
  | finished replayed => exact replayed.anyOf.not_created
  | undecodable _ replayed _ course => simp [replayed.anyOf.not_created, course.not_created]

end BatchStage

/-- Messages that can all be decoded have been processed one after another when the calls are over. -/
theorem queue_replayed {self : Consumer} {policy : Policy} (undisturbed : policy.Undisturbed) {redis : Redis}
    {messages : List StreamMessage} (readable : ∀ message ∈ messages, ∃ found, message.read = .ok found)
    {system : System}
    (reaches : Pool.Reaches (machine self policy)
      (Pool.single { redis := redis } .loop (Coro.forEach messages (processEntry self))) system)
    (ended : system.Ended) : Replayed self redis.cancelled messages (chronicle system.state.log) := by
  have sound : (BatchStage.each messages).Sound none := by
    cases messages with
    | nil => exact RunAtRest.none
    | cons message rest => exact RunAtRest.none
  obtain ⟨crew, stands, account⟩ :=
    Crew.Account.reaches undisturbed (BatchStage.queue_accountable undisturbed messages)
      (BatchStage.queue_follows messages) sound (BatchStage.queued_each rfl .nil) reaches
  obtain ⟨⟨outcome, past⟩, -⟩ := stands.ended ended
  rw [← stands.1, account.chronicle_eq fun spec number => account.main.not_created]
  have main := account.main
  obtain ⟨ending, stage⟩ := past.ended
  rw [stage] at main
  generalize deeds none crew.world.log = here at main ⊢
  cases main with
  | finished replayed => exact replayed
  | @undecodable _ _ message _ _ _ split _ reading =>
      obtain ⟨found, read⟩ := readable message (by rw [split]; simp)
      rw [read] at reading
      cases reading

end CodaNode
