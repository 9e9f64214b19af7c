/-
Module: CodaNode.Protocol.Loop
Layer: Protocol
Purpose: `consume_loop` as a table of stages: the start-up, the read, the wait for the delivery of the
  previous batch, the three ways to dispatch what was read, the idle recheck, and the back-off.
Imports: CodaNode.Protocol.Recovery, CodaNode.Protocol.Batch
Main exports: LoopStage, LoopStage.Move, consumeLoop_follows
-/
import CodaNode.Protocol.Batch
import CodaNode.Protocol.Recovery

namespace CodaNode

open Coroutine

/-- The operation `consume_loop` is about to perform. -/
inductive LoopStage where
  /-- Set the running flag. -/
  | enter
  /-- Create the consumer group. -/
  | setup
  /-- Recover pending messages before the first read. -/
  | startUp (stage : RecoveryStage)
  /-- Start to count failures. -/
  | reset
  /-- Read the clock. -/
  | clock
  /-- Record the time of the recovery. -/
  | stamp (now : Rat)
  /-- Read the running flag. -/
  | top
  /-- Read new messages. -/
  | read
  /-- Record that Redis has answered. -/
  | healthy (messages : List StreamMessage)
  /-- Record that there is no failure to count. -/
  | calm (messages : List StreamMessage)
  /-- Look for the delivery of the previous batch. -/
  | peek (messages : List StreamMessage)
  /-- Wait for it. -/
  | await (number : Nat) (messages : List StreamMessage)
  /-- Forget it. -/
  | forget (messages : List StreamMessage)
  /-- Nothing was read: read the clock. -/
  | idle
  /-- Read when the last recovery was. -/
  | due (now : Rat)
  /-- Recover pending messages. -/
  | recheck (now : Rat) (stage : RecoveryStage)
  /-- Record the time of that recovery. -/
  | checked (now : Rat)
  /-- Process one message. -/
  | each (message : StreamMessage) (stage : Stage) (rest : List StreamMessage)
  /-- Process a batch. -/
  | batch (messages : List StreamMessage) (stage : BatchStage)
  /-- Remember the delivery of the batch. -/
  | store (number : Nat)
  /-- Record that the connection is lost. -/
  | down
  /-- Count the failure. -/
  | count
  /-- Read the count. -/
  | reread
  /-- Log the failure. -/
  | warn (failures delay : Nat)
  /-- Wait before the next read. -/
  | backOff (delay : Nat)
  /-- Wait a second after an unexpected exception. -/
  | pause
  /-- The call has ended. -/
  | ended (outcome : Except Exc Unit)

namespace LoopStage

/-- Go on with the messages of a read that are processed one by one. -/
def handling : List StreamMessage → LoopStage
  | [] => .top
  | message :: rest => .each message .called rest

/-- Dispatch what was read. -/
def dispatching (self : Consumer) (messages : List StreamMessage) : LoopStage :=
  if messages.isEmpty then .idle
  else if self.canBatch ∧ 1 < messages.length then .batch messages .called
  else handling messages

/-- Go on after a batch. -/
def batched : Option Nat → LoopStage
  | some number => .store number
  | none => .top

/-- The `except` clause for an exception. -/
def caught (exception : Exc) : LoopStage :=
  if exception.isConnection then .down
  else if exception.isException then .pause
  else .ended (.error exception)

/-- The group exists already, or the call fails. -/
def grouped : Except Exc Unit → LoopStage
  | .ok () => .startUp .query
  | .error exception =>
      if exception.kind = .responseError ∧ Python.contains exception.text "BUSYGROUP" then
        .startUp .query
      else .ended (.error exception)

/-- Wait, or fail to compute for how long. -/
def waiting (failures : Nat) : LoopStage :=
  match backoffDelay failures with
  | .ok delay => .warn failures delay
  | .error exception => .ended (.error exception)

section Rows

variable (self : Consumer)

/-- The rows of the table. [SRC consumer.py:170-235] -/
inductive Move : LoopStage → (op : Op) → Except Exc op.Reply → LoopStage → Prop where
  | enter : Move .enter (.modify fun attrs => { attrs with running := true }) (.ok ()) .setup
  | setup {outcome} : Move .setup .xgroupCreate outcome (grouped outcome)
  | startUp {stage op outcome next} (row : RecoveryStage.Move self stage op outcome next) :
      Move (.startUp stage) op outcome
        (RecoveryStage.within .startUp .reset (fun exception => .ended (.error exception)) next)
  | reset : Move .reset (.modify fun attrs => { attrs with consecutiveFailures := 0 }) (.ok ()) .clock
  | clock {now} : Move .clock .monotonic (.ok now) (.stamp now)
  | stamp {now} :
      Move (.stamp now) (.modify fun attrs => { attrs with lastPendingCheck := now }) (.ok ()) .top
  | top {attrs} : Move .top .attrs (.ok attrs) (if attrs.running then .read else .ended (.ok ()))
  -- the explored part of the loop ends here; nothing answers
  | hang {outcome} :
      Move .top .hang outcome
        (afterCall outcome (fun _ => .top) fun exception => .ended (.error exception))
  | read {outcome} :
      Move .read (.xreadgroup self.consumerName (readCount self)) outcome
        (afterCall outcome .healthy caught)
  | healthy {messages} :
      Move (.healthy messages) (.modify fun attrs => { attrs with redisHealthy := true }) (.ok ())
        (.calm messages)
  | calm {messages} :
      Move (.calm messages) (.modify fun attrs => { attrs with consecutiveFailures := 0 }) (.ok ())
        (.peek messages)
  | peek {messages attrs} :
      Move (.peek messages) .attrs (.ok attrs)
        (match attrs.pendingBatchDelivery with
          | some number => .await number messages
          | none => dispatching self messages)
  | await {number messages outcome} :
      Move (.await number messages) (.awaitTask number) outcome
        (afterCall outcome (fun _ => .forget messages) caught)
  | forget {messages} :
      Move (.forget messages) (.modify fun attrs => { attrs with pendingBatchDelivery := none })
        (.ok ()) (dispatching self messages)
  | idle {now} : Move .idle .monotonic (.ok now) (.due now)
  | due {now attrs} :
      Move (.due now) .attrs (.ok attrs)
        (if pendingRecheckSecs ≤ now - attrs.lastPendingCheck then .recheck now .query else .top)
  | recheck {now stage op outcome next} (row : RecoveryStage.Move self stage op outcome next) :
      Move (.recheck now stage) op outcome
        (RecoveryStage.within (.recheck now) (.checked now) caught next)
  | checked {now} :
      Move (.checked now) (.modify fun attrs => { attrs with lastPendingCheck := now }) (.ok ()) .top
  | each {message stage rest op outcome next}
      (row : Stage.Move self message message.job stage op outcome next) :
      Move (.each message stage rest) op outcome
        (Stage.within (.each message · rest) (handling rest) caught next)
  | batch {messages stage op outcome next} (row : BatchStage.Move self messages stage op outcome next) :
      Move (.batch messages stage) op outcome
        (BatchStage.within (.batch messages) batched caught next)
  | store {number} :
      Move (.store number) (.modify fun attrs => { attrs with pendingBatchDelivery := some number })
        (.ok ()) .top
  | down :
      Move .down (.modify fun attrs => { attrs with redisHealthy := false }) (.ok ()) .count
  | count :
      Move .count
        (.modify fun attrs => { attrs with consecutiveFailures := attrs.consecutiveFailures + 1 })
        (.ok ()) .reread
  | reread {attrs} : Move .reread .attrs (.ok attrs) (waiting attrs.consecutiveFailures)
  | warn {failures delay} :
      Move (.warn failures delay) (.note (.connectionLost failures delay)) (.ok ()) (.backOff delay)
  | backOff {delay outcome} :
      Move (.backOff delay) (.sleep delay) outcome
        (afterCall outcome (fun _ => .top) fun exception => .ended (.error exception))
  | pause {outcome} :
      Move .pause (.sleep 1) outcome
        (afterCall outcome (fun _ => .top) fun exception => .ended (.error exception))

end Rows

/-- The loop is no background task. -/
theorem Move.not_taskDone {self : Consumer} {stage next : LoopStage} {op : Op}
    {outcome : Except Exc op.Reply} (row : Move self stage op outcome next) (number : Nat)
    (ending : Except Exc Unit) : op ≠ .taskDone number ending := by
  rintro rfl
  cases row with
  | startUp row => cases row.ofRecovery
  | recheck row => cases row.ofRecovery
  | each row => cases row.ofMessage
  | batch row => cases row.ofBatch

/-- How the loop has ended. -/
def Over (outcome : Except Exc Unit) (stage : LoopStage) : Prop := stage = .ended outcome

theorem Move.not_ended {self : Consumer} {next : LoopStage} {op : Op} {outcome : Except Exc op.Reply}
    {ending : Except Exc Unit} (row : Move self (.ended ending) op outcome next) : False := by
  cases row

end LoopStage

section Follows

variable {self : Consumer}

private theorem processBatch_follows_within (messages : List StreamMessage) :
    Follows (LoopStage.Move self) (fun delivery later => later = LoopStage.batched delivery)
      (fun exception later => later = LoopStage.caught exception) (processBatch self messages)
      (.batch messages .called) := by
  have lifted : ∀ {first op outcome second}, BatchStage.Move self messages first op outcome second →
      LoopStage.Move self
        (BatchStage.within (.batch messages) LoopStage.batched LoopStage.caught first) op outcome
        (BatchStage.within (.batch messages) LoopStage.batched LoopStage.caught second) := by
    intro first op outcome second row
    cases first with
    | ended ending => exact row.not_ended.elim
    | _ => exact .batch row
  refine (Coro.Tracks.map (BatchStage.within (.batch messages) LoopStage.batched LoopStage.caught) lifted
    processBatch_follows).imp ?_ ?_
  · rintro value later ⟨last, rfl, rfl⟩
    rfl
  · rintro exception later ⟨last, rfl, rfl⟩
    rfl

private theorem handling_follows (messages : List StreamMessage) :
    Follows (LoopStage.Move self) (fun _ later => later = .top)
      (fun exception later => later = LoopStage.caught exception)
      (Coro.forEach messages (processEntry self)) (LoopStage.handling messages) := by
  have rounds : Follows (LoopStage.Move self) (fun _ later => later = LoopStage.handling [])
      (fun exception later => later = LoopStage.caught exception)
      (Coro.forEach messages (processEntry self)) (LoopStage.handling messages) :=
    Coro.Tracks.forEach LoopStage.handling fun message rest =>
      Stage.processEntry_follows (LoopStage.each message · rest) LoopStage.Move.each
  exact rounds

private theorem dispatch_follows {messages : List StreamMessage} (some_ : messages.isEmpty = false) :
    Follows (LoopStage.Move self) (fun _ later => later = .top)
      (fun exception later => later = LoopStage.caught exception) (dispatch self messages)
      (LoopStage.dispatching self messages) := by
  unfold dispatch LoopStage.dispatching
  simp only [some_, Bool.false_eq_true, if_false]
  by_cases several : self.canBatch = true ∧ 1 < messages.length
  · simp only [several, and_self, if_true]
    refine (processBatch_follows_within messages).bind ?_
    rintro delivery later rfl
    cases delivery with
    | none => rfl
    | some number => exact Follows.answered rfl () fun _ => .store
  · simp only [several, if_false]
    exact handling_follows messages

private theorem recheckPending_follows :
    Follows (LoopStage.Move self) (fun _ later => later = .top)
      (fun exception later => later = LoopStage.caught exception) (recheckPending self) .idle := by
  refine Follows.answered_bind rfl 0 (fun _ => .idle) fun now => ?_
  refine Follows.answered_bind rfl {} (fun _ => .due) fun attrs => ?_
  by_cases due : pendingRecheckSecs ≤ now - attrs.lastPendingCheck
  · simp only [due, if_true]
    refine (recoverPending_follows_within (LoopStage.recheck now) LoopStage.Move.recheck).bind ?_
    rintro _ later rfl
    exact Follows.answered rfl () fun _ => .checked
  · simp only [due, if_false]
    rfl

private theorem consumeOnce_follows :
    Follows (LoopStage.Move self) (fun _ later => later = .top)
      (fun exception later => later = LoopStage.caught exception) (consumeOnce self) .read := by
  have rest (messages : List StreamMessage) :
      Follows (LoopStage.Move self) (fun _ later => later = .top)
        (fun exception later => later = LoopStage.caught exception)
        (if messages.isEmpty then recheckPending self else dispatch self messages)
        (LoopStage.dispatching self messages) := by
    cases empty : messages.isEmpty with
    | true =>
        simp only [LoopStage.dispatching, empty, if_true]
        exact recheckPending_follows
    | false => exact dispatch_follows empty
  refine Follows.call_bind (fun _ => .read) (fun messages => ?_) fun _ => rfl
  refine Follows.answered_bind rfl () (fun _ => .healthy) fun _ => ?_
  refine Follows.answered_bind rfl () (fun _ => .calm) fun _ => ?_
  have awaited : Follows (LoopStage.Move self)
      (fun _ later => later = LoopStage.dispatching self messages)
      (fun exception later => later = LoopStage.caught exception) awaitPendingDelivery
      (.peek messages) := by
    refine Follows.answered_bind rfl {} (fun _ => .peek) fun attrs => ?_
    cases attrs.pendingBatchDelivery with
    | none => rfl
    | some number =>
        refine Follows.call_bind (fun _ => .await) (fun _ => ?_) fun _ => rfl
        exact Follows.answered rfl () fun _ => .forget
  refine awaited.bind ?_
  rintro _ later rfl
  exact rest messages

private theorem handleLoopError_follows (exception : Exc) :
    Follows (LoopStage.Move self) (fun _ later => later = .top)
      (fun failure later => later = .ended (.error failure)) (handleLoopError exception)
      (LoopStage.caught exception) := by
  unfold handleLoopError LoopStage.caught
  cases exception.isConnection with
  | true =>
      refine Follows.answered_bind rfl () (fun _ => .down) fun _ => ?_
      refine Follows.answered_bind rfl () (fun _ => .count) fun _ => ?_
      refine Follows.answered_bind rfl {} (fun _ => .reread) fun attrs => ?_
      unfold LoopStage.waiting
      cases backoffDelay attrs.consecutiveFailures with
      | error failure => rfl
      | ok delay =>
          refine Follows.answered_bind rfl () (fun _ => .warn) fun _ => ?_
          exact Follows.call_imp (fun _ => .backOff) (fun _ => rfl) fun _ => rfl
  | false =>
      cases exception.isException with
      | true => exact Follows.call_imp (fun _ => .pause) (fun _ => rfl) fun _ => rfl
      | false => rfl

private theorem consumeWhile_follows (iterations : Nat) :
    Follows (LoopStage.Move self) (fun _ later => later = .ended (.ok ()))
      (fun exception later => later = .ended (.error exception)) (consumeWhile self iterations)
      .top := by
  induction iterations with
  | zero => exact Follows.call_bind (fun _ => .hang) (fun never => by cases never) fun _ => rfl
  | succ iterations inductionHypothesis =>
      refine Follows.answered_bind rfl {} (fun _ => .top) fun attrs => ?_
      cases attrs.running with
      | false => rfl
      | true =>
          refine (consumeOnce_follows.catching ?_).bind ?_
          · rintro exception later rfl
            exact handleLoopError_follows exception
          · rintro _ later rfl
            exact inductionHypothesis

private theorem setup_follows :
    Follows (LoopStage.Move self) (fun _ later => later = .startUp .query)
      (fun exception later => later = .ended (.error exception)) setup .setup := by
  have created : Follows (LoopStage.Move self) (fun _ later => later = .startUp .query)
      (fun exception later => later = LoopStage.grouped (.error exception)) (call .xgroupCreate)
      .setup :=
    Follows.call_imp (fun _ => .setup) (fun _ => rfl) fun _ => rfl
  refine created.catching ?_
  rintro exception later rfl
  simp only [LoopStage.grouped]
  by_cases exists_ : exception.kind = .responseError ∧ Python.contains exception.text "BUSYGROUP"
  · simp only [exists_, and_self, if_true]
    rfl
  · simp only [exists_, if_false]
    rfl

/-- `consume_loop` follows its table. -/
theorem consumeLoop_follows (iterations : Nat) :
    Follows (LoopStage.Move self) (fun _ => LoopStage.Over (.ok ()))
      (fun exception => LoopStage.Over (.error exception)) (consumeLoop self iterations) .enter := by
  refine Follows.answered_bind rfl () (fun _ => .enter) fun _ => ?_
  refine setup_follows.bind ?_
  rintro _ later rfl
  refine (recoverPending_follows_within LoopStage.startUp LoopStage.Move.startUp).bind ?_
  rintro _ later rfl
  refine Follows.answered_bind rfl () (fun _ => .reset) fun _ => ?_
  refine Follows.answered_bind rfl 0 (fun _ => .clock) fun now => ?_
  refine Follows.answered_bind rfl () (fun _ => .stamp) fun _ => ?_
  exact consumeWhile_follows iterations

end Follows

end CodaNode
