/-
Module: CodaNode.Protocol.Batch
Layer: Protocol
Purpose: `_process_batch` as a table of stages: the parsing loop, the executing writes, the call of
  `batch_run`, and then either the creation of the delivery task or the fallback, in which every message
  of the batch is at the stages of `_process_message`.
Imports: CodaNode.Protocol.Message
Main exports: BatchStage, BatchStage.Move, processBatch_follows
-/
import CodaNode.Protocol.Message
import Mathlib.Data.List.ReduceOption

namespace CodaNode

open Coroutine

/-- The operation `_process_batch` is about to perform. While it parses, a stage carries the message in
hand, the jobs accepted so far and the messages that follow. -/
inductive BatchStage where
  /-- Log the call. -/
  | called
  /-- Read the status. -/
  | lookUp (message : StreamMessage) (parsed : List ParsedJob) (todo : List StreamMessage)
  /-- Read the cancellation flag. -/
  | pickUpFlag (message : StreamMessage) (parsed : List ParsedJob) (todo : List StreamMessage)
  /-- Write the cancelled status. -/
  | drop (message : StreamMessage) (parsed : List ParsedJob) (todo : List StreamMessage)
  /-- Acknowledge a message that is not accepted. -/
  | dismiss (message : StreamMessage) (parsed : List ParsedJob) (todo : List StreamMessage)
  /-- Clear the idle event. -/
  | busy (parsed : List ParsedJob)
  /-- Write an executing status. -/
  | mark (job : ParsedJob) (todo parsed : List ParsedJob)
  /-- Call `batch_run`. -/
  | run (parsed : List ParsedJob)
  /-- Create the delivery task. -/
  | spawn (parsed : List ParsedJob) (results : List ExecutionResult)
  /-- Process one message of the fallback. -/
  | process (message : StreamMessage) (stage : Stage) (rest : List StreamMessage)
  /-- The call has ended. -/
  | ended (outcome : Except Exc (Option Nat))

namespace BatchStage

/-- Go on with the parsing loop. -/
def parse (parsed : List ParsedJob) : List StreamMessage → BatchStage
  | [] => if parsed.isEmpty then .ended (.ok none) else .busy parsed
  | message :: todo =>
      match message.read with
      | .error exception => .ended (.error exception)
      | .ok none => .dismiss message parsed todo
      | .ok (some _) => .lookUp message parsed todo

/-- A job that is not cancelled is accepted if its circuit can be parsed. -/
def accept (self : Consumer) (message : StreamMessage) (parsed : List ParsedJob)
    (todo : List StreamMessage) : BatchStage :=
  match parseCircuit self message.job.decoded with
  | .error _ => .dismiss message parsed todo
  | .ok (ir, shots) =>
      parse (parsed ++ [⟨message.messageId, message.job.jobId, message.job.callbackUrl, ir, shots⟩]) todo

/-- Go on with the fallback. -/
def each : List StreamMessage → BatchStage
  | [] => .ended (.ok none)
  | message :: rest => .process message .called rest

/-- Go on with the executing writes. -/
def marking (self : Consumer) (messages : List StreamMessage) (parsed : List ParsedJob) :
    List ParsedJob → BatchStage
  | [] => if self.batchRunCallable then .run parsed else each messages
  | job :: todo => .mark job todo parsed

section Rows

variable (self : Consumer) (messages : List StreamMessage)

/-- The rows of the table for this batch. [SRC consumer.py:369-523] -/
inductive Move : BatchStage → (op : Op) → Except Exc op.Reply → BatchStage → Prop where
  | called {outcome} :
      Move .called (.note (.processBatch messages)) outcome
        (afterCall outcome (fun _ => parse [] messages) fun exception => .ended (.error exception))
  | lookUp {message parsed todo outcome} :
      Move (.lookUp message parsed todo) (.hgetState message.job.jobId) outcome
        (afterCall outcome
          (fun status =>
            if status = some .completed ∨ status = some .cancelled then .dismiss message parsed todo
            else .pickUpFlag message parsed todo)
          fun exception => .ended (.error exception))
  | pickUpFlag {message parsed todo outcome} :
      Move (.pickUpFlag message parsed todo) (.getCancelled message.job.jobId) outcome
        (afterCall outcome
          (fun flag =>
            if flag then .drop message parsed todo else accept self message parsed todo)
          fun exception => .ended (.error exception))
  | drop {message parsed todo now outcome} :
      Move (.drop message parsed todo)
        (.hset message.job.jobId
          { state := some .cancelled
            cancelledAt := some now
            messageId := some message.messageId
            qpuId := some self.qpuId })
        outcome
        (afterSafe outcome (.dismiss message parsed todo) fun exception => .ended (.error exception))
  | dismiss {message parsed todo outcome} :
      Move (.dismiss message parsed todo) (.xack message.messageId) outcome
        (afterSafe outcome (parse parsed todo) fun exception => .ended (.error exception))
  | busy {parsed} :
      Move (.busy parsed) (.modify fun attrs => { attrs with idle := false }) (.ok ())
        (marking self messages parsed parsed)
  | mark {job todo parsed now outcome} :
      Move (.mark job todo parsed)
        (.hset job.jobId
          { state := some .executing, startedAt := some now, qpuId := some self.qpuId })
        outcome
        (afterSafe outcome (marking self messages parsed todo)
          fun exception => .ended (.error exception))
  | run {parsed outcome} :
      Move (.run parsed) (.batchRun (batchJobs parsed)) outcome
        (afterCall outcome (.spawn parsed) fun exception =>
          if exception.isException then each messages else .ended (.error exception))
  | spawn {parsed results number} :
      Move (.spawn parsed results) (.createTask (.deliverBatch parsed results)) (.ok number)
        (.ended (.ok (some number)))
  | process {message stage rest op outcome later}
      (row : Stage.Move self message message.job stage op outcome later) :
      Move (.process message stage rest) op outcome
        (Stage.within (.process message · rest) (each rest)
          (fun exception => .ended (.error exception)) later)
  | clock {stage now} (inside : ∀ ending, stage ≠ .ended ending) : Move stage .utcNow (.ok now) stage

end Rows

theorem Move.inner {self : Consumer} {messages : List StreamMessage} {stage next : BatchStage}
    {op : Op} {outcome : Except Exc op.Reply} (row : Move self messages stage op outcome next) :
    op.Inner := by
  cases row with
  | busy => exact fun attrs => ⟨false, attrs.currentJobId, attrs.lastJobAt, rfl⟩
  | process row => exact row.inner
  | _ => trivial

theorem Move.ofBatch {self : Consumer} {messages : List StreamMessage} {stage next : BatchStage}
    {op : Op} {outcome : Except Exc op.Reply} (row : Move self messages stage op outcome next) :
    op.ofBatch = true := by
  cases row with
  | process row => exact Op.ofBatch_of_ofMessage row.ofMessage
  | _ => rfl

section Cases

variable {self : Consumer} {messages : List StreamMessage} {motive : BatchStage → Prop}

/-- The parsing loop has ended, or it looks at the next message. -/
theorem parse_cases {parsed : List ParsedJob} {todo : List StreamMessage}
    (idle : motive (.ended (.ok none))) (busy : motive (.busy parsed))
    (undecodable : ∀ exception, motive (.ended (.error exception)))
    (malformed : ∀ message rest, todo = message :: rest → message.read = .ok none →
      motive (.dismiss message parsed rest))
    (readable : ∀ message rest job, todo = message :: rest → message.read = .ok (some job) →
      motive (.lookUp message parsed rest)) :
    motive (parse parsed todo) := by
  cases todo with
  | nil =>
      simp only [parse]
      split
      · exact idle
      · exact busy
  | cons message rest =>
      simp only [parse]
      split
      · exact undecodable _
      · exact malformed message rest rfl ‹_›
      · exact readable message rest _ rfl ‹_›

/-- The fallback has ended, or it takes the next message. -/
theorem each_cases (ended : motive (.ended (.ok none)))
    (process : ∀ message rest, messages = message :: rest → motive (.process message .called rest)) :
    motive (each messages) := by
  cases messages with
  | nil => exact ended
  | cons message rest => exact process message rest rfl

/-- The executing writes have ended, or the next one follows. -/
theorem marking_cases {parsed todo : List ParsedJob} (run : motive (.run parsed))
    (fallback : motive (each messages))
    (mark : ∀ job rest, todo = job :: rest → motive (.mark job rest parsed)) :
    motive (marking self messages parsed todo) := by
  cases todo with
  | nil =>
      simp only [marking]
      split
      · exact run
      · exact fallback
  | cons job rest => exact mark job rest rfl

end Cases

/-- Where the rows outside the fallback lead, whatever the outcome. -/
inductive Leads (self : Consumer) (messages : List StreamMessage) : BatchStage → BatchStage → Prop where
  | called : Leads self messages .called (parse [] messages)
  | final {message parsed todo} :
      Leads self messages (.lookUp message parsed todo) (.dismiss message parsed todo)
  | unsettled {message parsed todo} :
      Leads self messages (.lookUp message parsed todo) (.pickUpFlag message parsed todo)
  | flagged {message parsed todo} :
      Leads self messages (.pickUpFlag message parsed todo) (.drop message parsed todo)
  | accepted {message parsed todo} :
      Leads self messages (.pickUpFlag message parsed todo) (accept self message parsed todo)
  | dropped {message parsed todo} :
      Leads self messages (.drop message parsed todo) (.dismiss message parsed todo)
  | dismissed {message parsed todo} :
      Leads self messages (.dismiss message parsed todo) (parse parsed todo)
  | busy {parsed} : Leads self messages (.busy parsed) (marking self messages parsed parsed)
  | marked {job todo parsed} :
      Leads self messages (.mark job todo parsed) (marking self messages parsed todo)
  | ran {parsed results} : Leads self messages (.run parsed) (.spawn parsed results)
  | fellBack {parsed} : Leads self messages (.run parsed) (each messages)
  | failed {stage exception} : Leads self messages stage (.ended (.error exception))
  | stayed {stage} : Leads self messages stage stage

/-- A row leads to one of these stages, creates the delivery task, or is a row of the fallback. -/
theorem Move.leads {self : Consumer} {messages : List StreamMessage} {stage next : BatchStage} {op : Op}
    {outcome : Except Exc op.Reply} (row : Move self messages stage op outcome next) :
    Leads self messages stage next ∨
      (∃ parsed results number, stage = .spawn parsed results ∧
        op = .createTask (.deliverBatch parsed results) ∧ HEq outcome (.ok number : Except Exc Nat) ∧
        next = .ended (.ok (some number))) ∨
      ∃ message inner rest later, stage = .process message inner rest ∧
        Stage.Move self message message.job inner op outcome later ∧
        next = Stage.within (.process message · rest) (each rest)
          (fun exception => .ended (.error exception)) later := by
  have safely {stage next : BatchStage} (outcome : Except Exc Unit) (leads : Leads self messages stage next) :
      Leads self messages stage
        (afterSafe outcome next fun exception => .ended (.error exception)) := by
    cases outcome with
    | ok value => exact leads
    | error exception =>
        simp only [afterSafe]
        split
        · exact leads
        · exact .failed
  cases row with
  | @called outcome =>
      left
      cases outcome with
      | ok value => exact .called
      | error exception => exact .failed
  | @lookUp _ _ _ outcome =>
      left
      cases outcome with
      | ok status =>
          simp only [afterCall]
          split
          · exact .final
          · exact .unsettled
      | error exception => exact .failed
  | @pickUpFlag _ _ _ outcome =>
      left
      cases outcome with
      | ok flag =>
          cases flag with
          | true => exact .flagged
          | false => exact .accepted
      | error exception => exact .failed
  | @drop _ _ _ _ outcome => exact .inl (safely outcome .dropped)
  | @dismiss _ _ _ outcome => exact .inl (safely outcome .dismissed)
  | busy => exact .inl .busy
  | @mark _ _ _ _ outcome => exact .inl (safely outcome .marked)
  | @run _ outcome =>
      left
      cases outcome with
      | ok results => exact .ran
      | error exception =>
          simp only [afterCall]
          split
          · exact .fellBack
          · exact .failed
  | spawn => exact .inr (.inl ⟨_, _, _, rfl, rfl, .rfl, rfl⟩)
  | process row => exact .inr (.inr ⟨_, _, _, _, rfl, row, rfl⟩)
  | clock => exact .inl .stayed

/-- Nothing but the start of the call leads there. -/
theorem Leads.called_of {self : Consumer} {messages : List StreamMessage} {stage next : BatchStage}
    (leads : Leads self messages stage next) (target : next = .called) : stage = .called := by
  have never {parsed : List ParsedJob} {todo : List StreamMessage} : parse parsed todo ≠ .called := by
    apply parse_cases (motive := fun stage => stage ≠ .called) <;> simp
  have replay : each messages ≠ .called := by
    apply each_cases (motive := fun stage => stage ≠ .called) <;> simp
  have mark {parsed todo : List ParsedJob} : marking self messages parsed todo ≠ .called := by
    apply marking_cases (motive := fun stage => stage ≠ .called) (by simp) replay
    simp
  cases leads with
  | stayed => exact target
  | called | dismissed => exact absurd target never
  | accepted =>
      unfold accept at target
      split at target
      · cases target
      · exact absurd target never
  | busy | marked => exact absurd target mark
  | fellBack => exact absurd target replay
  | _ => cases target

/-- No row leads back to the start of the call. -/
theorem Move.called_of {self : Consumer} {messages : List StreamMessage} {stage : BatchStage}
    {op : Op} {outcome : Except Exc op.Reply} (row : Move self messages stage op outcome .called) :
    stage = .called ∧ op.logged = false := by
  have start : stage = .called := by
    rcases row.leads with leads | ⟨_, _, _, -, -, -, target⟩ | ⟨message, inner, rest, later, -, -, target⟩
    · exact leads.called_of rfl
    · cases target
    · refine absurd target.symm ?_
      apply Stage.within_cases (motive := fun stage => stage ≠ BatchStage.called)
      · exact fun _ away => by cases away
      · exact fun _ => by apply each_cases (motive := fun stage => stage ≠ .called) <;> simp
      · exact fun _ _ away => by cases away
  have silent {next : BatchStage} (row : Move self messages .called op outcome next)
      (target : next = .called) : op.logged = false := by
    cases row with
    | clock => rfl
    | @called outcome =>
        cases outcome with
        | ok value =>
            refine absurd target ?_
            apply parse_cases (motive := fun stage => stage ≠ .called) <;> simp
        | error exception => cases target
  subst start
  exact ⟨rfl, silent row rfl⟩

theorem Move.not_ended {self : Consumer} {messages : List StreamMessage}
    {next : BatchStage} {op : Op} {outcome : Except Exc op.Reply}
    {ending : Except Exc (Option Nat)} (row : Move self messages (.ended ending) op outcome next) :
    False := by
  cases row with
  | clock inside => exact inside ending rfl

/-- A delivery task is returned only by the row that creates it. -/
theorem Move.delivers {self : Consumer} {messages : List StreamMessage} {stage next : BatchStage}
    {op : Op} {outcome : Except Exc op.Reply} (row : Move self messages stage op outcome next)
    (other : ∀ spec, op ≠ .createTask spec) (number : Nat) : next ≠ .ended (.ok (some number)) := by
  have parsing {parsed : List ParsedJob} {todo : List StreamMessage} :
      parse parsed todo ≠ .ended (.ok (some number)) := by
    apply parse_cases (motive := fun stage => stage ≠ .ended (.ok (some number))) <;> simp
  have replay {messages : List StreamMessage} : each messages ≠ .ended (.ok (some number)) := by
    apply each_cases (motive := fun stage => stage ≠ .ended (.ok (some number))) <;> simp
  have mark {parsed todo : List ParsedJob} :
      marking self messages parsed todo ≠ .ended (.ok (some number)) := by
    apply marking_cases (motive := fun stage => stage ≠ .ended (.ok (some number))) (by simp) replay
    simp
  rcases row.leads with leads | ⟨_, _, _, -, spawns, -, -⟩ | ⟨message, inner, rest, later, -, -, rfl⟩
  · cases leads with
    | stayed =>
        rintro rfl
        exact row.not_ended
    | called | dismissed => exact parsing
    | accepted =>
        unfold accept
        split
        · simp
        · exact parsing
    | busy | marked => exact mark
    | fellBack => exact replay
    | _ => simp
  · exact absurd spawns (other _)
  · apply Stage.within_cases (motive := fun stage => stage ≠ BatchStage.ended (.ok (some number)))
    · simp
    · exact fun _ => replay
    · simp

/-- A stage of a batch inside another table. -/
def within {S : Type} (lift : BatchStage → S) (returned : Option Nat → S)
    (raised : Exc → S) : BatchStage → S
  | .ended (.ok delivery) => returned delivery
  | .ended (.error exception) => raised exception
  | stage => lift stage

/-- Either the batch goes on or it has ended. -/
theorem within_cases {S : Type} {lift : BatchStage → S} {returned : Option Nat → S}
    {raised : Exc → S} {motive : S → Prop} {stage : BatchStage}
    (inside : (∀ ending, stage ≠ .ended ending) → motive (lift stage))
    (returns : ∀ delivery, stage = .ended (.ok delivery) → motive (returned delivery))
    (raises : ∀ exception, stage = .ended (.error exception) → motive (raised exception)) :
    motive (within lift returned raised stage) := by
  cases stage with
  | ended ending =>
      cases ending with
      | ok delivery => exact returns delivery rfl
      | error exception => exact raises exception rfl
  | _ => exact inside (fun _ same => by cases same)

end BatchStage

section Follows

variable {self : Consumer} {messages : List StreamMessage}

theorem BatchStage.each_follows (rest : List StreamMessage) :
    Follows (BatchStage.Move self messages) (fun _ later => later = .ended (.ok none))
      (fun exception later => later = .ended (.error exception))
      (Coro.forEach rest (processEntry self)) (BatchStage.each rest) := by
  have rounds : Follows (BatchStage.Move self messages) (fun _ later => later = BatchStage.each [])
      (fun exception later => later = .ended (.error exception))
      (Coro.forEach rest (processEntry self)) (BatchStage.each rest) :=
    Coro.Tracks.forEach BatchStage.each fun message others =>
      Stage.processEntry_follows (BatchStage.process message · others) BatchStage.Move.process
  exact rounds

private theorem parseBatchMessage_follows (values : List (Option ParsedJob)) (message : StreamMessage)
    (todo : List StreamMessage) :
    Follows (BatchStage.Move self messages)
      (fun value later => later = BatchStage.parse (values ++ [value]).reduceOption todo)
      (fun exception later => later = .ended (.error exception)) (parseBatchMessage self message)
      (BatchStage.parse values.reduceOption (message :: todo)) := by
  have skipped : BatchStage.parse (values ++ [none]).reduceOption todo =
      BatchStage.parse values.reduceOption todo := by
    rw [List.reduceOption_append, List.reduceOption_singleton]
    simp
  have dismissed : Follows (BatchStage.Move self messages)
      (fun value later => later = BatchStage.parse (values ++ [value]).reduceOption todo)
      (fun exception later => later = .ended (.error exception))
      (do
        discard (safeXack message.messageId)
        return none)
      (.dismiss message values.reduceOption todo) := by
    refine (Follows.safeXack fun _ => .dismiss).bind ?_
    rintro _ later rfl
    exact skipped.symm
  simp only [BatchStage.parse, StreamMessage.read]
  cases decoding : decodeFields message.fields with
  | error exception =>
      simp only [parseBatchMessage, decoding]
      rfl
  | ok decoded =>
      simp only [parseBatchMessage, decoding, Coro.ofExcept, Coro.ret_bind]
      cases required : requiredFields decoded with
      | error exception => exact dismissed
      | ok fields =>
          obtain ⟨jobId, callbackUrl⟩ := fields
          have job : message.job = ⟨message.messageId, jobId, callbackUrl, decoded⟩ := by
            apply StreamMessage.job_of_read
            simp only [StreamMessage.read, decoding, required]
          have sameId : jobId = message.job.jobId := by rw [job]
          have sameUrl : callbackUrl = message.job.callbackUrl := by rw [job]
          have sameFields : decoded = message.job.decoded := by rw [job]
          rw [sameId, sameUrl, sameFields]
          refine Follows.call_bind (fun _ => .lookUp) (fun status => ?_) fun _ => rfl
          by_cases final : status = some .completed ∨ status = some .cancelled
          · simp only [afterCall, final, if_true]
            exact dismissed
          · simp only [afterCall, final, if_false]
            refine Follows.call_bind (fun _ => .pickUpFlag) (fun flag => ?_) fun _ => rfl
            cases flag with
            | true =>
                refine (Follows.markJobCancelled (fun _ => .clock (by simp [afterCall])) fun _ => .drop).bind ?_
                rintro _ later rfl
                exact dismissed
            | false =>
                simp only [afterCall, BatchStage.accept]
                cases parseCircuit self message.job.decoded with
                | error exception => exact dismissed
                | ok circuit =>
                    obtain ⟨ir, shots⟩ := circuit
                    have accepted : (values ++ [some
                          (⟨message.messageId, message.job.jobId, message.job.callbackUrl, ir,
                            shots⟩ : ParsedJob)]).reduceOption =
                        values.reduceOption ++
                          [⟨message.messageId, message.job.jobId, message.job.callbackUrl, ir,
                            shots⟩] := by
                      rw [List.reduceOption_append, List.reduceOption_singleton]
                      rfl
                    exact congrArg (BatchStage.parse · todo) accepted.symm

private theorem markBatch_follows (parsed : List ParsedJob) :
    Follows (BatchStage.Move self messages)
      (fun _ later => later = BatchStage.marking self messages parsed [])
      (fun exception later => later = .ended (.error exception))
      (Coro.forEach parsed (markBatchExecuting self))
      (BatchStage.marking self messages parsed parsed) := by
  refine Coro.Tracks.forEach (BatchStage.marking self messages parsed) fun job todo => ?_
  refine Follows.answered_bind rfl "" (fun _ => .clock (by simp [BatchStage.marking])) fun now => ?_
  exact Follows.safeHset fun _ => .mark

private theorem runBatch_follows (parsed : List ParsedJob) :
    Follows (BatchStage.Move self messages) (fun value later => later = .ended (.ok value))
      (fun exception later => later = .ended (.error exception)) (runBatch self messages parsed)
      (BatchStage.parse parsed []) := by
  have fallback : Follows (BatchStage.Move self messages)
      (fun value later => later = .ended (.ok value))
      (fun exception later => later = .ended (.error exception))
      (do
        Coro.forEach messages (processEntry self)
        return none) (BatchStage.each messages) :=
    (BatchStage.each_follows messages).bind fun _ _ reached => reached
  unfold runBatch BatchStage.parse
  cases parsed.isEmpty with
  | true => rfl
  | false =>
      refine Follows.answered_bind rfl () (fun _ => .busy) fun _ => ?_
      refine (markBatch_follows parsed).bind ?_
      rintro _ later rfl
      unfold BatchStage.marking
      cases self.batchRunCallable with
      | false => exact fallback
      | true =>
          refine Coro.Tracks.handle ((Follows.call fun _ => .run).imp ?_ ?_)
          · rintro results later rfl
            exact Follows.answered_bind rfl 0 (fun _ => .spawn) fun _ => rfl
          · rintro exception later rfl
            simp only [afterCall]
            cases exception.isException with
            | true => exact fallback
            | false => rfl

/-- `_process_batch` follows its table. -/
theorem processBatch_follows :
    Follows (BatchStage.Move self messages) (fun value later => later = .ended (.ok value))
      (fun exception later => later = .ended (.error exception)) (processBatch self messages)
      .called := by
  refine Follows.call_bind (fun _ => .called) (fun _ => ?_) fun _ => rfl
  have rounds : Follows (BatchStage.Move self messages)
      (fun values later => later = BatchStage.parse (([] ++ values).reduceOption) [])
      (fun exception later => later = .ended (.error exception))
      (Coro.collect messages (parseBatchMessage self))
      (BatchStage.parse ([] : List (Option ParsedJob)).reduceOption messages) :=
    Coro.Tracks.collect (fun values todo => BatchStage.parse (List.reduceOption values) todo)
      parseBatchMessage_follows []
  refine rounds.bind ?_
  rintro values later rfl
  exact runBatch_follows values.reduceOption

end Follows

end CodaNode
