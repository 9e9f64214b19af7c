/-
Module: CodaNode.Protocol.BatchCourse
Layer: Protocol
Purpose: The deeds of `_process_batch` and `recover_pending` while only the fetching of messages can
  fail: the messages sifted, the executing writes, the outcome of `batch_run`, and the calls of
  `_process_message` one after another.
Imports: CodaNode.Protocol.Course
Main exports: Sifted, Replayed, BatchStage.Course, BatchStage.Course.row
-/
import CodaNode.Protocol.Course

namespace CodaNode

open Coroutine

/-- The job of a message with a circuit. -/
def StreamMessage.parsed (message : StreamMessage) (ir : NativeGateIR) (shots : Int) : ParsedJob :=
  ⟨message.messageId, message.job.jobId, message.job.callbackUrl, ir, shots⟩

theorem StreamMessage.job_messageId (message : StreamMessage) :
    message.job.messageId = message.messageId := by
  unfold StreamMessage.job
  split
  · rename_i job reading
    unfold StreamMessage.read at reading
    split at reading
    · cases reading
    · split at reading
      · cases reading
      · cases reading
        rfl
  · rfl

section Parts

variable (self : Consumer) (flags : String → Bool)

/-- A message of a batch that is not accepted, up to its acknowledgement. -/
inductive Passed (message : StreamMessage) : List Deed → Prop where
  | malformed (reading : message.read = .ok none) : Passed message []
  | final {state : Option JobState} (reading : message.read = .ok (some message.job))
      (final : state = some .completed ∨ state = some .cancelled) :
      Passed message [.saw message.job.jobId state]
  | dropped {state : Option JobState} (reading : message.read = .ok (some message.job))
      (unsettled : Unsettled state) :
      Passed message
        [.saw message.job.jobId state, .flagged message.job.jobId, Stage.wroteCancelled self message]
  | unparsed {state : Option JobState} {exception : Exc}
      (reading : message.read = .ok (some message.job)) (unsettled : Unsettled state)
      (clear : flags message.job.jobId = false)
      (failed : parseCircuit self message.job.decoded = .error exception) :
      Passed message [.saw message.job.jobId state]

/-- The parsing loop has gone through these messages and accepted these jobs. -/
inductive Sifted : List StreamMessage → List ParsedJob → List Deed → Prop where
  | nil : Sifted [] [] []
  | passed {done : List StreamMessage} {message : StreamMessage} {parsed : List ParsedJob}
      {here more : List Deed} (sifted : Sifted done parsed here) (passed : Passed self flags message more) :
      Sifted (done ++ [message]) parsed (here ++ more ++ [.acked message.messageId])
  | accepted {done : List StreamMessage} {message : StreamMessage} {parsed : List ParsedJob}
      {here : List Deed} {state : Option JobState} {ir : NativeGateIR} {shots : Int}
      (sifted : Sifted done parsed here) (reading : message.read = .ok (some message.job))
      (unsettled : Unsettled state) (clear : flags message.job.jobId = false)
      (parses : parseCircuit self message.job.decoded = .ok (ir, shots)) :
      Sifted (done ++ [message]) (parsed ++ [message.parsed ir shots])
        (here ++ [.saw message.job.jobId state])

/-- These messages have been processed one after another. -/
inductive Replayed : List StreamMessage → List Deed → Prop where
  | nil : Replayed [] []
  | served {done : List StreamMessage} {message : StreamMessage} {here more : List Deed}
      (replayed : Replayed done here) (served : Stage.Served self flags message more) :
      Replayed (done ++ [message]) (here ++ more)

/-- The executing status of a job in a batch. -/
def marked (job : ParsedJob) : Deed :=
  .wrote job.jobId { state := some .executing, startedAt := some "", qpuId := some self.qpuId }

/-- A batch that is processed message by message: `batch_run` has failed or is gone. -/
inductive Attempted (parsed : List ParsedJob) : List Deed → Prop where
  | failed {exception : Exc} (callable : self.batchRunCallable = true) :
      Attempted parsed [.batchRan (batchJobs parsed) (.error exception)]
  | gone (gone : self.batchRunCallable = false) : Attempted parsed []

end Parts

theorem Sifted.read {self : Consumer} {flags : String → Bool} {done : List StreamMessage} {parsed : List ParsedJob}
    {here : List Deed} (sifted : Sifted self flags done parsed here) :
    ∀ message ∈ done, ∃ found, message.read = .ok found := by
  induction sifted with
  | nil => exact fun message member => by cases member
  | @passed _ last _ _ _ _ passed inductionHypothesis =>
      intro message member
      rcases List.mem_append.mp member with old | new
      · exact inductionHypothesis message old
      · rw [List.mem_singleton.mp new]
        cases passed <;> exact ⟨_, ‹_›⟩
  | accepted _ reading _ _ _ inductionHypothesis =>
      intro message member
      rcases List.mem_append.mp member with old | new
      · exact inductionHypothesis message old
      · rw [List.mem_singleton.mp new]
        exact ⟨_, reading⟩

namespace BatchStage

section Course

variable (self : Consumer) (flags : String → Bool) (messages : List StreamMessage)

/-- The batch has been sifted, at least one job was accepted, and all have been marked. -/
inductive Marked (parsed : List ParsedJob) : List Deed → Prop where
  | mk {sifting : List Deed} (sifted : Sifted self flags messages parsed sifting) (some_ : parsed ≠ []) :
      Marked parsed (.calledBatch messages :: sifting ++ parsed.map (marked self))

/-- The deeds of a batch that is at this stage. -/
inductive Course : BatchStage → List Deed → Prop where
  | called : Course .called []
  | lookUp {done todo : List StreamMessage} {message : StreamMessage} {parsed : List ParsedJob}
      {sifting : List Deed} (split : messages = done ++ message :: todo)
      (sifted : Sifted self flags done parsed sifting) (reading : message.read = .ok (some message.job)) :
      Course (.lookUp message parsed todo) (.calledBatch messages :: sifting)
  | pickUpFlag {done todo : List StreamMessage} {message : StreamMessage} {parsed : List ParsedJob}
      {sifting : List Deed} {state : Option JobState} (split : messages = done ++ message :: todo)
      (sifted : Sifted self flags done parsed sifting) (reading : message.read = .ok (some message.job))
      (unsettled : Unsettled state) :
      Course (.pickUpFlag message parsed todo)
        (.calledBatch messages :: sifting ++ [.saw message.job.jobId state])
  | drop {done todo : List StreamMessage} {message : StreamMessage} {parsed : List ParsedJob}
      {sifting : List Deed} {state : Option JobState} (split : messages = done ++ message :: todo)
      (sifted : Sifted self flags done parsed sifting) (reading : message.read = .ok (some message.job))
      (unsettled : Unsettled state) :
      Course (.drop message parsed todo)
        (.calledBatch messages :: sifting ++
          [.saw message.job.jobId state, .flagged message.job.jobId])
  | dismiss {done todo : List StreamMessage} {message : StreamMessage} {parsed : List ParsedJob}
      {sifting more : List Deed} (split : messages = done ++ message :: todo)
      (sifted : Sifted self flags done parsed sifting) (passed : Passed self flags message more) :
      Course (.dismiss message parsed todo) (.calledBatch messages :: sifting ++ more)
  | busy {parsed : List ParsedJob} {sifting : List Deed} (sifted : Sifted self flags messages parsed sifting)
      (some_ : parsed ≠ []) : Course (.busy parsed) (.calledBatch messages :: sifting)
  | mark {parsed front todo : List ParsedJob} {job : ParsedJob} {sifting : List Deed}
      (sifted : Sifted self flags messages parsed sifting) (split : parsed = front ++ job :: todo) :
      Course (.mark job todo parsed)
        (.calledBatch messages :: sifting ++ front.map (CodaNode.marked self))
  | run {parsed : List ParsedJob} {here : List Deed} (marked : Marked self flags messages parsed here)
      (callable : self.batchRunCallable = true) : Course (.run parsed) here
  | spawn {parsed : List ParsedJob} {results : List ExecutionResult} {here : List Deed}
      (marked : Marked self flags messages parsed here) :
      Course (.spawn parsed results) (here ++ [.batchRan (batchJobs parsed) (.ok results)])
  | process {parsed : List ParsedJob} {done rest : List StreamMessage} {message : StreamMessage}
      {stage : Stage} {here attempt replay more : List Deed} (marked : Marked self flags messages parsed here)
      (attempted : Attempted self parsed attempt) (split : messages = done ++ message :: rest)
      (replayed : Replayed self flags done replay) (course : Stage.Course self flags message stage more) :
      Course (.process message stage rest) (here ++ attempt ++ replay ++ more)
  | undecodable {done todo : List StreamMessage} {message : StreamMessage} {parsed : List ParsedJob}
      {sifting : List Deed} {exception : Exc} (split : messages = done ++ message :: todo)
      (sifted : Sifted self flags done parsed sifting) (reading : message.read = .error exception) :
      Course (.ended (.error exception)) (.calledBatch messages :: sifting)
  | idle {sifting : List Deed} (sifted : Sifted self flags messages [] sifting) :
      Course (.ended (.ok none)) (.calledBatch messages :: sifting)
  | replayed {parsed : List ParsedJob} {here attempt replay : List Deed}
      (marked : Marked self flags messages parsed here) (attempted : Attempted self parsed attempt)
      (replayed : Replayed self flags messages replay) :
      Course (.ended (.ok none)) (here ++ attempt ++ replay)
  | handed {parsed : List ParsedJob} {results : List ExecutionResult} {here : List Deed} {number : Nat}
      (marked : Marked self flags messages parsed here) :
      Course (.ended (.ok (some number)))
        (here ++
          [.batchRan (batchJobs parsed) (.ok results), .created (.deliverBatch parsed results) number])

end Course

variable {self : Consumer} {policy : Policy} {flags : String → Bool} {messages : List StreamMessage}
variable {stage later : BatchStage}
variable {world next : World} {here : List Deed}

theorem course_parse {done todo : List StreamMessage} {parsed : List ParsedJob} {sifting : List Deed}
    (split : messages = done ++ todo) (sifted : Sifted self flags done parsed sifting) :
    Course self flags messages (parse parsed todo) (.calledBatch messages :: sifting) := by
  cases todo with
  | nil =>
      rw [List.append_nil] at split
      subst split
      cases parsed with
      | nil => exact .idle sifted
      | cons job rest => exact .busy sifted (List.cons_ne_nil job rest)
  | cons message todo =>
      simp only [parse]
      split
      · rename_i exception reading
        exact .undecodable split sifted reading
      · rename_i reading
        have course := Course.dismiss split sifted (Passed.malformed reading)
        rw [List.append_nil] at course
        exact course
      · rename_i job reading
        exact .lookUp split sifted (by rw [StreamMessage.job_of_read reading, reading])

theorem course_each {done rest : List StreamMessage} {parsed : List ParsedJob}
    {attempt replay : List Deed} (marked : Marked self flags messages parsed here)
    (attempted : Attempted self parsed attempt) (split : messages = done ++ rest)
    (replayed : Replayed self flags done replay) :
    Course self flags messages (each rest) (here ++ attempt ++ replay) := by
  cases rest with
  | nil =>
      rw [List.append_nil] at split
      subst split
      exact .replayed marked attempted replayed
  | cons message rest =>
      have course := Course.process marked attempted split replayed Stage.Course.called
      rw [List.append_nil] at course
      exact course

theorem course_marking {parsed front todo : List ParsedJob} {sifting : List Deed}
    (sifted : Sifted self flags messages parsed sifting) (some_ : parsed ≠ []) (split : parsed = front ++ todo) :
    Course self flags messages (marking self messages parsed todo)
      (.calledBatch messages :: sifting ++ front.map (marked self)) := by
  cases todo with
  | nil =>
      rw [List.append_nil] at split
      subst split
      have marked := Marked.mk sifted some_
      simp only [marking]
      split
      · rename_i callable
        exact .run marked callable
      · rename_i gone
        have course := course_each marked (.gone (Bool.eq_false_iff.mpr gone))
          (List.nil_append messages).symm .nil
        rw [List.append_nil, List.append_nil] at course
        exact course
  | cons job todo => exact .mark sifted split

/-- Every row adds its deed. -/
theorem Course.row (undisturbed : policy.Undisturbed) {op : Op} {outcome : Except Exc op.Reply}
    {fate : Fate} (row : Move self messages stage op outcome later)
    (performs : World.Performs policy world op outcome fate next)
    (clears : ∀ job, world.redis.cancelled job = false → flags job = false)
    (foreign : RunForeign world.runTask) (sound : stage.Sound world.runTask)
    (course : Course self flags messages stage here) :
    Course self flags messages later (here ++ (op.deed outcome).toList) := by
  cases row with
  | called =>
      cases course
      obtain ⟨value, rfl⟩ := World.feasible_of_performs performs rfl
      exact course_parse (List.nil_append messages).symm .nil
  | @lookUp message parsed todo =>
      obtain ⟨rfl, -, -⟩ := World.hgetState_answered undisturbed performs
      cases course with
      | lookUp split sifted reading =>
          simp only [afterCall]
          split
          · rename_i final
            exact .dismiss split sifted (.final reading final)
          · rename_i unsettled
            exact .pickUpFlag split sifted reading (not_or.mp unsettled)
  | @pickUpFlag message parsed todo =>
      obtain ⟨rfl, -, rfl⟩ := World.getCancelled_answered undisturbed performs
      cases course with
      | pickUpFlag split sifted reading unsettled =>
          cases flag : next.redis.cancelled message.job.jobId with
          | true =>
              rw [List.append_assoc]
              exact .drop split sifted reading unsettled
          | false =>
              simp only [afterCall, Bool.false_eq_true, if_false, Op.deed, Option.toList_none,
                List.append_nil, accept]
              split
              · rename_i exception failed
                exact .dismiss split sifted (.unparsed reading unsettled (clears _ flag) failed)
              · rename_i ir shots parses
                refine course_parse ?_ (.accepted sifted reading unsettled (clears _ flag) parses)
                rw [split, List.append_assoc, List.singleton_append]
  | drop =>
      obtain ⟨rfl, -, rfl⟩ := World.hset_answered undisturbed performs
      cases course with
      | drop split sifted reading unsettled =>
          have passed : Passed self flags _ _ := .dropped reading unsettled
          rw [Stage.wroteCancelled, StreamMessage.job_messageId] at passed
          rw [List.append_assoc]
          exact .dismiss split sifted passed
  | dismiss =>
      obtain ⟨rfl, -, rfl⟩ := World.xack_answered undisturbed performs
      cases course with
      | dismiss split sifted passed =>
          refine course_parse ?_ (.passed sifted passed)
          rw [split, List.append_assoc, List.singleton_append]
  | busy =>
      cases course with
      | busy sifted some_ =>
          have marking := course_marking sifted some_ (List.nil_append _).symm
          simpa [Op.deed] using marking
  | @mark job todo parsed =>
      obtain ⟨rfl, -, rfl⟩ := World.hset_answered undisturbed performs
      cases course with
      | mark sifted split =>
          rename_i front sifting
          have grown : parsed = (front ++ [job]) ++ todo := by
            rw [split, List.append_assoc, List.singleton_append]
          have marking := course_marking sifted (by rw [split]; simp) grown
          rw [List.map_append, ← List.append_assoc] at marking
          exact marking
  | @run parsed outcome =>
      obtain ⟨rfl, -, -, ordinary⟩ :=
        World.outward_answered undisturbed performs (.inr (.inl ⟨_, rfl⟩))
      cases course with
      | run marked callable =>
          cases outcome with
          | ok results => exact .spawn marked
          | error exception =>
              simp only [afterCall, Exc.isException_of_isOrdinary (ordinary exception rfl), if_true]
              have attempted : Attempted self parsed
                  [.batchRan (batchJobs parsed) (.error exception)] := .failed callable
              have course := course_each marked attempted (List.nil_append messages).symm .nil
              rw [List.append_nil] at course
              exact course
  | spawn =>
      cases course with
      | spawn marked =>
          rw [List.append_assoc]
          exact .handed marked
  | @process message stage rest _ _ later row =>
      cases course with
      | @process _ done _ _ _ _ _ _ _ marked attempted split replayed course =>
          have moved := Stage.Course.row undisturbed row performs clears foreign sound course
          rw [List.append_assoc _ _ (Option.toList _)]
          cases later with
          | ended ending =>
              cases ending with
              | ok value =>
                  cases moved with
                  | ended served =>
                      have grown : messages = (done ++ [message]) ++ rest := by
                        rw [split, List.append_assoc, List.singleton_append]
                      have course := course_each marked attempted grown (.served replayed served)
                      rw [← List.append_assoc] at course
                      exact course
              | error exception =>
                  cases marked with
                  | mk sifted some_ =>
                      obtain ⟨found, read⟩ := sifted.read message (by rw [split]; simp)
                      generalize _ ++ (op.deed outcome).toList = more at moved
                      cases moved with
                      | undecodable reading =>
                          rw [read] at reading
                          cases reading
          | _ => exact .process marked attempted split replayed moved
  | clock =>
      simp only [Op.deed, Option.toList_none, List.append_nil]
      exact course

end BatchStage

/-! ### A recovery -/

/-- A recovery has gone through these ids. Those that are still in the stream have been processed. -/
inductive Recovered (self : Consumer) (flags : String → Bool) : List String → List Deed → Prop where
  | nil : Recovered self flags [] []
  | trimmed {ids : List String} {here : List Deed} (messageId : String) (recovered : Recovered self flags ids here) :
      Recovered self flags (ids ++ [messageId]) (here ++ [.fetched messageId []])
  | served {ids : List String} {here more : List Deed} {messageId : String} {message : StreamMessage}
      {others : List StreamMessage} (recovered : Recovered self flags ids here)
      (served : Stage.Served self flags ⟨messageId, message.fields⟩ more) :
      Recovered self flags (ids ++ [messageId]) (here ++ .fetched messageId (message :: others) :: more)

namespace RecoveryStage

/-- The deeds of a recovery that is at this stage. -/
inductive Course (self : Consumer) (flags : String → Bool) : RecoveryStage → List Deed → Prop where
  | query : Course self flags .query []
  | fetch {ids rest : List String} {messageId : String} {here : List Deed}
      (recovered : Recovered self flags ids here) :
      Course self flags (.fetch messageId rest) (.queried (ids ++ messageId :: rest) :: here)
  | process {ids rest : List String} {messageId : String} {message : StreamMessage}
      {others : List StreamMessage} {stage : Stage} {here more : List Deed}
      (recovered : Recovered self flags ids here)
      (course : Stage.Course self flags ⟨messageId, message.fields⟩ stage more) :
      Course self flags (.process ⟨messageId, message.fields⟩ stage rest)
        (.queried (ids ++ messageId :: rest) :: here ++ .fetched messageId (message :: others) :: more)
  | undecodable {ids rest : List String} {messageId : String} {message : StreamMessage}
      {others : List StreamMessage} {here : List Deed} {exception : Exc}
      (recovered : Recovered self flags ids here)
      (reading : StreamMessage.read ⟨messageId, message.fields⟩ = .error exception) :
      Course self flags (.ended (.error exception))
        (.queried (ids ++ messageId :: rest) :: here ++
          [.fetched messageId (message :: others), .called ⟨messageId, message.fields⟩])
  | ended {ids : List String} {here : List Deed} (recovered : Recovered self flags ids here) :
      Course self flags (.ended (.ok ())) (.queried ids :: here)

variable {self : Consumer} {policy : Policy} {flags : String → Bool} {stage later : RecoveryStage}
variable {world next : World} {here : List Deed}

theorem course_next {ids rest : List String} (recovered : Recovered self flags ids here) :
    Course self flags (RecoveryStage.next rest) (.queried (ids ++ rest) :: here) := by
  cases rest with
  | nil =>
      rw [List.append_nil]
      exact .ended recovered
  | cons messageId rest => exact .fetch recovered

/-- Every row adds its deed. -/
theorem Course.row (calm : policy.Calm) {op : Op} {outcome : Except Exc op.Reply} {fate : Fate}
    (row : Move self stage op outcome later) (performs : World.Performs policy world op outcome fate next)
    (clears : ∀ job, world.redis.cancelled job = false → flags job = false)
    (foreign : RunForeign world.runTask) (sound : stage.Sound world.runTask)
    (course : Course self flags stage here) : Course self flags later (here ++ (op.deed outcome).toList) := by
  cases row with
  | query =>
      obtain ⟨rfl, -, -⟩ := World.xpendingRange_answered calm performs
      cases course
      exact course_next Recovered.nil
  | @fetch messageId rest =>
      obtain ⟨rfl, -, -⟩ := World.xrange_answered calm performs
      cases course with
      | @fetch ids _ _ here recovered =>
          generalize world.redis.stream.filter _ = messages
          have grown : ids ++ messageId :: rest = (ids ++ [messageId]) ++ rest := by
            rw [List.append_assoc, List.singleton_append]
          cases messages with
          | nil =>
              rw [grown]
              exact course_next (.trimmed messageId recovered)
          | cons message others => exact .process recovered .called
  | @process message stage rest _ _ later row =>
      cases course with
      | @process ids _ messageId message others _ here more recovered course =>
          have moved := Stage.Course.row calm.undisturbed row performs clears foreign sound course
          have grown : ids ++ messageId :: rest = (ids ++ [messageId]) ++ rest := by
            rw [List.append_assoc, List.singleton_append]
          simp only [List.append_assoc, List.cons_append]
          cases later with
          | ended ending =>
              generalize more ++ (op.deed outcome).toList = segment at moved
              cases ending with
              | ok value =>
                  cases moved with
                  | ended served =>
                      rw [grown]
                      exact course_next (.served recovered served)
              | error exception =>
                  cases moved with
                  | undecodable reading => exact .undecodable recovered reading
          | _ => exact .process recovered moved

end RecoveryStage

end CodaNode
