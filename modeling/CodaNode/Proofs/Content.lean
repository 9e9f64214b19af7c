/-
Module: CodaNode.Proofs.Content
Layer: Proofs
Purpose: What the content of a message can do to the methods that process it. Nothing fails, and the
  executor keeps its contract; then a message that is text harms nobody, whatever the text is, and one that
  is not text ends the call and takes the messages behind it along.
Imports: CodaNode.Proofs.PendingPage, CodaNode.Protocol.Account
Main exports: StreamMessage.WellFormed, Handled, contentHarmless_iff
-/
import CodaNode.Proofs.PendingPage
import CodaNode.Protocol.Account

namespace CodaNode

open Coroutine

/-- Nothing fails, and `batch_run` raises or returns one result for each job. -/
def Policy.dutiful : Policy where
  fault _ _ := False
  reply
    | .batchRun jobs, .ok results => results.length = jobs.length
    | _, _ => True
  env _ := True

theorem Policy.dutiful_calm : Policy.dutiful.Calm := fun _ _ admitted => admitted

/-- The fields of the message are text. -/
def StreamMessage.Decodable (message : StreamMessage) : Prop :=
  ∃ decoded, decodeFields message.fields = .ok decoded

/-- The message carries a job with this circuit. -/
def StreamMessage.Carries (self : Consumer) (message : StreamMessage) (ir : NativeGateIR) (shots : Int) :
    Prop :=
  message.read = .ok (some message.job) ∧ parseCircuit self message.job.decoded = .ok (ir, shots)

/-- The message carries a job that can be executed. -/
def StreamMessage.WellFormed (self : Consumer) (message : StreamMessage) : Prop :=
  ∃ ir shots, message.Carries self ir shots

/-- The executor was called with this circuit for the job, by itself or in a batch. -/
def Executed (job : JobMessage) (ir : NativeGateIR) (shots : Int) (log : List Entry) : Prop :=
  Did log (.ran job.jobId ir shots) ∨
    ∃ jobs outcome, (job.jobId, ir, shots) ∈ jobs ∧ Did log (.batchRan jobs outcome)

/-- A webhook of the job was sent to its address. -/
def Reported (job : JobMessage) (log : List Entry) : Prop :=
  (∃ payload outcome, payload.jobId = job.jobId ∧ Did log (.reported job.callbackUrl payload outcome)) ∨
    ∃ error outcome, Did log (.reportedFailure job.callbackUrl job.jobId error outcome)

/-- The job was found completed, cancelled, or flagged for cancellation. -/
def Spared (jobId : String) (log : List Entry) : Prop :=
  Did log (.saw jobId (some .completed)) ∨ Did log (.saw jobId (some .cancelled)) ∨
    Did log (.flagged jobId)

/-- The messages a recovery on this Redis comes across. -/
def Redis.recoverable (redis : Redis) (consumer : String) : List StreamMessage :=
  (redis.page consumer).filterMap fun messageId =>
    redis.stream.find? fun message => message.messageId = messageId

/-- What becomes of a message: a malformed one is acknowledged, a well-formed one is executed and reported
unless its job was already settled. -/
structure Handled (self : Consumer) (log : List Entry) (message : StreamMessage) : Prop where
  malformed : ¬ message.WellFormed self → Did log (.acked message.messageId)
  wellFormed : ∀ ir shots, message.Carries self ir shots →
    (Executed message.job ir shots log ∧ Reported message.job log) ∨ Spared message.job.jobId log

namespace Content

variable {self : Consumer} {flags : String → Bool} {message : StreamMessage} {log : List Entry}

theorem decodable_iff : message.Decodable ↔ ∃ found, message.read = .ok found := by
  unfold StreamMessage.Decodable StreamMessage.read
  cases decodeFields message.fields with
  | error exception => simp
  | ok decoded =>
      simp only [Except.ok.injEq, exists_eq', true_iff]
      split <;> exact ⟨_, rfl⟩

/-! ### Messages that were processed by themselves -/

theorem spared_of_final {jobId : String} {state : Option JobState}
    (final : state = some .completed ∨ state = some .cancelled) (saw : Did log (.saw jobId state)) :
    Spared jobId log := by
  rcases final with rfl | rfl
  · exact .inl saw
  · exact .inr (.inl saw)

theorem not_carries_of_read (reading : message.read = .ok none) {ir : NativeGateIR} {shots : Int} :
    ¬ message.Carries self ir shots := by
  rintro ⟨other, -⟩
  rw [reading] at other
  cases other

theorem carries_of_launched {here : List Deed} (launched : Stage.Launched self flags message here) :
    ∃ ir shots, message.Carries self ir shots ∧ .ran message.job.jobId ir shots ∈ here := by
  cases launched with
  | mk taken parsed =>
      cases taken with
      | mk picked =>
          cases picked with
          | mk reading => exact ⟨_, _, ⟨reading, parsed⟩, by simp⟩

/-- A job whose executor was called has been called with its circuit. -/
theorem executed_of_launched {here : List Deed} (launched : Stage.Launched self flags message here)
    (did : ∀ deed ∈ here, Did log deed) {ir : NativeGateIR} {shots : Int}
    (carries : message.Carries self ir shots) : Executed message.job ir shots log := by
  obtain ⟨ir', shots', carries', ran⟩ := carries_of_launched launched
  have same := carries.2.symm.trans carries'.2
  cases same
  exact .inl (did _ ran)

theorem launched_of_returned {here : List Deed} {result : ExecutionResult}
    (returned : Stage.Returned self flags message result here) :
    ∃ before, Stage.Launched self flags message before ∧ here = before ++ [.returned (.ok result)] := by
  cases returned with
  | mk launched => exact ⟨_, launched, rfl⟩

/-- A job that has failed has been executed, unless its circuit does not parse. -/
theorem executed_of_broken {here : List Deed} {exception : Exc}
    (broken : Stage.Broken self flags message exception here) (did : ∀ deed ∈ here, Did log deed)
    {ir : NativeGateIR} {shots : Int} (carries : message.Carries self ir shots) :
    Executed message.job ir shots log := by
  cases broken with
  | unparsed taken failed =>
      rw [carries.2] at failed
      cases failed
  | raised launched => exact executed_of_launched launched (fun deed inside => did deed (by simp [inside])) carries
  | undelivered returned =>
      obtain ⟨before, launched, rfl⟩ := launched_of_returned returned
      exact executed_of_launched launched (fun deed inside => did deed (by simp [inside])) carries

theorem handled_of_served {here : List Deed} (served : Stage.Served self flags message here)
    (did : ∀ deed ∈ here, Did log deed) : Handled self log message := by
  cases served with
  | turned turned =>
      refine ⟨fun _ => did _ (by simp), fun ir shots carries => ?_⟩
      cases turned with
      | malformed reading => exact absurd carries (not_carries_of_read reading)
      | final reading final => exact .inr (spared_of_final final (did _ (by simp)))
      | dropped picked => exact .inr (.inr (.inr (did _ (by simp))))
  | worked worked =>
      refine ⟨fun _ => did _ (by simp), fun ir shots carries => ?_⟩
      cases worked with
      | @cancelled before struck =>
          have flagged : Deed.flagged message.job.jobId ∈ before := by
            cases struck <;> simp
          exact .inr (.inr (.inr (did _ (by simp [flagged]))))
      | late broken => exact .inr (.inr (.inr (did _ (by simp))))
      | @failed _ exception outcome broken =>
          refine .inl ⟨executed_of_broken broken (fun deed inside => did deed (by simp [inside])) carries, ?_⟩
          exact .inr ⟨errorText exception, outcome, did _ (by simp)⟩
      | @completed _ result returned =>
          obtain ⟨before, launched, rfl⟩ := launched_of_returned returned
          refine .inl ⟨executed_of_launched launched (fun deed inside => did deed (by simp [inside])) carries, ?_⟩
          exact .inl ⟨.ofResult message.job.jobId result, .ok (), rfl, did _ (by simp)⟩

theorem handled_of_replayed {done : List StreamMessage} {here : List Deed}
    (replayed : Replayed self flags done here) (did : ∀ deed ∈ here, Did log deed) :
    ∀ message ∈ done, Handled self log message := by
  induction replayed with
  | nil => exact fun message member => by cases member
  | served _ served inductionHypothesis =>
      intro message member
      rcases List.mem_append.mp member with old | new
      · exact inductionHypothesis (fun deed inside => did deed (by simp [inside])) message old
      · rw [List.mem_singleton.mp new]
        exact handled_of_served served fun deed inside => did deed (by simp [inside])

/-! ### Messages of a batch -/

theorem handled_of_passed {here : List Deed} (passed : Passed self flags message here)
    (did : ∀ deed ∈ here, Did log deed) (acked : Did log (.acked message.messageId)) :
    Handled self log message := by
  refine ⟨fun _ => acked, fun ir shots carries => ?_⟩
  cases passed with
  | malformed reading => exact absurd carries (not_carries_of_read reading)
  | final reading final => exact .inr (spared_of_final final (did _ (by simp)))
  | dropped => exact .inr (.inr (.inr (did _ (by simp))))
  | unparsed reading _ _ failed =>
      rw [carries.2] at failed
      cases failed

/-- A sifted message is handled, or its job was accepted. -/
theorem handled_or_accepted {done : List StreamMessage} {parsed : List ParsedJob} {here : List Deed}
    (sifted : Sifted self flags done parsed here) (did : ∀ deed ∈ here, Did log deed) :
    ∀ message ∈ done, Handled self log message ∨
      ∃ ir shots, message.Carries self ir shots ∧ message.parsed ir shots ∈ parsed := by
  induction sifted with
  | nil => exact fun message member => by cases member
  | passed _ passed inductionHypothesis =>
      intro message member
      rcases List.mem_append.mp member with old | new
      · exact inductionHypothesis (fun deed inside => did deed (by simp [inside])) message old
      · rw [List.mem_singleton.mp new]
        exact .inl (handled_of_passed passed (fun deed inside => did deed (by simp [inside]))
          (did _ (by simp)))
  | accepted _ reading _ _ parses inductionHypothesis =>
      intro message member
      rcases List.mem_append.mp member with old | new
      · rcases inductionHypothesis (fun deed inside => did deed (by simp [inside])) message old with
          handled | ⟨ir, shots, carries, accepted⟩
        · exact .inl handled
        · exact .inr ⟨ir, shots, carries, List.mem_append_left _ accepted⟩
      · rw [List.mem_singleton.mp new]
        exact .inr ⟨_, _, ⟨reading, parses⟩, by simp⟩

/-- A job whose delivery has ended is handled. -/
theorem handled_of_delivered {ir : NativeGateIR} {shots : Int} {parsed : List ParsedJob}
    {outcome : Except Exc (List ExecutionResult)} {result : ExecutionResult} {completedAt : String}
    {here : List Deed} (carries : message.Carries self ir shots) (accepted : message.parsed ir shots ∈ parsed)
    (ran : Did log (.batchRan (batchJobs parsed) outcome))
    (delivered : Delivered self
      ⟨message.messageId, message.job.jobId, message.job.callbackUrl, result, completedAt⟩ here)
    (did : ∀ deed ∈ here, Did log deed) : Handled self log message := by
  refine ⟨fun bad => absurd ⟨ir, shots, carries⟩ bad, fun ir' shots' carries' => ?_⟩
  have same := carries.2.symm.trans carries'.2
  cases same
  cases delivered with
  | dropped stopped =>
      refine .inr (.inr (.inr (did _ ?_)))
      cases stopped <;> simp
  | @reported outcome' =>
      have inside : (message.job.jobId, ir, shots) ∈ batchJobs parsed :=
        List.mem_map.mpr ⟨_, accepted, rfl⟩
      exact .inl ⟨.inr ⟨_, _, inside, ran⟩,
        .inl ⟨.ofResult message.job.jobId result, outcome', rfl, did _ (by simp)⟩⟩

end Content

namespace Content

variable {self : Consumer} {flags : String → Bool} {redis : Redis} {system : System}

theorem did_of_deeds {log : List Entry} {here : List Deed} (same : deeds none log = here) :
    ∀ deed ∈ here, Did log deed := by
  intro deed inside
  exact ⟨none, same.symm ▸ inside⟩

/-- One message by itself. -/
theorem message_harmless_iff {message : StreamMessage}
    (reaches : Pool.Reaches (machine self .dutiful)
      (Pool.single { redis := redis } .loop (processEntry self message)) system)
    (ended : system.Ended) :
    system.Returned ∧ Handled self system.state.log message ↔ message.Decodable := by
  obtain ⟨crew, stands, account⟩ := Stage.account Policy.dutiful_calm.undisturbed reaches
  rw [← stands.1]
  have main := account.main
  generalize here : deeds none crew.world.log = deeds at main
  have did := did_of_deeds here
  rcases stands.returned ended with ⟨returned, past⟩ | ⟨raised, exception, past⟩
  · rw [show crew.main = .ended (.ok ()) from past] at main
    cases main with
    | ended served =>
        exact iff_of_true ⟨returned, handled_of_served served did⟩ (decodable_iff.mpr served.read)
  · rw [show crew.main = .ended (.error exception) from past] at main
    cases main with
    | undecodable reading =>
        refine iff_of_false (fun fine => raised fine.1) fun decodable => ?_
        obtain ⟨found, read⟩ := decodable_iff.mp decodable
        rw [reading] at read
        cases read

/-- A batch by itself. -/
theorem batch_harmless_iff {messages : List StreamMessage}
    (reaches : Pool.Reaches (machine self .dutiful)
      (Pool.single { redis := redis } .loop (discard (processBatch self messages))) system)
    (ended : system.Ended) :
    (system.Returned ∧ ∀ message ∈ messages, Handled self system.state.log message) ↔
      ∀ message ∈ messages, message.Decodable := by
  obtain ⟨crew, stands, account⟩ := BatchStage.account Policy.dutiful_calm.undisturbed reaches
  have finished := (stands.ended ended).2
  have replied {role : Role} {op : Op} {outcome : Except Exc op.Reply} {fate : Fate}
      (member : .call role op outcome fate ∈ system.state.log) (other : op.fetches = false) :
      Policy.dutiful.reply op outcome :=
    World.replied_of_reaches Policy.dutiful_calm.undisturbed rfl reaches member other
  rw [← stands.1] at replied ⊢
  have main := account.main
  generalize here : deeds none crew.world.log = all at main
  have did := did_of_deeds here
  have decodable {parsed : List ParsedJob} {sifting : List Deed}
      (sifted : Sifted self redis.cancelled messages parsed sifting) : ∀ message ∈ messages, message.Decodable :=
    fun message member => decodable_iff.mpr (sifted.read message member)
  rcases stands.returned ended with ⟨returned, delivery, past⟩ | ⟨raised, exception, past⟩
  · rw [past] at main
    cases main with
    | idle sifted =>
        refine iff_of_true ⟨returned, fun message member => ?_⟩ (decodable sifted)
        rcases handled_or_accepted sifted (fun deed inside => did deed (by simp [inside])) message member
          with handled | ⟨_, _, _, accepted⟩
        · exact handled
        · cases accepted
    | replayed marked attempted replayed =>
        cases marked with
        | mk sifted some_ =>
            exact iff_of_true ⟨returned, handled_of_replayed replayed fun deed inside =>
              did deed (by simp [inside])⟩ (decodable sifted)
    | @handed parsed results _ number marked =>
        cases marked with
        | mk sifted some_ =>
            have ran : Did crew.world.log (.batchRan (batchJobs parsed) (.ok results)) := did _ (by simp)
            have fits : parsed.length = results.length := by
              obtain ⟨role, fate, member⟩ := mem_of_batchRan ran
              have same : results.length = (batchJobs parsed).length := replied member rfl
              rw [same, batchJobs, List.length_map]
            refine iff_of_true ⟨returned, fun message member => ?_⟩ (decodable sifted)
            rcases handled_or_accepted sifted (fun deed inside => did deed (by simp [inside])) message member
              with handled | ⟨ir, shots, carries, accepted⟩
            · exact handled
            · have handed : .created (.deliverBatch parsed results) number ∈ deeds none crew.world.log := by
                rw [here]
                simp
              obtain ⟨result, -, completedAt, other, delivered⟩ :=
                account.job_delivered finished handed fits accepted
              exact handled_of_delivered carries accepted ran delivered fun deed inside => ⟨_, inside⟩
  · rw [show crew.main = .ended (.error exception) from past] at main
    cases main with
    | @undecodable _ _ message _ _ _ split sifted reading =>
        refine iff_of_false (fun fine => raised fine.1) fun decodable => ?_
        obtain ⟨found, read⟩ := decodable_iff.mp (decodable message (by rw [split]; simp))
        rw [reading] at read
        cases read

/-- A message that was found is one of the stream. -/
theorem found_iff {messageId : String} {message : StreamMessage} :
    (redis.stream.find? fun other => other.messageId = messageId) = some message ↔
      ∃ others, redis.stream.filter (fun other => other.messageId = messageId) = message :: others := by
  rw [← List.head?_filter, List.head?_eq_some_iff]

theorem id_of_found {messageId : String} {message : StreamMessage}
    (found : (redis.stream.find? fun other => other.messageId = messageId) = some message) :
    message = ⟨messageId, message.fields⟩ := by
  have same := List.find?_some found
  simp only [decide_eq_true_eq] at same
  rw [← same]

/-- The messages a recovery has gone through are handled. -/
theorem handled_of_recovered {ids : List String} {here : List Deed} (recovered : Recovered self flags ids here)
    (did : ∀ deed ∈ here, Did log deed)
    (faithful : ∀ messageId messages, .fetched messageId messages ∈ here →
      messages = redis.stream.filter fun message => message.messageId = messageId) :
    ∀ messageId ∈ ids, ∀ message,
      (redis.stream.find? fun other => other.messageId = messageId) = some message →
        message.Decodable ∧ Handled self log message := by
  induction recovered with
  | nil => exact fun messageId member => by cases member
  | trimmed last _ inductionHypothesis =>
      intro messageId member message found
      rcases List.mem_append.mp member with old | new
      · exact inductionHypothesis (fun deed inside => did deed (by simp [inside]))
          (fun id messages inside => faithful id messages (by simp [inside])) messageId old message found
      · obtain ⟨others, shape⟩ := found_iff.mp found
        rw [List.mem_singleton.mp new, ← faithful last [] (by simp)] at shape
        cases shape
  | @served _ _ _ last first others _ served inductionHypothesis =>
      intro messageId member message found
      rcases List.mem_append.mp member with old | new
      · exact inductionHypothesis (fun deed inside => did deed (by simp [inside]))
          (fun id messages inside => faithful id messages (by simp [inside])) messageId old message found
      · obtain ⟨others', shape⟩ := found_iff.mp found
        rw [List.mem_singleton.mp new] at found shape
        rw [← faithful last (first :: others) (by simp)] at shape
        cases shape
        rw [id_of_found found]
        exact ⟨decodable_iff.mpr served.read, handled_of_served served fun deed inside =>
          did deed (by simp [inside])⟩

/-- A recovery by itself. -/
theorem recovery_harmless_iff
    (reaches : Pool.Reaches (machine self .dutiful)
      (Pool.single { redis := redis } .loop (discard (recoverPending self))) system)
    (ended : system.Ended) :
    (system.Returned ∧
        ∀ message ∈ redis.recoverable self.consumerName, Handled self system.state.log message) ↔
      ∀ message ∈ redis.recoverable self.consumerName, message.Decodable := by
  obtain ⟨crew, stands, account, faithful⟩ :=
    RecoveryStage.account_faithful Policy.dutiful_calm reaches
  rw [← stands.1]
  have main := account.main
  have queried := faithful.queried
  have fetched := faithful.fetched
  generalize here : deeds none crew.world.log = all at main queried fetched
  have did := did_of_deeds here
  rcases stands.returned ended with ⟨returned, past⟩ | ⟨raised, exception, past⟩
  · rw [show crew.main = .ended (.ok ()) from past] at main
    cases main with
    | @ended ids found recovered =>
        have each : ∀ message ∈ redis.recoverable self.consumerName,
            message.Decodable ∧ Handled self crew.world.log message := by
          intro message member
          obtain ⟨messageId, listed, found⟩ := List.mem_filterMap.mp member
          rw [Redis.page, ← queried ids List.mem_cons_self] at listed
          exact handled_of_recovered recovered (fun deed inside => did deed (List.mem_cons_of_mem _ inside))
            (fun id messages inside => fetched id messages (List.mem_cons_of_mem _ inside)) messageId
            listed message found
        exact iff_of_true ⟨returned, fun message member => (each message member).2⟩
          fun message member => (each message member).1
  · rw [show crew.main = .ended (.error exception) from past] at main
    cases main with
    | @undecodable ids rest messageId message others before _ recovered reading =>
        refine iff_of_false (fun fine => raised fine.1) fun decodable => ?_
        have shape := fetched messageId (message :: others) (by simp)
        have found := found_iff.mpr ⟨others, shape.symm⟩
        have listed : messageId ∈ redis.page self.consumerName := by
          rw [Redis.page, ← queried (ids ++ messageId :: rest) (by simp)]
          simp
        obtain ⟨read, same⟩ := decodable_iff.mp
          (decodable message (List.mem_filterMap.mpr ⟨messageId, listed, found⟩))
        rw [id_of_found found, reading] at same
        cases same

end Content

/-- Where nothing fails and the executor keeps its contract, a call returns and handles every message it
is given exactly when all of them are text. -/
theorem contentHarmless_iff (self : Consumer) (redis : Redis) (system : System) (ended : system.Ended) :
    (∀ message, Pool.Reaches (machine self .dutiful)
        (Pool.single { redis := redis } .loop (processEntry self message)) system →
      (system.Returned ∧ Handled self system.state.log message ↔ message.Decodable)) ∧
    (∀ messages, Pool.Reaches (machine self .dutiful)
        (Pool.single { redis := redis } .loop (discard (processBatch self messages))) system →
      ((system.Returned ∧ ∀ message ∈ messages, Handled self system.state.log message) ↔
        ∀ message ∈ messages, message.Decodable)) ∧
    (Pool.Reaches (machine self .dutiful)
        (Pool.single { redis := redis } .loop (discard (recoverPending self))) system →
      ((system.Returned ∧
          ∀ message ∈ redis.recoverable self.consumerName, Handled self system.state.log message) ↔
        ∀ message ∈ redis.recoverable self.consumerName, message.Decodable)) :=
  ⟨fun _ reaches => Content.message_harmless_iff reaches ended,
    fun _ reaches => Content.batch_harmless_iff reaches ended,
    fun reaches => Content.recovery_harmless_iff reaches ended⟩

/-! ### A batch that begins with a message that is not text -/

namespace Content

/-- A message whose only field name is no UTF-8. -/
def poison : StreamMessage := ⟨"1-0", [(.bytes ⟨#[0xff]⟩, .str "")]⟩

/-- That message, and a well-formed one behind it. -/
def poisoned : List StreamMessage := [poison, Sample.message "2-0" "job"]

/-- The batch, while nothing fails. -/
def poisonedRun : System :=
  System.play Sample.consumer .dutiful (Surroundings.plain Sample.result)
    (List.replicate 3 (.task 0))
    (Pool.single { redis := Sample.delivered poisoned } .loop
      (discard (processBatch Sample.consumer poisoned)))

theorem poisonedRun_reaches :
    Pool.Reaches (machine Sample.consumer .dutiful)
      (Pool.single { redis := Sample.delivered poisoned } .loop
        (discard (processBatch Sample.consumer poisoned))) poisonedRun := by
  apply System.play_reaches
  · apply Surroundings.plain_within
    intro world op outcome answered
    cases op with
    | batchRun jobs =>
        cases answered
        exact List.length_map _
    | _ => trivial
  · intro event member
    simp at member

end Content

open Content in
/-- The result, for that batch. -/
theorem contentHarmless_iff_poisonedRun :
    (poisonedRun.Returned ∧
        ∀ message ∈ poisoned, Handled Sample.consumer poisonedRun.state.log message) ↔
      ∀ message ∈ poisoned, message.Decodable :=
  (contentHarmless_iff Sample.consumer (Sample.delivered poisoned) poisonedRun
    (System.ended_iff.mp (by decide +kernel))).2.1 poisoned poisonedRun_reaches

open Content in
/-- One message that is not text makes `_process_batch` raise. -/
theorem not_contentHarmless :
    ¬ ∀ (self : Consumer) (redis : Redis) (messages : List StreamMessage) (system : System),
      Pool.Reaches (machine self .dutiful)
        (Pool.single { redis := redis } .loop (discard (processBatch self messages))) system →
      system.Ended →
      system.Returned ∧ ∀ message ∈ messages, Handled self system.state.log message := by
  intro claim
  have fine := claim Sample.consumer _ poisoned poisonedRun poisonedRun_reaches
    (System.ended_iff.mp (by decide +kernel))
  have raised : System.returned poisonedRun = false := by decide +kernel
  rw [System.returned_of_Returned fine.1] at raised
  cases raised

end CodaNode
