/-
Module: CodaNode.Proofs.Silence
Layer: Proofs
Purpose: Whether a job can be acknowledged in silence. A message that is processed by itself leaves a
  terminal status or a webhook before it is acknowledged. In a batch this holds as long as every message
  that does not parse is about a job that was settled or flagged for cancellation before, and while the
  flags do not change, otherwise only if the batch falls back.
Imports: CodaNode.Proofs.Content, CodaNode.Protocol.Landing, CodaNode.Protocol.Replay
Main exports: Answered, Redis.Fits, FallsBack, acknowledged_answered
-/
import CodaNode.Proofs.Content
import CodaNode.Protocol.Landing
import CodaNode.Protocol.Replay

namespace CodaNode

open Coroutine

/-- A terminal status of the job was found or recorded, or a webhook was sent. -/
def Accounted (job : JobMessage) (log : List Entry) : Prop :=
  (∃ state, state.terminal = true ∧
    (Did log (.saw job.jobId (some state)) ∨
      ∃ mapping, mapping.state = some state ∧ Did log (.wrote job.jobId mapping))) ∨
    Reported job log

/-- What becomes of the job of a message that is acknowledged. If its circuit does not parse, the failure
is reported, unless the job is settled or cancelled. -/
structure Answered (consumer : Consumer) (log : List Entry) (message : StreamMessage) : Prop where
  accounted : Accounted message.job log
  unparsed : ∀ exception, parseCircuit consumer message.job.decoded = .error exception →
    (∃ error outcome, Did log
      (.reportedFailure message.job.callbackUrl message.job.jobId error outcome)) ∨
      Spared message.job.jobId log

/-- What was done stays done. -/
theorem Answered.mono {self : Consumer} {message : StreamMessage} {log more : List Entry}
    (within : ∀ deed, Did log deed → Did more deed)
    (answered : Answered self log message) : Answered self more message := by
  have spared (here : Spared message.job.jobId log) : Spared message.job.jobId more :=
    here.imp (within _) (.imp (within _) (within _))
  constructor
  · rcases answered.accounted with ⟨state, terminal, seen | ⟨mapping, same, wrote⟩⟩ | reported
    · exact .inl ⟨state, terminal, .inl (within _ seen)⟩
    · exact .inl ⟨state, terminal, .inr ⟨mapping, same, within _ wrote⟩⟩
    · rcases reported with ⟨payload, outcome, same, did⟩ | ⟨error, outcome, did⟩
      · exact .inr (.inl ⟨payload, outcome, same, within _ did⟩)
      · exact .inr (.inr ⟨error, outcome, within _ did⟩)
  · intro exception failed
    rcases answered.unparsed exception failed with ⟨error, outcome, did⟩ | other
    · exact .inl ⟨error, outcome, within _ did⟩
    · exact .inr (spared other)

/-- The message can be parsed, or its job is settled or flagged for cancellation. -/
def Redis.Fits (redis : Redis) (self : Consumer) (message : StreamMessage) : Prop :=
  (∃ circuit, parseCircuit self message.job.decoded = .ok circuit) ∨
    ¬ Unsettled (redis.status message.job.jobId).state ∨ redis.cancelled message.job.jobId = true

namespace Silence

variable {self : Consumer} {flags : String → Bool} {message : StreamMessage} {here : List Deed}
variable {log : List Entry}

theorem accounted_of_wrote {job : JobMessage} {mapping : StatusHash} {state : JobState}
    (terminal : state.terminal = true) (same : mapping.state = some state)
    (did : Did log (.wrote job.jobId mapping)) : Accounted job log :=
  .inl ⟨state, terminal, .inr ⟨mapping, same, did⟩⟩

/-- A job that was found cancelled. -/
theorem answered_of_flagged (flagged : Did log (.flagged message.job.jobId))
    (did : Did log (Stage.wroteCancelled self message)) : Answered self log message where
  accounted := accounted_of_wrote rfl rfl did
  unparsed _ _ := .inr (.inr (.inr flagged))

theorem answered_of_final {state : Option JobState}
    (final : state = some .completed ∨ state = some .cancelled)
    (saw : Did log (.saw message.job.jobId state)) : Answered self log message where
  accounted := by
    rcases final with rfl | rfl
    · exact .inl ⟨.completed, rfl, .inl saw⟩
    · exact .inl ⟨.cancelled, rfl, .inl saw⟩
  unparsed _ _ := .inr (Content.spared_of_final final saw)

theorem answered_of_turned (reading : message.read = .ok (some message.job))
    (turned : Stage.Turned self message here) (did : ∀ deed ∈ here, Did log deed) :
    Answered self log message := by
  cases turned with
  | malformed other =>
      rw [reading] at other
      cases other
  | final _ final => exact answered_of_final final (did _ (by simp))
  | dropped picked => exact answered_of_flagged (did _ (by simp)) (did _ (by simp))

theorem parses_of_returned {result : ExecutionResult}
    (returned : Stage.Returned self flags message result here) :
    ∃ circuit, parseCircuit self message.job.decoded = .ok circuit := by
  cases returned with
  | mk launched =>
      cases launched with
      | mk taken parsed => exact ⟨_, parsed⟩

theorem answered_of_worked (worked : Stage.Worked self flags message here)
    (did : ∀ deed ∈ here, Did log deed) : Answered self log message := by
  cases worked with
  | @cancelled before struck =>
      have flagged : Deed.flagged message.job.jobId ∈ before := by
        cases struck <;> simp
      exact answered_of_flagged (did _ (by simp [flagged])) (did _ (by simp))
  | late broken => exact answered_of_flagged (did _ (by simp)) (did _ (by simp))
  | @failed _ exception outcome broken =>
      have reported : Did log (.reportedFailure message.job.callbackUrl message.job.jobId
          (errorText exception) outcome) := did _ (by simp)
      exact ⟨.inr (.inr ⟨_, _, reported⟩), fun _ _ => .inl ⟨_, _, reported⟩⟩
  | @completed before result returned =>
      refine ⟨accounted_of_wrote rfl rfl (did (Stage.wroteCompleted message) (by simp)), ?_⟩
      intro exception failed
      obtain ⟨circuit, parsed⟩ := parses_of_returned returned
      rw [failed] at parsed
      cases parsed

/-- A call acknowledges its own message, and not in silence. -/
theorem answered_of_message {stage later : Stage} {messageId : String}
    {outcome : Except Exc (Op.xack messageId).Reply} (reading : message.read = .ok (some message.job))
    (row : Stage.Move self message message.job stage (.xack messageId) outcome later)
    (course : Stage.Course self flags message stage here) (did : ∀ deed ∈ here, Did log deed) :
    messageId = message.messageId ∧ Answered self log message := by
  cases row with
  | dismiss =>
      cases course with
      | dismiss turned => exact ⟨rfl, answered_of_turned reading turned did⟩
  | cleanUp =>
      cases course with
      | cleanUp worked => exact ⟨rfl, answered_of_worked worked did⟩

/-- Every accepted job belongs to a message that parses. -/
theorem message_of_sifted {done : List StreamMessage} {parsed : List ParsedJob}
    (sifted : Sifted self flags done parsed here) :
    ∀ job ∈ parsed, ∃ message ∈ done, ∃ ir shots, job = message.parsed ir shots ∧
      message.read = .ok (some message.job) ∧ flags message.job.jobId = false ∧
      parseCircuit self message.job.decoded = .ok (ir, shots) := by
  induction sifted with
  | nil => exact fun job member => by cases member
  | passed _ _ inductionHypothesis =>
      intro job member
      obtain ⟨message, inside, rest⟩ := inductionHypothesis job member
      exact ⟨message, List.mem_append_left _ inside, rest⟩
  | @accepted _ message _ _ _ ir shots _ reading _ clear parses inductionHypothesis =>
      intro job member
      rcases List.mem_append.mp member with old | new
      · obtain ⟨message, inside, rest⟩ := inductionHypothesis job old
        exact ⟨message, List.mem_append_left _ inside, rest⟩
      · exact ⟨message, by simp, ir, shots, List.mem_singleton.mp new, reading, clear, parses⟩

/-! ### A message by itself -/

/-- What the acknowledgements of a log say. -/
def Vouched (self : Consumer) (messages : List StreamMessage) (log : List Entry) : Prop :=
  ∀ messageId, Did log (.acked messageId) →
    ∃ message ∈ messages, message.messageId = messageId ∧ Answered self log message

section Steps

variable {policy : Policy} {world next : World} {role : Role} {op : Op} {outcome : Except Exc op.Reply}
variable {fate : Fate} {messages : List StreamMessage}

theorem did_of_performs (performs : World.Performs policy world op outcome fate next) {deed : Deed}
    (did : Did world.log deed) : Did (next.recordCall role op outcome fate).log deed := by
  rw [did_iff] at did ⊢
  rw [chronicle_of_performs performs]
  exact List.mem_append_left _ did

/-- Only an acknowledgement has to be vouched for. -/
theorem Vouched.performs (performs : World.Performs policy world op outcome fate next)
    (vouched : Vouched self messages world.log)
    (new : ∀ messageId, op = .xack messageId →
      ∃ message ∈ messages, message.messageId = messageId ∧ Answered self world.log message) :
    Vouched self messages (next.recordCall role op outcome fate).log := by
  intro messageId did
  have grown {message : StreamMessage} (answered : Answered self world.log message) :
      Answered self (next.recordCall role op outcome fate).log message :=
    answered.mono fun _ before => did_of_performs performs before
  rw [did_iff, chronicle_of_performs performs, List.mem_append] at did
  rcases did with old | last
  · obtain ⟨message, inside, same, answered⟩ := vouched messageId (did_iff.mpr old)
    exact ⟨message, inside, same, grown answered⟩
  · have deed := Option.mem_toList.mp last
    unfold Op.deed at deed
    split at deed <;> cases deed
    obtain ⟨message, inside, same, answered⟩ := new messageId rfl
    exact ⟨message, inside, same, grown answered⟩

theorem Vouched.occur {event : EnvEvent} (occurs : world.occur event = some next)
    (vouched : Vouched self messages world.log) : Vouched self messages (next.record (.env event)).log := by
  have same (deed : Deed) : Did (next.record (.env event)).log deed ↔ Did world.log deed := by
    rw [did_iff, did_iff, chronicle_of_occur occurs]
  intro messageId did
  obtain ⟨message, inside, named, answered⟩ := vouched messageId ((same _).mp did)
  exact ⟨message, inside, named, answered.mono fun deed => (same deed).mpr⟩

end Steps

end Silence

namespace Silence

variable {self : Consumer} {policy : Policy} {flags : String → Bool} {redis : Redis} {system : System}
variable {here : List Deed}

/-! ### A message by itself -/

theorem message_step {message : StreamMessage} (reading : message.read = .ok (some message.job))
    {first second : Crew Stage}
    (step : Crew.Step self policy (Stage.Move self message message.job) first second)
    (account : Crew.Account self redis.cancelled (fun runTask stage => stage.Sound message runTask)
      (Stage.Course self redis.cancelled message) first)
    (vouched : Vouched self [message] first.world.log) : Vouched self [message] second.world.log := by
  cases step with
  | env _ occurs => exact vouched.occur occurs
  | main row performs =>
      refine vouched.performs performs ?_
      rintro messageId rfl
      obtain ⟨rfl, answered⟩ :=
        answered_of_message reading row account.main fun deed inside => ⟨none, inside⟩
      exact ⟨message, List.mem_singleton_self message, rfl, answered⟩
  | @post world _ _ before after post =>
      have none_ := account.alone fun spec number => account.main.not_created
      simp at none_

/-- A call vouches for its acknowledgement. -/
theorem message_vouched {message : StreamMessage} (reading : message.read = .ok (some message.job))
    (reaches : Pool.Reaches (machine self .exclusive)
      (Pool.single { redis := redis } .loop (processEntry self message)) system) :
    Vouched self [message] system.state.log := by
  obtain ⟨crew, stands, -, vouched⟩ :=
    Crew.Account.reaches_with Policy.exclusive_undisturbed
      (Stage.accountable Policy.exclusive_undisturbed message) Stage.follows RunAtRest.none .called
      (fun {first second} step account (vouched : Vouched self [message] first.world.log) =>
        (message_step reading step account vouched : Vouched self [message] second.world.log))
      (fun messageId did => by simp [Did, deeds] at did) reaches
  rw [← stands.1]
  exact vouched

/-! ### A batch -/

/-- A message that is not accepted. -/
theorem answered_of_passed {message : StreamMessage} {here : List Deed} {log : List Entry}
    (reading : message.read = .ok (some message.job)) (fits : redis.Fits self message)
    (passed : Passed self redis.cancelled message here) (did : ∀ deed ∈ here, Did log deed)
    (saw : ∀ state, .saw message.job.jobId state ∈ here → Unsettled state →
      Unsettled (redis.status message.job.jobId).state) : Answered self log message := by
  cases passed with
  | malformed other =>
      rw [reading] at other
      cases other
  | final _ final => exact answered_of_final final (did _ (by simp))
  | dropped => exact answered_of_flagged (did _ (by simp)) (did _ (by simp))
  | @unparsed state exception _ unsettled clear failed =>
      rcases fits with ⟨circuit, parsed⟩ | settled | flagged
      · rw [failed] at parsed
        cases parsed
      · exact absurd (saw state (by simp) unsettled) settled
      · rw [clear] at flagged
        cases flagged

/-- A job whose delivery is about to be acknowledged. -/
theorem answered_of_delivery {message : StreamMessage} {ir : NativeGateIR} {shots : Int}
    {result : ExecutionResult} {nowIso : String} {stage later : SingleStage} {messageId : String}
    {outcome : Except Exc (Op.xack messageId).Reply} {here : List Deed} {log : List Entry} {number : Nat}
    {delivery : Delivery}
    (about : delivery = ⟨message.messageId, message.job.jobId, message.job.callbackUrl, result, nowIso⟩)
    (parses : parseCircuit self message.job.decoded = .ok (ir, shots))
    (row : SingleStage.Move self number delivery stage (.xack messageId) outcome later)
    (course : SingleStage.Course self delivery stage here) (did : ∀ deed ∈ here, Did log deed) :
    messageId = message.messageId ∧ Answered self log message := by
  subst about
  cases row with
  | dismiss =>
      cases course with
      | @dismiss before stopped =>
          have flagged : Deed.flagged message.job.jobId ∈ before := by
            cases stopped <;> simp
          refine ⟨rfl, answered_of_flagged (did _ (by simp [flagged])) (did _ ?_)⟩
          rw [Stage.wroteCancelled, StreamMessage.job_messageId]
          simp [droppedStatus]
  | acknowledge =>
      cases course with
      | acknowledge =>
          have completed : Did log (Stage.wroteCompleted message) :=
            did _ (by simp [deliveredStatus, Stage.wroteCompleted])
          refine ⟨rfl, accounted_of_wrote rfl rfl completed, fun exception failed => ?_⟩
          rw [parses] at failed
          cases failed

theorem batch_step {messages : List StreamMessage}
    (carry : ∀ message ∈ messages, message.read = .ok (some message.job))
    (fit : ∀ message ∈ messages, redis.Fits self message) {first second : Crew BatchStage}
    (step : Crew.Step self policy (BatchStage.Move self messages) first second)
    (account : Crew.Account self redis.cancelled (fun runTask stage => stage.Sound runTask)
      (BatchStage.Course self redis.cancelled messages) first)
    (settled : Crew.Settled (.opening redis) first)
    (vouched : Vouched self messages first.world.log) : Vouched self messages second.world.log := by
  cases step with
  | env _ occurs => exact vouched.occur occurs
  | @main world next stage later posts op outcome fate row performs =>
      refine vouched.performs performs ?_
      rintro messageId rfl
      have main := account.main
      have inside : ∀ deed ∈ deeds none world.log, Did world.log deed := fun deed member => ⟨none, member⟩
      generalize here : deeds none world.log = all at main inside
      cases row with
      | @dismiss message parsed todo =>
          cases main with
          | dismiss split sifted passed =>
              have member : message ∈ messages := by rw [split]; simp
              refine ⟨message, member, rfl, answered_of_passed (carry message member) (fit message member)
                passed (fun deed within => inside deed (by simp [within])) fun state seen unsettled => ?_⟩
              exact settled.saw (did_iff.mp (inside _ (by simp [seen]))) unsettled
      | @process message stage rest _ _ later row =>
          cases main with
          | @process _ done _ _ _ _ _ _ more marked attempted split replayed course =>
              have member : message ∈ messages := by rw [split]; simp
              obtain ⟨rfl, answered⟩ := answered_of_message (carry message member) row course
                fun deed within => inside deed (by simp [within])
              exact ⟨message, member, rfl, answered⟩
  | @post world next stage before after post later op outcome fate row performs =>
      refine vouched.performs performs ?_
      rintro messageId rfl
      have listed : post ∈ before ++ post :: after := by simp
      have course := account.posts post listed
      cases row with
      | gather row => cases row
      | @single number delivery stage _ _ _ row =>
          have apart : ∀ delivery number,
              .created (.deliverSingle delivery) number ∉ deeds none world.log := by
            intro other number created
            obtain ⟨_, _, _, _, same, -⟩ := account.main.handed_of_created created
            cases same
          obtain ⟨parsed, results, batch, nowIso, deliveries, created, zipped, delivered⟩ :=
            account.single_origin listed apart
          obtain ⟨_, _, _, marked, same, -⟩ := account.main.handed_of_created created
          cases same
          obtain ⟨job, accepted, result, -, about⟩ := job_of_zipStrict zipped delivered
          cases marked with
          | mk sifted =>
              obtain ⟨message, member, ir, shots, rfl, -, -, parses⟩ := message_of_sifted sifted job accepted
              obtain ⟨rfl, answered⟩ := answered_of_delivery about parses row course
                fun deed within => ⟨_, within⟩
              exact ⟨message, member, rfl, answered⟩

/-- A batch vouches for all its acknowledgements. -/
theorem batch_vouched {messages : List StreamMessage} (undisturbed : policy.Undisturbed) (sole : policy.Sole)
    (carry : ∀ message ∈ messages, message.read = .ok (some message.job))
    (fit : ∀ message ∈ messages, redis.Fits self message)
    (reaches : Pool.Reaches (machine self policy)
      (Pool.single { redis := redis } .loop (discard (processBatch self messages))) system) :
    Vouched self messages system.state.log := by
  obtain ⟨crew, stands, -, -, vouched⟩ :=
    Crew.Account.reaches_with undisturbed
      (BatchStage.accountable undisturbed messages) BatchStage.follows RunAtRest.none .called
      (fun {first second} step account
          (held : Crew.Settled (.opening redis) first ∧ Vouched self messages first.world.log) =>
        (⟨held.1.step undisturbed sole BatchStage.grounding step account,
          batch_step carry fit step account held.1 held.2⟩ :
          Crew.Settled (.opening redis) second ∧ Vouched self messages second.world.log))
      ⟨.start, fun messageId did => by simp [Did, deeds] at did⟩ reaches
  rw [← stands.1]
  exact vouched

/-! ### A batch that falls back -/

theorem answered_of_replayed {done : List StreamMessage} {log : List Entry}
    (carry : ∀ message ∈ done, message.read = .ok (some message.job))
    (replayed : Replayed self flags done here) (did : ∀ deed ∈ here, Did log deed) :
    ∀ message ∈ done, Answered self log message := by
  induction replayed with
  | nil => exact fun message member => by cases member
  | @served done last before more _ served inductionHypothesis =>
      intro message member
      rcases List.mem_append.mp member with old | new
      · have earlier := inductionHypothesis (fun other inside => carry other (List.mem_append_left _ inside))
          fun deed inside => did deed (List.mem_append_left _ inside)
        exact earlier message old
      · have reading := carry last (by simp)
        have here : ∀ deed ∈ more, Did log deed := fun deed inside => did deed (List.mem_append_right _ inside)
        rw [List.mem_singleton.mp new]
        cases served with
        | turned turned =>
            exact answered_of_turned reading turned fun deed inside => here deed (by simp [inside])
        | worked worked => exact answered_of_worked worked fun deed inside => here deed (by simp [inside])

/-! ### What a batch passes over in silence -/

/-- The deeds that can explain why a job was not run: its status was looked up, or its failure was reported. -/
def explains : Deed → Bool
  | .saw _ _ | .reportedFailure _ _ _ _ => true
  | _ => false

/-- The parsing loop finds the statuses as they were before, unless the job is flagged. -/
theorem status_of_saw {done : List StreamMessage} {parsed : List ParsedJob} {here : List Deed}
    (sifted : Sifted self redis.cancelled done parsed here) (truthful : (Ledger.opening redis).Truthful here)
    {jobId : String} (unflagged : .flagged jobId ∉ here) {state : Option JobState}
    (saw : .saw jobId state ∈ here) : (redis.status jobId).state = state := by
  obtain ⟨before, after, rfl⟩ := List.append_of_mem saw
  have found := truthful before jobId state after rfl
  rw [Ledger.status_of_unwritten] at found
  · exact found.symm
  · intro mapping member
    exact unflagged (sifted.flagged_of_wrote (List.mem_append_left _ member))

/-- The parsing loop acknowledges a message that is not accepted. -/
theorem acked_of_unparsed {messages : List StreamMessage} {parsed : List ParsedJob} {here : List Deed}
    (distinct : (messages.map StreamMessage.messageId).Nodup)
    (sifted : Sifted self redis.cancelled messages parsed here) {message : StreamMessage}
    (member : message ∈ messages) {exception : Exc}
    (failed : parseCircuit self message.job.decoded = .error exception) : .acked message.messageId ∈ here := by
  rcases sifted.acked_or_parsed message member with acked | ⟨job, accepted, same⟩
  · exact acked
  · obtain ⟨other, inside, ir, shots, rfl, -, -, parses⟩ := message_of_sifted sifted job accepted
    obtain rfl := List.inj_on_of_nodup_map distinct inside member same
    rw [failed] at parses
    cases parses

/-- Whatever explains the fate of a job lies in the parsing loop: then a message that does not fit is
acknowledged there, and nothing is ever said about it. -/
theorem fits_of_vouched {messages : List StreamMessage} {parsed : List ParsedJob} {sifting : List Deed}
    {log : List Entry} (distinct : (messages.map StreamMessage.messageId).Nodup)
    (sifted : Sifted self redis.cancelled messages parsed sifting)
    (truthful : (Ledger.opening redis).Truthful sifting) (did : ∀ deed ∈ sifting, Did log deed)
    (only : ∀ deed, Did log deed → explains deed = true → deed ∈ sifting)
    (constant : ∀ jobId, Did log (.flagged jobId) → redis.cancelled jobId = true)
    (vouched : Vouched self messages log) : ∀ message ∈ messages, redis.Fits self message := by
  intro message member
  cases parses : parseCircuit self message.job.decoded with
  | ok circuit => exact .inl ⟨circuit, parses⟩
  | error exception =>
      by_cases flag : redis.cancelled message.job.jobId = true
      · exact .inr (.inr flag)
      have unflagged : ¬ Did log (.flagged message.job.jobId) := fun flagged => flag (constant _ flagged)
      have settled {state : JobState} (final : ¬ Unsettled (some state))
          (saw : Did log (.saw message.job.jobId (some state))) : redis.Fits self message := by
        refine .inr (.inl ?_)
        rw [status_of_saw sifted truthful (fun inside => unflagged (did _ inside)) (only _ saw rfl)]
        exact final
      obtain ⟨other, inside, same, answered⟩ :=
        vouched _ (did _ (acked_of_unparsed distinct sifted member parses))
      obtain rfl := List.inj_on_of_nodup_map distinct inside member same
      rcases answered.unparsed exception parses with ⟨error, outcome, reported⟩ | completed | cancelled | flagged
      · have silent := sifted.internal _ (only _ reported rfl)
        cases silent
      · exact settled (fun unsettled => unsettled.1 rfl) completed
      · exact settled (fun unsettled => unsettled.2 rfl) cancelled
      · exact absurd flagged unflagged

end Silence

/-- The batch falls back: some message of it is accepted, and `batch_run` is gone or does not return. -/
def FallsBack (self : Consumer) (redis : Redis) (messages : List StreamMessage) (log : List Entry) : Prop :=
  messages.filterMap (StreamMessage.accepted self redis) ≠ [] ∧
    ∀ jobs results, ¬ Did log (.batchRan jobs (.ok results))

namespace Silence

variable {self : Consumer} {policy : Policy} {redis : Redis} {system : System} {messages : List StreamMessage}

section Returned

variable {crew : Crew BatchStage} {parsed : List ParsedJob} {before : List Deed}

/-- The parsing loop of a batch that was marked. -/
theorem sifted_of_marked (marked : BatchStage.Marked self redis.cancelled messages parsed before) :
    ∃ sifting, Sifted self redis.cancelled messages parsed sifting ∧ parsed ≠ [] ∧
      before = .calledBatch messages :: sifting ++ parsed.map (CodaNode.marked self) := by
  cases marked with
  | mk sifted some_ => exact ⟨_, sifted, some_, rfl⟩

theorem truthful_of_called {sifting rest : List Deed}
    (truthful : (Ledger.opening redis).Truthful (.calledBatch messages :: sifting ++ rest)) :
    (Ledger.opening redis).Truthful sifting := by
  rw [← List.singleton_append, List.append_assoc] at truthful
  exact (Ledger.Truthful.append_iff.mp (Ledger.Truthful.append_iff.mp truthful).2).1

/-- A batch without accepted jobs answers for its messages only if they fit. -/
theorem fits_of_idle {sifting : List Deed} (distinct : (messages.map StreamMessage.messageId).Nodup)
    (sifted : Sifted self redis.cancelled messages [] sifting)
    (whole : chronicle crew.world.log = .calledBatch messages :: sifting)
    (truthful : (Ledger.opening redis).Truthful (chronicle crew.world.log))
    (constant : ∀ jobId, Did crew.world.log (.flagged jobId) → redis.cancelled jobId = true)
    (vouched : Vouched self messages crew.world.log) : ∀ message ∈ messages, redis.Fits self message := by
  rw [whole, ← List.append_nil sifting] at truthful
  refine fits_of_vouched distinct sifted (truthful_of_called truthful) ?_ ?_ constant vouched
  · intro deed inside
    rw [did_iff, whole]
    exact List.mem_cons_of_mem _ inside
  · intro deed did explains
    rw [did_iff, whole] at did
    rcases List.mem_cons.mp did with rfl | inside
    · cases explains
    · exact inside

/-- A batch that was handed over answers for its messages only if they fit: the deliveries explain nothing. -/
theorem fits_of_handed {results : List ExecutionResult} {number : Nat}
    (distinct : (messages.map StreamMessage.messageId).Nodup)
    (marked : BatchStage.Marked self redis.cancelled messages parsed before)
    (whole : deeds none crew.world.log =
      before ++ [.batchRan (batchJobs parsed) (.ok results), .created (.deliverBatch parsed results) number])
    (account : Crew.Account self redis.cancelled (fun runTask stage => stage.Sound runTask)
      (BatchStage.Course self redis.cancelled messages) crew) (led : crew.Led)
    (truthful : (Ledger.opening redis).Truthful (chronicle crew.world.log))
    (constant : ∀ jobId, Did crew.world.log (.flagged jobId) → redis.cancelled jobId = true)
    (vouched : Vouched self messages crew.world.log) : ∀ message ∈ messages, redis.Fits self message := by
  have apart : ∀ delivery number, .created (.deliverSingle delivery) number ∉ deeds none crew.world.log := by
    intro delivery number created
    simp [whole, marked.not_created] at created
  obtain ⟨sifting, sifted, -, rfl⟩ := sifted_of_marked marked
  have inside {deed : Deed} (member : deed ∈ sifting) : deed ∈ deeds none crew.world.log := by
    rw [whole]
    simp [member]
  obtain ⟨rest, grown⟩ := led
  rw [← grown, whole] at truthful
  refine fits_of_vouched distinct sifted ?_ (fun deed member => ⟨none, inside member⟩) ?_ constant vouched
  · exact truthful_of_called (Ledger.Truthful.append_iff.mp (Ledger.Truthful.append_iff.mp truthful).1).1
  · rintro deed ⟨seat, did⟩ explained
    cases seat with
    | none =>
        rw [whole] at did
        simp only [List.mem_append, List.mem_cons, List.mem_map, List.not_mem_nil, or_false] at did
        rcases did with ((rfl | member) | ⟨job, -, rfl⟩) | rfl | rfl
        · cases explained
        · exact member
        · cases explained
        · cases explained
        · cases explained
    | some seat =>
        rcases account.origin apart did with ⟨_, _, rfl⟩ | ⟨_, _, _, _, _, delivery, -, -, -, of⟩
        · cases explained
        · cases deed with
          | saw | reportedFailure => exact of.elim
          | _ => cases explained

/-- A batch that fell back answers for all its messages. -/
theorem vouched_of_replayed {attempt replay : List Deed}
    (carry : ∀ message ∈ messages, message.read = .ok (some message.job))
    (marked : BatchStage.Marked self redis.cancelled messages parsed before)
    (attempted : Attempted self parsed attempt) (replayed : Replayed self redis.cancelled messages replay)
    (whole : chronicle crew.world.log = before ++ attempt ++ replay) :
    Vouched self messages crew.world.log := by
  intro messageId acked
  have listed : ∃ message ∈ messages, message.messageId = messageId := by
    rw [did_iff, whole, List.mem_append, List.mem_append] at acked
    rcases acked with (early | tried) | late
    · exact marked.listed_of_acked early
    · cases attempted with
      | failed => simp at tried
      | gone => cases tried
    · exact (replayed.acked_iff messageId).mp late
  obtain ⟨message, member, same⟩ := listed
  refine ⟨message, member, same, answered_of_replayed carry replayed (fun deed inside => ?_) message member⟩
  rw [did_iff, whole]
  exact List.mem_append_right _ inside

/-- Such a batch has called `batch_run` in vain, if at all. -/
theorem ran_of_replayed {attempt replay : List Deed}
    (marked : BatchStage.Marked self redis.cancelled messages parsed before)
    (attempted : Attempted self parsed attempt) (replayed : Replayed self redis.cancelled messages replay)
    (whole : chronicle crew.world.log = before ++ attempt ++ replay)
    (jobs : List (String × NativeGateIR × Int)) (results : List ExecutionResult) :
    ¬ Did crew.world.log (.batchRan jobs (.ok results)) := by
  rw [did_iff, whole]
  simp only [List.mem_append, marked.not_batchRan, replayed.anyOf.not_batchRan, false_or, or_false]
  cases attempted with
  | failed => simp
  | gone => simp

end Returned

/-- A batch that has returned still owes an answer to the messages it has sifted out, unless each of its messages
has been processed again by itself. -/
theorem vouched_iff_of_returned (undisturbed : policy.Undisturbed) (sole : policy.Sole) (steady : policy.Steady)
    (carry : ∀ message ∈ messages, message.read = .ok (some message.job))
    (distinct : (messages.map StreamMessage.messageId).Nodup)
    (reaches : Pool.Reaches (machine self policy)
      (Pool.single { redis := redis } .loop (discard (processBatch self messages))) system)
    (returned : system.Returned) :
    Vouched self messages system.state.log ↔
      (∀ message ∈ messages, redis.Fits self message) ∨ FallsBack self redis messages system.state.log := by
  have agrees := Ledger.of_reaches undisturbed sole reaches
  have flags (jobId : String) (flagged : Did system.state.log (.flagged jobId)) : redis.cancelled jobId = true :=
    World.flag_of_flagged steady reaches (did_iff.mp flagged)
  have fit (fits : ∀ message ∈ messages, redis.Fits self message) : Vouched self messages system.state.log :=
    batch_vouched undisturbed sole carry fits reaches
  obtain ⟨crew, stands, account, led, -⟩ := BatchStage.landed undisturbed sole reaches
  obtain ⟨delivery, stage⟩ := stands.of_returned returned
  rw [← stands.1] at agrees flags fit ⊢
  have main := account.main
  rw [stage] at main
  generalize whole : deeds none crew.world.log = all at main
  cases main with
  | @idle sifting sifted =>
      have alone := account.chronicle_eq fun spec number created => by
        rw [whole] at created
        simp [sifted.anyOf.not_created] at created
      rw [whole] at alone
      have truthful := agrees.2
      rw [alone, ← List.append_nil sifting] at truthful
      have none_ : [] = messages.filterMap (StreamMessage.accepted self redis) :=
        sifted.eq_accepted (truthful_of_called truthful) fun jobId inside =>
          flags jobId (did_iff.mpr (by simp [alone, inside]))
      constructor
      · exact fun vouched => .inl (fits_of_idle distinct sifted alone agrees.2 flags vouched)
      · rintro (fits | ⟨some_, -⟩)
        · exact fit fits
        · exact absurd none_.symm some_
  | @replayed parsed before attempt replay marked attempted replayed =>
      have alone := account.chronicle_eq fun spec number created => by
        rw [whole] at created
        simp only [List.mem_append, marked.not_created, replayed.anyOf.not_created, false_or, or_false] at created
        cases attempted <;> simp at created
      rw [whole] at alone
      have some_ : messages.filterMap (StreamMessage.accepted self redis) ≠ [] := by
        obtain ⟨sifting, -, some_, -⟩ := sifted_of_marked marked
        rw [← marked.eq_accepted (by rw [List.append_assoc] at alone; exact ⟨_, alone.symm⟩) agrees.2
          fun jobId inside => flags jobId (did_iff.mpr inside)]
        exact some_
      exact ⟨fun _ => .inr ⟨some_, ran_of_replayed marked attempted replayed alone⟩,
        fun _ => vouched_of_replayed carry marked attempted replayed alone⟩
  | @handed parsed results before number marked =>
      constructor
      · exact fun vouched => .inl (fits_of_handed distinct marked whole account led agrees.2 flags vouched)
      · rintro (fits | ⟨-, unreturned⟩)
        · exact fit fits
        · refine absurd ⟨none, ?_⟩ (unreturned (batchJobs parsed) results)
          rw [whole]
          simp

end Silence

open Silence in
/-- Messages that carry the two required fields, while nothing fails and nobody else writes a status: a
message by itself is never acknowledged in silence, and neither is one of a batch in which every message
that cannot be parsed is about a job that was settled or flagged before. While moreover no flag changes, a
batch of distinct entries that has returned has acknowledged none in silence exactly then, or when it fell
back to its messages one by one. -/
theorem acknowledged_answered (self : Consumer) (redis : Redis) (system : System) :
    (∀ message : StreamMessage, message.read = .ok (some message.job) →
      Pool.Reaches (machine self .exclusive)
        (Pool.single { redis := redis } .loop (processEntry self message)) system →
      ∀ messageId, Did system.state.log (.acked messageId) →
        messageId = message.messageId ∧ Answered self system.state.log message) ∧
    (∀ messages : List StreamMessage, (∀ message ∈ messages, message.read = .ok (some message.job)) →
      (∀ message ∈ messages, redis.Fits self message) →
      Pool.Reaches (machine self .exclusive)
        (Pool.single { redis := redis } .loop (discard (processBatch self messages))) system →
      ∀ messageId, Did system.state.log (.acked messageId) →
        ∃ message ∈ messages, message.messageId = messageId ∧ Answered self system.state.log message) ∧
    (∀ messages : List StreamMessage, (∀ message ∈ messages, message.read = .ok (some message.job)) →
      (messages.map StreamMessage.messageId).Nodup →
      Pool.Reaches (machine self .constant)
        (Pool.single { redis := redis } .loop (discard (processBatch self messages))) system →
      system.Returned →
      ((∀ messageId, Did system.state.log (.acked messageId) →
          ∃ message ∈ messages, message.messageId = messageId ∧ Answered self system.state.log message) ↔
        (∀ message ∈ messages, redis.Fits self message) ∨
          FallsBack self redis messages system.state.log)) := by
  refine ⟨?_, ?_, ?_⟩
  · intro message reading reaches messageId did
    obtain ⟨other, member, same, answered⟩ := message_vouched reading reaches messageId did
    rw [List.mem_singleton.mp member] at same answered
    exact ⟨same.symm, answered⟩
  · intro messages carry fit reaches
    exact batch_vouched Policy.exclusive_undisturbed Policy.exclusive_sole carry fit reaches
  · intro messages carry distinct reaches returned
    exact vouched_iff_of_returned Policy.constant_undisturbed Policy.constant_sole Policy.constant_steady carry
      distinct reaches returned

/-! ### A batch with a circuit that does not parse -/

namespace Silence

/-- A well-formed message, and one whose circuit is not JSON. -/
def garbled : List StreamMessage := [Sample.message "1-0" "good", Sample.entry "2-0" "bad" "garbage"]

/-- The batch, while nothing fails and no flag changes. -/
def garbledRun : System :=
  System.play Sample.consumer .constant (Surroundings.plain Sample.result)
    (List.replicate 20 (.task 0) ++ List.replicate 8 (.task 1) ++ List.replicate 8 (.task 2) ++
      List.replicate 8 (.task 1))
    (Pool.single { redis := Sample.delivered garbled } .loop
      (discard (processBatch Sample.consumer garbled)))

/-- The same batch when the job that does not parse is flagged for cancellation. -/
def flagged : Redis := { Sample.delivered garbled with cancelled := fun job => job = "bad" }

def flaggedRun : System :=
  System.play Sample.consumer .exclusive (Surroundings.plain Sample.result)
    (List.replicate 20 (.task 0) ++ List.replicate 8 (.task 1) ++ List.replicate 8 (.task 2) ++
      List.replicate 8 (.task 1))
    (Pool.single { redis := flagged } .loop (discard (processBatch Sample.consumer garbled)))

theorem garbledRun_reaches :
    Pool.Reaches (machine Sample.consumer .constant)
      (Pool.single { redis := Sample.delivered garbled } .loop
        (discard (processBatch Sample.consumer garbled))) garbledRun :=
  System.play_reaches (Surroundings.plain_within fun _ _ _ _ => trivial) _ _ (by simp)

theorem garbledRun_returned : garbledRun.Returned := by
  have head : garbledRun.tasks.head? = some (Role.loop, (.ret () : Task Unit)) := rfl
  exact List.mem_of_head? head

theorem flaggedRun_reaches :
    Pool.Reaches (machine Sample.consumer .exclusive)
      (Pool.single { redis := flagged } .loop (discard (processBatch Sample.consumer garbled))) flaggedRun :=
  System.play_reaches (Surroundings.plain_within fun _ _ _ _ => trivial) _ _ (by simp)

theorem garbled_carry : ∀ message ∈ garbled, message.read = .ok (some message.job) := by decide +kernel

/-- Nothing was found out, recorded or sent about the job. -/
def quiet (jobId : String) : Deed → Bool
  | .saw id (some _) => id ≠ jobId
  | .wrote id _ => id ≠ jobId
  | .reported _ payload _ => payload.jobId ≠ jobId
  | .reportedFailure _ id _ _ => id ≠ jobId
  | _ => true

theorem not_accounted_of_quiet {job : JobMessage} {log : List Entry}
    (all : ∀ deed ∈ chronicle log, quiet job.jobId deed = true) : ¬ Accounted job log := by
  rintro (⟨state, -, seen | ⟨mapping, -, wrote⟩⟩ | ⟨payload, outcome, same, sent⟩ | ⟨error, outcome, sent⟩)
  · simpa [quiet] using all _ (did_iff.mp seen)
  · simpa [quiet] using all _ (did_iff.mp wrote)
  · simpa [quiet, same] using all _ (did_iff.mp sent)
  · simpa [quiet] using all _ (did_iff.mp sent)

end Silence

open Silence in
/-- The result, for a batch whose garbled job was flagged before, and for the batch without the flag, which has
returned too. -/
theorem acknowledged_answered_flaggedRun :
    (∃ message ∈ garbled, message.messageId = "2-0" ∧
      Answered Sample.consumer flaggedRun.state.log message) ∧
    ((∀ messageId, Did garbledRun.state.log (.acked messageId) →
        ∃ message ∈ garbled, message.messageId = messageId ∧
          Answered Sample.consumer garbledRun.state.log message) ↔
      (∀ message ∈ garbled, (Sample.delivered garbled).Fits Sample.consumer message) ∨
        FallsBack Sample.consumer (Sample.delivered garbled) garbled garbledRun.state.log) := by
  have fits : ∀ message ∈ garbled, flagged.Fits Sample.consumer message := by
    intro message member
    rcases List.mem_cons.mp member with rfl | other
    · exact .inl ⟨_, rfl⟩
    · rw [List.mem_singleton.mp other]
      exact .inr (.inr (by decide +kernel))
  constructor
  · exact (acknowledged_answered Sample.consumer flagged flaggedRun).2.1 garbled garbled_carry fits
      flaggedRun_reaches "2-0" (by decide +kernel)
  · exact (acknowledged_answered Sample.consumer _ garbledRun).2.2 garbled garbled_carry (by decide)
      garbledRun_reaches garbledRun_returned

open Silence in
/-- Read together with another message, a message with a garbled circuit is acknowledged in silence. -/
theorem not_acknowledged_answered :
    ¬ ∀ (self : Consumer) (redis : Redis) (messages : List StreamMessage),
      (∀ message ∈ messages, message.read = .ok (some message.job)) → ∀ system : System,
      Pool.Reaches (machine self .constant)
        (Pool.single { redis := redis } .loop (discard (processBatch self messages))) system →
      ∀ messageId, Did system.state.log (.acked messageId) →
        ∃ message ∈ messages, message.messageId = messageId ∧ Answered self system.state.log message := by
  intro claim
  obtain ⟨message, member, named, answered⟩ := claim Sample.consumer (Sample.delivered garbled) garbled
    garbled_carry garbledRun garbledRun_reaches "2-0" (by decide +kernel)
  rcases List.mem_cons.mp member with rfl | other
  · exact absurd named (by decide +kernel)
  · rw [List.mem_singleton.mp other] at answered
    exact not_accounted_of_quiet (by decide +kernel) answered.accounted

end CodaNode
