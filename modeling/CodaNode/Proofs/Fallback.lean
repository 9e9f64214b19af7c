/-
Module: CodaNode.Proofs.Fallback
Layer: Proofs
Purpose: A batch whose `batch_run` fails is no different from its messages processed one after another. The
  attempt has marked the accepted jobs as executing and the flagged ones as cancelled; the first message of
  such a job overwrites the one and would have written the other.
Imports: CodaNode.Protocol.Queue, CodaNode.Protocol.Steady, CodaNode.Proofs.BatchLength
Main exports: feedback, Agreement, fallback_agrees
-/
import CodaNode.Protocol.Queue
import CodaNode.Protocol.Steady
import CodaNode.Proofs.BatchLength

namespace CodaNode

open Coroutine Steady

/-- What the executor comes back with from a run, and the cloud from a result. -/
inductive Feedback where
  | ran (outcome : Except Exc ExecutionResult)
  | sent (outcome : Except Exc Unit)
deriving DecidableEq

/-- The feedback of a deed. -/
def Deed.feedback : Deed → Option Feedback
  | .returned outcome => some (.ran outcome)
  | .reported _ _ outcome => some (.sent outcome)
  | _ => none

/-- The feedback a run has got, oldest first. -/
def feedback (deeds : List Deed) : List Feedback := deeds.filterMap Deed.feedback

/-- Two runs on the same Redis have come to the same: the status hashes up to the times of day, the executor
calls and the webhooks in their order, and the acknowledged messages. -/
structure Agreement (redis : Redis) (first second : World) : Prop where
  hashes : ∀ job, (first.redis.status job).timeless = (second.redis.status job).timeless
  runs : ((Ledger.opening redis).after (chronicle first.log)).runs =
    ((Ledger.opening redis).after (chronicle second.log)).runs
  webhooks : ((Ledger.opening redis).after (chronicle first.log)).webhooks =
    ((Ledger.opening redis).after (chronicle second.log)).webhooks
  acked : ∀ messageId, Did first.log (.acked messageId) ↔ Did second.log (.acked messageId)

namespace Fallback

theorem feedback_append (deeds more : List Deed) : feedback (deeds ++ more) = feedback deeds ++ feedback more :=
  List.filterMap_append

/-- The deed without the outcome of an error webhook, which nobody looks at. -/
def mute : Deed → Deed
  | .reportedFailure callbackUrl jobId error _ => .reportedFailure callbackUrl jobId error (.ok ())
  | deed => deed

theorem record_mute (ledger : Ledger) (deed : Deed) : ledger.record (mute deed) = ledger.record deed := by
  cases deed <;> rfl

theorem after_mute (ledger : Ledger) (deeds : List Deed) : ledger.after (deeds.map mute) = ledger.after deeds := by
  induction deeds generalizing ledger with
  | nil => rfl
  | cons deed deeds ih => rw [List.map_cons, Ledger.after_cons, Ledger.after_cons, record_mute, ih]

/-! ### One message -/

variable {self : Consumer} {flags : String → Bool} {message : StreamMessage} {here there : List Deed}

/-- The same feedback leads to the same end. -/
theorem Handled.same (first : Steady.Handled self message here) (second : Steady.Handled self message there)
    {stream before after : List Feedback} (leads : feedback here ++ before <+: stream)
    (follows : feedback there ++ after <+: stream) : here.map mute = there.map mute := by
  obtain ⟨rest, rfl⟩ := leads
  obtain ⟨others, same⟩ := follows
  cases first with
  | unparsed failed =>
      cases second with
      | unparsed failed' =>
          cases failed.symm.trans failed'
          rfl
      | raised parsed | undelivered parsed | completed parsed => cases failed.symm.trans parsed
  | raised parsed =>
      cases second with
      | unparsed failed => cases failed.symm.trans parsed
      | raised parsed' =>
          obtain ⟨answer, -⟩ := List.cons.inj same
          cases parsed.symm.trans parsed'
          cases answer
          rfl
      | undelivered | completed => cases same
  | undelivered parsed =>
      cases second with
      | unparsed failed => cases failed.symm.trans parsed
      | undelivered parsed' =>
          obtain ⟨answer, others⟩ := List.cons.inj same
          obtain ⟨sent, -⟩ := List.cons.inj others
          cases parsed.symm.trans parsed'
          cases answer
          cases sent
          rfl
      | raised | completed => cases same
  | completed parsed =>
      cases second with
      | unparsed failed => cases failed.symm.trans parsed
      | completed parsed' =>
          obtain ⟨answer, others⟩ := List.cons.inj same
          obtain ⟨sent, -⟩ := List.cons.inj others
          cases parsed.symm.trans parsed'
          cases answer
          cases sent
          rfl
      | raised | undelivered => cases same

/-! ### The lead of the attempt -/

/-- Two accounts that tell the same of this job, the executor and the cloud. -/
structure Even (jobId : String) (first second : Ledger) : Prop where
  status : first.status jobId = second.status jobId
  runs : first.runs = second.runs
  webhooks : first.webhooks = second.webhooks

theorem Even.record {jobId : String} {first second : Ledger} (even : Even jobId first second) (deed : Deed) :
    Even jobId (first.record deed) (second.record deed) := by
  obtain ⟨status, runs, webhooks⟩ := even
  cases deed with
  | wrote other mapping =>
      refine ⟨?_, runs, webhooks⟩
      simp only [Ledger.record, Ledger.write, status]
  | ran other ir shots => exact ⟨status, by simp only [Ledger.record, runs], webhooks⟩
  | reported | reportedFailure => exact ⟨status, runs, by simp only [Ledger.record, webhooks]⟩
  | _ => exact ⟨status, runs, webhooks⟩

theorem Even.after {jobId : String} (deeds : List Deed) {first second : Ledger} (even : Even jobId first second) :
    Even jobId (first.after deeds) (second.after deeds) := by
  induction deeds generalizing first second with
  | nil => exact even
  | cons deed deeds ih => exact ih (even.record deed)

/-- What a job looks like behind the attempt, beside what it looks like without it, while these messages are
still to come. -/
inductive Apart (self : Consumer) (flags : String → Bool) (todo : List StreamMessage) (jobId : String)
    (behind without : StatusHash) : Prop where
  | same (same : behind = without)
  | marked (clear : flags jobId = false) (unsettled : Unsettled without.state)
      (pending : ∃ message ∈ todo, message.About jobId) (ahead : behind = without.merge (executingHash self))
  | dropped {message : StreamMessage} (set : flags jobId = true) (unsettled : Unsettled without.state)
      (next : Next jobId message todo) (ahead : behind = without.merge (cancelledHash self message))

/-- The account of the fallback, beside the account of the messages by themselves. -/
structure Ahead (consumer : Consumer) (flags : String → Bool) (todo : List StreamMessage)
    (behind without : Ledger) : Prop where
  jobs : ∀ job, Apart consumer flags todo job (behind.status job) (without.status job)
  runs : behind.runs = without.runs
  webhooks : behind.webhooks = without.webhooks

/-- A message about another job leaves the lead as it is. -/
theorem Apart.shift {todo : List StreamMessage} {jobId : String} {behind without : StatusHash}
    (apart : Apart self flags (message :: todo) jobId behind without) (other : ¬ message.About jobId) :
    Apart self flags todo jobId behind without := by
  cases apart with
  | same same => exact .same same
  | marked clear unsettled pending ahead =>
      obtain ⟨next, member, about⟩ := pending
      rcases List.mem_cons.mp member with rfl | later
      · exact absurd about other
      · exact .marked clear unsettled ⟨next, later, about⟩ ahead
  | dropped set unsettled next ahead =>
      cases next with
      | head about => exact absurd about other
      | later _ next => exact .dropped set unsettled next ahead

/-- A job that is taken on again loses what the batch has written. -/
theorem merge_executing (without : StatusHash) (messageId : String) :
    (without.merge (executingHash self)).merge
        { state := some .executing
          startedAt := some ""
          messageId := some messageId
          qpuId := some self.qpuId } =
      without.merge
        { state := some .executing
          startedAt := some ""
          messageId := some messageId
          qpuId := some self.qpuId } := by
  simp [StatusHash.merge, executingHash]

theorem feedback_mute (deeds : List Deed) : feedback (deeds.map mute) = feedback deeds := by
  induction deeds with
  | nil => rfl
  | cons deed deeds ih =>
      rw [List.map_cons, ← List.singleton_append, feedback_append, ih, ← feedback_append]
      cases deed <;> rfl

/-- Both calls handle the job. -/
theorem even_of_handled {behind without : Ledger} {more others : List Deed} {state state' : Option JobState}
    (even : Even message.job.jobId (behind.record (Stage.wroteExecuting self message))
      (without.record (Stage.wroteExecuting self message)))
    (first : Steady.Handled self message more) (second : Steady.Handled self message others)
    (split : here = .called message :: .saw message.job.jobId state :: Stage.wroteExecuting self message ::
      (more ++ [.acked message.messageId]))
    (split' : there = .called message :: .saw message.job.jobId state' :: Stage.wroteExecuting self message ::
      (others ++ [.acked message.messageId]))
    {stream before after : List Feedback} (leads : feedback here ++ before <+: stream)
    (follows : feedback there ++ after <+: stream) :
    Even message.job.jobId (behind.after here) (without.after there) ∧ feedback here = feedback there := by
  have told (deeds : List Deed) (state : Option JobState) :
      feedback (.called message :: .saw message.job.jobId state :: Stage.wroteExecuting self message ::
        (deeds ++ [.acked message.messageId])) = feedback deeds := by
    change feedback ([.called message, .saw message.job.jobId state, Stage.wroteExecuting self message] ++
      (deeds ++ [.acked message.messageId])) = _
    rw [feedback_append, feedback_append]
    exact List.append_nil _
  subst split split'
  rw [told] at leads follows ⊢
  rw [told]
  have same := Handled.same first second leads follows
  constructor
  · -- the look-up leaves no trace in an account
    change Even _ ((behind.record (Stage.wroteExecuting self message)).after (more ++ [.acked message.messageId]))
      ((without.record (Stage.wroteExecuting self message)).after (others ++ [.acked message.messageId]))
    rw [Ledger.after_append, Ledger.after_append, ← after_mute _ others, ← same, after_mute]
    exact (even.after more).after [.acked message.messageId]
  · rw [← feedback_mute more, same, feedback_mute]

/-- At a message about the job, the lead ends. -/
theorem even_of_verdicts {todo : List StreamMessage} {behind without : Ledger}
    (about : message.About message.job.jobId) (ahead : Ahead self flags (message :: todo) behind without)
    (first : Verdict self flags message (behind.status message.job.jobId).state here)
    (second : Verdict self flags message (without.status message.job.jobId).state there)
    {stream before after : List Feedback} (leads : feedback here ++ before <+: stream)
    (follows : feedback there ++ after <+: stream) :
    Even message.job.jobId (behind.after here) (without.after there) ∧ feedback here = feedback there := by
  obtain ⟨jobs, runs, webhooks⟩ := ahead
  generalize status : behind.status message.job.jobId = hash at first
  generalize status' : without.status message.job.jobId = hash' at second
  have apart := jobs message.job.jobId
  rw [status, status'] at apart
  cases apart with
  | same same =>
      subst same
      have even : Even message.job.jobId behind without := ⟨status.trans status'.symm, runs, webhooks⟩
      cases first with
      | kept settled =>
          cases second with
          | kept => exact ⟨even.after _, rfl⟩
          | dropped unsettled | handled unsettled => exact absurd unsettled settled
      | dropped unsettled set =>
          cases second with
          | kept settled => exact absurd unsettled settled
          | dropped => exact ⟨even.after _, rfl⟩
          | handled _ clear => cases clear.symm.trans set
      | handled unsettled clear handled =>
          cases second with
          | kept settled => exact absurd unsettled settled
          | dropped _ set => cases clear.symm.trans set
          | handled _ _ handled' => exact even_of_handled (even.record _) handled handled' rfl rfl leads follows
  | marked clear unsettled _ lead =>
      have even : Even message.job.jobId (behind.record (Stage.wroteExecuting self message))
          (without.record (Stage.wroteExecuting self message)) := by
        refine ⟨?_, runs, webhooks⟩
        simp only [Ledger.record, Stage.wroteExecuting, Ledger.write, if_true, status, status', lead]
        exact merge_executing hash' message.job.messageId
      have open_ : Unsettled hash.state := by
        rw [lead]
        exact ⟨by simp [StatusHash.merge, executingHash], by simp [StatusHash.merge, executingHash]⟩
      cases first with
      | kept settled => exact absurd open_ settled
      | dropped _ set => cases clear.symm.trans set
      | handled _ _ handled =>
          cases second with
          | kept settled => exact absurd unsettled settled
          | dropped _ set => cases clear.symm.trans set
          | handled _ _ handled' => exact even_of_handled even handled handled' rfl rfl leads follows
  | dropped set unsettled next lead =>
      have shut : ¬ Unsettled hash.state := by
        rw [lead]
        exact settled_of_final (.inr rfl)
      cases first with
      | kept =>
          cases second with
          | kept settled => exact absurd unsettled settled
          | dropped =>
              cases next with
              | head =>
                  refine ⟨⟨?_, runs, webhooks⟩, rfl⟩
                  change behind.status message.job.jobId =
                    (without.write message.job.jobId (cancelledHash self message)).status message.job.jobId
                  rw [Ledger.write_same, status, status', lead]
              | later apart => exact absurd about apart
          | handled _ clear => cases clear.symm.trans set
      | dropped unsettled => exact absurd unsettled shut
      | handled unsettled => exact absurd unsettled shut

/-- One message of the fallback, beside the same message by itself. -/
theorem Ahead.served {rest : List StreamMessage} {behind without : Ledger}
    (ahead : Ahead self flags (message :: rest) behind without)
    (first : Stage.Served self flags message here) (second : Stage.Served self flags message there)
    (truthful : behind.Truthful here) (truthful' : without.Truthful there)
    (constant : ∀ jobId, .flagged jobId ∈ here → flags jobId = true)
    (constant' : ∀ jobId, .flagged jobId ∈ there → flags jobId = true)
    {stream before after : List Feedback} (leads : feedback here ++ before <+: stream)
    (follows : feedback there ++ after <+: stream) :
    Ahead self flags rest (behind.after here) (without.after there) ∧ feedback here = feedback there := by
  obtain ⟨found, reading⟩ := first.read
  cases found with
  | none =>
      have other (jobId : String) : ¬ message.About jobId := by
        rintro ⟨about, -⟩
        rw [reading] at about
        cases about
      rw [malformed_of_served first reading, malformed_of_served second reading]
      exact ⟨⟨fun job => (ahead.jobs job).shift (other job), ahead.runs, ahead.webhooks⟩, rfl⟩
  | some job =>
      have read : message.read = .ok (some message.job) := by
        rw [StreamMessage.job_of_read reading, reading]
      obtain ⟨even, same⟩ := even_of_verdicts ⟨read, rfl⟩ ahead
        (verdict_of_served first read truthful (constant _)) (verdict_of_served second read truthful' (constant' _))
        leads follows
      refine ⟨⟨fun job => ?_, even.runs, even.webhooks⟩, same⟩
      by_cases about : message.About job
      · obtain ⟨-, rfl⟩ := about
        exact .same even.status
      · rw [first.status_other about, second.status_other about]
        exact (ahead.jobs job).shift about

/-! ### All messages -/

theorem of_replayed_nil (replayed : Replayed self flags [] here) : here = [] := by
  generalize none_ : ([] : List StreamMessage) = done at replayed
  cases replayed with
  | nil => rfl
  | served => simp at none_

theorem of_replayed_append {done : List StreamMessage} (replayed : Replayed self flags (done ++ [message]) here) :
    ∃ before more, here = before ++ more ∧ Replayed self flags done before ∧
      Stage.Served self flags message more := by
  generalize split : done ++ [message] = all at replayed
  cases replayed with
  | nil => simp at split
  | served replayed served =>
      obtain ⟨rfl, last⟩ := List.append_inj' split rfl
      cases last
      exact ⟨_, _, rfl, replayed, served⟩

/-- The fallback, beside the messages by themselves. -/
theorem Ahead.replayed {done : List StreamMessage} (first : Replayed self flags done here)
    {rest : List StreamMessage} {behind without : Ledger} (second : Replayed self flags done there)
    (ahead : Ahead self flags (done ++ rest) behind without)
    (truthful : behind.Truthful here) (truthful' : without.Truthful there)
    (constant : ∀ jobId, .flagged jobId ∈ here → flags jobId = true)
    (constant' : ∀ jobId, .flagged jobId ∈ there → flags jobId = true)
    {stream before after : List Feedback} (leads : feedback here ++ before <+: stream)
    (follows : feedback there ++ after <+: stream) :
    Ahead self flags rest (behind.after here) (without.after there) ∧ feedback here = feedback there := by
  induction first generalizing there rest before after with
  | nil =>
      rw [of_replayed_nil second]
      exact ⟨ahead, rfl⟩
  | @served done message early late replayed served ih =>
      obtain ⟨early', late', rfl, replayed', served'⟩ := of_replayed_append second
      rw [List.append_assoc, List.singleton_append] at ahead
      obtain ⟨truthful, last⟩ := Ledger.Truthful.append_iff.mp truthful
      obtain ⟨truthful', last'⟩ := Ledger.Truthful.append_iff.mp truthful'
      rw [feedback_append, List.append_assoc] at leads follows
      obtain ⟨ahead, same⟩ := ih replayed' ahead truthful truthful'
        (fun jobId inside => constant jobId (List.mem_append_left _ inside))
        (fun jobId inside => constant' jobId (List.mem_append_left _ inside)) leads follows
      -- what is left of the stream behind the earlier messages
      obtain ⟨left, rfl⟩ := leads
      rw [← same, List.append_assoc (feedback early), List.prefix_append_right_inj] at follows
      obtain ⟨ahead, same'⟩ := ahead.served served served' last last'
        (fun jobId inside => constant jobId (List.mem_append_right _ inside))
        (fun jobId inside => constant' jobId (List.mem_append_right _ inside)) (List.prefix_append _ left) follows
      rw [Ledger.after_append, Ledger.after_append, feedback_append, feedback_append, same, same']
      exact ⟨ahead, rfl⟩

/-! ### The attempt -/

/-- What only Redis is told leaves the executor calls and the webhooks as they are. -/
theorem silent_of_internal {messages : List StreamMessage} {deeds : List Deed}
    (internal : ∀ deed ∈ deeds, deed = .calledBatch messages ∨ deed.internal = true) (ledger : Ledger) :
    (ledger.after deeds).runs = ledger.runs ∧ (ledger.after deeds).webhooks = ledger.webhooks := by
  induction deeds generalizing ledger with
  | nil => exact ⟨rfl, rfl⟩
  | cons deed deeds ih =>
      obtain ⟨runs, webhooks⟩ := ih (fun other inside => internal other (List.mem_cons_of_mem _ inside))
        (ledger.record deed)
      rw [Ledger.after_cons, runs, webhooks]
      rcases internal deed List.mem_cons_self with rfl | inside
      · exact ⟨rfl, rfl⟩
      · cases deed with
        | ran | reported | reportedFailure => cases inside
        | _ => exact ⟨rfl, rfl⟩

/-- What only Redis is told brings no feedback. -/
theorem feedback_of_internal {messages : List StreamMessage} {deeds : List Deed}
    (internal : ∀ deed ∈ deeds, deed = .calledBatch messages ∨ deed.internal = true) : feedback deeds = [] := by
  apply List.filterMap_eq_nil_iff.mpr
  intro deed inside
  rcases internal deed inside with rfl | silent
  · rfl
  · cases deed with
    | returned | reported => cases silent
    | _ => rfl

variable {redis : Redis} {messages : List StreamMessage} {parsed : List ParsedJob}

theorem after_attempted {attempt : List Deed} (attempted : Attempted self parsed attempt) (ledger : Ledger) :
    ledger.after attempt = ledger := by
  cases attempted <;> rfl

theorem feedback_attempted {attempt : List Deed} (attempted : Attempted self parsed attempt) :
    feedback attempt = [] := by
  cases attempted <;> rfl

/-- No message is left that could make a difference. -/
theorem Apart.settle {jobId : String} {behind without : StatusHash} (apart : Apart self flags [] jobId behind without) :
    behind = without := by
  cases apart with
  | same same => exact same
  | marked _ _ pending =>
      obtain ⟨message, inside, -⟩ := pending
      cases inside
  | dropped _ _ next => cases next

/-- Where the fallback starts. -/
theorem ahead_of_marked (marked : BatchStage.Marked self redis.cancelled messages parsed here)
    (truthful : (Ledger.opening redis).Truthful here)
    (constant : ∀ jobId, .flagged jobId ∈ here → redis.cancelled jobId = true) :
    Ahead self redis.cancelled messages ((Ledger.opening redis).after here) (Ledger.opening redis) := by
  obtain ⟨runs, webhooks⟩ := silent_of_internal marked.internal (Ledger.opening redis)
  refine ⟨fun jobId => ?_, runs, webhooks⟩
  rcases Steady.status_of_marked marked truthful constant jobId with
    ⟨job, inside, rfl, merged⟩ | ⟨message, set, unsettled, next, merged⟩ | ⟨same, -⟩
  · obtain ⟨message, listed, taken⟩ := List.mem_filterMap.mp inside
    obtain ⟨reading, unsettled, clear, ir, shots, -, rfl⟩ := open_of_accepted taken
    exact .marked clear unsettled ⟨message, listed, reading, rfl⟩ merged
  · exact .dropped set unsettled next merged
  · exact .same same

/-- The chronicle of a batch that fell back. -/
theorem chronicle_of_fallback {policy : Policy} (undisturbed : policy.Undisturbed) {system : System}
    (reaches : Pool.Reaches (machine self policy)
      (Pool.single { redis := redis } .loop (discard (processBatch self messages))) system)
    (ended : system.Ended) {message : StreamMessage} (fellBack : Did system.state.log (.called message)) :
    ∃ parsed here attempt replay, BatchStage.Marked self redis.cancelled messages parsed here ∧
      Attempted self parsed attempt ∧ Replayed self redis.cancelled messages replay ∧
      chronicle system.state.log = here ++ attempt ++ replay := by
  obtain ⟨crew, stands, account⟩ := BatchStage.account undisturbed reaches
  obtain ⟨⟨outcome, past⟩, -⟩ := stands.ended ended
  rw [← stands.1] at fellBack ⊢
  have main := account.main
  obtain ⟨ending, stage⟩ := past.ended
  rw [stage] at main
  generalize whole : deeds none crew.world.log = here at main
  have alone (apart : ∀ spec number, .created spec number ∉ here) : chronicle crew.world.log = here := by
    rw [← whole] at apart ⊢
    exact account.chronicle_eq apart
  cases main with
  | undecodable split sifted reading =>
      have called := did_iff.mp fellBack
      rw [alone (by simp [sifted.anyOf.not_created])] at called
      cases sifted.internal _ ((List.mem_cons.mp called).resolve_left (by simp))
  | idle sifted =>
      have called := did_iff.mp fellBack
      rw [alone (by simp [sifted.anyOf.not_created])] at called
      cases sifted.internal _ ((List.mem_cons.mp called).resolve_left (by simp))
  | replayed marked attempted replayed =>
      have all := alone (by simp [marked.not_created, attempted.not_created, replayed.anyOf.not_created])
      exact ⟨_, _, _, _, marked, attempted, replayed, all⟩
  | handed marked =>
      obtain ⟨seat, inside⟩ := fellBack
      cases seat with
      | none =>
          rw [whole] at inside
          rcases List.mem_append.mp inside with early | late
          · rcases marked.internal _ early with same | internal
            · cases same
            · cases internal
          · simp at late
      | some seat =>
          rcases BatchLength.origin_of_handed marked whole account inside with ⟨_, _, same⟩ | ⟨_, _, _, -, -, of⟩
          · cases same
          · exact of.elim

end Fallback

open Fallback in
/-- A batch that falls back to single jobs comes to the same as its messages processed one after another, when
the executor and the cloud come back with the same, no Redis command of the two runs fails and nothing is
cancelled. -/
theorem fallback_agrees (self : Consumer) (redis : Redis) (messages : List StreamMessage)
    (policy : Policy) (undisturbed : policy.Undisturbed) (sole : policy.Sole) (steady : policy.Steady)
    (batch single : System)
    (batches : Pool.Reaches (machine self policy)
      (Pool.single { redis := redis } .loop (discard (processBatch self messages))) batch)
    (singles : Pool.Reaches (machine self policy)
      (Pool.single { redis := redis } .loop (Coro.forEach messages (processEntry self))) single)
    (batchEnded : batch.Ended) (singleEnded : single.Ended)
    (fellBack : ∃ message, Did batch.state.log (.called message)) (stream : List Feedback)
    (leads : feedback (chronicle batch.state.log) <+: stream)
    (follows : feedback (chronicle single.state.log) <+: stream) :
    Agreement redis batch.state single.state := by
  obtain ⟨message, fellBack⟩ := fellBack
  obtain ⟨parsed, here, attempt, replay, marked, attempted, replayed, whole⟩ :=
    chronicle_of_fallback undisturbed batches batchEnded fellBack
  have readable : ∀ message ∈ messages, ∃ found, message.read = .ok found := by
    cases marked with
    | mk sifted some_ => exact sifted.read
  have queue := queue_replayed undisturbed readable singles singleEnded
  have agrees := Ledger.of_reaches undisturbed sole batches
  have agrees' := Ledger.of_reaches undisturbed sole singles
  have constant : ∀ jobId, .flagged jobId ∈ chronicle batch.state.log → redis.cancelled jobId = true :=
    fun jobId inside => World.flag_of_flagged steady batches inside
  have constant' : ∀ jobId, .flagged jobId ∈ chronicle single.state.log → redis.cancelled jobId = true :=
    fun jobId inside => World.flag_of_flagged steady singles inside
  have truthful := agrees.2
  rw [whole] at truthful constant leads
  obtain ⟨attempts, replays⟩ := Ledger.Truthful.append_iff.mp truthful
  have ahead := ahead_of_marked marked (Ledger.Truthful.append_iff.mp attempts).1 fun jobId inside =>
    constant jobId (List.mem_append_left _ (List.mem_append_left _ inside))
  rw [Ledger.after_append, after_attempted attempted] at replays
  rw [← List.append_nil messages] at ahead
  rw [feedback_append, feedback_append, feedback_of_internal marked.internal, feedback_attempted attempted,
    List.nil_append, List.nil_append, ← List.append_nil (feedback replay)] at leads
  rw [← List.append_nil (feedback (chronicle _))] at follows
  obtain ⟨⟨jobs, runs, webhooks⟩, -⟩ := ahead.replayed replayed queue replays agrees'.2
    (fun jobId inside => constant jobId (List.mem_append_right _ inside)) constant' leads follows
  have ledger : (Ledger.opening redis).after (chronicle batch.state.log) =
      ((Ledger.opening redis).after here).after replay := by
    rw [whole, Ledger.after_append, Ledger.after_append, after_attempted attempted]
  rw [← ledger] at jobs runs webhooks
  refine ⟨fun job => ?_, runs, webhooks, fun messageId => ?_⟩
  · rw [agrees.1, agrees'.1]
    exact (jobs job).settle
  · rw [did_iff, did_iff, queue.acked_iff, whole]
    constructor
    · intro inside
      rcases List.mem_append.mp inside with early | late
      · rcases List.mem_append.mp early with early | attempt
        · exact marked.listed_of_acked early
        · cases attempted <;> simp at attempt
      · exact (replayed.acked_iff messageId).mp late
    · intro listed
      exact List.mem_append_right _ ((replayed.acked_iff messageId).mpr listed)

/-! ### A failing executor -/

namespace Fallback

/-- A job, a job that is flagged for cancellation, and the first job once more. -/
def triple : List StreamMessage :=
  [Sample.message "1-0" "first", Sample.message "2-0" "second", Sample.message "3-0" "first"]

def flaggedSecond : Redis := { Sample.delivered triple with cancelled := fun job => job = "second" }

/-- The executor takes no batches. -/
def surroundings : Surroundings := fun role world op =>
  match op with
  | .batchRun _ => some (.error ⟨.other, "busy"⟩, .answered)
  | op => Surroundings.plain Sample.result role world op

/-- The job comes to its result after so many steps. -/
def script (steps : Nat) : List (Turn EnvEvent) :=
  List.replicate steps (.task 0) ++ .env (.runFinished "first" (.ok Sample.result)) :: List.replicate 24 (.task 0)

def batchRun : System :=
  System.play Sample.consumer .constant surroundings (script 24)
    (Pool.single { redis := flaggedSecond } .loop (discard (processBatch Sample.consumer triple)))

def singleRun : System :=
  System.play Sample.consumer .constant surroundings (script 8)
    (Pool.single { redis := flaggedSecond } .loop (Coro.forEach triple (processEntry Sample.consumer)))

theorem played {body : Task Unit} (steps : Nat) :
    Pool.Reaches (machine Sample.consumer .constant) (Pool.single { redis := flaggedSecond } .loop body)
      (System.play Sample.consumer .constant surroundings (script steps)
        (Pool.single { redis := flaggedSecond } .loop body)) := by
  apply System.play_reaches
  · intro role world op outcome fate answered
    cases op with
    | batchRun jobs =>
        cases answered
        trivial
    | _ =>
        simp only [surroundings, Surroundings.plain] at answered
        obtain ⟨_, -, same⟩ := Option.map_eq_some_iff.mp answered
        cases same
        trivial
  · simp [script, Policy.constant]

end Fallback

open Fallback in
/-- The result, for that batch. -/
theorem fallback_agrees_triple : Agreement flaggedSecond batchRun.state singleRun.state :=
  fallback_agrees Sample.consumer flaggedSecond triple .constant Policy.constant_undisturbed Policy.constant_sole
    Policy.constant_steady batchRun singleRun (played 24) (played 8) (System.ended_iff.mp (by decide +kernel))
    (System.ended_iff.mp (by decide +kernel)) ⟨Sample.message "1-0" "first", by decide +kernel⟩
    [.ran (.ok Sample.result), .sent (.ok ())] ⟨[], by decide +kernel⟩ ⟨[], by decide +kernel⟩

end CodaNode
