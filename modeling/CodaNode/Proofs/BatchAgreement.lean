/-
Module: CodaNode.Proofs.BatchAgreement
Layer: Proofs
Purpose: A batch whose results are delivered in parallel is no different from its messages processed one after
  another, when `batch_run` returns what the executor returns job by job.
Imports: CodaNode.Protocol.Reports, CodaNode.Proofs.Fallback
Main exports: BatchAgreement, batch_agrees
-/
import CodaNode.Protocol.Reports
import CodaNode.Proofs.Fallback

namespace CodaNode

open Coroutine Steady

/-- The webhook of a deed. -/
def Deed.webhook : Deed → Option (String × WebhookPayload)
  | .reported callbackUrl payload _ => some (callbackUrl, payload)
  | .reportedFailure callbackUrl jobId error _ => some (callbackUrl, .ofError jobId error)
  | _ => none

/-- The webhooks of a run, oldest first. -/
def webhooks (deeds : List Deed) : List (String × WebhookPayload) := deeds.filterMap Deed.webhook

/-- What the executor has returned. -/
def Deed.outcome : Deed → Option (Except Exc ExecutionResult)
  | .returned outcome => some outcome
  | _ => none

/-- What the executor has returned in a run, oldest first. -/
def outcomes (deeds : List Deed) : List (Except Exc ExecutionResult) := deeds.filterMap Deed.outcome

/-- A webhook with a result that did not get through. -/
def Deed.bounced : Deed → Bool
  | .reported _ _ (.error _) => true
  | _ => false

/-- Two runs have come to the same: the states of all jobs, the acknowledged messages, and the webhooks in some
order. -/
structure BatchAgreement (first second : World) : Prop where
  states : ∀ job, (first.redis.status job).state = (second.redis.status job).state
  acked : ∀ messageId, Did first.log (.acked messageId) ↔ Did second.log (.acked messageId)
  posted : (webhooks (chronicle first.log)).Perm (webhooks (chronicle second.log))

namespace BatchAgreement

/-- The webhook for a result. -/
def webhookOf (job : ParsedJob) (result : ExecutionResult) : String × WebhookPayload :=
  (job.callbackUrl, .ofResult job.jobId result)

/-- How a job ends when these messages are processed and these jobs are run. -/
inductive Ends (redis : Redis) (messages : List StreamMessage) (accepted : List ParsedJob) (jobId : String)
    (state : Option JobState) : Prop where
  | completed {job : ParsedJob} (inside : job ∈ accepted) (about : job.jobId = jobId)
      (same : state = some .completed)
  | cancelled {message : StreamMessage} (set : redis.cancelled jobId = true)
      (unsettled : Unsettled (redis.status jobId).state) (listed : message ∈ messages) (about : message.About jobId)
      (same : state = some .cancelled)
  | kept (apart : ∀ job ∈ accepted, job.jobId ≠ jobId)
      (spared : redis.cancelled jobId = true → Unsettled (redis.status jobId).state →
        ∀ message ∈ messages, ¬ message.About jobId)
      (same : state = (redis.status jobId).state)

variable {self : Consumer} {redis : Redis} {messages : List StreamMessage} {message : StreamMessage}
variable {here : List Deed} {jobId : String}

/-- The accepted jobs are not flagged. -/
theorem clear_of_accepted {job : ParsedJob} (inside : job ∈ messages.filterMap (StreamMessage.accepted self redis)) :
    redis.cancelled job.jobId = false ∧ Unsettled (redis.status job.jobId).state := by
  obtain ⟨message, -, taken⟩ := List.mem_filterMap.mp inside
  obtain ⟨-, unsettled, clear, ir, shots, -, rfl⟩ := open_of_accepted taken
  exact ⟨clear, unsettled⟩

/-- There is only one such end. -/
theorem Ends.unique {state other : Option JobState}
    (first : Ends redis messages (messages.filterMap (StreamMessage.accepted self redis)) jobId state)
    (second : Ends redis messages (messages.filterMap (StreamMessage.accepted self redis)) jobId other) :
    state = other := by
  have shut {job : ParsedJob} (inside : job ∈ messages.filterMap (StreamMessage.accepted self redis))
      (about : job.jobId = jobId) (set : redis.cancelled jobId = true) : False := by
    have clear := (clear_of_accepted inside).1
    rw [about, set] at clear
    cases clear
  cases first with
  | completed inside about same =>
      cases second with
      | completed _ _ same' => rw [same, same']
      | cancelled set => exact (shut inside about set).elim
      | kept apart => exact absurd about (apart _ inside)
  | cancelled set unsettled listed message same =>
      cases second with
      | completed inside about => exact (shut inside about set).elim
      | cancelled _ _ _ _ same' => rw [same, same']
      | kept _ spared => exact absurd message (spared set unsettled _ listed)
  | kept apart spared same =>
      cases second with
      | completed inside about => exact absurd about (apart _ inside)
      | cancelled set unsettled listed message => exact absurd message (spared set unsettled _ listed)
      | kept _ _ same' => rw [same, same']

/-! ### One after another -/

/-- The executor returns results, and the cloud takes them. -/
structure Smooth (deeds : List Deed) : Prop where
  returned : ∀ exception, .returned (.error exception) ∉ deeds
  taken : ∀ deed ∈ deeds, deed.bounced = false

theorem Smooth.of_append {deeds more : List Deed} (smooth : Smooth (deeds ++ more)) : Smooth deeds ∧ Smooth more := by
  obtain ⟨returned, taken⟩ := smooth
  constructor
  · exact ⟨fun exception inside => returned exception (List.mem_append_left _ inside),
      fun deed inside => taken deed (List.mem_append_left _ inside)⟩
  · exact ⟨fun exception inside => returned exception (List.mem_append_right _ inside),
      fun deed inside => taken deed (List.mem_append_right _ inside)⟩

/-- What the messages so far have come to. -/
structure Processed (consumer : Consumer) (redis : Redis) (done : List StreamMessage) (deeds : List Deed) : Prop where
  ends : ∀ jobId, Ends redis done (done.filterMap (StreamMessage.accepted consumer redis)) jobId
    (((Ledger.opening redis).after deeds).status jobId).state
  told : ∃ results, outcomes deeds = results.map .ok ∧
    results.length = (done.filterMap (StreamMessage.accepted consumer redis)).length ∧
    webhooks deeds = List.zipWith webhookOf (done.filterMap (StreamMessage.accepted consumer redis)) results

/-- A message about another job. -/
theorem Ends.grow {done : List StreamMessage} {accepted more : List ParsedJob} {state : Option JobState}
    (ends : Ends redis done accepted jobId state) (apart : ∀ job ∈ more, job.jobId ≠ jobId)
    (spared : redis.cancelled jobId = true → Unsettled (redis.status jobId).state →
      state = (redis.status jobId).state → ¬ message.About jobId) :
    Ends redis (done ++ [message]) (accepted ++ more) jobId state := by
  cases ends with
  | completed inside about same => exact .completed (List.mem_append_left _ inside) about same
  | cancelled set unsettled listed about same =>
      exact .cancelled set unsettled (List.mem_append_left _ listed) about same
  | kept others before same =>
      refine .kept (fun job inside => ?_) (fun set unsettled other inside => ?_) same
      · exact (List.mem_append.mp inside).elim (others job) (apart job)
      · rcases List.mem_append.mp inside with old | new
        · exact before set unsettled other old
        · rw [List.mem_singleton.mp new]
          exact spared set unsettled same

/-- A job that can still be taken on has not been touched. -/
theorem Ends.untouched {done : List StreamMessage} {accepted : List ParsedJob} {state : Option JobState}
    (ends : Ends redis done accepted jobId state) (unsettled : Unsettled state) :
    state = (redis.status jobId).state ∧ ∀ job ∈ accepted, job.jobId ≠ jobId := by
  cases ends with
  | completed _ _ same => exact absurd same unsettled.1
  | cancelled _ _ _ _ same => exact absurd same unsettled.2
  | kept apart _ same => exact ⟨same, apart⟩

theorem outcomes_append (deeds more : List Deed) : outcomes (deeds ++ more) = outcomes deeds ++ outcomes more :=
  List.filterMap_append

theorem webhooks_append (deeds more : List Deed) : webhooks (deeds ++ more) = webhooks deeds ++ webhooks more :=
  List.filterMap_append

/-- Another job ends as before. -/
theorem Processed.others {done : List StreamMessage} {deeds more : List Deed}
    (processed : Processed self redis done deeds) (served : Stage.Served self redis.cancelled message more)
    (other : ¬ message.About jobId) (accepted : List ParsedJob) (apart : ∀ job ∈ accepted, job.jobId ≠ jobId) :
    Ends redis (done ++ [message]) (done.filterMap (StreamMessage.accepted self redis) ++ accepted) jobId
      (((Ledger.opening redis).after (deeds ++ more)).status jobId).state := by
  rw [Ledger.after_append, served.status_other other]
  exact (processed.ends jobId).grow apart fun _ _ _ => other

/-- A message whose job is not run. -/
theorem Processed.refused {done : List StreamMessage} {deeds more : List Deed}
    (processed : Processed self redis done deeds) (served : Stage.Served self redis.cancelled message more)
    (refused : message.accepted self redis = none) (mute : outcomes more = []) (silent : webhooks more = [])
    (own : ∀ jobId, message.About jobId →
      Ends redis (done ++ [message]) (done.filterMap (StreamMessage.accepted self redis)) jobId
        (((Ledger.opening redis).after (deeds ++ more)).status jobId).state) :
    Processed self redis (done ++ [message]) (deeds ++ more) := by
  have same : (done ++ [message]).filterMap (StreamMessage.accepted self redis) =
      done.filterMap (StreamMessage.accepted self redis) := by
    rw [List.filterMap_append, List.filterMap_cons, refused, List.filterMap_nil, List.append_nil]
  obtain ⟨results, returned, length, told⟩ := processed.told
  refine ⟨fun jobId => ?_, results, ?_, ?_, ?_⟩
  · rw [same]
    by_cases about : message.About jobId
    · exact own jobId about
    · have ends := processed.others served about [] fun job inside => absurd inside List.not_mem_nil
      rw [List.append_nil] at ends
      exact ends
  · rw [outcomes_append, mute, List.append_nil, returned]
  · rw [same, length]
  · rw [webhooks_append, silent, List.append_nil, told, same]

/-- A message whose job is run and reported. -/
theorem Processed.completed {done : List StreamMessage} {deeds more : List Deed} {ir : NativeGateIR} {shots : Int}
    {result : ExecutionResult} (processed : Processed self redis done deeds)
    (served : Stage.Served self redis.cancelled message more)
    (accepted : message.accepted self redis = some (message.parsed ir shots))
    (returns : outcomes more = [.ok result]) (tells : webhooks more = [webhookOf (message.parsed ir shots) result])
    (state : (((Ledger.opening redis).after (deeds ++ more)).status message.job.jobId).state = some .completed) :
    Processed self redis (done ++ [message]) (deeds ++ more) := by
  obtain ⟨read, -⟩ := open_of_accepted accepted
  have grown : (done ++ [message]).filterMap (StreamMessage.accepted self redis) =
      done.filterMap (StreamMessage.accepted self redis) ++ [message.parsed ir shots] := by
    rw [List.filterMap_append, List.filterMap_cons, accepted, List.filterMap_nil]
  obtain ⟨results, returned, length, told⟩ := processed.told
  refine ⟨fun jobId => ?_, results ++ [result], ?_, ?_, ?_⟩
  · rw [grown]
    by_cases about : message.About jobId
    · obtain ⟨-, rfl⟩ := about
      exact .completed (List.mem_append_right _ (List.mem_singleton_self _)) rfl state
    · apply processed.others served about
      intro job inside same
      obtain rfl := List.mem_singleton.mp inside
      exact about ⟨read, same⟩
  · rw [outcomes_append, returned, returns, List.map_append]
    rfl
  · rw [grown, List.length_append, List.length_append, length]
    rfl
  · rw [webhooks_append, grown, List.zipWith_append length.symm, told, tells]
    rfl

/-- An accepted job that is not among the earlier ones has not been touched. -/
theorem Ends.of_accepted {done : List StreamMessage} {job : ParsedJob} {state : Option JobState}
    (ends : Ends redis done (done.filterMap (StreamMessage.accepted self redis)) job.jobId state)
    (taken : message.accepted self redis = some job)
    (distinct : (((done ++ [message]).filterMap (StreamMessage.accepted self redis)).map ParsedJob.jobId).Nodup) :
    Unsettled state := by
  obtain ⟨-, unsettled, clear, ir, shots, -, rfl⟩ := open_of_accepted taken
  cases ends with
  | completed inside about =>
      rw [List.filterMap_append, List.filterMap_cons, taken, List.filterMap_nil, List.map_append,
        List.nodup_append] at distinct
      exact absurd about (distinct.2.2 _ (List.mem_map_of_mem inside) _ (List.mem_singleton_self _))
  | cancelled set => exact absurd (clear.symm.trans set) Bool.false_ne_true
  | kept _ _ same =>
      rw [same]
      exact unsettled

/-- One message more. -/
theorem Processed.served {done : List StreamMessage} {deeds more : List Deed}
    (processed : Processed self redis done deeds) (served : Stage.Served self redis.cancelled message more)
    (truthful : ((Ledger.opening redis).after deeds).Truthful more)
    (constant : ∀ jobId, .flagged jobId ∈ more → redis.cancelled jobId = true)
    (parses : ∀ job, message.read = .ok (some job) → ∃ circuit, parseCircuit self job.decoded = .ok circuit)
    (smooth : Smooth more)
    (distinct : (((done ++ [message]).filterMap (StreamMessage.accepted self redis)).map ParsedJob.jobId).Nodup) :
    Processed self redis (done ++ [message]) (deeds ++ more) := by
  obtain ⟨found, reading⟩ := served.read
  cases found with
  | none =>
      obtain rfl := malformed_of_served served reading
      refine processed.refused served (not_accepted_of_malformed reading) rfl rfl fun jobId about => ?_
      obtain ⟨other, -⟩ := about
      rw [reading] at other
      cases other
  | some job =>
      have read : message.read = .ok (some message.job) := by
        rw [StreamMessage.job_of_read reading, reading]
      have ends := processed.ends message.job.jobId
      have verdict := verdict_of_served served read truthful (constant _)
      cases verdict with
      | kept settled =>
          have none_ : message.accepted self redis = none := by
            by_contra some_
            obtain ⟨taken, accepted⟩ := Option.ne_none_iff_exists'.mp some_
            obtain ⟨-, -, -, ir, shots, -, rfl⟩ := open_of_accepted accepted
            exact settled (Ends.of_accepted ends accepted distinct)
          refine processed.refused served none_ rfl rfl fun jobId about => ?_
          obtain ⟨-, rfl⟩ := about
          have same : Ends redis (done ++ [message]) (done.filterMap (StreamMessage.accepted self redis) ++ [])
              message.job.jobId (((Ledger.opening redis).after deeds).status message.job.jobId).state := by
            apply ends.grow
            · exact fun job inside => absurd inside List.not_mem_nil
            · intro set unsettled same
              rw [same] at settled
              exact absurd unsettled settled
          rw [List.append_nil] at same
          rw [Ledger.after_append]
          exact same
      | dropped unsettled set =>
          have none_ : message.accepted self redis = none := by
            apply not_accepted_of_shut read
            rintro ⟨-, clear⟩
            exact absurd (clear.symm.trans set) Bool.false_ne_true
          refine processed.refused served none_ rfl rfl fun jobId about => ?_
          obtain ⟨-, rfl⟩ := about
          obtain ⟨same, -⟩ := ends.untouched unsettled
          rw [same] at unsettled
          refine .cancelled set unsettled (List.mem_append_right _ (List.mem_singleton_self _)) ⟨read, rfl⟩ ?_
          rw [Ledger.after_append]
          change ((((Ledger.opening redis).after deeds).write message.job.jobId _).status message.job.jobId).state = _
          rw [Ledger.write_same]
          rfl
      | @handled rest unsettled clear handled =>
          cases handled with
          | unparsed failed =>
              obtain ⟨circuit, parsed⟩ := parses message.job read
              rw [failed] at parsed
              cases parsed
          | @raised ir shots exception => exact (smooth.returned exception (by simp)).elim
          | @undelivered ir shots result exception =>
              have taken := smooth.taken
                (.reported message.job.callbackUrl (.ofResult message.job.jobId result) (.error exception)) (by simp)
              cases taken
          | @completed ir shots result parsed =>
              obtain ⟨same, -⟩ := ends.untouched unsettled
              rw [same] at unsettled
              apply processed.completed served (accepted_of_open read unsettled clear parsed) rfl rfl
              simp [Ledger.record, Ledger.write, Stage.wroteExecuting, Stage.wroteCompleted, StatusHash.merge]

/-- All messages, one after another. -/
theorem Processed.of_replayed {done : List StreamMessage} {deeds : List Deed}
    (replayed : Replayed self redis.cancelled done deeds) (truthful : (Ledger.opening redis).Truthful deeds)
    (constant : ∀ jobId, .flagged jobId ∈ deeds → redis.cancelled jobId = true)
    (parses : ∀ message ∈ done, ∀ job, message.read = .ok (some job) →
      ∃ circuit, parseCircuit self job.decoded = .ok circuit)
    (smooth : Smooth deeds)
    (distinct : ((done.filterMap (StreamMessage.accepted self redis)).map ParsedJob.jobId).Nodup) :
    Processed self redis done deeds := by
  induction replayed with
  | nil =>
      constructor
      · intro jobId
        exact .kept (fun job inside => absurd inside List.not_mem_nil)
          (fun _ _ message inside => absurd inside List.not_mem_nil) rfl
      · exact ⟨[], rfl, rfl, rfl⟩
  | @served done message early late replayed served ih =>
      obtain ⟨first, last⟩ := Ledger.Truthful.append_iff.mp truthful
      have earlier : ((done.filterMap (StreamMessage.accepted self redis)).map ParsedJob.jobId).Nodup := by
        rw [List.filterMap_append, List.map_append, List.nodup_append] at distinct
        exact distinct.1
      have processed := ih first (fun jobId inside => constant jobId (List.mem_append_left _ inside))
        (fun message inside => parses message (List.mem_append_left _ inside)) smooth.of_append.1 earlier
      exact processed.served served last (fun jobId inside => constant jobId (List.mem_append_right _ inside))
        (parses message (List.mem_append_right _ (List.mem_singleton_self _))) smooth.of_append.2 distinct

/-! ### All at once -/

/-- The writes of one job. -/
def Deed.writes (jobId : String) : Deed → Bool
  | .wrote job _ => job = jobId
  | _ => false

/-- Only the writes of a job make its status. -/
theorem status_filter (deeds : List Deed) {ledger other : Ledger} (same : ledger.status jobId = other.status jobId) :
    (ledger.after deeds).status jobId = (other.after (deeds.filter (Deed.writes jobId))).status jobId := by
  induction deeds generalizing ledger other with
  | nil => exact same
  | cons deed deeds ih =>
      rw [Ledger.after_cons, List.filter_cons]
      split
      · rename_i writes
        cases deed with
        | wrote job mapping =>
            obtain rfl : job = jobId := of_decide_eq_true writes
            rw [Ledger.after_cons]
            apply ih
            change (ledger.write job mapping).status job = (other.write job mapping).status job
            rw [Ledger.write_same, Ledger.write_same, same]
        | _ => cases writes
      · rename_i quiet
        apply ih
        rw [← same]
        cases deed with
        | wrote job mapping =>
            have distinct : jobId ≠ job := fun here => quiet (decide_eq_true here.symm)
            exact Ledger.write_other _ _ distinct
        | _ => rfl

/-- The deliveries are of the webhooks for the results. -/
theorem posts_of_zipStrict {parsed : List ParsedJob} {results : List ExecutionResult} {nowIso : String}
    {deliveries : List Delivery} (zipped : zipStrict parsed results nowIso = .ok deliveries) :
    deliveries.map (fun delivery => (delivery.callbackUrl, WebhookPayload.ofResult delivery.jobId delivery.result)) =
      List.zipWith webhookOf parsed results := by
  unfold zipStrict at zipped
  split at zipped
  · cases zipped
    rw [List.map_zipWith]
    rfl
  · split at zipped <;> cases zipped

/-- A batch whose results have all been delivered. -/
structure Handed (consumer : Consumer) (redis : Redis) (messages : List StreamMessage) (parsed : List ParsedJob)
    (results : List ExecutionResult) (before : List Deed) (number : Nat) (crew : Crew BatchStage) : Prop where
  marked : BatchStage.Marked consumer redis.cancelled messages parsed before
  whole : deeds none crew.world.log =
    before ++ [.batchRan (batchJobs parsed) (.ok results), .created (.deliverBatch parsed results) number]
  account : Crew.Account consumer redis.cancelled (fun runTask stage => stage.Sound runTask)
    (BatchStage.Course consumer redis.cancelled messages) crew
  ended : ∀ post ∈ crew.posts, post.ending.isSome = true
  accepted : parsed = messages.filterMap (StreamMessage.accepted consumer redis)
  constant : ∀ jobId, .flagged jobId ∈ chronicle crew.world.log → redis.cancelled jobId = true
  fits : parsed.length = results.length

namespace Handed

variable {crew : Crew BatchStage} {parsed : List ParsedJob} {results : List ExecutionResult}
variable {before : List Deed} {number : Nat}

theorem created (handed : Handed self redis messages parsed results before number crew) :
    .created (.deliverBatch parsed results) number ∈ deeds none crew.world.log := by
  rw [handed.whole]
  simp

theorem apart (handed : Handed self redis messages parsed results before number crew) (delivery : Delivery)
    (number : Nat) : .created (.deliverSingle delivery) number ∉ deeds none crew.world.log := by
  rw [handed.whole]
  simp [handed.marked.not_created]

theorem unflagged (handed : Handed self redis messages parsed results before number crew) {job : ParsedJob}
    (inside : job ∈ parsed) : .flagged job.jobId ∉ chronicle crew.world.log := by
  intro flagged
  have set := handed.constant job.jobId flagged
  rw [handed.accepted] at inside
  rw [(clear_of_accepted inside).1] at set
  cases set

/-- Each background task that has done anything but create tasks has delivered the result of a job. -/
theorem delivered (handed : Handed self redis messages parsed results before number crew) {seat : Nat}
    {deed : Deed} (inside : deed ∈ deeds (some seat) crew.world.log) :
    (∃ delivery number, deed = .created (.deliverSingle delivery) number) ∨
      ∃ nowIso deliveries delivery outcome, zipStrict parsed results nowIso = .ok deliveries ∧
        delivery ∈ deliveries ∧ deeds (some seat) crew.world.log =
          [deliveredStatus delivery,
            .reported delivery.callbackUrl (.ofResult delivery.jobId delivery.result) outcome,
            .acked delivery.messageId] := by
  obtain ⟨post, listed, rfl⟩ := handed.account.post_of_deed inside
  have course := handed.account.posts post listed
  cases post with
  | gather _ parsed results stage =>
      exact .inl (GatherStage.Course.deed_eq (show stage.Course _ parsed results _ from course) _ inside)
  | single seat delivery stage =>
      obtain ⟨parsed', results', batch, nowIso, deliveries, created, zipped, member⟩ :=
        handed.account.single_origin listed handed.apart
      simp only [handed.whole, List.mem_append, handed.marked.not_created, false_or, List.mem_cons, reduceCtorEq,
        Deed.created.injEq, TaskSpec.deliverBatch.injEq, List.not_mem_nil, or_false] at created
      obtain ⟨⟨rfl, rfl⟩, -⟩ := created
      obtain ⟨job, accepted, result, -, rfl⟩ := job_of_zipStrict zipped member
      have finished := handed.ended _ listed
      cases stage with
      | past ending =>
          cases (show SingleStage.Course self _ _ _ from course) with
          | past delivered =>
              obtain ⟨outcome, here⟩ := delivered.of_unflagged fun flagged =>
                handed.unflagged accepted (Crew.mem_chronicle_of_deeds _ flagged)
              exact .inr ⟨nowIso, deliveries, _, outcome, zipped, member, here⟩
      | _ => cases finished

/-- There is such a task for each job. -/
theorem task (handed : Handed self redis messages parsed results before number crew) :
    ∃ nowIso deliveries, zipStrict parsed results nowIso = .ok deliveries ∧ ∀ delivery ∈ deliveries,
      ∃ seat outcome, deeds (some seat) crew.world.log =
        [deliveredStatus delivery,
          .reported delivery.callbackUrl (.ofResult delivery.jobId delivery.result) outcome,
          .acked delivery.messageId] := by
  rcases handed.account.gathered handed.ended handed.created with
    ⟨-, nowIso, deliveries, numbers, zipped, created, finished⟩ | ⟨different, -⟩
  · refine ⟨nowIso, deliveries, zipped, fun delivery inside => ?_⟩
    obtain ⟨seat, listed, found⟩ := created.mem inside
    have delivered := handed.account.delivered found (finished seat listed)
    obtain ⟨job, accepted, result, -, rfl⟩ := job_of_zipStrict zipped inside
    obtain ⟨outcome, here⟩ := delivered.of_unflagged fun flagged =>
      handed.unflagged accepted (Crew.mem_chronicle_of_deeds _ flagged)
    exact ⟨seat, outcome, here⟩
  · exact absurd handed.fits different

/-- No task writes about a job that is not accepted. -/
theorem writes_of_other (handed : Handed self redis messages parsed results before number crew)
    (other : ∀ job ∈ parsed, job.jobId ≠ jobId) :
    (chronicle crew.world.log).filter (Deed.writes jobId) = before.filter (Deed.writes jobId) := by
  have early : (chronicle crew.world.log).filter (Deed.writes jobId) =
      (deeds none crew.world.log).filter (Deed.writes jobId) := by
    apply chronicle_filter
    intro seat elsewhere deed inside
    cases seat with
    | none => exact absurd rfl elsewhere
    | some seat =>
        by_contra writes
        rw [Bool.not_eq_false] at writes
        cases deed with
        | wrote job mapping =>
            obtain rfl : job = jobId := of_decide_eq_true writes
            rcases BatchLength.origin_of_handed handed.marked handed.whole handed.account inside with
              ⟨_, _, here⟩ | ⟨_, _, delivery, zipped, listed, about, -⟩
            · cases here
            · obtain ⟨job, inside, result, -, rfl⟩ := job_of_zipStrict zipped listed
              exact other job inside about.symm
        | _ => cases writes
  rw [early, handed.whole, List.filter_append]
  exact List.append_nil _

/-- How the jobs have ended when all results are delivered. -/
theorem ends (handed : Handed self redis messages parsed results before number crew) (landed : crew.Landed)
    (agrees : (Ledger.opening redis).Agrees crew.world) (truthful : (Ledger.opening redis).Truthful before)
    (jobId : String) :
    Ends redis messages (messages.filterMap (StreamMessage.accepted self redis)) jobId
      (crew.world.redis.status jobId).state := by
  by_cases own : ∃ job ∈ parsed, job.jobId = jobId
  · obtain ⟨job, inside, rfl⟩ := own
    obtain ⟨nowIso, deliveries, zipped, tasks⟩ := handed.task
    obtain ⟨result, -, listed⟩ := mem_of_zipStrict zipped inside
    obtain ⟨seat, outcome, here⟩ := tasks _ listed
    -- the last write about the job is one of a delivery
    obtain ⟨seat', mapping, wrote, -, state⟩ := landed seat job.jobId
      { state := some .completed, completedAt := some "" } (by rw [here]; simp [deliveredStatus])
    rcases handed.delivered wrote with ⟨_, _, other⟩ | ⟨_, _, delivery, _, -, -, there⟩
    · cases other
    · rw [there] at wrote
      simp only [deliveredStatus, List.mem_cons, Deed.wrote.injEq, reduceCtorEq, List.not_mem_nil, or_false] at wrote
      rw [wrote.2] at state
      rw [handed.accepted] at inside
      exact .completed inside rfl state
  · have other : ∀ job ∈ parsed, job.jobId ≠ jobId := fun job inside same => own ⟨job, inside, same⟩
    have status : (crew.world.redis.status jobId).timeless =
        ((Ledger.opening redis).after before).status jobId := by
      rw [agrees.1, status_filter _ rfl, handed.writes_of_other other, ← status_filter _ rfl]
    have state : (crew.world.redis.status jobId).state =
        (((Ledger.opening redis).after before).status jobId).state := by
      rw [← status]
      rfl
    have flags : ∀ jobId, .flagged jobId ∈ before → redis.cancelled jobId = true := by
      intro jobId inside
      have did : .flagged jobId ∈ deeds none crew.world.log := by
        rw [handed.whole]
        exact List.mem_append_left _ inside
      exact handed.constant jobId (Crew.mem_chronicle_of_deeds _ did)
    rw [state]
    rcases Steady.status_of_marked handed.marked truthful flags jobId with
      ⟨job, inside, same, -⟩ | ⟨message, set, unsettled, next, merged⟩ | ⟨same, spared⟩
    · rw [← handed.accepted] at inside
      exact absurd same (other job inside)
    · obtain ⟨listed, about⟩ := next.mem
      rw [merged]
      exact .cancelled set unsettled listed about rfl
    · rw [same, ← handed.accepted]
      exact .kept other spared rfl

/-- A webhook is the webhook for a result. -/
theorem webhook_of_mem (handed : Handed self redis messages parsed results before number crew) {deed : Deed}
    (inside : deed ∈ chronicle crew.world.log) {webhook : String × WebhookPayload}
    (sent : deed.webhook = some webhook) :
    webhook ∈ List.zipWith webhookOf parsed results ∧ deed.completes webhook.2.jobId = true := by
  obtain ⟨seat, member⟩ := did_iff.mpr inside
  cases seat with
  | none =>
      rw [handed.whole] at member
      rcases List.mem_append.mp member with early | late
      · rcases handed.marked.internal _ early with rfl | internal
        · cases sent
        · cases deed with
          | reported | reportedFailure => cases internal
          | _ => cases sent
      · rcases List.mem_cons.mp late with rfl | last
        · cases sent
        · rw [List.mem_singleton.mp last] at sent
          cases sent
  | some seat =>
      rcases handed.delivered member with ⟨_, _, rfl⟩ | ⟨nowIso, deliveries, delivery, outcome, zipped, listed, here⟩
      · cases sent
      · rw [here] at member
        simp only [List.mem_cons, List.not_mem_nil, or_false] at member
        rcases member with rfl | rfl | rfl
        · cases sent
        · cases sent
          rw [← posts_of_zipStrict zipped]
          exact ⟨List.mem_map_of_mem listed, by simp [Deed.completes]; rfl⟩
        · cases sent

/-- Each result has been sent, once. -/
theorem posted (handed : Handed self redis messages parsed results before number crew)
    (distinct : (parsed.map ParsedJob.jobId).Nodup) :
    (webhooks (chronicle crew.world.log)).Perm (List.zipWith webhookOf parsed results) := by
  obtain ⟨nowIso, deliveries, zipped, tasks⟩ := handed.task
  apply (List.perm_ext_iff_of_nodup ?_ ?_).mpr
  · intro webhook
    constructor
    · intro inside
      obtain ⟨deed, did, sent⟩ := List.mem_filterMap.mp inside
      exact (handed.webhook_of_mem did sent).1
    · intro inside
      rw [← posts_of_zipStrict zipped] at inside
      obtain ⟨delivery, listed, rfl⟩ := List.mem_map.mp inside
      obtain ⟨seat, outcome, here⟩ := tasks delivery listed
      have did : .reported delivery.callbackUrl (.ofResult delivery.jobId delivery.result) outcome ∈
          deeds (some seat) crew.world.log := by
        rw [here]
        simp
      exact List.mem_filterMap.mpr ⟨_, Crew.mem_chronicle_of_deeds _ did, rfl⟩
  · rw [List.nodup_iff_count_le_one]
    intro webhook
    rw [webhooks, List.count, List.countP_filterMap]
    refine Nat.le_trans (List.countP_mono_left fun deed inside sent => ?_)
      (handed.marked.reports_le handed.whole handed.account distinct webhook.2.jobId)
    cases told : deed.webhook with
    | none =>
        rw [told] at sent
        cases sent
    | some other =>
        rw [told] at sent
        obtain rfl : other = webhook := eq_of_beq sent
        exact (handed.webhook_of_mem inside told).2
  · apply List.Nodup.of_map (fun webhook => webhook.2.jobId)
    rw [← posts_of_zipStrict zipped, List.map_map]
    rw [← jobIds_of_zipStrict zipped] at distinct
    exact distinct

/-- Every message has been acknowledged, and no other. -/
theorem acked_iff (handed : Handed self redis messages parsed results before number crew) (messageId : String) :
    Did crew.world.log (.acked messageId) ↔ ∃ message ∈ messages, message.messageId = messageId := by
  obtain ⟨nowIso, deliveries, zipped, tasks⟩ := handed.task
  constructor
  · rintro ⟨seat, inside⟩
    cases seat with
    | none =>
        rw [handed.whole] at inside
        rcases List.mem_append.mp inside with early | late
        · exact handed.marked.listed_of_acked early
        · simp at late
    | some seat =>
        rcases handed.delivered inside with ⟨_, _, same⟩ | ⟨_, _, delivery, _, zipped, listed, here⟩
        · cases same
        · rw [here] at inside
          simp only [deliveredStatus, List.mem_cons, reduceCtorEq, Deed.acked.injEq, List.not_mem_nil, or_false,
            false_or] at inside
          obtain ⟨job, member, result, -, rfl⟩ := job_of_zipStrict zipped listed
          rw [handed.accepted] at member
          obtain ⟨message, own, taken⟩ := List.mem_filterMap.mp member
          obtain ⟨-, -, -, ir, shots, -, rfl⟩ := open_of_accepted taken
          exact ⟨message, own, inside.symm⟩
  · rintro ⟨message, inside, rfl⟩
    have either : .acked message.messageId ∈ before ∨ ∃ job ∈ parsed, job.messageId = message.messageId := by
      cases handed.marked with
      | mk sifted =>
          exact (sifted.acked_or_parsed message inside).imp
            (fun acked => List.mem_append_left _ (List.mem_cons_of_mem _ acked)) id
    rcases either with early | ⟨job, member, same⟩
    · refine ⟨none, ?_⟩
      rw [handed.whole]
      exact List.mem_append_left _ early
    · obtain ⟨result, -, listed⟩ := mem_of_zipStrict zipped member
      obtain ⟨seat, outcome, here⟩ := tasks _ listed
      refine ⟨some seat, ?_⟩
      rw [here, ← same]
      simp

end Handed

/-- A batch for which `batch_run` has returned results has been handed over. -/
theorem handed_of_ran {crew : Crew BatchStage} {outcome : Except Exc Unit}
    (account : Crew.Account self redis.cancelled (fun runTask stage => stage.Sound runTask)
      (BatchStage.Course self redis.cancelled messages) crew)
    (past : BatchStage.Over outcome crew.main) {jobs : List (String × NativeGateIR × Int)}
    {results : List ExecutionResult} {seat : Option Nat}
    (ran : .batchRan jobs (.ok results) ∈ deeds seat crew.world.log) :
    ∃ parsed before number, BatchStage.Marked self redis.cancelled messages parsed before ∧
      deeds none crew.world.log =
        before ++ [.batchRan (batchJobs parsed) (.ok results), .created (.deliverBatch parsed results) number] := by
  have main := account.main
  obtain ⟨ending, stage⟩ := past.ended
  rw [stage] at main
  generalize whole : deeds none crew.world.log = here at main
  have alone (apart : ∀ spec number, .created spec number ∉ here) : .batchRan jobs (.ok results) ∈ here := by
    rw [← whole] at apart ⊢
    rw [← account.chronicle_eq apart]
    exact did_iff.mp ⟨seat, ran⟩
  cases main with
  | undecodable split sifted reading =>
      have inside := alone (by simp [sifted.anyOf.not_created])
      simp [sifted.anyOf.not_batchRan] at inside
  | idle sifted =>
      have inside := alone (by simp [sifted.anyOf.not_created])
      simp [sifted.anyOf.not_batchRan] at inside
  | replayed marked attempted replayed =>
      have inside := alone (by simp [marked.not_created, attempted.not_created, replayed.anyOf.not_created])
      simp only [List.mem_append, marked.not_batchRan, replayed.anyOf.not_batchRan, false_or, or_false] at inside
      cases attempted <;> simp at inside
  | @handed parsed results' before number marked =>
      obtain ⟨-, same⟩ := BatchLength.ran_of_handed marked whole account ⟨seat, ran⟩
      cases same
      exact ⟨parsed, before, number, marked, rfl⟩

end BatchAgreement

open BatchAgreement in
/-- A batch that is run as a whole comes to the same as its messages processed one after another, when its jobs
are distinct, their circuits parse, and the executor returns the same results, all of which the cloud takes. No
Redis command of the two runs fails, and nothing is cancelled. -/
theorem batch_agrees (self : Consumer) (redis : Redis) (messages : List StreamMessage)
    (policy : Policy) (undisturbed : policy.Undisturbed) (sole : policy.Sole) (steady : policy.Steady)
    (batch single : System)
    (batches : Pool.Reaches (machine self policy)
      (Pool.single { redis := redis } .loop (discard (processBatch self messages))) batch)
    (singles : Pool.Reaches (machine self policy)
      (Pool.single { redis := redis } .loop (Coro.forEach messages (processEntry self))) single)
    (batchEnded : batch.Ended) (singleEnded : single.Ended)
    (distinct : ((messages.filterMap (StreamMessage.accepted self redis)).map ParsedJob.jobId).Nodup)
    (parses : ∀ message ∈ messages, ∀ job, message.read = .ok (some job) →
      ∃ circuit, parseCircuit self job.decoded = .ok circuit)
    (results : List ExecutionResult) (ran : ∃ jobs, Did batch.state.log (.batchRan jobs (.ok results)))
    (same : outcomes (chronicle single.state.log) = results.map .ok)
    (taken : ∀ deed ∈ chronicle single.state.log, deed.bounced = false) :
    BatchAgreement batch.state single.state := by
  obtain ⟨crew, stands, account, led, landed⟩ := BatchStage.landed undisturbed sole batches
  obtain ⟨⟨outcome, past⟩, finished⟩ := stands.ended batchEnded
  have agrees := Ledger.of_reaches undisturbed sole batches
  have agrees' := Ledger.of_reaches undisturbed sole singles
  have constant : ∀ jobId, .flagged jobId ∈ chronicle batch.state.log → redis.cancelled jobId = true :=
    fun jobId inside => World.flag_of_flagged steady batches inside
  have constant' : ∀ jobId, .flagged jobId ∈ chronicle single.state.log → redis.cancelled jobId = true :=
    fun jobId inside => World.flag_of_flagged steady singles inside
  rw [← stands.1] at ran agrees constant ⊢
  obtain ⟨jobs, seat, ran⟩ := ran
  obtain ⟨parsed, before, number, marked, whole⟩ := handed_of_ran account past ran
  have early : before <+: chronicle crew.world.log := by
    rw [Crew.Led, whole] at led
    exact (List.prefix_append _ _).trans led
  have accepted := marked.eq_accepted early agrees.2 constant
  have readable : ∀ message ∈ messages, ∃ found, message.read = .ok found := by
    cases marked with
    | mk sifted some_ => exact sifted.read
  have queue := queue_replayed undisturbed readable singles singleEnded
  have smooth : Smooth (chronicle single.state.log) := by
    refine ⟨fun exception inside => ?_, taken⟩
    have listed : Except.error exception ∈ outcomes (chronicle single.state.log) :=
      List.mem_filterMap.mpr ⟨_, inside, rfl⟩
    rw [same] at listed
    obtain ⟨result, -, other⟩ := List.mem_map.mp listed
    cases other
  obtain ⟨ends, results', returned, length, told⟩ :=
    Processed.of_replayed queue agrees'.2 constant' parses smooth distinct
  obtain rfl : results' = results :=
    List.map_injective_iff.mpr (fun _ _ here => Except.ok.inj here) (returned.symm.trans same)
  have handed : Handed self redis messages parsed results' before number crew :=
    ⟨marked, whole, account, finished, accepted, constant, by rw [accepted, length]⟩
  constructor
  · intro jobId
    have final : (single.state.redis.status jobId).state =
        (((Ledger.opening redis).after (chronicle single.state.log)).status jobId).state := by
      rw [← agrees'.1]
      rfl
    rw [final]
    obtain ⟨rest, split⟩ := early
    have truthful := agrees.2
    rw [← split] at truthful
    exact (handed.ends landed agrees (Ledger.Truthful.append_iff.mp truthful).1 jobId).unique (ends jobId)
  · intro messageId
    rw [handed.acked_iff, did_iff, queue.acked_iff]
  · rw [told, ← accepted]
    rw [← accepted] at distinct
    exact handed.posted distinct

/-! ### Two results -/

namespace BatchAgreement

/-- Three jobs, the second of which is flagged for cancellation. -/
def trio : List StreamMessage :=
  [Sample.message "1-0" "first", Sample.message "2-0" "second", Sample.message "3-0" "third"]

def flaggedSecond : Redis := { Sample.delivered trio with cancelled := fun job => job = "second" }

/-- What the executor returns for the first and the third job. -/
def returns : List ExecutionResult := [Sample.result, { Sample.result with shotsCompleted := 7 }]

def surroundings : Surroundings := fun role world op =>
  match op with
  | .batchRun _ => some (.ok returns, .answered)
  | op => Surroundings.plain Sample.result role world op

/-- The second result is delivered before the first. -/
def batchScript : List (Turn EnvEvent) :=
  List.replicate 24 (.task 0) ++ List.replicate 12 (.task 1) ++ List.replicate 8 (.task 3) ++
    List.replicate 8 (.task 2) ++ List.replicate 8 (.task 1)

def singleScript : List (Turn EnvEvent) :=
  List.replicate 8 (.task 0) ++ .env (.runFinished "first" (.ok Sample.result)) :: List.replicate 30 (.task 0) ++
    .env (.runFinished "third" (.ok { Sample.result with shotsCompleted := 7 })) :: List.replicate 24 (.task 0)

def batchRun : System :=
  System.play Sample.consumer .constant surroundings batchScript
    (Pool.single { redis := flaggedSecond } .loop (discard (processBatch Sample.consumer trio)))

def singleRun : System :=
  System.play Sample.consumer .constant surroundings singleScript
    (Pool.single { redis := flaggedSecond } .loop (Coro.forEach trio (processEntry Sample.consumer)))

theorem played {body : Task Unit} {turns : List (Turn EnvEvent)}
    (allowed : ∀ event, .env event ∈ turns → Policy.constant.env event) :
    Pool.Reaches (machine Sample.consumer .constant) (Pool.single { redis := flaggedSecond } .loop body)
      (System.play Sample.consumer .constant surroundings turns
        (Pool.single { redis := flaggedSecond } .loop body)) := by
  apply System.play_reaches
  · intro role world op outcome fate answered
    cases op with
    | batchRun jobs =>
        cases answered
        trivial
    | _ =>
        simp only [surroundings, Surroundings.plain] at answered
        obtain ⟨_, -, same⟩ := Option.map_eq_some_iff.mp answered
        cases same
        trivial
  · exact allowed

theorem batch_played :
    Pool.Reaches (machine Sample.consumer .constant)
      (Pool.single { redis := flaggedSecond } .loop (discard (processBatch Sample.consumer trio))) batchRun :=
  played (by simp [batchScript])

theorem single_played :
    Pool.Reaches (machine Sample.consumer .constant)
      (Pool.single { redis := flaggedSecond } .loop (Coro.forEach trio (processEntry Sample.consumer))) singleRun :=
  played (by simp [singleScript, Policy.constant])

end BatchAgreement

open BatchAgreement in
/-- The result, for that batch. -/
theorem batch_agrees_trio : BatchAgreement batchRun.state singleRun.state := by
  have parses : ∀ message ∈ trio, (parseCircuit Sample.consumer message.job.decoded).isOk = true := by
    decide +kernel
  apply batch_agrees Sample.consumer flaggedSecond trio .constant Policy.constant_undisturbed Policy.constant_sole
    Policy.constant_steady batchRun singleRun batch_played single_played (System.ended_iff.mp (by decide +kernel))
    (System.ended_iff.mp (by decide +kernel)) (by decide +kernel) _ returns
    ⟨batchJobs (trio.filterMap (StreamMessage.accepted Sample.consumer flaggedSecond)), by decide +kernel⟩
    (by decide +kernel) (by decide +kernel)
  intro message inside job reading
  have parsed := parses message inside
  rw [StreamMessage.job_of_read reading] at parsed
  cases circuit : parseCircuit Sample.consumer job.decoded with
  | ok found => exact ⟨found, rfl⟩
  | error exception =>
      rw [circuit] at parsed
      cases parsed

end CodaNode
