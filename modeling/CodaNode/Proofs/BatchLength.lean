/-
Module: CodaNode.Proofs.BatchLength
Layer: Proofs
Purpose: What becomes of the jobs of a batch, for every outcome of `batch_run`. They are all brought to an
  end exactly when it raises, or returns as many results as there are jobs.
Imports: CodaNode.Protocol.Landing, CodaNode.Protocol.Replay
Main exports: Policy.batching, BatchSettled, batchSettled_iff
-/
import CodaNode.Protocol.Landing
import CodaNode.Protocol.Replay

namespace CodaNode

open Coroutine

/-- Nothing fails, `batch_run` comes to this outcome, every webhook gets through, and nobody cancels a job
or writes a status. -/
def Policy.batching (batch : Except Exc (List ExecutionResult)) : Policy where
  fault _ _ := False
  reply
    | .batchRun _, outcome => outcome = batch
    | .sendResult _ _, outcome => outcome = .ok ()
    | .sendError _ _ _, outcome => outcome = .ok ()
    | _, _ => True
  env
    | .cancelRequested _ => False
    | .statusWritten _ _ => False
    | _ => True

theorem Policy.batching_undisturbed {batch : Except Exc (List ExecutionResult)} :
    (Policy.batching batch).Undisturbed where
  fetches admitted := admitted.elim
  ordinary admitted := admitted.elim

theorem Policy.batching_sole {batch : Except Exc (List ExecutionResult)} : (Policy.batching batch).Sole :=
  fun _ _ allowed => allowed

theorem Policy.batching_steady {batch : Except Exc (List ExecutionResult)} : (Policy.batching batch).Steady :=
  fun _ allowed => allowed

/-- Every job of the batch has a final status, the cloud has been told, and the message is acknowledged. When
the results did not match the jobs, every message has been processed by itself. -/
structure BatchSettled (messages : List StreamMessage) (jobs : List ParsedJob) (world : World) : Prop where
  final : ∀ job ∈ jobs, ∃ state,
    (world.redis.status job.jobId).state = some state ∧ state.terminal = true
  notified : ∀ job ∈ jobs, Notified (chronicle world.log) job.jobId
  acked : ∀ job ∈ jobs, Did world.log (.acked job.messageId)
  replayed : ∀ batch results, Did world.log (.batchRan batch (.ok results)) →
    results.length ≠ batch.length → ∀ message ∈ messages, Did world.log (.called message)

namespace BatchLength

variable {self : Consumer} {redis : Redis} {messages : List StreamMessage} {system : System}
variable {batch : Except Exc (List ExecutionResult)} {crew : Crew BatchStage}

/-- The executing writes leave a job open. -/
theorem unsettled_of_marks (jobs : List ParsedJob) {ledger : Ledger} {jobId : String}
    (unsettled : Unsettled (ledger.status jobId).state) :
    Unsettled ((ledger.after (jobs.map (marked self))).status jobId).state := by
  induction jobs generalizing ledger with
  | nil => exact unsettled
  | cons job rest inductionHypothesis =>
      apply inductionHypothesis
      by_cases same : jobId = job.jobId
      · subst same
        change Unsettled ((ledger.write job.jobId _).status job.jobId).state
        rw [Ledger.write_same]
        exact ⟨by simp [StatusHash.merge], by simp [StatusHash.merge]⟩
      · change Unsettled ((ledger.write job.jobId _).status jobId).state
        rw [Ledger.write_other _ _ same]
        exact unsettled

/-- A job that was taken into the batch is still open when the batch is run. -/
theorem unsettled_of_marked {parsed : List ParsedJob} {here : List Deed}
    (marked : BatchStage.Marked self redis.cancelled messages parsed here) {ledger : Ledger} {jobId : String}
    (unsettled : Unsettled (ledger.status jobId).state) (unflagged : .flagged jobId ∉ here) :
    Unsettled ((ledger.after here).status jobId).state := by
  cases marked with
  | mk sifted some_ =>
      rw [Ledger.after_append]
      apply unsettled_of_marks
      rw [Ledger.status_of_unwritten]
      · exact unsettled
      · intro mapping member
        have flagged := sifted.flagged_of_wrote ((List.mem_cons.mp member).resolve_left fun same => by cases same)
        exact unflagged (by simp [flagged])

theorem replied (reaches : Pool.Reaches (machine self (.batching batch))
      (Pool.single { redis := redis } .loop (discard (processBatch self messages))) system) :
    Received (chronicle system.state.log) ∧
      ∀ jobs outcome, .batchRan jobs outcome ∈ chronicle system.state.log → outcome = batch := by
  refine ⟨⟨?_, ?_⟩, ?_⟩
  · intro callbackUrl payload outcome member
    obtain ⟨op, outcome', deed, replied⟩ :=
      World.reply_of_chronicle Policy.batching_undisturbed reaches member
    unfold Op.deed at deed
    split at deed <;> cases deed
    exact replied rfl
  · intro callbackUrl jobId error outcome member
    obtain ⟨op, outcome', deed, replied⟩ :=
      World.reply_of_chronicle Policy.batching_undisturbed reaches member
    unfold Op.deed at deed
    split at deed <;> cases deed
    exact replied rfl
  · intro jobs outcome member
    obtain ⟨op, outcome', deed, replied⟩ :=
      World.reply_of_chronicle Policy.batching_undisturbed reaches member
    unfold Op.deed at deed
    split at deed <;> cases deed
    exact replied rfl

/-- A batch that was processed message by message. -/
theorem settled_of_replayed {parsed : List ParsedJob} {here attempt replay : List Deed} {world : World}
    (marked : BatchStage.Marked self redis.cancelled messages parsed here)
    (attempted : Attempted self parsed attempt) (replayed : Replayed self redis.cancelled messages replay)
    (whole : chronicle world.log = here ++ attempt ++ replay)
    (agrees : (Ledger.opening redis).Agrees world) (received : Received (chronicle world.log))
    (unflagged : ∀ jobId, redis.cancelled jobId = false → .flagged jobId ∉ chronicle world.log)
    (failed : ∀ jobs results, .batchRan jobs (.ok results) ∉ chronicle world.log) :
    BatchSettled messages (messages.filterMap (StreamMessage.accepted self redis)) world := by
  have truthful := agrees.2
  rw [whole] at truthful received unflagged
  have resolved : ∀ job ∈ messages.filterMap (StreamMessage.accepted self redis),
      Resolved ((Ledger.opening redis).after (here ++ attempt)) replay job.jobId ∧
        .acked job.messageId ∈ replay := by
    intro job member
    obtain ⟨message, listed, accepted⟩ := List.mem_filterMap.mp member
    obtain ⟨reading, unsettled, clear, ir, shots, -, rfl⟩ := open_of_accepted accepted
    have absent := unflagged message.job.jobId clear
    refine ⟨?_, replayed.acked message listed⟩
    have open_ : Unsettled (((Ledger.opening redis).after (here ++ attempt)).status message.job.jobId).state := by
      rw [Ledger.after_append, Ledger.status_of_unwritten]
      · exact unsettled_of_marked marked unsettled fun inside => absent (by simp [inside])
      · cases attempted <;> simp
    have settled := replayed.settled (Ledger.Truthful.append_iff.mp truthful).2
      (fun inside => absent (List.mem_append_right _ inside))
      (received.mono fun deed inside => List.mem_append_right _ inside) open_
    rcases settled with ⟨-, others⟩ | resolved
    · exact absurd ⟨reading, rfl⟩ (others message listed)
    · exact resolved
  refine ⟨?_, ?_, ?_, ?_⟩
  · intro job member
    obtain ⟨⟨⟨state, same, terminal⟩, -⟩, -⟩ := resolved job member
    refine ⟨state, ?_, terminal⟩
    rw [← Ledger.after_append, ← whole, ← agrees.1] at same
    exact same
  · intro job member
    rw [whole]
    exact (resolved job member).1.2.mono fun deed inside => List.mem_append_right _ inside
  · intro job member
    rw [did_iff, whole]
    exact List.mem_append_right _ (resolved job member).2
  · intro jobs results ran
    exact absurd (did_iff.mp ran) (failed jobs results)

section Handed

variable {parsed : List ParsedJob} {results : List ExecutionResult} {before : List Deed} {number : Nat}

/-- Background tasks deliver the results of this batch. -/
theorem origin_of_handed (marked : BatchStage.Marked self redis.cancelled messages parsed before)
    (whole : deeds none crew.world.log =
      before ++ [.batchRan (batchJobs parsed) (.ok results), .created (.deliverBatch parsed results) number])
    (account : Crew.Account self redis.cancelled (fun runTask stage => stage.Sound runTask)
      (BatchStage.Course self redis.cancelled messages) crew) {seat : Nat} {deed : Deed}
    (member : deed ∈ deeds (some seat) crew.world.log) :
    (∃ delivery number, deed = .created (.deliverSingle delivery) number) ∨
      ∃ nowIso deliveries delivery, zipStrict parsed results nowIso = .ok deliveries ∧
        delivery ∈ deliveries ∧ deed.OfDelivery delivery := by
  have apart : ∀ delivery number,
      .created (.deliverSingle delivery) number ∉ deeds none crew.world.log := by
    intro delivery number created
    simp [whole, marked.not_created] at created
  refine (account.origin apart member).imp id ?_
  rintro ⟨parsed', results', batch, nowIso, deliveries, delivery, created, zipped, inside, of⟩
  simp only [whole, List.mem_append, marked.not_created, false_or, List.mem_cons, reduceCtorEq,
    Deed.created.injEq, TaskSpec.deliverBatch.injEq, List.not_mem_nil, or_false] at created
  obtain ⟨⟨rfl, rfl⟩, -⟩ := created
  exact ⟨nowIso, deliveries, delivery, zipped, inside, of⟩

/-- The batch is run once. -/
theorem ran_of_handed (marked : BatchStage.Marked self redis.cancelled messages parsed before)
    (whole : deeds none crew.world.log =
      before ++ [.batchRan (batchJobs parsed) (.ok results), .created (.deliverBatch parsed results) number])
    (account : Crew.Account self redis.cancelled (fun runTask stage => stage.Sound runTask)
      (BatchStage.Course self redis.cancelled messages) crew) {jobs : List (String × NativeGateIR × Int)}
    {outcome : Except Exc (List ExecutionResult)} (ran : Did crew.world.log (.batchRan jobs outcome)) :
    jobs = batchJobs parsed ∧ outcome = .ok results := by
  obtain ⟨seat, member⟩ := ran
  cases seat with
  | none =>
      rw [whole] at member
      simp only [List.mem_append, marked.not_batchRan, false_or, List.mem_cons, Deed.batchRan.injEq,
        reduceCtorEq, List.not_mem_nil, or_false] at member
      exact member
  | some seat =>
      rcases origin_of_handed marked whole account member with ⟨_, _, same⟩ | ⟨_, _, _, -, -, of⟩
      · cases same
      · exact of.elim

/-- A batch whose results match. -/
theorem settled_of_handed (marked : BatchStage.Marked self redis.cancelled messages parsed before)
    (whole : deeds none crew.world.log =
      before ++ [.batchRan (batchJobs parsed) (.ok results), .created (.deliverBatch parsed results) number])
    (account : Crew.Account self redis.cancelled (fun runTask stage => stage.Sound runTask)
      (BatchStage.Course self redis.cancelled messages) crew) (landed : crew.Landed)
    (ended : ∀ post ∈ crew.posts, post.ending.isSome = true)
    (received : Received (chronicle crew.world.log)) (fits : results.length = parsed.length)
    (unflagged : ∀ job ∈ parsed, .flagged job.jobId ∉ chronicle crew.world.log) :
    BatchSettled messages parsed crew.world := by
  have handed : .created (.deliverBatch parsed results) number ∈ deeds none crew.world.log := by
    rw [whole]
    simp
  have delivered : ∀ job ∈ parsed, ∃ (delivery : Delivery) (number : Nat) (outcome : Except Exc Unit),
      delivery.jobId = job.jobId ∧ delivery.messageId = job.messageId ∧
        deeds (some number) crew.world.log =
          [deliveredStatus delivery,
            .reported delivery.callbackUrl (.ofResult delivery.jobId delivery.result) outcome,
            .acked delivery.messageId] := by
    intro job member
    obtain ⟨result, -, completedAt, seat, delivered⟩ := account.job_delivered ended handed fits.symm member
    obtain ⟨outcome, same⟩ := delivered.of_unflagged fun inside =>
      unflagged job member (Crew.mem_chronicle_of_deeds _ inside)
    exact ⟨_, seat, outcome, rfl, rfl, same⟩
  refine ⟨?_, ?_, ?_, ?_⟩
  · intro job member
    obtain ⟨delivery, seat, outcome, same, -, here⟩ := delivered job member
    have wrote : .wrote job.jobId { state := some .completed, completedAt := some "" } ∈
        deeds (some seat) crew.world.log := by
      rw [here, ← same]
      simp [deliveredStatus]
    obtain ⟨seat', mapping, wrote', -, state⟩ := landed seat job.jobId _ wrote
    rcases origin_of_handed marked whole account wrote' with ⟨_, _, other⟩ | ⟨_, _, _, -, -, -, ends⟩
    · cases other
    · rcases ends with completed | cancelled
      · exact ⟨.completed, state.trans completed, rfl⟩
      · exact ⟨.cancelled, state.trans cancelled, rfl⟩
  · intro job member
    obtain ⟨delivery, seat, outcome, same, -, here⟩ := delivered job member
    have reported : .reported delivery.callbackUrl (.ofResult delivery.jobId delivery.result) outcome ∈
        chronicle crew.world.log := by
      refine did_iff.mp ⟨some seat, ?_⟩
      rw [here]
      simp
    rw [received.result reported] at reported
    exact .inl ⟨_, _, same, reported⟩
  · intro job member
    obtain ⟨delivery, seat, outcome, -, same, here⟩ := delivered job member
    refine ⟨some seat, ?_⟩
    rw [here, ← same]
    simp
  · intro jobs results' ran different
    obtain ⟨rfl, same⟩ := ran_of_handed marked whole account ran
    cases same
    rw [batchJobs, List.length_map] at different
    exact absurd fits different

/-- While the results do not match, nobody is told anything. -/
theorem not_settled_of_handed (marked : BatchStage.Marked self redis.cancelled messages parsed before)
    (whole : deeds none crew.world.log =
      before ++ [.batchRan (batchJobs parsed) (.ok results), .created (.deliverBatch parsed results) number])
    (account : Crew.Account self redis.cancelled (fun runTask stage => stage.Sound runTask)
      (BatchStage.Course self redis.cancelled messages) crew) (different : results.length ≠ parsed.length) :
    ¬ BatchSettled messages parsed crew.world := by
  intro settled
  have some_ : parsed ≠ [] := by
    cases marked with
    | mk _ some_ => exact some_
  obtain ⟨job, member⟩ := List.exists_mem_of_ne_nil parsed some_
  -- whoever sent the webhook has a result for it
  have silent {deed : Deed} (did : deed ∈ chronicle crew.world.log) (outward : deed.internal = false)
      (spoken : ∀ messages jobs outcome spec number, deed ≠ .calledBatch messages ∧
        deed ≠ .batchRan jobs outcome ∧ deed ≠ .created spec number) : False := by
    obtain ⟨seat, inside⟩ := did_iff.mpr did
    cases seat with
    | none =>
        rw [whole] at inside
        rcases List.mem_append.mp inside with early | late
        · rcases marked.internal _ early with same | internal
          · exact (spoken messages [] (.ok []) (.deliverBatch [] []) 0).1 same
          · rw [outward] at internal
            cases internal
        · rcases List.mem_cons.mp late with same | last
          · exact (spoken [] _ _ (.deliverBatch [] []) 0).2.1 same
          · exact (spoken [] [] (.ok []) _ _).2.2 (List.mem_singleton.mp last)
    | some seat =>
        rcases origin_of_handed marked whole account inside with ⟨_, _, same⟩ | ⟨_, _, _, zipped, -, -⟩
        · exact (spoken [] [] (.ok []) _ _).2.2 same
        · unfold zipStrict at zipped
          rw [if_neg (Ne.symm different)] at zipped
          split at zipped <;> cases zipped
  rcases settled.notified job member with ⟨callbackUrl, payload, -, sent⟩ | ⟨callbackUrl, error, sent⟩
  · exact silent sent rfl (by simp)
  · exact silent sent rfl (by simp)

end Handed

end BatchLength

open BatchLength in
/-- The jobs of a batch are all brought to an end exactly when `batch_run` raises or returns as many results
as there are jobs. -/
theorem batchSettled_iff (self : Consumer) (redis : Redis) (messages : List StreamMessage)
    (batch : Except Exc (List ExecutionResult)) (system : System)
    (reaches : Pool.Reaches (machine self (.batching batch))
      (Pool.single { redis := redis } .loop (discard (processBatch self messages))) system)
    (ended : system.Ended) (ran : ∃ jobs, Did system.state.log (.batchRan jobs batch)) :
    BatchSettled messages (messages.filterMap (StreamMessage.accepted self redis)) system.state ↔
      ∀ results, batch = .ok results →
        results.length = (messages.filterMap (StreamMessage.accepted self redis)).length := by
  obtain ⟨received, same⟩ := replied reaches
  have agrees := Ledger.of_reaches Policy.batching_undisturbed Policy.batching_sole reaches
  have flags {jobId : String} (flagged : .flagged jobId ∈ chronicle system.state.log) :=
    World.flag_of_flagged Policy.batching_steady reaches flagged
  have unflagged : ∀ jobId, redis.cancelled jobId = false → .flagged jobId ∉ chronicle system.state.log := by
    intro jobId clear inside
    rw [flags inside] at clear
    cases clear
  obtain ⟨crew, stands, account, led, landed⟩ :=
    BatchStage.landed Policy.batching_undisturbed Policy.batching_sole reaches
  obtain ⟨⟨outcome, past⟩, finished⟩ := stands.ended ended
  rw [← stands.1] at ran same received agrees flags unflagged ⊢
  obtain ⟨jobs, seat, ran⟩ := ran
  have main := account.main
  obtain ⟨ending, stage⟩ := past.ended
  rw [stage] at main
  generalize whole : deeds none crew.world.log = here at main
  have alone (apart : ∀ spec number, .created spec number ∉ here) : chronicle crew.world.log = here := by
    rw [← whole] at apart ⊢
    exact account.chronicle_eq apart
  cases main with
  | undecodable split sifted reading =>
      have all := alone (by simp [sifted.anyOf.not_created])
      have member := did_iff.mp ⟨seat, ran⟩
      rw [all] at member
      simp [sifted.anyOf.not_batchRan] at member
  | idle sifted =>
      have all := alone (by simp [sifted.anyOf.not_created])
      have member := did_iff.mp ⟨seat, ran⟩
      rw [all] at member
      simp [sifted.anyOf.not_batchRan] at member
  | replayed marked attempted replayed =>
      have all := alone (by simp [marked.not_created, attempted.not_created, replayed.anyOf.not_created])
      have member := did_iff.mp ⟨seat, ran⟩
      rw [all] at member
      simp only [List.mem_append, marked.not_batchRan, replayed.anyOf.not_batchRan, false_or, or_false] at member
      cases attempted with
      | gone => cases member
      | @failed exception callable =>
          obtain ⟨-, rfl⟩ := Deed.batchRan.inj (List.mem_singleton.mp member)
          refine iff_of_true ?_ fun results other => by cases other
          refine settled_of_replayed marked (.failed callable) replayed all agrees received unflagged ?_
          intro jobs results inside
          cases same jobs _ inside
  | @handed parsed results before number marked =>
      have batch_ : batch = .ok results := by
        obtain ⟨-, other⟩ := ran_of_handed marked whole account ⟨seat, ran⟩
        exact other
      have exact_ : parsed = messages.filterMap (StreamMessage.accepted self redis) := by
        have early : before <+: chronicle crew.world.log := by
          rw [Crew.Led, whole] at led
          exact (List.prefix_append _ _).trans led
        exact marked.eq_accepted early agrees.2 fun _ inside => flags inside
      rw [← exact_]
      by_cases fits : results.length = parsed.length
      · refine iff_of_true ?_ fun results' other => ?_
        · refine settled_of_handed marked whole account landed finished received fits ?_
          intro job member
          rw [exact_] at member
          obtain ⟨message, listed, accepted⟩ := List.mem_filterMap.mp member
          obtain ⟨-, -, clear, ir, shots, -, rfl⟩ := open_of_accepted accepted
          exact unflagged _ clear
        · rw [batch_] at other
          cases other
          exact fits
      · exact iff_of_false (not_settled_of_handed marked whole account fits) fun claim =>
          fits (claim results batch_)

/-! ### One result for two jobs -/

namespace BatchLength

def pair : List StreamMessage := [Sample.message "1-0" "first", Sample.message "2-0" "second"]

/-- The executor returns too few results. -/
def short : Except Exc (List ExecutionResult) := .ok [Sample.result]

/-- The batch has been run and its delivery has ended. -/
def shortRun : System :=
  System.play Sample.consumer (.batching short)
    (fun role world op =>
      match op with
      | .batchRun _ => some (short, .answered)
      | op => Surroundings.plain Sample.result role world op)
    (List.replicate 20 (.task 0) ++ List.replicate 8 (.task 1))
    (Pool.single { redis := Sample.delivered pair } .loop (discard (processBatch Sample.consumer pair)))

/-- The jobs of the batch. -/
def pairJobs : List ParsedJob := pair.filterMap (StreamMessage.accepted Sample.consumer (Sample.delivered pair))

theorem shortRun_reaches :
    Pool.Reaches (machine Sample.consumer (.batching short))
      (Pool.single { redis := Sample.delivered pair } .loop (discard (processBatch Sample.consumer pair)))
      shortRun := by
  apply System.play_reaches
  · intro role world op outcome fate answered
    cases op with
    | batchRun jobs =>
        cases answered
        rfl
    | sendResult | sendError =>
        cases answered
        rfl
    | _ =>
        obtain ⟨_, -, same⟩ := Option.map_eq_some_iff.mp answered
        cases same
        trivial
  · simp

end BatchLength

open BatchLength in
/-- The result, for that batch. -/
theorem batchSettled_iff_shortRun :
    BatchSettled pair pairJobs shortRun.state ↔
      ∀ results, short = .ok results → results.length = pairJobs.length :=
  batchSettled_iff Sample.consumer _ pair short shortRun shortRun_reaches
    (System.ended_iff.mp (by decide +kernel)) ⟨batchJobs pairJobs, by decide +kernel⟩

open BatchLength in
/-- A batch whose executor returns too few results leaves its jobs executing and unacknowledged. -/
theorem not_batchSettled :
    ¬ ∀ (self : Consumer) (redis : Redis) (messages : List StreamMessage)
      (batch : Except Exc (List ExecutionResult)) (system : System),
      Pool.Reaches (machine self (.batching batch))
        (Pool.single { redis := redis } .loop (discard (processBatch self messages))) system →
      system.Ended → (∃ jobs, Did system.state.log (.batchRan jobs batch)) →
        BatchSettled messages (messages.filterMap (StreamMessage.accepted self redis)) system.state := by
  intro claim
  have settled : BatchSettled pair pairJobs shortRun.state :=
    claim Sample.consumer (Sample.delivered pair) pair short shortRun shortRun_reaches
      (System.ended_iff.mp (by decide +kernel)) ⟨batchJobs pairJobs, by decide +kernel⟩
  obtain ⟨job, member⟩ := List.exists_mem_of_ne_nil pairJobs (by decide +kernel)
  obtain ⟨state, same, terminal⟩ := settled.final job member
  have executing : ∀ job ∈ pairJobs, (shortRun.state.redis.status job.jobId).state = some .executing := by
    decide +kernel
  rw [executing job member] at same
  cases same
  cases terminal

end CodaNode
