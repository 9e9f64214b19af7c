/-
Module: CodaNode.Proofs.Duplicates
Layer: Proofs
Purpose: Messages of one batch that carry the same job. The duplicate check of `_process_batch` reads a
  status that is written after the batch has run, so it tells the messages of one batch apart exactly when
  the accepted ones are about different jobs.
Imports: CodaNode.Protocol.Reports
Main exports: DispatchedOnce, dispatchedOnce_iff
-/
import CodaNode.Protocol.Reports

namespace CodaNode

open Coroutine

/-- No job is passed to `batch_run` twice, and no job is reported as completed twice. -/
structure DispatchedOnce (log : List Entry) : Prop where
  ran : ∀ jobs outcome, Did log (.batchRan jobs outcome) → (jobs.map Prod.fst).Nodup
  reported : ∀ jobId, (chronicle log).countP (Deed.completes jobId) ≤ 1

/-- The accepted messages of a batch are about different jobs. -/
def Distinct (self : Consumer) (redis : Redis) (messages : List StreamMessage) : Prop :=
  ((messages.filterMap (StreamMessage.accepted self redis)).map ParsedJob.jobId).Nodup

instance (self : Consumer) (redis : Redis) (messages : List StreamMessage) :
    Decidable (Distinct self redis messages) := inferInstanceAs (Decidable (List.Nodup _))

namespace Duplicates

variable {self : Consumer} {policy : Policy} {redis : Redis} {messages : List StreamMessage}
variable {system : System} {crew : Crew BatchStage} {stage : BatchStage} {here : List Deed}

theorem jobIds_of_batchJobs (parsed : List ParsedJob) :
    (batchJobs parsed).map Prod.fst = parsed.map ParsedJob.jobId := by
  rw [batchJobs, List.map_map]
  rfl

/-- The jobs of a call of `batch_run` have been sifted before. -/
theorem marked_of_ran (course : BatchStage.Course self redis.cancelled messages stage here)
    {jobs : List (String × NativeGateIR × Int)} {outcome : Except Exc (List ExecutionResult)}
    (ran : .batchRan jobs outcome ∈ here) :
    ∃ parsed before, BatchStage.Marked self redis.cancelled messages parsed before ∧ before <+: here ∧
      jobs = batchJobs parsed := by
  cases course with
  | called => cases ran
  | lookUp _ sifted | busy sifted | undecodable _ sifted | idle sifted =>
      simp [sifted.anyOf.not_batchRan] at ran
  | pickUpFlag _ sifted | drop _ sifted => simp [sifted.anyOf.not_batchRan] at ran
  | dismiss _ sifted passed =>
      rcases List.mem_append.mp ran with before | last
      · simp [sifted.anyOf.not_batchRan] at before
      · exact absurd (passed.within _ last) id
  | mark sifted => simp [sifted.anyOf.not_batchRan, marked] at ran
  | run marked => exact absurd ran marked.not_batchRan
  | @spawn parsed results before marked =>
      simp only [List.mem_append, marked.not_batchRan, false_or, List.mem_singleton, Deed.batchRan.injEq] at ran
      exact ⟨parsed, before, marked, List.prefix_append _ _, ran.1⟩
  | @handed parsed results before number marked =>
      simp only [List.mem_append, marked.not_batchRan, false_or, List.mem_cons, Deed.batchRan.injEq,
        reduceCtorEq, List.not_mem_nil, or_false] at ran
      exact ⟨parsed, before, marked, List.prefix_append _ _, ran.1⟩
  | @process parsed done rest message stage before attempt replay more marked attempted _ replayed course =>
      have quiet : .batchRan jobs outcome ∉ more := fun member => course.allOf _ member
      simp only [List.mem_append, marked.not_batchRan, replayed.anyOf.not_batchRan, quiet, false_or, or_false] at ran
      refine ⟨parsed, before, marked, ?_, ?_⟩
      · rw [List.append_assoc, List.append_assoc]
        exact List.prefix_append _ _
      · cases attempted with
        | gone => cases ran
        | failed => exact (Deed.batchRan.inj (List.mem_singleton.mp ran)).1
  | @replayed parsed before attempt replay marked attempted replayed =>
      simp only [List.mem_append, marked.not_batchRan, replayed.anyOf.not_batchRan, false_or, or_false] at ran
      refine ⟨parsed, before, marked, ?_, ?_⟩
      · rw [List.append_assoc]
        exact List.prefix_append _ _
      · cases attempted with
        | gone => cases ran
        | failed => exact (Deed.batchRan.inj (List.mem_singleton.mp ran)).1

/-- Background tasks do not call the executor. -/
theorem main_ran {L : Type} {flags : String → Bool} {Sound : Option RunTask → L → Prop}
    {Course : L → List Deed → Prop} {crew : Crew L} (account : Crew.Account self flags Sound Course crew)
    (apart : ∀ delivery number, .created (.deliverSingle delivery) number ∉ deeds none crew.world.log)
    {jobs : List (String × NativeGateIR × Int)} {outcome : Except Exc (List ExecutionResult)}
    (ran : Did crew.world.log (.batchRan jobs outcome)) : .batchRan jobs outcome ∈ deeds none crew.world.log := by
  obtain ⟨seat, member⟩ := ran
  cases seat with
  | none => exact member
  | some seat =>
      rcases account.origin apart member with ⟨_, _, same⟩ | ⟨_, _, _, _, _, _, -, -, -, of⟩
      · cases same
      · exact of.elim

/-- The jobs of a batch are among those that were accepted. -/
theorem sublist_of_marked {parsed : List ParsedJob} {before : List Deed}
    (marked : BatchStage.Marked self redis.cancelled messages parsed before)
    (saw : ∀ jobId state, .saw jobId state ∈ before → Unsettled state →
      Unsettled (redis.status jobId).state) :
    parsed.Sublist (messages.filterMap (StreamMessage.accepted self redis)) := by
  cases marked with
  | mk sifted some_ =>
      exact sifted.sublist fun jobId state member => saw jobId state (by simp [member])

/-- A batch that is processed message by message reports every job once. -/
theorem reports_le_of_course (course : BatchStage.Course self redis.cancelled messages stage here)
    (saw : ∀ jobId state, .saw jobId state ∈ here → Unsettled state →
      Unsettled (redis.status jobId).state)
    (distinct : Distinct self redis messages) (jobId : String) :
    here.countP (Deed.completes jobId) ≤ 1 := by
  have quiet {sifting : List Deed} {done : List StreamMessage} {parsed : List ParsedJob}
      (sifted : Sifted self redis.cancelled done parsed sifting) :
      Mute (.calledBatch messages :: sifting) := by
    intro deed member
    rcases List.mem_cons.mp member with rfl | inside
    · rfl
    · exact mute_of_internal sifted.internal deed inside
  have none_ (mute : Mute here) : here.countP (Deed.completes jobId) ≤ 1 := by
    rw [mute.countP]
    exact Nat.zero_le 1
  have attempt_ {parsed : List ParsedJob} {attempt : List Deed} (attempted : Attempted self parsed attempt) :
      Mute attempt := by
    cases attempted <;> simp [Mute, Deed.tells]
  -- at most one accepted message is about the job
  have once : (messages.filterMap (StreamMessage.accepted self redis)).countP
      (fun job => job.jobId = jobId) ≤ 1 := by
    have count := List.nodup_iff_count_le_one.mp distinct jobId
    rw [List.count_eq_countP, List.countP_map] at count
    exact count
  cases course with
  | called => exact Nat.zero_le 1
  | lookUp _ sifted | busy sifted | undecodable _ sifted | idle sifted => exact none_ (quiet sifted)
  | pickUpFlag _ sifted | drop _ sifted =>
      exact none_ ((quiet sifted).append (by simp [Mute, Deed.tells]))
  | dismiss _ sifted passed =>
      refine none_ ((quiet sifted).append ?_)
      cases passed <;> simp [Mute, Deed.tells, Stage.wroteCancelled]
  | mark sifted => exact none_ ((quiet sifted).append (by simp [Mute, Deed.tells, marked]))
  | run marked => exact none_ marked.mute
  | spawn marked | handed marked => exact none_ (marked.mute.append (by simp [Mute, Deed.tells]))
  | @process parsed done rest message stage before attempt replay more marked attempted split replayed course =>
      rw [List.countP_append, List.countP_append, (marked.mute.append (attempt_ attempted)).countP,
        Nat.zero_add]
      have past := replayed.reports_le jobId fun jobId state inside => saw jobId state (by simp [inside])
      have current := course.told.reports_le jobId fun jobId state inside => saw jobId state (by simp [inside])
      rw [split, List.filterMap_append, ← List.singleton_append, List.filterMap_append, List.countP_append,
        List.countP_append] at once
      omega
  | @replayed parsed before attempt replay marked attempted replayed =>
      rw [List.countP_append, (marked.mute.append (attempt_ attempted)).countP, Nat.zero_add]
      have past := replayed.reports_le jobId fun jobId state inside => saw jobId state (by simp [inside])
      exact Nat.le_trans past once

/-- Accepted messages about different jobs are dispatched once. -/
theorem dispatchedOnce_of_distinct (undisturbed : policy.Undisturbed) (sole : policy.Sole)
    (distinct : Distinct self redis messages)
    (reaches : Pool.Reaches (machine self policy)
      (Pool.single { redis := redis } .loop (discard (processBatch self messages))) system) :
    DispatchedOnce system.state.log := by
  obtain ⟨crew, stands, account, settled⟩ :=
    Crew.Account.reaches_with undisturbed (BatchStage.accountable undisturbed messages)
      BatchStage.follows RunAtRest.none .called
      (fun {first second} step account (settled : Crew.Settled (.opening redis) first) =>
        (settled.step undisturbed sole BatchStage.grounding step account :
          Crew.Settled (.opening redis) second)) .start reaches
  rw [← stands.1]
  have saw : ∀ jobId state, .saw jobId state ∈ deeds none crew.world.log → Unsettled state →
      Unsettled (redis.status jobId).state :=
    fun jobId state member => settled.saw (Crew.mem_chronicle_of_deeds _ member)
  have main := account.main
  have within {parsed : List ParsedJob} {before : List Deed}
      (marked : BatchStage.Marked self redis.cancelled messages parsed before)
      (early : before <+: deeds none crew.world.log) : (parsed.map ParsedJob.jobId).Nodup := by
    have sub := sublist_of_marked marked fun jobId state member => saw jobId state (early.subset member)
    exact (sub.map ParsedJob.jobId).nodup distinct
  have apart : ∀ delivery number, .created (.deliverSingle delivery) number ∉ deeds none crew.world.log := by
    intro delivery number created
    obtain ⟨_, _, _, _, same, -⟩ := main.handed_of_created created
    cases same
  constructor
  · intro jobs outcome ran
    obtain ⟨parsed, before, marked, early, rfl⟩ := marked_of_ran main (main_ran account apart ran)
    rw [jobIds_of_batchJobs]
    exact within marked early
  · intro jobId
    by_cases alone : ∀ spec number, .created spec number ∉ deeds none crew.world.log
    · rw [account.chronicle_eq alone]
      exact reports_le_of_course main saw distinct jobId
    · obtain ⟨spec, number, created⟩ : ∃ spec number, .created spec number ∈ deeds none crew.world.log := by
        simpa using alone
      obtain ⟨parsed, results, before, marked, -, -, whole⟩ := main.handed_of_created created
      have early : before <+: deeds none crew.world.log := by
        rw [whole]
        exact List.prefix_append _ _
      exact marked.reports_le whole account (within marked early) jobId

end Duplicates

open Duplicates in
/-- While nothing fails and nobody else writes a status, every job is dispatched once if the accepted messages
are about different jobs; while moreover no cancellation flag changes, a batch that has been run was
dispatched so only then. -/
theorem dispatchedOnce_iff (self : Consumer) (redis : Redis) (messages : List StreamMessage) (system : System) :
    (Pool.Reaches (machine self .exclusive)
        (Pool.single { redis := redis } .loop (discard (processBatch self messages))) system →
      Distinct self redis messages → DispatchedOnce system.state.log) ∧
    (Pool.Reaches (machine self .constant)
        (Pool.single { redis := redis } .loop (discard (processBatch self messages))) system →
      ∀ jobs outcome, Did system.state.log (.batchRan jobs outcome) →
        (DispatchedOnce system.state.log ↔ Distinct self redis messages)) := by
  constructor
  · intro reaches distinct
    exact dispatchedOnce_of_distinct Policy.exclusive_undisturbed Policy.exclusive_sole distinct reaches
  · intro reaches jobs outcome ran
    refine ⟨fun once => ?_, fun distinct =>
      dispatchedOnce_of_distinct Policy.constant_undisturbed Policy.constant_sole distinct reaches⟩
    have agrees := Ledger.of_reaches Policy.constant_undisturbed Policy.constant_sole reaches
    obtain ⟨crew, stands, account, led, -⟩ :=
      BatchStage.landed Policy.constant_undisturbed Policy.constant_sole reaches
    have flags {jobId : String} (flagged : .flagged jobId ∈ chronicle system.state.log) :=
      World.flag_of_flagged Policy.constant_steady reaches flagged
    rw [← stands.1] at ran once agrees flags
    have apart : ∀ delivery number, .created (.deliverSingle delivery) number ∉ deeds none crew.world.log := by
      intro delivery number created
      obtain ⟨_, _, _, _, same, -⟩ := account.main.handed_of_created created
      cases same
    obtain ⟨parsed, before, marked, early, rfl⟩ := marked_of_ran account.main (main_ran account apart ran)
    have exact_ := marked.eq_accepted (early.trans led) agrees.2 fun _ inside => flags inside
    rw [Distinct, ← exact_, ← jobIds_of_batchJobs]
    exact once.ran _ _ ran

/-! ### One job twice in a batch -/

namespace Duplicates

def twice : List StreamMessage := [Sample.message "1-0" "job", Sample.message "2-0" "job"]

/-- The batch, while nothing fails. -/
def twiceRun : System :=
  System.play Sample.consumer .constant (Surroundings.plain Sample.result) (List.replicate 20 (.task 0))
    (Pool.single { redis := Sample.delivered twice } .loop (discard (processBatch Sample.consumer twice)))

theorem twiceRun_reaches :
    Pool.Reaches (machine Sample.consumer .constant)
      (Pool.single { redis := Sample.delivered twice } .loop
        (discard (processBatch Sample.consumer twice))) twiceRun :=
  System.play_reaches (Surroundings.plain_within fun _ _ _ _ => trivial) _ _ (by simp)

/-- A batch of two jobs and its delivery. -/
def apart : List StreamMessage := [Sample.message "1-0" "first", Sample.message "2-0" "second"]

def apartRun : System :=
  System.play Sample.consumer .exclusive (Surroundings.plain Sample.result)
    (List.replicate 20 (.task 0) ++ List.replicate 8 (.task 1) ++ List.replicate 8 (.task 2) ++
      List.replicate 8 (.task 3))
    (Pool.single { redis := Sample.delivered apart } .loop (discard (processBatch Sample.consumer apart)))

theorem apartRun_reaches :
    Pool.Reaches (machine Sample.consumer .exclusive)
      (Pool.single { redis := Sample.delivered apart } .loop
        (discard (processBatch Sample.consumer apart))) apartRun :=
  System.play_reaches (Surroundings.plain_within fun _ _ _ _ => trivial) _ _ (by simp)

/-- The jobs of the batch. -/
def twiceJobs : List (String × NativeGateIR × Int) :=
  batchJobs (twice.filterMap (StreamMessage.accepted Sample.consumer (Sample.delivered twice)))

end Duplicates

open Duplicates in
/-- The result, for a batch in which a job occurs twice and one in which it occurs once. -/
theorem dispatchedOnce_iff_twiceRun :
    (DispatchedOnce twiceRun.state.log ↔
      Distinct Sample.consumer (Sample.delivered twice) twice) ∧ DispatchedOnce apartRun.state.log :=
  ⟨(dispatchedOnce_iff Sample.consumer _ twice twiceRun).2 twiceRun_reaches twiceJobs
      (.ok [Sample.result, Sample.result]) (by decide +kernel),
    (dispatchedOnce_iff Sample.consumer _ apart apartRun).1 apartRun_reaches (by decide +kernel)⟩

open Duplicates in
/-- A job that occurs twice in a batch is passed to the executor twice. -/
theorem not_dispatchedOnce :
    ¬ ∀ (self : Consumer) (redis : Redis) (messages : List StreamMessage) (system : System),
      Pool.Reaches (machine self .constant)
        (Pool.single { redis := redis } .loop (discard (processBatch self messages))) system →
      DispatchedOnce system.state.log := by
  intro claim
  have once := claim Sample.consumer _ twice twiceRun twiceRun_reaches
  have nodup := once.ran twiceJobs (.ok [Sample.result, Sample.result]) (by decide +kernel)
  exact absurd nodup (by decide +kernel)

end CodaNode
