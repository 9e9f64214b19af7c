/-
Module: CodaNode.Proofs.CrashRecovery
Layer: Proofs
Purpose: A process that dies while it processes a message, and the recovery of the one that is started
  after it. The recovery decides by the status alone. It acknowledges no job whose outcome was never sent,
  provided that the dead process did not leave a completed status without having tried the webhook.
Imports: CodaNode.Protocol.Replay
Main exports: Tried, Excused, recovery_excused
-/
import CodaNode.Protocol.Replay

namespace CodaNode

open Coroutine

/-- A result or error webhook of the job was attempted. -/
def Tried (deeds : List Deed) (jobId : String) : Prop :=
  (∃ callbackUrl payload outcome, payload.jobId = jobId ∧ .reported callbackUrl payload outcome ∈ deeds) ∨
    ∃ callbackUrl error outcome, .reportedFailure callbackUrl jobId error outcome ∈ deeds

/-- The job was found cancelled, or recorded so. -/
def CalledOff (deeds : List Deed) (jobId : String) : Prop :=
  .flagged jobId ∈ deeds ∨ .saw jobId (some .cancelled) ∈ deeds ∨
    ∃ mapping, mapping.state = some .cancelled ∧ .wrote jobId mapping ∈ deeds

theorem Tried.mono {deeds more : List Deed} {jobId : String} (within : ∀ deed ∈ deeds, deed ∈ more)
    (tried : Tried deeds jobId) :
    Tried more jobId := by
  rcases tried with ⟨callbackUrl, payload, outcome, same, member⟩ | ⟨callbackUrl, error, outcome, member⟩
  · exact .inl ⟨callbackUrl, payload, outcome, same, within _ member⟩
  · exact .inr ⟨callbackUrl, error, outcome, within _ member⟩

theorem CalledOff.mono {deeds more : List Deed} {jobId : String} (within : ∀ deed ∈ deeds, deed ∈ more)
    (off : CalledOff deeds jobId) : CalledOff more jobId := by
  rcases off with flagged | saw | ⟨mapping, cancelled, wrote⟩
  · exact .inl (within _ flagged)
  · exact .inr (.inl (within _ saw))
  · exact .inr (.inr ⟨mapping, cancelled, within _ wrote⟩)

/-- The message may be acknowledged: it lacks a field, its outcome was sent, or the job was cancelled. -/
def Excused (message : StreamMessage) (deeds : List Deed) : Prop :=
  message.read = .ok none ∨ Tried deeds message.job.jobId ∨ CalledOff deeds message.job.jobId

theorem Excused.mono {deeds more : List Deed} {message : StreamMessage}
    (within : ∀ deed ∈ deeds, deed ∈ more) (excused : Excused message deeds) : Excused message more :=
  excused.imp_right (Or.imp (Tried.mono within) (CalledOff.mono within))

namespace CrashRecovery

variable {self : Consumer} {redis : Redis} {flags : String → Bool} {message : StreamMessage}
variable {here past : List Deed} {jobId : String}

/-- A completed status has its reasons: a webhook was tried, or the job was cancelled, as far as `known`
tells beyond these deeds. -/
def Backed (known : Prop) (deeds : List Deed) (jobId : String) (state : Option JobState) : Prop :=
  state = some .completed → known ∨ Tried deeds jobId ∨ CalledOff deeds jobId

theorem Backed.mono {known : Prop} {deeds more : List Deed} {state : Option JobState}
    (within : ∀ deed ∈ deeds, deed ∈ more) (backed : Backed known deeds jobId state) :
    Backed known more jobId state :=
  fun completed => (backed completed).imp_right (Or.imp (Tried.mono within) (CalledOff.mono within))

/-- A call that has ended is excused, unless it found a completed status that was not backed. -/
theorem excused_of_served {known : Prop} (served : Stage.Served self flags message here) {ledger : Ledger}
    (truthful : ledger.Truthful here)
    (backed : (ledger.status message.job.jobId).state = some .completed → known) :
    known ∨ Excused message here := by
  cases served with
  | turned turned =>
      cases turned with
      | malformed reading => exact .inr (.inl reading)
      | @final state reading final =>
          have seen := truthful [.called message] message.job.jobId state _ rfl
          rcases final with rfl | rfl
          · exact .inl (backed seen.symm)
          · exact .inr (.inr (.inr (.inr (.inl (by simp)))))
      | dropped picked => exact .inr (.inr (.inr (.inl (by simp))))
  | worked worked =>
      right; right
      cases worked with
      | @cancelled before struck =>
          have wrote : Stage.wroteCancelled self message ∈
              before ++ [Stage.wroteCancelled self message] ++ [.acked message.messageId] := by simp
          exact .inr (.inr (.inr ⟨_, rfl, wrote⟩))
      | late broken => exact .inr (.inl (by simp))
      | @failed before exception outcome broken =>
          exact .inl (.inr ⟨message.job.callbackUrl, errorText exception, outcome, by simp⟩)
      | @completed before result returned =>
          exact .inl (.inl ⟨message.job.callbackUrl, .ofResult message.job.jobId result, .ok (), rfl, by simp⟩)

/-- A call leaves a backed status, for its own job and for every other. -/
theorem backed_of_served {known : Prop} (served : Stage.Served self flags message here) {ledger : Ledger}
    (truthful : ledger.Truthful here) (backed : Backed known past jobId (ledger.status jobId).state) :
    Backed known (past ++ here) jobId ((ledger.after here).status jobId).state := by
  have after {deed : Deed} (member : deed ∈ past) : deed ∈ past ++ here := List.mem_append_left _ member
  by_cases about : message.About jobId
  · obtain ⟨reading, rfl⟩ := about
    intro _
    rcases excused_of_served served truthful backed with (known | tried | off) | malformed | tried | off
    · exact .inl known
    · exact .inr (.inl (tried.mono fun _ => after))
    · exact .inr (.inr (off.mono fun _ => after))
    · rw [reading] at malformed
      cases malformed
    · exact .inr (.inl (tried.mono fun _ member => List.mem_append_right _ member))
    · exact .inr (.inr (off.mono fun _ member => List.mem_append_right _ member))
  · rw [served.status_other about]
    exact backed.mono fun _ => after

/-- The call that acknowledges the message. -/
theorem excused_of_acked {known : Prop} {messageId : String} {other : StreamMessage}
    (served : Stage.Served self flags ⟨messageId, other.fields⟩ here) {ledger : Ledger}
    (truthful : ledger.Truthful here)
    (backed : Backed known past message.job.jobId (ledger.status message.job.jobId).state)
    (found : messageId = message.messageId → other = message)
    (acked : .acked message.messageId ∈ here) : known ∨ Excused message (past ++ here) := by
  have same : message.messageId = messageId := served.allOf _ acked
  have found := found same.symm
  subst found
  rw [← same] at served
  rcases excused_of_served served truthful backed with (known | tried | off) | excused
  · exact .inl known
  · exact .inr (.inr (.inl (tried.mono fun _ member => List.mem_append_left _ member)))
  · exact .inr (.inr (.inr (off.mono fun _ member => List.mem_append_left _ member)))
  · exact .inr (excused.mono fun _ member => List.mem_append_right _ member)

/-- A recovery keeps the status of a job backed, and excuses every message that it acknowledges. -/
theorem excused_of_recovered {known : Prop} {ids : List String} (recovered : Recovered self flags ids here)
    {ledger : Ledger} (truthful : ledger.Truthful here)
    (backed : Backed known past message.job.jobId (ledger.status message.job.jobId).state)
    (found : ∀ other others, .fetched message.messageId (other :: others) ∈ here → other = message) :
    Backed known (past ++ here) message.job.jobId ((ledger.after here).status message.job.jobId).state ∧
      (.acked message.messageId ∈ here → known ∨ Excused message (past ++ here)) := by
  induction recovered with
  | nil =>
      rw [List.append_nil]
      exact ⟨backed, fun member => by cases member⟩
  | @trimmed ids before messageId recovered inductionHypothesis =>
      obtain ⟨earlier, acked⟩ := inductionHypothesis (Ledger.Truthful.append_iff.mp truthful).1
        fun other others member => found other others (List.mem_append_left _ member)
      have within : ∀ deed ∈ past ++ before, deed ∈ past ++ (before ++ [.fetched messageId []]) := by
        grind
      rw [Ledger.after_append]
      refine ⟨earlier.mono within, fun member => ?_⟩
      exact (acked (by simpa using member)).imp_right (Excused.mono within)
  | @served ids before more messageId other others recovered served inductionHypothesis =>
      obtain ⟨first, second⟩ := Ledger.Truthful.append_iff.mp truthful
      obtain ⟨earlier, acked⟩ := inductionHypothesis first
        fun other others member => found other others (List.mem_append_left _ member)
      rw [← List.singleton_append] at second ⊢
      have truthful := (Ledger.Truthful.append_iff.mp second).2
      have shift : ∀ deed ∈ past ++ before ++ more,
          deed ∈ past ++ (before ++ ([.fetched messageId (other :: others)] ++ more)) := by
        grind
      rw [Ledger.after_append, Ledger.after_append]
      refine ⟨(backed_of_served served truthful earlier).mono shift, fun member => ?_⟩
      simp only [List.mem_append, List.mem_singleton, reduceCtorEq, false_or] at member
      rcases member with old | new
      · exact (acked old).imp_right (Excused.mono fun deed inside => shift deed (List.mem_append_left _ inside))
      · refine (excused_of_acked served truthful earlier ?_ new).imp_right (Excused.mono shift)
        rintro rfl
        exact found other others (by simp)

/-- The deeds of a recovery: the query, the calls that are over, and the one that is under way. -/
inductive Parts (consumer : Consumer) (flags : String → Bool) : List Deed → Prop where
  | none : Parts consumer flags []
  | between {ids listed : List String} {before : List Deed} (recovered : Recovered consumer flags ids before) :
      Parts consumer flags (.queried listed :: before)
  | within {ids listed : List String} {before more : List Deed} {messageId : String} {other : StreamMessage}
      {others : List StreamMessage} {stage : Stage} (recovered : Recovered consumer flags ids before)
      (course : Stage.Course consumer flags ⟨messageId, other.fields⟩ stage more) :
      Parts consumer flags (.queried listed :: before ++ .fetched messageId (other :: others) :: more)

theorem parts_of_course {stage : RecoveryStage} (course : RecoveryStage.Course self flags stage here) :
    Parts self flags here := by
  cases course with
  | query => exact .none
  | fetch recovered | ended recovered => exact .between recovered
  | process recovered course => exact .within recovered course
  | undecodable recovered reading => exact .within recovered (.undecodable reading)

/-- What holds at every stage of a recovery. -/
theorem excused_of_parts {known : Prop} (parts : Parts self flags here) {ledger : Ledger}
    (truthful : ledger.Truthful here)
    (backed : Backed known past message.job.jobId (ledger.status message.job.jobId).state)
    (found : ∀ other others, .fetched message.messageId (other :: others) ∈ here → other = message)
    (acked : .acked message.messageId ∈ here) : known ∨ Excused message (past ++ here) := by
  cases parts with
  | none => cases acked
  | @between ids listed before recovered =>
      rw [← List.singleton_append] at truthful
      have inner := (Ledger.Truthful.append_iff.mp truthful).2
      obtain ⟨-, excused⟩ := excused_of_recovered recovered inner backed
        fun other others member => found other others (List.mem_cons_of_mem _ member)
      refine (excused (by simpa using acked)).imp_right (Excused.mono ?_)
      grind
  | @within ids listed before more messageId other others stage recovered course =>
      rw [← List.singleton_append, List.append_assoc] at truthful
      obtain ⟨inner, rest⟩ := Ledger.Truthful.append_iff.mp (Ledger.Truthful.append_iff.mp truthful).2
      have current := (Ledger.Truthful.append_iff.mp
        (show Ledger.Truthful _ ([.fetched messageId (other :: others)] ++ more) from rest)).2
      obtain ⟨earlier, excused⟩ := excused_of_recovered recovered inner backed
        fun other others member => found other others (by simp [member])
      have shift : ∀ deed ∈ past ++ before ++ more,
          deed ∈ past ++ (.queried listed :: before ++ .fetched messageId (other :: others) :: more) := by
        grind
      simp only [List.cons_append, List.mem_cons, reduceCtorEq, List.mem_append, false_or] at acked
      rcases acked with old | new
      · exact (excused old).imp_right (Excused.mono fun deed inside => shift deed (List.mem_append_left _ inside))
      · refine (excused_of_acked (course.served_of_acked new) current earlier ?_ new).imp_right (Excused.mono shift)
        rintro rfl
        exact found other others (by simp)

end CrashRecovery

open CrashRecovery in
/-- A message is acknowledged, by the process that dies or by the recovery after it, only with an excuse:
unless the dead process has left a completed status, without having tried a webhook, for a job that nobody
had cancelled. -/
theorem recovery_excused (self heir : Consumer) (redis : Redis) (message : StreamMessage)
    (unique : ∀ other ∈ redis.stream, other.messageId = message.messageId → other = message)
    (dead reborn : System)
    (died : Pool.Reaches (machine self .exclusive)
      (Pool.single { redis := redis } .loop (processEntry self message)) dead)
    (backed : (dead.state.redis.status message.job.jobId).state = some .completed →
      Tried (chronicle dead.state.log) message.job.jobId ∨
        dead.state.redis.cancelled message.job.jobId = true)
    (restarted : Pool.Reaches (machine heir .exclusive)
      (Pool.single { redis := dead.state.redis } .loop (discard (recoverPending heir))) reborn) :
    (Did dead.state.log (.acked message.messageId) →
      dead.state.redis.cancelled message.job.jobId = true ∨ Excused message (chronicle dead.state.log)) ∧
    (Did reborn.state.log (.acked message.messageId) →
      dead.state.redis.cancelled message.job.jobId = true ∨
        Excused message (chronicle dead.state.log ++ chronicle reborn.state.log)) := by
  constructor
  · intro did
    obtain ⟨crew, stands, account, settled⟩ :=
      Crew.Account.reaches_with Policy.exclusive_undisturbed
        (Stage.accountable Policy.exclusive_undisturbed message) Stage.follows RunAtRest.none .called
        (fun {first second} step account (settled : Crew.Settled (.opening redis) first) =>
          (settled.step Policy.exclusive_undisturbed Policy.exclusive_sole Stage.grounding step account :
            Crew.Settled (.opening redis) second)) .start died
    rw [← stands.1] at did backed ⊢
    have same := account.chronicle_eq fun spec number => account.main.not_created
    rw [did_iff, same] at did
    have served := account.main.served_of_acked did
    have truthful := settled.agrees.2
    rw [same] at truthful backed ⊢
    have found : ((Ledger.opening redis).status message.job.jobId).state = some .completed →
        Tried (deeds none crew.world.log) message.job.jobId ∨
          crew.world.redis.cancelled message.job.jobId = true := by
      intro completed
      apply backed
      have final : ¬ Unsettled (redis.status message.job.jobId).state := fun unsettled => unsettled.1 completed
      have unwritten := settled.unwritten final
      have kept := settled.agrees.1 message.job.jobId
      rw [Ledger.status_of_unwritten unwritten] at kept
      exact (congrArg StatusHash.state kept).trans completed
    rcases excused_of_served served truthful found with (tried | cancelled) | excused
    · exact .inr (.inr (.inl tried))
    · exact .inl cancelled
    · exact .inr excused
  · intro did
    have stream : dead.state.redis.stream = redis.stream := World.stream_of_reaches died
    have agrees := Ledger.of_reaches Policy.exclusive_undisturbed Policy.exclusive_sole restarted
    obtain ⟨crew, stands, account, faithful⟩ :=
      RecoveryStage.account_faithful (fun _ _ admitted => admitted) restarted
    rw [← stands.1] at did agrees ⊢
    have same : chronicle crew.world.log = deeds none crew.world.log := by
      apply chronicle_alone
      intro number
      apply account.fresh
      rw [faithful.alone]
      exact Nat.zero_le number
    have truthful := agrees.2
    rw [did_iff, same] at did
    rw [same] at truthful ⊢
    refine excused_of_parts (parts_of_course account.main) truthful (fun completed => ?_)
      (fun other others member => ?_) did
    · exact (backed completed).elim (fun tried => .inr (.inl tried)) .inl
    · have shape := faithful.fetched _ _ member
      rw [stream] at shape
      have inside : other ∈ redis.stream.filter fun entry => entry.messageId = message.messageId := by
        rw [← shape]
        exact List.mem_cons_self
      obtain ⟨listed, named⟩ := List.mem_filter.mp inside
      exact unique other listed (of_decide_eq_true named)

/-! ### Two crashes -/

namespace CrashRecovery

def lone : StreamMessage := Sample.message "1-0" "job"

/-- The message is being processed, and the process dies this many steps after the executor has ended. -/
def deadRun (steps : Nat) : System :=
  System.play Sample.consumer .exclusive (Surroundings.plain Sample.result)
    (List.replicate 8 (.task 0) ++
      .env (.runFinished "job" (.ok Sample.result)) :: List.replicate steps (.task 0))
    (Pool.single { redis := Sample.delivered [lone] } .loop (processEntry Sample.consumer lone))

/-- The recovery after that. -/
def rebornRun (steps : Nat) : System :=
  System.play Sample.consumer .exclusive (Surroundings.plain Sample.result)
    (List.replicate 10 (.task 0) ++
      .env (.runFinished "job" (.ok Sample.result)) :: List.replicate 20 (.task 0))
    (Pool.single { redis := (deadRun steps).state.redis } .loop (discard (recoverPending Sample.consumer)))

theorem plain_within_exclusive : (Surroundings.plain Sample.result).Within .exclusive :=
  Surroundings.plain_within fun _ _ _ _ => trivial

theorem deadRun_reaches (steps : Nat) :
    Pool.Reaches (machine Sample.consumer .exclusive)
      (Pool.single { redis := Sample.delivered [lone] } .loop (processEntry Sample.consumer lone))
      (deadRun steps) := by
  apply System.play_reaches plain_within_exclusive
  intro event member
  simp only [List.mem_append, List.mem_cons, List.mem_replicate, reduceCtorEq, and_false,
    or_false, false_or, Turn.env.injEq] at member
  subst member
  trivial

theorem rebornRun_reaches (steps : Nat) :
    Pool.Reaches (machine Sample.consumer .exclusive)
      (Pool.single { redis := (deadRun steps).state.redis } .loop
        (discard (recoverPending Sample.consumer))) (rebornRun steps) := by
  apply System.play_reaches plain_within_exclusive
  intro event member
  simp only [List.mem_append, List.mem_cons, List.mem_replicate, reduceCtorEq, and_false,
    or_false, false_or, Turn.env.injEq] at member
  subst member
  trivial

theorem lone_unique : ∀ other ∈ (Sample.delivered [lone]).stream,
    other.messageId = lone.messageId → other = lone := by
  intro other member _
  exact List.mem_singleton.mp member

/-- Nothing says that the job was cancelled or reported. -/
def quiet (jobId : String) : Deed → Bool
  | .flagged id => id ≠ jobId
  | .saw id state => ¬ (id = jobId ∧ state = some .cancelled)
  | .wrote id mapping => ¬ (id = jobId ∧ mapping.state = some .cancelled)
  | .reported _ payload _ => payload.jobId ≠ jobId
  | .reportedFailure _ id _ _ => id ≠ jobId
  | _ => true

theorem not_excused_of_quiet {message : StreamMessage} {deeds : List Deed}
    (carries : message.read = .ok (some message.job))
    (all : ∀ deed ∈ deeds, quiet message.job.jobId deed = true) : ¬ Excused message deeds := by
  rintro (malformed | (⟨_, payload, _, same, sent⟩ | ⟨_, _, _, sent⟩) | flagged | saw | ⟨mapping, same, wrote⟩)
  · rw [carries] at malformed
    cases malformed
  · simpa [quiet, same] using all _ sent
  · simpa [quiet] using all _ sent
  · simpa [quiet] using all _ flagged
  · simpa [quiet] using all _ saw
  · simpa [quiet, same] using all _ wrote

end CrashRecovery

open CrashRecovery in
/-- The result, for a process that dies before it has recorded that the job is completed. -/
theorem recovery_excused_deadRun :
    (deadRun 3).state.redis.cancelled "job" = true ∨
      Excused lone (chronicle (deadRun 3).state.log ++ chronicle (rebornRun 3).state.log) :=
  (recovery_excused Sample.consumer Sample.consumer (Sample.delivered [lone]) lone lone_unique
    (deadRun 3) (rebornRun 3) (deadRun_reaches 3)
    (fun completed => absurd completed (by decide +kernel)) (rebornRun_reaches 3)).2 (by decide +kernel)

open CrashRecovery in
/-- A process that dies between the completed status and the webhook leaves a job whose result is never
sent, and the recovery acknowledges it. -/
theorem not_recovery_excused :
    ¬ ∀ (self heir : Consumer) (redis : Redis) (message : StreamMessage),
      (∀ other ∈ redis.stream, other.messageId = message.messageId → other = message) →
      ∀ dead reborn : System,
      Pool.Reaches (machine self .exclusive)
        (Pool.single { redis := redis } .loop (processEntry self message)) dead →
      Pool.Reaches (machine heir .exclusive)
        (Pool.single { redis := dead.state.redis } .loop (discard (recoverPending heir))) reborn →
      Did reborn.state.log (.acked message.messageId) →
        dead.state.redis.cancelled message.job.jobId = true ∨
          Excused message (chronicle dead.state.log ++ chronicle reborn.state.log) := by
  intro claim
  rcases claim Sample.consumer Sample.consumer (Sample.delivered [lone]) lone lone_unique
    (deadRun 8) (rebornRun 8) (deadRun_reaches 8) (rebornRun_reaches 8) (by decide +kernel) with
    cancelled | excused
  · exact absurd cancelled (by decide +kernel)
  · refine not_excused_of_quiet (by decide +kernel) ?_ excused
    decide +kernel

end CodaNode
