/-
Module: CodaNode.Server.Ledger
Layer: Server
Purpose: What a run comes to, as an account over its deeds: the status hash of every job up to the times
  of day, the acknowledged messages, the executor calls and the webhooks. While nobody else writes a
  status, the hashes of the account are those in Redis, and every status the consumer has read was the
  one of the account at that point.
Imports: CodaNode.Server.Deeds, CodaNode.Server.Undisturbed
Main exports: Ledger, chronicle, Ledger.Truthful, Ledger.of_reaches
-/
import CodaNode.Server.Deeds
import CodaNode.Server.Undisturbed

namespace CodaNode

open Coroutine

/-- What has become of the jobs and messages of a run. -/
structure Ledger where
  status : String → StatusHash
  acked : List String := []
  runs : List (String × NativeGateIR × Int) := []
  webhooks : List (String × WebhookPayload) := []

namespace Ledger

/-- The account before a run on this Redis. -/
def opening (redis : Redis) : Ledger where
  status job := (redis.status job).timeless

/-- A status write. -/
def write (ledger : Ledger) (jobId : String) (mapping : StatusHash) : Ledger :=
  { ledger with
    status := fun job =>
      if job = jobId then (ledger.status job).merge mapping else ledger.status job }

/-- The entry for one deed. -/
def record (ledger : Ledger) : Deed → Ledger
  | .wrote jobId mapping => ledger.write jobId mapping
  | .acked messageId => { ledger with acked := ledger.acked ++ [messageId] }
  | .ran jobId ir shots => { ledger with runs := ledger.runs ++ [(jobId, ir, shots)] }
  | .reported callbackUrl payload _ =>
      { ledger with webhooks := ledger.webhooks ++ [(callbackUrl, payload)] }
  | .reportedFailure callbackUrl jobId error _ =>
      { ledger with webhooks := ledger.webhooks ++ [(callbackUrl, .ofError jobId error)] }
  | _ => ledger

/-- The account after these deeds. -/
def after (ledger : Ledger) (deeds : List Deed) : Ledger := deeds.foldl record ledger

@[simp] theorem after_nil (ledger : Ledger) : ledger.after [] = ledger := rfl

@[simp] theorem after_cons (ledger : Ledger) (deed : Deed) (deeds : List Deed) :
    ledger.after (deed :: deeds) = (ledger.record deed).after deeds := rfl

@[simp] theorem after_append (ledger : Ledger) (deeds more : List Deed) :
    ledger.after (deeds ++ more) = (ledger.after deeds).after more := List.foldl_append

theorem write_same (ledger : Ledger) (jobId : String) (mapping : StatusHash) :
    (ledger.write jobId mapping).status jobId = (ledger.status jobId).merge mapping := by
  simp [write]

theorem write_other (ledger : Ledger) {jobId job : String} (mapping : StatusHash)
    (distinct : job ≠ jobId) : (ledger.write jobId mapping).status job = ledger.status job := by
  simp [write, distinct]

/-- Whatever is read was written before. -/
def Truthful (ledger : Ledger) (deeds : List Deed) : Prop :=
  ∀ before jobId state rest, deeds = before ++ .saw jobId state :: rest →
    state = ((ledger.after before).status jobId).state

theorem Truthful.nil (ledger : Ledger) : ledger.Truthful [] := by
  intro before jobId state rest split
  cases before <;> cases split

theorem Truthful.append_iff {ledger : Ledger} {deeds more : List Deed} :
    ledger.Truthful (deeds ++ more) ↔ ledger.Truthful deeds ∧ (ledger.after deeds).Truthful more := by
  constructor
  · intro truthful
    constructor
    · rintro before jobId state rest rfl
      exact truthful before jobId state (rest ++ more) (by simp)
    · rintro before jobId state rest rfl
      have seen := truthful (deeds ++ before) jobId state rest (by simp)
      rw [after_append] at seen
      exact seen
  · rintro ⟨first, second⟩ before jobId state rest split
    rcases List.append_eq_append_iff.mp split with ⟨middle, rfl, tail⟩ | ⟨middle, rfl, tail⟩
    · rw [after_append]
      exact second middle jobId state rest tail
    · cases middle with
      | nil =>
          have seen := second [] jobId state rest tail.symm
          rw [List.append_nil] at seen
          exact seen
      | cons deed others =>
          obtain ⟨rfl, -⟩ := List.cons.inj tail
          exact first before jobId state others rfl

/-- Only what was read is a constraint. -/
theorem truthful_singleton {ledger : Ledger} {deed : Deed}
    (reads : ∀ jobId state, deed = .saw jobId state → state = (ledger.status jobId).state) :
    ledger.Truthful [deed] := by
  intro before jobId state rest split
  cases before with
  | nil =>
      obtain ⟨rfl, -⟩ := List.cons.inj split
      exact reads jobId state rfl
  | cons first before =>
      obtain ⟨-, tail⟩ := List.cons.inj split
      cases before <;> cases tail

end Ledger

/-- The deed a record of the log holds, whichever task it is of. -/
def Entry.act : Entry → Option Deed
  | .call _ op outcome _ => op.deed outcome
  | .env _ => none

/-- The deeds of all tasks, oldest first. -/
def chronicle (log : List Entry) : List Deed := log.filterMap Entry.act

/-- Nobody but the consumer writes a status. -/
def Policy.Sole (policy : Policy) : Prop := ∀ jobId state, ¬ policy.env (.statusWritten jobId state)

theorem Entry.act_of_deed {seat : Option Nat} {entry : Entry} {deed : Deed}
    (done : entry.deed seat = some deed) : entry.act = some deed := by
  cases entry with
  | env => cases done
  | call role op outcome fate =>
      simp only [Entry.deed] at done
      split at done
      · exact done
      · cases done

theorem did_iff {log : List Entry} {deed : Deed} : Did log deed ↔ deed ∈ chronicle log := by
  constructor
  · rintro ⟨seat, member⟩
    obtain ⟨entry, inLog, done⟩ := List.mem_filterMap.mp member
    exact List.mem_filterMap.mpr ⟨entry, inLog, Entry.act_of_deed done⟩
  · intro member
    obtain ⟨entry, inLog, done⟩ := List.mem_filterMap.mp member
    cases entry with
    | env => cases done
    | call role op outcome fate =>
        refine ⟨role.seat, List.mem_filterMap.mpr ⟨_, inLog, ?_⟩⟩
        simp only [Entry.deed, if_true]
        exact done

instance (log : List Entry) (deed : Deed) : Decidable (Did log deed) := decidable_of_iff _ did_iff.symm

/-- The record behind a deed. -/
theorem exists_of_chronicle {log : List Entry} {deed : Deed} (member : deed ∈ chronicle log) :
    ∃ role op outcome fate, .call role op outcome fate ∈ log ∧ op.deed outcome = some deed := by
  obtain ⟨entry, inLog, done⟩ := List.mem_filterMap.mp member
  cases entry with
  | env => cases done
  | call role op outcome fate => exact ⟨role, op, outcome, fate, inLog, done⟩

/-- The deed of a record. -/
theorem mem_chronicle {log : List Entry} {role : Role} {op : Op} {outcome : Except Exc op.Reply} {fate : Fate}
    (inLog : .call role op outcome fate ∈ log) {deed : Deed} (done : op.deed outcome = some deed) :
    deed ∈ chronicle log := List.mem_filterMap.mpr ⟨_, inLog, done⟩

/-- While no background task does anything, the deeds are those of the main coroutine. -/
theorem chronicle_alone {log : List Entry} (alone : ∀ number, deeds (some number) log = []) :
    chronicle log = deeds none log := by
  induction log with
  | nil => rfl
  | cons entry rest inductionHypothesis =>
      have tail (number : Nat) : deeds (some number) rest = [] := by
        have none_ := alone number
        rw [deeds, List.filterMap_cons] at none_
        split at none_
        · exact none_
        · cases none_
      have same : entry.act = entry.deed none := by
        cases entry with
        | env => rfl
        | call role op outcome fate =>
            cases role with
            | loop => rfl
            | task number spec =>
                have none_ := alone number
                rw [deeds, List.filterMap_cons] at none_
                split at none_
                · rename_i absent
                  simp only [Entry.deed, Role.seat, if_true] at absent
                  simp only [Entry.act, Entry.deed, Role.seat, absent]
                  rfl
                · cases none_
      have rest_ := inductionHypothesis tail
      rw [chronicle, deeds, List.filterMap_cons, List.filterMap_cons, same]
      rw [chronicle, deeds] at rest_
      rw [rest_]

section Steps

variable {policy : Policy} {world next : World} {role : Role} {op : Op} {outcome : Except Exc op.Reply}
variable {fate : Fate}

theorem chronicle_append (log more : List Entry) :
    chronicle (log ++ more) = chronicle log ++ chronicle more := List.filterMap_append

theorem chronicle_of_performs (performs : World.Performs policy world op outcome fate next) :
    chronicle (next.recordCall role op outcome fate).log =
      chronicle world.log ++ (op.deed outcome).toList := by
  rw [World.recordCall_log_of_performs role performs]
  cases kept : op.logged with
  | true =>
      rw [if_pos rfl, chronicle_append]
      cases deed : op.deed outcome <;> simp [chronicle, Entry.act, deed]
  | false => simp [Op.deed_unlogged kept]

theorem chronicle_of_occur {event : EnvEvent} (occurs : world.occur event = some next) :
    chronicle (next.record (.env event)).log = chronicle world.log := by
  rw [World.record_log, World.log_of_occur occurs, chronicle_append]
  simp [chronicle, Entry.act]

/-- The hashes in Redis are those of the account, and every read has found them. -/
def Ledger.Agrees (ledger : Ledger) (world : World) : Prop :=
  (∀ job, (world.redis.status job).timeless = ((ledger.after (chronicle world.log)).status job)) ∧
    ledger.Truthful (chronicle world.log)

/-- Only a status write touches a hash. -/
theorem World.status_of_performs (performs : World.Performs policy world op outcome fate next)
    (other : ∀ jobId mapping, op ≠ .hset jobId mapping) : next.redis.status = world.redis.status := by
  have answered {outcome : Except Exc op.Reply} (effect : world.effect op outcome = some next) :
      next.redis.status = world.redis.status := by
    unfold World.effect World.finish at effect
    split at effect
    all_goals first
      | exact absurd rfl (other _ _)
      | (split at effect <;> cases effect <;> rfl)
      | (cases effect; rfl)
      | cases effect
  cases performs with
  | answered _ effect => exact answered effect
  | lost => rfl
  | executed _ _ effect => exact answered effect

/-- Only a write changes a hash of the account. -/
theorem Ledger.record_status {ledger : Ledger} {deed : Deed}
    (other : ∀ jobId mapping, deed ≠ .wrote jobId mapping) : (ledger.record deed).status = ledger.status := by
  cases deed with
  | wrote jobId mapping => exact absurd rfl (other jobId mapping)
  | _ => rfl

theorem Op.deed_wrote {jobId : String} {mapping : StatusHash} (deed : op.deed outcome = some (.wrote jobId mapping)) :
    ∃ written, op = .hset jobId written := by
  unfold Op.deed at deed
  split at deed <;> cases deed
  exact ⟨_, rfl⟩

theorem Op.deed_saw {jobId : String} {state : Option JobState}
    (deed : op.deed outcome = some (.saw jobId state)) :
    op = .hgetState jobId ∧ HEq outcome (.ok state : Except Exc (Option JobState)) := by
  unfold Op.deed at deed
  split at deed <;> cases deed
  exact ⟨rfl, HEq.rfl⟩

theorem Ledger.Agrees.performs (undisturbed : policy.Undisturbed) {ledger : Ledger}
    (performs : World.Performs policy world op outcome fate next) (agrees : ledger.Agrees world) :
    ledger.Agrees (next.recordCall role op outcome fate) := by
  obtain ⟨hashes, truthful⟩ := agrees
  have grown : chronicle (next.recordCall role op outcome fate).log =
      chronicle world.log ++ (op.deed outcome).toList := chronicle_of_performs performs
  constructor
  · intro job
    rw [World.recordCall_redis, grown, after_append]
    by_cases writes : ∃ jobId mapping, op = .hset jobId mapping
    · obtain ⟨jobId, mapping, rfl⟩ := writes
      obtain ⟨rfl, -, rfl⟩ := World.hset_answered undisturbed performs
      change ((world.redis.writeStatus jobId mapping).status job).timeless =
        ((ledger.after (chronicle world.log)).write jobId mapping.timeless).status job
      by_cases same : job = jobId
      · subst same
        rw [Redis.writeStatus_same, StatusHash.timeless_merge, hashes, write_same]
      · rw [Redis.writeStatus_other _ _ same, hashes, write_other _ _ same]
    · rw [World.status_of_performs performs fun jobId mapping same => writes ⟨jobId, mapping, same⟩, hashes]
      cases deed : op.deed outcome with
      | none => rfl
      | some deed' =>
          rw [Option.toList_some, after_cons, after_nil, record_status]
          intro jobId mapping same
          rw [same] at deed
          obtain ⟨written, here⟩ := Op.deed_wrote deed
          exact writes ⟨jobId, written, here⟩
  · rw [grown, Truthful.append_iff]
    refine ⟨truthful, ?_⟩
    cases deed : op.deed outcome with
    | none => exact Truthful.nil _
    | some deed' =>
        apply truthful_singleton
        rintro jobId state rfl
        obtain ⟨rfl, same⟩ := Op.deed_saw deed
        obtain ⟨rfl, -, -⟩ := World.hgetState_answered undisturbed performs
        cases same
        rw [← hashes]
        rfl

/-- While nobody else writes, the surroundings touch no hash. -/
theorem World.status_of_occur (sole : policy.Sole) {event : EnvEvent} (allowed : policy.env event)
    (occurs : world.occur event = some next) : next.redis.status = world.redis.status := by
  cases event with
  | statusWritten jobId state => exact absurd allowed (sole jobId state)
  | cancelRequested | stopCalled =>
      cases occurs
      rfl
  | runFinished jobId outcome =>
      simp only [World.occur] at occurs
      split at occurs
      · split at occurs <;> cases occurs
        rfl
      · cases occurs

theorem Ledger.Agrees.occur (sole : policy.Sole) {ledger : Ledger} {event : EnvEvent}
    (allowed : policy.env event) (occurs : world.occur event = some next) (agrees : ledger.Agrees world) :
    ledger.Agrees (next.record (.env event)) := by
  have same := World.status_of_occur sole allowed occurs
  obtain ⟨hashes, truthful⟩ := agrees
  constructor
  · intro job
    rw [World.record_redis, same, chronicle_of_occur occurs]
    exact hashes job
  · rw [chronicle_of_occur occurs]
    exact truthful

end Steps

/-- The account of a run agrees with Redis. -/
theorem Ledger.of_reaches {self : Consumer} {policy : Policy} (undisturbed : policy.Undisturbed)
    (sole : policy.Sole) {redis : Redis} {body : Task Unit} {system : System}
    (reaches : Pool.Reaches (machine self policy) (Pool.single { redis := redis } .loop body) system) :
    (Ledger.opening redis).Agrees system.state := by
  have start : (Ledger.opening redis).Agrees { redis := redis } := ⟨fun _ => rfl, Truthful.nil _⟩
  exact World.of_reaches (fun allowed occurs agrees => agrees.occur sole allowed occurs)
    (fun performs agrees => agrees.performs undisturbed performs) start reaches

/-- A flag that is not set and that nobody sets is never found set. -/
theorem World.unflagged_of_reaches {self : Consumer} {policy : Policy} {jobId : String}
    (closed : ¬ policy.env (.cancelRequested jobId)) {redis : Redis}
    (unset : redis.cancelled jobId = false) {body : Task Unit} {system : System}
    (reaches : Pool.Reaches (machine self policy) (Pool.single { redis := redis } .loop body) system) :
    system.state.redis.cancelled jobId = false ∧ .flagged jobId ∉ chronicle system.state.log := by
  let holds (world : World) : Prop :=
    world.redis.cancelled jobId = false ∧ .flagged jobId ∉ chronicle world.log
  have start : holds { redis := redis } := ⟨unset, List.not_mem_nil⟩
  have end_ : holds system.state := World.of_reaches ?_ ?_ start reaches
  · exact end_
  · rintro world event next allowed occurs ⟨unset, absent⟩
    have same : next.redis.cancelled jobId = world.redis.cancelled jobId := by
      cases event with
      | cancelRequested other =>
          cases occurs
          have distinct : jobId ≠ other := by
            rintro rfl
            exact closed allowed
          simp [Redis.requestCancel, distinct]
      | statusWritten | stopCalled =>
          cases occurs
          rfl
      | runFinished other outcome =>
          simp only [World.occur] at occurs
          split at occurs
          · split at occurs <;> cases occurs
            rfl
          · cases occurs
    refine ⟨same.trans unset, ?_⟩
    rw [chronicle_of_occur occurs]
    exact absent
  · rintro world role op outcome fate next performs ⟨unset, absent⟩
    refine ⟨?_, ?_⟩
    · rw [World.recordCall_redis, World.cancelled_of_performs performs]
      exact unset
    · rw [chronicle_of_performs performs, List.mem_append]
      rintro (old | new)
      · exact absent old
      · have deed := Option.mem_toList.mp new
        unfold Op.deed at deed
        split at deed <;> cases deed
        have set_ := World.flag_of_performs performs
        rw [unset] at set_
        cases set_

/-- The answer behind a deed is one the policy admits. -/
theorem World.reply_of_chronicle {self : Consumer} {policy : Policy} (undisturbed : policy.Undisturbed)
    {redis : Redis} {body : Task Unit} {system : System}
    (reaches : Pool.Reaches (machine self policy) (Pool.single { redis := redis } .loop body) system)
    {deed : Deed} (member : deed ∈ chronicle system.state.log) :
    ∃ op outcome, Op.deed op outcome = some deed ∧ (op.fetches = false → policy.reply op outcome) := by
  obtain ⟨role, op, outcome, fate, inLog, same⟩ := exists_of_chronicle member
  exact ⟨op, outcome, same, fun other => replied_of_reaches undisturbed rfl reaches inLog other⟩

/-- Nobody sets a cancellation flag. -/
def Policy.Steady (policy : Policy) : Prop := ∀ jobId, ¬ policy.env (.cancelRequested jobId)

/-- Nothing fails, and nobody else writes the status of a job. -/
def Policy.exclusive : Policy where
  fault _ _ := False
  env
    | .statusWritten _ _ => False
    | _ => True

theorem Policy.exclusive_undisturbed : Policy.exclusive.Undisturbed where
  fetches admitted := admitted.elim
  ordinary admitted := admitted.elim

theorem Policy.exclusive_sole : Policy.exclusive.Sole := fun _ _ allowed => allowed

/-- Nothing fails, and nobody else writes a status or sets a cancellation flag. -/
def Policy.constant : Policy where
  fault _ _ := False
  env
    | .cancelRequested _ => False
    | .statusWritten _ _ => False
    | _ => True

theorem Policy.constant_undisturbed : Policy.constant.Undisturbed where
  fetches admitted := admitted.elim
  ordinary admitted := admitted.elim

theorem Policy.constant_sole : Policy.constant.Sole := fun _ _ allowed => allowed

theorem Policy.constant_steady : Policy.constant.Steady := fun _ allowed => allowed

/-- While no flag is set, those that are found set were set before. -/
theorem World.flag_of_flagged {self : Consumer} {policy : Policy} (steady : policy.Steady)
    {redis : Redis} {body : Task Unit} {system : System}
    (reaches : Pool.Reaches (machine self policy) (Pool.single { redis := redis } .loop body) system)
    {jobId : String} (flagged : .flagged jobId ∈ chronicle system.state.log) :
    redis.cancelled jobId = true := by
  cases flag : redis.cancelled jobId with
  | true => rfl
  | false =>
      obtain ⟨-, absent⟩ := World.unflagged_of_reaches (steady jobId) flag reaches
      exact absurd flagged absent

end CodaNode
