/-
Module: CodaNode.Proofs.Retraction
Layer: Proofs
Purpose: Whether a result, once it has been sent, is ever taken back. A job that is processed by itself is
  reported as failed after its result exactly when the result webhook does not get through.
Imports: CodaNode.Protocol.Alone, CodaNode.Server.Webhook
Main exports: Policy.delivering, ResultStands, resultStands_iff
-/
import CodaNode.Protocol.Alone
import CodaNode.Server.Webhook

namespace CodaNode

open Coroutine

/-- Nothing else fails, the cloud answers the attempts of the result webhook so and those of the error
webhook in any way, and the job is not cancelled. -/
def Policy.delivering (client : WebhookClient) (answers : Nat → Answer) (jobId : String) : Policy where
  fault _ _ := False
  reply
    | .sendResult callbackUrl payload, outcome =>
        (client.sendResult callbackUrl payload answers).2 = outcome
    | .sendError callbackUrl jobId error, outcome =>
        ∃ answers, (client.sendError callbackUrl jobId error answers).2 = outcome
    | _, _ => True
  env
    | .cancelRequested id => id ≠ jobId
    | .statusWritten _ _ => False
    | _ => True

theorem Policy.delivering_undisturbed {client : WebhookClient} {answers : Nat → Answer} {jobId : String} :
    (Policy.delivering client answers jobId).Undisturbed where
  fetches admitted := admitted.elim
  ordinary admitted := admitted.elim

theorem Policy.delivering_sole {client : WebhookClient} {answers : Nat → Answer} {jobId : String} :
    (Policy.delivering client answers jobId).Sole := fun _ _ allowed => allowed

/-- Among these requests none says that the job failed after one has said that it is completed. -/
def Consistent (jobId : String) (sent : List Sending) : Prop :=
  ∀ before callbackUrl payload answer rest,
    sent = before ++ .post callbackUrl payload answer :: rest →
      payload.jobId = jobId → payload.status = .completed →
        ∀ callbackUrl' payload' answer', .post callbackUrl' payload' answer' ∈ rest →
          payload'.jobId = jobId → payload'.status ≠ .failed

/-- The result is not taken back, neither towards the cloud nor in Redis. -/
structure ResultStands (client : WebhookClient) (jobId : String) (world : World) : Prop where
  consistent : ∀ sent, Transmitted client world.log sent → Consistent jobId sent
  recorded : ∀ callbackUrl payload exception, payload.jobId = jobId → payload.status = .completed →
    Did world.log (.reported callbackUrl payload (.error exception)) →
      (world.redis.status jobId).state = some .completed

namespace Retraction

variable {self : Consumer} {flags : String → Bool} {message : StreamMessage} {here : List Deed}
variable {result : ExecutionResult}

theorem not_returned_of_taken {outcome : Except Exc ExecutionResult}
    (taken : Stage.Taken self flags message here) : .returned outcome ∉ here := by
  cases taken with
  | mk picked =>
      cases picked with
      | mk => simp [Stage.wroteExecuting]

theorem not_returned_of_launched {outcome : Except Exc ExecutionResult}
    (launched : Stage.Launched self flags message here) : .returned outcome ∉ here := by
  cases launched with
  | mk taken => simp [not_returned_of_taken taken]

/-- What follows a result: the webhook, and the error path if it raises. -/
inductive Concluded (self : Consumer) (flags : String → Bool) (message : StreamMessage) : Except Exc Unit → List Deed → Prop where
  | sent {before : List Deed} {result : ExecutionResult}
      (returned : Stage.Returned self flags message result before) :
      Concluded self flags message (.ok ())
        (before ++
          [Stage.wroteCompleted message,
            .reported message.job.callbackUrl (.ofResult message.job.jobId result) (.ok ())] ++
          [.acked message.messageId])
  | failed {before : List Deed} {result : ExecutionResult} {exception : Exc} {outcome : Except Exc Unit}
      (returned : Stage.Returned self flags message result before) :
      Concluded self flags message (.error exception)
        (before ++
          [Stage.wroteCompleted message,
            .reported message.job.callbackUrl (.ofResult message.job.jobId result) (.error exception)] ++
          [Stage.wroteFailed message exception,
            .reportedFailure message.job.callbackUrl message.job.jobId (errorText exception) outcome] ++
          [.acked message.messageId])

theorem concluded_of_served (served : Stage.Served self flags message here)
    (returned : .returned (.ok result) ∈ here) (unflagged : .flagged message.job.jobId ∉ here) :
    ∃ outcome, Concluded self flags message outcome here := by
  cases served with
  | turned turned =>
      cases turned with
      | malformed | final => simp at returned
      | dropped picked => simp at unflagged
  | worked worked =>
      cases worked with
      | cancelled struck => cases struck <;> simp at unflagged
      | late broken => simp at unflagged
      | completed done => exact ⟨_, .sent done⟩
      | failed broken =>
          cases broken with
          | unparsed taken =>
              simp [not_returned_of_taken taken, Stage.wroteFailed] at returned
          | raised launched =>
              simp [not_returned_of_launched launched, Stage.wroteFailed] at returned
          | undelivered done => exact ⟨_, .failed done⟩

theorem Concluded.reported {outcome : Except Exc Unit} (concluded : Concluded self flags message outcome here) :
    ∃ result, .reported message.job.callbackUrl (.ofResult message.job.jobId result) outcome ∈ here := by
  cases concluded with
  | @sent _ result | @failed _ result => exact ⟨result, by simp⟩

theorem not_reported_of_returned {url : String} {payload : WebhookPayload} {outcome : Except Exc Unit}
    (returned : Stage.Returned self flags message result here) : .reported url payload outcome ∉ here := by
  cases returned with
  | mk launched =>
      cases launched with
      | mk taken =>
          cases taken with
          | mk picked =>
              cases picked with
              | mk => simp [Stage.wroteExecuting]

theorem not_failed_of_returned {url jobId error : String} {outcome : Except Exc Unit}
    (returned : Stage.Returned self flags message result here) : .reportedFailure url jobId error outcome ∉ here := by
  cases returned with
  | mk launched =>
      cases launched with
      | mk taken =>
          cases taken with
          | mk picked =>
              cases picked with
              | mk => simp [Stage.wroteExecuting]

/-- A webhook that got through is the only one. -/
theorem Concluded.sent_only (concluded : Concluded self flags message (.ok ()) here) :
    (∀ url jobId error outcome, .reportedFailure url jobId error outcome ∉ here) ∧
      ∀ url payload outcome, .reported url payload outcome ∈ here →
        outcome = .ok () ∧ payload.status = .completed := by
  cases concluded with
  | sent returned =>
      constructor
      · intro url jobId error outcome
        simp [not_failed_of_returned returned, Stage.wroteCompleted]
      · intro url payload outcome member
        simp only [List.mem_append, not_reported_of_returned returned, false_or, Stage.wroteCompleted,
          List.mem_cons, reduceCtorEq, Deed.reported.injEq, List.not_mem_nil, or_false] at member
        obtain ⟨-, rfl, rfl⟩ := member
        exact ⟨rfl, rfl⟩

/-- A webhook that did not get through is followed by the failed status. -/
theorem Concluded.state_of_failed {exception : Exc} (concluded : Concluded self flags message (.error exception) here)
    (ledger : Ledger) : ((ledger.after here).status message.job.jobId).state = some .failed := by
  cases concluded with
  | failed returned =>
      rw [Ledger.after_append, Ledger.after_append]
      simp only [Ledger.after_cons, Ledger.after_nil, Stage.wroteFailed, Ledger.record]
      rw [Ledger.write_same]
      rfl

/-- Whether the webhook got through decides. -/
theorem stands_iff_of_concluded {client : WebhookClient} {world : World} {outcome : Except Exc Unit}
    {ledger : Ledger} (agrees : ledger.Agrees world)
    (concluded : Concluded self flags message outcome (chronicle world.log)) :
    ResultStands client message.job.jobId world ↔ outcome = .ok () := by
  cases outcome with
  | ok value =>
      refine iff_of_true ⟨?_, ?_⟩ rfl
      · rintro sent transmitted before url payload answer rest rfl - - url' payload' answer' member - failed
        obtain ⟨role, jobId, error, outcome, fate, inLog, -⟩ :=
          transmitted.failure_of_post (List.mem_append_right _ (List.mem_cons_of_mem _ member)) failed
            fun role url payload outcome fate inLog =>
              (concluded.sent_only.2 url payload outcome (mem_chronicle inLog rfl)).2
        exact concluded.sent_only.1 _ _ _ _ (mem_chronicle inLog rfl)
      · intro url payload exception _ _ did
        obtain ⟨same, -⟩ := concluded.sent_only.2 url payload _ (did_iff.mp did)
        cases same
  | error exception =>
      refine iff_of_false (fun stands => ?_) (fun same => by cases same)
      obtain ⟨result, reported⟩ := concluded.reported
      have completed := stands.recorded _ _ _ rfl rfl (did_iff.mpr reported)
      have failed := concluded.state_of_failed ledger
      rw [← agrees.1] at failed
      change (world.redis.status message.job.jobId).state = _ at failed
      rw [failed] at completed
      cases completed

end Retraction

open Retraction in
/-- A job whose executor has returned a result and that is not cancelled keeps that result, in Redis and
towards the cloud, exactly when the result webhook gets through. -/
theorem resultStands_iff (client : WebhookClient) (answers : Nat → Answer) (self : Consumer) (redis : Redis)
    (message : StreamMessage) (unflagged : redis.cancelled message.job.jobId = false) (system : System)
    (reaches : Pool.Reaches (machine self (.delivering client answers message.job.jobId))
      (Pool.single { redis := redis } .loop (processEntry self message)) system)
    (ended : system.Ended) (result : ExecutionResult)
    (returned : Did system.state.log (.returned (.ok result))) :
    ResultStands client message.job.jobId system.state ↔ client.Delivers answers := by
  have agrees := Ledger.of_reaches Policy.delivering_undisturbed Policy.delivering_sole reaches
  have closed : ¬ (Policy.delivering client answers message.job.jobId).env
      (.cancelRequested message.job.jobId) := fun allowed => allowed rfl
  obtain ⟨-, untouched⟩ :=
    World.unflagged_of_reaches closed unflagged reaches
  have replied {role : Role} {op : Op} {outcome : Except Exc op.Reply} {fate : Fate}
      (member : .call role op outcome fate ∈ system.state.log) (other : op.fetches = false) :=
    World.replied_of_reaches Policy.delivering_undisturbed rfl reaches member other
  obtain ⟨crew, stands, account⟩ := Stage.account Policy.delivering_undisturbed reaches
  have main := account.main
  obtain ⟨outcome, past⟩ := (stands.ended ended).1
  rw [show crew.main = .ended outcome from past] at main
  have same : chronicle crew.world.log = deeds none crew.world.log := by
    apply account.chronicle_eq
    generalize deeds none crew.world.log = here at main
    cases main with
    | ended served => exact fun spec number member => served.allOf _ member
    | undecodable reading => simp
  rw [← same, stands.1] at main
  rw [did_iff] at returned
  generalize whole : chronicle system.state.log = here at main returned untouched
  cases main with
  | ended served =>
      obtain ⟨outcome, concluded⟩ := concluded_of_served served returned untouched
      rw [← whole] at concluded
      obtain ⟨result', reported⟩ := concluded.reported
      obtain ⟨role, op, outcome', fate, inLog, deed⟩ := exists_of_chronicle reported
      unfold Op.deed at deed
      split at deed <;> cases deed
      have replied_ := replied inLog rfl
      change (client.sendResult _ _ answers).2 = outcome at replied_
      rw [stands_iff_of_concluded agrees concluded, ← replied_, client.sendResult_ok_iff]
  | undecodable reading => simp at returned

/-! ### A webhook whose answers are lost -/

namespace Retraction

/-- The cloud processes every attempt, and every response is lost. -/
def lost : Nat → Answer := fun _ => .transportError true

/-- The three attempts of the result webhook, and the error webhook. -/
def lostRun : System :=
  System.play Sample.consumer (.delivering {} lost "job")
    (fun role world op =>
      match op with
      | .sendResult callbackUrl payload =>
          some ((WebhookClient.sendResult {} callbackUrl payload lost).2, .answered)
      | op => Surroundings.plain Sample.result role world op)
    (List.replicate 8 (.task 0) ++ .env (.runFinished "job" (.ok Sample.result)) ::
      List.replicate 30 (.task 0))
    (Pool.single { redis := Sample.delivered [Sample.message "1-0" "job"] } .loop
      (processEntry Sample.consumer (Sample.message "1-0" "job")))

theorem lostRun_reaches :
    Pool.Reaches (machine Sample.consumer (.delivering {} lost "job"))
      (Pool.single { redis := Sample.delivered [Sample.message "1-0" "job"] } .loop
        (processEntry Sample.consumer (Sample.message "1-0" "job"))) lostRun := by
  apply System.play_reaches
  · intro role world op outcome fate answered
    cases op with
    | sendResult callbackUrl payload =>
        cases answered
        rfl
    | sendError callbackUrl jobId error =>
        cases answered
        exact ⟨fun _ => .response 200, rfl⟩
    | _ =>
        obtain ⟨_, -, same⟩ := Option.map_eq_some_iff.mp answered
        cases same
        trivial
  · intro event member
    simp only [List.mem_append, List.mem_cons, List.mem_replicate, reduceCtorEq, and_false,
      or_false, false_or, Turn.env.injEq] at member
    subst member
    trivial

end Retraction

open Retraction in
/-- The result, for that run. -/
theorem resultStands_iff_lostRun :
    ResultStands {} "job" lostRun.state ↔ WebhookClient.Delivers {} lost :=
  resultStands_iff {} lost Sample.consumer _ (Sample.message "1-0" "job") rfl lostRun lostRun_reaches
    (System.ended_iff.mp (by decide +kernel)) Sample.result (by decide +kernel)

open Retraction in
/-- A job whose result the cloud has processed is recorded as failed after three lost responses. -/
theorem not_resultStands :
    ¬ ∀ (client : WebhookClient) (answers : Nat → Answer) (self : Consumer) (redis : Redis)
      (message : StreamMessage), redis.cancelled message.job.jobId = false → ∀ system : System,
      Pool.Reaches (machine self (.delivering client answers message.job.jobId))
        (Pool.single { redis := redis } .loop (processEntry self message)) system →
      system.Ended → ∀ result : ExecutionResult, Did system.state.log (.returned (.ok result)) →
        ResultStands client message.job.jobId system.state := by
  intro claim
  have stands := claim {} lost Sample.consumer _ (Sample.message "1-0" "job") rfl lostRun lostRun_reaches
    (System.ended_iff.mp (by decide +kernel)) Sample.result (by decide +kernel)
  have reported : Did lostRun.state.log (.reported "url" (.ofResult "job" Sample.result)
      (.error transportFailure)) := by
    decide +kernel
  have failed : (lostRun.state.redis.status "job").state = some .failed := by decide +kernel
  have completed := stands.recorded _ _ _ rfl rfl reported
  change (lostRun.state.redis.status "job").state = _ at completed
  rw [failed] at completed
  cases completed

end CodaNode
