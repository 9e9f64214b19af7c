/-
Module: CodaNode.Protocol.Replay
Layer: Protocol
Purpose: What the processing of messages one after another comes to. A job that may be taken on and is not
  cancelled ends in a final state, with a webhook, at the first of its messages; from then on it stays as
  it is or comes to such an end again.
Imports: CodaNode.Protocol.Acceptance
Main exports: Stage.Served.settled, Replayed.settled
-/
import CodaNode.Protocol.Acceptance

namespace CodaNode

/-- A webhook of this job got through. -/
def Notified (deeds : List Deed) (jobId : String) : Prop :=
  (∃ callbackUrl payload, payload.jobId = jobId ∧ .reported callbackUrl payload (.ok ()) ∈ deeds) ∨
    ∃ callbackUrl error, .reportedFailure callbackUrl jobId error (.ok ()) ∈ deeds

theorem Notified.mono {deeds more : List Deed} (within : ∀ deed ∈ deeds, deed ∈ more) {jobId : String}
    (notified : Notified deeds jobId) : Notified more jobId := by
  rcases notified with ⟨callbackUrl, payload, same, member⟩ | ⟨callbackUrl, error, member⟩
  · exact .inl ⟨callbackUrl, payload, same, within _ member⟩
  · exact .inr ⟨callbackUrl, error, within _ member⟩

/-- Every webhook among these deeds got through. -/
structure Received (deeds : List Deed) : Prop where
  result : ∀ {callbackUrl payload outcome}, .reported callbackUrl payload outcome ∈ deeds → outcome = .ok ()
  failure : ∀ {callbackUrl jobId error outcome},
    .reportedFailure callbackUrl jobId error outcome ∈ deeds → outcome = .ok ()

theorem Received.mono {deeds more : List Deed} (within : ∀ deed ∈ deeds, deed ∈ more)
    (received : Received more) : Received deeds where
  result member := received.result (within _ member)
  failure member := received.failure (within _ member)

/-- The job has come to an end that the cloud knows of. -/
def Resolved (ledger : Ledger) (deeds : List Deed) (jobId : String) : Prop :=
  (∃ state, ((ledger.after deeds).status jobId).state = some state ∧ state.terminal = true) ∧
    Notified deeds jobId

/-- The message carries this job. -/
def StreamMessage.About (message : StreamMessage) (jobId : String) : Prop :=
  message.read = .ok (some message.job) ∧ message.job.jobId = jobId

section Replay

variable {self : Consumer} {flags : String → Bool} {message : StreamMessage} {here : List Deed}

theorem Stage.Picked.unsettled (picked : Stage.Picked message here) {ledger : Ledger}
    (truthful : ledger.Truthful here) : Unsettled (ledger.status message.job.jobId).state := by
  cases picked with
  | @mk state reading unsettled =>
      have seen := truthful [.called message] message.job.jobId state [] rfl
      rw [seen] at unsettled
      exact unsettled

/-- A job that is not cancelled keeps its final state, or comes to an end. -/
theorem Stage.Served.settled (served : Stage.Served self flags message here)
    (reading : message.read = .ok (some message.job)) {ledger : Ledger} (truthful : ledger.Truthful here)
    (unflagged : .flagged message.job.jobId ∉ here) (received : Received here) :
    (¬ Unsettled (ledger.status message.job.jobId).state ∧ ∀ jobId mapping, .wrote jobId mapping ∉ here) ∨
      Resolved ledger here message.job.jobId := by
  cases served with
  | turned turned =>
      cases turned with
      | malformed other =>
          rw [reading] at other
          cases other
      | @final state _ final =>
          have seen := truthful [.called message] message.job.jobId state _ rfl
          refine .inl ⟨fun unsettled => ?_, by simp⟩
          change Unsettled ((ledger.status message.job.jobId).state) at unsettled
          rw [show state = (ledger.status message.job.jobId).state from seen] at final
          exact final.elim unsettled.1 unsettled.2
      | dropped picked => simp at unflagged
  | worked worked =>
      cases worked with
      | cancelled struck => cases struck <;> simp at unflagged
      | late broken => simp at unflagged
      | @failed before exception outcome broken =>
          have arrived := received.failure (List.mem_append_left _
            (List.mem_append_right _ (List.mem_cons_of_mem _ List.mem_cons_self)))
          subst arrived
          refine .inr ⟨⟨.failed, ?_, rfl⟩, .inr ⟨message.job.callbackUrl, errorText exception, by simp⟩⟩
          simp [Stage.wroteFailed, Ledger.record, Ledger.write, StatusHash.merge]
      | @completed before result returned =>
          refine .inr ⟨⟨.completed, ?_, rfl⟩,
            .inl ⟨message.job.callbackUrl, .ofResult message.job.jobId result, rfl, by simp⟩⟩
          simp [Stage.wroteCompleted, Ledger.record, Ledger.write, StatusHash.merge]

/-- A call writes the status of the job its message carries. -/
theorem Stage.Served.about_of_wrote (served : Stage.Served self flags message here) {jobId : String}
    {mapping : StatusHash} (member : .wrote jobId mapping ∈ here) : message.About jobId := by
  refine ⟨?_, (served.allOf _ member).symm⟩
  cases served with
  | turned turned =>
      cases turned with
      | malformed | final => simp at member
      | dropped picked => exact picked.read
  | worked worked => exact worked.read

/-- Another job is left alone. -/
theorem Stage.Served.status_other (served : Stage.Served self flags message here) {jobId : String}
    (other : ¬ message.About jobId) (ledger : Ledger) :
    (ledger.after here).status jobId = ledger.status jobId := by
  apply Ledger.status_of_unwritten
  exact fun mapping member => other (served.about_of_wrote member)

theorem Stage.Served.acked (served : Stage.Served self flags message here) :
    .acked message.messageId ∈ here := by
  cases served <;> simp

theorem Replayed.acked {done : List StreamMessage} (replayed : Replayed self flags done here) :
    ∀ message ∈ done, .acked message.messageId ∈ here := by
  induction replayed with
  | nil => exact fun message member => by cases member
  | served _ served inductionHypothesis =>
      intro message member
      rcases List.mem_append.mp member with old | new
      · exact List.mem_append_left _ (inductionHypothesis message old)
      · rw [List.mem_singleton.mp new]
        exact List.mem_append_right _ served.acked

/-- Every message has been acknowledged, and no other. -/
theorem Replayed.acked_iff {messages : List StreamMessage} (replayed : Replayed self flags messages here)
    (messageId : String) :
    .acked messageId ∈ here ↔ ∃ message ∈ messages, message.messageId = messageId := by
  constructor
  · intro inside
    obtain ⟨message, listed, of⟩ := replayed.anyOf _ inside
    exact ⟨message, listed, Eq.symm of⟩
  · rintro ⟨message, listed, rfl⟩
    exact replayed.acked message listed

/-- The attempt acknowledges messages of the batch only. -/
theorem BatchStage.Marked.listed_of_acked {messages : List StreamMessage} {parsed : List ParsedJob}
    (marked : BatchStage.Marked self flags messages parsed here) {messageId : String}
    (inside : .acked messageId ∈ here) : ∃ message ∈ messages, message.messageId = messageId := by
  cases marked with
  | mk sifted some_ =>
      simp only [List.mem_append, List.mem_cons, reduceCtorEq, List.mem_map, CodaNode.marked, and_false, exists_false,
        or_false, false_or] at inside
      obtain ⟨message, listed, of⟩ := sifted.anyOf _ inside
      exact ⟨message, listed, Eq.symm of⟩

/-- A job that is not cancelled and could be taken on in the beginning has come to an end, unless no message
was about it. -/
theorem Replayed.settled {done : List StreamMessage} (replayed : Replayed self flags done here)
    {ledger : Ledger} (truthful : ledger.Truthful here) {jobId : String} (unflagged : .flagged jobId ∉ here)
    (received : Received here) (unsettled : Unsettled (ledger.status jobId).state) :
    ((ledger.after here).status jobId = ledger.status jobId ∧
        ∀ message ∈ done, ¬ message.About jobId) ∨
      Resolved ledger here jobId := by
  induction replayed with
  | nil => exact .inl ⟨rfl, fun message member => by cases member⟩
  | @served done message before more replayed served inductionHypothesis =>
      obtain ⟨first, second⟩ := Ledger.Truthful.append_iff.mp truthful
      rw [List.mem_append, not_or] at unflagged
      have earlier := inductionHypothesis first unflagged.1
        (received.mono fun deed member => List.mem_append_left _ member)
      by_cases about : message.About jobId
      · obtain ⟨reading, rfl⟩ := about
        rcases served.settled reading second unflagged.2
            (received.mono fun deed member => List.mem_append_right _ member) with
          ⟨final, unwritten⟩ | ⟨⟨state, same, terminal⟩, notified⟩
        · rcases earlier with ⟨same, -⟩ | ⟨⟨state, same, terminal⟩, notified⟩
          · rw [same] at final
            exact absurd unsettled final
          · refine .inr ⟨⟨state, ?_, terminal⟩, notified.mono fun deed member => List.mem_append_left _ member⟩
            rw [Ledger.after_append, Ledger.status_of_unwritten (unwritten _), same]
        · refine .inr ⟨⟨state, ?_, terminal⟩, notified.mono fun deed member => List.mem_append_right _ member⟩
          rw [Ledger.after_append, same]
      · rw [Resolved, Ledger.after_append, served.status_other about]
        rcases earlier with ⟨same, others⟩ | ⟨resolved, notified⟩
        · refine .inl ⟨same, fun other member => ?_⟩
          rcases List.mem_append.mp member with old | new
          · exact others other old
          · rw [List.mem_singleton.mp new]
            exact about
        · exact .inr ⟨resolved, notified.mono fun deed member => List.mem_append_left _ member⟩

end Replay

end CodaNode
