/-
Module: CodaNode.Protocol.Steady
Layer: Protocol
Purpose: What the flags decide while they do not change. A call for a message keeps a settled job, drops a
  flagged one and handles any other; the attempt at a batch marks the jobs it accepts, cancels a flagged job
  at its first message and leaves every other job as it is.
Imports: CodaNode.Protocol.Landing, CodaNode.Protocol.Replay
Main exports: Verdict, verdict_of_served, status_of_marked
-/
import CodaNode.Protocol.Landing
import CodaNode.Protocol.Replay

namespace CodaNode.Steady

/-! ### One message -/

section Message

variable (self : Consumer) (flags : String → Bool) (message : StreamMessage)

/-- What a call does with a job that it has taken on and that is not cancelled. -/
inductive Handled : List Deed → Prop where
  | unparsed {exception : Exc} {outcome : Except Exc Unit}
      (failed : parseCircuit self message.job.decoded = .error exception) :
      Handled [Stage.wroteFailed message exception,
        .reportedFailure message.job.callbackUrl message.job.jobId (errorText exception) outcome]
  | raised {ir : NativeGateIR} {shots : Int} {exception : Exc} {outcome : Except Exc Unit}
      (parsed : parseCircuit self message.job.decoded = .ok (ir, shots)) :
      Handled [.ran message.job.jobId ir shots, .returned (.error exception),
        Stage.wroteFailed message exception,
        .reportedFailure message.job.callbackUrl message.job.jobId (errorText exception) outcome]
  | undelivered {ir : NativeGateIR} {shots : Int} {result : ExecutionResult} {exception : Exc}
      {outcome : Except Exc Unit} (parsed : parseCircuit self message.job.decoded = .ok (ir, shots)) :
      Handled [.ran message.job.jobId ir shots, .returned (.ok result), Stage.wroteCompleted message,
        .reported message.job.callbackUrl (.ofResult message.job.jobId result) (.error exception),
        Stage.wroteFailed message exception,
        .reportedFailure message.job.callbackUrl message.job.jobId (errorText exception) outcome]
  | completed {ir : NativeGateIR} {shots : Int} {result : ExecutionResult}
      (parsed : parseCircuit self message.job.decoded = .ok (ir, shots)) :
      Handled [.ran message.job.jobId ir shots, .returned (.ok result), Stage.wroteCompleted message,
        .reported message.job.callbackUrl (.ofResult message.job.jobId result) (.ok ())]

/-- A call for a message of a job in this state, while the flags do not change. -/
inductive Verdict (state : Option JobState) : List Deed → Prop where
  | kept (settled : ¬ Unsettled state) :
      Verdict state [.called message, .saw message.job.jobId state, .acked message.messageId]
  | dropped (unsettled : Unsettled state) (set : flags message.job.jobId = true) :
      Verdict state [.called message, .saw message.job.jobId state, .flagged message.job.jobId,
        Stage.wroteCancelled self message, .acked message.messageId]
  | handled {more : List Deed} (unsettled : Unsettled state) (clear : flags message.job.jobId = false)
      (handled : Handled self message more) :
      Verdict state (.called message :: .saw message.job.jobId state :: Stage.wroteExecuting self message ::
        (more ++ [.acked message.messageId]))

end Message

variable {self : Consumer} {flags : String → Bool} {message : StreamMessage} {here : List Deed}

theorem settled_of_final {state : Option JobState} (final : state = some .completed ∨ state = some .cancelled) :
    ¬ Unsettled state := by
  intro unsettled
  exact final.elim unsettled.1 unsettled.2

/-- A job that was taken on and never found cancelled has been handled. -/
theorem handled_of_worked (worked : Stage.Worked self flags message here)
    (unflagged : .flagged message.job.jobId ∉ here) :
    ∃ before more, Stage.Taken self flags message before ∧ here = before ++ more ∧ Handled self message more := by
  cases worked with
  | cancelled struck => cases struck <;> simp at unflagged
  | late broken => simp at unflagged
  | failed broken =>
      cases broken with
      | unparsed taken failed => exact ⟨_, _, taken, rfl, .unparsed failed⟩
      | raised launched =>
          cases launched with
          | mk taken parsed =>
              rw [List.append_assoc, List.append_assoc]
              exact ⟨_, _, taken, rfl, .raised parsed⟩
      | undelivered returned =>
          obtain ⟨launched⟩ := returned
          cases launched with
          | mk taken parsed =>
              rw [List.append_assoc, List.append_assoc, List.append_assoc]
              exact ⟨_, _, taken, rfl, .undelivered parsed⟩
  | completed returned =>
      obtain ⟨launched⟩ := returned
      cases launched with
      | mk taken parsed =>
          rw [List.append_assoc, List.append_assoc]
          exact ⟨_, _, taken, rfl, .completed parsed⟩

/-- While the flags do not change, the state and the flag of the job decide what is done with it. -/
theorem verdict_of_served (served : Stage.Served self flags message here)
    (reading : message.read = .ok (some message.job)) {ledger : Ledger} (truthful : ledger.Truthful here)
    (constant : .flagged message.job.jobId ∈ here → flags message.job.jobId = true) :
    Verdict self flags message (ledger.status message.job.jobId).state here := by
  have picks {before rest : List Deed} (picked : Stage.Picked message before)
      (split : here = before ++ rest) :
      Unsettled (ledger.status message.job.jobId).state ∧
        before = [.called message, .saw message.job.jobId (ledger.status message.job.jobId).state] := by
    cases picked with
    | @mk state _ unsettled =>
        have seen := truthful [.called message] message.job.jobId state rest split
        rw [seen] at unsettled
        exact ⟨unsettled, by rw [seen]; rfl⟩
  cases served with
  | turned turned =>
      cases turned with
      | malformed other =>
          rw [reading] at other
          cases other
      | @final state _ final =>
          obtain seen : state = (ledger.status message.job.jobId).state :=
            truthful [.called message] message.job.jobId state [.acked message.messageId] rfl
          subst seen
          exact .kept (settled_of_final final)
      | dropped picked =>
          obtain ⟨unsettled, rfl⟩ := picks picked (List.append_assoc _ _ _)
          exact .dropped unsettled (constant (by simp))
  | @worked deeds worked =>
      by_cases flagged : .flagged message.job.jobId ∈ deeds
      · -- a flag that is found set is set, and a job that was taken on had none
        have set := constant (List.mem_append_left _ flagged)
        rw [worked.clear] at set
        cases set
      · obtain ⟨before, more, taken, rfl, handled⟩ := handled_of_worked worked flagged
        cases taken with
        | mk picked clear =>
            obtain ⟨unsettled, rfl⟩ := picks picked (by rw [List.append_assoc, List.append_assoc])
            exact .handled unsettled clear handled

theorem malformed_of_served (served : Stage.Served self flags message here) (reading : message.read = .ok none) :
    here = [.called message, .acked message.messageId] := by
  have some_ {found : JobMessage} (other : message.read = .ok (some found)) : False := by
    rw [reading] at other
    cases other
  cases served with
  | turned turned =>
      cases turned with
      | malformed => rfl
      | final other => exact (some_ other).elim
      | dropped picked => exact (some_ picked.read).elim
  | worked worked => exact (some_ worked.read).elim

/-! ### The attempt at a batch -/

/-- The status a batch writes of a job it has accepted. -/
def executingHash (self : Consumer) : StatusHash :=
  { state := some .executing, startedAt := some "", qpuId := some self.qpuId }

/-- The status of a job that is cancelled at this message. -/
def cancelledHash (self : Consumer) (message : StreamMessage) : StatusHash :=
  { state := some .cancelled
    cancelledAt := some ""
    messageId := some message.job.messageId
    qpuId := some self.qpuId }

/-- The message is the first of these about the job. -/
inductive Next (jobId : String) (message : StreamMessage) : List StreamMessage → Prop where
  | head {rest : List StreamMessage} (about : message.About jobId) : Next jobId message (message :: rest)
  | later {other : StreamMessage} {rest : List StreamMessage} (apart : ¬ other.About jobId)
      (next : Next jobId message rest) : Next jobId message (other :: rest)

theorem Next.mem {jobId : String} {done : List StreamMessage} (next : Next jobId message done) :
    message ∈ done ∧ message.About jobId := by
  induction next with
  | head about => exact ⟨List.mem_cons_self, about⟩
  | later _ _ ih => exact ⟨List.mem_cons_of_mem _ ih.1, ih.2⟩

theorem Next.append {jobId : String} {done : List StreamMessage} (next : Next jobId message done)
    (more : List StreamMessage) : Next jobId message (done ++ more) := by
  induction next with
  | head about => exact .head about
  | later apart _ ih => exact .later apart ih

theorem Next.last {jobId : String} {done : List StreamMessage} (apart : ∀ message ∈ done, ¬ message.About jobId)
    (about : message.About jobId) : Next jobId message (done ++ [message]) := by
  induction done with
  | nil => exact .head about
  | cons first done ih =>
      exact .later (apart first List.mem_cons_self) (ih fun other inside => apart other (List.mem_cons_of_mem _ inside))

/-- The parsing loop cancels a flagged job at its first message. -/
theorem lead_of_sifted {done : List StreamMessage} {parsed : List ParsedJob}
    (sifted : Sifted self flags done parsed here) {ledger : Ledger} (truthful : ledger.Truthful here) {jobId : String}
    (set : flags jobId = true) :
    ((ledger.after here).status jobId = ledger.status jobId ∧
        (Unsettled (ledger.status jobId).state → ∀ message ∈ done, ¬ message.About jobId)) ∨
      ∃ message, Unsettled (ledger.status jobId).state ∧ Next jobId message done ∧
        (ledger.after here).status jobId = (ledger.status jobId).merge (cancelledHash self message) := by
  -- another message adds nothing
  have others {done : List StreamMessage} {last : StreamMessage} {before more : List Deed}
      (ih : ((ledger.after before).status jobId = ledger.status jobId ∧
          (Unsettled (ledger.status jobId).state → ∀ message ∈ done, ¬ message.About jobId)) ∨
        ∃ message, Unsettled (ledger.status jobId).state ∧ Next jobId message done ∧
          (ledger.after before).status jobId = (ledger.status jobId).merge (cancelledHash self message))
      (unwritten : ∀ mapping, .wrote jobId mapping ∉ more)
      (apart : Unsettled ((ledger.after before).status jobId).state → ¬ last.About jobId) :
      ((ledger.after (before ++ more)).status jobId = ledger.status jobId ∧
          (Unsettled (ledger.status jobId).state → ∀ message ∈ done ++ [last], ¬ message.About jobId)) ∨
        ∃ message, Unsettled (ledger.status jobId).state ∧ Next jobId message (done ++ [last]) ∧
          (ledger.after (before ++ more)).status jobId =
            (ledger.status jobId).merge (cancelledHash self message) := by
    rw [Ledger.after_append, Ledger.status_of_unwritten unwritten]
    rcases ih with ⟨same, earlier⟩ | ⟨message, unsettled, next, same⟩
    · refine .inl ⟨same, fun unsettled message inside => ?_⟩
      rcases List.mem_append.mp inside with old | new
      · exact earlier unsettled message old
      · rw [List.mem_singleton.mp new]
        apply apart
        rw [same]
        exact unsettled
    · exact .inr ⟨message, unsettled, next.append _, same⟩
  induction sifted with
  | nil => exact .inl ⟨rfl, fun _ message inside => by cases inside⟩
  | @passed done last parsed before more sifted passed ih =>
      rw [List.append_assoc] at truthful ⊢
      have ih := ih (Ledger.Truthful.append_iff.mp truthful).1
      have later := (Ledger.Truthful.append_iff.mp truthful).2
      cases passed with
      | malformed reading =>
          apply others ih (by simp)
          rintro - ⟨other, -⟩
          rw [reading] at other
          cases other
      | unparsed _ _ clear =>
          apply others ih (by simp)
          rintro - ⟨-, rfl⟩
          cases clear.symm.trans set
      | @final state reading final =>
          have seen : state = ((ledger.after before).status last.job.jobId).state :=
            later [] last.job.jobId state [.acked last.messageId] rfl
          apply others ih (by simp)
          rintro unsettled ⟨-, rfl⟩
          rw [← seen] at unsettled
          exact settled_of_final final unsettled
      | @dropped state reading unsettled =>
          have seen : state = ((ledger.after before).status last.job.jobId).state :=
            later [] last.job.jobId state _ rfl
          by_cases same : last.job.jobId = jobId
          · subst same
            rw [seen] at unsettled
            rcases ih with ⟨same, earlier⟩ | ⟨message, -, -, same⟩
            · rw [same] at unsettled
              refine .inr ⟨last, unsettled, .last (earlier unsettled) ⟨reading, rfl⟩, ?_⟩
              rw [Ledger.after_append]
              change ((ledger.after before).write last.job.jobId (cancelledHash self last)).status last.job.jobId = _
              rw [Ledger.write_same, same]
            · rw [same] at unsettled
              exact absurd unsettled (settled_of_final (.inr rfl))
          · apply others ih
            · intro mapping inside
              simp only [Stage.wroteCancelled, List.mem_append, List.mem_cons, reduceCtorEq, Deed.wrote.injEq,
                List.not_mem_nil, or_false, false_or] at inside
              exact same inside.1.symm
            · rintro - ⟨-, here⟩
              exact same here
  | accepted sifted _ _ clear _ ih =>
      apply others (ih (Ledger.Truthful.append_iff.mp truthful).1) (by simp)
      rintro - ⟨-, rfl⟩
      cases clear.symm.trans set

/-- The executing writes of a batch. -/
theorem status_of_marks (parsed : List ParsedJob) (ledger : Ledger) (jobId : String) :
    ((∃ job ∈ parsed, job.jobId = jobId) ∧
        (ledger.after (parsed.map (marked self))).status jobId =
          (ledger.status jobId).merge (executingHash self)) ∨
      (ledger.after (parsed.map (marked self))).status jobId = ledger.status jobId := by
  induction parsed generalizing ledger with
  | nil => exact .inr rfl
  | cons job parsed ih =>
      have written : ∀ jobId, (ledger.record (marked self job)).status jobId =
          (ledger.write job.jobId (executingHash self)).status jobId := fun _ => rfl
      rw [List.map_cons, Ledger.after_cons]
      by_cases same : job.jobId = jobId
      · subst same
        refine .inl ⟨⟨job, List.mem_cons_self, rfl⟩, ?_⟩
        rcases ih (ledger.record (marked self job)) with ⟨-, merged⟩ | merged
        · rw [merged, written, Ledger.write_same]
          simp [StatusHash.merge, executingHash]
        · rw [merged, written, Ledger.write_same]
      · rcases ih (ledger.record (marked self job)) with ⟨⟨other, inside, here⟩, merged⟩ | merged
        · refine .inl ⟨⟨other, List.mem_cons_of_mem _ inside, here⟩, ?_⟩
          rw [merged, written, Ledger.write_other _ _ (Ne.symm same)]
        · rw [merged, written, Ledger.write_other _ _ (Ne.symm same)]
          exact .inr rfl

variable {redis : Redis} {messages : List StreamMessage} {parsed : List ParsedJob}

/-- Every job when the batch is run: it is accepted and executing, or cancelled at its first message, or as it
was. -/
theorem status_of_marked (marked : BatchStage.Marked self redis.cancelled messages parsed here)
    (truthful : (Ledger.opening redis).Truthful here)
    (constant : ∀ jobId, .flagged jobId ∈ here → redis.cancelled jobId = true) (jobId : String) :
    (∃ job ∈ messages.filterMap (StreamMessage.accepted self redis), job.jobId = jobId ∧
        ((Ledger.opening redis).after here).status jobId =
          ((Ledger.opening redis).status jobId).merge (executingHash self)) ∨
      (∃ message, redis.cancelled jobId = true ∧ Unsettled ((Ledger.opening redis).status jobId).state ∧
        Next jobId message messages ∧
        ((Ledger.opening redis).after here).status jobId =
          ((Ledger.opening redis).status jobId).merge (cancelledHash self message)) ∨
      (((Ledger.opening redis).after here).status jobId = (Ledger.opening redis).status jobId ∧
        (redis.cancelled jobId = true → Unsettled ((Ledger.opening redis).status jobId).state →
          ∀ message ∈ messages, ¬ message.About jobId)) := by
  cases marked with
  | @mk sifting sifted some_ =>
      rw [← List.singleton_append, List.append_assoc] at truthful
      have sifts : (Ledger.opening redis).Truthful sifting :=
        (Ledger.Truthful.append_iff.mp (Ledger.Truthful.append_iff.mp truthful).2).1
      have flags : ∀ jobId, .flagged jobId ∈ sifting → redis.cancelled jobId = true := fun jobId inside =>
        constant jobId (by simp [inside])
      have unwritten {jobId : String} (clear : redis.cancelled jobId = false) :
          ((Ledger.opening redis).after sifting).status jobId = (Ledger.opening redis).status jobId := by
        apply Ledger.status_of_unwritten
        intro mapping inside
        rw [flags jobId (sifted.flagged_of_wrote inside)] at clear
        cases clear
      have accepted := sifted.eq_accepted sifts flags
      have whole : (Ledger.opening redis).after (.calledBatch messages :: sifting ++ parsed.map (marked self)) =
          ((Ledger.opening redis).after sifting).after (parsed.map (marked self)) := by
        rw [Ledger.after_append]
        rfl
      rw [whole]
      rcases status_of_marks parsed ((Ledger.opening redis).after sifting) jobId with
        ⟨⟨job, inside, same⟩, merged⟩ | same
      · rw [accepted] at inside
        obtain ⟨message, listed, taken⟩ := List.mem_filterMap.mp inside
        obtain ⟨reading, unsettled, clear, ir, shots, -, rfl⟩ := open_of_accepted taken
        obtain rfl : message.job.jobId = jobId := same
        rw [unwritten clear] at merged
        exact .inl ⟨_, inside, rfl, merged⟩
      · rw [same]
        cases set : redis.cancelled jobId with
        | true =>
            rcases lead_of_sifted sifted sifts set with ⟨same, apart⟩ | ⟨message, unsettled, next, lead⟩
            · exact .inr (.inr ⟨same, fun _ => apart⟩)
            · exact .inr (.inl ⟨message, rfl, unsettled, next, lead⟩)
        | false => exact .inr (.inr ⟨unwritten set, fun other => by cases other⟩)

end CodaNode.Steady
