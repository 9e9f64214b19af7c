/-
Module: CodaNode.Protocol.Acceptance
Layer: Protocol
Purpose: Which jobs of a batch are accepted, read off the state before the call. The parsing loop accepts
  no others, and exactly these while the cancellation flags do not change.
Imports: CodaNode.Protocol.Grounds
Main exports: StreamMessage.accepted, Sifted.sublist, Sifted.eq_accepted
-/
import CodaNode.Protocol.Grounds

namespace CodaNode

instance (state : Option JobState) : Decidable (Unsettled state) :=
  inferInstanceAs (Decidable (state ≠ some .completed ∧ state ≠ some .cancelled))

/-- The job of a message that a batch accepts: the message can be parsed, and its job is neither settled
nor flagged for cancellation. -/
def StreamMessage.accepted (self : Consumer) (redis : Redis) (message : StreamMessage) : Option ParsedJob :=
  match message.read with
  | .ok (some job) =>
      if Unsettled (redis.status job.jobId).state ∧ redis.cancelled job.jobId = false then
        match parseCircuit self job.decoded with
        | .ok (ir, shots) => some (message.parsed ir shots)
        | .error _ => none
      else none
  | _ => none

section Acceptance

variable {self : Consumer} {redis : Redis} {message : StreamMessage}

theorem accepted_of_open {ir : NativeGateIR} {shots : Int} (reading : message.read = .ok (some message.job))
    (unsettled : Unsettled (redis.status message.job.jobId).state)
    (clear : redis.cancelled message.job.jobId = false)
    (parses : parseCircuit self message.job.decoded = .ok (ir, shots)) :
    message.accepted self redis = some (message.parsed ir shots) := by
  unfold StreamMessage.accepted
  rw [reading]
  simp only [unsettled, clear, and_self, if_true, parses]

theorem not_accepted_of_shut (reading : message.read = .ok (some message.job))
    (shut : ¬ (Unsettled (redis.status message.job.jobId).state ∧
      redis.cancelled message.job.jobId = false)) : message.accepted self redis = none := by
  unfold StreamMessage.accepted
  rw [reading]
  simp only [shut, if_false]

theorem not_accepted_of_unparsed {exception : Exc} (reading : message.read = .ok (some message.job))
    (failed : parseCircuit self message.job.decoded = .error exception) :
    message.accepted self redis = none := by
  unfold StreamMessage.accepted
  rw [reading]
  simp only [failed]
  split <;> rfl

theorem not_accepted_of_malformed (reading : message.read = .ok none) :
    message.accepted self redis = none := by
  unfold StreamMessage.accepted
  rw [reading]

/-- What it takes to be accepted. -/
theorem open_of_accepted {job : ParsedJob} (accepted : message.accepted self redis = some job) :
    message.read = .ok (some message.job) ∧ Unsettled (redis.status message.job.jobId).state ∧
      redis.cancelled message.job.jobId = false ∧
      ∃ ir shots, parseCircuit self message.job.decoded = .ok (ir, shots) ∧
        job = message.parsed ir shots := by
  unfold StreamMessage.accepted at accepted
  split at accepted
  · rename_i found reading
    rw [← StreamMessage.job_of_read reading] at accepted reading
    split at accepted
    · rename_i shut
      split at accepted
      · rename_i ir shots parses
        cases accepted
        exact ⟨reading, shut.1, shut.2, ir, shots, parses, rfl⟩
      · cases accepted
    · cases accepted
  · cases accepted

/-- No other job is accepted. -/
theorem Sifted.sublist {done : List StreamMessage} {parsed : List ParsedJob} {here : List Deed}
    (sifted : Sifted self redis.cancelled done parsed here)
    (saw : ∀ jobId state, .saw jobId state ∈ here → Unsettled state →
      Unsettled (redis.status jobId).state) :
    parsed.Sublist (done.filterMap (StreamMessage.accepted self redis)) := by
  induction sifted with
  | nil => exact List.Sublist.refl []
  | passed _ _ inductionHypothesis =>
      rw [List.filterMap_append]
      have earlier := inductionHypothesis fun jobId state member =>
        saw jobId state (List.mem_append_left _ (List.mem_append_left _ member))
      exact earlier.trans (List.sublist_append_left _ _)
  | @accepted _ message _ _ state _ _ _ reading unsettled clear parses inductionHypothesis =>
      have earlier := inductionHypothesis fun jobId state member =>
        saw jobId state (List.mem_append_left _ member)
      have unsettled := saw message.job.jobId state (by simp) unsettled
      rw [List.filterMap_append, List.filterMap_cons, accepted_of_open reading unsettled clear parses]
      exact earlier.append (List.Sublist.refl _)

/-- The parsing loop writes the status of flagged jobs only. -/
theorem Sifted.flagged_of_wrote {flags : String → Bool} {done : List StreamMessage} {parsed : List ParsedJob}
    {here : List Deed} (sifted : Sifted self flags done parsed here) {jobId : String}
    {mapping : StatusHash} (member : .wrote jobId mapping ∈ here) : .flagged jobId ∈ here := by
  induction sifted with
  | nil => cases member
  | @passed _ message _ _ _ _ passed inductionHypothesis =>
      simp only [List.mem_append, List.mem_singleton, reduceCtorEq, or_false] at member
      rcases member with old | new
      · simp [inductionHypothesis old]
      · cases passed with
        | malformed | final | unparsed => simp at new
        | dropped =>
            simp only [Stage.wroteCancelled, List.mem_cons, reduceCtorEq, Deed.wrote.injEq, List.not_mem_nil,
              or_false, false_or] at new
            simp [new.1]
  | accepted _ _ _ _ _ inductionHypothesis =>
      simp only [List.mem_append, List.mem_singleton, reduceCtorEq, or_false] at member
      simp [inductionHypothesis member]

/-- A message of the batch is acknowledged at once, or its job is accepted. -/
theorem Sifted.acked_or_parsed {flags : String → Bool} {done : List StreamMessage} {parsed : List ParsedJob}
    {here : List Deed} (sifted : Sifted self flags done parsed here) :
    ∀ message ∈ done, .acked message.messageId ∈ here ∨ ∃ job ∈ parsed, job.messageId = message.messageId := by
  induction sifted with
  | nil => exact fun message inside => absurd inside List.not_mem_nil
  | passed _ _ ih =>
      intro message inside
      rcases List.mem_append.mp inside with old | new
      · exact (ih message old).imp (fun acked => List.mem_append_left _ (List.mem_append_left _ acked)) id
      · rw [List.mem_singleton.mp new]
        exact .inl (List.mem_append_right _ (List.mem_singleton_self _))
  | @accepted _ last _ _ _ ir shots _ _ _ _ _ ih =>
      intro message inside
      rcases List.mem_append.mp inside with old | new
      · refine (ih message old).imp (fun acked => List.mem_append_left _ acked) ?_
        rintro ⟨job, inside, same⟩
        exact ⟨job, List.mem_append_left _ inside, same⟩
      · rw [List.mem_singleton.mp new]
        exact .inr ⟨last.parsed ir shots, List.mem_append_right _ (List.mem_singleton_self _), rfl⟩

/-- While the flags do not change, exactly these are accepted. -/
theorem Sifted.eq_accepted {done : List StreamMessage} {parsed : List ParsedJob} {here : List Deed}
    (sifted : Sifted self redis.cancelled done parsed here)
    (truthful : (Ledger.opening redis).Truthful here)
    (constant : ∀ jobId, .flagged jobId ∈ here → redis.cancelled jobId = true) :
    parsed = done.filterMap (StreamMessage.accepted self redis) := by
  induction sifted with
  | nil => rfl
  | @passed done message parsed before more sifted passed inductionHypothesis =>
      rw [List.append_assoc] at truthful constant
      have earlier := inductionHypothesis (Ledger.Truthful.append_iff.mp truthful).1
        fun jobId member => constant jobId (List.mem_append_left _ member)
      have dismissed : message.accepted self redis = none := by
        cases passed with
        | malformed reading => exact not_accepted_of_malformed reading
        | unparsed reading _ _ failed => exact not_accepted_of_unparsed reading failed
        | dropped reading =>
            apply not_accepted_of_shut reading
            rintro ⟨-, clear⟩
            rw [constant message.job.jobId (by simp)] at clear
            cases clear
        | @final state reading final =>
            apply not_accepted_of_shut reading
            rintro ⟨unsettled, clear⟩
            have seen := truthful before message.job.jobId state [.acked message.messageId] (by simp)
            rw [Ledger.status_of_unwritten] at seen
            · rcases final with same | same
              · exact unsettled.1 (seen.symm.trans same)
              · exact unsettled.2 (seen.symm.trans same)
            · intro mapping member
              rw [constant _ (List.mem_append_left _ (sifted.flagged_of_wrote member))] at clear
              cases clear
      rw [List.filterMap_append, List.filterMap_cons, dismissed, List.filterMap_nil, List.append_nil]
      exact earlier
  | @accepted done message parsed before state ir shots sifted reading unsettled clear parses inductionHypothesis =>
      have earlier := inductionHypothesis (Ledger.Truthful.append_iff.mp truthful).1
        fun jobId member => constant jobId (List.mem_append_left _ member)
      have seen := truthful before message.job.jobId state [] rfl
      rw [Ledger.status_of_unwritten] at seen
      · have unsettled : Unsettled (redis.status message.job.jobId).state := seen ▸ unsettled
        rw [List.filterMap_append, List.filterMap_cons, accepted_of_open reading unsettled clear parses,
          List.filterMap_nil, ← earlier]
      · intro mapping member
        rw [constant _ (List.mem_append_left _ (sifted.flagged_of_wrote member))] at clear
        cases clear

end Acceptance

end CodaNode
