/-
Module: CodaNode.Protocol.Alone
Layer: Protocol
Purpose: Crews whose main coroutine creates no task. There the deeds of the main coroutine are all there
  are, and the status of a job in Redis is what the last of its writes says.
Imports: CodaNode.Protocol.Account, CodaNode.Server.Ledger
Main exports: Crew.Account.alone, Crew.Account.chronicle_eq, Deed.OfMessage, Stage.Course.allOf,
  Stage.Course.served_of_acked
-/
import CodaNode.Protocol.Account
import CodaNode.Server.Ledger

namespace CodaNode

open Coroutine

namespace Crew

variable {L : Type} {self : Consumer} {flags : String → Bool} {Sound : Option RunTask → L → Prop}
variable {Course : L → List Deed → Prop} {crew : Crew L}

/-- Tasks come from the main coroutine. -/
theorem Account.alone (account : Account self flags Sound Course crew)
    (apart : ∀ spec number, .created spec number ∉ deeds none crew.world.log) : crew.posts = [] := by
  cases posts : crew.posts with
  | nil => rfl
  | cons post others =>
      obtain ⟨seat, found⟩ := account.born post (by rw [posts]; exact List.mem_cons_self)
      cases seat with
      | none => exact absurd found (apart _ _)
      | some creator =>
          obtain ⟨parsed, results, stage, -, -, gather, -⟩ := account.created_by_task found
          exact absurd (account.gather_origin gather) (apart _ _)

theorem Account.chronicle_eq (account : Account self flags Sound Course crew)
    (apart : ∀ spec number, .created spec number ∉ deeds none crew.world.log) :
    chronicle crew.world.log = deeds none crew.world.log := by
  apply chronicle_alone
  intro number
  apply account.fresh
  rw [account.alone apart]
  exact Nat.zero_le number

end Crew

/-- A deed of the call that processes this message. -/
def Deed.OfMessage (message : StreamMessage) : Deed → Prop
  | .called other => other = message
  | .saw jobId _ | .flagged jobId | .wrote jobId _ | .ran jobId _ _ => jobId = message.job.jobId
  | .returned _ => True
  | .reported callbackUrl payload _ =>
      callbackUrl = message.job.callbackUrl ∧ payload.jobId = message.job.jobId
  | .reportedFailure callbackUrl jobId _ _ =>
      callbackUrl = message.job.callbackUrl ∧ jobId = message.job.jobId
  | .acked messageId => messageId = message.messageId
  | _ => False

/-- All these deeds are of that call. -/
def AllOf (message : StreamMessage) (deeds : List Deed) : Prop := ∀ deed ∈ deeds, deed.OfMessage message

/-- A deed of the call before its acknowledgement. -/
def Deed.Within (message : StreamMessage) : Deed → Prop
  | .acked _ => False
  | deed => deed.OfMessage message

/-- All these deeds are of that call before its acknowledgement. -/
def AllWithin (message : StreamMessage) (deeds : List Deed) : Prop := ∀ deed ∈ deeds, deed.Within message

theorem AllWithin.nil {message : StreamMessage} : AllWithin message [] := fun _ member => by cases member

theorem AllWithin.cons {message : StreamMessage} {deed : Deed} {deeds : List Deed}
    (first : deed.Within message) (rest : AllWithin message deeds) : AllWithin message (deed :: deeds) := by
  intro other member
  rcases List.mem_cons.mp member with rfl | inside
  · exact first
  · exact rest other inside

theorem AllWithin.append {message : StreamMessage} {deeds more : List Deed} (first : AllWithin message deeds)
    (second : AllWithin message more) : AllWithin message (deeds ++ more) := by
  intro deed member
  exact (List.mem_append.mp member).elim (first deed) (second deed)

theorem AllWithin.allOf {message : StreamMessage} {deeds : List Deed} (within : AllWithin message deeds) :
    AllOf message deeds := by
  intro deed member
  have inside := within deed member
  cases deed with
  | acked => exact inside.elim
  | _ => exact inside

theorem AllWithin.not_acked {message : StreamMessage} {deeds : List Deed} (within : AllWithin message deeds)
    {messageId : String} : .acked messageId ∉ deeds := fun member => within _ member

/-- The acknowledgement ends the call. -/
theorem AllWithin.acked {message : StreamMessage} {deeds : List Deed} (within : AllWithin message deeds) :
    AllOf message (deeds ++ [.acked message.messageId]) := by
  intro deed member
  rcases List.mem_append.mp member with before | last
  · exact within.allOf deed before
  · rw [List.mem_singleton.mp last]
    rfl

namespace Stage

variable {self : Consumer} {flags : String → Bool} {message : StreamMessage} {here : List Deed}

theorem Picked.within (picked : Picked message here) : AllWithin message here := by
  cases picked with
  | mk => exact .cons rfl (.cons rfl .nil)

theorem Taken.within (taken : Taken self flags message here) : AllWithin message here := by
  cases taken with
  | mk picked => exact picked.within.append (.cons rfl .nil)

theorem Launched.within (launched : Launched self flags message here) : AllWithin message here := by
  cases launched with
  | mk taken => exact taken.within.append (.cons rfl .nil)

theorem Returned.within {result : ExecutionResult} (returned : Returned self flags message result here) :
    AllWithin message here := by
  cases returned with
  | mk launched => exact launched.within.append (.cons trivial .nil)

theorem Struck.within (struck : Struck self flags message here) : AllWithin message here := by
  cases struck with
  | polled launched => exact launched.within.append (.cons rfl (.cons trivial .nil))
  | returned returned => exact returned.within.append (.cons rfl .nil)
  | completed returned => exact returned.within.append (.cons rfl (.cons rfl .nil))

theorem Broken.within {exception : Exc} (broken : Broken self flags message exception here) :
    AllWithin message here := by
  cases broken with
  | unparsed taken => exact taken.within
  | raised launched => exact launched.within.append (.cons trivial .nil)
  | undelivered returned => exact returned.within.append (.cons rfl (.cons ⟨rfl, rfl⟩ .nil))

theorem Worked.within (worked : Worked self flags message here) : AllWithin message here := by
  cases worked with
  | cancelled struck => exact struck.within.append (.cons rfl .nil)
  | late broken => exact broken.within.append (.cons rfl (.cons rfl .nil))
  | failed broken => exact broken.within.append (.cons rfl (.cons ⟨rfl, rfl⟩ .nil))
  | completed returned => exact returned.within.append (.cons rfl (.cons ⟨rfl, rfl⟩ .nil))

theorem Turned.within (turned : Turned self message here) : AllWithin message here := by
  cases turned with
  | malformed => exact .cons rfl .nil
  | final => exact .cons rfl (.cons rfl .nil)
  | dropped picked => exact picked.within.append (.cons rfl (.cons rfl .nil))

theorem Served.allOf (served : Served self flags message here) : AllOf message here := by
  cases served with
  | turned turned => exact turned.within.acked
  | worked worked => exact worked.within.acked

/-- A call that has acknowledged its message is over. -/
theorem Course.within_or_served {stage : Stage} (course : Course self flags message stage here) :
    AllWithin message here ∨ Served self flags message here := by
  cases course with
  | called => exact .inl .nil
  | lookUp | undecodable => exact .inl (.cons rfl .nil)
  | pickUpFlag picked | takeOn picked => exact .inl picked.within
  | drop picked => exact .inl (picked.within.append (.cons rfl .nil))
  | dismiss turned => exact .inl turned.within
  | launch taken => exact .inl taken.within
  | poll launched | collect launched | pollFlag launched => exact .inl launched.within
  | hook launched | abandon launched | drain launched =>
      exact .inl (launched.within.append (.cons rfl .nil))
  | ranFlag returned | settle returned | doneFlag returned | complete returned => exact .inl returned.within
  | lastFlag returned | report returned => exact .inl (returned.within.append (.cons rfl .nil))
  | settleCancelled struck | mark struck => exact .inl struck.within
  | settleError _ broken | errorFlag broken | recordFailure broken => exact .inl broken.within
  | markLate broken | reportFailure broken => exact .inl (broken.within.append (.cons rfl .nil))
  | cleanUp worked => exact .inl worked.within
  | release worked | free worked => exact .inr (.worked worked)
  | ended served => exact .inr served

/-- Whatever a call does is about its message. -/
theorem Course.allOf {stage : Stage} (course : Course self flags message stage here) :
    AllOf message here := by
  rcases course.within_or_served with within | served
  · exact within.allOf
  · exact served.allOf

theorem Course.served_of_acked {stage : Stage} (course : Course self flags message stage here)
    {messageId : String} (acked : .acked messageId ∈ here) : Served self flags message here := by
  rcases course.within_or_served with within | served
  · exact absurd acked within.not_acked
  · exact served

/-- One call creates no task. -/
theorem Course.not_created {stage : Stage} {spec : TaskSpec} {number : Nat}
    (course : Course self flags message stage here) : .created spec number ∉ here :=
  fun member => course.allOf _ member

end Stage

section Lists

variable {self : Consumer} {flags : String → Bool} {here : List Deed}

/-- Every one of these deeds is of the call for one of these messages. -/
def AnyOf (messages : List StreamMessage) (deeds : List Deed) : Prop :=
  ∀ deed ∈ deeds, ∃ message ∈ messages, deed.OfMessage message

theorem AnyOf.append {messages : List StreamMessage} {message : StreamMessage} {deeds more : List Deed}
    (before : AnyOf messages deeds) (last : AllOf message more) :
    AnyOf (messages ++ [message]) (deeds ++ more) := by
  intro deed member
  rcases List.mem_append.mp member with old | new
  · obtain ⟨other, inside, of⟩ := before deed old
    exact ⟨other, List.mem_append_left _ inside, of⟩
  · exact ⟨message, by simp, last deed new⟩

theorem Passed.within {message : StreamMessage} (passed : Passed self flags message here) :
    AllWithin message here := by
  cases passed with
  | malformed => exact .nil
  | final | unparsed => exact .cons rfl .nil
  | dropped => exact .cons rfl (.cons rfl (.cons rfl .nil))

theorem Sifted.anyOf {done : List StreamMessage} {parsed : List ParsedJob}
    (sifted : Sifted self flags done parsed here) : AnyOf done here := by
  induction sifted with
  | nil => exact fun deed member => by cases member
  | passed _ passed inductionHypothesis =>
      rw [List.append_assoc]
      exact inductionHypothesis.append passed.within.acked
  | accepted _ _ _ _ _ inductionHypothesis =>
      exact inductionHypothesis.append (AllWithin.allOf (.cons rfl .nil))

theorem Replayed.anyOf {done : List StreamMessage} (replayed : Replayed self flags done here) :
    AnyOf done here := by
  induction replayed with
  | nil => exact fun deed member => by cases member
  | served _ served inductionHypothesis => exact inductionHypothesis.append served.allOf

theorem AnyOf.not_created {messages : List StreamMessage} (anyOf : AnyOf messages here) {spec : TaskSpec}
    {number : Nat} : .created spec number ∉ here := by
  intro member
  obtain ⟨message, -, of⟩ := anyOf _ member
  exact of

theorem AnyOf.not_batchRan {messages : List StreamMessage} (anyOf : AnyOf messages here)
    {jobs : List (String × NativeGateIR × Int)} {outcome : Except Exc (List ExecutionResult)} :
    .batchRan jobs outcome ∉ here := by
  intro member
  obtain ⟨message, -, of⟩ := anyOf _ member
  exact of

/-- Neither the executor nor the webhook client has a part in it. -/
def Deed.internal : Deed → Bool
  | .saw _ _ | .flagged _ | .wrote _ _ | .acked _ => true
  | _ => false

/-- The parsing loop calls nobody outside Redis. -/
theorem Sifted.internal {done : List StreamMessage} {parsed : List ParsedJob}
    (sifted : Sifted self flags done parsed here) : ∀ deed ∈ here, deed.internal = true := by
  induction sifted with
  | nil => exact fun deed member => by cases member
  | passed _ passed inductionHypothesis =>
      rw [List.forall_mem_append, List.forall_mem_append]
      refine ⟨⟨inductionHypothesis, ?_⟩, by simp [Deed.internal]⟩
      cases passed <;> simp [Deed.internal, Stage.wroteCancelled]
  | accepted _ _ _ _ _ inductionHypothesis =>
      rw [List.forall_mem_append]
      exact ⟨inductionHypothesis, by simp [Deed.internal]⟩

theorem BatchStage.Marked.internal {messages : List StreamMessage} {parsed : List ParsedJob}
    (marked : Marked self flags messages parsed here) :
    ∀ deed ∈ here, deed = .calledBatch messages ∨ deed.internal = true := by
  cases marked with
  | mk sifted some_ =>
      intro deed member
      rcases List.mem_append.mp member with before | marking
      · exact (List.mem_cons.mp before).imp id (sifted.internal deed)
      · obtain ⟨job, -, rfl⟩ := List.mem_map.mp marking
        exact .inr rfl

variable {spec : TaskSpec} {number : Nat}

theorem Attempted.not_created {parsed : List ParsedJob} (attempted : Attempted self parsed here) :
    .created spec number ∉ here := by
  cases attempted <;> simp

theorem BatchStage.Marked.not_created {messages : List StreamMessage} {parsed : List ParsedJob}
    (marked : Marked self flags messages parsed here) : .created spec number ∉ here := by
  cases marked with
  | mk sifted some_ => simp [sifted.anyOf.not_created, CodaNode.marked]

theorem BatchStage.Marked.not_batchRan {messages : List StreamMessage} {parsed : List ParsedJob}
    (marked : Marked self flags messages parsed here) {jobs : List (String × NativeGateIR × Int)}
    {outcome : Except Exc (List ExecutionResult)} : .batchRan jobs outcome ∉ here := by
  cases marked with
  | mk sifted some_ => simp [sifted.anyOf.not_batchRan, CodaNode.marked]

/-- Only a batch that hands its results over creates a task. -/
theorem BatchStage.Course.handed_of_created {messages : List StreamMessage} {stage : BatchStage}
    (course : Course self flags messages stage here) (member : .created spec number ∈ here) :
    ∃ parsed results before, BatchStage.Marked self flags messages parsed before ∧
      spec = .deliverBatch parsed results ∧ stage = .ended (.ok (some number)) ∧
      here = before ++
        [.batchRan (batchJobs parsed) (.ok results), .created (.deliverBatch parsed results) number] := by
  cases course with
  | called => simp at member
  | lookUp _ sifted | busy sifted | undecodable _ sifted | idle sifted => simp [sifted.anyOf.not_created] at member
  | pickUpFlag _ sifted | drop _ sifted => simp [sifted.anyOf.not_created] at member
  | dismiss _ sifted passed =>
      rcases List.mem_append.mp member with before | last
      · simp [sifted.anyOf.not_created] at before
      · exact absurd (passed.within _ last) id
  | mark sifted => simp [sifted.anyOf.not_created, CodaNode.marked] at member
  | run marked => simp [marked.not_created] at member
  | spawn marked => simp [marked.not_created] at member
  | process marked attempted _ replayed course =>
      simp [marked.not_created, attempted.not_created, replayed.anyOf.not_created, course.not_created] at member
  | replayed marked attempted replayed =>
      simp [marked.not_created, attempted.not_created, replayed.anyOf.not_created] at member
  | @handed parsed results before _ marked =>
      simp only [List.mem_append, marked.not_created, false_or, List.mem_cons, reduceCtorEq,
        Deed.created.injEq, List.not_mem_nil, or_false] at member
      obtain ⟨rfl, rfl⟩ := member
      exact ⟨parsed, results, before, marked, rfl, rfl, rfl⟩

end Lists

end CodaNode
