/-
Module: CodaNode.Protocol.Reports
Layer: Protocol
Purpose: How often a result is reported. A call of `_process_message` reports at most one result, after the
  executor has returned it, and a task for one result reports that one. The results of one batch are
  reported by one task each, so a job that occurs once in the batch is reported once.
Imports: CodaNode.Protocol.Landing
Main exports: Stage.Told, Replayed.reports_le, BatchStage.Marked.reports_le, chronicle_filter
-/
import CodaNode.Protocol.Landing

namespace CodaNode

open Coroutine

/-- The result webhook of some job. -/
def Deed.tells : Deed → Bool
  | .reported _ _ _ => true
  | _ => false

/-- The completed webhook of this job. -/
def Deed.completes (jobId : String) : Deed → Bool
  | .reported _ payload _ => payload.jobId = jobId ∧ payload.status = .completed
  | _ => false

theorem Deed.tells_of_completes {deed : Deed} {jobId : String} (completes : deed.completes jobId = true) :
    deed.tells = true := by
  cases deed with
  | reported => rfl
  | _ => cases completes

/-- No result is reported. -/
def Mute (deeds : List Deed) : Prop := ∀ deed ∈ deeds, deed.tells = false

theorem Mute.append {deeds more : List Deed} (first : Mute deeds) (second : Mute more) :
    Mute (deeds ++ more) := by
  intro deed member
  exact (List.mem_append.mp member).elim (first deed) (second deed)

theorem Mute.countP {deeds : List Deed} (mute : Mute deeds) (jobId : String) :
    deeds.countP (Deed.completes jobId) = 0 := by
  rw [List.countP_eq_zero]
  intro deed member completes
  have tells := Deed.tells_of_completes completes
  rw [mute deed member] at tells
  cases tells

theorem mute_of_internal {deeds : List Deed} (internal : ∀ deed ∈ deeds, deed.internal = true) :
    Mute deeds := by
  intro deed member
  have inside := internal deed member
  cases deed <;> first | rfl | cases inside

/-! ### One call -/

namespace Stage

variable {self : Consumer} {flags : String → Bool} {message : StreamMessage} {here more : List Deed}

theorem Picked.mute (picked : Picked message here) : Mute here := by
  cases picked with
  | mk => simp [Mute, Deed.tells]

theorem Taken.mute (taken : Taken self flags message here) : Mute here := by
  cases taken with
  | mk picked => exact picked.mute.append (by simp [Mute, Deed.tells, wroteExecuting])

theorem Launched.mute (launched : Launched self flags message here) : Mute here := by
  cases launched with
  | mk taken => exact taken.mute.append (by simp [Mute, Deed.tells])

theorem Returned.mute {result : ExecutionResult} (returned : Returned self flags message result here) :
    Mute here := by
  cases returned with
  | mk launched => exact launched.mute.append (by simp [Mute, Deed.tells])

theorem Struck.mute (struck : Struck self flags message here) : Mute here := by
  cases struck with
  | polled launched => exact launched.mute.append (by simp [Mute, Deed.tells])
  | returned returned => exact returned.mute.append (by simp [Mute, Deed.tells])
  | completed returned => exact returned.mute.append (by simp [Mute, Deed.tells, wroteCompleted])

/-- At most one result is reported, after the executor has returned it. -/
inductive Told (consumer : Consumer) (flags : String → Bool) (message : StreamMessage) : List Deed → Prop where
  | silent {here : List Deed} (mute : Mute here) : Told consumer flags message here
  | once {before : List Deed} {result : ExecutionResult} {outcome : Except Exc Unit}
      (returned : Returned consumer flags message result before) :
      Told consumer flags message (before ++
        [wroteCompleted message,
          .reported message.job.callbackUrl (.ofResult message.job.jobId result) outcome])
  | after {here more : List Deed} (told : Told consumer flags message here) (mute : Mute more) :
      Told consumer flags message (here ++ more)

theorem Broken.told {exception : Exc} (broken : Broken self flags message exception here) :
    Told self flags message here := by
  cases broken with
  | unparsed taken => exact .silent taken.mute
  | raised launched => exact .silent (launched.mute.append (by simp [Mute, Deed.tells]))
  | undelivered returned => exact .once returned

theorem Worked.told (worked : Worked self flags message here) : Told self flags message here := by
  cases worked with
  | cancelled struck => exact .silent (struck.mute.append (by simp [Mute, Deed.tells, wroteCancelled]))
  | late broken | failed broken =>
      exact broken.told.after (by simp [Mute, Deed.tells, wroteCancelled, wroteFailed])
  | completed returned => exact .once returned

theorem Turned.mute (turned : Turned self message here) : Mute here := by
  cases turned with
  | malformed | final => simp [Mute, Deed.tells]
  | dropped picked => exact picked.mute.append (by simp [Mute, Deed.tells, wroteCancelled])

theorem Served.told (served : Served self flags message here) : Told self flags message here := by
  cases served with
  | turned turned => exact .silent (turned.mute.append (by simp [Mute, Deed.tells]))
  | worked worked => exact worked.told.after (by simp [Mute, Deed.tells])

theorem Course.told {stage : Stage} (course : Course self flags message stage here) :
    Told self flags message here := by
  have one {deed : Deed} (quiet : deed.tells = false) : Mute [deed] := by simp [Mute, quiet]
  cases course with
  | called => exact .silent fun deed member => by cases member
  | lookUp | undecodable => exact .silent (one rfl)
  | pickUpFlag picked | takeOn picked => exact .silent picked.mute
  | drop picked => exact .silent (picked.mute.append (one rfl))
  | dismiss turned => exact .silent turned.mute
  | launch taken => exact .silent taken.mute
  | poll launched | collect launched | pollFlag launched => exact .silent launched.mute
  | hook launched | abandon launched | drain launched => exact .silent (launched.mute.append (one rfl))
  | ranFlag returned | settle returned | doneFlag returned | complete returned => exact .silent returned.mute
  | lastFlag returned | report returned => exact .silent (returned.mute.append (one rfl))
  | settleCancelled struck | mark struck => exact .silent struck.mute
  | settleError _ broken | errorFlag broken | recordFailure broken => exact broken.told
  | markLate broken | reportFailure broken => exact broken.told.after (one rfl)
  | cleanUp worked => exact worked.told
  | release worked | free worked => exact worked.told.after (one rfl)
  | ended served => exact served.told

theorem Told.countP_le (told : Told self flags message here) (jobId : String) :
    here.countP (Deed.completes jobId) ≤ 1 := by
  induction told with
  | silent mute =>
      rw [mute.countP]
      exact Nat.zero_le 1
  | once returned =>
      rw [List.countP_append, returned.mute.countP, Nat.zero_add,
        List.countP_cons_of_neg (by simp [wroteCompleted, Deed.completes])]
      exact List.countP_le_length
  | after told mute inductionHypothesis =>
      rw [List.countP_append, mute.countP]
      exact inductionHypothesis

/-- A job whose result is reported was accepted. -/
theorem Told.accepted {redis : Redis} (told : Told self redis.cancelled message here) {deed : Deed}
    (member : deed ∈ here) {jobId : String} (completes : deed.completes jobId = true)
    (saw : ∀ jobId state, .saw jobId state ∈ here → Unsettled state →
      Unsettled (redis.status jobId).state) :
    ∃ job, message.accepted self redis = some job ∧ job.jobId = jobId := by
  induction told with
  | silent mute =>
      have tells := Deed.tells_of_completes completes
      rw [mute deed member] at tells
      cases tells
  | @once before result outcome returned =>
      rcases List.mem_append.mp member with early | late
      · have tells := Deed.tells_of_completes completes
        rw [returned.mute deed early] at tells
        cases tells
      · rcases List.mem_cons.mp late with rfl | last
        · cases completes
        · rw [List.mem_singleton.mp last] at completes
          simp only [Deed.completes, decide_eq_true_eq] at completes
          have reading := returned.read
          cases returned with
          | mk launched =>
              cases launched with
              | mk taken parsed =>
                  cases taken with
                  | mk picked clear =>
                      cases picked with
                      | mk _ unsettled =>
                          have open_ := saw message.job.jobId _ (by simp) unsettled
                          exact ⟨_, accepted_of_open reading open_ clear parsed, completes.1⟩
  | after told mute inductionHypothesis =>
      rcases List.mem_append.mp member with early | late
      · exact inductionHypothesis early fun jobId state inside =>
          saw jobId state (List.mem_append_left _ inside)
      · have tells := Deed.tells_of_completes completes
        rw [mute deed late] at tells
        cases tells

end Stage

/-! ### Calls one after another -/

section Replay

variable {self : Consumer} {redis : Redis} {message : StreamMessage} {here : List Deed}

/-- A call reports the job it accepts, at most once. -/
theorem Stage.Told.reports_le (told : Stage.Told self redis.cancelled message here) (jobId : String)
    (saw : ∀ jobId state, .saw jobId state ∈ here → Unsettled state →
      Unsettled (redis.status jobId).state) :
    here.countP (Deed.completes jobId) ≤
      ([message].filterMap (StreamMessage.accepted self redis)).countP (fun job => job.jobId = jobId) := by
  by_cases reports : ∃ deed ∈ here, deed.completes jobId = true
  · obtain ⟨deed, member, completes⟩ := reports
    obtain ⟨job, accepted, same⟩ := told.accepted member completes saw
    rw [List.filterMap_cons, accepted]
    simpa [same] using told.countP_le jobId
  · have none_ : here.countP (Deed.completes jobId) = 0 := by
      rw [List.countP_eq_zero]
      exact fun deed member completes => reports ⟨deed, member, completes⟩
    rw [none_]
    exact Nat.zero_le _

theorem Replayed.reports_le {done : List StreamMessage} (replayed : Replayed self redis.cancelled done here)
    (jobId : String)
    (saw : ∀ jobId state, .saw jobId state ∈ here → Unsettled state →
      Unsettled (redis.status jobId).state) :
    here.countP (Deed.completes jobId) ≤
      (done.filterMap (StreamMessage.accepted self redis)).countP (fun job => job.jobId = jobId) := by
  induction replayed with
  | nil => exact Nat.le_refl 0
  | served replayed served inductionHypothesis =>
      rw [List.countP_append, List.filterMap_append, List.countP_append]
      apply Nat.add_le_add
      · exact inductionHypothesis fun jobId state inside => saw jobId state (List.mem_append_left _ inside)
      · exact served.told.reports_le jobId fun jobId state inside =>
          saw jobId state (List.mem_append_right _ inside)

end Replay

/-! ### Deliveries -/

section Deliveries

variable {self : Consumer} {delivery : Delivery} {here : List Deed}

/-- A task for one result reports at most that result. -/
theorem SingleStage.Course.countP_le {stage : SingleStage} (course : Course self delivery stage here)
    (jobId : String) : here.countP (Deed.completes jobId) ≤ 1 := by
  have stopped {before : List Deed} (stopped : Stopped delivery before) :
      before.countP (Deed.completes jobId) = 0 := by
    cases stopped <;> simp [deliveredStatus, Deed.completes]
  have delivered {here : List Deed} (delivered : Delivered self delivery here) :
      here.countP (Deed.completes jobId) ≤ 1 := by
    cases delivered with
    | dropped first => simp [List.countP_append, stopped first, droppedStatus, Deed.completes]
    | reported =>
        rw [List.countP_cons_of_neg (by simp [deliveredStatus, Deed.completes])]
        by_cases about : delivery.jobId = jobId <;>
          simp [Deed.completes, WebhookPayload.ofResult, about]
  cases course with
  | start | firstFlag | complete => exact Nat.zero_le 1
  | mark first =>
      rw [stopped first]
      exact Nat.zero_le 1
  | dismiss first => simp [List.countP_append, stopped first, droppedStatus, Deed.completes]
  | lastFlag | report => simp [deliveredStatus, Deed.completes]
  | acknowledge =>
      rw [List.countP_cons_of_neg (by simp [deliveredStatus, Deed.completes])]
      exact List.countP_le_length
  | finish done | past done => exact delivered done

/-- Tasks that were created for different jobs. -/
theorem Created.number_eq {deliveries : List Delivery} {numbers : List Nat} (created : Created deliveries numbers here)
    (distinct : (deliveries.map Delivery.jobId).Nodup) {first second : Delivery} {number number' : Nat}
    (one : .created (.deliverSingle first) number ∈ here)
    (other : .created (.deliverSingle second) number' ∈ here) (same : first.jobId = second.jobId) :
    number = number' := by
  induction created with
  | nil => cases one
  | @snoc before numbers here last number'' created inductionHypothesis =>
      rw [List.map_append, List.nodup_append] at distinct
      obtain ⟨front, -, apart⟩ := distinct
      have early {delivery : Delivery} {number : Nat} (member : .created (.deliverSingle delivery) number ∈ here) :
          delivery.jobId ≠ last.jobId := by
        obtain ⟨inside, listed, about⟩ := created.delivery_of_mem member
        cases about
        exact apart _ (List.mem_map_of_mem listed) _ (by simp)
      simp only [List.mem_append, List.mem_singleton, Deed.created.injEq, TaskSpec.deliverSingle.injEq] at one other
      rcases one with one | ⟨rfl, rfl⟩ <;> rcases other with other | ⟨rfl, rfl⟩
      · exact inductionHypothesis front one other
      · exact absurd same (early one)
      · exact absurd same.symm (early other)
      · rfl

/-- The deliveries are for the jobs, in their order. -/
theorem jobIds_of_zipStrict {parsed : List ParsedJob} {results : List ExecutionResult} {nowIso : String}
    {deliveries : List Delivery} (zipped : zipStrict parsed results nowIso = .ok deliveries) :
    deliveries.map Delivery.jobId = parsed.map ParsedJob.jobId := by
  unfold zipStrict at zipped
  split at zipped
  · rename_i same
    cases zipped
    apply List.ext_getElem
    · simp [same]
    · intro index _ _
      simp
  · split at zipped <;> cases zipped

/-- Tasks of one batch in which no job occurs twice. -/
theorem GatherStage.Course.number_eq {outcomeOf : Nat → Option (Except Exc Unit)} {parsed : List ParsedJob}
    {results : List ExecutionResult} {stage : GatherStage}
    (course : stage.Course outcomeOf parsed results here) (distinct : (parsed.map ParsedJob.jobId).Nodup)
    {first second : Delivery} {number number' : Nat}
    (one : .created (.deliverSingle first) number ∈ here)
    (other : .created (.deliverSingle second) number' ∈ here) (same : first.jobId = second.jobId) :
    number = number' := by
  have made {nowIso : String} {done todo : List Delivery} {numbers : List Nat}
      (zipped : zipStrict parsed results nowIso = .ok (done ++ todo))
      (created : Created done numbers here) : number = number' := by
    refine created.number_eq ?_ one other same
    rw [← jobIds_of_zipStrict zipped, List.map_append] at distinct
    exact (List.nodup_append.mp distinct).1
  have whole {nowIso : String} {deliveries : List Delivery} {numbers : List Nat}
      (zipped : zipStrict parsed results nowIso = .ok deliveries)
      (created : Created deliveries numbers here) : number = number' := by
    rw [← List.append_nil deliveries] at zipped
    exact made zipped created
  have none_ (empty : here = []) : number = number' := by
    rw [empty] at one
    cases one
  cases stage with
  | start | clock => exact none_ course
  | spawn nowIso numbers delivery todo =>
      obtain ⟨done, zipped, created⟩ := course
      exact made zipped created
  | gather nowIso numbers =>
      obtain ⟨deliveries, zipped, created⟩ := course
      exact whole zipped created
  | stamp =>
      obtain ⟨nowIso, deliveries, numbers, zipped, created, -⟩ := course
      exact whole zipped created
  | release ending | finish ending | past ending =>
      cases ending with
      | error exception => exact none_ course
      | ok value =>
          obtain ⟨nowIso, deliveries, numbers, zipped, created, -⟩ := course
          exact whole zipped created

end Deliveries

/-! ### A crew -/

/-- If only one task has done deeds of a kind, they are found where it did them. -/
theorem chronicle_filter {log : List Entry} {kind : Deed → Bool} {seat : Option Nat}
    (only : ∀ other, other ≠ seat → ∀ deed ∈ deeds other log, kind deed = false) :
    (chronicle log).filter kind = (deeds seat log).filter kind := by
  induction log with
  | nil => rfl
  | cons entry rest inductionHypothesis =>
      have tail : ∀ other, other ≠ seat → ∀ deed ∈ deeds other rest, kind deed = false := by
        intro other elsewhere deed member
        apply only other elsewhere
        obtain ⟨found, inRest, same⟩ := List.mem_filterMap.mp member
        exact List.mem_filterMap.mpr ⟨found, List.mem_cons_of_mem _ inRest, same⟩
      have later := inductionHypothesis tail
      rw [chronicle, deeds, List.filterMap_cons, List.filterMap_cons]
      rw [chronicle, deeds] at later
      cases entry with
      | env event => exact later
      | call role op outcome fate =>
          simp only [Entry.act, Entry.deed]
          cases done : op.deed outcome with
          | none => simpa using later
          | some deed =>
              by_cases here : role.seat = seat
              · simp only [here, if_true, List.filter_cons, later]
              · have quiet : kind deed = false := by
                  apply only role.seat here
                  exact List.mem_filterMap.mpr ⟨_, List.mem_cons_self, by simp [Entry.deed, done]⟩
                simp only [here, if_false, List.filter_cons, quiet, Bool.false_eq_true, later]

namespace Crew

variable {L : Type} {self : Consumer} {flags : String → Bool} {Sound : Option RunTask → L → Prop}
variable {Course : L → List Deed → Prop} {crew : Crew L}

/-- Whoever reports a result was created by the task of a batch for it, and reports it once. -/
theorem Account.reporter (account : Account self flags Sound Course crew)
    (apart : ∀ delivery number, .created (.deliverSingle delivery) number ∉ deeds none crew.world.log)
    {number : Nat} {deed : Deed} (member : deed ∈ deeds (some number) crew.world.log) {jobId : String}
    (completes : deed.completes jobId = true) :
    ∃ delivery batch, delivery.jobId = jobId ∧
      .created (.deliverSingle delivery) number ∈ deeds (some batch) crew.world.log := by
  obtain ⟨post, inPosts, rfl⟩ := account.post_of_deed member
  have course := account.posts post inPosts
  cases post with
  | gather _ parsed results stage =>
      obtain ⟨_, _, rfl⟩ :=
        GatherStage.Course.deed_eq (show stage.Course _ parsed results _ from course) _ member
      cases completes
  | single number delivery stage =>
      have of := (show SingleStage.Course self delivery stage _ from course).ofDelivery _ member
      obtain ⟨seat, found⟩ := account.born _ inPosts
      cases seat with
      | none => exact absurd found (apart delivery number)
      | some batch =>
          refine ⟨delivery, batch, ?_, found⟩
          cases deed with
          | reported callbackUrl payload outcome =>
              simp only [Deed.completes, decide_eq_true_eq] at completes
              rw [← completes.1, of.2]
              rfl
          | _ => cases completes

theorem Account.countP_le (account : Account self flags Sound Course crew) (number : Nat) (jobId : String) :
    (deeds (some number) crew.world.log).countP (Deed.completes jobId) ≤ 1 := by
  by_cases bound : number < crew.posts.length
  · have listed : number ∈ crew.posts.map Post.number := by
      rw [account.staffed.roster.numbers]
      exact List.mem_range.mpr bound
    obtain ⟨post, inPosts, rfl⟩ := List.mem_map.mp listed
    have course := account.posts post inPosts
    cases post with
    | single number delivery stage =>
        exact (show SingleStage.Course self delivery stage _ from course).countP_le jobId
    | gather number parsed results stage =>
        have none_ : (deeds (some number) crew.world.log).countP (Deed.completes jobId) = 0 := by
          rw [List.countP_eq_zero]
          intro deed member completes
          obtain ⟨_, _, rfl⟩ :=
            GatherStage.Course.deed_eq (show stage.Course _ parsed results _ from course) _ member
          cases completes
        change (deeds (some number) crew.world.log).countP (Deed.completes jobId) ≤ 1
        rw [none_]
        exact Nat.zero_le 1
  · rw [account.fresh number (Nat.le_of_not_lt bound)]
    exact Nat.zero_le 1

end Crew

theorem BatchStage.Marked.mute {self : Consumer} {flags : String → Bool} {messages : List StreamMessage}
    {parsed : List ParsedJob} {here : List Deed} (marked : Marked self flags messages parsed here) :
    Mute here := by
  intro deed member
  rcases marked.internal deed member with rfl | internal
  · rfl
  · cases deed <;> first | rfl | cases internal

/-- The completed webhooks for a job of a batch that was handed over, while no job occurs twice in it. -/
theorem BatchStage.Marked.reports_le {self : Consumer} {redis : Redis} {messages : List StreamMessage}
    {parsed : List ParsedJob} {results : List ExecutionResult} {before : List Deed} {number : Nat}
    {crew : Crew BatchStage} (marked : Marked self redis.cancelled messages parsed before)
    (whole : deeds none crew.world.log =
      before ++ [.batchRan (batchJobs parsed) (.ok results), .created (.deliverBatch parsed results) number])
    (account : Crew.Account self redis.cancelled (fun runTask stage => stage.Sound runTask)
      (Course self redis.cancelled messages) crew) (distinct : (parsed.map ParsedJob.jobId).Nodup)
    (jobId : String) : (chronicle crew.world.log).countP (Deed.completes jobId) ≤ 1 := by
  have mute : Mute (deeds none crew.world.log) := by
    rw [whole]
    exact marked.mute.append (by simp [Mute, Deed.tells])
  have apart : ∀ delivery number, .created (.deliverSingle delivery) number ∉ deeds none crew.world.log := by
    intro delivery number created
    simp [whole, marked.not_created] at created
  -- every reporter was created by the one task for the batch
  have origin {reporter : Nat} {deed : Deed} (member : deed ∈ deeds (some reporter) crew.world.log)
      (completes : deed.completes jobId = true) :
      ∃ delivery stage, delivery.jobId = jobId ∧ .gather number parsed results stage ∈ crew.posts ∧
        .created (.deliverSingle delivery) reporter ∈ deeds (some number) crew.world.log := by
    obtain ⟨delivery, batch, about, found⟩ := account.reporter apart member completes
    obtain ⟨parsed', results', stage, _, _, gather, -, -⟩ := account.created_by_task found
    have created := account.gather_origin gather
    simp only [whole, List.mem_append, marked.not_created, false_or, List.mem_cons, reduceCtorEq,
      Deed.created.injEq, TaskSpec.deliverBatch.injEq, List.not_mem_nil, or_false] at created
    obtain ⟨⟨rfl, rfl⟩, rfl⟩ := created
    exact ⟨delivery, stage, about, gather, found⟩
  by_cases reports : ∃ reporter, ∃ deed ∈ deeds (some reporter) crew.world.log, deed.completes jobId = true
  · obtain ⟨reporter, deed, member, completes⟩ := reports
    obtain ⟨delivery, stage, about, gather, found⟩ := origin member completes
    have only : ∀ other, other ≠ some reporter → ∀ deed ∈ deeds other crew.world.log,
        deed.completes jobId = false := by
      intro other elsewhere deed' member'
      by_contra completes'
      rw [Bool.not_eq_false] at completes'
      cases other with
      | none =>
          have tells := Deed.tells_of_completes completes'
          rw [mute deed' member'] at tells
          cases tells
      | some other =>
          obtain ⟨delivery', stage', about', -, found'⟩ := origin member' completes'
          apply elsewhere
          rw [GatherStage.Course.number_eq (account.posts _ gather) distinct found' found (about'.trans about.symm)]
    rw [List.countP_eq_length_filter, chronicle_filter only, ← List.countP_eq_length_filter]
    exact account.countP_le reporter jobId
  · have none_ : (chronicle crew.world.log).countP (Deed.completes jobId) = 0 := by
      rw [List.countP_eq_zero]
      intro deed member completes
      obtain ⟨seat, inside⟩ := did_iff.mpr member
      cases seat with
      | none =>
          have tells := Deed.tells_of_completes completes
          rw [mute deed inside] at tells
          cases tells
      | some reporter => exact reports ⟨reporter, deed, inside, completes⟩
    rw [none_]
    exact Nat.zero_le 1

end CodaNode
