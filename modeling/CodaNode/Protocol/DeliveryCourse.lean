/-
Module: CodaNode.Protocol.DeliveryCourse
Layer: Protocol
Purpose: The deeds of the background tasks while only the fetching of messages can fail, and the account
  of a whole crew: the deeds of its main coroutine and of every background task.
Imports: CodaNode.Protocol.Course, CodaNode.Protocol.Staff
Main exports: Post.Course, Delivered, Crew.Account, Crew.Account.step
-/
import CodaNode.Protocol.Course
import CodaNode.Protocol.Staff

namespace CodaNode

open Coroutine

section Parts

variable (self : Consumer) (delivery : Delivery)

/-- The completed status of a delivered job. -/
def deliveredStatus : Deed :=
  .wrote delivery.jobId { state := some .completed, completedAt := some "" }

/-- The cancelled status of a delivered job. -/
def droppedStatus : Deed :=
  .wrote delivery.jobId
    { state := some .cancelled
      cancelledAt := some ""
      messageId := some delivery.messageId
      qpuId := some self.qpuId }

/-- The flag of the job was found set. -/
inductive Stopped : List Deed → Prop where
  | early : Stopped [.flagged delivery.jobId]
  | late : Stopped [deliveredStatus delivery, .flagged delivery.jobId]

/-- The deeds of a task for one result that has done its work. -/
inductive Delivered : List Deed → Prop where
  | dropped {here : List Deed} (stopped : Stopped delivery here) :
      Delivered (here ++ [droppedStatus self delivery, .acked delivery.messageId])
  | reported {outcome : Except Exc Unit} :
      Delivered
        [deliveredStatus delivery,
          .reported delivery.callbackUrl (.ofResult delivery.jobId delivery.result) outcome,
          .acked delivery.messageId]

/-- The deeds of the task for one result. -/
inductive SingleStage.Course : SingleStage → List Deed → Prop where
  | start : Course .start []
  | firstFlag : Course .firstFlag []
  | mark {here : List Deed} (stopped : Stopped delivery here) : Course .mark here
  | dismiss {here : List Deed} (stopped : Stopped delivery here) :
      Course .dismiss (here ++ [droppedStatus self delivery])
  | complete : Course .complete []
  | lastFlag : Course .lastFlag [deliveredStatus delivery]
  | report : Course .report [deliveredStatus delivery]
  | acknowledge {outcome : Except Exc Unit} :
      Course .acknowledge
        [deliveredStatus delivery,
          .reported delivery.callbackUrl (.ofResult delivery.jobId delivery.result) outcome]
  | finish {here : List Deed} (delivered : Delivered self delivery here) :
      Course (.finish (.ok ())) here
  | past {here : List Deed} (delivered : Delivered self delivery here) : Course (.past (.ok ())) here

end Parts

/-- A deed of the task for this result. -/
def Deed.OfDelivery (delivery : Delivery) : Deed → Prop
  | .flagged jobId => jobId = delivery.jobId
  | .wrote jobId mapping =>
      jobId = delivery.jobId ∧ (mapping.state = some .completed ∨ mapping.state = some .cancelled)
  | .reported callbackUrl payload _ =>
      callbackUrl = delivery.callbackUrl ∧ payload = .ofResult delivery.jobId delivery.result
  | .acked messageId => messageId = delivery.messageId
  | _ => False

section OfDelivery

variable {self : Consumer} {delivery : Delivery} {here : List Deed}

theorem Stopped.ofDelivery (stopped : Stopped delivery here) : ∀ deed ∈ here, deed.OfDelivery delivery := by
  cases stopped <;> simp [deliveredStatus, Deed.OfDelivery]

theorem Delivered.ofDelivery (delivered : Delivered self delivery here) :
    ∀ deed ∈ here, deed.OfDelivery delivery := by
  cases delivered with
  | dropped stopped =>
      rw [List.forall_mem_append]
      exact ⟨stopped.ofDelivery, by simp [droppedStatus, Deed.OfDelivery]⟩
  | reported => simp [deliveredStatus, Deed.OfDelivery]

/-- A result whose job is not cancelled has been recorded, reported and acknowledged. -/
theorem Delivered.of_unflagged (delivered : Delivered self delivery here)
    (unflagged : .flagged delivery.jobId ∉ here) :
    ∃ outcome, here =
      [deliveredStatus delivery,
        .reported delivery.callbackUrl (.ofResult delivery.jobId delivery.result) outcome,
        .acked delivery.messageId] := by
  cases delivered with
  | dropped stopped => cases stopped <;> simp at unflagged
  | reported => exact ⟨_, rfl⟩

/-- Whatever the task does is about its delivery. -/
theorem SingleStage.Course.ofDelivery {stage : SingleStage} (course : Course self delivery stage here) :
    ∀ deed ∈ here, deed.OfDelivery delivery := by
  cases course with
  | start | firstFlag | complete => exact fun _ member => by cases member
  | mark stopped => exact stopped.ofDelivery
  | dismiss stopped =>
      rw [List.forall_mem_append]
      exact ⟨stopped.ofDelivery, by simp [droppedStatus, Deed.OfDelivery]⟩
  | lastFlag | report | acknowledge => simp [deliveredStatus, Deed.OfDelivery]
  | finish delivered | past delivered => exact delivered.ofDelivery

end OfDelivery

/-- These tasks have been created for these deliveries. -/
inductive Created : List Delivery → List Nat → List Deed → Prop where
  | nil : Created [] [] []
  | snoc {deliveries : List Delivery} {numbers : List Nat} {here : List Deed} (delivery : Delivery)
      (number : Nat) (created : Created deliveries numbers here) :
      Created (deliveries ++ [delivery]) (numbers ++ [number])
        (here ++ [.created (.deliverSingle delivery) number])

/-- The deeds of the task for a batch, among tasks with these outcomes. -/
def GatherStage.Course (outcomeOf : Nat → Option (Except Exc Unit)) (parsed : List ParsedJob)
    (results : List ExecutionResult) : GatherStage → List Deed → Prop
  | .spawn nowIso numbers delivery todo, here =>
      ∃ done, zipStrict parsed results nowIso = .ok (done ++ delivery :: todo) ∧
        Created done numbers here
  | .gather nowIso numbers, here =>
      ∃ deliveries, zipStrict parsed results nowIso = .ok deliveries ∧ Created deliveries numbers here
  | .stamp _, here | .release (.ok ()), here | .finish (.ok ()), here | .past (.ok ()), here =>
      ∃ nowIso deliveries numbers, zipStrict parsed results nowIso = .ok deliveries ∧
        Created deliveries numbers here ∧ ∀ number ∈ numbers, outcomeOf number = some (.ok ())
  | _, here => here = []

theorem Created.deed_eq {deliveries : List Delivery} {numbers : List Nat} {here : List Deed}
    (created : Created deliveries numbers here) :
    ∀ deed ∈ here, ∃ delivery number, deed = .created (.deliverSingle delivery) number := by
  induction created with
  | nil => exact fun deed member => by cases member
  | snoc delivery number _ inductionHypothesis =>
      intro deed member
      rcases List.mem_append.mp member with old | new
      · exact inductionHypothesis deed old
      · exact ⟨delivery, number, List.mem_singleton.mp new⟩

/-- The task for a batch only creates tasks. -/
theorem GatherStage.Course.deed_eq {outcomeOf : Nat → Option (Except Exc Unit)} {parsed : List ParsedJob}
    {results : List ExecutionResult} {stage : GatherStage} {here : List Deed}
    (course : stage.Course outcomeOf parsed results here) :
    ∀ deed ∈ here, ∃ delivery number, deed = .created (.deliverSingle delivery) number := by
  have none_ (empty : here = []) : ∀ deed ∈ here, ∃ delivery number,
      deed = .created (.deliverSingle delivery) number := by
    intro deed member
    rw [empty] at member
    cases member
  cases stage with
  | start | clock => exact none_ course
  | spawn nowIso numbers delivery todo =>
      obtain ⟨done, -, created⟩ := course
      exact created.deed_eq
  | gather nowIso numbers =>
      obtain ⟨deliveries, -, created⟩ := course
      exact created.deed_eq
  | stamp =>
      obtain ⟨_, _, _, _, created, -⟩ := course
      exact created.deed_eq
  | release ending | finish ending | past ending =>
      cases ending with
      | error exception => exact none_ course
      | ok value =>
          obtain ⟨_, _, _, _, created, -⟩ := course
          exact created.deed_eq

/-- The deeds of a background task. -/
def Post.Course (self : Consumer) (outcomeOf : Nat → Option (Except Exc Unit)) : Post → List Deed → Prop
  | .gather _ parsed results stage, here => stage.Course outcomeOf parsed results here
  | .single _ delivery stage, here => SingleStage.Course self delivery stage here

section Outcomes

variable {policy : Policy} {world next : World} {op : Op} {outcome : Except Exc op.Reply} {fate : Fate}

/-- The outcome of a task that has ended stays. -/
theorem World.outcomeOf_of_performs (performs : World.Performs policy world op outcome fate next)
    (running : ∀ number ending, op = .taskDone number ending → world.outcomeOf number = none)
    {number : Nat} {ending : Except Exc Unit} (ended : world.outcomeOf number = some ending) :
    next.outcomeOf number = some ending := by
  by_cases creates : ∃ spec, op = .createTask spec
  · obtain ⟨spec, rfl⟩ := creates
    obtain ⟨-, -, rfl⟩ := World.createTask_performs performs
    obtain ⟨record, found, same⟩ := Option.bind_eq_some_iff.mp ended
    obtain ⟨bound, -⟩ := List.getElem?_eq_some_iff.mp found
    simp only [World.outcomeOf]
    rw [List.getElem?_append_left bound, found]
    exact same
  · by_cases ends : ∃ number ending, op = .taskDone number ending
    · obtain ⟨other, last, rfl⟩ := ends
      have distinct : other ≠ number := by
        rintro rfl
        rw [running other last rfl] at ended
        cases ended
      rw [World.taskDone_performs performs]
      simp only [World.outcomeOf, World.finish, List.getElem?_modify, distinct, if_false,
        Option.map_eq_map, Option.map_id_fun', id_eq]
      exact ended
    · rw [World.outcomeOf, World.tasks_of_performs performs (fun spec same => creates ⟨spec, same⟩)
        fun number ending same => ends ⟨number, ending, same⟩]
      exact ended

theorem World.outcomeOf_of_occur {event : EnvEvent} (occurs : world.occur event = some next) :
    next.outcomeOf = world.outcomeOf := by
  funext number
  rw [World.outcomeOf, World.outcomeOf, World.tasks_of_occur occurs]

end Outcomes

namespace Post

variable {self : Consumer} {policy : Policy} {here : List Deed}

theorem course_fresh (outcomeOf : Nat → Option (Except Exc Unit)) (number : Nat) (spec : TaskSpec) :
    (fresh number spec).Course self outcomeOf [] := by
  cases spec with
  | deliverBatch parsed results => rfl
  | deliverSingle delivery => exact SingleStage.Course.start

theorem Course.grow {outcomeOf outcomeOf' : Nat → Option (Except Exc Unit)} {post : Post}
    (grows : ∀ {number ending}, outcomeOf number = some ending → outcomeOf' number = some ending)
    (course : post.Course self outcomeOf here) : post.Course self outcomeOf' here := by
  cases post with
  | single number delivery stage => exact course
  | gather number parsed results stage =>
      cases stage with
      | stamp =>
          obtain ⟨nowIso, deliveries, numbers, zipped, created, ended⟩ := course
          exact ⟨nowIso, deliveries, numbers, zipped, created, fun number member => grows (ended number member)⟩
      | release ending | finish ending | past ending =>
          cases ending with
          | error exception => exact course
          | ok value =>
              obtain ⟨nowIso, deliveries, numbers, zipped, created, ended⟩ := course
              exact ⟨nowIso, deliveries, numbers, zipped, created,
                fun number member => grows (ended number member)⟩
      | _ => exact course

theorem course_spawning {outcomeOf : Nat → Option (Except Exc Unit)} {parsed : List ParsedJob}
    {results : List ExecutionResult} {nowIso : String} {numbers : List Nat} {done todo : List Delivery}
    (zipped : zipStrict parsed results nowIso = .ok (done ++ todo)) (created : Created done numbers here) :
    (GatherStage.spawning nowIso numbers todo).Course outcomeOf parsed results here := by
  cases todo with
  | nil =>
      rw [List.append_nil] at zipped
      exact ⟨done, zipped, created⟩
  | cons delivery todo => exact ⟨done, zipped, created⟩

/-- Every row adds its deed. -/
theorem Course.row (undisturbed : policy.Undisturbed) {post later : Post} {op : Op}
    {outcome : Except Exc op.Reply} {fate : Fate} {world next : World}
    (row : Move self post op outcome later) (performs : World.Performs policy world op outcome fate next)
    (running : ∀ number ending, op = .taskDone number ending → world.outcomeOf number = none)
    (sound : post.Sound world.specs) (kept : later.Sound next.specs)
    (course : post.Course self world.outcomeOf here) :
    later.Course self next.outcomeOf (here ++ (op.deed outcome).toList) := by
  have grows : ∀ {number : Nat} {ending : Except Exc Unit},
      world.outcomeOf number = some ending → next.outcomeOf number = some ending :=
    fun ended => World.outcomeOf_of_performs performs running ended
  cases row with
  | @single number delivery stage _ _ later row =>
      change SingleStage.Course self delivery stage here at course
      change SingleStage.Course self delivery later _
      cases row with
      | start =>
          cases course
          exact .firstFlag
      | firstFlag =>
          obtain ⟨rfl, -, rfl⟩ := World.getCancelled_answered undisturbed performs
          cases course
          cases next.redis.cancelled delivery.jobId with
          | true => exact .mark .early
          | false => exact .complete
      | clock =>
          simp only [Op.deed, Option.toList_none, List.append_nil]
          exact course
      | mark =>
          obtain ⟨rfl, -, rfl⟩ := World.hset_answered undisturbed performs
          cases course with
          | mark stopped => exact .dismiss stopped
      | dismiss =>
          obtain ⟨rfl, -, rfl⟩ := World.xack_answered undisturbed performs
          cases course with
          | dismiss stopped =>
              rw [List.append_assoc]
              exact .finish (.dropped stopped)
      | complete =>
          obtain ⟨rfl, -, rfl⟩ := World.hset_answered undisturbed performs
          cases course
          exact .lastFlag
      | lastFlag =>
          obtain ⟨rfl, -, rfl⟩ := World.getCancelled_answered undisturbed performs
          cases course
          cases next.redis.cancelled delivery.jobId with
          | true => exact .mark .late
          | false => exact .report
      | @report outcome =>
          obtain ⟨-, -, -, ordinary⟩ :=
            World.outward_answered undisturbed performs (.inr (.inr (.inl ⟨_, _, rfl⟩)))
          cases course
          cases outcome with
          | ok value => exact .acknowledge
          | error exception =>
              simp only [afterLogged, Exc.isException_of_isOrdinary (ordinary exception rfl), if_true]
              exact .acknowledge
      | acknowledge =>
          obtain ⟨rfl, -, rfl⟩ := World.xack_answered undisturbed performs
          cases course
          exact .finish .reported
      | @finish ending =>
          simp only [Op.deed, Option.toList_none, List.append_nil]
          cases course with
          | finish delivered => exact .past delivered
  | @gather number parsed results stage _ _ later row =>
      change stage.Course world.outcomeOf parsed results here at course
      change later.Course next.outcomeOf parsed results _
      cases row with
      | start =>
          cases course
          rfl
      | clock =>
          cases course
          simp only [GatherStage.opening]
          split
          · rfl
          · rename_i deliveries zipped
            exact course_spawning (List.nil_append deliveries ▸ zipped) .nil
      | @spawn nowIso numbers delivery todo fresh =>
          obtain ⟨done, zipped, created⟩ := course
          refine course_spawning ?_ (.snoc delivery fresh created)
          rw [List.append_assoc, List.singleton_append]
          exact zipped
      | @gather nowIso numbers outcome =>
          obtain ⟨rfl, -, answered⟩ := World.gather_answered undisturbed performs
          simp only [Op.deed, Option.toList_none, List.append_nil]
          obtain ⟨deliveries, zipped, created⟩ := course
          rcases answered with ⟨rfl, ended⟩ | ⟨exception, rfl, -⟩
          · exact ⟨nowIso, deliveries, numbers, zipped, created, ended⟩
          · unfold zipStrict at zipped
            rw [if_neg kept.1] at zipped
            split at zipped <;> cases zipped
      | stamp =>
          simp only [Op.deed, Option.toList_none, List.append_nil]
          obtain ⟨nowIso, deliveries, numbers, zipped, created, ended⟩ := course
          exact ⟨nowIso, deliveries, numbers, zipped, created, fun number member => grows (ended number member)⟩
      | @release ending | @finish ending =>
          simp only [Op.deed, Option.toList_none, List.append_nil]
          cases ending with
          | error exception => exact course
          | ok value =>
              obtain ⟨nowIso, deliveries, numbers, zipped, created, ended⟩ := course
              exact ⟨nowIso, deliveries, numbers, zipped, created,
                fun number member => grows (ended number member)⟩

end Post

end CodaNode
