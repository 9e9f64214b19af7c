/-
Module: CodaNode.Proofs.EarlyExit
Layer: Proofs
Purpose: What the end of a batch's delivery task says about its single deliveries. `gather` raises the
  first exception and leaves the other deliveries running, so they have ended only if no delivery raises
  before the others are done.
Imports: CodaNode.Protocol.Loop, CodaNode.Protocol.DeliveryCourse
Main exports: RaisesLast, Settled, deliverBatchResults_settled
-/
import CodaNode.Protocol.DeliveryCourse
import CodaNode.Protocol.Loop

namespace CodaNode

open Coroutine

namespace EarlyExit

/-- The task with this number stores its outcome. -/
def ends (number : Nat) : Entry → Bool
  | .call _ (.taskDone other _) _ _ => other = number
  | _ => false

/-- The task with this number stores an exception. -/
def raises (number : Nat) : Entry → Bool
  | .call _ (.taskDone other (.error _)) _ _ => other = number
  | _ => false

/-- The task `owner` has created the task `number` for one result. -/
def Spawned (log : List Entry) (owner number : Nat) : Prop :=
  ∃ delivery, .created (.deliverSingle delivery) number ∈ deeds (some owner) log

section Delivery

variable (number : Nat) (delivery : Delivery) (log : List Entry)

/-- The task for one result has performed this operation. It succeeded, or its exception is one that the
delivery logs and passes over. -/
def Performed (op : Op) (passes : Exc → Bool) : Prop :=
  ∃ outcome fate, .call (.task number (.deliverSingle delivery)) op outcome fate ∈ log ∧
    ∀ exception, outcome = .error exception → passes exception = true

/-- The webhook has been sent. -/
def Sent : Prop :=
  Performed number delivery log
    (.sendResult delivery.callbackUrl (.ofResult delivery.jobId delivery.result)) Exc.isException

/-- The job has been marked cancelled. -/
def Marked (self : Consumer) : Prop :=
  ∃ now, Performed number delivery log
    (.hset delivery.jobId
      { state := some .cancelled
        cancelledAt := some now
        messageId := some delivery.messageId
        qpuId := some self.qpuId }) Exc.isConnection

/-- The message has been acknowledged. -/
def Acked : Prop := Performed number delivery log (.xack delivery.messageId) Exc.isConnection

/-- The delivery has done its work. -/
def Reported (self : Consumer) : Prop :=
  (Sent number delivery log ∨ Marked number delivery log self) ∧ Acked number delivery log

end Delivery

/-- The task `owner` has created the task `number` for this delivery. -/
def Assigned (world : World) (owner : Nat) (delivery : Delivery) (number : Nat) : Prop :=
  .created (.deliverSingle delivery) number ∈ deeds (some owner) world.log ∧
    world.specs[number]? = some (.deliverSingle delivery)

/-- The task for this delivery has ended, and unless it raised it has done its work. -/
def Landed (self : Consumer) (world : World) (owner : Nat) (delivery : Delivery) (number : Nat) : Prop :=
  Assigned world owner delivery number ∧
    ∃ outcome, world.outcomeOf number = some outcome ∧
      (outcome = .ok () → Reported number delivery world.log self)

end EarlyExit

open EarlyExit

/-- A delivery that raises is the last of its batch to end, and `gather` is not interrupted from outside. -/
structure RaisesLast (log : List Entry) : Prop where
  last : ∀ before entry after owner number other, log = before ++ entry :: after →
    raises number entry = true → Spawned log owner number → Spawned log owner other → other ≠ number →
      before.any (ends other) = true
  awaited : ∀ role numbers outcome fate, .call role (.gather numbers) outcome fate ∈ log → fate = .answered

/-- Every delivery of the batch has ended, and those that did not raise have done their work. -/
def Settled (self : Consumer) (world : World) (owner : Nat) (parsed : List ParsedJob)
    (results : List ExecutionResult) : Prop :=
  ∃ nowIso deliveries numbers, zipStrict parsed results nowIso = .ok deliveries ∧
    List.Forall₂ (Landed self world owner) deliveries numbers

namespace EarlyExit

variable {self : Consumer} {policy : Policy}

/-! ### What stays -/

/-- Records are added to the log, tasks are added, and outcomes stay. -/
structure Grown (world next : World) : Prop where
  log : world.log <+: next.log
  specs : world.specs <+: next.specs
  outcomes : ∀ {number outcome}, world.outcomeOf number = some outcome → next.outcomeOf number = some outcome

section Grown

variable {world next : World} {number owner : Nat} {delivery : Delivery} {log more : List Entry}

theorem grown_of_occur {event : EnvEvent} (occurs : world.occur event = some next) :
    Grown world (next.record (.env event)) where
  log := by
    rw [World.record_log, World.log_of_occur occurs]
    exact List.prefix_append ..
  specs := by
    have same : (next.record (.env event)).specs = world.specs := by
      rw [World.specs, World.specs, World.record_tasks, World.tasks_of_occur occurs]
    exact ⟨[], by rw [List.append_nil, same]⟩
  outcomes := by
    intro number outcome ended
    rw [← World.outcomeOf_of_occur occurs] at ended
    exact ended

theorem grown_of_performs {op : Op} {outcome : Except Exc op.Reply} {fate : Fate}
    (performs : World.Performs policy world op outcome fate next) (role : Role)
    (running : ∀ number ending, op = .taskDone number ending → world.outcomeOf number = none) :
    Grown world (next.recordCall role op outcome fate) where
  log := by
    rw [World.recordCall_log_of_performs role performs]
    split
    · exact List.prefix_append ..
    · exact List.prefix_refl _
  specs := by
    obtain ⟨more, grown⟩ := World.specs_of_performs performs
    rw [World.specs, World.specs, World.recordCall_tasks]
    change world.specs <+: next.specs
    rw [grown]
    exact List.prefix_append ..
  outcomes := by
    intro number ending ended
    rw [World.outcomeOf, World.recordCall_tasks]
    exact World.outcomeOf_of_performs performs running ended

theorem Grown.deed (grown : Grown world next) {seat : Option Nat} {deed : Deed}
    (done : deed ∈ deeds seat world.log) : deed ∈ deeds seat next.log := by
  obtain ⟨more, same⟩ := grown.log
  rw [← same, deeds_append]
  exact List.mem_append_left _ done

theorem Grown.spec (grown : Grown world next) {spec : TaskSpec} (found : world.specs[number]? = some spec) :
    next.specs[number]? = some spec := by
  obtain ⟨more, same⟩ := grown.specs
  obtain ⟨bound, -⟩ := List.getElem?_eq_some_iff.mp found
  rw [← same, List.getElem?_append_left bound, found]

theorem Grown.any (grown : Grown world next) {property : Entry → Bool}
    (found : world.log.any property = true) : next.log.any property = true := by
  obtain ⟨more, same⟩ := grown.log
  rw [← same, List.any_append, found, Bool.true_or]

theorem Grown.performed (grown : Grown world next) {op : Op} {passes : Exc → Bool}
    (performed : Performed number delivery world.log op passes) :
    Performed number delivery next.log op passes := by
  obtain ⟨outcome, fate, member, passed⟩ := performed
  exact ⟨outcome, fate, grown.log.subset member, passed⟩

theorem Grown.marked (grown : Grown world next) (marked : Marked number delivery world.log self) :
    Marked number delivery next.log self := by
  obtain ⟨now, performed⟩ := marked
  exact ⟨now, grown.performed performed⟩

theorem Grown.reported (grown : Grown world next) (reported : Reported number delivery world.log self) :
    Reported number delivery next.log self :=
  ⟨reported.1.imp grown.performed grown.marked, grown.performed reported.2⟩

theorem Grown.assigned (grown : Grown world next) (assigned : Assigned world owner delivery number) :
    Assigned next owner delivery number :=
  ⟨grown.deed assigned.1, grown.spec assigned.2⟩

theorem Grown.landed (grown : Grown world next) (landed : Landed self world owner delivery number) :
    Landed self next owner delivery number := by
  obtain ⟨assigned, outcome, ended, reported⟩ := landed
  exact ⟨grown.assigned assigned, outcome, grown.outcomes ended, fun fine => grown.reported (reported fine)⟩

theorem Grown.settled (grown : Grown world next) {parsed : List ParsedJob} {results : List ExecutionResult}
    (settled : Settled self world owner parsed results) : Settled self next owner parsed results := by
  obtain ⟨nowIso, deliveries, numbers, zipped, landed⟩ := settled
  exact ⟨nowIso, deliveries, numbers, zipped, landed.imp fun _ _ => grown.landed⟩

/-- A part of the log that comes first decides less. -/
theorem raisesLast_of_beginning (raisesLast : RaisesLast more) (shorter : log <+: more) : RaisesLast log := by
  obtain ⟨rest, rfl⟩ := shorter
  constructor
  · intro before entry after owner number other shape raised here there distinct
    have later {task : Nat} (spawned : Spawned log owner task) : Spawned (log ++ rest) owner task := by
      obtain ⟨delivery, member⟩ := spawned
      refine ⟨delivery, ?_⟩
      rw [deeds_append]
      exact List.mem_append_left _ member
    apply raisesLast.last before entry (after ++ rest) owner number other _ raised (later here) (later there)
      distinct
    rw [shape, List.append_assoc, List.cons_append]
  · intro role numbers outcome fate member
    exact raisesLast.awaited role numbers outcome fate (List.mem_append_left _ member)

end Grown

/-! ### What is known at each stage -/

/-- What the task for one result has done. -/
def SingleKept (self : Consumer) (number : Nat) (delivery : Delivery) (log : List Entry) :
    SingleStage → Prop
  | .dismiss => Marked number delivery log self
  | .acknowledge => Sent number delivery log
  | .finish (.ok ()) | .past (.ok ()) => Reported number delivery log self
  | .past (.error _) => log.any (raises number) = true
  | _ => True

/-- What the task for a batch has done. Nothing is claimed of its end unless exceptions come last and the
results match the jobs. -/
def GatherKept (self : Consumer) (owner : Nat) (parsed : List ParsedJob) (results : List ExecutionResult)
    (world : World) : GatherStage → Prop
  | .start | .clock => True
  | .spawn nowIso numbers delivery todo =>
      ∃ done, zipStrict parsed results nowIso = .ok (done ++ delivery :: todo) ∧
        List.Forall₂ (Assigned world owner) done numbers
  | .gather nowIso numbers =>
      ∃ deliveries, zipStrict parsed results nowIso = .ok deliveries ∧
        List.Forall₂ (Assigned world owner) deliveries numbers
  | .stamp _ | .release _ | .finish _ | .past _ =>
      RaisesLast world.log → parsed.length = results.length → Settled self world owner parsed results

/-- What a background task has done. -/
def Kept (self : Consumer) (world : World) : Post → Prop
  | .single number delivery stage => SingleKept self number delivery world.log stage
  | .gather owner parsed results stage => GatherKept self owner parsed results world stage

section Rows

variable {world next : World} {op : Op} {outcome : Except Exc op.Reply} {fate : Fate}

theorem kept_fresh (number : Nat) (spec : TaskSpec) : Kept self world (.fresh number spec) := by
  cases spec <;> trivial

/-- It stays known. -/
theorem Grown.kept (grown : Grown world next) {post : Post} (kept : Kept self world post) :
    Kept self next post := by
  cases post with
  | single number delivery stage =>
      cases stage with
      | dismiss => exact grown.marked kept
      | acknowledge => exact grown.performed kept
      | finish ending =>
          cases ending with
          | ok value => exact grown.reported kept
          | error exception => trivial
      | past ending =>
          cases ending with
          | ok value => exact grown.reported kept
          | error exception => exact grown.any kept
      | _ => trivial
  | gather owner parsed results stage =>
      cases stage with
      | start | clock => trivial
      | spawn nowIso numbers delivery todo =>
          obtain ⟨done, zipped, assigned⟩ := kept
          exact ⟨done, zipped, assigned.imp fun _ _ => grown.assigned⟩
      | gather nowIso numbers =>
          obtain ⟨deliveries, zipped, assigned⟩ := kept
          exact ⟨deliveries, zipped, assigned.imp fun _ _ => grown.assigned⟩
      | stamp | release | finish | past =>
          intro raisesLast same
          exact grown.settled (kept (raisesLast_of_beginning raisesLast grown.log) same)

/-- An operation the log keeps is its last record. -/
theorem mem_of_performs (performs : World.Performs policy world op outcome fate next) (role : Role)
    (logged : op.logged = true) :
    .call role op outcome fate ∈ (next.recordCall role op outcome fate).log := by
  rw [World.recordCall_log_of_performs role performs, if_pos logged]
  exact List.mem_append_right _ List.mem_cons_self

/-- A guarded operation goes on only if it succeeded or its exception is passed over. -/
theorem of_afterSafe {holds : SingleStage → Prop} {outcome : Except Exc Unit} {next : SingleStage}
    (goes : (∀ exception, outcome = .error exception → exception.isConnection = true) → holds next)
    (escapes : ∀ exception, holds (.finish (.error exception))) :
    holds (afterSafe outcome next fun exception => .finish (.error exception)) := by
  cases outcome with
  | ok value => exact goes fun _ failed => by cases failed
  | error exception =>
      simp only [afterSafe]
      split
      · rename_i connection
        exact goes fun _ same => by cases same; exact connection
      · exact escapes exception

theorem of_afterLogged {holds : SingleStage → Prop} {outcome : Except Exc Unit} {next : SingleStage}
    (goes : (∀ exception, outcome = .error exception → exception.isException = true) → holds next)
    (escapes : ∀ exception, holds (.finish (.error exception))) :
    holds (afterLogged outcome next fun exception => .finish (.error exception)) := by
  cases outcome with
  | ok value => exact goes fun _ failed => by cases failed
  | error exception =>
      simp only [afterLogged]
      split
      · rename_i passed
        exact goes fun _ same => by cases same; exact passed
      · exact escapes exception

/-- Each row of the task for one result adds what it has done. -/
theorem SingleKept.row {number : Nat} {delivery : Delivery} {stage later : SingleStage}
    (row : SingleStage.Move self number delivery stage op outcome later)
    (performs : World.Performs policy world op outcome fate next)
    (kept : SingleKept self number delivery world.log stage) :
    SingleKept self number delivery
      (next.recordCall (.task number (.deliverSingle delivery)) op outcome fate).log later := by
  have here (logged : op.logged = true) :=
    mem_of_performs performs (.task number (.deliverSingle delivery)) logged
  have old {other : Op} {passes : Exc → Bool} (performed : Performed number delivery world.log other passes) :
      Performed number delivery
        (next.recordCall (.task number (.deliverSingle delivery)) op outcome fate).log other passes := by
    obtain ⟨outcome', fate', member, passed⟩ := performed
    refine ⟨outcome', fate', ?_, passed⟩
    rw [World.recordCall_log_of_performs _ performs]
    split
    · exact List.mem_append_left _ member
    · exact member
  cases row with
  | start => trivial
  | clock => trivial
  | @firstFlag outcome | @lastFlag outcome =>
      cases outcome with
      | ok flag => cases flag <;> trivial
      | error exception => trivial
  | @mark now outcome =>
      apply of_afterSafe
      · intro passed
        exact ⟨now, outcome, fate, here rfl, passed⟩
      · intro exception
        trivial
  | @dismiss outcome =>
      have marked : Marked number delivery _ self := kept.imp fun _ => old
      apply of_afterSafe
      · intro passed
        exact ⟨.inr marked, outcome, fate, here rfl, passed⟩
      · intro exception
        trivial
  | complete =>
      apply of_afterSafe
      · intro _
        trivial
      · intro exception
        trivial
  | @report outcome =>
      apply of_afterLogged
      · intro passed
        exact ⟨outcome, fate, here rfl, passed⟩
      · intro exception
        trivial
  | @acknowledge outcome =>
      have sent : Sent number delivery _ := old kept
      apply of_afterSafe
      · intro passed
        exact ⟨.inl sent, outcome, fate, here rfl, passed⟩
      · intro exception
        trivial
  | @finish ending =>
      cases ending with
      | ok value => exact ⟨kept.1.imp old fun marked => marked.imp fun _ => old, old kept.2⟩
      | error exception =>
          apply List.any_eq_true.mpr
          exact ⟨_, here rfl, decide_eq_true rfl⟩

end Rows

/-! ### The crew -/

/-- The tasks agree with their records, those whose outcome is in the log have ended, and each has done what its
stage says. -/
structure Holds {L : Type} (consumer : Consumer) (crew : Crew L) : Prop where
  roster : crew.Roster
  ended : ∀ number, crew.world.log.any (ends number) = true →
    ∃ outcome, crew.world.outcomeOf number = some outcome
  kept : ∀ post ∈ crew.posts, Kept consumer crew.world post

section Crew

variable {L : Type} {crew : Crew L} {owner number : Nat} {delivery : Delivery}

/-- What the task for one result has done once it has ended. -/
theorem Holds.single (holds : Holds self crew) {outcome : Except Exc Unit}
    (created : crew.world.specs[number]? = some (.deliverSingle delivery))
    (ended : crew.world.outcomeOf number = some outcome) :
    SingleKept self number delivery crew.world.log (.past outcome) := by
  obtain ⟨post, member, numbered, ending, record⟩ := holds.roster.post_of_outcome ended
  have spec : post.spec = .deliverSingle delivery := by
    rw [World.specs, List.getElem?_map, record] at created
    exact Option.some.inj created
  have kept := holds.kept post member
  cases post with
  | gather => cases spec
  | single other delivery' stage =>
      cases spec
      cases numbered
      cases stage with
      | past outcome' =>
          cases ending
          exact kept
      | _ => cases ending

theorem Holds.landed (holds : Holds self crew) {outcome : Except Exc Unit}
    (assigned : Assigned crew.world owner delivery number)
    (ended : crew.world.outcomeOf number = some outcome) : Landed self crew.world owner delivery number := by
  refine ⟨assigned, outcome, ended, ?_⟩
  rintro rfl
  exact holds.single assigned.2 ended

/-- Once one delivery of a batch has raised, all have ended. -/
theorem Holds.landed_of_raised (holds : Holds self crew) (raisesLast : RaisesLast crew.world.log)
    {deliveries : List Delivery} {numbers : List Nat}
    (assigned : List.Forall₂ (Assigned crew.world owner) deliveries numbers) {exception : Exc}
    (raised : ∃ number ∈ numbers, crew.world.outcomeOf number = some (.error exception)) :
    List.Forall₂ (Landed self crew.world owner) deliveries numbers := by
  obtain ⟨same, assigned⟩ := List.forall₂_iff_get.mp assigned
  have created (number : Nat) (member : number ∈ numbers) :
      ∃ delivery, Assigned crew.world owner delivery number := by
    obtain ⟨index, bound, rfl⟩ := List.mem_iff_getElem.mp member
    exact ⟨_, assigned index (same ▸ bound) bound⟩
  obtain ⟨culprit, member, outcome⟩ := raised
  obtain ⟨delivery, here⟩ := created culprit member
  obtain ⟨entry, inLog, raises⟩ := List.any_eq_true.mp (holds.single here.2 outcome)
  obtain ⟨before, after, shape⟩ := List.append_of_mem inLog
  have ended (number : Nat) (member : number ∈ numbers) :
      ∃ outcome, crew.world.outcomeOf number = some outcome := by
    by_cases same : number = culprit
    · exact ⟨_, same ▸ outcome⟩
    · obtain ⟨delivery', there⟩ := created number member
      apply holds.ended
      rw [shape, List.any_append]
      rw [raisesLast.last before entry after owner culprit number shape raises ⟨_, here.1⟩ ⟨_, there.1⟩ same]
      rfl
  refine List.forall₂_iff_get.mpr ⟨same, ?_⟩
  intro index first second
  obtain ⟨outcome, finished⟩ := ended _ (List.get_mem numbers ⟨index, second⟩)
  exact holds.landed (assigned index first second) finished

/-- Once every delivery of a batch has returned, all have ended. -/
theorem Holds.landed_of_returned (holds : Holds self crew) {deliveries : List Delivery} {numbers : List Nat}
    (assigned : List.Forall₂ (Assigned crew.world owner) deliveries numbers)
    (returned : ∀ number ∈ numbers, crew.world.outcomeOf number = some (.ok ())) :
    List.Forall₂ (Landed self crew.world owner) deliveries numbers := by
  obtain ⟨same, assigned⟩ := List.forall₂_iff_get.mp assigned
  refine List.forall₂_iff_get.mpr ⟨same, ?_⟩
  intro index first second
  apply holds.landed (assigned index first second)
  exact returned _ (List.get_mem numbers ⟨index, second⟩)

theorem kept_spawning {world : World} {parsed : List ParsedJob} {results : List ExecutionResult}
    {nowIso : String} {numbers : List Nat} {done todo : List Delivery}
    (zipped : zipStrict parsed results nowIso = .ok (done ++ todo))
    (assigned : List.Forall₂ (Assigned world owner) done numbers) :
    GatherKept self owner parsed results world (.spawning nowIso numbers todo) := by
  cases todo with
  | nil =>
      rw [List.append_nil] at zipped
      exact ⟨done, zipped, assigned⟩
  | cons delivery todo => exact ⟨done, zipped, assigned⟩

/-- A strict zip of lists of the same length yields the deliveries. -/
theorem zipped_of_length {parsed : List ParsedJob} {results : List ExecutionResult} {nowIso : String}
    {exception : Exc} (same : parsed.length = results.length) :
    zipStrict parsed results nowIso ≠ .error exception := by
  unfold zipStrict
  rw [if_pos same]
  exact fun impossible => by cases impossible

/-- What `gather` tells its caller. -/
theorem gather_tells {policy : Policy} {world next : World} {numbers : List Nat}
    {outcome : Except Exc (Op.gather numbers).Reply}
    (performs : World.Performs policy world (.gather numbers) outcome .answered next) :
    (∀ number ∈ numbers, world.outcomeOf number = some (.ok ())) ∨
      ∃ exception, ∃ number ∈ numbers, world.outcomeOf number = some (.error exception) := by
  cases performs with
  | answered _ effect =>
      cases outcome with
      | ok value =>
          simp only [World.effect] at effect
          split at effect
          · exact .inl ‹_›
          · cases effect
      | error exception =>
          simp only [World.effect] at effect
          split at effect
          · exact .inr ⟨exception, ‹_›⟩
          · cases effect

/-- Each row of the task for a batch adds what it has done. -/
theorem GatherKept.row (holds : Holds self crew) {parsed : List ParsedJob} {results : List ExecutionResult}
    {stage later : GatherStage} {op : Op} {outcome : Except Exc op.Reply} {fate : Fate} {next : World}
    (row : GatherStage.Move owner parsed results stage op outcome later)
    (performs : World.Performs policy crew.world op outcome fate next)
    (grown : Grown crew.world (next.recordCall (.task owner (.deliverBatch parsed results)) op outcome fate))
    (kept : GatherKept self owner parsed results crew.world stage) :
    GatherKept self owner parsed results
      (next.recordCall (.task owner (.deliverBatch parsed results)) op outcome fate) later := by
  have lasting (settled : RaisesLast crew.world.log → parsed.length = results.length →
      Settled self crew.world owner parsed results) (raisesLast : RaisesLast
        (next.recordCall (.task owner (.deliverBatch parsed results)) op outcome fate).log)
      (same : parsed.length = results.length) : Settled self
        (next.recordCall (.task owner (.deliverBatch parsed results)) op outcome fate) owner parsed results :=
    grown.settled (settled (raisesLast_of_beginning raisesLast grown.log) same)
  cases row with
  | start => trivial
  | clock =>
      simp only [GatherStage.opening]
      split
      · rename_i exception failed
        intro _ same
        exact absurd failed (zipped_of_length same)
      · rename_i deliveries zipped
        exact kept_spawning (List.nil_append deliveries ▸ zipped) .nil
  | @spawn nowIso numbers delivery todo fresh =>
      obtain ⟨done, zipped, assigned⟩ := kept
      have latest : Assigned
          (next.recordCall (.task owner (.deliverBatch parsed results)) (.createTask (.deliverSingle delivery))
            (.ok fresh) fate) owner delivery fresh := by
        obtain ⟨numbered, -, rfl⟩ := World.createTask_performs performs
        cases numbered
        constructor
        · rw [deeds_of_performs performs (show Role.seat _ = some owner from rfl)]
          exact List.mem_append_right _ List.mem_cons_self
        · simp [World.specs]
      have zipped : zipStrict parsed results nowIso = .ok ((done ++ [delivery]) ++ todo) := by
        rw [List.append_assoc, List.singleton_append]
        exact zipped
      apply kept_spawning zipped
      exact List.rel_append (assigned.imp fun _ _ => grown.assigned) (.cons latest .nil)
  | @gather nowIso numbers outcome =>
      have settled : RaisesLast
          (next.recordCall (.task owner (.deliverBatch parsed results)) (.gather numbers) outcome fate).log →
          parsed.length = results.length → Settled self
            (next.recordCall (.task owner (.deliverBatch parsed results)) (.gather numbers) outcome fate)
            owner parsed results := by
        intro raisesLast _
        have answered := raisesLast.awaited _ _ _ _ (mem_of_performs performs _ rfl)
        subst answered
        obtain ⟨deliveries, zipped, assigned⟩ := kept
        apply grown.settled
        refine ⟨nowIso, deliveries, numbers, zipped, ?_⟩
        rcases gather_tells performs with returned | ⟨exception, raised⟩
        · exact holds.landed_of_returned assigned returned
        · exact holds.landed_of_raised (raisesLast_of_beginning raisesLast grown.log) assigned raised
      cases outcome with
      | ok value => exact settled
      | error exception => exact settled
  | stamp => exact lasting kept
  | release => exact lasting kept
  | finish => exact lasting kept

/-- The records of ends in a new log are the old ones and a new one. -/
theorem ended_of_performs {world next : World} {op : Op} {outcome : Except Exc op.Reply} {fate : Fate}
    (performs : World.Performs policy world op outcome fate next) (role : Role) {number : Nat}
    (ended : (next.recordCall role op outcome fate).log.any (ends number) = true) :
    world.log.any (ends number) = true ∨ ∃ ending, op = .taskDone number ending := by
  rw [World.recordCall_log_of_performs role performs] at ended
  split at ended
  · rw [List.any_append, Bool.or_eq_true] at ended
    rcases ended with old | new
    · exact .inl old
    · rw [List.any_cons, List.any_nil, Bool.or_false] at new
      unfold ends at new
      split at new
      · rename_i other ending _ _ same
        cases same
        exact .inr ⟨ending, by rw [of_decide_eq_true new]⟩
      · cases new
  · exact .inl ended

/-- Every step of the crew keeps it. -/
theorem Holds.step {move : L → (op : Op) → Except Exc op.Reply → L → Prop}
    (mains : ∀ {stage op outcome later}, move stage op outcome later → ∀ number ending, op ≠ .taskDone number ending)
    {first second : Crew L} (step : Crew.Step self policy move first second) (holds : Holds self first) :
    Holds self second := by
  have roster := holds.roster.step mains step
  cases step with
  | @env world next stage posts event _ occurs =>
      have grown : Grown world (next.record (.env event)) := grown_of_occur occurs
      refine ⟨roster, ?_, fun post member => grown.kept (holds.kept post member)⟩
      intro number ended
      change (next.record (.env event)).log.any (ends number) = true at ended
      rw [World.record_log, World.log_of_occur occurs, List.any_append, Bool.or_eq_true] at ended
      rcases ended with old | new
      · obtain ⟨outcome, ended⟩ := holds.ended number old
        exact ⟨outcome, grown.outcomes ended⟩
      · cases new
  | @main world next stage later posts op outcome fate row performs =>
      have grown := grown_of_performs performs .loop fun number ending same =>
        absurd same (mains row number ending)
      refine ⟨roster, ?_, ?_⟩
      · intro number ended
        rcases ended_of_performs performs .loop ended with old | ⟨ending, same⟩
        · obtain ⟨outcome, ended⟩ := holds.ended number old
          exact ⟨outcome, grown.outcomes ended⟩
        · exact absurd same (mains row number ending)
      · intro post member
        rcases List.mem_append.mp member with old | new
        · exact grown.kept (holds.kept post old)
        · cases op with
          | createTask spec =>
              rw [List.mem_singleton.mp new]
              exact kept_fresh ..
          | _ => cases new
  | @post world next stage before after post later op outcome fate row performs =>
      have grown := grown_of_performs performs post.role (holds.roster.running row)
      have moved : Kept self (next.recordCall post.role op outcome fate) later := by
        have kept := holds.kept post (by simp)
        cases row with
        | single row => exact SingleKept.row row performs kept
        | gather row => exact GatherKept.row holds row performs grown kept
      refine ⟨roster, ?_, ?_⟩
      · intro number ended
        rcases ended_of_performs performs post.role ended with old | ⟨ending, rfl⟩
        · obtain ⟨outcome, ended⟩ := holds.ended number old
          exact ⟨outcome, grown.outcomes ended⟩
        · obtain ⟨-, ends⟩ := row.ending_eq
          rcases ends with ⟨-, ends⟩ | ⟨ending', same, last⟩
          · exact absurd rfl (ends number ending)
          · cases same
            have posts : (before ++ later :: after) ++ world.created (.taskDone post.number ending) =
                before ++ later :: after := List.append_nil _
            rw [posts] at roster
            have stored := roster.outcomeOf_eq
            rw [row.number_eq] at stored
            exact ⟨ending, stored.trans last⟩
      · intro other member
        rcases List.mem_append.mp member with here | new
        · rcases List.mem_append.mp here with front | back
          · exact grown.kept (holds.kept other (List.mem_append_left _ front))
          · rcases List.mem_cons.mp back with rfl | behind
            · exact moved
            · exact grown.kept (holds.kept other (by simp [behind]))
        · cases op with
          | createTask spec =>
              rw [List.mem_singleton.mp new]
              exact kept_fresh ..
          | _ => cases new

theorem holds_start {redis : Redis} {start : L} : Holds self ⟨{ redis := redis }, start, []⟩ where
  roster := ⟨rfl, rfl⟩
  ended _ impossible := by cases impossible
  kept _ member := by cases member

end Crew

end EarlyExit

/-- If no delivery raises before the others of its batch are done, then when the delivery task of a batch has ended
every delivery has ended, and each that did not raise has sent its webhook, or marked its job cancelled, and
acknowledged its message. -/
theorem deliverBatchResults_settled (self : Consumer) (policy : Policy) (redis : Redis) (iterations : Nat)
    (system : System)
    (reaches : Pool.Reaches (machine self policy)
      (Pool.single { redis := redis } .loop (consumeLoop self iterations)) system)
    (raisesLast : RaisesLast system.state.log) (owner : Nat) (parsed : List ParsedJob)
    (results : List ExecutionResult) (same : parsed.length = results.length)
    (created : system.state.specs[owner]? = some (.deliverBatch parsed results)) (outcome : Except Exc Unit)
    (ended : system.state.outcomeOf owner = some outcome) :
    Settled self system.state owner parsed results := by
  obtain ⟨crew, stands, holds⟩ := (consumeLoop_follows iterations).reaches
    (fun step held => Holds.step LoopStage.Move.not_taskDone step held) holds_start reaches
  rw [← stands.1] at raisesLast created ended ⊢
  obtain ⟨post, member, numbered, ending, record⟩ := holds.roster.post_of_outcome ended
  have spec : post.spec = .deliverBatch parsed results := by
    rw [World.specs, List.getElem?_map, record] at created
    exact Option.some.inj created
  have kept := holds.kept post member
  cases post with
  | single => cases spec
  | gather number parsed results stage =>
      cases spec
      cases numbered
      cases stage with
      | past outcome => exact kept raisesLast same
      | _ => cases ending

namespace EarlyExit

def jobs : List StreamMessage := [Sample.message "1-0" "first", Sample.message "2-0" "second"]

def lost : Exc := ⟨.connectionError, "Connection closed by server."⟩

/-- The delivery of the first job cannot read the flag. -/
def fails (world : World) : Op → Option Exc
  | .getCancelled jobId => if jobId = "first" ∧ world.tasks.length = 3 then some lost else none
  | _ => none

/-- Where the deliveries may fail, `gather` raises. -/
def surroundings (failures : World → Op → Option Exc) (gathered : Except Exc Unit) : Surroundings :=
  fun role world op =>
    match op with
    | .gather _ => some (gathered, .answered)
    | op => (Surroundings.plain Sample.result).failing failures role world op

def play (failures : World → Op → Option Exc) (gathered : Except Exc Unit) (script : List (Turn EnvEvent)) :
    System :=
  System.play Sample.consumer .arbitrary (surroundings failures gathered) script
    (Pool.single { redis := Sample.waiting jobs } .loop (consumeLoop Sample.consumer 1))

theorem play_reaches {failures : World → Op → Option Exc} {gathered : Except Exc Unit}
    (faults : ∀ world op exception, failures world op = some exception → exception.isForeign = true)
    (script : List (Turn EnvEvent)) :
    Pool.Reaches (machine Sample.consumer .arbitrary)
      (Pool.single { redis := Sample.waiting jobs } .loop (consumeLoop Sample.consumer 1))
      (play failures gathered script) := by
  apply System.play_reaches _ _ _ fun _ _ => trivial
  intro role world op outcome fate answered
  have within : ((Surroundings.plain Sample.result).failing failures).Within .arbitrary :=
    Surroundings.failing_within (Surroundings.plain_within fun _ _ _ _ => trivial) faults
  cases op with
  | gather =>
      cases answered
      trivial
  | _ => exact within role world _ outcome fate answered

/-- The delivery of the first job raises, `gather` raises, and the delivery of the batch ends. -/
def cut : System :=
  play fails (.error lost)
    (List.replicate 40 (.task 0) ++ List.replicate 6 (.task 1) ++ List.replicate 4 (.task 2) ++
      List.replicate 4 (.task 1))

theorem fails_foreign (world : World) (op : Op) (exception : Exc) (failed : fails world op = some exception) :
    exception.isForeign = true := by
  unfold fails at failed
  split at failed
  · split at failed <;> cases failed
    rfl
  · cases failed

/-- Both results are delivered. -/
def whole : System :=
  play (fun _ _ => none) (.ok ())
    (List.replicate 40 (.task 0) ++ List.replicate 6 (.task 1) ++ List.replicate 8 (.task 2) ++
      List.replicate 8 (.task 3) ++ List.replicate 4 (.task 1))

theorem circuit_valid : Sample.circuit.validate = .ok () := rfl

def circuit : NativeGateIR := ⟨Sample.circuit, circuit_valid⟩

/-- The jobs of the batch. -/
def batch : List ParsedJob := [⟨"1-0", "first", "url", circuit, 10⟩, ⟨"2-0", "second", "url", circuit, 10⟩]

/-- What the executor returns for them. -/
def returned : List ExecutionResult := [Sample.result, Sample.result]

/-- Neither an exception of a task nor an interrupted `gather`. -/
def calm : Entry → Bool
  | .call _ (.taskDone _ (.error _)) _ _ => false
  | .call _ (.gather _) _ fate => fate = .answered
  | _ => true

theorem raisesLast_of_calm {log : List Entry} (all : log.all calm = true) : RaisesLast log := by
  have each := List.all_eq_true.mp all
  constructor
  · intro before entry after owner number other shape raised
    have quiet := each entry (by rw [shape]; simp)
    unfold raises at raised
    split at raised
    · cases quiet
    · cases raised
  · intro role numbers outcome fate member
    exact of_decide_eq_true (each _ member)

/-- A task for the second job has not ended. -/
def unfinished (record : TaskRecord) : Bool :=
  match record.spec with
  | .deliverSingle delivery => delivery.jobId ≠ "second" || record.outcome.isNone
  | .deliverBatch _ _ => true

end EarlyExit

open EarlyExit in
/-- One delivery raises: the delivery task of the batch has ended and the idle event is set, and the other delivery
is still on its way. -/
theorem deliverBatchResults_not_settled :
    ¬ ∀ (self : Consumer) (policy : Policy) (redis : Redis) (iterations : Nat) (system : System),
      Pool.Reaches (machine self policy) (Pool.single { redis := redis } .loop (consumeLoop self iterations)) system →
      ∀ (owner : Nat) (parsed : List ParsedJob) (results : List ExecutionResult) (outcome : Except Exc Unit),
        parsed.length = results.length → system.state.specs[owner]? = some (.deliverBatch parsed results) →
        system.state.outcomeOf owner = some outcome → system.state.attrs.idle = true →
        Settled self system.state owner parsed results := by
  intro claim
  have settled : Settled Sample.consumer cut.state 0 batch returned :=
    claim Sample.consumer .arbitrary (Sample.waiting jobs) 1 cut (play_reaches fails_foreign _) 0 batch returned
      (.error lost) rfl (by decide +kernel) (by decide +kernel) (by decide +kernel)
  obtain ⟨nowIso, deliveries, numbers, zipped, landed⟩ := settled
  cases zipped
  obtain ⟨first, rest, -, others, rfl⟩ := List.forall₂_cons_left_iff.mp landed
  obtain ⟨number, _, ⟨⟨-, created⟩, outcome, ended, -⟩, -, rfl⟩ := List.forall₂_cons_left_iff.mp others
  have still : cut.state.tasks.all unfinished = true := by decide +kernel
  obtain ⟨record, found, ending⟩ := Option.bind_eq_some_iff.mp ended
  rw [World.specs, List.getElem?_map, found] at created
  have running := List.all_eq_true.mp still record (List.mem_of_getElem? found)
  unfold unfinished at running
  rw [Option.some.inj created, ending] at running
  cases running

open EarlyExit in
/-- The result, for a batch whose deliveries both return. -/
theorem deliverBatchResults_settled_whole : RaisesLast whole.state.log ∧
    Settled Sample.consumer whole.state 0 batch returned := by
  have raisesLast : RaisesLast whole.state.log := raisesLast_of_calm (by decide +kernel)
  have reaches : Pool.Reaches (machine Sample.consumer .arbitrary)
      (Pool.single { redis := Sample.waiting jobs } .loop (consumeLoop Sample.consumer 1)) whole :=
    play_reaches (fun _ _ _ impossible => by cases impossible) _
  exact ⟨raisesLast, deliverBatchResults_settled Sample.consumer .arbitrary (Sample.waiting jobs) 1 whole
    reaches raisesLast 0 batch returned rfl (by decide +kernel) (.ok ()) (by decide +kernel)⟩

end CodaNode
