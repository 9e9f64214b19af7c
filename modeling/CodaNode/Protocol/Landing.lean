/-
Module: CodaNode.Protocol.Landing
Layer: Protocol
Purpose: What the delivery of a batch leaves behind. The main coroutine has ended by then, so the status of
  a job is one that some background task wrote, and only the tasks for single results send webhooks.
Imports: CodaNode.Protocol.Acceptance
Main exports: Crew.Landed, Crew.Led, BatchStage.landed, Crew.Account.origin
-/
import CodaNode.Protocol.Acceptance

namespace CodaNode

open Coroutine

namespace Crew

variable {L : Type} {self : Consumer} {policy : Policy} {flags : String → Bool}
variable {move : L → (op : Op) → Except Exc op.Reply → L → Prop}
variable {Sound : Option RunTask → L → Prop} {Course : L → List Deed → Prop}

/-- The status of a job that a background task has written is what one of the tasks has written. -/
def Landed (crew : Crew L) : Prop :=
  ∀ number jobId mapping, .wrote jobId mapping ∈ deeds (some number) crew.world.log →
    ∃ number' mapping', .wrote jobId mapping' ∈ deeds (some number') crew.world.log ∧
      mapping'.state ≠ none ∧ (crew.world.redis.status jobId).state = mapping'.state

/-- A write of a background task always sets the state. -/
theorem state_of_post {post later : Post} {jobId : String} {mapping : StatusHash}
    {outcome : Except Exc (Op.hset jobId mapping).Reply}
    (row : Post.Move self post (.hset jobId mapping) outcome later) : mapping.state ≠ none := by
  cases row with
  | gather row => cases row
  | single row => cases row <;> exact Option.some_ne_none _

/-- Writing a state sets it. -/
theorem state_of_merge {hash mapping : StatusHash} (sets : mapping.state ≠ none) :
    (hash.merge mapping).state = mapping.state := by
  cases state : mapping.state with
  | none => exact absurd state sets
  | some value => rw [StatusHash.merge, state]; rfl

theorem Landed.step (undisturbed : policy.Undisturbed) (sole : policy.Sole)
    (ended : ∀ {stage later jobId mapping outcome here}, move stage (.hset jobId mapping) outcome later →
      Course stage here → ∀ spec number, .created spec number ∉ here)
    {first second : Crew L} (step : Step self policy move first second)
    (account : Account self flags Sound Course first) (landed : Landed first) : Landed second := by
  cases step with
  | @env world next stage posts event allowed occurs =>
      intro number jobId mapping
      change .wrote jobId mapping ∈ deeds _ (next.record (.env event)).log →
        ∃ number' mapping', .wrote jobId mapping' ∈ deeds _ (next.record (.env event)).log ∧ _ ∧
          ((next.record (.env event)).redis.status jobId).state = _
      rw [deeds_of_occur occurs, World.record_redis, World.status_of_occur sole allowed occurs]
      intro member
      obtain ⟨number', mapping', there, sets, same⟩ := landed number jobId mapping member
      exact ⟨number', mapping', (deeds_of_occur occurs).symm ▸ there, sets, same⟩
  | @main world next stage later posts op outcome fate row performs =>
      intro number jobId mapping
      change .wrote jobId mapping ∈ deeds _ (next.recordCall .loop op outcome fate).log →
        ∃ number' mapping', .wrote jobId mapping' ∈ deeds _ (next.recordCall .loop op outcome fate).log ∧ _ ∧
          ((next.recordCall .loop op outcome fate).redis.status jobId).state = _
      have same (number : Nat) :
          deeds (some number) (next.recordCall .loop op outcome fate).log = deeds (some number) world.log :=
        deeds_of_other performs fun here => by cases here
      rw [same, World.recordCall_redis]
      intro member
      have calm : ∀ other written, op ≠ .hset other written := by
        rintro other written rfl
        have alone := account.alone fun spec number => ended row account.main spec number
        have none_ := account.fresh number (by rw [alone]; exact Nat.zero_le number)
        rw [show deeds (some number) world.log = [] from none_] at member
        cases member
      rw [World.status_of_performs performs calm]
      obtain ⟨number', mapping', there, sets, state⟩ := landed number jobId mapping member
      exact ⟨number', mapping', (same number').symm ▸ there, sets, state⟩
  | @post world next stage before after post later op outcome fate row performs =>
      intro number jobId mapping
      change .wrote jobId mapping ∈ deeds _ (next.recordCall post.role op outcome fate).log →
        ∃ number' mapping', .wrote jobId mapping' ∈ deeds _ (next.recordCall post.role op outcome fate).log ∧
          _ ∧ ((next.recordCall post.role op outcome fate).redis.status jobId).state = _
      have kept {number : Nat} {deed : Deed} (member : deed ∈ deeds (some number) world.log) :
          deed ∈ deeds (some number) (next.recordCall post.role op outcome fate).log := by
        by_cases here : post.role.seat = some number
        · rw [deeds_of_performs performs here]
          exact List.mem_append_left _ member
        · rw [deeds_of_other performs here]
          exact member
      rw [World.recordCall_redis]
      intro member
      by_cases writes : ∃ written, op = .hset jobId written
      · obtain ⟨written, rfl⟩ := writes
        obtain ⟨rfl, -, rfl⟩ := World.hset_answered undisturbed performs
        have sets : written.state ≠ none := state_of_post row
        refine ⟨post.number, written.timeless, ?_, sets, ?_⟩
        · rw [deeds_of_performs performs (show post.role.seat = some post.number from rfl)]
          exact List.mem_append_right _ (List.mem_singleton_self _)
        · change ((world.redis.writeStatus jobId written).status jobId).state = _
          rw [Redis.writeStatus_same, state_of_merge sets]
          rfl
      · have old : .wrote jobId mapping ∈ deeds (some number) world.log := by
          by_cases here : post.role.seat = some number
          · rw [deeds_of_performs performs here] at member
            rcases List.mem_append.mp member with old | new
            · exact old
            · obtain ⟨written, same⟩ := Op.deed_wrote (Option.mem_toList.mp new)
              exact absurd ⟨written, same⟩ writes
          · rw [deeds_of_other performs here] at member
            exact member
        obtain ⟨number', mapping', there, sets, state⟩ := landed number jobId mapping old
        refine ⟨number', mapping', kept there, sets, ?_⟩
        by_cases other : ∃ job written, op = .hset job written
        · obtain ⟨job, written, rfl⟩ := other
          obtain ⟨rfl, -, rfl⟩ := World.hset_answered undisturbed performs
          have distinct : jobId ≠ job := by
            rintro rfl
            exact writes ⟨written, rfl⟩
          change ((world.redis.writeStatus job written).status jobId).state = _
          rw [Redis.writeStatus_other _ _ distinct]
          exact state
        · rw [World.status_of_performs performs fun job written same => other ⟨job, written, same⟩]
          exact state

/-- The main coroutine has done its part before any background task. -/
def Led (crew : Crew L) : Prop := deeds none crew.world.log <+: chronicle crew.world.log

theorem Led.step {first second : Crew L} (step : Step self policy move first second)
    (account : Account self flags Sound Course first)
    (ended : ∀ {stage op outcome later here}, move stage op outcome later →
      Course stage here → ∀ spec number, .created spec number ∉ here) (led : Led first) : Led second := by
  cases step with
  | env allowed occurs =>
      change deeds none (World.record _ _).log <+: chronicle (World.record _ _).log
      rw [deeds_of_occur occurs, chronicle_of_occur occurs]
      exact led
  | @main world next stage later posts op outcome fate row performs =>
      have alone := account.chronicle_eq fun spec number => ended row account.main spec number
      have same : deeds none (next.recordCall .loop op outcome fate).log =
          chronicle (next.recordCall .loop op outcome fate).log := by
        rw [deeds_of_performs performs (show Role.loop.seat = none from rfl), chronicle_of_performs performs, alone]
      exact ⟨[], (List.append_nil _).trans same⟩
  | @post world next stage before after post later op outcome fate row performs =>
      change deeds none (World.recordCall _ _ _ _ _).log <+: chronicle (World.recordCall _ _ _ _ _).log
      rw [deeds_of_other performs (show post.role.seat ≠ none from Option.some_ne_none _),
        chronicle_of_performs performs]
      exact led.trans (List.prefix_append _ _)

/-- Background tasks create tasks for single results, or deliver a result of a batch that was handed over. -/
theorem Account.origin {crew : Crew L} (account : Account self flags Sound Course crew)
    (apart : ∀ delivery number, .created (.deliverSingle delivery) number ∉ deeds none crew.world.log)
    {number : Nat} {deed : Deed} (member : deed ∈ deeds (some number) crew.world.log) :
    (∃ delivery number, deed = .created (.deliverSingle delivery) number) ∨
      ∃ parsed results batch nowIso deliveries delivery,
        .created (.deliverBatch parsed results) batch ∈ deeds none crew.world.log ∧
          zipStrict parsed results nowIso = .ok deliveries ∧ delivery ∈ deliveries ∧
          deed.OfDelivery delivery := by
  obtain ⟨post, inPosts, rfl⟩ := account.post_of_deed member
  have course := account.posts post inPosts
  cases post with
  | gather _ parsed results stage =>
      exact .inl (GatherStage.Course.deed_eq (show stage.Course _ parsed results _ from course) _ member)
  | single number delivery stage =>
      obtain ⟨parsed, results, batch, nowIso, deliveries, created, zipped, inside⟩ :=
        account.single_origin inPosts apart
      exact .inr ⟨parsed, results, batch, nowIso, deliveries, delivery, created, zipped, inside,
        (show SingleStage.Course self delivery stage _ from course).ofDelivery _ member⟩

end Crew

/-- While the flags do not change, the jobs of the batch are those that are accepted. -/
theorem BatchStage.Marked.eq_accepted {self : Consumer} {redis : Redis} {messages : List StreamMessage}
    {parsed : List ParsedJob} {before all : List Deed}
    (marked : Marked self redis.cancelled messages parsed before) (early : before <+: all)
    (truthful : (Ledger.opening redis).Truthful all)
    (constant : ∀ jobId, .flagged jobId ∈ all → redis.cancelled jobId = true) :
    parsed = messages.filterMap (StreamMessage.accepted self redis) := by
  obtain ⟨rest, rfl⟩ := early
  cases marked with
  | mk sifted some_ =>
      rw [List.append_assoc, ← List.singleton_append, List.append_assoc] at truthful
      have inner := (Ledger.Truthful.append_iff.mp truthful).2
      refine sifted.eq_accepted (Ledger.Truthful.append_iff.mp inner).1 ?_
      intro jobId inside
      exact constant jobId (by simp [inside])

/-- The account of a batch, and what its delivery leaves behind. -/
theorem BatchStage.landed {self : Consumer} {policy : Policy} (undisturbed : policy.Undisturbed)
    (sole : policy.Sole) {redis : Redis} {messages : List StreamMessage} {system : System}
    (reaches : Pool.Reaches (machine self policy)
      (Pool.single { redis := redis } .loop (discard (processBatch self messages))) system) :
    ∃ crew, Crew.Stands self policy (BatchStage.Move self messages) BatchStage.Over .called system crew ∧
      Crew.Account self redis.cancelled (fun runTask stage => stage.Sound runTask)
        (BatchStage.Course self redis.cancelled messages) crew ∧ crew.Led ∧ crew.Landed := by
  have ended : ∀ {stage op outcome later here}, BatchStage.Move self messages stage op outcome later →
      BatchStage.Course self redis.cancelled messages stage here →
        ∀ spec number, .created spec number ∉ here := by
    intro stage op outcome later here row course spec number member
    obtain ⟨-, -, -, -, -, rfl, -⟩ := course.handed_of_created member
    cases row with
    | clock inside => exact inside _ rfl
  refine Crew.Account.reaches_with undisturbed (BatchStage.accountable undisturbed messages)
    BatchStage.follows RunAtRest.none .called (fun step account held => ?_)
    ⟨List.prefix_refl _, fun number jobId mapping member => by cases member⟩ reaches
  exact ⟨Crew.Led.step step account ended held.1,
    held.2.step undisturbed sole (fun row course => ended row course) step account⟩

end CodaNode
