/-
Module: CodaNode.Server.Undisturbed
Layer: Server
Purpose: Surroundings in which only the commands that fetch messages can fail. Every other operation is
  answered, and this module says with what.
Imports: CodaNode.Server.Log, CodaNode.Server.System
Main exports: Op.fetches, Policy.Undisturbed, hset_answered, xack_answered, getCancelled_answered
-/
import CodaNode.Server.Log
import CodaNode.Server.System

namespace CodaNode

open Coroutine

/-- The commands with which the consumer obtains messages. -/
def Op.fetches : Op → Bool
  | .xgroupCreate | .xpendingRange _ _ | .xrange _ | .xreadgroup _ _ => true
  | _ => false

/-- Nothing else fails from outside, and what fails raises an `Exception`. -/
structure Policy.Undisturbed (policy : Policy) : Prop where
  fetches : ∀ {op exception}, policy.fault op exception → op.fetches = true
  ordinary : ∀ {op exception}, policy.fault op exception → exception.isException = true

/-- Nothing fails from outside. -/
def Policy.Calm (policy : Policy) : Prop := ∀ op exception, ¬ policy.fault op exception

theorem Policy.Calm.undisturbed {policy : Policy} (calm : policy.Calm) : policy.Undisturbed where
  fetches admitted := (calm _ _ admitted).elim
  ordinary admitted := (calm _ _ admitted).elim

/-- Nothing fails, and the surroundings may do anything. -/
def Policy.healthy : Policy where
  fault _ _ := False
  env _ := True

namespace World

variable {policy : Policy} {world next : World} {fate : Fate}

theorem answered_of_performs (undisturbed : policy.Undisturbed) {op : Op}
    {outcome : Except Exc op.Reply} (performs : Performs policy world op outcome fate next)
    (other : op.fetches = false) :
    fate = .answered ∧ policy.reply op outcome ∧ world.effect op outcome = some next := by
  cases performs with
  | answered admitted effect => exact ⟨rfl, admitted, effect⟩
  | lost _ admitted =>
      rw [undisturbed.fetches admitted] at other
      cases other
  | executed _ admitted =>
      rw [undisturbed.fetches admitted] at other
      cases other

/-- While nothing fails, every operation is answered. -/
theorem answered_of_calm (calm : policy.Calm) {op : Op} {outcome : Except Exc op.Reply}
    (performs : Performs policy world op outcome fate next) :
    fate = .answered ∧ policy.reply op outcome ∧ world.effect op outcome = some next := by
  cases performs with
  | answered admitted effect => exact ⟨rfl, admitted, effect⟩
  | lost _ admitted => exact (calm _ _ admitted).elim
  | executed _ admitted => exact (calm _ _ admitted).elim

theorem xpendingRange_answered (calm : policy.Calm) {consumer : String} {count : Nat}
    {outcome : Except Exc (List String)}
    (performs : Performs policy world (.xpendingRange consumer count) outcome fate next) :
    outcome = .ok ((world.redis.pendingOf consumer).take count) ∧ fate = .answered ∧ next = world := by
  obtain ⟨rfl, -, effect⟩ := answered_of_calm calm performs
  cases outcome with
  | ok ids =>
      simp only [World.effect] at effect
      split at effect
      · rename_i same
        cases effect
        exact ⟨by rw [same], rfl, rfl⟩
      · cases effect
  | error exception => cases effect

theorem xrange_answered (calm : policy.Calm) {messageId : String}
    {outcome : Except Exc (List StreamMessage)}
    (performs : Performs policy world (.xrange messageId) outcome fate next) :
    outcome = .ok (world.redis.stream.filter fun message => message.messageId = messageId) ∧
      fate = .answered ∧ next = world := by
  obtain ⟨rfl, -, effect⟩ := answered_of_calm calm performs
  cases outcome with
  | ok messages =>
      simp only [World.effect] at effect
      split at effect
      · rename_i same
        cases effect
        exact ⟨by rw [same], rfl, rfl⟩
      · cases effect
  | error exception => cases effect

theorem hset_answered (undisturbed : policy.Undisturbed) {jobId : String} {mapping : StatusHash}
    {outcome : Except Exc Unit} (performs : Performs policy world (.hset jobId mapping) outcome fate next) :
    outcome = .ok () ∧ fate = .answered ∧
      next = { world with redis := world.redis.writeStatus jobId mapping } := by
  obtain ⟨rfl, -, effect⟩ := answered_of_performs undisturbed performs rfl
  cases outcome with
  | ok value => cases effect; exact ⟨rfl, rfl, rfl⟩
  | error exception => cases effect

theorem xack_answered (undisturbed : policy.Undisturbed) {messageId : String}
    {outcome : Except Exc Unit} (performs : Performs policy world (.xack messageId) outcome fate next) :
    outcome = .ok () ∧ fate = .answered ∧
      next = { world with redis := world.redis.acknowledge messageId } := by
  obtain ⟨rfl, -, effect⟩ := answered_of_performs undisturbed performs rfl
  cases outcome with
  | ok value => cases effect; exact ⟨rfl, rfl, rfl⟩
  | error exception => cases effect

theorem hgetState_answered (undisturbed : policy.Undisturbed) {jobId : String}
    {outcome : Except Exc (Option JobState)}
    (performs : Performs policy world (.hgetState jobId) outcome fate next) :
    outcome = .ok (world.redis.status jobId).state ∧ fate = .answered ∧ next = world := by
  obtain ⟨rfl, -, effect⟩ := answered_of_performs undisturbed performs rfl
  cases outcome with
  | ok state =>
      simp only [World.effect] at effect
      split at effect
      · rename_i same
        cases effect
        exact ⟨by rw [same], rfl, rfl⟩
      · cases effect
  | error exception => cases effect

theorem getCancelled_answered (undisturbed : policy.Undisturbed) {jobId : String}
    {outcome : Except Exc Bool}
    (performs : Performs policy world (.getCancelled jobId) outcome fate next) :
    outcome = .ok (world.redis.cancelled jobId) ∧ fate = .answered ∧ next = world := by
  obtain ⟨rfl, -, effect⟩ := answered_of_performs undisturbed performs rfl
  cases outcome with
  | ok flag =>
      simp only [World.effect] at effect
      split at effect
      · rename_i same
        cases effect
        exact ⟨by rw [same], rfl, rfl⟩
      · cases effect
  | error exception => cases effect

theorem createRun_answered (undisturbed : policy.Undisturbed) {jobId : String} {ir : NativeGateIR}
    {shots : Int} {outcome : Except Exc Unit}
    (performs : Performs policy world (.createRun jobId ir shots) outcome fate next) :
    outcome = .ok () ∧ fate = .answered ∧ next = { world with runTask := some { jobId := jobId } } := by
  obtain ⟨rfl, -, effect⟩ := answered_of_performs undisturbed performs rfl
  cases outcome with
  | ok value => cases effect; exact ⟨rfl, rfl, rfl⟩
  | error exception => cases effect

/-- `asyncio.wait` and `done()` look at the executor task. -/
theorem waitRun_answered (undisturbed : policy.Undisturbed) {outcome : Except Exc Bool}
    (performs : Performs policy world .waitRun outcome fate next) :
    next = world ∧ fate = .answered ∧
      ∃ run, world.runTask = some run ∧ outcome = .ok run.outcome.isSome := by
  obtain ⟨rfl, -, effect⟩ := answered_of_performs undisturbed performs rfl
  cases outcome with
  | ok done =>
      simp only [World.effect] at effect
      split at effect
      · rename_i same
        cases effect
        obtain ⟨run, found, rfl⟩ := Option.map_eq_some_iff.mp same
        exact ⟨rfl, rfl, run, found, rfl⟩
      · cases effect
  | error exception => cases effect

theorem runDone_answered (undisturbed : policy.Undisturbed) {outcome : Except Exc Bool}
    (performs : Performs policy world .runDone outcome fate next) :
    next = world ∧ fate = .answered ∧
      ∃ run, world.runTask = some run ∧ outcome = .ok run.outcome.isSome := by
  obtain ⟨rfl, -, effect⟩ := answered_of_performs undisturbed performs rfl
  cases outcome with
  | ok done =>
      simp only [World.effect] at effect
      split at effect
      · rename_i same
        cases effect
        obtain ⟨run, found, rfl⟩ := Option.map_eq_some_iff.mp same
        exact ⟨rfl, rfl, run, found, rfl⟩
      · cases effect
  | error exception => cases effect

theorem awaitRun_answered (undisturbed : policy.Undisturbed) {outcome : Except Exc ExecutionResult}
    (performs : Performs policy world .awaitRun outcome fate next) :
    next = world ∧ fate = .answered ∧
      ∃ run, world.runTask = some run ∧ run.outcome = some outcome := by
  obtain ⟨rfl, -, effect⟩ := answered_of_performs undisturbed performs rfl
  simp only [World.effect] at effect
  split at effect
  · rename_i same
    cases effect
    obtain ⟨run, found, ended⟩ := Option.bind_eq_some_iff.mp same
    exact ⟨rfl, rfl, run, found, ended⟩
  · cases effect

theorem cancelRun_answered (undisturbed : policy.Undisturbed) {outcome : Except Exc Unit}
    (performs : Performs policy world .cancelRun outcome fate next) :
    outcome = .ok () ∧ fate = .answered ∧
      next =
        { world with
          runTask := world.runTask.map fun run => { run with cancelRequested := true } } := by
  obtain ⟨rfl, -, effect⟩ := answered_of_performs undisturbed performs rfl
  cases outcome with
  | ok value => cases effect; exact ⟨rfl, rfl, rfl⟩
  | error exception => cases effect

/-- The calls out of the consumer: they change nothing here, and what they raise is an `Exception`. -/
theorem outward_answered (undisturbed : policy.Undisturbed) {op : Op}
    {outcome : Except Exc op.Reply} (performs : Performs policy world op outcome fate next)
    (outward : op = .cancelCurrentJob ∨ (∃ jobs, op = .batchRun jobs) ∨
      (∃ url payload, op = .sendResult url payload) ∨ ∃ url jobId error, op = .sendError url jobId error) :
    next = world ∧ fate = .answered ∧ policy.reply op outcome ∧
      ∀ exception, outcome = .error exception → exception.isOrdinary = true := by
  rcases outward with rfl | ⟨jobs, rfl⟩ | ⟨url, payload, rfl⟩ | ⟨url, jobId, error, rfl⟩
  all_goals
    obtain ⟨rfl, admitted, effect⟩ := answered_of_performs undisturbed performs rfl
    cases outcome with
    | ok value =>
        cases effect
        exact ⟨rfl, rfl, admitted, fun _ same => by cases same⟩
    | error exception =>
        simp only [World.effect] at effect
        split at effect
        · rename_i ordinary
          cases effect
          refine ⟨rfl, rfl, admitted, fun _ same => ?_⟩
          cases same
          exact ordinary
        · cases effect

theorem awaitTask_answered (undisturbed : policy.Undisturbed) {number : Nat}
    {outcome : Except Exc Unit} (performs : Performs policy world (.awaitTask number) outcome fate next) :
    next = world ∧ fate = .answered ∧ world.outcomeOf number = some outcome := by
  obtain ⟨rfl, -, effect⟩ := answered_of_performs undisturbed performs rfl
  simp only [World.effect] at effect
  split at effect
  · rename_i same
    cases effect
    exact ⟨rfl, rfl, same⟩
  · cases effect

theorem gather_answered (undisturbed : policy.Undisturbed) {numbers : List Nat}
    {outcome : Except Exc Unit} (performs : Performs policy world (.gather numbers) outcome fate next) :
    next = world ∧ fate = .answered ∧
      ((outcome = .ok () ∧ ∀ number ∈ numbers, world.outcomeOf number = some (.ok ())) ∨
        ∃ exception, outcome = .error exception ∧
          ∃ number ∈ numbers, world.outcomeOf number = some (.error exception)) := by
  obtain ⟨rfl, -, effect⟩ := answered_of_performs undisturbed performs rfl
  cases outcome with
  | ok value =>
      simp only [World.effect] at effect
      split at effect
      · rename_i all
        cases effect
        exact ⟨rfl, rfl, .inl ⟨rfl, all⟩⟩
      · cases effect
  | error exception =>
      simp only [World.effect] at effect
      split at effect
      · rename_i failed
        cases effect
        exact ⟨rfl, rfl, .inr ⟨exception, rfl, failed⟩⟩
      · cases effect

/-- Every operation in the log was answered as the policy admits. -/
theorem replied_of_reaches {self : Consumer} (undisturbed : policy.Undisturbed) {first second : System}
    (fresh : first.state.log = []) (reaches : Pool.Reaches (machine self policy) first second)
    {role : Role} {op : Op} {outcome : Except Exc op.Reply} {fate : Fate}
    (member : .call role op outcome fate ∈ second.state.log) (other : op.fetches = false) :
    policy.reply op outcome := by
  let holds (world : World) : Prop := ∀ entry ∈ world.log, ∀ role op outcome fate,
    entry = .call role op outcome fate → op.fetches = false → policy.reply op outcome
  have start : holds first.state := by
    intro entry inLog
    rw [fresh] at inLog
    cases inLog
  have end_ : holds second.state := by
    refine World.of_reaches ?_ ?_ start reaches
    · intro world event next _ occurs here
      change ∀ entry ∈ (next.record (.env event)).log, _
      rw [World.record_log, World.log_of_occur occurs]
      exact forall_snoc here fun _ _ _ _ same => by cases same
    · intro world role op outcome fate next performs here
      change ∀ entry ∈ (next.recordCall role op outcome fate).log, _
      rw [World.recordCall_log_of_performs role performs]
      split
      · refine forall_snoc here ?_
        rintro role' op' outcome' fate' ⟨⟩ other
        exact (answered_of_performs undisturbed performs other).2.1
      · exact here
  exact end_ _ member role op outcome fate rfl other

end World

end CodaNode
