/-
Module: CodaNode.Protocol.Grounds
Layer: Protocol
Purpose: The grounds of a status write. Whatever task writes the status of a job, the main coroutine has
  looked the job up before and found it neither completed nor cancelled. Together with the account of a
  run it follows that nobody writes the status of a job that was settled when the run began.
Imports: CodaNode.Protocol.Alone, Mathlib.Data.List.Induction
Main exports: Grounded, Grounded.settled, Crew.Grounding, Crew.Settled
-/
import CodaNode.Protocol.Alone
import Mathlib.Data.List.Induction

namespace CodaNode

open Coroutine

/-- The job has been looked up and may be taken on. -/
def LookedUp (deeds : List Deed) (jobId : String) : Prop :=
  ∃ state, .saw jobId state ∈ deeds ∧ Unsettled state

theorem LookedUp.mono {deeds more : List Deed} (within : ∀ deed ∈ deeds, deed ∈ more) {jobId : String}
    (looked : LookedUp deeds jobId) : LookedUp more jobId := by
  obtain ⟨state, member, unsettled⟩ := looked
  exact ⟨state, within _ member, unsettled⟩

/-- Every status write comes after such a look-up. -/
def Grounded (deeds : List Deed) : Prop :=
  ∀ before jobId mapping rest, deeds = before ++ .wrote jobId mapping :: rest → LookedUp before jobId

namespace Grounded

theorem nil : Grounded [] := by
  intro before jobId mapping rest split
  cases before <;> cases split

theorem snoc {deeds : List Deed} {deed : Deed} (grounded : Grounded deeds)
    (grounds : ∀ jobId mapping, deed = .wrote jobId mapping → LookedUp deeds jobId) :
    Grounded (deeds ++ [deed]) := by
  intro before jobId mapping rest split
  rcases List.eq_nil_or_concat rest with rfl | ⟨front, last, rfl⟩
  · obtain ⟨rfl, same⟩ := List.append_inj' split rfl
    exact grounds jobId mapping (List.cons.inj same).1
  · rw [List.concat_eq_append, ← List.cons_append, ← List.append_assoc] at split
    obtain ⟨rfl, -⟩ := List.append_inj' split rfl
    exact grounded before jobId mapping front rfl

theorem of_append {deeds more : List Deed} (grounded : Grounded (deeds ++ more)) : Grounded deeds := by
  rintro before jobId mapping rest rfl
  exact grounded before jobId mapping (rest ++ more) (by simp)

end Grounded

namespace Ledger

/-- What is not written stays. -/
theorem status_of_unwritten {deeds : List Deed} {jobId : String}
    (unwritten : ∀ mapping, .wrote jobId mapping ∉ deeds) (ledger : Ledger) :
    (ledger.after deeds).status jobId = ledger.status jobId := by
  induction deeds generalizing ledger with
  | nil => rfl
  | cons deed rest inductionHypothesis =>
      rw [after_cons, inductionHypothesis fun mapping member =>
        unwritten mapping (List.mem_cons_of_mem deed member)]
      cases deed with
      | wrote other mapping =>
          have distinct : jobId ≠ other := by
            rintro rfl
            exact unwritten mapping List.mem_cons_self
          exact ledger.write_other mapping distinct
      | _ => rfl

/-- A look-up of an unwritten job finds the state it had. -/
theorem Truthful.of_unwritten {ledger : Ledger} {deeds : List Deed} (truthful : ledger.Truthful deeds)
    {jobId : String} (unwritten : ∀ mapping, .wrote jobId mapping ∉ deeds) {state : Option JobState}
    (member : .saw jobId state ∈ deeds) : state = (ledger.status jobId).state := by
  obtain ⟨before, rest, rfl⟩ := List.append_of_mem member
  rw [truthful before jobId state rest rfl, status_of_unwritten]
  exact fun mapping inside => unwritten mapping (List.mem_append_left _ inside)

end Ledger

/-- Nobody writes the status of a settled job. -/
theorem Grounded.settled {ledger : Ledger} {deeds : List Deed} (grounded : Grounded deeds)
    (truthful : ledger.Truthful deeds) {jobId : String} (settled : ¬ Unsettled (ledger.status jobId).state) :
    ∀ mapping, .wrote jobId mapping ∉ deeds := by
  induction deeds using List.reverseRecOn with
  | nil => exact fun _ member => by cases member
  | append_singleton deeds last inductionHypothesis =>
      have earlier := inductionHypothesis grounded.of_append (Ledger.Truthful.append_iff.mp truthful).1
      intro mapping member
      rcases List.mem_append.mp member with old | new
      · exact earlier mapping old
      · obtain ⟨state, seen, unsettled⟩ :=
          grounded deeds jobId mapping [] (by rw [List.mem_singleton.mp new])
        have same := (Ledger.Truthful.append_iff.mp truthful).1.of_unwritten earlier seen
        exact settled (same ▸ unsettled)

/-! ### One message -/

namespace Stage

variable {self : Consumer} {flags : String → Bool} {message : StreamMessage} {here : List Deed}

theorem Picked.lookedUp (picked : Picked message here) : LookedUp here message.job.jobId := by
  cases picked with
  | mk reading unsettled => exact ⟨_, by simp, unsettled⟩

theorem Taken.lookedUp (taken : Taken self flags message here) : LookedUp here message.job.jobId := by
  cases taken with
  | mk picked => exact picked.lookedUp.mono (by simp +contextual)

theorem Launched.lookedUp (launched : Launched self flags message here) :
    LookedUp here message.job.jobId := by
  cases launched with
  | mk taken => exact taken.lookedUp.mono (by simp +contextual)

theorem Returned.lookedUp {result : ExecutionResult} (returned : Returned self flags message result here) :
    LookedUp here message.job.jobId := by
  cases returned with
  | mk launched => exact launched.lookedUp.mono (by simp +contextual)

theorem Struck.lookedUp (struck : Struck self flags message here) : LookedUp here message.job.jobId := by
  cases struck with
  | polled launched => exact launched.lookedUp.mono (by simp +contextual)
  | returned returned | completed returned => exact returned.lookedUp.mono (by simp +contextual)

theorem Broken.lookedUp {exception : Exc} (broken : Broken self flags message exception here) :
    LookedUp here message.job.jobId := by
  cases broken with
  | unparsed taken => exact taken.lookedUp
  | raised launched => exact launched.lookedUp.mono (by simp +contextual)
  | undelivered returned => exact returned.lookedUp.mono (by simp +contextual)

/-- A write of one call is about its job, which was looked up. -/
theorem Move.grounds {stage later : Stage} {jobId : String} {mapping : StatusHash}
    {outcome : Except Exc (Op.hset jobId mapping).Reply}
    (row : Move self message message.job stage (.hset jobId mapping) outcome later)
    (course : Course self flags message stage here) : LookedUp here jobId := by
  cases row with
  | drop =>
      cases course with
      | drop picked => exact picked.lookedUp.mono (by simp +contextual)
  | takeOn =>
      cases course with
      | takeOn picked => exact picked.lookedUp
  | complete =>
      cases course with
      | complete returned => exact returned.lookedUp
  | mark =>
      cases course with
      | mark struck => exact struck.lookedUp
      | markLate broken => exact broken.lookedUp.mono (by simp +contextual)
  | recordFailure =>
      cases course with
      | recordFailure broken => exact broken.lookedUp

end Stage

/-! ### A batch -/

/-- Every accepted job was looked up. -/
theorem Sifted.lookedUp {self : Consumer} {flags : String → Bool} {done : List StreamMessage}
    {parsed : List ParsedJob} {here : List Deed} (sifted : Sifted self flags done parsed here) :
    ∀ job ∈ parsed, LookedUp here job.jobId := by
  induction sifted with
  | nil => exact fun job member => by cases member
  | passed _ _ inductionHypothesis =>
      intro job member
      exact (inductionHypothesis job member).mono (by simp +contextual)
  | @accepted _ message _ _ state _ _ _ reading unsettled _ _ inductionHypothesis =>
      intro job member
      rcases List.mem_append.mp member with old | new
      · exact (inductionHypothesis job old).mono (by simp +contextual)
      · rw [List.mem_singleton.mp new]
        exact ⟨state, List.mem_append_right _ List.mem_cons_self, unsettled⟩

namespace BatchStage

variable {self : Consumer} {flags : String → Bool} {messages : List StreamMessage} {here : List Deed}

theorem Marked.lookedUp {parsed : List ParsedJob} (marked : Marked self flags messages parsed here) :
    ∀ job ∈ parsed, LookedUp here job.jobId := by
  cases marked with
  | mk sifted some_ =>
      intro job member
      exact (sifted.lookedUp job member).mono (by simp +contextual)

theorem Move.grounds {stage later : BatchStage} {jobId : String} {mapping : StatusHash}
    {outcome : Except Exc (Op.hset jobId mapping).Reply}
    (row : Move self messages stage (.hset jobId mapping) outcome later)
    (course : Course self flags messages stage here) : LookedUp here jobId := by
  cases row with
  | drop =>
      cases course with
      | drop split sifted reading unsettled => exact ⟨_, by simp, unsettled⟩
  | mark =>
      cases course with
      | mark sifted split => exact (sifted.lookedUp _ (by rw [split]; simp)).mono (by simp +contextual)
  | process row =>
      cases course with
      | process marked attempted split replayed course =>
          exact (row.grounds course).mono (by simp +contextual)

end BatchStage

/-! ### A crew -/

namespace Crew

variable {L : Type} {self : Consumer} {policy : Policy} {flags : String → Bool}
variable {move : L → (op : Op) → Except Exc op.Reply → L → Prop}
variable {Sound : Option RunTask → L → Prop} {Course : L → List Deed → Prop}

/-- The main coroutine writes the status of jobs it has looked up, and hands over such jobs. -/
structure Grounding (move : L → (op : Op) → Except Exc op.Reply → L → Prop)
    (Course : L → List Deed → Prop) : Prop where
  grounds : ∀ {stage later here jobId mapping outcome}, move stage (.hset jobId mapping) outcome later →
    Course stage here → LookedUp here jobId
  hires : ∀ {stage here spec number}, Course stage here → .created spec number ∈ here →
    ∃ parsed results, spec = .deliverBatch parsed results ∧ ∀ job ∈ parsed, LookedUp here job.jobId

/-- A task for one result is about a job that was looked up. -/
theorem Account.single_lookedUp (grounding : Grounding move Course) {crew : Crew L}
    (account : Account self flags Sound Course crew) {number : Nat} {delivery : Delivery}
    {stage : SingleStage} (member : .single number delivery stage ∈ crew.posts) :
    LookedUp (deeds none crew.world.log) delivery.jobId := by
  have apart : ∀ delivery number, .created (.deliverSingle delivery) number ∉ deeds none crew.world.log := by
    intro other number created
    obtain ⟨parsed, results, same, -⟩ := grounding.hires account.main created
    cases same
  obtain ⟨parsed, results, batch, nowIso, deliveries, created, zipped, inside⟩ :=
    account.single_origin member apart
  obtain ⟨parsed', results', same, looked⟩ := grounding.hires account.main created
  cases same
  obtain ⟨job, listed, result, -, rfl⟩ := job_of_zipStrict zipped inside
  exact looked job listed

theorem mem_chronicle_of_deeds {log : List Entry} {seat : Option Nat} :
    ∀ deed ∈ deeds seat log, deed ∈ chronicle log := fun _ member => did_iff.mp ⟨seat, member⟩

theorem Grounded.step (grounding : Grounding move Course) {first second : Crew L}
    (step : Step self policy move first second) (account : Account self flags Sound Course first)
    (grounded : Grounded (chronicle first.world.log)) : Grounded (chronicle second.world.log) := by
  -- the deed of a row is grounded if a write of the row is
  have added {world next : World} {role : Role} {op : Op} {outcome : Except Exc op.Reply} {fate : Fate}
      (grounded : Grounded (chronicle world.log)) (performs : World.Performs policy world op outcome fate next)
      (grounds : ∀ jobId mapping, op = .hset jobId mapping → LookedUp (chronicle world.log) jobId) :
      Grounded (chronicle (next.recordCall role op outcome fate).log) := by
    rw [chronicle_of_performs performs]
    cases deed : op.deed outcome with
    | none =>
        rw [Option.toList_none, List.append_nil]
        exact grounded
    | some done =>
        refine grounded.snoc fun jobId mapping same => ?_
        rw [same] at deed
        obtain ⟨written, here⟩ := Op.deed_wrote deed
        exact grounds jobId written here
  cases step with
  | env _ occurs =>
      change Grounded (chronicle (World.record _ _).log)
      rw [chronicle_of_occur occurs]
      exact grounded
  | @main world next stage later posts op outcome fate row performs =>
      refine added grounded performs ?_
      rintro jobId mapping rfl
      exact (grounding.grounds row account.main).mono mem_chronicle_of_deeds
  | @post world next stage before after post later op outcome fate row performs =>
      refine added grounded performs ?_
      rintro jobId mapping rfl
      cases row with
      | gather row => cases row
      | @single number delivery stage _ _ _ row =>
          have looked : LookedUp (deeds none world.log) delivery.jobId :=
            Account.single_lookedUp grounding account (List.mem_append_right before List.mem_cons_self)
          have about : jobId = delivery.jobId := by cases row <;> rfl
          rw [about]
          exact looked.mono mem_chronicle_of_deeds

/-- The account holds, every write is grounded, and the books agree with Redis. -/
structure Settled (ledger : Ledger) (crew : Crew L) : Prop where
  grounded : Grounded (chronicle crew.world.log)
  agrees : ledger.Agrees crew.world

theorem Settled.step (undisturbed : policy.Undisturbed) (sole : policy.Sole)
    (grounding : Grounding move Course) {ledger : Ledger} {first second : Crew L}
    (step : Step self policy move first second) (account : Account self flags Sound Course first)
    (settled : Settled ledger first) : Settled ledger second where
  grounded := Grounded.step grounding step account settled.grounded
  agrees := by
    cases step with
    | env allowed occurs => exact settled.agrees.occur sole allowed occurs
    | main _ performs | post _ performs => exact settled.agrees.performs undisturbed performs

theorem Settled.start {redis : Redis} {start : L} :
    Settled (.opening redis) (⟨{ redis := redis }, start, []⟩ : Crew L) :=
  ⟨Grounded.nil, fun _ => rfl, Ledger.Truthful.nil _⟩

/-- A job that was settled in the beginning is not written, so it keeps its state. -/
theorem Settled.unwritten {redis : Redis} {crew : Crew L} (settled : Settled (.opening redis) crew)
    {jobId : String} (final : ¬ Unsettled (redis.status jobId).state) :
    ∀ mapping, .wrote jobId mapping ∉ chronicle crew.world.log :=
  settled.grounded.settled settled.agrees.2 final

/-- A look-up of such a job finds it settled. -/
theorem Settled.saw {redis : Redis} {crew : Crew L} (settled : Settled (.opening redis) crew)
    {jobId : String} {state : Option JobState} (seen : .saw jobId state ∈ chronicle crew.world.log)
    (unsettled : Unsettled state) : Unsettled (redis.status jobId).state := by
  by_contra final
  have same := settled.agrees.2.of_unwritten (settled.unwritten final) seen
  exact final (same ▸ unsettled)

end Crew

theorem Stage.grounding {self : Consumer} {flags : String → Bool} {message : StreamMessage} :
    Crew.Grounding (Stage.Move self message message.job) (Stage.Course self flags message) where
  grounds row course := Stage.Move.grounds row course
  hires course created := absurd created course.not_created

theorem BatchStage.grounding {self : Consumer} {flags : String → Bool} {messages : List StreamMessage} :
    Crew.Grounding (BatchStage.Move self messages) (BatchStage.Course self flags messages) where
  grounds row course := BatchStage.Move.grounds row course
  hires course created := by
    obtain ⟨parsed, results, before, marked, rfl, -, rfl⟩ := course.handed_of_created created
    exact ⟨parsed, results, rfl, fun job member =>
      (marked.lookedUp job member).mono fun deed inside => List.mem_append_left _ inside⟩

end CodaNode
