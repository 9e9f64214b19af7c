/-
Module: CodaNode.Proofs.OutageReporting
Layer: Proofs
Purpose: What becomes of a job when Redis loses connections while it executes. Status writes and the
  acknowledgement survive a lost connection; the reads of the cancellation flag do not, and one that
  fails before a webhook was called decides the outcome.
Imports: CodaNode.Protocol.Message, CodaNode.Server.Log
Main exports: Policy.outage, OutcomeReported, FlagReadsSucceed, outcomeReported_iff
-/
import CodaNode.Protocol.Message
import CodaNode.Server.Log

namespace CodaNode

open Coroutine

/-- Redis operations may lose the connection, and the cancellation flag of this job is never set. -/
def Policy.outage (jobId : String) : Policy where
  fault op exception := op.isRedis = true ∧ exception.isConnection = true
  env event := event ≠ .cancelRequested jobId

/-- The terminal webhook follows the executor: a result is reported as that result and an exception
as a failure, and a failure is reported only for an exception of the executor or of the result
webhook. -/
structure OutcomeReported (job : JobMessage) (log : List Entry) : Prop where
  result : ∀ result, .env (.runFinished job.jobId (.ok result)) ∈ log → ∃ role outcome fate,
    .call role (.sendResult job.callbackUrl (.ofResult job.jobId result)) outcome fate ∈ log
  failure : ∀ exception, .env (.runFinished job.jobId (.error exception)) ∈ log →
    ∃ role outcome fate,
      .call role (.sendError job.callbackUrl job.jobId (errorText exception)) outcome fate ∈ log
  reported : log.any (Entry.attempts job.jobId) = true
  truthful : log.any (Entry.reportsFailure job.jobId) = true →
    log.any Entry.collectsError = true ∨ log.any (Entry.reportsResult job.jobId) = true

/-- No read of the cancellation flag fails before a webhook has been called. -/
def FlagReadsSucceed (jobId : String) (log : List Entry) : Prop :=
  ∀ before entry after, log = before ++ entry :: after → entry.failsFlagRead jobId = true →
    before.any (Entry.attempts jobId) = true

namespace FlagReadsSucceed

variable {jobId : String} {log : List Entry} {entry : Entry}

theorem of_none (none : log.any (Entry.failsFlagRead jobId) = false) : FlagReadsSucceed jobId log := by
  intro before entry after shape fails
  rw [List.any_eq_false] at none
  exact absurd fails (none entry (by rw [shape]; simp))

theorem snoc (succeed : FlagReadsSucceed jobId log)
    (fine : entry.failsFlagRead jobId = true → log.any (Entry.attempts jobId) = true) :
    FlagReadsSucceed jobId (log ++ [entry]) := by
  intro before other after shape fails
  rcases List.append_eq_append_iff.mp shape with ⟨extra, same, tail⟩ | ⟨extra, same, tail⟩
  · cases extra with
    | nil =>
        obtain ⟨rfl, -⟩ := List.cons.inj tail
        rw [List.append_nil] at same
        rw [same]
        exact fine fails
    | cons head rest =>
        obtain ⟨-, empty⟩ := List.cons.inj tail
        simp at empty
  · cases extra with
    | nil =>
        obtain ⟨rfl, -⟩ := List.cons.inj tail
        rw [List.append_nil] at same
        rw [← same]
        exact fine fails
    | cons head rest =>
        obtain ⟨rfl, -⟩ := List.cons.inj tail
        exact succeed before _ rest same fails

/-- A prefix of the log decides. -/
theorem of_append {rest : List Entry} (succeed : FlagReadsSucceed jobId (log ++ rest)) :
    FlagReadsSucceed jobId log := by
  intro before entry after shape fails
  exact succeed before entry (after ++ rest) (by rw [shape, List.append_assoc, List.cons_append]) fails

theorem not_of_failed (failed : log.any (Entry.failsFlagRead jobId) = true)
    (silent : log.any (Entry.attempts jobId) = false) : ¬ FlagReadsSucceed jobId log := by
  intro succeed
  obtain ⟨entry, member, fails⟩ := List.any_eq_true.mp failed
  obtain ⟨before, after, shape⟩ := List.append_of_mem member
  have called := succeed before entry after shape fails
  rw [shape, List.any_append, called, Bool.true_or] at silent
  cases silent

end FlagReadsSucceed

namespace Outage

variable {self : Consumer} {message : StreamMessage} {job : JobMessage}

/-! ### What is known at each stage -/

/-- Neither a webhook nor a failed read of the flag so far. -/
structure Clean (jobId : String) (log : List Entry) : Prop where
  silent : log.any (Entry.attempts jobId) = false
  read : log.any (Entry.failsFlagRead jobId) = false

/-- What the assertions below speak about: the log and the executor task. -/
structure View where
  log : List Entry
  runTask : Option RunTask

/-- The view of a world. -/
def view (world : World) : View := ⟨world.log, world.runTask⟩

/-- The executor has not been started. -/
structure Fresh (job : JobMessage) (world : View) : Prop where
  clean : Clean job.jobId world.log
  uncollected : world.log.any Entry.collectsError = false
  unlaunched : world.log.any (Entry.launches job.jobId) = false
  noRun : world.runTask = none
  unfinished : ∀ outcome, .env (.runFinished job.jobId outcome) ∉ world.log

/-- The executor runs, or has finished and the consumer has not looked. -/
structure Running (job : JobMessage) (world : View) : Prop where
  clean : Clean job.jobId world.log
  uncollected : world.log.any Entry.collectsError = false
  run : ∃ outcome, world.runTask = some ⟨job.jobId, false, outcome⟩ ∧
    (∀ ending, outcome = some ending → Exc.regular ending = true ∧ Exc.foreign ending = true) ∧
    ∀ ending, .env (.runFinished job.jobId ending) ∈ world.log → outcome = some ending

/-- The executor has finished with this outcome. -/
def Finished (job : JobMessage) (outcome : Except Exc ExecutionResult) (world : View) : Prop :=
  (∃ run, world.runTask = some run ∧ run.outcome = some outcome) ∧
    ∀ ending, .env (.runFinished job.jobId ending) ∈ world.log → ending = outcome

/-- The consumer has a result to report. -/
structure Returned (job : JobMessage) (result : ExecutionResult) (world : View) : Prop where
  clean : Clean job.jobId world.log
  uncollected : world.log.any Entry.collectsError = false
  finished : Finished job (.ok result) world

/-- The consumer has an exception of the executor to report. -/
structure Raised (job : JobMessage) (exception : Exc) (world : View) : Prop where
  clean : Clean job.jobId world.log
  collected : world.log.any Entry.collectsError = true
  finished : Finished job (.error exception) world
  ordinary : exception.isOrdinary = true

/-- A read of the flag has failed, and the consumer has nothing true to report. -/
structure Cut (job : JobMessage) (world : View) : Prop where
  silent : world.log.any (Entry.attempts job.jobId) = false
  failed : world.log.any (Entry.failsFlagRead job.jobId) = true
  uncollected : world.log.any Entry.collectsError = false

/-- The result webhook has been called. -/
structure Sent (job : JobMessage) (result : ExecutionResult) (world : View) : Prop where
  sent : ∃ role outcome fate,
    .call role (.sendResult job.callbackUrl (.ofResult job.jobId result)) outcome fate ∈ world.log
  finished : Finished job (.ok result) world
  read : FlagReadsSucceed job.jobId world.log

/-- The outcome was reported and no read that mattered failed. -/
structure Good (job : JobMessage) (world : View) : Prop where
  reported : OutcomeReported job world.log
  read : FlagReadsSucceed job.jobId world.log
  finished : ∃ outcome, Finished job outcome world

/-- A read that mattered failed, and nothing or something untrue was reported. -/
structure Bad (job : JobMessage) (world : View) : Prop where
  unread : ¬ FlagReadsSucceed job.jobId world.log
  wrong : world.log.any (Entry.attempts job.jobId) = false ∨
    (world.log.any (Entry.reportsFailure job.jobId) = true ∧
      world.log.any (Entry.reportsResult job.jobId) = false ∧
      world.log.any Entry.collectsError = false)

/-- An exception is about to be reported. -/
def Failing (job : JobMessage) (exception : Exc) (world : View) : Prop :=
  Raised job exception world ∨ Cut job world ∨ (∃ result, Sent job result world) ∨
    world.log.any (Entry.launches job.jobId) = false

/-- The call has done its work. -/
def Done (job : JobMessage) (world : View) : Prop :=
  Good job world ∨ Bad job world ∨ world.log.any (Entry.launches job.jobId) = false

/-- The assertion of a stage. The stages of a cancelled job are not reached. -/
def At (job : JobMessage) (stage : Stage) (world : View) : Prop :=
  match stage with
  | .called | .lookUp | .pickUpFlag | .drop | .dismiss | .takeOn | .launch _ _ => Fresh job world
  | .poll | .collect | .pollFlag => Running job world
  | .ranFlag result | .settle (.ok result) | .doneFlag result | .complete result
  | .lastFlag result | .report result => Returned job result world
  | .settle (.error exception) =>
      Raised job exception world ∨ (Cut job world ∧ exception.isOrdinary = true)
  | .abort (.error exception) => Cut job world ∧ exception.isOrdinary = true
  | .hook | .abandon | .drain | .abort (.ok _) | .mark => False
  | .errorFlag exception | .recordFailure exception | .reportFailure exception =>
      Failing job exception world
  | .cleanUp _ | .release _ | .free _ | .ended _ => Done job world

/-- The flag is not set, and the assertion of the stage holds. -/
def Holds (job : JobMessage) (stage : Stage) (world : World) : Prop :=
  world.redis.cancelled job.jobId = false ∧ At job stage (view world)

/-! ### What a new record leaves alone -/

/-- The log has grown by one record, which is no outcome of the executor. -/
structure Grown (jobId : String) (world next : View) (entry : Entry) : Prop where
  log : next.log = world.log ++ [entry]
  run : next.runTask = world.runTask
  other : ∀ outcome, entry ≠ .env (.runFinished jobId outcome)

/-- The record is neither a webhook, nor a failed read of the flag, nor an exception of the executor. -/
structure Harmless (jobId : String) (entry : Entry) : Prop where
  silent : entry.attempts jobId = false
  read : entry.failsFlagRead jobId = false
  uncollected : entry.collectsError = false

variable {world next : View} {entry : Entry}

theorem any_snoc_eq_false {property : Entry → Bool} (log : next.log = world.log ++ [entry])
    (old : world.log.any property = false) (new : property entry = false) :
    next.log.any property = false := by
  rw [log, List.any_append, old, List.any_cons, new]
  rfl

theorem any_snoc_eq_true {property : Entry → Bool} (log : next.log = world.log ++ [entry])
    (old : world.log.any property = true) : next.log.any property = true := by
  rw [log, List.any_append, old, Bool.true_or]

theorem Grown.unfinished (grown : Grown job.jobId world next entry)
    {outcome : Except Exc ExecutionResult}
    (member : .env (.runFinished job.jobId outcome) ∈ next.log) :
    .env (.runFinished job.jobId outcome) ∈ world.log := by
  rw [grown.log] at member
  rcases List.mem_append.mp member with old | new
  · exact old
  · exact absurd (List.mem_singleton.mp new).symm (grown.other outcome)

theorem Clean.grow (clean : Clean job.jobId world.log) (grown : Grown job.jobId world next entry)
    (harmless : Harmless job.jobId entry) : Clean job.jobId next.log where
  silent := any_snoc_eq_false grown.log clean.silent harmless.silent
  read := any_snoc_eq_false grown.log clean.read harmless.read

theorem Finished.grow {outcome : Except Exc ExecutionResult} (finished : Finished job outcome world)
    (grown : Grown job.jobId world next entry) : Finished job outcome next := by
  constructor
  · rw [grown.run]
    exact finished.1
  · intro ending member
    exact finished.2 ending (grown.unfinished member)

theorem Fresh.grow (fresh : Fresh job world) (grown : Grown job.jobId world next entry)
    (harmless : Harmless job.jobId entry) (idle : entry.launches job.jobId = false) :
    Fresh job next where
  clean := fresh.clean.grow grown harmless
  uncollected := any_snoc_eq_false grown.log fresh.uncollected harmless.uncollected
  unlaunched := any_snoc_eq_false grown.log fresh.unlaunched idle
  noRun := grown.run.trans fresh.noRun
  unfinished outcome member := fresh.unfinished outcome (grown.unfinished member)

theorem Running.grow (running : Running job world) (grown : Grown job.jobId world next entry)
    (harmless : Harmless job.jobId entry) : Running job next where
  clean := running.clean.grow grown harmless
  uncollected := any_snoc_eq_false grown.log running.uncollected harmless.uncollected
  run := by
    obtain ⟨outcome, run, regular, agrees⟩ := running.run
    refine ⟨outcome, grown.run.trans run, regular, ?_⟩
    intro ending member
    exact agrees ending (grown.unfinished member)

theorem Returned.grow {result : ExecutionResult} (returned : Returned job result world)
    (grown : Grown job.jobId world next entry) (harmless : Harmless job.jobId entry) :
    Returned job result next where
  clean := returned.clean.grow grown harmless
  uncollected := any_snoc_eq_false grown.log returned.uncollected harmless.uncollected
  finished := returned.finished.grow grown

theorem Raised.grow {exception : Exc} (raised : Raised job exception world)
    (grown : Grown job.jobId world next entry) (harmless : Harmless job.jobId entry) :
    Raised job exception next where
  clean := raised.clean.grow grown harmless
  collected := any_snoc_eq_true grown.log raised.collected
  finished := raised.finished.grow grown
  ordinary := raised.ordinary

theorem Cut.grow (cut : Cut job world) (log : next.log = world.log ++ [entry])
    (silent : entry.attempts job.jobId = false) (uncollected : entry.collectsError = false) :
    Cut job next where
  silent := any_snoc_eq_false log cut.silent silent
  failed := any_snoc_eq_true log cut.failed
  uncollected := any_snoc_eq_false log cut.uncollected uncollected

theorem any_attempts_of_sent {result : ExecutionResult} {log : List Entry}
    (sent : ∃ role outcome fate,
      .call role (.sendResult job.callbackUrl (.ofResult job.jobId result)) outcome fate ∈ log) :
    log.any (Entry.reportsResult job.jobId) = true := by
  obtain ⟨role, outcome, fate, member⟩ := sent
  apply List.any_eq_true.mpr
  exact ⟨_, member, by simp [Entry.reportsResult, WebhookPayload.ofResult]⟩

theorem any_attempts_of_reportsResult {jobId : String} {log : List Entry}
    (reports : log.any (Entry.reportsResult jobId) = true) :
    log.any (Entry.attempts jobId) = true := by
  obtain ⟨entry, member, reports⟩ := List.any_eq_true.mp reports
  exact List.any_eq_true.mpr ⟨entry, member, by simp [Entry.attempts, reports]⟩

theorem Sent.grow {result : ExecutionResult} (sent : Sent job result world)
    (grown : Grown job.jobId world next entry) : Sent job result next where
  sent := by
    obtain ⟨role, outcome, fate, member⟩ := sent.sent
    refine ⟨role, outcome, fate, ?_⟩
    rw [grown.log]
    exact List.mem_append_left _ member
  finished := sent.finished.grow grown
  read := by
    rw [grown.log]
    exact sent.read.snoc fun _ => any_attempts_of_reportsResult (any_attempts_of_sent sent.sent)

/-- A result that was sent is reported. -/
theorem Sent.good {result : ExecutionResult} (sent : Sent job result world) : Good job world where
  reported := by
    have reports := any_attempts_of_sent sent.sent
    constructor
    · intro other member
      have same := sent.finished.2 _ member
      cases same
      exact sent.sent
    · intro exception member
      have same := sent.finished.2 _ member
      cases same
    · exact any_attempts_of_reportsResult reports
    · exact fun _ => .inr reports
  read := sent.read
  finished := ⟨_, sent.finished⟩

theorem Good.grow (good : Good job world) (grown : Grown job.jobId world next entry)
    (harmless : Harmless job.jobId entry) : Good job next where
  reported := by
    have kept : ∀ {call : Entry}, call ∈ world.log → call ∈ next.log := by
      intro call member
      rw [grown.log]
      exact List.mem_append_left _ member
    constructor
    · intro result member
      obtain ⟨role, outcome, fate, sent⟩ := good.reported.result result (grown.unfinished member)
      exact ⟨role, outcome, fate, kept sent⟩
    · intro exception member
      obtain ⟨role, outcome, fate, sent⟩ :=
        good.reported.failure exception (grown.unfinished member)
      exact ⟨role, outcome, fate, kept sent⟩
    · exact any_snoc_eq_true grown.log good.reported.reported
    · intro failed
      have silent := harmless.silent
      rw [Entry.attempts, Bool.or_eq_false_iff] at silent
      have before : world.log.any (Entry.reportsFailure job.jobId) = true := by
        cases old : world.log.any (Entry.reportsFailure job.jobId) with
        | true => rfl
        | false =>
            rw [any_snoc_eq_false grown.log old silent.2] at failed
            cases failed
      rcases good.reported.truthful before with collected | sent
      · exact .inl (any_snoc_eq_true grown.log collected)
      · exact .inr (any_snoc_eq_true grown.log sent)
  read := by
    rw [grown.log]
    exact good.read.snoc fun _ => good.reported.reported
  finished := by
    obtain ⟨outcome, finished⟩ := good.finished
    exact ⟨outcome, finished.grow grown⟩

theorem Bad.grow (bad : Bad job world) (log : next.log = world.log ++ [entry])
    (silent : entry.attempts job.jobId = false) (uncollected : entry.collectsError = false) :
    Bad job next where
  unread := by
    rw [log]
    exact fun succeed => bad.unread succeed.of_append
  wrong := by
    rcases bad.wrong with quiet | ⟨failed, unsent, none⟩
    · exact .inl (any_snoc_eq_false log quiet silent)
    · rw [Entry.attempts, Bool.or_eq_false_iff] at silent
      exact .inr ⟨any_snoc_eq_true log failed, any_snoc_eq_false log unsent silent.1,
        any_snoc_eq_false log none uncollected⟩

/-- A good outcome is reported, a bad one is not. -/
theorem Bad.unreported (bad : Bad job world) : ¬ OutcomeReported job world.log := by
  intro reported
  rcases bad.wrong with quiet | ⟨failed, unsent, uncollected⟩
  · rw [reported.reported] at quiet
    cases quiet
  · rcases reported.truthful failed with collected | sent
    · rw [collected] at uncollected
      cases uncollected
    · rw [sent] at unsent
      cases unsent

theorem Cut.bad (cut : Cut job world) : Bad job world where
  unread := FlagReadsSucceed.not_of_failed cut.failed cut.silent
  wrong := .inl cut.silent

theorem Failing.grow {exception : Exc} (failing : Failing job exception world)
    (grown : Grown job.jobId world next entry) (harmless : Harmless job.jobId entry)
    (idle : entry.launches job.jobId = false) : Failing job exception next := by
  rcases failing with raised | cut | ⟨result, sent⟩ | unlaunched
  · exact .inl (raised.grow grown harmless)
  · exact .inr (.inl (cut.grow grown.log harmless.silent harmless.uncollected))
  · exact .inr (.inr (.inl ⟨result, sent.grow grown⟩))
  · exact .inr (.inr (.inr (any_snoc_eq_false grown.log unlaunched idle)))

theorem Done.grow (done : Done job world) (grown : Grown job.jobId world next entry)
    (harmless : Harmless job.jobId entry) (idle : entry.launches job.jobId = false) :
    Done job next := by
  rcases done with good | bad | unlaunched
  · exact .inl (good.grow grown harmless)
  · exact .inr (.inl (bad.grow grown.log harmless.silent harmless.uncollected))
  · exact .inr (.inr (any_snoc_eq_false grown.log unlaunched idle))

/-! ### Every row keeps the assertion of its stage -/

section Rows

variable {world next : World}

private theorem harmless_call {jobId : String} {op : Op} {outcome : Except Exc op.Reply} {fate : Fate}
    (silent : (Entry.call .loop op outcome fate).attempts jobId = false)
    (read : (Entry.call .loop op outcome fate).failsFlagRead jobId = false)
    (uncollected : (Entry.call .loop op outcome fate).collectsError = false) :
    Harmless jobId (.call .loop op outcome fate) :=
  ⟨silent, read, uncollected⟩

private theorem grown_call {jobId : String} {policy : Policy} {op : Op} {outcome : Except Exc op.Reply}
    {fate : Fate} (performs : World.Performs policy world op outcome fate next)
    (logged : op.logged = true) (other : op.touchesRun = false) :
    Grown jobId (view world) (view (next.recordCall .loop op outcome fate))
      (.call .loop op outcome fate) where
  log := by
    change (next.recordCall .loop op outcome fate).log = _
    rw [World.recordCall_log_of_performs .loop performs, logged]
    rfl
  run := by
    change (next.recordCall .loop op outcome fate).runTask = _
    rw [World.recordCall_runTask]
    exact World.runTask_of_performs performs other
  other := by simp

/-- The outcome of a Redis operation is a reply or a lost connection. -/
private theorem isConnection_of_performs {op : Op} {exception : Exc} {fate : Fate} {jobId : String}
    (performs : World.Performs (.outage jobId) world op (.error exception) fate next)
    (unanswered : world.effect op (.error exception) = none) : exception.isConnection = true := by
  cases performs with
  | answered _ effect =>
      rw [unanswered] at effect
      cases effect
  | lost _ admitted => exact admitted.2
  | executed _ admitted => exact admitted.2

/-- The view after an operation that is not logged and does not touch the executor task. -/
private theorem view_eq {policy : Policy} {op : Op} {outcome : Except Exc op.Reply} {fate : Fate}
    (performs : World.Performs policy world op outcome fate next) (logged : op.logged = false)
    (other : op.touchesRun = false) : view (next.recordCall .loop op outcome fate) = view world := by
  have log := World.recordCall_log_of_performs .loop performs
  rw [logged] at log
  have run := World.runTask_of_performs performs other
  unfold view
  rw [log, World.recordCall_runTask, run]
  rfl

/-- A regular answer has the effect the world gives it. -/
private theorem effect_of_performs {policy : Policy} {op : Op} {value : op.Reply} {fate : Fate}
    (performs : World.Performs policy world op (.ok value) fate next) :
    world.effect op (.ok value) = some next := by
  cases performs with
  | answered _ effect => exact effect

/-- Only Redis operations fail from outside. -/
private theorem not_fails {op : Op} {exception : Exc} {fate : Fate} {jobId : String}
    (performs : World.Performs (.outage jobId) world op (.error exception) fate next)
    (noRedis : op.isRedis = false) (unanswered : world.effect op (.error exception) = none) : False := by
  cases performs with
  | answered _ effect =>
      rw [unanswered] at effect
      cases effect
  | lost _ admitted => exact absurd admitted.1 (by rw [noRedis]; exact Bool.false_ne_true)
  | executed _ admitted => exact absurd admitted.1 (by rw [noRedis]; exact Bool.false_ne_true)

/-- What a webhook call raises is an ordinary exception. -/
private theorem ordinary_of_performs {url : String} {payload : WebhookPayload} {exception : Exc}
    {fate : Fate} {jobId : String}
    (performs : World.Performs (.outage jobId) world (.sendResult url payload) (.error exception) fate
      next) : exception.isOrdinary = true := by
  cases performs with
  | answered _ effect =>
      simp only [World.effect] at effect
      split at effect
      · assumption
      · cases effect
  | lost _ admitted => exact absurd admitted.1 Bool.false_ne_true
  | executed _ admitted => exact absurd admitted.1 Bool.false_ne_true

/-- A guarded operation survives a lost connection. -/
private theorem afterSafe_eq {safe : Stage} {escaped : Exc → Stage} {outcome : Except Exc Unit}
    (lost : ∀ exception, outcome = .error exception → exception.isConnection = true) :
    afterSafe outcome safe escaped = safe := by
  cases outcome with
  | ok value => rfl
  | error exception => simp only [afterSafe, lost exception rfl, if_true]

/-- A failed read of the flag before any webhook. -/
private theorem cut_of_failed {world next : View} {exception : Exc} {fate : Fate}
    (log : next.log = world.log ++ [.call .loop (.getCancelled job.jobId) (.error exception) fate])
    (clean : Clean job.jobId world.log) (uncollected : world.log.any Entry.collectsError = false) :
    Cut job next where
  silent := any_snoc_eq_false log clean.silent rfl
  failed := by
    rw [log, List.any_append]
    simp [Entry.failsFlagRead]
  uncollected := any_snoc_eq_false log uncollected rfl

/-- A failed read of the flag after the executor has raised. -/
private theorem bad_of_unread {world next : View} {exception failure : Exc} {fate : Fate}
    (raised : Raised job exception world)
    (log : next.log = world.log ++ [.call .loop (.getCancelled job.jobId) (.error failure) fate]) :
    Bad job next := by
  have silent := any_snoc_eq_false log raised.clean.silent rfl
  refine ⟨FlagReadsSucceed.not_of_failed ?_ silent, .inl silent⟩
  rw [log, List.any_append]
  simp [Entry.failsFlagRead]

theorem launched {ir : NativeGateIR} {shots : Int} {policy : Policy}
    {outcome : Except Exc (Op.createRun job.jobId ir shots).Reply} {fate : Fate}
    (fresh : Fresh job (view world))
    (performs : World.Performs policy world (.createRun job.jobId ir shots) outcome fate next) :
    (∃ value, outcome = .ok value) ∧
      Running job (view (next.recordCall .loop (.createRun job.jobId ir shots) outcome fate)) := by
  obtain ⟨value, rfl⟩ := World.feasible_of_performs performs rfl
  have log : (view (next.recordCall .loop (.createRun job.jobId ir shots) (.ok value) fate)).log =
      (view world).log ++ [.call .loop (.createRun job.jobId ir shots) (.ok value) fate] :=
    World.recordCall_log_of_performs .loop performs
  have effect := effect_of_performs performs
  simp only [World.effect, Option.some.injEq] at effect
  refine ⟨⟨value, rfl⟩, ?_, ?_, none, ?_, ?_, ?_⟩
  · exact ⟨any_snoc_eq_false log fresh.clean.silent rfl, any_snoc_eq_false log fresh.clean.read rfl⟩
  · exact any_snoc_eq_false log fresh.uncollected rfl
  · change (next.recordCall _ _ _ _).runTask = _
    rw [World.recordCall_runTask, ← effect]
  · intro ending same
    cases same
  · intro ending member
    change _ ∈ (view (next.recordCall _ _ _ _)).log at member
    rw [log] at member
    rcases List.mem_append.mp member with old | new
    · exact absurd old (fresh.unfinished ending)
    · simp at new

/-- The outcome the consumer takes from the executor is the one the executor finished with. -/
theorem collected {outcome : Except Exc Op.awaitRun.Reply} {fate : Fate}
    (running : Running job (view world))
    (performs : World.Performs (.outage job.jobId) world .awaitRun outcome fate next) :
    fate = .answered ∧ Finished job outcome (view world) ∧ Exc.regular outcome = true ∧
      Exc.foreign outcome = true := by
  cases performs with
  | answered _ effect =>
      obtain ⟨ending, run, fine, agrees⟩ := running.run
      change world.runTask = _ at run
      have taken : ending = some outcome := by
        cases outcome <;> simp only [World.effect, run] at effect <;> split at effect
        · assumption
        · cases effect
        · assumption
        · cases effect
      subst taken
      refine ⟨rfl, ⟨⟨_, run, rfl⟩, fun other member => ?_⟩, fine outcome rfl⟩
      exact (Option.some.inj (agrees other member)).symm
  | lost _ admitted => exact absurd admitted.1 Bool.false_ne_true
  | executed _ admitted => exact absurd admitted.1 Bool.false_ne_true

/-- The executor has finished, and is seen to have finished. -/
theorem runDone_of_finished {outcome : Except Exc ExecutionResult} {policy : Policy} {done : Bool}
    {fate : Fate} (finished : Finished job outcome (view world))
    (performs : World.Performs policy world .runDone (.ok done) fate next) : done = true := by
  have effect := effect_of_performs performs
  obtain ⟨⟨run, same, ended⟩, -⟩ := finished
  change world.runTask = _ at same
  simp only [World.effect, same, Option.map_some, ended, Option.isSome_some] at effect
  split at effect
  · rename_i agrees
    exact (Option.some.inj agrees).symm
  · cases effect

/-- The result webhook is called. -/
theorem sent_of_returned {result : ExecutionResult} {policy : Policy}
    {outcome : Except Exc (Op.sendResult job.callbackUrl (.ofResult job.jobId result)).Reply}
    {fate : Fate} (returned : Returned job result (view world))
    (performs : World.Performs policy world
      (.sendResult job.callbackUrl (.ofResult job.jobId result)) outcome fate next) :
    Sent job result (view (next.recordCall .loop
      (.sendResult job.callbackUrl (.ofResult job.jobId result)) outcome fate)) := by
  have grown : Grown job.jobId (view world) _ _ := grown_call performs rfl rfl
  constructor
  · refine ⟨.loop, outcome, fate, ?_⟩
    rw [grown.log]
    exact List.mem_append_right _ List.mem_cons_self
  · exact returned.finished.grow grown
  · rw [grown.log]
    apply (FlagReadsSucceed.of_none returned.clean.read).snoc
    intro fails
    cases fails

/-- The error webhook is called with the exception of the executor. -/
theorem good_of_raised {exception : Exc} {policy : Policy}
    {outcome : Except Exc (Op.sendError job.callbackUrl job.jobId (errorText exception)).Reply}
    {fate : Fate} (raised : Raised job exception (view world))
    (performs : World.Performs policy world
      (.sendError job.callbackUrl job.jobId (errorText exception)) outcome fate next) :
    Good job (view (next.recordCall .loop
      (.sendError job.callbackUrl job.jobId (errorText exception)) outcome fate)) := by
  have grown : Grown job.jobId (view world) _ _ := grown_call performs rfl rfl
  have finished := raised.finished.grow grown
  have here : Entry.call .loop (.sendError job.callbackUrl job.jobId (errorText exception)) outcome
      fate ∈ (view (next.recordCall .loop _ outcome fate)).log := by
    rw [grown.log]
    exact List.mem_append_right _ List.mem_cons_self
  constructor
  · constructor
    · intro result member
      have same := finished.2 _ member
      cases same
    · intro other member
      have same := finished.2 _ member
      cases same
      exact ⟨_, _, _, here⟩
    · exact List.any_eq_true.mpr ⟨_, here, by simp [Entry.attempts, Entry.reportsFailure]⟩
    · exact fun _ => .inl (any_snoc_eq_true grown.log raised.collected)
  · rw [grown.log]
    apply (FlagReadsSucceed.of_none raised.clean.read).snoc
    intro fails
    cases fails
  · exact ⟨_, finished⟩

/-- The error webhook is called although the executor has not raised. -/
theorem bad_of_cut {exception : Exc} {policy : Policy}
    {outcome : Except Exc (Op.sendError job.callbackUrl job.jobId (errorText exception)).Reply}
    {fate : Fate} (cut : Cut job (view world))
    (performs : World.Performs policy world
      (.sendError job.callbackUrl job.jobId (errorText exception)) outcome fate next) :
    Bad job (view (next.recordCall .loop
      (.sendError job.callbackUrl job.jobId (errorText exception)) outcome fate)) := by
  have grown : Grown job.jobId (view world) _ _ := grown_call performs rfl rfl
  have silent := cut.silent
  have unsent : (view world).log.any (Entry.reportsResult job.jobId) = false := by
    rw [List.any_eq_false] at silent ⊢
    intro entry member reports
    exact silent entry member (by simp [Entry.attempts, reports])
  constructor
  · rw [grown.log]
    exact fun succeed => cut.bad.unread succeed.of_append
  · refine .inr ⟨?_, any_snoc_eq_false grown.log unsent rfl,
      any_snoc_eq_false grown.log cut.uncollected rfl⟩
    rw [grown.log, List.any_append]
    simp [Entry.reportsFailure]

theorem at_row {stage later : Stage} {op : Op} {outcome : Except Exc op.Reply} {fate : Fate}
    (row : Stage.Move self message job stage op outcome later)
    (flag : world.redis.cancelled job.jobId = false) (here : At job stage (view world))
    (performs : World.Performs (.outage job.jobId) world op outcome fate next) :
    At job later (view (next.recordCall .loop op outcome fate)) := by
  have unset : ∀ {value : Bool} {fate : Fate} {next : World},
      World.Performs (.outage job.jobId) world (.getCancelled job.jobId) (.ok value) fate next →
        value = false := fun performs => (World.flag_of_performs performs).trans flag
  cases row with
  | clock =>
      rw [view_eq performs rfl rfl]
      exact here
  | assign =>
      rw [view_eq performs rfl rfl]
      exact here
  | release =>
      rw [view_eq performs rfl rfl]
      exact here
  | free =>
      rw [view_eq performs rfl rfl]
      exact here
  | called =>
      obtain ⟨value, rfl⟩ := World.feasible_of_performs performs rfl
      have fresh := Fresh.grow here (grown_call performs rfl rfl) (harmless_call rfl rfl rfl) rfl
      change At job (Stage.opening message) _
      unfold Stage.opening
      split
      · exact .inr (.inr fresh.unlaunched)
      · exact fresh
      · exact fresh
  | @lookUp outcome =>
      have fresh := Fresh.grow here (grown_call performs rfl rfl) (harmless_call rfl rfl rfl) rfl
      cases outcome with
      | ok status =>
          simp only [afterCall]
          split
          · exact fresh
          · exact fresh
      | error exception => exact .inr (.inr fresh.unlaunched)
  | @pickUpFlag outcome =>
      have grown : Grown job.jobId (view world) _ _ := grown_call performs rfl rfl
      cases outcome with
      | ok value =>
          have cleared := unset performs
          subst cleared
          exact Fresh.grow here grown (harmless_call rfl rfl rfl) rfl
      | error exception => exact .inr (.inr (any_snoc_eq_false grown.log here.unlaunched rfl))
  | @drop now outcome =>
      rw [afterSafe_eq]
      · exact Fresh.grow here (grown_call performs rfl rfl) (harmless_call rfl rfl rfl) rfl
      · rintro exception rfl
        exact isConnection_of_performs performs rfl
  | @dismiss outcome =>
      rw [afterSafe_eq]
      · have grown : Grown job.jobId (view world) _ _ := grown_call performs rfl rfl
        exact .inr (.inr (any_snoc_eq_false grown.log here.unlaunched rfl))
      · rintro exception rfl
        exact isConnection_of_performs performs rfl
  | @takeOn now outcome =>
      have fresh := Fresh.grow here (grown_call performs rfl rfl) (harmless_call rfl rfl rfl) rfl
      rw [afterSafe_eq]
      · unfold Stage.started
        cases parsed : parseCircuit self job.decoded with
        | ok circuit => exact fresh
        | error exception =>
            simp only [Stage.failing_of_isOrdinary (isOrdinary_of_parseCircuit parsed)]
            exact .inr (.inr (.inr fresh.unlaunched))
      · rintro exception rfl
        exact isConnection_of_performs performs rfl
  | @launch ir shots outcome =>
      obtain ⟨⟨value, rfl⟩, running⟩ := launched here performs
      exact running
  | @poll outcome =>
      cases outcome with
      | ok done =>
          have running := Running.grow here (grown_call performs rfl rfl) (harmless_call rfl rfl rfl)
          cases done with
          | true => exact running
          | false => exact running
      | error exception => exact (not_fails performs rfl rfl).elim
  | @hang outcome =>
      cases outcome with
      | ok value => cases value
      | error exception => exact (not_fails performs rfl rfl).elim
  | @collect outcome =>
      have grown : Grown job.jobId (view world) _ _ := grown_call performs rfl rfl
      obtain ⟨rfl, finished, regular, foreign⟩ := collected here performs
      cases outcome with
      | ok result =>
          exact ⟨here.clean.grow grown (harmless_call rfl rfl rfl),
            any_snoc_eq_false grown.log here.uncollected rfl, finished.grow grown⟩
      | error exception =>
          refine .inl ⟨?_, ?_, finished.grow grown, ?_⟩
          · exact ⟨any_snoc_eq_false grown.log here.clean.silent rfl,
              any_snoc_eq_false grown.log here.clean.read rfl⟩
          · rw [grown.log, List.any_append]
            simp [Entry.collectsError]
          · rw [Exc.isOrdinary, Bool.and_eq_true]
            exact ⟨regular, foreign⟩
  | @pollFlag outcome =>
      have grown : Grown job.jobId (view world) _ _ := grown_call performs rfl rfl
      cases outcome with
      | ok value =>
          have cleared := unset performs
          subst cleared
          exact Running.grow here grown (harmless_call rfl rfl rfl)
      | error exception =>
          have connection := isConnection_of_performs performs rfl
          exact .inr ⟨cut_of_failed grown.log here.clean here.uncollected,
            Exc.isOrdinary_of_isConnection connection⟩
  | hook => exact here.elim
  | abandon => exact here.elim
  | drain => exact here.elim
  | @ranFlag result outcome =>
      have grown : Grown job.jobId (view world) _ _ := grown_call performs rfl rfl
      cases outcome with
      | ok value =>
          have cleared := unset performs
          subst cleared
          exact Returned.grow here grown (harmless_call rfl rfl rfl)
      | error exception =>
          have connection := isConnection_of_performs performs rfl
          exact .inr ⟨cut_of_failed grown.log here.clean here.uncollected,
            Exc.isOrdinary_of_isConnection connection⟩
  | @settle ending outcome =>
      obtain ⟨done, rfl⟩ := World.feasible_of_performs performs rfl
      rw [view_eq performs rfl rfl]
      cases ending with
      | ok result =>
          have ended := runDone_of_finished (Returned.finished here) performs
          subst ended
          exact here
      | error exception =>
          rcases here with raised | ⟨cut, ordinary⟩
          · have ended := runDone_of_finished raised.finished performs
            subst ended
            change At job (Stage.failing exception) _
            rw [Stage.failing_of_isOrdinary raised.ordinary]
            exact .inl raised
          · cases done with
            | true =>
                change At job (Stage.failing exception) _
                rw [Stage.failing_of_isOrdinary ordinary]
                exact .inr (.inl cut)
            | false => exact ⟨cut, ordinary⟩
  | @abort ending outcome =>
      obtain ⟨value, rfl⟩ := World.feasible_of_performs performs rfl
      cases ending with
      | ok result => exact here.elim
      | error exception =>
          obtain ⟨cut, ordinary⟩ := here
          change At job (Stage.failing exception) _
          rw [Stage.failing_of_isOrdinary ordinary]
          exact .inr (.inl (cut.grow (World.recordCall_log_of_performs .loop performs) rfl rfl))
  | @doneFlag result outcome =>
      have grown : Grown job.jobId (view world) _ _ := grown_call performs rfl rfl
      cases outcome with
      | ok value =>
          have cleared := unset performs
          subst cleared
          exact Returned.grow here grown (harmless_call rfl rfl rfl)
      | error exception =>
          have connection := isConnection_of_performs performs rfl
          change At job (Stage.failing exception) _
          rw [Stage.failing_of_isOrdinary (Exc.isOrdinary_of_isConnection connection)]
          exact .inr (.inl (cut_of_failed grown.log here.clean here.uncollected))
  | @complete result now outcome =>
      rw [afterSafe_eq]
      · exact Returned.grow here (grown_call performs rfl rfl) (harmless_call rfl rfl rfl)
      · rintro exception rfl
        exact isConnection_of_performs performs rfl
  | @lastFlag result outcome =>
      have grown : Grown job.jobId (view world) _ _ := grown_call performs rfl rfl
      cases outcome with
      | ok value =>
          have cleared := unset performs
          subst cleared
          exact Returned.grow here grown (harmless_call rfl rfl rfl)
      | error exception =>
          have connection := isConnection_of_performs performs rfl
          change At job (Stage.failing exception) _
          rw [Stage.failing_of_isOrdinary (Exc.isOrdinary_of_isConnection connection)]
          exact .inr (.inl (cut_of_failed grown.log here.clean here.uncollected))
  | @report result outcome =>
      have sent := sent_of_returned here performs
      cases outcome with
      | ok value => exact .inl sent.good
      | error exception =>
          have ordinary := ordinary_of_performs performs
          change At job (Stage.failing exception) _
          rw [Stage.failing_of_isOrdinary ordinary]
          exact .inr (.inr (.inl ⟨result, sent⟩))
  | mark => exact here.elim
  | @errorFlag exception outcome =>
      have grown : Grown job.jobId (view world) _ _ := grown_call performs rfl rfl
      cases outcome with
      | ok value =>
          have cleared := unset performs
          subst cleared
          exact Failing.grow here grown (harmless_call rfl rfl rfl) rfl
      | error failure =>
          rcases here with raised | cut | ⟨result, sent⟩ | unlaunched
          · -- the executor has raised, but nothing will be reported
            exact .inr (.inl (bad_of_unread raised grown.log))
          · exact .inr (.inl (cut.grow grown.log rfl rfl).bad)
          · exact .inl (sent.grow grown).good
          · exact .inr (.inr (any_snoc_eq_false grown.log unlaunched rfl))
  | @recordFailure exception now outcome =>
      rw [afterSafe_eq]
      · exact Failing.grow here (grown_call performs rfl rfl) (harmless_call rfl rfl rfl) rfl
      · rintro failure rfl
        exact isConnection_of_performs performs rfl
  | @reportFailure exception outcome =>
      have grown : Grown job.jobId (view world) _ _ := grown_call performs rfl rfl
      have done : Done job (view (next.recordCall .loop _ outcome fate)) := by
        rcases here with raised | cut | ⟨result, sent⟩ | unlaunched
        · exact .inl (good_of_raised raised performs)
        · exact .inr (.inl (bad_of_cut cut performs))
        · exact .inl (sent.grow grown).good
        · exact .inr (.inr (any_snoc_eq_false grown.log unlaunched rfl))
      cases outcome with
      | ok value => exact done
      | error failure =>
          simp only [afterLogged]
          split
          · exact done
          · exact done
  | @cleanUp ending outcome =>
      rw [afterSafe_eq]
      · exact Done.grow here (grown_call performs rfl rfl) (harmless_call rfl rfl rfl) rfl
      · rintro exception rfl
        exact isConnection_of_performs performs rfl

/-! ### Events keep the assertion of a stage -/

/-- What has to have happened for the executor to finish. -/
theorem run_of_finish {jobId : String} {outcome : Except Exc ExecutionResult}
    (occurs : world.occur (.runFinished jobId outcome) = some next) :
    ∃ run, world.runTask = some run ∧ run.jobId = jobId ∧ run.outcome = none ∧
      Exc.foreign outcome = true ∧ (run.cancelRequested = true ∨ Exc.regular outcome = true) ∧
      next.runTask = some { run with outcome := some outcome } := by
  simp only [World.occur] at occurs
  split at occurs
  · rename_i run same
    split at occurs
    · rename_i conditions
      obtain ⟨rfl, fresh, foreign, regular⟩ := conditions
      cases occurs
      exact ⟨run, same, rfl, fresh, foreign, regular, rfl⟩
    · cases occurs
  · cases occurs

/-- An executor finishes once. -/
theorem Finished.once {jobId : String} {outcome ending : Except Exc ExecutionResult}
    (finished : Finished job outcome (view world))
    (occurs : world.occur (.runFinished jobId ending) = some next) : False := by
  obtain ⟨run, same, -, fresh, -⟩ := run_of_finish occurs
  obtain ⟨⟨other, same', ended⟩, -⟩ := finished
  change world.runTask = _ at same'
  rw [same] at same'
  cases same'
  rw [fresh] at ended
  cases ended

theorem runTask_of_occur {event : EnvEvent} (occurs : world.occur event = some next)
    (other : ∀ jobId outcome, event ≠ .runFinished jobId outcome) :
    next.runTask = world.runTask := by
  cases event with
  | runFinished jobId outcome => exact absurd rfl (other jobId outcome)
  | _ =>
      cases occurs
      rfl

theorem at_finish {stage : Stage} {jobId : String} {outcome : Except Exc ExecutionResult}
    (occurs : world.occur (.runFinished jobId outcome) = some next) (here : At job stage (view world)) :
    At job stage (view (next.record (.env (.runFinished jobId outcome)))) := by
  have log : (view (next.record (.env (.runFinished jobId outcome)))).log =
      (view world).log ++ [.env (.runFinished jobId outcome)] := by
    change (next.record _).log = world.log ++ _
    rw [World.record_log, World.log_of_occur occurs]
  obtain ⟨run, same, rfl, fresh, foreign, regular, run'⟩ := run_of_finish occurs
  have starting : ¬ Fresh job (view world) := by
    intro start
    have noRun := start.noRun
    change world.runTask = none at noRun
    rw [same] at noRun
    cases noRun
  have failing : ∀ {exception}, Failing job exception (view world) →
      Failing job exception (view (next.record (.env (.runFinished run.jobId outcome)))) := by
    intro exception failing
    rcases failing with raised | cut | ⟨result, sent⟩ | unlaunched
    · exact (raised.finished.once occurs).elim
    · exact .inr (.inl (cut.grow log rfl rfl))
    · exact (sent.finished.once occurs).elim
    · exact .inr (.inr (.inr (any_snoc_eq_false log unlaunched rfl)))
  have done : Done job (view world) →
      Done job (view (next.record (.env (.runFinished run.jobId outcome)))) := by
    intro done
    rcases done with good | bad | unlaunched
    · obtain ⟨ending, finished⟩ := good.finished
      exact (finished.once occurs).elim
    · exact .inr (.inl (bad.grow log rfl rfl))
    · exact .inr (.inr (any_snoc_eq_false log unlaunched rfl))
  have running : Running job (view world) →
      Running job (view (next.record (.env (.runFinished run.jobId outcome)))) := by
    intro running
    obtain ⟨ending, here, fine, agrees⟩ := running.run
    change world.runTask = _ at here
    rw [same] at here
    cases here
    cases fresh
    refine ⟨⟨any_snoc_eq_false log running.clean.silent rfl,
      any_snoc_eq_false log running.clean.read rfl⟩,
      any_snoc_eq_false log running.uncollected rfl, some outcome, run', ?_, ?_⟩
    · intro other taken
      cases taken
      exact ⟨regular.resolve_left Bool.false_ne_true, foreign⟩
    · intro other member
      rw [log] at member
      rcases List.mem_append.mp member with old | new
      · exact absurd (agrees other old) (by simp)
      · cases List.mem_singleton.mp new
        rfl
  cases stage with
  | called | lookUp | pickUpFlag | drop | dismiss | takeOn | launch => exact (starting here).elim
  | poll | collect | pollFlag => exact running here
  | ranFlag | doneFlag | complete | lastFlag | report =>
      exact (Finished.once (Returned.finished here) occurs).elim
  | settle ending =>
      cases ending with
      | ok result => exact (Finished.once (Returned.finished here) occurs).elim
      | error exception =>
          rcases here with raised | ⟨cut, ordinary⟩
          · exact (raised.finished.once occurs).elim
          · exact .inr ⟨cut.grow log rfl rfl, ordinary⟩
  | abort ending =>
      cases ending with
      | ok result => exact here.elim
      | error exception => exact ⟨here.1.grow log rfl rfl, here.2⟩
  | hook | abandon | drain | mark => exact here.elim
  | errorFlag | recordFailure | reportFailure => exact failing here
  | cleanUp | release | free | ended => exact done here

theorem at_event {stage : Stage} {event : EnvEvent} (occurs : world.occur event = some next)
    (here : At job stage (view world)) : At job stage (view (next.record (.env event))) := by
  by_cases finish : ∃ jobId outcome, event = .runFinished jobId outcome
  · obtain ⟨jobId, outcome, rfl⟩ := finish
    exact at_finish occurs here
  · have other : ∀ jobId outcome, event ≠ .runFinished jobId outcome :=
      fun jobId outcome same => finish ⟨jobId, outcome, same⟩
    have grown : Grown job.jobId (view world) (view (next.record (.env event))) (.env event) := by
      constructor
      · change (next.record _).log = world.log ++ _
        rw [World.record_log, World.log_of_occur occurs]
      · change next.runTask = world.runTask
        exact runTask_of_occur occurs other
      · intro outcome same
        cases same
        exact other _ _ rfl
    have harmless : Harmless job.jobId (.env event) := ⟨rfl, rfl, rfl⟩
    cases stage with
    | called | lookUp | pickUpFlag | drop | dismiss | takeOn | launch =>
        exact Fresh.grow here grown harmless rfl
    | poll | collect | pollFlag => exact Running.grow here grown harmless
    | ranFlag | doneFlag | complete | lastFlag | report => exact Returned.grow here grown harmless
    | settle ending =>
        cases ending with
        | ok result => exact Returned.grow here grown harmless
        | error exception =>
            rcases here with raised | ⟨cut, ordinary⟩
            · exact .inl (raised.grow grown harmless)
            · exact .inr ⟨cut.grow grown.log rfl rfl, ordinary⟩
    | abort ending =>
        cases ending with
        | ok result => exact here.elim
        | error exception => exact ⟨here.1.grow grown.log rfl rfl, here.2⟩
    | hook | abandon | drain | mark => exact here.elim
    | errorFlag | recordFailure | reportFailure => exact Failing.grow here grown harmless rfl
    | cleanUp | release | free | ended => exact Done.grow here grown harmless rfl

theorem invariant : Stage.Invariant self (.outage job.jobId) message job (Holds job) where
  env := by
    intro stage world event next allowed occurs here
    refine ⟨?_, at_event occurs here.2⟩
    rw [World.record_redis]
    cases event with
    | cancelRequested jobId =>
        cases occurs
        have distinct : job.jobId ≠ jobId := by
          intro same
          exact allowed (by rw [same])
        simp only [Redis.requestCancel, distinct, if_false]
        exact here.1
    | runFinished jobId outcome =>
        obtain ⟨run, same, -⟩ := run_of_finish occurs
        simp only [World.occur, same] at occurs
        split at occurs
        · cases occurs
          exact here.1
        · cases occurs
    | _ =>
        cases occurs
        exact here.1
  row := by
    intro stage op outcome later fate world next row here performs
    refine ⟨?_, at_row row here.1 here.2 performs⟩
    rw [World.recordCall_redis, World.cancelled_of_performs performs]
    exact here.1

end Rows

end Outage

/-- For every job that `_process_message` dispatches while its flag is not set, and every pattern of
lost connections: the terminal webhook follows the executor exactly when no read of the flag fails
before a webhook has been called. -/
theorem outcomeReported_iff (self : Consumer) (message : StreamMessage) {job : JobMessage}
    (reading : message.read = .ok (some job)) (redis : Redis) (attrs : Attrs)
    (unset : redis.cancelled job.jobId = false) {system : System}
    (reaches : Pool.Reaches (machine self (.outage job.jobId))
      (Pool.single { redis := redis, attrs := attrs } .loop (processEntry self message)) system)
    (ended : system.Ended)
    (dispatched : system.state.log.any (Entry.launches job.jobId) = true) :
    OutcomeReported job system.state.log ↔ FlagReadsSucceed job.jobId system.state.log := by
  have fits : ∀ other, message.read = .ok (some other) → other = job := by
    intro other same
    rw [reading] at same
    cases same
    rfl
  have fresh : Outage.Fresh job (Outage.view { redis := redis, attrs := attrs }) := by
    refine ⟨⟨rfl, rfl⟩, rfl, rfl, rfl, fun outcome member => ?_⟩
    cases member
  obtain ⟨outcome, -, done⟩ := (Outage.invariant.reaches fits ⟨unset, fresh⟩ reaches).2 ended
  rcases done with good | bad | unlaunched
  · exact iff_of_true good.reported good.read
  · exact iff_of_false bad.unreported bad.unread
  · change system.state.log.any _ = false at unlaunched
    rw [dispatched] at unlaunched
    cases unlaunched

namespace Outage

/-- The first read of the flag after the executor has returned loses the connection. -/
def lossyRun : System :=
  System.play Sample.consumer (.outage "job")
    ((Surroundings.plain Sample.result).failing fun world => fun
      | .getCancelled _ =>
          if world.runTask.isSome ∧ world.log.any (Entry.failsFlagRead "job") = false then
            some ⟨.connectionError, "Connection lost"⟩
          else none
      | _ => none)
    (List.replicate 8 (.task 0) ++ .env (.runFinished "job" (.ok Sample.result)) ::
      List.replicate 20 (.task 0))
    (Pool.single { redis := Sample.delivered [Sample.message "1-0" "job"] } .loop
      (processEntry Sample.consumer (Sample.message "1-0" "job")))

theorem lossyRun_reaches :
    Pool.Reaches (machine Sample.consumer (.outage "job"))
      (Pool.single { redis := Sample.delivered [Sample.message "1-0" "job"] } .loop
        (processEntry Sample.consumer (Sample.message "1-0" "job"))) lossyRun := by
  apply System.play_reaches
  · apply Surroundings.failing_within (Surroundings.plain_within fun _ _ _ _ => trivial)
    intro world op exception picked
    cases op with
    | getCancelled jobId =>
        simp only at picked
        split at picked
        · cases picked
          exact ⟨rfl, rfl⟩
        · cases picked
    | _ => cases picked
  · intro event member
    simp only [List.mem_append, List.mem_cons, List.mem_replicate, reduceCtorEq, and_false,
      or_false, false_or, Turn.env.injEq] at member
    subst member
    intro same
    cases same

end Outage

open Outage in
/-- The result, for that run. -/
theorem outcomeReported_iff_lossyRun :
    OutcomeReported Sample.job lossyRun.state.log ↔ FlagReadsSucceed "job" lossyRun.state.log :=
  outcomeReported_iff Sample.consumer (Sample.message "1-0" "job") Sample.message_read _ _ rfl
    lossyRun_reaches (System.ended_iff.mp (by decide +kernel)) (by decide +kernel)

open Outage in
/-- A job whose executor has returned a result is reported as failed after one lost connection. -/
theorem not_outcomeReported :
    ¬ ∀ (self : Consumer) (message : StreamMessage) (job : JobMessage),
      message.read = .ok (some job) → ∀ (redis : Redis) (attrs : Attrs),
      redis.cancelled job.jobId = false → ∀ system : System,
      Pool.Reaches (machine self (.outage job.jobId))
        (Pool.single { redis := redis, attrs := attrs } .loop (processEntry self message)) system →
      system.Ended → system.state.log.any (Entry.launches job.jobId) = true →
      OutcomeReported job system.state.log := by
  intro claim
  have reported := claim Sample.consumer (Sample.message "1-0" "job") Sample.job Sample.message_read
    _ _ rfl _ lossyRun_reaches (System.ended_iff.mp (by decide +kernel)) (by decide +kernel)
  have failed : lossyRun.state.log.any (Entry.reportsFailure "job") = true := by decide +kernel
  have uncollected : lossyRun.state.log.any Entry.collectsError = false := by decide +kernel
  have unsent : lossyRun.state.log.any (Entry.reportsResult "job") = false := by decide +kernel
  rcases reported.truthful failed with collected | sent
  · rw [collected] at uncollected
    cases uncollected
  · change lossyRun.state.log.any (Entry.reportsResult "job") = true at sent
    rw [sent] at unsent
    cases unsent

end CodaNode
