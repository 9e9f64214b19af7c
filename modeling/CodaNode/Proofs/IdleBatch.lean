/-
Module: CodaNode.Proofs.IdleBatch
Layer: Proofs
Purpose: The idle event across one call of `_process_batch` and the delivery task it returns, while Redis answers
  every command. The event is set again unless the messages are processed one by one and none of them passes the
  checks any more.
Imports: CodaNode.Proofs.IdleEvent, CodaNode.Protocol.Crew
Main exports: Policy.Served, Reopened, processBatch_idle_iff
-/
import CodaNode.Proofs.IdleEvent
import CodaNode.Protocol.Crew

namespace CodaNode

open Coroutine Coro

/-- No Redis command fails. -/
def Policy.Served (policy : Policy) : Prop :=
  ∀ op exception, policy.fault op exception → op.isRedis = false

namespace Entry

/-- A message is processed by itself. -/
def replays : Entry → Bool
  | .call .loop (.note (.processMessage _)) _ _ => true
  | _ => false

/-- A task is created. -/
def spawns : Entry → Bool
  | .call .loop (.createTask _) _ _ => true
  | _ => false

end Entry

/-- Messages were processed one by one. -/
def FellBack (log : List Entry) : Prop := log.any Entry.replays = true

/-- A message that was processed by itself passed the checks. -/
def Reopened (log : List Entry) : Prop :=
  ∃ before after, log = before ++ after ∧ before.any Entry.replays = true ∧ after.any Entry.clears = true

namespace IdleBatch

open IdleEvent

section

variable {log more : List Entry} {event : EnvEvent}

theorem reopened_front (reopened : Reopened log) : Reopened (log ++ more) := by
  obtain ⟨before, after, rfl, replayed, cleared⟩ := reopened
  refine ⟨before, after ++ more, by rw [List.append_assoc], replayed, ?_⟩
  rw [List.any_append, cleared, Bool.true_or]

theorem reopened_behind (reopened : Reopened more) : Reopened (log ++ more) := by
  obtain ⟨before, after, rfl, replayed, cleared⟩ := reopened
  refine ⟨log ++ before, after, by rw [List.append_assoc], ?_, cleared⟩
  rw [List.any_append, replayed, Bool.or_true]

/-- Only a check that finds no flag reopens. -/
theorem reopened_append (untaken : ¬ TakenOn more) : Reopened (log ++ more) ↔ Reopened log := by
  constructor
  · rintro ⟨before, after, same, replayed, cleared⟩
    rcases List.append_eq_append_iff.mp same with ⟨between, rfl, rfl⟩ | ⟨between, rfl, rfl⟩
    · refine absurd ?_ untaken
      rw [TakenOn, List.any_append, cleared, Bool.or_true]
    · rw [List.any_append, Bool.or_eq_true] at cleared
      rcases cleared with earlier | later
      · exact ⟨before, between, rfl, replayed, earlier⟩
      · exact absurd later untaken
  · exact reopened_front

theorem reopened_env : Reopened (log ++ [.env event]) ↔ Reopened log :=
  reopened_append (by simp [TakenOn, Entry.clears])

theorem fellBack_env : FellBack (log ++ [.env event]) ↔ FellBack log := by
  rw [FellBack, FellBack, any_env rfl]

theorem not_reopened (steadfast : ¬ FellBack log) : ¬ Reopened log := by
  rintro ⟨before, after, rfl, replayed, -⟩
  apply steadfast
  rw [FellBack, List.any_append, replayed, Bool.true_or]

end

/-! ### One message of the fallback -/

/-- The event is set if and only if a message passed the checks. -/
def Fallback (attrs : Attrs) (log : List Entry) : Prop := attrs.idle = true ↔ Reopened log

/-- The call has been logged, and what was cleared came behind it. -/
def Opened (_ : Attrs) (log : List Entry) : Prop := FellBack log ∧ (TakenOn log → Reopened log)

/-- No command was refused. -/
def Smooth (_ : Attrs) (log : List Entry) : Prop :=
  ∀ entry ∈ log, entry.refusesExecuting = false ∧ entry.refusesAck = false

theorem lasting_fallback : Lasting Fallback := by
  intro attrs log event running here
  exact here.trans reopened_env.symm

theorem opened_append {attrs attrs' : Attrs} {log more : List Entry} (opened : Opened attrs log) :
    Opened attrs' (log ++ more) := by
  refine ⟨?_, fun taken => ?_⟩
  · rw [FellBack, List.any_append, show log.any Entry.replays = true from opened.1, Bool.true_or]
  · rw [TakenOn, List.any_append, Bool.or_eq_true] at taken
    rcases taken with earlier | later
    · exact reopened_front (opened.2 earlier)
    · exact ⟨log, more, rfl, opened.1, later⟩

theorem not_jammed_of_smooth {attrs : Attrs} {log : List Entry} (smooth : Smooth attrs log) : ¬ Jammed log := by
  rintro (refused | ⟨-, refused⟩)
  · obtain ⟨entry, inside, fails⟩ := List.any_eq_true.mp refused
    rw [(smooth entry inside).1] at fails
    cases fails
  · obtain ⟨entry, inside, fails⟩ := List.any_eq_true.mp refused
    rw [(smooth entry inside).2] at fails
    cases fails

variable {self : Consumer} {policy : Policy} {front : List Entry}

theorem smooth_triple (served : policy.Served) {α : Type} (body : Task α) :
    Triple (machine self policy) .loop (fun _ => True) (Since front Smooth) body (fun _ => Since front Smooth)
      fun _ => Since front Smooth := by
  apply Since.invariant _ _ (Issues.any body)
  · intro attrs log event running smooth
    exact forall_snoc smooth ⟨rfl, rfl⟩
  · intro op world log outcome fate next _ performs smooth entry inside
    rcases List.mem_append.mp inside with earlier | later
    · exact smooth entry earlier
    · unfold recordOf at later
      split at later
      · rw [List.mem_singleton.mp later]
        have answered (redis : op.isRedis = true) (exception : Exc) (same : outcome = .error exception) :
            world.effect op (.error exception) = some next := by
          subst same
          cases performs with
          | answered _ effect => exact effect
          | lost _ admitted =>
              rw [served op exception admitted] at redis
              cases redis
          | executed _ admitted =>
              rw [served op exception admitted] at redis
              cases redis
        cases op with
        | hset jobId mapping =>
            cases outcome with
            | ok value => exact ⟨rfl, rfl⟩
            | error exception =>
                have impossible := answered rfl exception rfl
                cases impossible
        | xack messageId =>
            cases outcome with
            | ok value => exact ⟨rfl, rfl⟩
            | error exception =>
                have impossible := answered rfl exception rfl
                cases impossible
        | _ => exact ⟨rfl, rfl⟩
      · cases later

/-- The call of `_process_message` is logged first. -/
theorem opens_does (messageId : String) (fields : Fields) :
    Triple (machine self policy) .loop (fun _ => True) (Since front fun _ log => ¬ TakenOn log)
      (processMessage self messageId fields) (fun _ => Since front Opened)
      fun _ => Since front Opened := by
  have lasting : Lasting Opened := fun _ _ _ _ opened => opened_append opened
  have note : Triple (machine self policy) .loop (fun _ => True) (Since front fun _ log => ¬ TakenOn log)
      (CodaNode.call (.note (.processMessage ⟨messageId, fields⟩))) (fun _ => Since front Opened)
      fun _ => Since front Opened := by
    apply Since.triple _ (fun _ => lasting) fun _ => lasting
    · intro world log value fate next performs untaken
      refine ⟨by simp [FellBack, recordOf, Op.logged, Entry.replays], fun taken => absurd taken ?_⟩
      simpa [TakenOn, recordOf, Op.logged, Entry.clears] using untaken
    · intro world log exception fate next performs
      obtain ⟨value, impossible⟩ := World.feasible_of_performs performs rfl
      cases impossible
    · intro attrs log event running untaken taken
      exact untaken (takenOn_env.mp taken)
  apply note.bind
  intro _
  apply Since.invariant lasting _ (Issues.any _)
  intro op world log outcome fate next _ performs opened
  exact opened_append opened

/-- One message of the fallback. -/
theorem replay_does (served : policy.Served) (message : StreamMessage) :
    Triple (machine self policy) .loop (fun _ => True) (Since front Fallback) (processEntry self message)
      (fun _ => Since front fun attrs log => Fallback attrs log ∧ FellBack log) fun _ _ => True := by
  rintro world last rest ⟨log, same, before⟩ leads
  refine ⟨trivial, ?_, fun _ _ => trivial⟩
  rintro value rfl
  let here (attrs : Attrs) : Prop := attrs.idle = true ↔ Reopened log
  have start {holds : Attrs → List Entry → Prop} (nothing : holds world.attrs []) : Since world.log holds world :=
    ⟨[], by simp, nothing⟩
  have checks : Triple (machine self policy) .loop (fun _ => True) (Since world.log (Waiting here))
      (processEntry self message) (fun _ => Since world.log (Ended here)) fun _ => Since world.log (Ended here) :=
    processMessage_does (fun _ _ same => same) message.messageId message.fields
  have ended := (checks (start ⟨⟨before, by simp [TakenOn], rfl⟩, rfl⟩) leads).2.1 value rfl
  have opened := ((opens_does message.messageId message.fields) (start (by simp [TakenOn])) leads).2.1 value rfl
  have smooth := ((smooth_triple served (processEntry self message)) (start (by simp [Smooth])) leads).2.1 value rfl
  obtain ⟨more, grown, ended⟩ := ended
  obtain ⟨_, grown', opened⟩ := opened
  rw [grown, List.append_cancel_left_eq] at grown'
  subst grown'
  obtain ⟨_, grown', smooth⟩ := smooth
  rw [grown, List.append_cancel_left_eq] at grown'
  subst grown'
  refine ⟨log ++ more, by rw [grown, same, List.append_assoc], ?_, ?_⟩
  · rcases ended with ⟨passed, untaken, -⟩ | ⟨-, -, jammed⟩ | ⟨free, taken, -⟩
    · exact passed.trans (reopened_append untaken).symm
    · exact absurd jammed (not_jammed_of_smooth smooth)
    · exact iff_of_true free.1 (reopened_behind (opened.2 taken))
  · rw [FellBack, List.any_append, show more.any Entry.replays = true from opened.1, Bool.or_true]

/-- The messages of the fallback. -/
theorem replays_does (served : policy.Served) (messages : List StreamMessage) :
    Triple (machine self policy) .loop (fun _ => True) (Since front Fallback)
      (Coro.forEach messages (processEntry self))
      (fun _ => Since front fun attrs log => Fallback attrs log ∧ (messages ≠ [] → FellBack log))
      fun _ _ => True := by
  induction messages with
  | nil =>
      apply Since.ret
      · rintro attrs log event running ⟨here, -⟩
        exact ⟨lasting_fallback _ _ _ _ here, fun impossible => absurd rfl impossible⟩
      · exact fun _ _ here => ⟨here, fun impossible => absurd rfl impossible⟩
  | cons message rest again =>
      apply (replay_does served message).bind
      intro _
      cases rest with
      | nil =>
          apply Since.ret
          · rintro attrs log event running ⟨here, replayed⟩
            exact ⟨lasting_fallback _ _ _ _ here, fun some => fellBack_env.mpr (replayed some)⟩
          · exact fun _ _ here => ⟨here.1, fun _ => here.2⟩
      | cons next rest =>
          apply again.consequence
          · rintro world ⟨log, same, here, -⟩
            exact ⟨log, same, here⟩
          · exact fun _ _ => trivial
          · rintro _ world ⟨log, same, here, replayed⟩
            exact ⟨log, same, here, fun _ => replayed (List.cons_ne_nil _ _)⟩
          · exact fun _ _ _ => trivial

/-! ### One batch -/

/-- The event is in this state, and nothing was processed by itself. -/
def Steady (idle : Bool) (attrs : Attrs) (log : List Entry) : Prop := attrs.idle = idle ∧ ¬ FellBack log

/-- The operations on the batch as a whole. -/
def OnBatch : Op → Prop
  | .modify _ | .createTask _ | .note (.processMessage _) => False
  | _ => True

theorem lasting_steady (idle : Bool) : Lasting (Steady idle) := by
  rintro attrs log event running ⟨same, steadfast⟩
  exact ⟨same, fun replayed => steadfast (fellBack_env.mp replayed)⟩

theorem steady_triple {α : Type} {body : Task α} {idle : Bool} (issues : body.Issues OnBatch) :
    Triple (machine self policy) .loop (fun _ => True) (Since front (Steady idle)) body
      (fun _ => Since front (Steady idle)) fun _ _ => True := by
  have kept : Triple (machine self policy) .loop (fun _ => True) (Since front (Steady idle)) body
      (fun _ => Since front (Steady idle)) fun _ => Since front (Steady idle) := by
    apply Since.invariant (lasting_steady idle) _ issues
    rintro op world log outcome fate next permitted performs ⟨same, steadfast⟩
    refine ⟨?_, fun replayed => steadfast ?_⟩
    · have attrs : next.attrs = world.attrs := by
        apply World.attrs_of_performs performs
        rintro change rfl
        exact permitted
      exact attrs ▸ same
    · rw [FellBack, List.any_append, Bool.or_eq_true] at replayed
      rcases replayed with earlier | later
      · exact earlier
      · unfold recordOf at later
        split at later
        · rw [List.any_cons, List.any_nil, Bool.or_false] at later
          unfold Entry.replays at later
          split at later
          · next same =>
            cases same
            exact permitted.elim
          · cases later
        · cases later
  exact kept.returns

/-- What is true where a call returns. -/
def Verdict (result : Option Nat) (attrs : Attrs) (log : List Entry) : Prop :=
  match result with
  | none => attrs.idle = true ↔ (FellBack log → Reopened log)
  | some _ => ¬ FellBack log ∧ log.any Entry.spawns = true

theorem lasting_verdict (result : Option Nat) : Lasting (Verdict result) := by
  intro attrs log event running verdict
  cases result with
  | none =>
      rw [Verdict, fellBack_env, reopened_env]
      exact verdict
  | some number =>
      refine ⟨fun replayed => verdict.1 (fellBack_env.mp replayed), ?_⟩
      rw [any_env rfl]
      exact verdict.2

/-- The batch was not run as a whole. -/
theorem fallback_does (served : policy.Served) {messages : List StreamMessage} (some : messages ≠ []) :
    Triple (machine self policy) .loop (fun _ => True) (Since front (Steady false))
      (do
        Coro.forEach messages (processEntry self)
        return none) (fun result => Since front (Verdict result)) fun _ _ => True := by
  have processed : Triple (machine self policy) .loop (fun _ => True) (Since front (Steady false))
      (Coro.forEach messages (processEntry self)) (fun _ => Since front (Verdict none)) fun _ _ => True := by
    apply (replays_does served messages).consequence
    · rintro world ⟨log, same, busy, steadfast⟩
      refine ⟨log, same, iff_of_false ?_ (not_reopened steadfast)⟩
      rw [busy]
      exact Bool.false_ne_true
    · exact fun _ _ => trivial
    · rintro _ world ⟨log, same, here, replayed⟩
      exact ⟨log, same, here.trans ⟨fun reopened _ => reopened, fun reopened => reopened (replayed some)⟩⟩
    · exact fun _ _ _ => trivial
  apply processed.bind
  intro _
  exact Since.ret (lasting_verdict none) fun _ _ here => here

/-- The delivery task is created. -/
theorem hand_over_does (spec : TaskSpec) :
    Triple (machine self policy) .loop (fun _ => True) (Since front (Steady false))
      (do
        let number ← CodaNode.call (.createTask spec)
        return some number) (fun result => Since front (Verdict result)) fun _ _ => True := by
  have creates : Triple (machine self policy) .loop (fun _ => True) (Since front (Steady false))
      (CodaNode.call (.createTask spec)) (fun number => Since front (Verdict (some number)))
      fun _ => Since front fun _ _ => True := by
    apply Since.triple (lasting_steady false) (fun number => lasting_verdict (some number))
    · exact fun _ _ _ _ _ _ => trivial
    · rintro world log number fate next performs ⟨-, steadfast⟩
      refine ⟨?_, by simp [recordOf, Op.logged, Entry.spawns]⟩
      simpa [FellBack, recordOf, Op.logged, Entry.replays] using steadfast
    · exact fun _ _ => trivial
  apply creates.returns.bind
  intro number
  exact Since.ret (lasting_verdict (some number)) fun _ _ here => here

theorem parseBatchMessage_onBatch (message : StreamMessage) : (parseBatchMessage self message).Issues OnBatch := by
  have acks : (discard (safeXack message.messageId)).Issues OnBatch := by
    apply Issues.bind
    · apply Issues.handle
      · exact Issues.bind (.perform trivial) fun _ => trivial
      · intro _
        trivial
      · intro exception
        split <;> trivial
    · intro _
      trivial
  have skips : ((do
      discard (safeXack message.messageId)
      return none) : Task (Option ParsedJob)).Issues OnBatch :=
    Issues.bind acks fun _ => trivial
  apply Issues.bind (Issues.ofExcept _)
  intro decoded
  cases requiredFields decoded with
  | error exception => exact skips
  | ok required =>
      obtain ⟨jobId, callbackUrl⟩ := required
      apply Issues.bind (.perform trivial)
      intro status
      split
      · exact skips
      · apply Issues.bind (.perform trivial)
        intro flag
        split
        · apply Issues.bind
          · exact Issues.bind (.perform trivial) fun now => safeHset_issues trivial
          · intro _
            exact skips
        · cases parseCircuit self decoded with
          | error exception => exact skips
          | ok circuit => trivial

theorem Issues.collect {α τ : Type} {allowed : Op → Prop} {body : τ → Task α} (each : ∀ item, (body item).Issues allowed)
    (items : List τ) : (Coro.collect items body).Issues allowed := by
  induction items with
  | nil => trivial
  | cons item rest again =>
      apply Issues.bind (each item)
      intro value
      apply Issues.bind again
      intro values
      trivial

theorem Issues.forEach {τ : Type} {allowed : Op → Prop} {body : τ → Task Unit}
    (each : ∀ item, (body item).Issues allowed) (items : List τ) : (Coro.forEach items body).Issues allowed := by
  induction items with
  | nil => trivial
  | cons item rest again => exact Issues.bind (each item) fun _ => again

theorem markBatchExecuting_onBatch (job : ParsedJob) : (markBatchExecuting self job).Issues OnBatch :=
  Issues.bind (.perform trivial) fun _ => safeHset_issues trivial

theorem runBatch_does (served : policy.Served) {messages : List StreamMessage} {parsed : List ParsedJob}
    (some : parsed ≠ [] → messages ≠ []) :
    Triple (machine self policy) .loop (fun _ => True) (Since front (Steady true)) (runBatch self messages parsed)
      (fun result => Since front (Verdict result)) fun _ _ => True := by
  unfold runBatch
  split
  · have stays : Triple (machine self policy) .loop (fun _ => True) (Since front (Steady true)) (.ret none)
        (fun result => Since front (Verdict result)) fun _ _ => True := by
      apply Since.ret (lasting_verdict none)
      rintro attrs log ⟨idle, steadfast⟩
      exact iff_of_true idle fun replayed => absurd replayed steadfast
    exact stays
  · next filled =>
    have nonempty : messages ≠ [] := some (by simpa using filled)
    have clears : Triple (machine self policy) .loop (fun _ => True) (Since front (Steady true))
        (assign fun attrs => { attrs with idle := false }) (fun _ => Since front (Steady false))
        fun _ => Since front fun _ _ => True := by
      apply Since.triple (lasting_steady true) (fun _ => lasting_steady false)
      · exact fun _ _ _ _ _ _ => trivial
      · rintro world log value fate next performs ⟨-, steadfast⟩
        rw [World.modify_performs performs]
        exact ⟨rfl, by simpa [recordOf, Op.logged] using steadfast⟩
      · exact fun _ _ => trivial
    apply clears.returns.bind
    intro _
    apply (steady_triple (Issues.forEach markBatchExecuting_onBatch parsed)).bind
    intro _
    split
    · have runs : Triple (machine self policy) .loop (fun _ => True) (Since front (Steady false))
          (CodaNode.call (.batchRun (batchJobs parsed))) (fun _ => Since front (Steady false))
          fun _ => Since front (Steady false) := by
        have steady {world next : World} {log : List Entry} {outcome : Except Exc (List ExecutionResult)} {fate : Fate}
            (performs : World.Performs policy world (.batchRun (batchJobs parsed)) outcome fate next)
            (here : Steady false world.attrs log) :
            Steady false next.attrs (log ++ recordOf .loop (.batchRun (batchJobs parsed)) outcome fate) := by
          refine ⟨(World.attrs_of_performs performs (by simp)) ▸ here.1, ?_⟩
          simpa [FellBack, recordOf, Op.logged, Entry.replays] using here.2
        apply Since.triple (lasting_steady false) (fun _ => lasting_steady false) fun _ => lasting_steady false
        · intro world log results fate next performs here
          exact steady performs here
        · intro world log exception fate next performs here
          exact steady performs here
      apply runs.handle
      · intro results
        exact hand_over_does _
      · intro exception
        split
        · exact fallback_does served nonempty
        · have raised : Triple (machine self policy) .loop (fun _ => True) (Since front (Steady false))
              (.raise exception) (fun result => Since front (Verdict result)) fun _ => Since front fun _ _ => True :=
            Since.raise (fun _ _ _ _ _ => trivial) fun _ _ _ => trivial
          exact raised.returns
    · exact fallback_does served nonempty

/-- One call. -/
theorem processBatch_does (served : policy.Served) (messages : List StreamMessage) :
    Triple (machine self policy) .loop (fun _ => True) (Since front (Steady true)) (processBatch self messages)
      (fun result => Since front (Verdict result)) fun _ _ => True := by
  have notes : (CodaNode.call (.note (.processBatch messages))).Issues OnBatch := .perform trivial
  apply (steady_triple notes).bind
  intro _
  cases messages with
  | nil =>
      have none : ([] : List ParsedJob) ≠ [] → ([] : List StreamMessage) ≠ [] :=
        fun impossible => absurd rfl impossible
      exact runBatch_does served none
  | cons message rest =>
      apply (steady_triple (Issues.collect parseBatchMessage_onBatch _)).bind
      intro parsed
      exact runBatch_does served fun _ => List.cons_ne_nil _ _

/-! ### The creation of the delivery task -/

/-- Not the creation of a task. -/
def Lone (op : Op) : Prop := ∀ spec, op ≠ .createTask spec

/-- A created task is a delivery task, and its number is returned at once. -/
def HandsOver : Task (Option Nat) → Prop
  | .ret _ | .raise _ => True
  | .call op resume =>
      (∀ spec, op = .createTask spec → (∃ parsed results, spec = .deliverBatch parsed results) ∧
        ∀ value, ∃ number, resume (.ok value) = .ret (some number)) ∧
      ∀ outcome, HandsOver (resume outcome)

theorem HandsOver.handle {α : Type} {body : Task α} {next : α → Task (Option Nat)} {handler : Exc → Task (Option Nat)}
    (lone : body.Issues Lone) (returned : ∀ value, HandsOver (next value))
    (raised : ∀ exception, HandsOver (handler exception)) : HandsOver (body.handle next handler) := by
  induction body with
  | ret value => exact returned value
  | raise exception => exact raised exception
  | call op resume again =>
      refine ⟨fun spec same => absurd same (lone.1 spec), fun outcome => again outcome (lone.2 outcome)⟩

theorem HandsOver.bind {α : Type} {body : Task α} {next : α → Task (Option Nat)} (lone : body.Issues Lone)
    (returned : ∀ value, HandsOver (next value)) : HandsOver (body >>= next) :=
  HandsOver.handle lone returned fun _ => trivial

theorem lone_of_onJob (op : Op) (onJob : OnJob op) : Lone op := by
  rintro spec rfl
  exact onJob

theorem lone_of_preliminary (op : Op) (preliminary : Preliminary op) : Lone op := by
  rintro spec rfl
  exact preliminary

theorem lone_of_onBatch (op : Op) (onBatch : OnBatch op) : Lone op := by
  rintro spec rfl
  exact onBatch

/-- One operation that creates no task. -/
theorem lone_perform {op : Op} (other : ∀ spec, op ≠ .createTask spec := by simp) :
    (CodaNode.call op).Issues Lone := .perform other

theorem runMessage_lone (messageId jobId callbackUrl : String) (decoded : List (String × String)) :
    (runMessage self messageId jobId callbackUrl decoded).Issues Lone := by
  have clean : (cleanUpJob messageId).Issues Lone := by
    apply Issues.bind ((safeXack_preliminary messageId).imp lone_of_preliminary)
    intro _
    exact Issues.bind lone_perform fun _ => lone_perform
  have executes : ((executeJob self jobId callbackUrl decoded).catching
      (handleJobError self jobId messageId callbackUrl)).Issues Lone := by
    apply Issues.handle ((executeJob_onJob jobId callbackUrl decoded).imp lone_of_onJob)
    · intro _
      trivial
    · intro exception
      exact (handleJobError_onJob jobId messageId callbackUrl exception).imp lone_of_onJob
  apply Issues.bind lone_perform
  intro _
  apply Issues.bind lone_perform
  intro _
  apply Issues.bind lone_perform
  intro now
  apply Issues.bind (safeHset_issues (by simp [Lone]))
  intro _
  apply Issues.handle executes
  · intro _
    exact Issues.handle clean (fun _ => trivial) fun _ => trivial
  · intro exception
    exact Issues.handle clean (fun _ => trivial) fun _ => trivial

theorem processEntry_lone (message : StreamMessage) : (processEntry self message).Issues Lone := by
  have acks : (discard (safeXack message.messageId)).Issues Lone :=
    (safeXack_preliminary message.messageId).imp lone_of_preliminary
  apply Issues.bind lone_perform
  intro _
  apply Issues.bind (Issues.ofExcept _)
  intro decoded
  cases requiredFields decoded with
  | error exception => exact acks
  | ok required =>
      obtain ⟨jobId, callbackUrl⟩ := required
      apply Issues.bind lone_perform
      intro status
      split
      · exact acks
      · apply Issues.bind lone_perform
        intro flag
        split
        · exact Issues.bind ((markJobCancelled_preliminary jobId message.messageId).imp lone_of_preliminary)
            fun _ => acks
        · exact runMessage_lone message.messageId jobId callbackUrl decoded

theorem processBatch_handsOver (messages : List StreamMessage) : HandsOver (processBatch self messages) := by
  have fallback : HandsOver (do
      Coro.forEach messages (processEntry self)
      return none) :=
    HandsOver.bind (Issues.forEach processEntry_lone messages) fun _ => trivial
  apply HandsOver.bind lone_perform
  intro _
  apply HandsOver.bind ((Issues.collect parseBatchMessage_onBatch messages).imp lone_of_onBatch)
  intro parsed
  unfold runBatch
  split
  · trivial
  · apply HandsOver.bind lone_perform
    intro _
    apply HandsOver.bind ((Issues.forEach markBatchExecuting_onBatch parsed.reduceOption).imp lone_of_onBatch)
    intro _
    split
    · apply HandsOver.handle lone_perform
      · intro results
        refine ⟨?_, ?_⟩
        · intro spec same
          cases same
          exact ⟨⟨_, _, rfl⟩, fun value => ⟨value, rfl⟩⟩
        · intro outcome
          cases outcome <;> trivial
      · intro exception
        split
        · exact fallback
        · trivial
    · exact fallback

/-! ### The tasks -/

/-- A coroutine is a table of its own. -/
inductive Itself : Task Unit → (op : Op) → Except Exc op.Reply → Task Unit → Prop where
  | step {op : Op} {resume : Except Exc op.Reply → Task Unit} {outcome : Except Exc op.Reply} :
      Itself (.call op resume) op outcome (resume outcome)

theorem follows_itself (body : Task Unit) :
    Follows Itself (fun _ later => later = Coro.ofExcept (.ok ()))
      (fun exception later => later = Coro.ofExcept (.error exception)) body body := by
  induction body with
  | ret value => rfl
  | raise exception => rfl
  | call op resume again =>
      exact ⟨⟨.error ⟨.other, ""⟩, _, .step⟩, fun outcome _ => ⟨_, .step, again outcome⟩⟩

/-- The delivery task has set the event. -/
def Released : GatherStage → Prop
  | .finish _ | .past _ => True
  | _ => False

/-- A call of `_process_batch`, and then its delivery task. -/
inductive Holds (self : Consumer) (policy : Policy) (messages : List StreamMessage) (world : World) :
    Crew (Task Unit) → Prop where
  | waiting {last : World} {inner : Task (Option Nat)} {log : List Entry}
      (leads : Leads (machine self policy) .loop world (processBatch self messages) last inner)
      (hands : HandsOver inner) (same : last.log = world.log ++ log) (unspawned : log.any Entry.spawns = false) :
      Holds self policy messages world ⟨last, discard inner, []⟩
  | delivering {last : World} {number : Nat} {parsed : List ParsedJob} {results : List ExecutionResult}
      {stage : GatherStage} {others : List Post} {log : List Entry} (same : last.log = world.log ++ log)
      (steadfast : ¬ FellBack log) (released : Released stage → last.attrs.idle = true)
      (singles : ∀ post ∈ others, ∃ number delivery stage, post = .single number delivery stage) :
      Holds self policy messages world ⟨last, .ret (), .gather number parsed results stage :: others⟩

section

variable {messages : List StreamMessage} {world last next : World} {stage later : Task Unit} {posts : List Post}
  {op : Op} {outcome : Except Exc op.Reply} {fate : Fate}

theorem created_of_lone (lone : Lone op) : last.created op = [] := by
  cases op with
  | createTask spec => exact absurd rfl (lone spec)
  | _ => rfl

theorem Holds.env {event : EnvEvent} (allowed : policy.env event) (occurs : last.occur event = some next)
    (holds : Holds self policy messages world ⟨last, stage, posts⟩) :
    Holds self policy messages world ⟨next.record (.env event), stage, posts⟩ := by
  have grown {log : List Entry} (same : last.log = world.log ++ log) :
      (next.record (.env event)).log = world.log ++ (log ++ [.env event]) := by
    rw [World.record_log, World.log_of_occur occurs, same, List.append_assoc]
  cases holds with
  | waiting leads hands same unspawned =>
      exact .waiting (.env leads ⟨event, next, allowed, occurs, rfl⟩) hands (grown same)
        ((any_env rfl).trans unspawned)
  | delivering same steadfast released singles =>
      refine .delivering (grown same) (fun replayed => steadfast (fellBack_env.mp replayed)) ?_ singles
      intro done
      rw [World.record_attrs, World.attrs_of_occur occurs]
      split
      · exact released done
      · exact released done

theorem Holds.main (served : policy.Served) (idle : world.attrs.idle = true) (row : Itself stage op outcome later)
    (performs : World.Performs policy last op outcome fate next)
    (holds : Holds self policy messages world ⟨last, stage, posts⟩) :
    Holds self policy messages world ⟨next.recordCall .loop op outcome fate, later, posts ++ last.created op⟩ := by
  cases holds with
  | delivering => cases row
  | @waiting _ inner log leads hands same unspawned =>
      cases inner with
      | ret value => cases row
      | raise exception => cases row
      | call op resume =>
          have step : Itself (.call op fun outcome => discard (resume outcome)) _ outcome later := row
          cases step with
          | step =>
              have moved : Leads (machine self policy) .loop world (processBatch self messages)
                  (next.recordCall .loop op outcome fate) (resume outcome) :=
                .call leads ⟨fate, next, performs, rfl⟩
              by_cases creates : ∃ spec, op = .createTask spec
              · obtain ⟨spec, rfl⟩ := creates
                obtain ⟨⟨parsed, results, rfl⟩, returns⟩ := hands.1 spec rfl
                obtain ⟨rfl, -, -⟩ := World.createTask_performs performs
                obtain ⟨number, returned⟩ := returns last.tasks.length
                have start : Since world.log (Steady true) world := ⟨[], by simp, idle, by simp [FellBack]⟩
                obtain ⟨more, grown, steadfast, -⟩ :=
                  (processBatch_does served messages start moved).2.1 (some number) returned
                have ended : discard (resume (.ok last.tasks.length)) = .ret () := by
                  rw [returned]
                  rfl
                change Holds self policy messages world ⟨_, discard (resume (.ok last.tasks.length)), _⟩
                rw [ended]
                exact .delivering grown steadfast (fun done => done.elim) fun _ impossible => by cases impossible
              · have lone : Lone op := fun spec same => creates ⟨spec, same⟩
                rw [created_of_lone lone]
                have grown : (next.recordCall .loop op outcome fate).log =
                    world.log ++ (log ++ recordOf .loop op outcome fate) := by
                  rw [World.recordCall_log_of_performs .loop performs, same, recordOf]
                  split <;> simp
                refine .waiting moved (hands.2 outcome) grown ?_
                rw [List.any_append, unspawned, Bool.false_or, recordOf]
                split
                · rw [List.any_cons, List.any_nil, Bool.or_false]
                  unfold Entry.spawns
                  split
                  · next same =>
                    cases same
                    exact absurd rfl (lone _)
                  · rfl
                · rfl

/-- A row of the delivery task that does not set the event yet. -/
theorem released_of_row {number : Nat} {parsed : List ParsedJob} {results : List ExecutionResult}
    {stage later : GatherStage} (row : GatherStage.Move number parsed results stage op outcome later)
    (performs : World.Performs policy last op outcome fate next)
    (released : Released stage → last.attrs.idle = true) (done : Released later) : next.attrs.idle = true := by
  cases row with
  | start => exact done.elim
  | @clock now =>
      unfold GatherStage.opening at done
      cases shape : zipStrict parsed results now with
      | error exception =>
          rw [shape] at done
          exact done.elim
      | ok deliveries =>
          rw [shape] at done
          cases deliveries <;> exact done.elim
  | @spawn _ _ _ todo => cases todo <;> exact done.elim
  | @gather _ _ outcome => cases outcome <;> exact done.elim
  | stamp => exact done.elim
  | release => rw [World.modify_performs performs]
  | finish =>
      rw [World.attrs_of_performs performs (by simp)]
      exact released trivial

theorem attrs_of_single {number : Nat} {delivery : Delivery} {stage later : SingleStage}
    (row : SingleStage.Move self number delivery stage op outcome later)
    (performs : World.Performs policy last op outcome fate next) :
    next.attrs = last.attrs ∧ last.created op = [] := by
  cases row <;> exact ⟨World.attrs_of_performs performs (by simp), rfl⟩

theorem created_of_gather {number : Nat} {parsed : List ParsedJob} {results : List ExecutionResult}
    {stage later : GatherStage} (row : GatherStage.Move number parsed results stage op outcome later) :
    ∀ post ∈ last.created op, ∃ number delivery stage, post = .single number delivery stage := by
  intro post member
  cases row with
  | spawn => exact ⟨_, _, _, List.mem_singleton.mp member⟩
  | _ => cases member

theorem Holds.post {before after : List Post} {post moved : Post} (row : Post.Move self post op outcome moved)
    (performs : World.Performs policy last op outcome fate next)
    (holds : Holds self policy messages world ⟨last, stage, before ++ post :: after⟩) :
    Holds self policy messages world ⟨next.recordCall post.role op outcome fate, stage,
      before ++ moved :: after ++ last.created op⟩ := by
  have grown {log : List Entry} (same : last.log = world.log ++ log) :
      (next.recordCall post.role op outcome fate).log = world.log ++ (log ++ recordOf post.role op outcome fate) := by
    rw [World.recordCall_log_of_performs post.role performs, same, recordOf]
    split <;> simp
  have quiet {log : List Entry} (steadfast : ¬ FellBack log) :
      ¬ FellBack (log ++ recordOf post.role op outcome fate) := by
    rw [FellBack, List.any_append, (Bool.not_eq_true _).mp steadfast, Bool.false_or, recordOf]
    split <;> simp [Post.role, Entry.replays]
  generalize shape : before ++ post :: after = crew at holds
  cases holds with
  | waiting =>
      have length := congrArg List.length shape
      simp at length
  | @delivering _ number parsed results stage others log same steadfast released singles =>
      rcases before with _ | ⟨first, before⟩
      · obtain ⟨rfl, rfl⟩ := List.cons.inj shape
        cases row with
        | gather row =>
            refine .delivering (grown same) (quiet steadfast) ?_ ?_
            · rw [World.recordCall_attrs]
              exact released_of_row row performs released
            · intro other member
              rcases List.mem_append.mp member with old | new
              · exact singles other old
              · exact created_of_gather row other new
      · obtain ⟨rfl, rfl⟩ := List.cons.inj shape
        obtain ⟨number', delivery, stage', rfl⟩ := singles post (by simp)
        cases row with
        | @single _ _ _ _ _ moved row =>
            obtain ⟨attrs, created⟩ := attrs_of_single row performs
            rw [created, List.append_nil]
            refine .delivering (grown same) (quiet steadfast) ?_ ?_
            · rw [World.recordCall_attrs, attrs]
              exact released
            · intro other member
              rcases List.mem_append.mp member with front | back
              · exact singles other (List.mem_append_left _ front)
              · rcases List.mem_cons.mp back with rfl | behind
                · exact ⟨_, _, _, rfl⟩
                · exact singles other (List.mem_append_right _ (List.mem_cons_of_mem _ behind))

theorem Holds.step (served : policy.Served) (idle : world.attrs.idle = true) {first second : Crew (Task Unit)}
    (step : Crew.Step self policy Itself first second) (holds : Holds self policy messages world first) :
    Holds self policy messages world second := by
  cases step with
  | env allowed occurs => exact holds.env allowed occurs
  | main row performs => exact holds.main served idle row performs
  | post row performs => exact holds.post row performs

end

end IdleBatch

open IdleBatch IdleEvent

/-- While Redis answers every command: once `_process_batch` has returned and its delivery task, if there is one, has
ended, the idle event is set, unless the messages were processed one by one and none of them passed the checks
again. -/
theorem processBatch_idle_iff (self : Consumer) (policy : Policy) (served : policy.Served)
    (messages : List StreamMessage) (world : World) (idle : world.attrs.idle = true) (system : System)
    (reaches : Pool.Reaches (machine self policy) (Pool.single world .loop (discard (processBatch self messages)))
      system)
    (returned : system.Returned)
    (delivered : ∀ number parsed results body, (Role.task number (.deliverBatch parsed results), body) ∈ system.tasks →
      ∀ op resume, body ≠ .call op resume) :
    ∃ log, system.state.log = world.log ++ log ∧
      (system.state.attrs.idle = true ↔ (FellBack log → Reopened log)) := by
  let past (outcome : Except Exc Unit) (later : Task Unit) : Prop := later = Coro.ofExcept outcome
  have follows : Follows Itself (fun _ => past (.ok ())) (fun exception => past (.error exception))
      (discard (processBatch self messages)) (discard (processBatch self messages)) := follows_itself _
  have start : Holds self policy messages world ⟨world, discard (processBatch self messages), []⟩ :=
    .waiting .refl (processBatch_handsOver messages) (List.append_nil world.log).symm rfl
  obtain ⟨crew, stands, holds⟩ := follows.reaches (fun step held => Holds.step served idle step held) start reaches
  obtain ⟨body, others, tasks, elsewhere, main⟩ := stands.main
  have ended : crew.main = .ret () := by
    rw [System.Returned, tasks] at returned
    rcases List.mem_cons.mp returned with same | other
    · cases same
      exact main
    · exact absurd rfl (elsewhere _ other)
  rw [← stands.1]
  cases holds with
  | @waiting last inner log leads hands same unspawned =>
      refine ⟨log, same, ?_⟩
      have begun : Since world.log (Steady true) world := ⟨[], by simp, idle, by simp [FellBack]⟩
      cases inner with
      | call op resume => cases ended
      | raise exception => cases ended
      | ret result =>
          obtain ⟨log', same', verdict⟩ := (processBatch_does served messages begun leads).2.1 result rfl
          rw [same, List.append_cancel_left_eq] at same'
          subst same'
          cases result with
          | none => exact verdict
          | some number =>
              rw [verdict.2] at unspawned
              cases unspawned
  | @delivering last number parsed results stage others log same steadfast released singles =>
      refine ⟨log, same, iff_of_true ?_ fun replayed => absurd replayed steadfast⟩
      obtain ⟨head, rest, -, behind, shape⟩ := List.forall₂_cons_right_iff.mp stands.2
      obtain ⟨⟨name, body⟩, rest, ⟨named, follows⟩, -, rfl⟩ := List.forall₂_cons_right_iff.mp behind
      change name = .task number (.deliverBatch parsed results) at named
      subst named
      have finished := delivered number parsed results body (by rw [shape]; simp)
      have done : (Post.gather number parsed results stage).ending.isSome = true := by
        cases body with
        | ret value => exact follows
        | raise exception => exact follows
        | call op resume => exact absurd rfl (finished op resume)
      cases stage with
      | past outcome => exact released trivial
      | _ => cases done

namespace IdleBatch

/-- Anything but a Redis command may fail. -/
def served : Policy where
  fault op exception := op.isRedis = false ∧ exception.isForeign
  env _ := True

theorem served_served : served.Served := fun _ _ admitted => admitted.1

def batch : List StreamMessage := [Sample.message "1-0" "first", Sample.message "2-0" "second"]

def opening : World := { redis := Sample.delivered batch }

/-- The executor fails on batches. -/
def fails (_ : World) : Op → Option Exc
  | .batchRun _ => some ⟨.other, "the backend is busy"⟩
  | _ => none

def play (failures : World → Op → Option Exc) (script : List (Turn EnvEvent)) : System :=
  System.play Sample.consumer served ((Surroundings.plain Sample.result).failing failures) script
    (Pool.single opening .loop (discard (processBatch Sample.consumer batch)))

theorem play_reaches {failures : World → Op → Option Exc}
    (faults : ∀ world op exception, failures world op = some exception → served.fault op exception)
    (script : List (Turn EnvEvent)) :
    Pool.Reaches (machine Sample.consumer served)
      (Pool.single opening .loop (discard (processBatch Sample.consumer batch))) (play failures script) :=
  System.play_reaches (Surroundings.failing_within (Surroundings.plain_within fun _ _ _ _ => trivial) faults) _ _
    fun _ _ => trivial

/-- While the batch is executed the cloud cancels both jobs. -/
def cancelled : System :=
  play fails (List.replicate 10 (.task 0) ++ [.env (.cancelRequested "first"), .env (.cancelRequested "second")] ++
    List.replicate 13 (.task 0))

theorem fails_faults (world : World) (op : Op) (exception : Exc) (failed : fails world op = some exception) :
    served.fault op exception := by
  unfold fails at failed
  split at failed
  · cases failed
    exact ⟨rfl, rfl⟩
  · cases failed

/-- The executor returns, and both results are delivered. -/
def delivered : System :=
  play (fun _ _ => none) (List.replicate 12 (.task 0) ++ List.replicate 4 (.task 1) ++ List.replicate 7 (.task 2) ++
    List.replicate 7 (.task 3) ++ List.replicate 4 (.task 1))

end IdleBatch

open IdleBatch in
/-- The executor fails on a batch while the cloud cancels its jobs: the call returns, no task is left, and the idle
event stays cleared. -/
theorem processBatch_not_idle :
    Pool.Reaches (machine Sample.consumer served)
      (Pool.single opening .loop (discard (processBatch Sample.consumer batch))) cancelled ∧
      opening.attrs.idle = true ∧ cancelled.tasks = [(.loop, .ret ())] ∧ cancelled.state.attrs.idle = false :=
  ⟨play_reaches fails_faults _, rfl, rfl, rfl⟩

open IdleBatch in
/-- The result, for a batch that is delivered. -/
theorem processBatch_idle_iff_delivered : delivered.state.attrs.idle = true ∧
    Pool.Reaches (machine Sample.consumer served)
      (Pool.single opening .loop (discard (processBatch Sample.consumer batch))) delivered := by
  have reaches : Pool.Reaches (machine Sample.consumer served)
      (Pool.single opening .loop (discard (processBatch Sample.consumer batch))) delivered :=
    play_reaches (fun _ _ _ impossible => by cases impossible) _
  have ended : delivered.Ended := System.ended_iff.mp (by decide +kernel)
  have head : delivered.tasks.head? = some (Role.loop, (.ret () : Task Unit)) := rfl
  have returned : System.Returned delivered := List.mem_of_head? head
  obtain ⟨log, same, verdict⟩ := processBatch_idle_iff Sample.consumer served served_served batch opening rfl delivered
    reaches returned fun number parsed results body member => ended _ member
  refine ⟨verdict.mpr fun replayed => ?_, reaches⟩
  have quiet : delivered.state.log.any Entry.replays = false := by decide +kernel
  rw [same, List.any_append, Bool.or_eq_false_iff] at quiet
  rw [show log.any Entry.replays = true from replayed] at quiet
  cases quiet.2

end CodaNode
