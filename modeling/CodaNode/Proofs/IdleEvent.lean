/-
Module: CodaNode.Proofs.IdleEvent
Layer: Proofs
Purpose: The idle event and the current job across one call of `_process_message`, for every outcome of every
  operation. The two are restored unless the executing status cannot be written, or a job that was taken on
  cannot be acknowledged, for another reason than a lost connection.
Imports: CodaNode.Coroutine.Triple, CodaNode.Protocol.Rows, CodaNode.Server.Log
Main exports: Since, Attrs.Free, Jammed, processMessage_does, processMessage_free_iff
-/
import CodaNode.Coroutine.Triple
import CodaNode.Protocol.Rows
import CodaNode.Server.Log

namespace CodaNode

open Coroutine Coro

/-- The idle event is set, and there is no current job. -/
def Attrs.Free (attrs : Attrs) : Prop := attrs.idle = true ∧ attrs.currentJobId = none

namespace Entry

/-- A check found no cancellation flag. -/
def clears : Entry → Bool
  | .call .loop (.getCancelled _) (.ok false) _ => true
  | _ => false

/-- The executing status could not be written, and not because the connection was lost. -/
def refusesExecuting : Entry → Bool
  | .call .loop (.hset _ mapping) (.error exception) _ =>
      mapping.state = some .executing && !exception.isConnection
  | _ => false

/-- A message could not be acknowledged, and not because the connection was lost. -/
def refusesAck : Entry → Bool
  | .call .loop (.xack _) (.error exception) _ => !exception.isConnection
  | _ => false

end Entry

/-- A job was taken on: a check found no flag. -/
def TakenOn (log : List Entry) : Prop := log.any Entry.clears = true

/-- The executing status could not be written, or the message of a job that was taken on could not be
acknowledged. -/
def Jammed (log : List Entry) : Prop :=
  log.any Entry.refusesExecuting = true ∨ TakenOn log ∧ log.any Entry.refusesAck = true

/-! ### What holds since a moment -/

/-- The attributes, and what the log has gained since it was `front`. -/
def Since (front : List Entry) (holds : Attrs → List Entry → Prop) (world : World) : Prop :=
  ∃ log, world.log = front ++ log ∧ holds world.attrs log

/-- The environment leaves it alone. -/
def Lasting (holds : Attrs → List Entry → Prop) : Prop :=
  ∀ attrs log event running, holds attrs log →
    holds { attrs with running := running } (log ++ [.env event])

/-- The record of an operation. -/
def recordOf (role : Role) (op : Op) (outcome : Except Exc op.Reply) (fate : Fate) : List Entry :=
  if op.logged then [.call role op outcome fate] else []

section

variable {self : Consumer} {policy : Policy} {front : List Entry}

theorem Since.keeps {holds : Attrs → List Entry → Prop} (lasting : Lasting holds) :
    (machine self policy).Keeps (Since front holds) := by
  rintro world after ⟨event, next, -, occurs, rfl⟩ ⟨log, same, here⟩
  refine ⟨log ++ [.env event], ?_, ?_⟩
  · rw [World.record_log, World.log_of_occur occurs, same, List.append_assoc]
  · rw [World.record_attrs, World.attrs_of_occur occurs]
    split
    · exact lasting _ _ _ false here
    · exact lasting _ _ _ world.attrs.running here

/-- What an operation does to the attributes and to the log. -/
theorem Since.performed {role : Role} {holds : Attrs → List Entry → Prop} {op : Op}
    {outcome : Except Exc op.Reply} {world after : World} (here : Since front holds world)
    (performed : (machine self policy).perform role world op outcome after) :
    ∃ log fate next, World.Performs policy world op outcome fate next ∧ holds world.attrs log ∧
      after.log = front ++ (log ++ recordOf role op outcome fate) ∧ after.attrs = next.attrs := by
  obtain ⟨log, same, here⟩ := here
  obtain ⟨fate, next, performs, rfl⟩ := performed
  refine ⟨log, fate, next, performs, here, ?_, World.recordCall_attrs ..⟩
  rw [World.recordCall_log_of_performs role performs, same, recordOf]
  split <;> simp

/-- The rule for an operation. -/
theorem Since.triple {op : Op} {pre : Attrs → List Entry → Prop}
    {post : op.Reply → Attrs → List Entry → Prop} {failed : Exc → Attrs → List Entry → Prop}
    (before : Lasting pre) (after : ∀ value, Lasting (post value)) (raised : ∀ exception, Lasting (failed exception))
    (returns : ∀ {world log value fate next}, World.Performs policy world op (.ok value) fate next →
      pre world.attrs log → post value next.attrs (log ++ recordOf .loop op (.ok value) fate))
    (raises : ∀ {world log exception fate next}, World.Performs policy world op (.error exception) fate next →
      pre world.attrs log → failed exception next.attrs (log ++ recordOf .loop op (.error exception) fate)) :
    Triple (machine self policy) .loop (fun _ => True) (Since front pre) (CodaNode.call op)
      (fun value => Since front (post value)) fun exception => Since front (failed exception) := by
  refine Triple.perform (keeps before) (fun _ _ => trivial) ?_ ?_ (fun value => keeps (after value))
    (fun exception => keeps (raised exception)) (fun _ _ _ => trivial) fun _ _ _ => trivial
  · intro value world behind here performed
    obtain ⟨log, fate, next, performs, here, logs, attrs⟩ := here.performed performed
    exact ⟨_, logs, attrs ▸ returns performs here⟩
  · intro exception world behind here performed
    obtain ⟨log, fate, next, performs, here, logs, attrs⟩ := here.performed performed
    exact ⟨_, logs, attrs ▸ raises performs here⟩

theorem Since.ret {α : Type} {value : α} {pre : Attrs → List Entry → Prop} {post : α → Attrs → List Entry → Prop}
    {failed : Exc → World → Prop} (after : Lasting (post value))
    (implies : ∀ attrs log, pre attrs log → post value attrs log) :
    Triple (machine self policy) .loop (fun _ => True) (Since front pre) (.ret value)
      (fun value => Since front (post value)) failed := by
  apply Triple.ret
  · exact keeps after
  · rintro world ⟨log, same, here⟩
    exact ⟨log, same, implies _ log here⟩
  · intro _ _
    trivial

theorem Since.raise {α : Type} {exception : Exc} {pre : Attrs → List Entry → Prop} {post : α → World → Prop}
    {failed : Exc → Attrs → List Entry → Prop} (after : Lasting (failed exception))
    (implies : ∀ attrs log, pre attrs log → failed exception attrs log) :
    Triple (machine self policy) .loop (fun _ => True) (Since front pre) (.raise exception) post
      fun exception => Since front (failed exception) := by
  apply Triple.raise
  · exact keeps after
  · rintro world ⟨log, same, here⟩
    exact ⟨log, same, implies _ log here⟩
  · intro _ _
    trivial

/-- The operations among which an assertion holds throughout. -/
theorem Since.invariant {α : Type} {body : Task α} {holds : Attrs → List Entry → Prop} {allowed : Op → Prop}
    (lasting : Lasting holds)
    (kept : ∀ {op world log outcome fate next}, allowed op → World.Performs policy world op outcome fate next →
      holds world.attrs log → holds next.attrs (log ++ recordOf .loop op outcome fate))
    (issues : body.Issues allowed) :
    Triple (machine self policy) .loop (fun _ => True) (Since front holds) body (fun _ => Since front holds)
      fun _ => Since front holds := by
  apply (Triple.invariant (keeps lasting) _ issues).consequence
  · exact fun _ here => here
  · exact fun _ _ => trivial
  · exact fun _ _ here => here
  · exact fun _ _ here => here
  · intro op outcome world after permitted performed here
    obtain ⟨log, fate, next, performs, here, logs, attrs⟩ := here.performed performed
    exact ⟨_, logs, attrs ▸ kept permitted performs here⟩

end

/-! ### The stages of a call -/

namespace IdleEvent

/-- No job was taken on, and the attributes are as before. -/
def Passed (here : Attrs → Prop) (attrs : Attrs) (log : List Entry) : Prop :=
  here attrs ∧ ¬ TakenOn log ∧ log.any Entry.refusesExecuting = false

/-- A job was taken on, and nothing has gone wrong. -/
def Claimed (_ : Attrs) (log : List Entry) : Prop := TakenOn log ∧ ¬ Jammed log

/-- The job is in hand. -/
def Busy (attrs : Attrs) (log : List Entry) : Prop := attrs.idle = false ∧ TakenOn log ∧ ¬ Jammed log

/-- The idle event stays cleared. -/
def Stuck (attrs : Attrs) (log : List Entry) : Prop := attrs.idle = false ∧ TakenOn log ∧ Jammed log

/-- The job is done with. -/
def Done (attrs : Attrs) (log : List Entry) : Prop := attrs.Free ∧ TakenOn log ∧ ¬ Jammed log

/-- What is true where a call ends. -/
def Ended (here : Attrs → Prop) (attrs : Attrs) (log : List Entry) : Prop :=
  Passed here attrs log ∨ Stuck attrs log ∨ Done attrs log

section

variable {log more : List Entry} {event : EnvEvent} {here : Attrs → Prop}

theorem any_env {test : Entry → Bool} (silent : test (.env event) = false) :
    (log ++ [Entry.env event]).any test = log.any test := by
  simp [silent]

theorem takenOn_env : TakenOn (log ++ [.env event]) ↔ TakenOn log := by
  rw [TakenOn, TakenOn, any_env rfl]

theorem jammed_env : Jammed (log ++ [.env event]) ↔ Jammed log := by
  rw [Jammed, Jammed, takenOn_env, any_env rfl, any_env rfl]

theorem takenOn_append (taken : TakenOn log) : TakenOn (log ++ more) := by
  unfold TakenOn at taken ⊢
  rw [List.any_append, taken, Bool.true_or]

/-- What follows the claim jams it only by failing. -/
theorem not_jammed_append (taken : TakenOn log) (free : ¬ Jammed log)
    (smooth : ∀ entry ∈ more, entry.refusesExecuting = false ∧ entry.refusesAck = false) : ¬ Jammed (log ++ more) := by
  rintro (refused | ⟨-, refused⟩)
  · obtain ⟨entry, inside, fails⟩ := List.any_eq_true.mp refused
    rcases List.mem_append.mp inside with earlier | later
    · exact free (.inl (List.any_eq_true.mpr ⟨entry, earlier, fails⟩))
    · rw [(smooth entry later).1] at fails
      cases fails
  · obtain ⟨entry, inside, fails⟩ := List.any_eq_true.mp refused
    rcases List.mem_append.mp inside with earlier | later
    · exact free (.inr ⟨taken, List.any_eq_true.mpr ⟨entry, earlier, fails⟩⟩)
    · rw [(smooth entry later).2] at fails
      cases fails

theorem lasting_passed (stays : ∀ attrs running, here attrs → here { attrs with running := running }) :
    Lasting (Passed here) := by
  rintro attrs log event running ⟨same, untaken, unrefused⟩
  exact ⟨stays attrs running same, fun taken => untaken (takenOn_env.mp taken), (any_env rfl).trans unrefused⟩

theorem lasting_claimed : Lasting Claimed := by
  rintro attrs log event running ⟨taken, free⟩
  exact ⟨takenOn_append taken, fun jammed => free (jammed_env.mp jammed)⟩

theorem lasting_busy : Lasting Busy := by
  rintro attrs log event running ⟨same, taken, free⟩
  exact ⟨same, takenOn_append taken, fun jammed => free (jammed_env.mp jammed)⟩

theorem lasting_stuck : Lasting Stuck := by
  rintro attrs log event running ⟨same, taken, jammed⟩
  exact ⟨same, takenOn_append taken, jammed_env.mpr jammed⟩

theorem lasting_done : Lasting Done := by
  rintro attrs log event running ⟨same, taken, free⟩
  exact ⟨same, takenOn_append taken, fun jammed => free (jammed_env.mp jammed)⟩

theorem lasting_ended (stays : ∀ attrs running, here attrs → here { attrs with running := running }) :
    Lasting (Ended here) := by
  rintro attrs log event running (passed | stuck | done)
  · exact .inl (lasting_passed stays _ _ _ _ passed)
  · exact .inr (.inl (lasting_stuck _ _ _ _ stuck))
  · exact .inr (.inr (lasting_done _ _ _ _ done))

end

/-- The operations before a job is taken on, the check of the flag apart. -/
def Preliminary : Op → Prop
  | .getCancelled _ | .modify _ | .createTask _ => False
  | .hset _ mapping => mapping.state ≠ some .executing
  | _ => True

/-- The operations on a job in hand. -/
def OnJob : Op → Prop
  | .modify change => ∀ attrs, (change attrs).idle = attrs.idle
  | .xack _ | .createTask _ => False
  | .hset _ mapping => mapping.state ≠ some .executing
  | _ => True

variable {self : Consumer} {policy : Policy} {front : List Entry} {here : Attrs → Prop}

theorem passed_triple {α : Type} {body : Task α}
    (stays : ∀ attrs running, here attrs → here { attrs with running := running })
    (issues : body.Issues Preliminary) :
    Triple (machine self policy) .loop (fun _ => True) (Since front (Passed here)) body
      (fun _ => Since front (Passed here)) fun _ => Since front (Passed here) := by
  apply Since.invariant (lasting_passed stays) _ issues
  rintro op world log outcome fate next permitted performs ⟨same, untaken, unrefused⟩
  have quiet : ∀ entry ∈ recordOf .loop op outcome fate,
      entry.clears = false ∧ entry.refusesExecuting = false := by
    intro entry inside
    unfold recordOf at inside
    split at inside
    · rw [List.mem_singleton.mp inside]
      cases op with
      | getCancelled jobId => exact permitted.elim
      | hset jobId mapping =>
          refine ⟨rfl, ?_⟩
          cases outcome with
          | ok value => rfl
          | error exception =>
              simp only [Entry.refusesExecuting, Bool.and_eq_false_iff, decide_eq_false_iff_not]
              exact .inl permitted
      | _ => exact ⟨rfl, rfl⟩
    · cases inside
  refine ⟨?_, ?_, ?_⟩
  · have kept : next.attrs = world.attrs := by
      apply World.attrs_of_performs performs
      rintro change rfl
      exact permitted
    rw [kept]
    exact same
  · intro taken
    obtain ⟨entry, inside, cleared⟩ := List.any_eq_true.mp taken
    rcases List.mem_append.mp inside with earlier | later
    · exact untaken (List.any_eq_true.mpr ⟨entry, earlier, cleared⟩)
    · rw [(quiet entry later).1] at cleared
      cases cleared
  · rw [List.any_append, unrefused, Bool.false_or, List.any_eq_false]
    intro entry inside
    rw [(quiet entry inside).2]
    exact Bool.false_ne_true

theorem busy_triple {α : Type} {body : Task α} (issues : body.Issues OnJob) :
    Triple (machine self policy) .loop (fun _ => True) (Since front Busy) body (fun _ => Since front Busy)
      fun _ => Since front Busy := by
  apply Since.invariant lasting_busy _ issues
  rintro op world log outcome fate next permitted performs ⟨same, taken, free⟩
  refine ⟨?_, takenOn_append taken, not_jammed_append taken free ?_⟩
  · cases op with
    | modify change =>
        rw [World.modify_performs performs]
        exact (permitted world.attrs).trans same
    | _ =>
        rw [World.attrs_of_performs performs (by simp)]
        exact same
  · intro entry inside
    unfold recordOf at inside
    split at inside
    · rw [List.mem_singleton.mp inside]
      cases op with
      | xack messageId => exact permitted.elim
      | hset jobId mapping =>
          refine ⟨?_, rfl⟩
          cases outcome with
          | ok value => rfl
          | error exception =>
              simp only [Entry.refusesExecuting, Bool.and_eq_false_iff, decide_eq_false_iff_not]
              exact .inl permitted
      | _ => exact ⟨rfl, rfl⟩
    · cases inside

/-! ### What the parts of a call issue -/

theorem Issues.ofExcept {α : Type} {allowed : Op → Prop} (result : Except Exc α) :
    (Coro.ofExcept result : Task α).Issues allowed := by
  cases result <;> trivial

theorem safeXack_preliminary (messageId : String) : (discard (safeXack messageId)).Issues Preliminary := by
  apply Issues.bind
  · apply Issues.handle
    · exact Issues.bind (.perform trivial) fun _ => trivial
    · intro _
      trivial
    · intro exception
      split <;> trivial
  · intro _
    trivial

/-- A status other than executing. -/
theorem safeHset_issues {allowed : Op → Prop} {jobId : String} {mapping : StatusHash}
    (permitted : allowed (.hset jobId mapping)) : (discard (safeHset jobId mapping)).Issues allowed := by
  apply Issues.bind
  · apply Issues.handle
    · exact Issues.bind (.perform permitted) fun _ => trivial
    · intro _
      trivial
    · intro exception
      split <;> trivial
  · intro _
    trivial

theorem markJobCancelled_preliminary (jobId messageId : String) :
    (markJobCancelled self jobId messageId).Issues Preliminary :=
  Issues.bind (.perform trivial) fun now => safeHset_issues (by simp [Preliminary])

theorem markJobCancelled_onJob (jobId messageId : String) : (markJobCancelled self jobId messageId).Issues OnJob :=
  Issues.bind (.perform trivial) fun now => safeHset_issues (by simp [OnJob])

theorem pollRun_onJob (jobId : String) (rounds : Nat) : (pollRun self jobId rounds).Issues OnJob := by
  induction rounds with
  | zero =>
      apply Issues.bind (.perform trivial)
      intro never
      cases never
  | succ rounds again =>
      apply Issues.bind (.perform trivial)
      intro done
      split
      · apply Issues.bind (.perform trivial)
        intro result
        apply Issues.bind (.perform trivial)
        intro flag
        split <;> trivial
      · apply Issues.bind (.perform trivial)
        intro flag
        split
        · apply Issues.bind
          · unfold requestRunnerCancel
            split
            · apply Issues.handle (.perform trivial)
              · intro _
                trivial
              · intro exception
                split <;> trivial
            · trivial
          · intro _
            apply Issues.bind (.perform trivial)
            intro _
            apply Issues.bind
            · apply Issues.handle
              · exact Issues.bind (.perform trivial) fun _ => trivial
              · intro _
                trivial
              · intro _
                trivial
            · intro _
              trivial
        · exact again

theorem runJobWithCancellation_onJob (jobId : String) (ir : NativeGateIR) (shots : Int) :
    (runJobWithCancellation self jobId ir shots).Issues OnJob := by
  have settles : ((do
      if ← CodaNode.call .runDone then
        return ()
      else
        CodaNode.call .cancelRun) : Task Unit).Issues OnJob := by
    apply Issues.bind (.perform trivial)
    intro done
    split
    · trivial
    · exact .perform trivial
  apply Issues.bind (.perform trivial)
  intro _
  apply Issues.handle (pollRun_onJob jobId self.pollRounds)
  · intro result
    exact Issues.handle settles (fun _ => trivial) fun _ => trivial
  · intro exception
    exact Issues.handle settles (fun _ => trivial) fun _ => trivial

theorem executeJob_onJob (jobId callbackUrl : String) (decoded : List (String × String)) :
    (executeJob self jobId callbackUrl decoded).Issues OnJob := by
  apply Issues.bind (Issues.ofExcept _)
  intro circuit
  apply Issues.bind (runJobWithCancellation_onJob jobId circuit.1 circuit.2)
  intro result
  apply Issues.bind (.perform trivial)
  intro flag
  split
  · trivial
  · apply Issues.bind (.perform trivial)
    intro now
    apply Issues.bind (safeHset_issues (by simp [OnJob]))
    intro _
    apply Issues.bind (.perform trivial)
    intro flag
    split
    · trivial
    · apply Issues.bind (.perform trivial)
      intro _
      apply Issues.bind (.perform trivial)
      intro now
      exact .perform fun _ => rfl

theorem handleJobError_onJob (jobId messageId callbackUrl : String) (exception : Exc) :
    (handleJobError self jobId messageId callbackUrl exception).Issues OnJob := by
  unfold handleJobError
  split
  · exact markJobCancelled_onJob jobId messageId
  · split
    · apply Issues.bind (.perform trivial)
      intro flag
      split
      · exact markJobCancelled_onJob jobId messageId
      · apply Issues.bind (.perform trivial)
        intro now
        apply Issues.bind (safeHset_issues (by simp [OnJob]))
        intro _
        apply Issues.handle (.perform trivial)
        · intro _
          trivial
        · intro failure
          split <;> trivial
    · trivial

/-! ### One call -/

/-- Nothing has been decided yet. -/
def Waiting (here : Attrs → Prop) (attrs : Attrs) (log : List Entry) : Prop :=
  Passed here attrs log ∧ log.any Entry.refusesAck = false

theorem lasting_waiting (stays : ∀ attrs running, here attrs → here { attrs with running := running }) :
    Lasting (Waiting here) := by
  rintro attrs log event running ⟨passed, unrefused⟩
  exact ⟨lasting_passed stays _ _ _ _ passed, (any_env rfl).trans unrefused⟩

/-- An operation that shows nothing of interest. -/
theorem Waiting.performs {world next : World} {log : List Entry} {op : Op} {outcome : Except Exc op.Reply}
    {fate : Fate} (performs : World.Performs policy world op outcome fate next) (other : ∀ change, op ≠ .modify change)
    (silent : (Entry.call .loop op outcome fate).clears = false ∧
      (Entry.call .loop op outcome fate).refusesExecuting = false ∧
      (Entry.call .loop op outcome fate).refusesAck = false)
    (waiting : Waiting here world.attrs log) : Waiting here next.attrs (log ++ recordOf .loop op outcome fate) := by
  obtain ⟨⟨same, untaken, unrefused⟩, unrefusedAck⟩ := waiting
  have quiet {test : Entry → Bool} (nothing : test (.call .loop op outcome fate) = false)
      (earlier : log.any test = false) : (log ++ recordOf .loop op outcome fate).any test = false := by
    rw [List.any_append, earlier, Bool.false_or, recordOf]
    split
    · simp [nothing]
    · rfl
  refine ⟨⟨(World.attrs_of_performs performs other) ▸ same, ?_, quiet silent.2.1 unrefused⟩,
    quiet silent.2.2 unrefusedAck⟩
  unfold TakenOn at untaken ⊢
  rw [quiet silent.1 ((Bool.not_eq_true _).mp untaken)]
  exact Bool.false_ne_true

/-- The log of the call. -/
theorem note_does (stays : ∀ attrs running, here attrs → here { attrs with running := running })
    (message : StreamMessage) :
    Triple (machine self policy) .loop (fun _ => True) (Since front (Waiting here))
      (CodaNode.call (.note (.processMessage message))) (fun _ => Since front (Waiting here))
      fun _ => Since front (Passed here) := by
  apply Since.triple (lasting_waiting stays) (fun _ => lasting_waiting stays) fun _ => lasting_passed stays
  · intro world log value fate next performs waiting
    exact waiting.performs performs (by simp) ⟨rfl, rfl, rfl⟩
  · intro world log exception fate next performs waiting
    exact (waiting.performs performs (by simp) ⟨rfl, rfl, rfl⟩).1

theorem status_does (stays : ∀ attrs running, here attrs → here { attrs with running := running })
    (jobId : String) :
    Triple (machine self policy) .loop (fun _ => True) (Since front (Waiting here)) (getJobStatus jobId)
      (fun _ => Since front (Waiting here)) fun _ => Since front (Passed here) := by
  apply Since.triple (lasting_waiting stays) (fun _ => lasting_waiting stays) fun _ => lasting_passed stays
  · intro world log value fate next performs waiting
    exact waiting.performs performs (by simp) ⟨rfl, rfl, rfl⟩
  · intro world log exception fate next performs waiting
    exact (waiting.performs performs (by simp) ⟨rfl, rfl, rfl⟩).1

/-- The check of the flag decides whether the job is taken on. -/
theorem flag_does (stays : ∀ attrs running, here attrs → here { attrs with running := running }) (jobId : String) :
    Triple (machine self policy) .loop (fun _ => True) (Since front (Waiting here)) (hasCancelSignal jobId)
      (fun flag => Since front (if flag then Passed here else Claimed)) fun _ => Since front (Passed here) := by
  apply Since.triple (lasting_waiting stays)
  · intro flag
    cases flag with
    | true => exact lasting_passed stays
    | false => exact lasting_claimed
  · intro _
    exact lasting_passed stays
  · intro world log flag fate next performs waiting
    cases flag with
    | true => exact (waiting.performs performs (by simp) ⟨rfl, rfl, rfl⟩).1
    | false =>
        obtain ⟨⟨-, -, unrefused⟩, unrefusedAck⟩ := waiting
        refine ⟨by simp [TakenOn, recordOf, Op.logged, Entry.clears], ?_⟩
        rintro (refused | ⟨-, refused⟩)
        · simp [recordOf, Op.logged, Entry.refusesExecuting, unrefused] at refused
        · simp [recordOf, Op.logged, Entry.refusesAck, unrefusedAck] at refused
  · intro world log exception fate next performs waiting
    exact (waiting.performs performs (by simp) ⟨rfl, rfl, rfl⟩).1

/-- The idle event is cleared. -/
theorem clear_does : Triple (machine self policy) .loop (fun _ => True) (Since front Claimed)
    (assign fun attrs => { attrs with idle := false }) (fun _ => Since front Busy) fun _ => Since front Stuck := by
  apply Since.triple lasting_claimed (fun _ => lasting_busy) fun _ => lasting_stuck
  · rintro world log value fate next performs ⟨taken, free⟩
    rw [World.modify_performs performs]
    refine ⟨rfl, ?_, ?_⟩
    · simpa [recordOf, Op.logged] using taken
    · simpa [recordOf, Op.logged] using free
  · intro world log exception fate next performs
    obtain ⟨value, impossible⟩ := World.feasible_of_performs performs rfl
    cases impossible

/-- A write that is guarded against lost connections. -/
theorem guarded_does {write : Task Unit}
    (writes : Triple (machine self policy) .loop (fun _ => True) (Since front Busy) write (fun _ => Since front Busy)
      fun exception => Since front (if exception.isConnection then Busy else Stuck)) :
    Triple (machine self policy) .loop (fun _ => True) (Since front Busy)
      (discard (Coro.catching (do
          write
          return true) fun exception => if exception.isConnection then .ret false else .raise exception))
      (fun _ => Since front Busy) fun _ => Since front Stuck := by
  have returns : Triple (machine self policy) .loop (fun _ => True) (Since front Busy)
      (do
        write
        return true) (fun _ => Since front Busy)
      fun exception => Since front (if exception.isConnection then Busy else Stuck) :=
    writes.bind fun _ => Since.ret lasting_busy fun _ _ here => here
  have caught : Triple (machine self policy) .loop (fun _ => True) (Since front Busy)
      (Coro.catching (do
          write
          return true) fun exception => if exception.isConnection then .ret false else .raise exception)
      (fun _ => Since front Busy) fun _ => Since front Stuck := by
    apply returns.handle
    · intro _
      exact Since.ret lasting_busy fun _ _ here => here
    · intro exception
      split
      · exact Since.ret lasting_busy fun _ _ here => here
      · exact Since.raise lasting_stuck fun _ _ here => here
  apply caught.bind
  intro _
  exact Since.ret lasting_busy fun _ _ here => here

theorem lasting_caught (exception : Exc) : Lasting (if exception.isConnection then Busy else Stuck) := by
  split
  · exact lasting_busy
  · exact lasting_stuck

/-- The write of the executing status. -/
theorem begin_does {jobId : String} {mapping : StatusHash} (executing : mapping.state = some .executing) :
    Triple (machine self policy) .loop (fun _ => True) (Since front Busy) (discard (safeHset jobId mapping))
      (fun _ => Since front Busy) fun _ => Since front Stuck := by
  apply guarded_does
  apply Since.triple lasting_busy (fun _ => lasting_busy) lasting_caught
  · rintro world log value fate next performs ⟨same, taken, free⟩
    refine ⟨(World.attrs_of_performs performs (by simp)) ▸ same, takenOn_append taken,
      not_jammed_append taken free ?_⟩
    simp [recordOf, Op.logged, Entry.refusesExecuting, Entry.refusesAck]
  · rintro world log exception fate next performs ⟨same, taken, free⟩
    have attrs : next.attrs = world.attrs := World.attrs_of_performs performs (by simp)
    cases lost : exception.isConnection with
    | true =>
        refine ⟨attrs ▸ same, takenOn_append taken, not_jammed_append taken free ?_⟩
        simp [recordOf, Op.logged, Entry.refusesExecuting, Entry.refusesAck, lost]
    | false =>
        refine ⟨attrs ▸ same, takenOn_append taken, .inl ?_⟩
        simp [recordOf, Op.logged, Entry.refusesExecuting, executing, lost]

/-- The acknowledgement. -/
theorem acknowledge_does (messageId : String) :
    Triple (machine self policy) .loop (fun _ => True) (Since front Busy) (discard (safeXack messageId))
      (fun _ => Since front Busy) fun _ => Since front Stuck := by
  apply guarded_does
  apply Since.triple lasting_busy (fun _ => lasting_busy) lasting_caught
  · rintro world log value fate next performs ⟨same, taken, free⟩
    refine ⟨(World.attrs_of_performs performs (by simp)) ▸ same, takenOn_append taken,
      not_jammed_append taken free ?_⟩
    simp [recordOf, Op.logged, Entry.refusesExecuting, Entry.refusesAck]
  · rintro world log exception fate next performs ⟨same, taken, free⟩
    have attrs : next.attrs = world.attrs := World.attrs_of_performs performs (by simp)
    cases lost : exception.isConnection with
    | true =>
        refine ⟨attrs ▸ same, takenOn_append taken, not_jammed_append taken free ?_⟩
        simp [recordOf, Op.logged, Entry.refusesExecuting, Entry.refusesAck, lost]
    | false =>
        refine ⟨attrs ▸ same, takenOn_append taken, .inr ⟨takenOn_append taken, ?_⟩⟩
        simp [recordOf, Op.logged, Entry.refusesAck, lost]

/-- The `finally` clause. -/
theorem cleanUpJob_does (messageId : String) :
    Triple (machine self policy) .loop (fun _ => True) (Since front Busy) (cleanUpJob messageId)
      (fun _ => Since front Done) fun _ => Since front Stuck := by
  -- between the two assignments there is no current job, and the event is not set yet
  let between (attrs : Attrs) (log : List Entry) : Prop := Busy attrs log ∧ attrs.currentJobId = none
  have lasting : Lasting between := by
    rintro attrs log event running ⟨busy, none⟩
    exact ⟨lasting_busy _ _ _ _ busy, none⟩
  apply (acknowledge_does messageId).bind
  intro _
  have first : Triple (machine self policy) .loop (fun _ => True) (Since front Busy)
      (assign fun attrs => { attrs with currentJobId := none }) (fun _ => Since front between)
      fun _ => Since front Stuck := by
    apply Since.triple lasting_busy (fun _ => lasting) fun _ => lasting_stuck
    · rintro world log value fate next performs ⟨same, taken, free⟩
      rw [World.modify_performs performs]
      refine ⟨⟨same, ?_, ?_⟩, rfl⟩
      · simpa [recordOf, Op.logged] using taken
      · simpa [recordOf, Op.logged] using free
    · intro world log exception fate next performs
      obtain ⟨value, impossible⟩ := World.feasible_of_performs performs rfl
      cases impossible
  apply first.bind
  intro _
  apply Since.triple lasting (fun _ => lasting_done) fun _ => lasting_stuck
  · rintro world log value fate next performs ⟨⟨-, taken, free⟩, none⟩
    rw [World.modify_performs performs]
    refine ⟨⟨rfl, none⟩, ?_, ?_⟩
    · simpa [recordOf, Op.logged] using taken
    · simpa [recordOf, Op.logged] using free
  · intro world log exception fate next performs
    obtain ⟨value, impossible⟩ := World.feasible_of_performs performs rfl
    cases impossible

/-- A job that is taken on. -/
theorem runMessage_does (messageId jobId callbackUrl : String) (decoded : List (String × String)) :
    Triple (machine self policy) .loop (fun _ => True) (Since front Claimed)
      (runMessage self messageId jobId callbackUrl decoded) (fun _ => Since front Done)
      fun _ => Since front fun attrs log => Stuck attrs log ∨ Done attrs log := by
  have lasting : Lasting fun attrs log => Stuck attrs log ∨ Done attrs log := by
    rintro attrs log event running (stuck | done)
    · exact .inl (lasting_stuck _ _ _ _ stuck)
    · exact .inr (lasting_done _ _ _ _ done)
  have stuck (_ : Exc) (world : World) (here : Since front Stuck world) :
      Since front (fun attrs log => Stuck attrs log ∨ Done attrs log) world := by
    obtain ⟨log, same, here⟩ := here
    exact ⟨log, same, .inl here⟩
  have weaken {body : Task Unit} {pre : World → Prop} {post : Unit → World → Prop}
      (triple : Triple (machine self policy) .loop (fun _ => True) pre body post fun _ => Since front Stuck) :
      Triple (machine self policy) .loop (fun _ => True) pre body post
        fun _ => Since front fun attrs log => Stuck attrs log ∨ Done attrs log :=
    triple.consequence (fun _ here => here) (fun _ _ => trivial) (fun _ _ here => here) stuck
  apply (weaken clear_does).bind
  intro _
  have names : Triple (machine self policy) .loop (fun _ => True) (Since front Busy)
      (assign fun attrs => { attrs with currentJobId := some jobId }) (fun _ => Since front Busy)
      fun _ => Since front fun attrs log => Stuck attrs log ∨ Done attrs log := by
    apply Since.triple lasting_busy (fun _ => lasting_busy) fun _ => lasting
    · rintro world log value fate next performs ⟨same, taken, free⟩
      rw [World.modify_performs performs]
      exact ⟨same, by simpa [recordOf, Op.logged] using taken, by simpa [recordOf, Op.logged] using free⟩
    · intro world log exception fate next performs
      obtain ⟨value, impossible⟩ := World.feasible_of_performs performs rfl
      cases impossible
  apply names.bind
  intro _
  have clock : Triple (machine self policy) .loop (fun _ => True) (Since front Busy) (CodaNode.call .utcNow)
      (fun _ => Since front Busy) fun _ => Since front fun attrs log => Stuck attrs log ∨ Done attrs log := by
    apply Since.triple lasting_busy (fun _ => lasting_busy) fun _ => lasting
    · rintro world log value fate next performs ⟨same, taken, free⟩
      rw [World.attrs_of_performs performs (by simp)]
      exact ⟨same, by simpa [recordOf, Op.logged] using taken, by simpa [recordOf, Op.logged] using free⟩
    · intro world log exception fate next performs
      obtain ⟨value, impossible⟩ := World.feasible_of_performs performs rfl
      cases impossible
  apply clock.bind
  intro now
  apply (weaken (begin_does rfl)).bind
  intro _
  have issues : ((executeJob self jobId callbackUrl decoded).catching
      (handleJobError self jobId messageId callbackUrl)).Issues OnJob :=
    Issues.handle (executeJob_onJob jobId callbackUrl decoded) (fun _ => trivial)
      (handleJobError_onJob jobId messageId callbackUrl)
  apply (busy_triple issues).handle
  · intro _
    apply (weaken (cleanUpJob_does messageId)).handle
    · intro _
      exact Since.ret lasting_done fun _ _ here => here
    · intro failure
      exact Since.raise lasting fun _ _ here => here
  · intro exception
    apply (cleanUpJob_does messageId).handle
    · intro _
      exact Since.raise lasting fun _ _ here => .inr here
    · intro failure
      exact Since.raise lasting fun _ _ here => .inl here

/-- A call of `_process_message` that starts where nothing is claimed. -/
theorem processMessage_does (stays : ∀ attrs running, here attrs → here { attrs with running := running })
    (messageId : String) (fields : Fields) :
    Triple (machine self policy) .loop (fun _ => True) (Since front (Waiting here))
      (processMessage self messageId fields) (fun _ => Since front (Ended here)) fun _ => Since front (Ended here) := by
  have lasting : Lasting (Ended here) := lasting_ended stays
  have passed (world : World) (before : Since front (Passed here) world) : Since front (Ended here) world := by
    obtain ⟨log, same, before⟩ := before
    exact ⟨log, same, .inl before⟩
  have weaken {α : Type} {body : Task α} {pre : World → Prop} {post : α → World → Prop}
      (triple : Triple (machine self policy) .loop (fun _ => True) pre body post fun _ => Since front (Passed here)) :
      Triple (machine self policy) .loop (fun _ => True) pre body post fun _ => Since front (Ended here) :=
    triple.consequence (fun _ here => here) (fun _ _ => trivial) (fun _ _ here => here) fun _ => passed
  have dismissed {body : Task Unit} (issues : body.Issues Preliminary) :
      Triple (machine self policy) .loop (fun _ => True) (Since front (Passed here)) body
        (fun _ => Since front (Ended here)) fun _ => Since front (Ended here) :=
    (passed_triple stays issues).consequence (fun _ here => here) (fun _ _ => trivial) (fun _ => passed)
      fun _ => passed
  have dismissedAtOnce {body : Task Unit} (issues : body.Issues Preliminary) :
      Triple (machine self policy) .loop (fun _ => True) (Since front (Waiting here)) body
        (fun _ => Since front (Ended here)) fun _ => Since front (Ended here) := by
    apply (dismissed issues).consequence _ (fun _ _ => trivial) (fun _ _ here => here) fun _ _ here => here
    rintro world ⟨log, same, waiting⟩
    exact ⟨log, same, waiting.1⟩
  apply (weaken (note_does stays ⟨messageId, fields⟩)).bind
  intro _
  cases decodeFields fields with
  | error exception => exact Since.raise lasting fun _ _ waiting => .inl waiting.1
  | ok decoded =>
      simp only [Coro.ofExcept, Coro.ret_bind]
      cases requiredFields decoded with
      | error exception => exact dismissedAtOnce (safeXack_preliminary messageId)
      | ok required =>
          obtain ⟨jobId, callbackUrl⟩ := required
          apply (weaken (status_does stays jobId)).bind
          intro status
          split
          · exact dismissedAtOnce (safeXack_preliminary messageId)
          · apply (weaken (flag_does stays jobId)).bind
            intro flag
            cases flag with
            | true =>
                exact dismissed (Issues.bind (markJobCancelled_preliminary jobId messageId) fun _ =>
                  safeXack_preliminary messageId)
            | false =>
                apply (runMessage_does messageId jobId callbackUrl decoded).consequence
                · exact fun _ here => here
                · exact fun _ _ => trivial
                · rintro _ world ⟨log, same, done⟩
                  exact ⟨log, same, .inr (.inr done)⟩
                · rintro _ world ⟨log, same, ended⟩
                  exact ⟨log, same, .inr ended⟩

end IdleEvent

open IdleEvent

/-- Where a call of `_process_message` ends, the idle event is set and there is no current job, unless the executing
status could not be written or the message of a job that was taken on could not be acknowledged, for another reason
than a lost connection. -/
theorem processMessage_free_iff (self : Consumer) (policy : Policy) (messageId : String) (fields : Fields)
    (world last : World) (rest : Task Unit) (free : world.attrs.Free)
    (leads : Leads (machine self policy) .loop world (processMessage self messageId fields) last rest)
    (ended : ∀ op resume, rest ≠ .call op resume) :
    ∃ log, last.log = world.log ++ log ∧ (last.attrs.Free ↔ ¬ Jammed log) := by
  have start : Since world.log (Waiting Attrs.Free) world :=
    ⟨[], by simp, ⟨free, by simp [TakenOn], rfl⟩, rfl⟩
  have stays (attrs : Attrs) (running : Bool) (here : attrs.Free) : Attrs.Free { attrs with running := running } := here
  obtain ⟨-, returned, raised⟩ := processMessage_does stays messageId fields start leads
  have finish : Since world.log (Ended Attrs.Free) last := by
    cases rest with
    | ret value => exact returned value rfl
    | raise exception => exact raised exception rfl
    | call op resume => exact absurd rfl (ended op resume)
  obtain ⟨log, same, ⟨free, untaken, unrefused⟩ | ⟨busy, -, jammed⟩ | ⟨free, -, smooth⟩⟩ := finish
  · refine ⟨log, same, iff_of_true free ?_⟩
    rintro (refused | ⟨taken, -⟩)
    · rw [unrefused] at refused
      cases refused
    · exact untaken taken
  · refine ⟨log, same, iff_of_false ?_ fun smooth => smooth jammed⟩
    rintro ⟨idle, -⟩
    rw [busy] at idle
    cases idle
  · exact ⟨log, same, iff_of_true free smooth⟩

namespace IdleEvent

def world : World := { redis := Sample.delivered [Sample.message "1-0" "job"] }

/-- A call for the sample message. -/
def handled : Task Unit := processEntry Sample.consumer (Sample.message "1-0" "job")

/-- Redis refuses the executing status. -/
def refuses (_ : World) : Op → Option Exc
  | .hset _ mapping => if mapping.state = some .executing then some ⟨.responseError, "READONLY"⟩ else none
  | _ => none

def play (fails : World → Op → Option Exc) (script : List (Option EnvEvent)) : Option (World × Task Unit) :=
  Coro.amid (fun world op => world.serveAlone ((Surroundings.plain Sample.result).failing fails) op) World.happen
    script world handled

theorem play_leads {fails : World → Op → Option Exc}
    (foreign : ∀ world op exception, fails world op = some exception → exception.isForeign)
    {script : List (Option EnvEvent)} {last : World} {rest : Task Unit}
    (runs : play fails script = some (last, rest)) :
    Leads (machine Sample.consumer .arbitrary) .loop world handled last rest :=
  World.amid_leads (Surroundings.failing_within (Surroundings.plain_within fun _ _ _ _ => trivial) foreign)
    (fun _ => trivial) runs

theorem refuses_foreign (world : World) (op : Op) (exception : Exc) (fails : refuses world op = some exception) :
    exception.isForeign := by
  unfold refuses at fails
  split at fails
  · split at fails
    · cases fails
      rfl
    · cases fails
  · cases fails

theorem refused : (play refuses (List.replicate 7 none)).map (fun run => (run.1.attrs.idle, run.2)) =
    some (false, .raise ⟨.responseError, "READONLY"⟩) := rfl

/-- The executor returns, and nothing fails. -/
def script : List (Option EnvEvent) :=
  List.replicate 8 none ++ [some (.runFinished "job" (.ok Sample.result))] ++ List.replicate 14 none

theorem finished : (play (fun _ _ => none) script).map (fun run => (run.1.log.any Entry.refusesExecuting,
    run.1.log.any Entry.refusesAck, run.2)) = some (false, false, .ret ()) := rfl

end IdleEvent

open IdleEvent in
/-- Redis refuses the executing status with an error that is not a lost connection, and the idle event stays
cleared. -/
theorem processMessage_not_free : ∃ last,
    Leads (machine Sample.consumer .arbitrary) .loop world
      (processMessage Sample.consumer "1-0" (Sample.message "1-0" "job").fields) last
      (.raise ⟨.responseError, "READONLY"⟩) ∧ world.attrs.Free ∧ ¬ last.attrs.Free := by
  obtain ⟨⟨last, rest⟩, runs, same⟩ := Option.map_eq_some_iff.mp refused
  obtain ⟨busy, raised⟩ := Prod.mk.inj same
  cases raised
  refine ⟨last, play_leads refuses_foreign runs, ⟨rfl, rfl⟩, ?_⟩
  rintro ⟨idle, -⟩
  rw [show last.attrs.idle = false from busy] at idle
  cases idle

open IdleEvent in
/-- The result, for a job that is completed. -/
theorem processMessage_free_iff_completed : ∃ last,
    Leads (machine Sample.consumer .arbitrary) .loop world
      (processMessage Sample.consumer "1-0" (Sample.message "1-0" "job").fields) last (.ret ()) ∧
      last.attrs.Free := by
  obtain ⟨⟨last, rest⟩, runs, same⟩ := Option.map_eq_some_iff.mp finished
  obtain ⟨executing, more⟩ := Prod.mk.inj same
  obtain ⟨acked, returned⟩ := Prod.mk.inj more
  cases returned
  have leads := play_leads (fun _ _ _ impossible => by cases impossible) runs
  obtain ⟨log, grown, free⟩ := processMessage_free_iff Sample.consumer .arbitrary "1-0"
    (Sample.message "1-0" "job").fields world last (.ret ()) ⟨rfl, rfl⟩ leads
    (fun _ _ impossible => by cases impossible)
  refine ⟨last, leads, free.mpr ?_⟩
  rw [show last.log = log by rw [grown]; rfl] at executing acked
  rintro (refused | ⟨-, refused⟩)
  · rw [executing] at refused
    cases refused
  · rw [acked] at refused
    cases refused

end CodaNode
