/-
Module: CodaNode.Proofs.Shutdown
Layer: Proofs
Purpose: What a shutdown does to the message in hand. The drain timeout cancels the consumer task, and
  the cancellation arrives at whichever await the call of `_process_message` is in. Before the job is
  taken on it leaves the message alone; from then on the `finally` clause acknowledges the message on
  the way out.
Imports: CodaNode.Protocol.Message, CodaNode.Server.Log
Main exports: Policy.shutdown, KeepsInterruptedJob, shutdown_keeps_interrupted_job_iff
-/
import CodaNode.Protocol.Message
import CodaNode.Server.Log
import Mathlib.Data.List.Basic

namespace CodaNode

open Coroutine

/-- Redis operations may fail with any exception, and the task may be cancelled at every await. -/
def Policy.shutdown : Policy where
  fault op exception :=
    exception.kind = .cancelledError ∨ (op.isRedis = true ∧ exception.isOrdinary = true)
  env _ := True

namespace Shutdown

variable {self : Consumer} {message : StreamMessage} {job : JobMessage}

/-! ### What the log says in each phase -/

/-- The job has not been taken on, and nothing has interrupted the call. -/
def Early (messageId jobId : String) (log : List Entry) : Prop :=
  ∀ entry ∈ log, entry.interrupts = false ∧ entry.takesOn jobId = false ∧
    entry.callsXack messageId = false

/-- The job was taken on before anything interrupted the call, and has not been acknowledged. -/
def Late (messageId jobId : String) (log : List Entry) : Prop :=
  (∃ first rest, log = first ++ rest ∧ (∀ entry ∈ first, entry.interrupts = false) ∧
    ∃ entry ∈ first, entry.takesOn jobId = true) ∧
  ∀ entry ∈ log, entry.callsXack messageId = false

/-- How a call can have ended. -/
inductive Over (messageId jobId : String) (log : List Entry) : Prop where
  /-- Nothing interrupted it. -/
  | calm (quiet : ∀ entry ∈ log, entry.interrupts = false)
  /-- It was interrupted before it took the job on, and that was its last operation. -/
  | struck {before rest : List Entry} {cut : Entry} (shape : log = before ++ cut :: rest)
      (interrupts : cut.interrupts = true) (early : Early messageId jobId before)
      (last : ∀ entry ∈ rest, entry.isCall = false)
  /-- It took the job on, and its last operation was the acknowledgement. -/
  | cleaned {before rest : List Entry} {last : Entry} (shape : log = before ++ last :: rest)
      (late : Late messageId jobId before) (called : last.callsXack messageId = true)
      (nothing : ∀ entry ∈ rest, entry.isCall = false)

theorem Early.snoc {messageId jobId : String} {log : List Entry} {entry : Entry}
    (early : Early messageId jobId log) (quiet : entry.interrupts = false)
    (free : entry.takesOn jobId = false) (pending : entry.callsXack messageId = false) :
    Early messageId jobId (log ++ [entry]) :=
  forall_snoc early ⟨quiet, free, pending⟩

/-- Whatever the last operation before the job is taken on is, the call may end with it. -/
theorem Early.ends {messageId jobId : String} {log : List Entry} (early : Early messageId jobId log)
    (entry : Entry) : Over messageId jobId (log ++ [entry]) := by
  by_cases cut : entry.interrupts = true
  · exact .struck rfl cut early (by simp)
  · apply Over.calm
    exact forall_snoc (fun other member => (early other member).1) (by simpa using cut)

theorem Early.takes {messageId jobId : String} {log : List Entry} {entry : Entry}
    (early : Early messageId jobId log) (quiet : entry.interrupts = false)
    (takes : entry.takesOn jobId = true) (pending : entry.callsXack messageId = false) :
    Late messageId jobId (log ++ [entry]) := by
  constructor
  · refine ⟨log ++ [entry], [], by simp, ?_, entry, by simp, takes⟩
    exact forall_snoc (fun other member => (early other member).1) quiet
  · exact forall_snoc (fun other member => (early other member).2.2) pending

theorem Late.snoc {messageId jobId : String} {log : List Entry} {entry : Entry}
    (late : Late messageId jobId log) (pending : entry.callsXack messageId = false) :
    Late messageId jobId (log ++ [entry]) := by
  obtain ⟨⟨first, rest, shape, quiet, takes⟩, unacknowledged⟩ := late
  constructor
  · exact ⟨first, rest ++ [entry], by rw [shape, List.append_assoc], quiet, takes⟩
  · exact forall_snoc unacknowledged pending

theorem Over.snoc {messageId jobId : String} {log : List Entry} (past : Over messageId jobId log)
    (event : EnvEvent) : Over messageId jobId (log ++ [.env event]) := by
  cases past with
  | calm quiet => exact .calm (forall_snoc quiet rfl)
  | struck shape interrupts early last =>
      exact .struck (by rw [shape, List.append_assoc, List.cons_append]) interrupts early
        (forall_snoc last rfl)
  | cleaned shape late called nothing =>
      exact .cleaned (by rw [shape, List.append_assoc, List.cons_append]) late called
        (forall_snoc nothing rfl)

/-! ### Every row keeps the assertion of its phase -/

/-- The assertion of a stage. -/
def Holds (messageId jobId : String) (stage : Stage) (world : World) : Prop :=
  match stage.phase with
  | .before => Early messageId jobId world.log
  | .during => Late messageId jobId world.log
  | .past => Over messageId jobId world.log

theorem Holds.of_before {messageId jobId : String} {stage : Stage} {world : World}
    (phase : stage.phase = .before) (early : Early messageId jobId world.log) :
    Holds messageId jobId stage world := by
  unfold Holds
  rw [phase]
  exact early

theorem Holds.of_during {messageId jobId : String} {stage : Stage} {world : World}
    (phase : stage.phase = .during) (late : Late messageId jobId world.log) :
    Holds messageId jobId stage world := by
  unfold Holds
  rw [phase]
  exact late

theorem Holds.of_past {messageId jobId : String} {stage : Stage} {world : World}
    (phase : stage.phase = .past) (past : Over messageId jobId world.log) :
    Holds messageId jobId stage world := by
  unfold Holds
  rw [phase]
  exact past

/-- The assertions only speak about the log. -/
theorem Holds.of_log {messageId jobId : String} {stage : Stage} {world next : World}
    (holds : Holds messageId jobId stage world) (same : next.log = world.log) :
    Holds messageId jobId stage next := by
  unfold Holds at holds ⊢
  rw [same]
  exact holds

theorem Early.after {messageId jobId : String} {stage : Stage} {world : World} {op : Op}
    {outcome : Except Exc op.Reply} {fate : Fate} {next : World} {policy : Policy}
    (performs : World.Performs policy world op outcome fate next)
    (early : Early messageId jobId world.log)
    (quiet : (Entry.call .loop op outcome fate).interrupts = false)
    (free : (Entry.call .loop op outcome fate).takesOn jobId = false)
    (pending : (Entry.call .loop op outcome fate).callsXack messageId = false)
    (phase : stage.phase = .before) :
    Holds messageId jobId stage (next.recordCall .loop op outcome fate) := by
  apply Holds.of_before phase
  rw [World.recordCall_log_of_performs .loop performs]
  split
  · exact early.snoc quiet free pending
  · exact early

theorem Early.ended {messageId jobId : String} {ending : Except Exc Unit} {world : World} {op : Op}
    {outcome : Except Exc op.Reply} {fate : Fate} {next : World} {policy : Policy}
    (performs : World.Performs policy world op outcome fate next) (logged : op.logged = true)
    (early : Early messageId jobId world.log) :
    Holds messageId jobId (.ended ending) (next.recordCall .loop op outcome fate) := by
  apply Holds.of_past rfl
  rw [World.recordCall_log_of_performs .loop performs, logged]
  exact early.ends _

private theorem interrupts_of_connection {exception : Exc} {op : Op} {fate : Fate}
    (connection : exception.isConnection = true) :
    (Entry.call .loop op (.error exception) fate).interrupts = false := by
  simp only [Exc.isConnection, decide_eq_true_eq] at connection
  simp [Entry.interrupts, connection]

theorem holds_row {policy : Policy} {stage later : Stage} {op : Op} {outcome : Except Exc op.Reply}
    {fate : Fate} {world next : World} (row : Stage.Move self message job stage op outcome later)
    (here : Holds message.messageId job.jobId stage world)
    (performs : World.Performs policy world op outcome fate next) :
    Holds message.messageId job.jobId later (next.recordCall .loop op outcome fate) := by
  have logged := World.recordCall_log_of_performs .loop performs
  cases phase : stage.phase with
  | during =>
      have late : Late message.messageId job.jobId world.log := by
        unfold Holds at here
        rw [phase] at here
        exact here
      rcases row.during phase with ⟨inside, other⟩ | ⟨finished, rfl⟩
      · apply Holds.of_during inside
        rw [logged]
        split
        · exact late.snoc (Entry.callsXack_eq_false other)
        · exact late
      · apply Holds.of_past finished
        rw [logged]
        exact .cleaned rfl late (by simp [Entry.callsXack]) (by simp)
  | past =>
      cases row with
      | release => exact here.of_log logged
      | free => exact here.of_log logged
      | clock inside => exact absurd phase inside
      | assign inside => exact absurd phase inside
      | _ => cases phase
  | before =>
      have early : Early message.messageId job.jobId world.log := by
        unfold Holds at here
        rw [phase] at here
        exact here
      cases row with
      | clock => exact here.of_log logged
      | assign => exact here.of_log logged
      | called =>
          obtain ⟨value, rfl⟩ := World.feasible_of_performs performs rfl
          rcases Stage.opening_phase message with opened | ⟨exception, undecodable⟩
          · exact early.after performs rfl rfl rfl opened
          · simp only [afterCall, undecodable]
            exact early.ended performs rfl
      | @lookUp outcome =>
          cases outcome with
          | ok status =>
              apply early.after performs rfl rfl rfl
              simp only [afterCall]
              split <;> rfl
          | error exception => exact early.ended performs rfl
      | @pickUpFlag outcome =>
          cases outcome with
          | ok flag =>
              apply early.after performs rfl rfl rfl
              cases flag <;> rfl
          | error exception => exact early.ended performs rfl
      | @drop now outcome =>
          cases outcome with
          | ok value => exact early.after performs rfl (by simp [Entry.takesOn]) rfl rfl
          | error exception =>
              simp only [afterSafe]
              by_cases connection : exception.isConnection = true
              · rw [if_pos connection]
                exact early.after performs (interrupts_of_connection connection)
                  (by simp [Entry.takesOn]) rfl rfl
              · rw [if_neg connection]
                exact early.ended performs rfl
      | @dismiss outcome =>
          cases outcome with
          | ok value => exact early.ended performs rfl
          | error exception =>
              simp only [afterSafe]
              split
              · exact early.ended performs rfl
              · exact early.ended performs rfl
      | @takeOn now outcome =>
          have begun := Stage.started_phase self job
          cases outcome with
          | ok value =>
              apply Holds.of_during begun
              rw [logged]
              exact early.takes rfl (by simp [Entry.takesOn, Exc.regular]) rfl
          | error exception =>
              simp only [afterSafe]
              by_cases connection : exception.isConnection = true
              · rw [if_pos connection]
                apply Holds.of_during begun
                rw [logged]
                apply early.takes (interrupts_of_connection connection) _ rfl
                simp [Entry.takesOn, Exc.regular, Exc.isException_of_isConnection connection]
              · rw [if_neg connection]
                exact early.ended performs rfl
      | _ => cases phase

theorem invariant {policy : Policy} :
    Stage.Invariant self policy message job (Holds message.messageId job.jobId) where
  env := by
    intro stage world event next _ occurs here
    have same := World.log_of_occur occurs
    cases phase : stage.phase with
    | before =>
        apply Holds.of_before phase
        rw [World.record_log, same]
        unfold Holds at here
        rw [phase] at here
        exact here.snoc rfl rfl rfl
    | during =>
        apply Holds.of_during phase
        rw [World.record_log, same]
        unfold Holds at here
        rw [phase] at here
        exact here.snoc rfl
    | past =>
        apply Holds.of_past phase
        rw [World.record_log, same]
        unfold Holds at here
        rw [phase] at here
        exact here.snoc event
  row := holds_row

end Shutdown

/-! ### The result -/

/-- An interrupted call does not acknowledge its message unless the job had reached a terminal
outcome by the operation that was cut short. -/
def KeepsInterruptedJob (messageId jobId : String) (before : List Entry) (cut : Entry)
    (after : List Entry) : Prop :=
  (∃ entry ∈ before ++ cut :: after, entry.acknowledges messageId = true) →
    ∃ entry ∈ before ++ [cut], entry.settles jobId = true

/-- Where a cancellation does no harm: after a terminal outcome, before the job is taken on (unless
it cuts short an acknowledgement that has taken effect), or when the acknowledgement of the `finally`
clause fails. -/
def HarmlessCut (messageId jobId : String) (before : List Entry) (cut : Entry)
    (after : List Entry) : Prop :=
  (∃ entry ∈ before ++ [cut], entry.settles jobId = true) ∨
  ((∀ entry ∈ before, entry.takesOn jobId = false) ∧ cut.acknowledges messageId = false) ∨
  ((∃ entry ∈ before, entry.takesOn jobId = true) ∧
    ∃ entry ∈ cut :: after,
      entry.callsXack messageId = true ∧ entry.acknowledges messageId = false)

namespace Shutdown

/-- What is known about an interrupted call that has ended. -/
inductive Shape (messageId jobId : String) (before : List Entry) (cut : Entry)
    (after : List Entry) : Prop where
  | struck (early : Early messageId jobId before) (last : ∀ entry ∈ after, entry.isCall = false)
  | cleaned {last : Entry} (taken : ∃ entry ∈ before, entry.takesOn jobId = true)
      (member : last ∈ cut :: after) (called : last.callsXack messageId = true)
      (only : ∀ entry ∈ before ++ cut :: after, entry.callsXack messageId = true → entry = last)

theorem Over.shape {messageId jobId : String} {before after : List Entry} {cut : Entry}
    (past : Over messageId jobId (before ++ cut :: after)) (interrupts : cut.interrupts = true) :
    Shape messageId jobId before cut after := by
  have isCall : cut.isCall = true := Entry.isCall_of_interrupts interrupts
  cases past with
  | calm quiet =>
      have quietCut := quiet cut (by simp)
      rw [interrupts] at quietCut
      cases quietCut
  | @struck before' rest cut' same interrupts' early last =>
      have notBefore : cut ∉ before' := by
        intro member
        have quietCut := (early cut member).1
        rw [interrupts] at quietCut
        cases quietCut
      have notAfter : cut ∉ rest := by
        intro member
        have outside := last cut member
        rw [isCall] at outside
        cases outside
      obtain ⟨rfl, rfl, rfl⟩ := (List.append_cons_inj_of_notMem notBefore notAfter).mp same.symm
      exact .struck early last
  | @cleaned before' rest last same late called nothing =>
      obtain ⟨⟨first, middle, shape, quiet, taken⟩, unacknowledged⟩ := late
      have notFirst : cut ∉ first := by
        intro member
        have quietCut := quiet cut member
        rw [interrupts] at quietCut
        cases quietCut
      have notRest : cut ∉ rest := by
        intro member
        have outside := nothing cut member
        rw [isCall] at outside
        cases outside
      apply Shape.cleaned _ _ called
      · intro entry member acknowledgement
        rw [same] at member
        rcases List.mem_append.mp member with old | new
        · have free := unacknowledged entry old
          rw [acknowledgement] at free
          cases free
        · rcases List.mem_cons.mp new with here | later
          · exact here
          · have outside := nothing entry later
            rw [Entry.isCall_of_callsXack acknowledgement] at outside
            cases outside
      · -- the part before the job was taken on contains no interruption
        have parts : before ++ cut :: after = first ++ (middle ++ last :: rest) := by
          rw [same, shape, List.append_assoc]
        obtain ⟨entry, member, takes⟩ := taken
        refine ⟨entry, ?_, takes⟩
        rcases List.append_eq_append_iff.mp parts with ⟨extra, firstShape, tail⟩ | ⟨extra, shape', -⟩
        · cases extra with
          | nil =>
              rw [firstShape, List.append_nil] at member
              exact member
          | cons head others =>
              obtain ⟨headShape, -⟩ := List.cons.inj tail
              exact absurd (by rw [firstShape, headShape]; simp) notFirst
        · rw [shape']
          exact List.mem_append_left _ member
      · rcases List.append_eq_append_iff.mp same with ⟨extra, -, tail⟩ | ⟨extra, -, tail⟩
        · rw [tail]
          simp
        · cases extra with
          | nil =>
              obtain ⟨here, -⟩ := List.cons.inj tail
              rw [here]
              exact List.mem_cons_self
          | cons head others =>
              obtain ⟨-, later⟩ := List.cons.inj tail
              exact absurd (by rw [later]; simp) notRest

/-- A message that is not a job follows the table of any job. -/
private theorem exists_job (message : StreamMessage) (jobId : String)
    (known : ∀ job, message.read = .ok (some job) → job.jobId = jobId) :
    ∃ job : JobMessage, job.jobId = jobId ∧ ∀ other, message.read = .ok (some other) → other = job := by
  cases reading : message.read with
  | error exception => exact ⟨⟨"", jobId, "", []⟩, rfl, fun other same => by cases same⟩
  | ok found =>
      cases found with
      | none => exact ⟨⟨"", jobId, "", []⟩, rfl, fun other same => by cases same⟩
      | some job => exact ⟨job, known job reading, fun other same => by cases same; rfl⟩

/-- An interrupted call that has ended has one of the two shapes. -/
theorem shape_of_ended {self : Consumer} {message : StreamMessage} {jobId : String}
    (known : ∀ job, message.read = .ok (some job) → job.jobId = jobId) {redis : Redis} {attrs : Attrs}
    {system : System}
    (reaches : Pool.Reaches (machine self .shutdown)
      (Pool.single { redis := redis, attrs := attrs } .loop (processEntry self message)) system)
    (ended : system.Ended) {before after : List Entry} {cut : Entry}
    (log : system.state.log = before ++ cut :: after) (interrupts : cut.interrupts = true) :
    Shape message.messageId jobId before cut after := by
  obtain ⟨job, rfl, fits⟩ := exists_job message jobId known
  have start : Holds message.messageId job.jobId .called
      ({ redis := redis, attrs := attrs } : World) := by
    intro entry member
    cases member
  obtain ⟨outcome, past⟩ := (invariant.reaches fits start reaches).2 ended
  have finished : Over message.messageId job.jobId system.state.log := past
  rw [log] at finished
  exact finished.shape interrupts

end Shutdown

/-- For every message and every await of `_process_message` at which the consumer task is cancelled:
the call leaves the message to be recovered, unless the job had reached a terminal outcome, exactly
when the cut is harmless. -/
theorem shutdown_keeps_interrupted_job_iff (self : Consumer) (message : StreamMessage) (jobId : String)
    (known : ∀ job, message.read = .ok (some job) → job.jobId = jobId) (redis : Redis) (attrs : Attrs)
    {system : System}
    (reaches : Pool.Reaches (machine self .shutdown)
      (Pool.single { redis := redis, attrs := attrs } .loop (processEntry self message)) system)
    (ended : system.Ended) {before after : List Entry} {cut : Entry}
    (log : system.state.log = before ++ cut :: after) (interrupts : cut.interrupts = true) :
    KeepsInterruptedJob message.messageId jobId before cut after ↔
      HarmlessCut message.messageId jobId before cut after := by
  have shape := Shutdown.shape_of_ended known reaches ended log interrupts
  constructor
  · intro keeps
    by_cases settled : ∃ entry ∈ before ++ [cut], entry.settles jobId = true
    · exact .inl settled
    · have unacknowledged : ∀ entry ∈ before ++ cut :: after,
          entry.acknowledges message.messageId = false := by
        intro entry member
        by_contra acknowledged
        exact settled (keeps ⟨entry, member, by simpa using acknowledged⟩)
      cases shape with
      | struck early last =>
          refine .inr (.inl ⟨fun entry member => (early entry member).2.1, ?_⟩)
          exact unacknowledged cut (by simp)
      | @cleaned last taken member called only =>
          refine .inr (.inr ⟨taken, last, member, called, ?_⟩)
          exact unacknowledged last (List.mem_append_right _ member)
  · intro harmless acknowledged
    obtain ⟨entry, member, acknowledges⟩ := acknowledged
    have called := Entry.callsXack_of_acknowledges acknowledges
    rcases harmless with settled | ⟨free, lost⟩ | ⟨taken, last, lastMember, lastCalled, failed⟩
    · exact settled
    · exfalso
      cases shape with
      | struck early last =>
          rcases List.mem_append.mp member with old | new
          · rw [(early entry old).2.2] at called
            cases called
          · rcases List.mem_cons.mp new with here | later
            · rw [here, lost] at acknowledges
              cases acknowledges
            · have outside := last entry later
              rw [Entry.isCall_of_callsXack called] at outside
              cases outside
      | cleaned taken =>
          obtain ⟨other, otherMember, takes⟩ := taken
          rw [free other otherMember] at takes
          cases takes
    · exfalso
      cases shape with
      | struck early =>
          obtain ⟨other, otherMember, takes⟩ := taken
          rw [(early other otherMember).2.1] at takes
          cases takes
      | @cleaned final _ _ _ only =>
          have first := only entry member called
          have second := only last (List.mem_append_right _ lastMember) lastCalled
          rw [first, ← second, failed] at acknowledges
          cases acknowledges

namespace Shutdown

/-- The drain timeout strikes while the executor runs. -/
def struckRun : System :=
  System.play Sample.consumer .shutdown
    ((Surroundings.plain Sample.result).failing fun _ op =>
      match op with
      | .waitRun => some ⟨.cancelledError, ""⟩
      | _ => none)
    (List.replicate 20 (.task 0))
    (Pool.single { redis := Sample.delivered [Sample.message "1-0" "job"] } .loop
      (processEntry Sample.consumer (Sample.message "1-0" "job")))

theorem struckRun_reaches :
    Pool.Reaches (machine Sample.consumer .shutdown)
      (Pool.single { redis := Sample.delivered [Sample.message "1-0" "job"] } .loop
        (processEntry Sample.consumer (Sample.message "1-0" "job"))) struckRun := by
  apply System.play_reaches _ _ _ fun _ _ => trivial
  apply Surroundings.failing_within (Surroundings.plain_within fun _ _ _ _ => trivial)
  intro world op exception picked
  cases op with
  | waitRun =>
      cases picked
      exact .inl rfl
  | _ => cases picked

theorem struckRun_known (job : JobMessage)
    (reading : (Sample.message "1-0" "job").read = .ok (some job)) : job.jobId = "job" := by
  rw [Sample.message_read] at reading
  cases reading
  rfl

/-- The cancelled wait is the sixth operation of that run. -/
def struckAt : Fin struckRun.state.log.length := ⟨5, by decide +kernel⟩

end Shutdown

open Shutdown in
/-- The result, for that run. -/
theorem shutdown_keeps_interrupted_job_iff_struckRun :
    KeepsInterruptedJob "1-0" "job" (struckRun.state.log.take 5) (struckRun.state.log.get struckAt)
        (struckRun.state.log.drop 6) ↔
      HarmlessCut "1-0" "job" (struckRun.state.log.take 5) (struckRun.state.log.get struckAt)
        (struckRun.state.log.drop 6) :=
  shutdown_keeps_interrupted_job_iff Sample.consumer (Sample.message "1-0" "job") "job"
    struckRun_known _ _ struckRun_reaches (System.ended_iff.mp (by decide +kernel))
    (log_split _ struckAt) (by decide +kernel)

open Shutdown in
/-- A job that the shutdown interrupts while its executor runs is acknowledged and lost. -/
theorem not_shutdown_keeps_interrupted_job :
    ¬ ∀ (self : Consumer) (message : StreamMessage) (jobId : String),
      (∀ job, message.read = .ok (some job) → job.jobId = jobId) →
      ∀ (redis : Redis) (attrs : Attrs) (system : System),
      Pool.Reaches (machine self .shutdown)
        (Pool.single { redis := redis, attrs := attrs } .loop (processEntry self message)) system →
      system.Ended → ∀ (before after : List Entry) (cut : Entry),
      system.state.log = before ++ cut :: after → cut.interrupts = true →
      KeepsInterruptedJob message.messageId jobId before cut after := by
  intro claim
  have keeps := claim Sample.consumer (Sample.message "1-0" "job") "job" struckRun_known _ _ _
    struckRun_reaches (System.ended_iff.mp (by decide +kernel)) _ _ _ (log_split _ struckAt)
    (by decide +kernel)
  rw [KeepsInterruptedJob, ← log_split] at keeps
  have acknowledged : ∃ entry ∈ struckRun.state.log, entry.acknowledges "1-0" = true := by
    decide +kernel
  have unsettled : ¬ ∃ entry ∈ struckRun.state.log.take 5 ++ [struckRun.state.log.get struckAt],
      entry.settles "job" = true := by
    decide +kernel
  exact unsettled (keeps acknowledged)

end CodaNode
