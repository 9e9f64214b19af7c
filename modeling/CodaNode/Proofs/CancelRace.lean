/-
Module: CodaNode.Proofs.CancelRace
Layer: Proofs
Purpose: The executor task against the cancellation flag. What `_run_job_with_cancellation` returns, when it
  raises its own exception, when it calls the hook of the executor and what it leaves behind, for every
  order of the two events and every failure of an operation. A check that saw the flag began while the task
  was unfinished; the task may end during the check.
Imports: CodaNode.Server.Log, CodaNode.Server.System, CodaNode.Coroutine.Triple
Main exports: Supervised, runJobWithCancellation_supervised, runJobWithCancellation_hook_late
-/
import CodaNode.Server.Log
import CodaNode.Server.System
import CodaNode.Coroutine.Triple

namespace CodaNode

open Coroutine Coro

/-- A check saw the flag. -/
def FlagSeen (jobId : String) (log : List Entry) : Prop :=
  ∃ fate, .call .loop (.getCancelled jobId) (.ok true) fate ∈ log

/-- The executor task ended with the result, and a check behind it saw no flag. -/
def Cleared (jobId : String) (result : ExecutionResult) (log : List Entry) : Prop :=
  ∃ before after fate, log = before ++ .env (.runFinished jobId (.ok result)) :: after ∧
    .call .loop (.getCancelled jobId) (.ok false) fate ∈ after

/-- These are events of the environment only. -/
def Outside (log : List Entry) : Prop := ∀ entry ∈ log, ∃ event, entry = .env event

/-- The executor task has not ended. -/
def Unfinished (jobId : String) (log : List Entry) : Prop :=
  ∀ outcome, .env (.runFinished jobId outcome) ∉ log

/-- A wait has found the executor task unfinished, and nothing was done since. -/
def Waited (jobId : String) (log : List Entry) : Prop :=
  ∃ before between fate, log = before ++ .call .loop .waitRun (.ok false) fate :: between ∧
    Unfinished jobId before ∧ Outside between

/-- A check that began while the executor task was unfinished saw the flag. -/
def SeenMidway (jobId : String) (log : List Entry) : Prop :=
  ∃ before after fate, log = before ++ .call .loop (.getCancelled jobId) (.ok true) fate :: after ∧
    Waited jobId before

/-- The hook of the executor was not called. -/
def HookFree (log : List Entry) : Prop :=
  ∀ role outcome fate, .call role .cancelCurrentJob outcome fate ∉ log

/-- The hook was called at most once, and behind a check that began while the executor task was unfinished and
saw the flag. -/
def Hooked (jobId : String) (log : List Entry) : Prop :=
  ∀ before role outcome fate after, log = before ++ .call role .cancelCurrentJob outcome fate :: after →
    SeenMidway jobId before ∧ HookFree before ∧ HookFree after

/-- What a run has done since the executor task was created, and what is left of it. -/
structure Supervised (jobId : String) (log : List Entry) (run : RunTask) (rest : Task ExecutionResult) : Prop where
  result : ∀ result, rest = .ret result → Cleared jobId result log
  cancelled : ∀ exception, rest = .raise exception → exception.kind = .jobCancelled → FlagSeen jobId log
  hook : Hooked jobId log
  settled : (∀ op resume, rest ≠ .call op resume) → run.outcome.isSome ∨ run.cancelRequested

/-! ### What one more event leaves alone -/

section

variable {jobId : String} {log : List Entry} {event : EnvEvent} {entry : Entry}

theorem split_snoc {before after : List Entry} {last : Entry} (same : log ++ [last] = before ++ entry :: after) :
    (after = [] ∧ log = before ∧ last = entry) ∨
      ∃ earlier, after = earlier ++ [last] ∧ log = before ++ entry :: earlier := by
  rcases List.eq_nil_or_concat after with rfl | ⟨earlier, final, rfl⟩
  · obtain ⟨rfl, tail⟩ := List.append_inj' same rfl
    cases tail
    exact .inl ⟨rfl, rfl, rfl⟩
  · rw [List.concat_eq_append, ← List.cons_append, ← List.append_assoc] at same
    obtain ⟨rfl, tail⟩ := List.append_inj' same rfl
    cases tail
    exact .inr ⟨earlier, by rw [List.concat_eq_append], rfl⟩

theorem FlagSeen.grow (seen : FlagSeen jobId log) : FlagSeen jobId (log ++ [entry]) := by
  obtain ⟨fate, inside⟩ := seen
  exact ⟨fate, List.mem_append_left _ inside⟩

theorem Cleared.grow {result : ExecutionResult} (cleared : Cleared jobId result log) :
    Cleared jobId result (log ++ [entry]) := by
  obtain ⟨before, after, fate, rfl, inside⟩ := cleared
  exact ⟨before, after ++ [entry], fate, by simp, List.mem_append_left _ inside⟩

theorem HookFree.grow (free : HookFree log) (other : ∀ role outcome fate,
    entry ≠ .call role .cancelCurrentJob outcome fate) : HookFree (log ++ [entry]) := by
  intro role outcome fate inside
  rcases List.mem_append.mp inside with earlier | later
  · exact free role outcome fate earlier
  · exact other role outcome fate (List.mem_singleton.mp later).symm

theorem Waited.grow (waited : Waited jobId log) : Waited jobId (log ++ [.env event]) := by
  obtain ⟨before, between, fate, rfl, unfinished, outside⟩ := waited
  refine ⟨before, between ++ [.env event], fate, by simp, unfinished, ?_⟩
  exact forall_snoc outside ⟨event, rfl⟩

theorem SeenMidway.grow (seen : SeenMidway jobId log) : SeenMidway jobId (log ++ [entry]) := by
  obtain ⟨before, after, fate, rfl, waited⟩ := seen
  exact ⟨before, after ++ [entry], fate, by simp, waited⟩

theorem Hooked.grow (hooked : Hooked jobId log) (other : ∀ role outcome fate,
    entry ≠ .call role .cancelCurrentJob outcome fate) : Hooked jobId (log ++ [entry]) := by
  intro before role outcome fate after same
  rcases split_snoc same with ⟨-, -, impossible⟩ | ⟨earlier, rfl, rfl⟩
  · exact absurd impossible (other role outcome fate)
  · obtain ⟨seen, free, rest⟩ := hooked before role outcome fate earlier rfl
    exact ⟨seen, free, HookFree.grow rest other⟩

theorem HookFree.hooked (free : HookFree log) : Hooked jobId log := by
  rintro before role outcome fate after rfl
  exact absurd (by simp) (free role outcome fate)

/-- The call of the hook. -/
theorem Hooked.called {role : Role} {outcome : Except Exc Op.cancelCurrentJob.Reply} {fate : Fate}
    (free : HookFree log) (seen : SeenMidway jobId log) :
    Hooked jobId (log ++ [.call role .cancelCurrentJob outcome fate]) := by
  intro before role' outcome' fate' after same
  rcases split_snoc same with ⟨rfl, rfl, -⟩ | ⟨earlier, rfl, rfl⟩
  · exact ⟨seen, free, fun _ _ _ inside => by cases inside⟩
  · exact absurd (by simp) (free role' outcome' fate')

theorem SeenMidway.flagSeen (seen : SeenMidway jobId log) : FlagSeen jobId log := by
  obtain ⟨before, after, fate, rfl, -⟩ := seen
  exact ⟨fate, by simp⟩

theorem env_not_hook : ∀ role outcome fate, Entry.env event ≠ .call role .cancelCurrentJob outcome fate := by
  intro role outcome fate same
  cases same

end

namespace CancelRace

variable {front : List Entry} {jobId : String}

/-- The log tells the state of the executor task. -/
structure Told (jobId : String) (run : RunTask) (log : List Entry) : Prop where
  job : run.jobId = jobId
  ended : ∀ outcome, run.outcome = some outcome → .env (.runFinished jobId outcome) ∈ log ∧ Exc.foreign outcome
  unfinished : run.outcome = none → Unfinished jobId log

/-- The world since the executor task was created. -/
def Watched (front : List Entry) (jobId : String) (holds : RunTask → List Entry → Prop) (world : World) : Prop :=
  ∃ run log, world.runTask = some run ∧ world.log = front ++ log ∧ Told jobId run log ∧ holds run log

/-- The environment leaves the assertion alone, and it knows about the hook. -/
structure Assertion (jobId : String) (holds : RunTask → List Entry → Prop) : Prop where
  hooked : ∀ {run log}, holds run log → Hooked jobId log
  quiet : ∀ {run log event}, (∀ outcome, event ≠ .runFinished jobId outcome) → holds run log →
    holds run (log ++ [.env event])
  finish : ∀ {run log outcome}, run.outcome = none → holds run log →
    holds { run with outcome := some outcome } (log ++ [.env (.runFinished jobId outcome)])

/-- An assertion about the task, and one about the log. -/
theorem Assertion.of {task : RunTask → Prop} {past : List Entry → Prop}
    (ends : ∀ {run : RunTask} {outcome}, run.outcome = none → task run → task { run with outcome := some outcome })
    (grows : ∀ {log event}, past log → past (log ++ [.env event])) (hooked : ∀ {log}, past log → Hooked jobId log) :
    Assertion jobId fun run log => task run ∧ past log where
  hooked here := hooked here.2
  quiet _ here := ⟨here.1, grows here.2⟩
  finish running here := ⟨ends running here.1, grows here.2⟩

theorem Told.call {run : RunTask} {log : List Entry} (told : Told jobId run log) {entries : List Entry}
    (calls : ∀ entry ∈ entries, ∃ role op outcome fate, entry = .call role op outcome fate) :
    Told jobId run (log ++ entries) := by
  refine ⟨told.job, ?_, ?_⟩
  · intro outcome ended
    obtain ⟨inside, foreign⟩ := told.ended outcome ended
    exact ⟨List.mem_append_left _ inside, foreign⟩
  · intro running outcome inside
    rcases List.mem_append.mp inside with earlier | later
    · exact told.unfinished running outcome earlier
    · obtain ⟨role, op, reply, fate, same⟩ := calls _ later
      cases same

theorem keeps_watched {self : Consumer} {policy : Policy} {holds : RunTask → List Entry → Prop}
    (stable : Assertion jobId holds) : (machine self policy).Keeps (Watched front jobId holds) := by
  rintro world after ⟨event, next, -, occurs, rfl⟩ ⟨run, log, found, same, told, here⟩
  have logs : (next.record (.env event)).log = front ++ (log ++ [.env event]) := by
    rw [World.record_log, World.log_of_occur occurs, same, List.append_assoc]
  by_cases finishes : ∃ outcome, event = .runFinished jobId outcome
  · obtain ⟨outcome, rfl⟩ := finishes
    simp only [World.occur, found] at occurs
    split at occurs
    · next possible =>
      cases occurs
      refine ⟨_, _, rfl, logs, ⟨told.job, ?_, by simp⟩, stable.finish possible.2.1 here⟩
      intro other ended
      cases ended
      exact ⟨by simp, possible.2.2.1⟩
    · cases occurs
  · have other : ∀ outcome, event ≠ .runFinished jobId outcome := fun outcome same => finishes ⟨outcome, same⟩
    have kept : next.runTask = some run := by
      cases event with
      | runFinished job outcome =>
          simp only [World.occur, found] at occurs
          split at occurs
          · next possible =>
            have same : job = jobId := possible.1.symm.trans told.job
            exact absurd (by rw [same]) (other outcome)
          · cases occurs
      | _ =>
          cases occurs
          exact found
    refine ⟨run, _, kept, logs, ⟨told.job, ?_, ?_⟩, stable.quiet other here⟩
    · intro outcome ended
      obtain ⟨inside, foreign⟩ := told.ended outcome ended
      exact ⟨List.mem_append_left _ inside, foreign⟩
    · intro running outcome inside
      rcases List.mem_append.mp inside with earlier | later
      · exact told.unfinished running outcome earlier
      · cases List.mem_singleton.mp later
        exact other outcome rfl

/-! ### One operation -/

/-- The record of an operation. -/
def loggedAs (op : Op) (outcome : Except Exc op.Reply) (fate : Fate) : List Entry :=
  if op.logged then [.call .loop op outcome fate] else []

/-- The rule for an operation that leaves the outcome of the executor task alone. -/
theorem op_triple {self : Consumer} {op : Op} {pre : RunTask → List Entry → Prop}
    {post : op.Reply → RunTask → List Entry → Prop} {failed : Exc → RunTask → List Entry → Prop}
    (before : Assertion jobId pre) (after : ∀ value, Assertion jobId (post value))
    (raised : ∀ exception, Assertion jobId (failed exception))
    (row : ∀ {run log outcome fate world next}, world.runTask = some run → Told jobId run log → pre run log →
      World.Performs .arbitrary world op outcome fate next →
        ∃ run', next.runTask = some run' ∧ run'.jobId = run.jobId ∧ run'.outcome = run.outcome ∧
          (∀ value, outcome = .ok value → post value run' (log ++ loggedAs op outcome fate)) ∧
          ∀ exception, outcome = .error exception → failed exception run' (log ++ loggedAs op outcome fate)) :
    Triple (machine self .arbitrary) .loop (Watched front jobId fun _ => Hooked jobId) (Watched front jobId pre)
      (CodaNode.call op) (fun value => Watched front jobId (post value))
      fun exception => Watched front jobId (failed exception) := by
  have safe {holds : RunTask → List Entry → Prop} (assertion : Assertion jobId holds) :
      ∀ world, Watched front jobId holds world → Watched front jobId (fun _ => Hooked jobId) world := by
    rintro world ⟨run, log, found, same, told, here⟩
    exact ⟨run, log, found, same, told, assertion.hooked here⟩
  have behind {world after : World} {outcome : Except Exc op.Reply} (here : Watched front jobId pre world)
      (performed : (machine self .arbitrary).perform .loop world op outcome after) :
      (∀ value, outcome = .ok value → Watched front jobId (post value) after) ∧
        ∀ exception, outcome = .error exception → Watched front jobId (failed exception) after := by
    obtain ⟨run, log, found, same, told, holds⟩ := here
    obtain ⟨fate, next, performs, rfl⟩ := performed
    obtain ⟨run', found', job, outcomes, returned, raised⟩ := row found told holds performs
    have logs : (next.recordCall .loop op outcome fate).log = front ++ (log ++ loggedAs op outcome fate) := by
      rw [World.recordCall_log_of_performs .loop performs, same, loggedAs]
      split <;> simp
    have told' : Told jobId run' (log ++ loggedAs op outcome fate) := by
      have kept : Told jobId run' log :=
        ⟨job.trans told.job, fun other ended => told.ended other (outcomes ▸ ended),
          fun running => told.unfinished (outcomes ▸ running)⟩
      apply kept.call
      intro entry inside
      unfold loggedAs at inside
      split at inside
      · exact ⟨_, _, _, _, List.mem_singleton.mp inside⟩
      · cases inside
    have task : (next.recordCall .loop op outcome fate).runTask = some run' := by
      rw [World.recordCall_runTask, found']
    exact ⟨fun value reply => ⟨run', _, task, logs, told', returned value reply⟩,
      fun exception reply => ⟨run', _, task, logs, told', raised exception reply⟩⟩
  refine Triple.perform (keeps_watched before) (safe before) ?_ ?_ (fun value => keeps_watched (after value))
    (fun exception => keeps_watched (raised exception)) (fun value => safe (after value))
    fun exception => safe (raised exception)
  · intro value world after here performed
    exact (behind here performed).1 value rfl
  · intro exception world after here performed
    exact (behind here performed).2 exception rfl

/-- The rule for an operation that the log keeps and that does not touch the executor task. -/
theorem quiet_triple {self : Consumer} {op : Op} {pre : RunTask → List Entry → Prop}
    {post : op.Reply → RunTask → List Entry → Prop} {failed : Exc → RunTask → List Entry → Prop}
    (quiet : op.touchesRun = false) (logged : op.logged = true) (before : Assertion jobId pre)
    (after : ∀ value, Assertion jobId (post value)) (raised : ∀ exception, Assertion jobId (failed exception))
    (returns : ∀ {run log value fate world next}, world.runTask = some run → Told jobId run log → pre run log →
      World.Performs .arbitrary world op (.ok value) fate next →
        post value run (log ++ [.call .loop op (.ok value) fate]))
    (raises : ∀ {run log exception fate world next}, world.runTask = some run → Told jobId run log →
      pre run log → World.Performs .arbitrary world op (.error exception) fate next →
        failed exception run (log ++ [.call .loop op (.error exception) fate])) :
    Triple (machine self .arbitrary) .loop (Watched front jobId fun _ => Hooked jobId) (Watched front jobId pre)
      (CodaNode.call op) (fun value => Watched front jobId (post value))
      fun exception => Watched front jobId (failed exception) := by
  apply op_triple before after raised
  intro run log outcome fate world next found told here performs
  refine ⟨run, (World.runTask_of_performs performs quiet).trans found, rfl, rfl, ?_, ?_⟩
  · rintro value rfl
    rw [loggedAs, if_pos logged]
    exact returns found told here performs
  · rintro exception rfl
    rw [loggedAs, if_pos logged]
    exact raises found told here performs

/-- An operation that raises nothing of its own fails with an exception from outside. -/
theorem foreign_of_fault {op : Op} {exception : Exc} {fate : Fate} {world next : World}
    (silent : world.effect op (.error exception) = none)
    (performs : World.Performs .arbitrary world op (.error exception) fate next) : exception.isForeign := by
  cases performs with
  | answered _ effect =>
      rw [silent] at effect
      cases effect
  | lost _ admitted => exact admitted
  | executed _ admitted _ => exact admitted

/-- What is known when the polling loop raises. -/
def Raised (jobId : String) (exception : Exc) (log : List Entry) : Prop :=
  Hooked jobId log ∧ (exception.kind = .jobCancelled → FlagSeen jobId log)

theorem raised_of_foreign {exception : Exc} {log : List Entry} (hooked : Hooked jobId log)
    (foreign : exception.isForeign) : Raised jobId exception log := by
  refine ⟨hooked, fun own => ?_⟩
  simp [Exc.isForeign, own] at foreign

/-- An assertion about the log alone. -/
def Logged (past : List Entry → Prop) : RunTask → List Entry → Prop := fun _ log => True ∧ past log

theorem Assertion.logged {past : List Entry → Prop} (grows : ∀ {log event}, past log → past (log ++ [.env event]))
    (hooked : ∀ {log}, past log → Hooked jobId log) : Assertion jobId (Logged past) :=
  .of (fun _ _ => trivial) grows hooked

theorem hookFree_assertion : Assertion jobId (Logged HookFree) :=
  .logged (fun free => HookFree.grow free env_not_hook) HookFree.hooked

theorem raised_assertion (exception : Exc) : Assertion jobId (Logged (Raised jobId exception)) :=
  .logged (fun raised => ⟨raised.1.grow env_not_hook, fun own => (raised.2 own).grow⟩) fun raised => raised.1

/-- A wait has found the task unfinished. -/
def Checking (jobId : String) (log : List Entry) : Prop := HookFree log ∧ Waited jobId log

theorem checking_assertion : Assertion jobId (Logged (Checking jobId)) :=
  .logged (fun here => ⟨HookFree.grow here.1 env_not_hook, here.2.grow⟩) fun here => HookFree.hooked here.1

/-- The flag was seen midway, and the hook has not been called. -/
def Stopping (jobId : String) (log : List Entry) : Prop := HookFree log ∧ SeenMidway jobId log

theorem stopping_assertion : Assertion jobId (Logged (Stopping jobId)) :=
  .logged (fun here => ⟨HookFree.grow here.1 env_not_hook, here.2.grow⟩) fun here => HookFree.hooked here.1

/-- The flag was seen, and the hook may have been called. -/
def Stopped (jobId : String) (log : List Entry) : Prop := Hooked jobId log ∧ FlagSeen jobId log

theorem stopped_assertion : Assertion jobId (Logged (Stopped jobId)) :=
  .logged (fun here => ⟨here.1.grow env_not_hook, here.2.grow⟩) fun here => here.1

/-- The result stands. -/
def Returned (jobId : String) (result : ExecutionResult) (log : List Entry) : Prop :=
  Hooked jobId log ∧ Cleared jobId result log

theorem returned_assertion (result : ExecutionResult) : Assertion jobId (Logged (Returned jobId result)) :=
  .logged (fun here => ⟨here.1.grow env_not_hook, here.2.grow⟩) fun here => here.1

/-- The executor task has returned this. -/
def Finished (result : ExecutionResult) (run : RunTask) (log : List Entry) : Prop :=
  run.outcome = some (.ok result) ∧ HookFree log

theorem finished_assertion (result : ExecutionResult) : Assertion jobId (Finished result) := by
  have ends {run : RunTask} {outcome : Except Exc ExecutionResult} (running : run.outcome = none)
      (finished : run.outcome = some (.ok result)) : some outcome = some (.ok result) := by
    rw [running] at finished
    cases finished
  exact Assertion.of ends (fun free => HookFree.grow free env_not_hook) HookFree.hooked

/-! ### The operations of the polling loop -/

variable {self : Consumer}

/-- The triples of this section. -/
abbrev Does {α : Type} (self : Consumer) (front : List Entry) (jobId : String) (pre : RunTask → List Entry → Prop)
    (body : Task α) (post : α → RunTask → List Entry → Prop) (failed : Exc → RunTask → List Entry → Prop) : Prop :=
  Triple (machine self .arbitrary) .loop (Watched front jobId fun _ => Hooked jobId) (Watched front jobId pre) body
    (fun value => Watched front jobId (post value)) fun exception => Watched front jobId (failed exception)

theorem waitRun_does : Does self front jobId (Logged HookFree) (CodaNode.call .waitRun)
    (fun done => Logged (if done then HookFree else Checking jobId))
    fun exception => Logged (Raised jobId exception) := by
  apply quiet_triple rfl rfl hookFree_assertion
  · intro done
    cases done with
    | true => exact hookFree_assertion
    | false => exact checking_assertion
  · exact raised_assertion
  · intro run log done fate world next found told here performs
    have free : HookFree (log ++ [.call .loop .waitRun (.ok done) fate]) := HookFree.grow here.2 (by simp)
    cases done with
    | true => exact ⟨trivial, free⟩
    | false =>
        refine ⟨trivial, free, log, [], fate, rfl, told.unfinished ?_, by simp [Outside]⟩
        cases performs with
        | answered _ effect =>
            simp only [World.effect, found] at effect
            split at effect
            · next running => simpa using running
            · cases effect
  · intro run log exception fate world next found told here performs
    have free : HookFree (log ++ [.call .loop .waitRun (.error exception) fate]) := HookFree.grow here.2 (by simp)
    exact ⟨trivial, raised_of_foreign free.hooked (foreign_of_fault rfl performs)⟩

theorem pollFlag_does : Does self front jobId (Logged (Checking jobId)) (hasCancelSignal jobId)
    (fun flag => Logged (if flag then Stopping jobId else HookFree))
    fun exception => Logged (Raised jobId exception) := by
  apply quiet_triple rfl rfl checking_assertion
  · intro flag
    cases flag with
    | true => exact stopping_assertion
    | false => exact hookFree_assertion
  · exact raised_assertion
  · intro run log flag fate world next found told here performs
    have free : HookFree (log ++ [.call .loop (.getCancelled jobId) (.ok flag) fate]) :=
      HookFree.grow here.2.1 (by simp)
    cases flag with
    | true => exact ⟨trivial, free, log, [], fate, rfl, here.2.2⟩
    | false => exact ⟨trivial, free⟩
  · intro run log exception fate world next found told here performs
    have free : HookFree (log ++ [.call .loop (.getCancelled jobId) (.error exception) fate]) :=
      HookFree.grow here.2.1 (by simp)
    exact ⟨trivial, raised_of_foreign free.hooked (foreign_of_fault rfl performs)⟩

theorem awaitRun_does : Does self front jobId (Logged HookFree) (CodaNode.call .awaitRun) Finished
    fun exception => Logged (Raised jobId exception) := by
  apply quiet_triple rfl rfl hookFree_assertion finished_assertion raised_assertion
  · intro run log result fate world next found told here performs
    refine ⟨?_, HookFree.grow here.2 (by simp)⟩
    cases performs with
    | answered _ effect =>
        simp only [World.effect, found, Option.bind_some] at effect
        split at effect
        · assumption
        · cases effect
  · intro run log exception fate world next found told here performs
    have free : HookFree (log ++ [.call .loop .awaitRun (.error exception) fate]) := HookFree.grow here.2 (by simp)
    refine ⟨trivial, raised_of_foreign free.hooked ?_⟩
    cases performs with
    | answered _ effect =>
        simp only [World.effect, found, Option.bind_some] at effect
        split at effect
        · next ended => exact (told.ended _ ended).2
        · cases effect
    | lost _ admitted => exact admitted
    | executed _ admitted _ => exact admitted

theorem lastFlag_does (result : ExecutionResult) :
    Does self front jobId (Finished result) (hasCancelSignal jobId)
      (fun flag => Logged (if flag then Stopped jobId else Returned jobId result))
      fun exception => Logged (Raised jobId exception) := by
  apply quiet_triple rfl rfl (finished_assertion result)
  · intro flag
    cases flag with
    | true => exact stopped_assertion
    | false => exact returned_assertion result
  · exact raised_assertion
  · intro run log flag fate world next found told here performs
    have free : HookFree (log ++ [.call .loop (.getCancelled jobId) (.ok flag) fate]) :=
      HookFree.grow here.2 (by simp)
    cases flag with
    | true => exact ⟨trivial, free.hooked, fate, by simp⟩
    | false =>
        obtain ⟨before, after, same⟩ := List.append_of_mem (told.ended _ here.1).1
        refine ⟨trivial, free.hooked, before, after ++ [.call .loop (.getCancelled jobId) (.ok false) fate], fate,
          by simp [same], by simp⟩
  · intro run log exception fate world next found told here performs
    have free : HookFree (log ++ [.call .loop (.getCancelled jobId) (.error exception) fate]) :=
      HookFree.grow here.2 (by simp)
    exact ⟨trivial, raised_of_foreign free.hooked (foreign_of_fault rfl performs)⟩

/-- The cancellation of the executor task was requested. -/
def Requested (jobId : String) (run : RunTask) (log : List Entry) : Prop :=
  run.cancelRequested = true ∧ Stopped jobId log

theorem requested_assertion : Assertion jobId (Requested jobId) := by
  have ends {run : RunTask} {outcome : Except Exc ExecutionResult} (_ : run.outcome = none)
      (requested : run.cancelRequested = true) :
      ({ run with outcome := some outcome } : RunTask).cancelRequested = true := requested
  exact Assertion.of ends (fun here => ⟨here.1.grow env_not_hook, here.2.grow⟩) fun here => here.1

theorem ret_does {α : Type} {value : α} {pre : RunTask → List Entry → Prop}
    {post : α → RunTask → List Entry → Prop} {failed : Exc → RunTask → List Entry → Prop}
    (after : Assertion jobId (post value)) (implies : ∀ run log, pre run log → post value run log) :
    Does self front jobId pre (.ret value) post failed := by
  apply Triple.ret
  · exact keeps_watched after
  · rintro world ⟨run, log, found, same, told, here⟩
    exact ⟨run, log, found, same, told, implies run log here⟩
  · rintro world ⟨run, log, found, same, told, here⟩
    exact ⟨run, log, found, same, told, after.hooked here⟩

theorem raise_does {α : Type} {exception : Exc} {pre : RunTask → List Entry → Prop}
    {post : α → RunTask → List Entry → Prop} {failed : Exc → RunTask → List Entry → Prop}
    (after : Assertion jobId (failed exception)) (implies : ∀ run log, pre run log → failed exception run log) :
    Does self front jobId pre (.raise exception) post failed := by
  apply Triple.raise
  · exact keeps_watched after
  · rintro world ⟨run, log, found, same, told, here⟩
    exact ⟨run, log, found, same, told, implies run log here⟩
  · rintro world ⟨run, log, found, same, told, here⟩
    exact ⟨run, log, found, same, told, after.hooked here⟩

theorem cancelCurrentJob_does : Does self front jobId (Logged (Stopping jobId)) (CodaNode.call .cancelCurrentJob)
    (fun _ => Logged (Stopped jobId)) fun _ => Logged (Stopped jobId) := by
  apply quiet_triple rfl rfl stopping_assertion
  · intro _
    exact stopped_assertion
  · intro _
    exact stopped_assertion
  · intro run log value fate world next found told here performs
    exact ⟨trivial, .called here.2.1 here.2.2, here.2.2.flagSeen.grow⟩
  · intro run log exception fate world next found told here performs
    exact ⟨trivial, .called here.2.1 here.2.2, here.2.2.flagSeen.grow⟩

/-- The flag was seen, so the exception may be the own one. -/
theorem Stopped.raised {log : List Entry} (stopped : Stopped jobId log) (exception : Exc) :
    Raised jobId exception log :=
  ⟨stopped.1, fun _ => stopped.2⟩

theorem hook_does : Does self front jobId (Logged (Stopping jobId)) (requestRunnerCancel self)
    (fun _ => Logged (Stopped jobId)) fun exception => Logged (Raised jobId exception) := by
  unfold requestRunnerCancel
  split
  · apply cancelCurrentJob_does.handle
    · intro value
      exact ret_does stopped_assertion fun _ _ here => here
    · intro exception
      split
      · exact ret_does stopped_assertion fun _ _ here => here
      · exact raise_does (raised_assertion exception) fun _ _ here => ⟨trivial, here.2.raised exception⟩
  · exact ret_does stopped_assertion fun _ _ here => ⟨trivial, HookFree.hooked here.2.1, here.2.2.flagSeen⟩

/-- The request always works. -/
theorem cancelRun_does : Does self front jobId (Logged (Stopped jobId)) (CodaNode.call .cancelRun)
    (fun _ => Requested jobId) fun exception => Logged (Raised jobId exception) := by
  apply op_triple stopped_assertion
  · intro _
    exact requested_assertion
  · exact raised_assertion
  · intro run log outcome fate world next found told here performs
    cases performs with
    | answered _ effect =>
        cases outcome with
        | ok value =>
            cases effect
            refine ⟨{ run with cancelRequested := true }, by rw [found]; rfl, rfl, rfl, ?_, ?_⟩
            · intro value _
              exact ⟨rfl, here.2.1.grow (by simp), here.2.2.grow⟩
            · intro exception same
              cases same
        | error exception => cases effect
    | lost interruptible => cases interruptible
    | executed interruptible => cases interruptible

/-- Whatever the cancelled task raises is swallowed. -/
theorem swallowed_does : Does self front jobId (Requested jobId)
    ((discard (CodaNode.call .awaitRun)).catching fun _ => .ret ()) (fun _ => Requested jobId)
    fun exception => Logged (Raised jobId exception) := by
  have waits : Does self front jobId (Requested jobId) (CodaNode.call .awaitRun) (fun _ => Requested jobId)
      fun _ => Requested jobId := by
    apply quiet_triple rfl rfl requested_assertion
    · intro _
      exact requested_assertion
    · intro _
      exact requested_assertion
    · intro run log value fate world next found told here performs
      exact ⟨here.1, here.2.1.grow (by simp), here.2.2.grow⟩
    · intro run log exception fate world next found told here performs
      exact ⟨here.1, here.2.1.grow (by simp), here.2.2.grow⟩
  have discarded : Does self front jobId (Requested jobId) (discard (CodaNode.call .awaitRun))
      (fun _ => Requested jobId) fun _ => Requested jobId :=
    waits.bind fun _ => ret_does requested_assertion fun _ _ here => here
  apply discarded.handle
  · intro value
    exact ret_does requested_assertion fun _ _ here => here
  · intro exception
    exact ret_does requested_assertion fun _ _ here => here

theorem pollRun_does (rounds : Nat) : Does self front jobId (Logged HookFree) (pollRun self jobId rounds)
    (fun result => Logged (Returned jobId result)) fun exception => Logged (Raised jobId exception) := by
  induction rounds with
  | zero =>
      have never : Does self front jobId (Logged HookFree) (CodaNode.call .hang) (fun _ => Logged HookFree)
          fun exception => Logged (Raised jobId exception) := by
        apply quiet_triple rfl rfl hookFree_assertion
        · intro value
          cases value
        · exact raised_assertion
        · intro run log value
          cases value
        · intro run log exception fate world next found told here performs
          have free : HookFree (log ++ [.call .loop .hang (.error exception) fate]) :=
            HookFree.grow here.2 (by simp)
          exact ⟨trivial, raised_of_foreign free.hooked (foreign_of_fault rfl performs)⟩
      apply never.bind
      intro value
      cases value
  | succ rounds again =>
      apply waitRun_does.bind
      intro done
      cases done with
      | true =>
          apply awaitRun_does.bind
          intro result
          apply (lastFlag_does result).bind
          intro flag
          cases flag with
          | true => exact raise_does (raised_assertion _) fun _ _ here => ⟨trivial, here.2.raised _⟩
          | false => exact ret_does (returned_assertion result) fun _ _ here => here
      | false =>
          apply pollFlag_does.bind
          intro flag
          cases flag with
          | true =>
              apply hook_does.bind
              intro _
              apply cancelRun_does.bind
              intro _
              apply swallowed_does.bind
              intro _
              exact raise_does (raised_assertion _) fun _ _ here => ⟨trivial, here.2.raised _⟩
          | false => exact again

/-! ### The way out -/

/-- The executor task has ended, or its cancellation was requested. -/
def Settled (past : List Entry → Prop) (run : RunTask) (log : List Entry) : Prop :=
  (run.outcome.isSome ∨ run.cancelRequested) ∧ past log

theorem Settled.assertion {past : List Entry → Prop} (grows : ∀ {log event}, past log → past (log ++ [.env event]))
    (hooked : ∀ {log}, past log → Hooked jobId log) : Assertion jobId (Settled past) := by
  have ends {run : RunTask} {outcome : Except Exc ExecutionResult} (_ : run.outcome = none)
      (_ : run.outcome.isSome ∨ run.cancelRequested) :
      ({ run with outcome := some outcome } : RunTask).outcome.isSome ∨
        ({ run with outcome := some outcome } : RunTask).cancelRequested := .inl rfl
  exact Assertion.of ends grows hooked

/-- The `finally` clause. [SRC consumer.py:365-367] -/
def settle : Task Unit := do
  if ← CodaNode.call .runDone then
    return ()
  else
    CodaNode.call .cancelRun

theorem settle_does {past : List Entry → Prop} {failed : Exc → RunTask → List Entry → Prop}
    (grows : ∀ {log entry}, (∀ role outcome fate, entry ≠ .call role .cancelCurrentJob outcome fate) →
      past log → past (log ++ [entry]))
    (hooked : ∀ {log}, past log → Hooked jobId log) (raised : ∀ exception, Assertion jobId (failed exception)) :
    Does self front jobId (Logged past) settle (fun _ => Settled past) failed := by
  have settled : Assertion jobId (Settled past) := Settled.assertion (grows env_not_hook) hooked
  have logged : Assertion jobId (Logged past) := .logged (grows env_not_hook) hooked
  have asks : Does self front jobId (Logged past) (CodaNode.call .runDone)
      (fun done => if done then Settled past else Logged past) failed := by
    apply op_triple logged
    · intro done
      cases done with
      | true => exact settled
      | false => exact logged
    · exact raised
    · intro run log outcome fate world next found told here performs
      cases performs with
      | answered _ effect =>
          cases outcome with
          | ok done =>
              simp only [World.effect, found, Option.map_some, Option.some.injEq] at effect
              split at effect
              · next same =>
                cases effect
                refine ⟨run, found, rfl, rfl, ?_, ?_⟩
                · intro value reply
                  cases reply
                  cases done with
                  | true => exact ⟨.inl same, by simpa [loggedAs, Op.logged] using here.2⟩
                  | false => exact ⟨trivial, by simpa [loggedAs, Op.logged] using here.2⟩
                · intro exception reply
                  cases reply
              · cases effect
          | error exception => cases effect
      | lost interruptible => cases interruptible
      | executed interruptible => cases interruptible
  apply asks.bind
  intro done
  cases done with
  | true => exact ret_does settled fun _ _ here => here
  | false =>
      apply op_triple logged
      · intro _
        exact settled
      · exact raised
      · intro run log outcome fate world next found told here performs
        cases performs with
        | answered _ effect =>
            cases outcome with
            | ok value =>
                cases effect
                refine ⟨{ run with cancelRequested := true }, by rw [found]; rfl, rfl, rfl, ?_, ?_⟩
                · intro value _
                  exact ⟨.inr rfl, grows (by simp) here.2⟩
                · intro exception same
                  cases same
            | error exception => cases effect
        | lost interruptible => cases interruptible
        | executed interruptible => cases interruptible

/-- The polling loop and its `finally` clause. -/
theorem supervision_does : Does self front jobId (Logged HookFree)
    ((pollRun self jobId self.pollRounds).finally settle)
    (fun result => Settled (Returned jobId result)) fun exception => Settled (Raised jobId exception) := by
  have raised (exception : Exc) : Assertion jobId (Settled (Raised jobId exception)) :=
    Settled.assertion (fun here => ⟨here.1.grow env_not_hook, fun own => (here.2 own).grow⟩) fun here => here.1
  apply (pollRun_does self.pollRounds).handle
  · intro result
    have stands : Does self front jobId (Logged (Returned jobId result)) settle
        (fun _ => Settled (Returned jobId result))
        fun exception => Settled (Raised jobId exception) := by
      apply settle_does
      · exact fun other here => ⟨here.1.grow other, here.2.grow⟩
      · exact fun here => here.1
      · exact raised
    apply stands.handle
    · intro _
      have returned : Assertion jobId (Settled (Returned jobId result)) :=
        Settled.assertion (fun here => ⟨here.1.grow env_not_hook, here.2.grow⟩) fun here => here.1
      exact ret_does returned fun _ _ here => here
    · intro exception
      exact raise_does (raised exception) fun _ _ here => here
  · intro exception
    have stands : Does self front jobId (Logged (Raised jobId exception)) settle
        (fun _ => Settled (Raised jobId exception))
        fun exception => Settled (Raised jobId exception) := by
      apply settle_does
      · exact fun other here => ⟨here.1.grow other, fun own => (here.2 own).grow⟩
      · exact fun here => here.1
      · exact raised
    apply stands.handle
    · intro _
      exact raise_does (raised exception) fun _ _ here => here
    · intro failure
      exact raise_does (raised failure) fun _ _ here => here

/-- Where a call is: in front of the creation of the executor task, or behind it. -/
theorem created_spot {ir : NativeGateIR} {shots : Int} {world last : World} {rest : Task ExecutionResult}
    (leads : Leads (machine self .arbitrary) .loop world (runJobWithCancellation self jobId ir shots) last rest) :
    (rest = runJobWithCancellation self jobId ir shots ∧ ∃ events, last.log = world.log ++ events ∧ Outside events) ∨
      ∃ events created, Outside events ∧ created.runTask = some { jobId := jobId } ∧
        created.log = world.log ++ events ++ [.call .loop (.createRun jobId ir shots) (.ok ()) .answered] ∧
        Leads (machine self .arbitrary) .loop created ((pollRun self jobId self.pollRounds).finally settle) last
          rest := by
  induction leads with
  | refl => exact .inl ⟨rfl, [], by simp, by simp [Outside]⟩
  | env _ move ih =>
      rcases ih with ⟨same, events, log, outside⟩ | ⟨events, created, outside, found, log, leads⟩
      · obtain ⟨event, next, -, occurs, rfl⟩ := move
        refine .inl ⟨same, events ++ [.env event], ?_, forall_snoc outside ⟨event, rfl⟩⟩
        rw [World.record_log, World.log_of_occur occurs, log, List.append_assoc]
      · exact .inr ⟨events, created, outside, found, log, .env leads move⟩
  | call _ performed ih =>
      rcases ih with ⟨same, events, log, outside⟩ | ⟨events, created, outside, found, log, leads⟩
      · cases same
        obtain ⟨fate, next, performs, rfl⟩ := performed
        cases performs with
        | answered _ effect =>
            rename_i outcome earlier admitted
            cases outcome with
            | ok value =>
                cases effect
                refine .inr ⟨events, _, outside, ?_, ?_, .refl⟩
                · rw [World.recordCall_runTask]
                · rw [World.recordCall_log, ← log]
                  rfl
            | error exception => cases effect
        | lost interruptible => cases interruptible
        | executed interruptible => cases interruptible
      · exact .inr ⟨events, created, outside, found, log, .call leads performed⟩

end CancelRace

open CancelRace

/-- A result of `_run_job_with_cancellation` was cleared by a check behind the end of the executor task; its own
exception follows a check that saw the flag; the hook is called at most once, behind a check that saw the flag and
began while the task was unfinished; and on every way out the task has ended or its cancellation was requested. -/
theorem runJobWithCancellation_supervised (self : Consumer) (jobId : String) (ir : NativeGateIR) (shots : Int)
    (world last : World) (rest : Task ExecutionResult)
    (leads : Leads (machine self .arbitrary) .loop world (runJobWithCancellation self jobId ir shots) last rest) :
    (rest = runJobWithCancellation self jobId ir shots ∧ ∃ events, last.log = world.log ++ events ∧ Outside events) ∨
      ∃ events log run, Outside events ∧ last.runTask = some run ∧
        last.log = world.log ++ events ++ .call .loop (.createRun jobId ir shots) (.ok ()) .answered :: log ∧
        Supervised jobId log run rest := by
  rcases created_spot leads with ⟨same, events⟩ | ⟨events, created, outside, found, front, leads⟩
  · exact .inl ⟨same, events⟩
  · have start : Watched created.log jobId (Logged HookFree) created := by
      refine ⟨{ jobId := jobId }, [], found, by simp, ⟨rfl, ?_, ?_⟩, trivial, ?_⟩
      · intro outcome ended
        cases ended
      · intro _ outcome inside
        cases inside
      · intro role outcome fate inside
        cases inside
    obtain ⟨⟨run, log, task, logs, told, hooked⟩, returned, raised⟩ := supervision_does start leads
    refine .inr ⟨events, log, run, outside, task, by rw [logs, front]; simp, ?_, ?_, hooked, ?_⟩
    · rintro result rfl
      obtain ⟨run', log', task', logs', -, -, -, cleared⟩ := returned result rfl
      rw [logs, List.append_cancel_left_eq] at logs'
      exact logs' ▸ cleared
    · rintro exception rfl own
      obtain ⟨run', log', task', logs', -, -, -, seen⟩ := raised exception rfl
      rw [logs, List.append_cancel_left_eq] at logs'
      exact logs' ▸ seen own
    · intro ended
      cases rest with
      | ret result =>
          obtain ⟨run', log', task', -, -, settled, -⟩ := returned result rfl
          cases task.symm.trans task'
          exact settled
      | raise exception =>
          obtain ⟨run', log', task', -, -, settled, -⟩ := raised exception rfl
          cases task.symm.trans task'
          exact settled
      | call op resume => exact absurd rfl (ended op resume)

namespace CancelRace

/-- A consumer whose executor has the hook. -/
def hooking : Consumer := { Sample.consumer with hasCancelHook := true }

def circuitIr : NativeGateIR := ⟨Sample.circuit, rfl⟩

/-- A run of one call in which nothing fails. -/
def play (script : List (Option EnvEvent)) : Option (World × Task ExecutionResult) :=
  Coro.amid (fun world op => world.serveAlone (Surroundings.plain Sample.result) op) World.happen script {}
    (runJobWithCancellation hooking "job" circuitIr 10)

theorem play_leads {script : List (Option EnvEvent)} {last : World} {rest : Task ExecutionResult}
    (runs : play script = some (last, rest)) :
    Leads (machine hooking .arbitrary) .loop {} (runJobWithCancellation hooking "job" circuitIr 10) last rest :=
  World.amid_leads (Surroundings.plain_within fun _ _ _ _ => trivial) (fun _ => trivial) runs

/-- The executor task ends while the flag is read. -/
def late : List (Option EnvEvent) :=
  [none, none, some (.runFinished "job" (.ok Sample.result)), some (.cancelRequested "job"), none, none]

theorem late_log : (play late).map (fun run => run.1.log) =
    some ([.call .loop (.createRun "job" circuitIr 10) (.ok ()) .answered, .call .loop .waitRun (.ok false) .answered,
        .env (.runFinished "job" (.ok Sample.result)), .env (.cancelRequested "job"),
        .call .loop (.getCancelled "job") (.ok true) .answered] ++
      [.call .loop .cancelCurrentJob (.ok ()) .answered]) := rfl

/-- The executor task has ended before the flag was set. -/
def finished : List (Option EnvEvent) :=
  [none, some (.runFinished "job" (.ok Sample.result)), none, none, none, none]

theorem finished_result : (play finished).map (fun run => run.2) = some (.ret Sample.result) := rfl

end CancelRace

open CancelRace in
/-- The hook is called although the executor task had ended when the flag was seen. -/
theorem runJobWithCancellation_hook_late :
    ∃ last rest before role outcome fate after,
      Leads (machine hooking .arbitrary) .loop {} (runJobWithCancellation hooking "job" circuitIr 10) last rest ∧
      last.log = before ++ .call role .cancelCurrentJob outcome fate :: after ∧
      ¬ ∃ earlier between fate, before = earlier ++ .call .loop (.getCancelled "job") (.ok true) fate :: between ∧
        Unfinished "job" earlier := by
  obtain ⟨⟨last, rest⟩, runs, log⟩ := Option.map_eq_some_iff.mp late_log
  refine ⟨last, rest, _, .loop, .ok (), .answered, [], play_leads runs, log, ?_⟩
  rintro ⟨earlier, between, fate, same, unfinished⟩
  have inside : .env (.runFinished "job" (.ok Sample.result)) ∈ earlier := by
    -- the check is the fifth entry, the end of the task the third
    rcases earlier with _ | ⟨first, _ | ⟨second, _ | ⟨third, _ | ⟨fourth, earlier⟩⟩⟩⟩
    · simp at same
    · simp at same
    · simp at same
    · simp at same
    · simp only [List.cons_append, List.cons.injEq] at same
      simp [← same.2.2.1]
  exact unfinished _ inside

open CancelRace in
/-- The guarantees, for a call that returns a result. -/
theorem runJobWithCancellation_supervised_finished : ∃ last,
    Leads (machine hooking .arbitrary) .loop {} (runJobWithCancellation hooking "job" circuitIr 10) last
      (.ret Sample.result) ∧
    ∃ log run, last.runTask = some run ∧ Cleared "job" Sample.result log ∧ Hooked "job" log ∧
      (run.outcome.isSome ∨ run.cancelRequested) := by
  obtain ⟨⟨last, rest⟩, runs, same⟩ := Option.map_eq_some_iff.mp finished_result
  cases same
  refine ⟨last, play_leads runs, ?_⟩
  rcases runJobWithCancellation_supervised hooking "job" circuitIr 10 {} last _ (play_leads runs) with
    ⟨impossible, -⟩ | ⟨events, log, run, -, task, -, supervised⟩
  · cases impossible
  · refine ⟨log, run, task, supervised.result _ rfl, supervised.hook, supervised.settled ?_⟩
    intro op resume impossible
    cases impossible

end CodaNode
