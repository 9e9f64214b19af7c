/-
Module: CodaNode.Protocol.Sound
Layer: Protocol
Purpose: What every stage guarantees while only the fetching of messages can fail: the executor task has
  ended outside the polling loop, it is never cancelled behind the back of the loop, and a call raises
  only for a message that cannot be decoded.
Imports: CodaNode.Protocol.Crew, CodaNode.Protocol.Loop, CodaNode.Server.Undisturbed
Main exports: RunAtRest, RunLive, Stage.Sound, LoopStage.Sound
-/
import CodaNode.Protocol.Crew
import CodaNode.Protocol.Loop
import CodaNode.Server.Undisturbed

namespace CodaNode

open Coroutine

/-- No executor task runs. -/
def RunAtRest (runTask : Option RunTask) : Prop :=
  ∀ run, runTask = some run → run.outcome.isSome = true

/-- The executor task of this job has not been cancelled. -/
def RunLive (jobId : String) (runTask : Option RunTask) : Prop :=
  ∃ run, runTask = some run ∧ run.jobId = jobId ∧ run.cancelRequested = false ∧
    ∀ outcome, run.outcome = some outcome → Exc.regular outcome = true

theorem RunAtRest.of_ended {run : RunTask} (ended : run.outcome.isSome = true) :
    RunAtRest (some run) := by
  intro other same
  cases same
  exact ended

/-- What the executor does on its own keeps a task at rest as it is. -/
theorem RunAtRest.occur {world next : World} {event : EnvEvent}
    (occurs : world.occur event = some next) (rest : RunAtRest world.runTask) :
    next.runTask = world.runTask := by
  unfold World.occur at occurs
  split at occurs
  · cases occurs
    rfl
  · split at occurs
    · rename_i run found
      split at occurs
      · rename_i possible
        have ended := rest run found
        rw [possible.2.1] at ended
        cases ended
      · cases occurs
    · cases occurs
  · cases occurs
    rfl
  · cases occurs
    rfl

theorem RunLive.occur {world next : World} {event : EnvEvent} {jobId : String}
    (occurs : world.occur event = some next) (live : RunLive jobId world.runTask) :
    RunLive jobId next.runTask := by
  obtain ⟨run, found, same, free, regular⟩ := live
  unfold World.occur at occurs
  split at occurs
  · cases occurs
    exact ⟨run, found, same, free, regular⟩
  · rw [found] at occurs
    simp only at occurs
    split at occurs
    · rename_i possible
      cases occurs
      refine ⟨_, rfl, same, free, ?_⟩
      rintro outcome ⟨⟩
      rcases possible.2.2.2 with requested | fine
      · rw [free] at requested
        cases requested
      · exact fine
    · cases occurs
  · cases occurs
    exact ⟨run, found, same, free, regular⟩
  · cases occurs
    exact ⟨run, found, same, free, regular⟩

namespace Stage

/-- What holds of the executor task at a stage of a message, and which stages are not reached. -/
def Sound (message : StreamMessage) (runTask : Option RunTask) : Stage → Prop
  | .poll | .collect | .pollFlag | .hook | .abandon => RunLive message.job.jobId runTask
  | .drain => True
  | .abort _ => False
  | .settle (.error exception) | .errorFlag exception | .recordFailure exception
  | .reportFailure exception => RunAtRest runTask ∧ exception.isException = true
  | .cleanUp (.error _) | .release (.error _) | .free (.error _) => False
  | .ended (.error exception) => RunAtRest runTask ∧ message.read = .error exception
  | _ => RunAtRest runTask

theorem sound_failing {message : StreamMessage} {runTask : Option RunTask} {exception : Exc}
    (rest : RunAtRest runTask) (caught : exception.isException = true) :
    (failing exception).Sound message runTask := by
  unfold failing
  split
  · exact rest
  · exact ⟨rest, caught⟩

theorem sound_started {self : Consumer} {message : StreamMessage} {runTask : Option RunTask}
    {job : JobMessage} (rest : RunAtRest runTask) : (started self job).Sound message runTask := by
  unfold started
  cases parsed : parseCircuit self job.decoded with
  | ok circuit => exact rest
  | error exception => exact sound_failing rest (Exc.isException_of_isOrdinary (isOrdinary_of_parseCircuit parsed))

variable {self : Consumer} {policy : Policy} {message : StreamMessage} {stage later : Stage}
variable {world next : World}

theorem Sound.occur {event : EnvEvent} (occurs : world.occur event = some next)
    (sound : stage.Sound message world.runTask) : stage.Sound message next.runTask := by
  cases stage with
  | poll | collect | pollFlag | hook | abandon => exact RunLive.occur occurs sound
  | drain => trivial
  | abort => exact sound.elim
  | settle outcome | cleanUp outcome | release outcome | free outcome | ended outcome =>
      cases outcome with
      | ok value =>
          change RunAtRest _ at sound ⊢
          rw [sound.occur occurs]
          exact sound
      | error exception =>
          first
            | exact sound.elim
            | (obtain ⟨rest, fact⟩ := sound
               refine ⟨?_, fact⟩
               rw [rest.occur occurs]
               exact rest)
  | errorFlag | recordFailure | reportFailure =>
      obtain ⟨rest, caught⟩ := sound
      refine ⟨?_, caught⟩
      rw [rest.occur occurs]
      exact rest
  | _ =>
      change RunAtRest _ at sound ⊢
      rw [sound.occur occurs]
      exact sound

theorem sound_opening {runTask : Option RunTask} (rest : RunAtRest runTask) :
    (opening message).Sound message runTask := by
  unfold opening
  cases reading : message.read with
  | error exception => exact ⟨rest, reading⟩
  | ok found => cases found <;> exact rest

private theorem Sound.live {run : RunTask} {jobId : String} {runTask : Option RunTask}
    (live : RunLive jobId runTask) (found : runTask = some run) : run.cancelRequested = false ∧
      ∀ outcome, run.outcome = some outcome → Exc.regular outcome = true := by
  obtain ⟨other, found', -, free, regular⟩ := live
  rw [found] at found'
  cases found'
  exact ⟨free, regular⟩

/-- Every row keeps it. -/
theorem Sound.row (undisturbed : policy.Undisturbed) {op : Op} {outcome : Except Exc op.Reply}
    {fate : Fate} (row : Move self message message.job stage op outcome later)
    (performs : World.Performs policy world op outcome fate next)
    (sound : stage.Sound message world.runTask) : later.Sound message next.runTask := by
  cases row with
  | called =>
      rw [World.runTask_of_performs performs rfl]
      obtain ⟨value, rfl⟩ := World.feasible_of_performs performs rfl
      exact sound_opening sound
  | lookUp =>
      obtain ⟨rfl, -, rfl⟩ := World.hgetState_answered undisturbed performs
      simp only [afterCall]
      split <;> exact sound
  | pickUpFlag =>
      obtain ⟨rfl, -, rfl⟩ := World.getCancelled_answered undisturbed performs
      simp only [afterCall]
      split <;> exact sound
  | drop =>
      obtain ⟨rfl, -, rfl⟩ := World.hset_answered undisturbed performs
      exact sound
  | dismiss =>
      obtain ⟨rfl, -, rfl⟩ := World.xack_answered undisturbed performs
      exact sound
  | takeOn =>
      obtain ⟨rfl, -, rfl⟩ := World.hset_answered undisturbed performs
      exact sound_started sound
  | launch =>
      obtain ⟨rfl, -, rfl⟩ := World.createRun_answered undisturbed performs
      exact ⟨_, rfl, rfl, rfl, fun outcome same => by cases same⟩
  | poll =>
      obtain ⟨rfl, -, run, found, rfl⟩ := World.waitRun_answered undisturbed performs
      simp only [afterCall]
      split <;> exact sound
  | hang => exact (World.feasible_of_performs performs rfl).elim fun never => by cases never
  | @collect outcome =>
      obtain ⟨rfl, -, run, found, ended⟩ := World.awaitRun_answered undisturbed performs
      have rest : RunAtRest next.runTask := by
        rw [found]
        exact .of_ended (by rw [ended]; rfl)
      cases outcome with
      | ok result => exact rest
      | error exception => exact ⟨rest, (Sound.live sound found).2 _ ended⟩
  | pollFlag =>
      obtain ⟨rfl, -, rfl⟩ := World.getCancelled_answered undisturbed performs
      simp only [afterCall]
      split
      · split <;> exact sound
      · exact sound
  | @hook outcome =>
      obtain ⟨rfl, -, -, ordinary⟩ := World.outward_answered undisturbed performs (.inl rfl)
      cases outcome with
      | ok value => exact sound
      | error exception =>
          simp only [afterLogged, Exc.isException_of_isOrdinary (ordinary exception rfl), if_true]
          exact sound
  | abandon =>
      obtain ⟨rfl, -, rfl⟩ := World.cancelRun_answered undisturbed performs
      trivial
  | drain =>
      obtain ⟨rfl, -, run, found, ended⟩ := World.awaitRun_answered undisturbed performs
      refine ⟨?_, rfl⟩
      rw [found]
      exact .of_ended (by rw [ended]; rfl)
  | ranFlag =>
      obtain ⟨rfl, -, rfl⟩ := World.getCancelled_answered undisturbed performs
      simp only [afterCall]
      cases next.redis.cancelled message.job.jobId with
      | true => exact ⟨sound, rfl⟩
      | false => exact sound
  | @settle ending outcome =>
      obtain ⟨rfl, -, run, found, rfl⟩ := World.runDone_answered undisturbed performs
      have rest : RunAtRest next.runTask := by
        cases ending with
        | ok result => exact sound
        | error exception => exact sound.1
      simp only [afterCall, rest run found, if_true]
      cases ending with
      | ok result => exact rest
      | error exception => exact sound_failing rest sound.2
  | abort => exact sound.elim
  | doneFlag | lastFlag =>
      obtain ⟨rfl, -, rfl⟩ := World.getCancelled_answered undisturbed performs
      simp only [afterCall]
      split
      · exact sound_failing sound rfl
      · exact sound
  | complete =>
      obtain ⟨rfl, -, rfl⟩ := World.hset_answered undisturbed performs
      exact sound
  | @report result outcome =>
      obtain ⟨rfl, -, -, ordinary⟩ :=
        World.outward_answered undisturbed performs (.inr (.inr (.inl ⟨_, _, rfl⟩)))
      cases outcome with
      | ok value => exact sound
      | error exception =>
          exact sound_failing sound (Exc.isException_of_isOrdinary (ordinary exception rfl))
  | mark =>
      obtain ⟨rfl, -, rfl⟩ := World.hset_answered undisturbed performs
      exact sound
  | errorFlag =>
      obtain ⟨rfl, -, rfl⟩ := World.getCancelled_answered undisturbed performs
      simp only [afterCall]
      split
      · exact sound.1
      · exact sound
  | recordFailure =>
      obtain ⟨rfl, -, rfl⟩ := World.hset_answered undisturbed performs
      exact sound
  | @reportFailure _ outcome =>
      obtain ⟨rfl, -, -, ordinary⟩ :=
        World.outward_answered undisturbed performs (.inr (.inr (.inr ⟨_, _, _, rfl⟩)))
      cases outcome with
      | ok value => exact sound.1
      | error exception =>
          simp only [afterLogged, Exc.isException_of_isOrdinary (ordinary exception rfl), if_true]
          exact sound.1
  | @cleanUp ending =>
      obtain ⟨rfl, -, rfl⟩ := World.xack_answered undisturbed performs
      cases ending with
      | ok value => exact sound
      | error exception => exact sound.elim
  | @release ending | @free ending =>
      rw [World.runTask_of_performs performs rfl]
      cases ending with
      | ok value => exact sound
      | error exception => exact sound.elim
  | clock | assign =>
      rw [World.runTask_of_performs performs rfl]
      exact sound

/-- A call that has ended leaves no executor task behind. -/
theorem Sound.rest {runTask : Option RunTask} {ending : Except Exc Unit}
    (sound : (ended ending).Sound message runTask) : RunAtRest runTask := by
  cases ending with
  | ok value => exact sound
  | error exception => exact sound.1

end Stage

/-! ### The methods around it -/

variable {self : Consumer} {policy : Policy} {world next : World} {op : Op}
variable {outcome : Except Exc op.Reply} {fate : Fate}

/-- What holds at a stage of a recovery. -/
def RecoveryStage.Sound (runTask : Option RunTask) : RecoveryStage → Prop
  | .process message stage _ => stage.Sound message runTask
  | .ended (.error exception) => RunAtRest runTask ∧ exception.isException = true
  | _ => RunAtRest runTask

/-- What holds at a stage of a batch. -/
def BatchStage.Sound (runTask : Option RunTask) : BatchStage → Prop
  | .process message stage _ => stage.Sound message runTask
  | .ended (.error exception) => RunAtRest runTask ∧ exception.kind = .unicodeDecodeError
  | _ => RunAtRest runTask

/-- What holds at a stage of the main loop. -/
def LoopStage.Sound (runTask : Option RunTask) : LoopStage → Prop
  | .startUp stage | .recheck _ stage => stage.Sound runTask
  | .each message stage _ => stage.Sound message runTask
  | .batch _ stage => stage.Sound runTask
  | _ => RunAtRest runTask

theorem RecoveryStage.Sound.occur {stage : RecoveryStage} {event : EnvEvent}
    (occurs : world.occur event = some next) (sound : stage.Sound world.runTask) :
    stage.Sound next.runTask := by
  cases stage with
  | process message stage rest => exact Stage.Sound.occur occurs sound
  | ended ending =>
      cases ending with
      | ok value => exact (RunAtRest.occur occurs sound).symm ▸ sound
      | error exception => exact ⟨(RunAtRest.occur occurs sound.1).symm ▸ sound.1, sound.2⟩
  | query | fetch => exact (RunAtRest.occur occurs sound).symm ▸ sound

theorem BatchStage.Sound.occur {stage : BatchStage} {event : EnvEvent}
    (occurs : world.occur event = some next) (sound : stage.Sound world.runTask) :
    stage.Sound next.runTask := by
  cases stage with
  | process message stage rest => exact Stage.Sound.occur occurs sound
  | ended ending =>
      cases ending with
      | ok value => exact (RunAtRest.occur occurs sound).symm ▸ sound
      | error exception => exact ⟨(RunAtRest.occur occurs sound.1).symm ▸ sound.1, sound.2⟩
  | _ => exact (RunAtRest.occur occurs sound).symm ▸ sound

theorem LoopStage.Sound.occur {stage : LoopStage} {event : EnvEvent}
    (occurs : world.occur event = some next) (sound : stage.Sound world.runTask) :
    stage.Sound next.runTask := by
  cases stage with
  | startUp | recheck => exact RecoveryStage.Sound.occur occurs sound
  | each => exact Stage.Sound.occur occurs sound
  | batch => exact BatchStage.Sound.occur occurs sound
  | _ => exact (RunAtRest.occur occurs sound).symm ▸ sound

/-- An operation that fetches messages fails with an `Exception`. -/
theorem World.isException_of_performs (undisturbed : policy.Undisturbed) {exception : Exc}
    (performs : Performs policy world op (.error exception) fate next)
    (answers : world.effect op (.error exception) = none) : exception.isException = true := by
  cases performs with
  | answered _ effect =>
      rw [answers] at effect
      cases effect
  | lost _ admitted => exact undisturbed.ordinary admitted
  | executed _ admitted => exact undisturbed.ordinary admitted

theorem RecoveryStage.sound_next {runTask : Option RunTask} (rest : RunAtRest runTask)
    (todo : List String) : (RecoveryStage.next todo).Sound runTask := by
  cases todo <;> exact rest

theorem RecoveryStage.Sound.row (undisturbed : policy.Undisturbed) {stage later : RecoveryStage}
    (row : Move self stage op outcome later)
    (performs : World.Performs policy world op outcome fate next)
    (sound : stage.Sound world.runTask) : later.Sound next.runTask := by
  cases row with
  | @query outcome =>
      rw [World.runTask_of_performs performs rfl]
      cases outcome with
      | ok pending => exact sound_next sound pending
      | error exception => exact ⟨sound, World.isException_of_performs undisturbed performs rfl⟩
  | @fetch messageId rest outcome =>
      rw [World.runTask_of_performs performs rfl]
      cases outcome with
      | ok messages =>
          cases messages with
          | nil => exact sound_next sound rest
          | cons message others => exact sound
      | error exception => exact ⟨sound, World.isException_of_performs undisturbed performs rfl⟩
  | @process message stage rest _ _ later row =>
      have here := Stage.Sound.row undisturbed row performs sound
      refine Stage.within_cases (motive := RecoveryStage.Sound next.runTask) ?_ ?_ ?_
      · intro _
        exact here
      · rintro rfl
        exact sound_next here.rest rest
      · rintro exception rfl
        exact ⟨here.1, Exc.isException_of_isOrdinary (isOrdinary_of_read here.2)⟩

theorem RecoveryStage.Sound.rest {runTask : Option RunTask} {ending : Except Exc Unit}
    (sound : (RecoveryStage.ended ending).Sound runTask) : RunAtRest runTask := by
  cases ending with
  | ok value => exact sound
  | error exception => exact sound.1

theorem BatchStage.Sound.rest {runTask : Option RunTask} {ending : Except Exc (Option Nat)}
    (sound : (BatchStage.ended ending).Sound runTask) : RunAtRest runTask := by
  cases ending with
  | ok value => exact sound
  | error exception => exact sound.1

theorem BatchStage.sound_parse {runTask : Option RunTask} (rest : RunAtRest runTask)
    (parsed : List ParsedJob) (todo : List StreamMessage) : (BatchStage.parse parsed todo).Sound runTask := by
  cases todo with
  | nil =>
      simp only [BatchStage.parse]
      split <;> exact rest
  | cons message others =>
      simp only [BatchStage.parse]
      split
      · rename_i exception reading
        exact ⟨rest, kind_of_read reading⟩
      · exact rest
      · exact rest

theorem BatchStage.sound_each {runTask : Option RunTask} (rest : RunAtRest runTask)
    (messages : List StreamMessage) : (BatchStage.each messages).Sound runTask := by
  cases messages <;> exact rest

theorem BatchStage.sound_marking {runTask : Option RunTask} (rest : RunAtRest runTask)
    (messages : List StreamMessage) (parsed todo : List ParsedJob) :
    (BatchStage.marking self messages parsed todo).Sound runTask := by
  cases todo with
  | nil =>
      simp only [BatchStage.marking]
      split
      · exact rest
      · exact sound_each rest messages
  | cons job others => exact rest

theorem BatchStage.Sound.row (undisturbed : policy.Undisturbed) {messages : List StreamMessage}
    {stage later : BatchStage} (row : Move self messages stage op outcome later)
    (performs : World.Performs policy world op outcome fate next)
    (sound : stage.Sound world.runTask) : later.Sound next.runTask := by
  cases row with
  | called =>
      rw [World.runTask_of_performs performs rfl]
      obtain ⟨value, rfl⟩ := World.feasible_of_performs performs rfl
      exact sound_parse sound [] messages
  | lookUp =>
      obtain ⟨rfl, -, rfl⟩ := World.hgetState_answered undisturbed performs
      simp only [afterCall]
      split <;> exact sound
  | @pickUpFlag message parsed todo =>
      obtain ⟨rfl, -, rfl⟩ := World.getCancelled_answered undisturbed performs
      simp only [afterCall]
      split
      · exact sound
      · unfold accept
        split
        · exact sound
        · exact sound_parse sound _ todo
  | drop =>
      obtain ⟨rfl, -, rfl⟩ := World.hset_answered undisturbed performs
      exact sound
  | @dismiss message parsed todo =>
      obtain ⟨rfl, -, rfl⟩ := World.xack_answered undisturbed performs
      exact sound_parse sound parsed todo
  | @busy parsed =>
      rw [World.runTask_of_performs performs rfl]
      exact sound_marking sound messages parsed parsed
  | @mark job todo parsed =>
      obtain ⟨rfl, -, rfl⟩ := World.hset_answered undisturbed performs
      exact sound_marking sound messages parsed todo
  | @run parsed outcome =>
      obtain ⟨rfl, -, -, ordinary⟩ :=
        World.outward_answered undisturbed performs (.inr (.inl ⟨_, rfl⟩))
      cases outcome with
      | ok results => exact sound
      | error exception =>
          simp only [afterCall, Exc.isException_of_isOrdinary (ordinary exception rfl), if_true]
          exact sound_each sound messages
  | spawn =>
      rw [World.runTask_of_performs performs rfl]
      exact sound
  | @process message stage rest _ _ later row =>
      have here := Stage.Sound.row undisturbed row performs sound
      refine Stage.within_cases (motive := BatchStage.Sound next.runTask) ?_ ?_ ?_
      · intro _
        exact here
      · rintro rfl
        exact sound_each here.rest rest
      · rintro exception rfl
        exact ⟨here.1, kind_of_read here.2⟩
  | clock =>
      rw [World.runTask_of_performs performs rfl]
      exact sound

theorem LoopStage.sound_caught {runTask : Option RunTask} (rest : RunAtRest runTask)
    (exception : Exc) : (LoopStage.caught exception).Sound runTask := by
  unfold caught
  split
  · exact rest
  · split <;> exact rest

theorem LoopStage.sound_handling {runTask : Option RunTask} (rest : RunAtRest runTask)
    (messages : List StreamMessage) : (LoopStage.handling messages).Sound runTask := by
  cases messages <;> exact rest

theorem LoopStage.sound_dispatching {runTask : Option RunTask} (rest : RunAtRest runTask)
    (messages : List StreamMessage) : (LoopStage.dispatching self messages).Sound runTask := by
  unfold dispatching
  split
  · exact rest
  · split
    · exact rest
    · exact sound_handling rest messages

theorem LoopStage.Sound.row (undisturbed : policy.Undisturbed) {stage later : LoopStage}
    (row : Move self stage op outcome later)
    (performs : World.Performs policy world op outcome fate next)
    (sound : stage.Sound world.runTask) : later.Sound next.runTask := by
  cases row with
  | @startUp stage _ _ later row =>
      have here := RecoveryStage.Sound.row undisturbed row performs sound
      refine RecoveryStage.within_cases (motive := LoopStage.Sound next.runTask) ?_ ?_ ?_
      · intro _
        exact here
      · rintro rfl
        exact here.rest
      · rintro exception rfl
        exact here.rest
  | @recheck now stage _ _ later row =>
      have here := RecoveryStage.Sound.row undisturbed row performs sound
      refine RecoveryStage.within_cases (motive := LoopStage.Sound next.runTask) ?_ ?_ ?_
      · intro _
        exact here
      · rintro rfl
        exact here.rest
      · rintro exception rfl
        exact sound_caught here.rest exception
  | @each message stage rest _ _ later row =>
      have here := Stage.Sound.row undisturbed row performs sound
      refine Stage.within_cases (motive := LoopStage.Sound next.runTask) ?_ ?_ ?_
      · intro _
        exact here
      · rintro rfl
        exact sound_handling here.rest rest
      · rintro exception rfl
        exact sound_caught here.rest exception
  | @batch messages stage _ _ later row =>
      have here := BatchStage.Sound.row undisturbed row performs sound
      refine BatchStage.within_cases (motive := LoopStage.Sound next.runTask) ?_ ?_ ?_
      · intro _
        exact here
      · rintro delivery rfl
        cases delivery <;> exact here.rest
      · rintro exception rfl
        exact sound_caught here.rest exception
  | @setup outcome =>
      rw [World.runTask_of_performs performs rfl]
      unfold grouped
      split
      · exact sound
      · split <;> exact sound
  | @top attrs =>
      rw [World.runTask_of_performs performs rfl]
      split <;> exact sound
  | hang => exact (World.feasible_of_performs performs rfl).elim fun never => by cases never
  | @read outcome | @await _ _ outcome =>
      rw [World.runTask_of_performs performs rfl]
      cases outcome with
      | ok value => exact sound
      | error exception => exact sound_caught sound exception
  | @peek messages attrs =>
      rw [World.runTask_of_performs performs rfl]
      split
      · exact sound
      · exact sound_dispatching sound messages
  | @forget messages =>
      rw [World.runTask_of_performs performs rfl]
      exact sound_dispatching sound messages
  | due =>
      rw [World.runTask_of_performs performs rfl]
      split <;> exact sound
  | @reread attrs =>
      rw [World.runTask_of_performs performs rfl]
      unfold waiting
      split <;> exact sound
  | @backOff _ outcome | @pause outcome =>
      rw [World.runTask_of_performs performs rfl]
      cases outcome <;> exact sound
  | _ =>
      rw [World.runTask_of_performs performs rfl]
      exact sound

/-- The background tasks leave the executor task alone. -/
theorem Post.Move.touchesRun {post later : Post} (row : Post.Move self post op outcome later) :
    op.touchesRun = false := by
  cases row with
  | gather row => cases row <;> rfl
  | single row => cases row <;> rfl

namespace Crew

/-- What every step of a crew keeps if the environment and the rows of its main coroutine do. -/
theorem sound_step {L : Type} {move : L → (op : Op) → Except Exc op.Reply → L → Prop}
    {Sound : Option RunTask → L → Prop}
    (occur : ∀ {stage world event next}, World.occur world event = some next →
      Sound world.runTask stage → Sound next.runTask stage)
    (row : ∀ {stage op outcome later world fate next}, move stage op outcome later →
      World.Performs policy world op outcome fate next → Sound world.runTask stage →
        Sound next.runTask later)
    {first second : Crew L} (step : Step self policy move first second)
    (sound : Sound first.world.runTask first.main) : Sound second.world.runTask second.main := by
  cases step with
  | env _ occurs =>
      change Sound (World.record _ _).runTask _
      rw [World.record_runTask]
      exact occur occurs sound
  | main moved performs =>
      change Sound (World.recordCall _ _ _ _ _).runTask _
      rw [World.recordCall_runTask]
      exact row moved performs sound
  | post moved performs =>
      change Sound (World.recordCall _ _ _ _ _).runTask _
      rw [World.recordCall_runTask, World.runTask_of_performs performs moved.touchesRun]
      exact sound

end Crew

end CodaNode
