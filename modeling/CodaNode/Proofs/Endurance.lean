/-
Module: CodaNode.Proofs.Endurance
Layer: Proofs
Purpose: What the main loop survives. Lost connections in the read and in the idle recheck are waited
  out and show in the health flag. One in the start-up ends the loop, as does the 1025th in a row.
Imports: CodaNode.Proofs.Backoff, CodaNode.Protocol.Staff
Main exports: Watch, watch, Endures, endures_of_not_fatal
-/
import CodaNode.Proofs.Backoff
import CodaNode.Protocol.Staff
import Mathlib.Data.List.Induction

namespace CodaNode

open Coroutine

/-- The commands that fetch messages may lose the connection. -/
def Policy.flaky : Policy where
  fault op exception := op.fetches = true ∧ exception.isConnection = true
  env _ := True

theorem Policy.flaky_undisturbed : Policy.flaky.Undisturbed where
  fetches admitted := admitted.1
  ordinary admitted := Exc.isException_of_isConnection admitted.2

/-- What the log says about the connection: whether the first read has been issued, how many connections
were lost since the last successful read, whether the loop was asked to stop, and whether something has
happened that it does not survive. -/
structure Watch where
  reading : Bool := false
  failures : Nat := 0
  stopped : Bool := false
  fatal : Bool := false

/-- The connection was lost: fatal before the first read, and for the 1025th time in a row unless the
loop was to stop anyway. -/
def Watch.lost (seen : Watch) : Watch :=
  { seen with
    failures := seen.failures + 1
    fatal := seen.fatal || !seen.reading || (decide (1024 ≤ seen.failures) && !seen.stopped) }

/-- A message that cannot be decoded was taken up: fatal before the first read. -/
def Watch.undecodable (seen : Watch) : Watch :=
  { seen with fatal := seen.fatal || !seen.reading && !seen.stopped }

/-- One record of the log. -/
def Watch.record (seen : Watch) : Entry → Watch
  | .env .stopCalled => { seen with stopped := true }
  | .call .loop (.xreadgroup _ _) (.ok _) _ => { seen with reading := true, failures := 0 }
  | .call .loop (.xreadgroup _ _) (.error exception) _ =>
      if exception.isConnection then { seen with reading := true }.lost else { seen with reading := true }
  | .call .loop .xgroupCreate (.error exception) _
  | .call .loop (.xpendingRange _ _) (.error exception) _
  | .call .loop (.xrange _) (.error exception) _ =>
      if exception.isConnection then seen.lost else seen
  | .call .loop (.note (.processMessage message)) _ _ =>
      if message.read.isOk then seen else seen.undecodable
  | _ => seen

/-- The log as the watch has seen it. -/
def watch (log : List Entry) : Watch := log.foldl Watch.record {}

/-- The loop has not ended unless it was asked to stop, and while the connection is lost it is not
reported as healthy. -/
structure Endures (system : System) : Prop where
  runs : ∀ body, (Role.loop, body) ∈ system.tasks →
    (∃ op resume, body = .call op resume) ∨ .env .stopCalled ∈ system.state.log
  reports : (watch system.state.log).failures ≠ 0 → system.state.attrs.redisHealthy = false

namespace Endurance

theorem watch_snoc (log : List Entry) (entry : Entry) :
    watch (log ++ [entry]) = (watch log).record entry := by
  unfold watch
  rw [List.foldl_append]
  rfl

theorem fatal_of_record {seen : Watch} {entry : Entry} (free : (seen.record entry).fatal = false) :
    seen.fatal = false := by
  have lost {seen : Watch} (free : seen.lost.fatal = false) : seen.fatal = false := by
    simp only [Watch.lost, Bool.or_eq_false_iff] at free
    exact free.1.1
  unfold Watch.record at free
  split at free
  · exact free
  · exact free
  · split at free
    · have before := lost free
      exact before
    · exact free
  · split at free
    · exact lost free
    · exact free
  · split at free
    · exact lost free
    · exact free
  · split at free
    · exact lost free
    · exact free
  · split at free
    · exact free
    · simp only [Watch.undecodable, Bool.or_eq_false_iff] at free
      exact free.1
  · exact free

/-- A loop that goes on has lost at most 1024 connections in a row. -/
def Bounded (seen : Watch) : Prop :=
  seen.fatal = false → seen.stopped = false → seen.failures ≤ 1024

theorem bounded_record {seen : Watch} (entry : Entry) (bounded : Bounded seen) :
    Bounded (seen.record entry) := by
  have lost {seen : Watch} : Bounded seen.lost := by
    intro free running
    simp only [Watch.lost, Bool.or_eq_false_iff, Bool.and_eq_false_iff, decide_eq_false_iff_not] at free
    change seen.stopped = false at running
    simp only [running, Bool.not_false, Bool.true_eq_false, or_false] at free
    exact Nat.lt_of_not_le free.2
  intro free running
  have before := fatal_of_record free
  revert free running
  change Bounded (seen.record entry)
  unfold Watch.record
  split
  · intro _ running
    cases running
  · exact fun _ _ => Nat.zero_le _
  · split
    · exact lost
    · exact bounded
  · split
    · exact lost
    · exact bounded
  · split
    · exact lost
    · exact bounded
  · split
    · exact lost
    · exact bounded
  · split
    · exact bounded
    · exact fun _ running => bounded before running
  · exact bounded

theorem bounded_watch (log : List Entry) : Bounded (watch log) := by
  induction log using List.reverseRecOn with
  | nil => exact fun _ _ => Nat.zero_le _
  | append_singleton log entry inductionHypothesis =>
      rw [watch_snoc]
      exact bounded_record entry inductionHypothesis

/-- A stop that the watch has seen is in the log. -/
theorem mem_of_stopped {log : List Entry} (stopped : (watch log).stopped = true) :
    .env .stopCalled ∈ log := by
  induction log using List.reverseRecOn with
  | nil => cases stopped
  | append_singleton log entry inductionHypothesis =>
      by_cases stops : entry = .env .stopCalled
      · rw [stops]
        exact List.mem_append_right _ (List.mem_singleton_self _)
      · apply List.mem_append_left
        apply inductionHypothesis
        rw [watch_snoc] at stopped
        unfold Watch.record at stopped
        split at stopped
        · exact absurd rfl stops
        · exact stopped
        · split at stopped <;> exact stopped
        · split at stopped <;> exact stopped
        · split at stopped <;> exact stopped
        · split at stopped <;> exact stopped
        · split at stopped <;> exact stopped
        · exact stopped

/-- What the watch says about the attributes of the loop, stage by stage. -/
def Steady (attrs : Attrs) (seen : Watch) : LoopStage → Prop
  | .enter | .setup => seen.reading = false ∧ seen.failures = 0
  | .reset => seen.failures = 0
  | .clock | .stamp _ => attrs.consecutiveFailures = 0 ∧ seen.failures = 0
  | .startUp stage => seen.reading = false ∧ seen.failures = 0 ∧ Legible stage
  | .top | .read | .warn _ _ | .backOff _ | .pause =>
      attrs.consecutiveFailures = seen.failures ∧ (seen.failures ≠ 0 → attrs.redisHealthy = false)
  | .healthy _ | .calm _ => seen.reading = true ∧ seen.failures = 0
  | .down => seen.failures = attrs.consecutiveFailures + 1
  | .count => seen.failures = attrs.consecutiveFailures + 1 ∧ attrs.redisHealthy = false
  | .reread => attrs.consecutiveFailures = seen.failures ∧ attrs.redisHealthy = false
  | .ended _ => seen.stopped = true ∧ (seen.failures ≠ 0 → attrs.redisHealthy = false)
  | _ => seen.reading = true ∧ seen.failures = 0 ∧ attrs.consecutiveFailures = 0
where
  /-- The message in hand could be decoded. -/
  Legible : RecoveryStage → Prop
    | .process message stage _ => stage = .called ∨ ∃ found, message.read = .ok found
    | _ => True

/-- What every step of the crew preserves. -/
structure Holds (crew : Crew LoopStage) : Prop where
  staffed : crew.Staffed
  sound : crew.main.Sound crew.world.runTask
  running : crew.main = .enter ∨ crew.world.attrs.running = true ∨
    (watch crew.world.log).stopped = true
  steady : (watch crew.world.log).fatal = false →
    Steady crew.world.attrs (watch crew.world.log) crew.main

section Rows

attribute [local irreducible] backoffDelay

variable {self : Consumer} {world next : World} {op : Op} {outcome : Except Exc op.Reply} {fate : Fate}

theorem watch_logged (performs : World.Performs .flaky world op outcome fate next)
    (logged : op.logged = true) : watch (next.recordCall .loop op outcome fate).log =
      (watch world.log).record (.call .loop op outcome fate) := by
  rw [World.recordCall_log_of_performs .loop performs, if_pos logged, watch_snoc]

theorem watch_unlogged (performs : World.Performs .flaky world op outcome fate next)
    (unlogged : op.logged = false) :
    watch (next.recordCall .loop op outcome fate).log = watch world.log := by
  rw [World.recordCall_log_of_performs .loop performs, unlogged, if_neg Bool.false_ne_true]

/-- After the start-up the watch does not look at the methods the loop calls. -/
theorem record_inner {seen : Watch} (inner : op.ofBatch = true) (reading : seen.reading = true) :
    seen.record (.call .loop op outcome fate) = seen := by
  have legible {message : StreamMessage} : (if message.read.isOk then seen else seen.undecodable) = seen := by
    obtain ⟨_, failures, stopped, fatal⟩ := seen
    cases reading
    split
    · rfl
    · simp [Watch.undecodable]
  cases op with
  | xgroupCreate | xpendingRange | xrange | xreadgroup => cases inner
  | note call =>
      cases call with
      | processMessage message => exact legible
      | _ => rfl
  | _ => rfl

/-- Nor at those of a message that can be decoded. -/
theorem record_message {seen : Watch} {message : StreamMessage} {job : JobMessage} {stage later : Stage}
    (row : Stage.Move self message job stage op outcome later)
    (legible : ∃ found, message.read = .ok found) :
    seen.record (.call .loop op outcome fate) = seen := by
  obtain ⟨found, reading⟩ := legible
  cases row with
  | called => simp [Watch.record, reading, Except.isOk, Except.toBool]
  | _ => rfl

theorem watch_same (performs : World.Performs .flaky world op outcome fate next)
    (same : (watch world.log).record (.call .loop op outcome fate) = watch world.log) :
    watch (next.recordCall .loop op outcome fate).log = watch world.log := by
  cases logged : op.logged with
  | true => rw [watch_logged performs logged, same]
  | false => rw [watch_unlogged performs logged]

/-- What fails loses the connection. -/
theorem isConnection_of_performs {exception : Exc}
    (performs : World.Performs .flaky world op (.error exception) fate next)
    (answers : world.effect op (.error exception) = none) : exception.isConnection = true := by
  cases performs with
  | answered _ effect =>
      rw [answers] at effect
      cases effect
  | lost _ admitted => exact admitted.2
  | executed _ admitted => exact admitted.2

/-- A wait is not disturbed. -/
theorem sleep_performs {seconds : Nat} {outcome : Except Exc Unit}
    (performs : World.Performs .flaky world (.sleep seconds) outcome fate next) : outcome = .ok () := by
  obtain ⟨-, -, effect⟩ := World.answered_of_performs Policy.flaky_undisturbed performs rfl
  cases outcome with
  | ok value => rfl
  | error exception => cases effect

theorem caught_eq_pause {exception : Exc} (caught : exception.isException = true)
    (other : exception.isConnection = false) : LoopStage.caught exception = .pause := by
  simp [LoopStage.caught, caught, other]

theorem caught_eq_down {exception : Exc} (connection : exception.isConnection = true) :
    LoopStage.caught exception = .down := by
  simp [LoopStage.caught, connection]

/-- An undecodable message is skipped. -/
theorem caught_of_kind {exception : Exc}
    (kind : exception.kind = .unicodeDecodeError ∨ exception.kind = .valueError) :
    LoopStage.caught exception = .pause := by
  rcases kind with kind | kind
  all_goals exact caught_eq_pause (by simp [Exc.isException, kind]) (by simp [Exc.isConnection, kind])

theorem steady_handling {attrs : Attrs} {seen : Watch} (messages : List StreamMessage)
    (calm : seen.reading = true ∧ seen.failures = 0 ∧ attrs.consecutiveFailures = 0) :
    Steady attrs seen (.handling messages) := by
  cases messages with
  | nil => exact ⟨by rw [calm.2.1, calm.2.2], fun lost => absurd calm.2.1 lost⟩
  | cons message rest => exact calm

theorem steady_dispatching {attrs : Attrs} {seen : Watch} (messages : List StreamMessage)
    (calm : seen.reading = true ∧ seen.failures = 0 ∧ attrs.consecutiveFailures = 0) :
    Steady attrs seen (.dispatching self messages) := by
  unfold LoopStage.dispatching
  split
  · exact calm
  · split
    · exact calm
    · exact steady_handling messages calm

/-- Where nothing is counted the loop may go on to the next round. -/
theorem level_of_calm {attrs : Attrs} {seen : Watch}
    (calm : seen.reading = true ∧ seen.failures = 0 ∧ attrs.consecutiveFailures = 0) :
    attrs.consecutiveFailures = seen.failures ∧ (seen.failures ≠ 0 → attrs.redisHealthy = false) :=
  ⟨by rw [calm.2.1, calm.2.2], fun lost => absurd calm.2.1 lost⟩

/-- A row of the start-up recovery. -/
theorem startUp_row {stage later : RecoveryStage} (row : RecoveryStage.Move self stage op outcome later)
    (performs : World.Performs .flaky world op outcome fate next)
    (sound : stage.Sound world.runTask)
    (free : (watch (next.recordCall .loop op outcome fate).log).fatal = false)
    (steady : Steady world.attrs (watch world.log) (.startUp stage)) :
    Steady next.attrs (watch (next.recordCall .loop op outcome fate).log)
      (RecoveryStage.within .startUp .reset (fun exception => .ended (.error exception)) later) := by
  obtain ⟨start, zero, legible⟩ := steady
  have fetched {todo : List String} {seen : Watch} (same : seen.reading = false ∧ seen.failures = 0) :
      Steady next.attrs seen (RecoveryStage.within .startUp .reset
        (fun exception => .ended (.error exception)) (.next todo)) := by
    cases todo with
    | nil => exact same.2
    | cons messageId rest => exact ⟨same.1, same.2, trivial⟩
  -- a connection lost here is fatal
  have lost {seen : Watch} (reading : seen.reading = false) (free : seen.lost.fatal = false) : False := by
    simp [Watch.lost, reading] at free
  cases row with
  | @query outcome =>
      rw [watch_logged performs rfl] at free ⊢
      cases outcome with
      | ok pending => exact fetched ⟨start, zero⟩
      | error exception =>
          simp only [Watch.record, isConnection_of_performs performs rfl, if_true] at free
          exact (lost start free).elim
  | @fetch messageId rest outcome =>
      rw [watch_logged performs rfl] at free ⊢
      cases outcome with
      | ok messages =>
          cases messages with
          | nil => exact fetched ⟨start, zero⟩
          | cons message others => exact ⟨start, zero, .inl rfl⟩
      | error exception =>
          simp only [Watch.record, isConnection_of_performs performs rfl, if_true] at free
          exact (lost start free).elim
  | @process message stage rest _ _ later row =>
      have here := Stage.Sound.row Policy.flaky_undisturbed row performs sound
      rcases legible with rfl | legible
      · cases row with
        | called =>
            obtain ⟨value, rfl⟩ := World.feasible_of_performs performs rfl
            rw [watch_logged performs rfl] at free ⊢
            simp only [Watch.record] at free ⊢
            cases reading : message.read with
            | error exception =>
                simp only [reading, Except.isOk, Except.toBool, Bool.false_eq_true, if_false,
                  Watch.undecodable, start, Bool.not_false, Bool.true_and, Bool.or_eq_false_iff,
                  Bool.not_eq_false'] at free ⊢
                simp only [afterCall, Stage.opening, reading]
                exact ⟨free.2, fun lost => absurd zero lost⟩
            | ok found =>
                simp only [Except.isOk, Except.toBool, if_true, afterCall, Stage.opening, reading]
                cases found <;> exact ⟨start, zero, .inr ⟨_, reading⟩⟩
        | clock =>
            rw [watch_unlogged performs rfl]
            exact ⟨start, zero, .inl rfl⟩
        | assign =>
            rw [watch_unlogged performs rfl]
            exact ⟨start, zero, .inl rfl⟩
      · rw [watch_same performs (record_message row legible)]
        refine Stage.within_cases (motive := fun stage => Steady next.attrs (watch world.log)
          (RecoveryStage.within .startUp .reset (fun exception => .ended (.error exception)) stage))
          ?_ ?_ ?_
        · exact fun _ => ⟨start, zero, .inr legible⟩
        · exact fun _ => fetched ⟨start, zero⟩
        · rintro exception rfl
          obtain ⟨found, reading⟩ := legible
          rw [here.2] at reading
          cases reading

/-- A row of a recovery in the loop. -/
theorem recheck_row {now : Rat} {stage later : RecoveryStage}
    (row : RecoveryStage.Move self stage op outcome later)
    (performs : World.Performs .flaky world op outcome fate next)
    (sound : stage.Sound world.runTask)
    (steady : Steady world.attrs (watch world.log) (.recheck now stage)) :
    Steady next.attrs (watch (next.recordCall .loop op outcome fate).log)
      (RecoveryStage.within (.recheck now) (.checked now) LoopStage.caught later) := by
  obtain ⟨reading, zero, uncounted⟩ := steady
  have kept : next.attrs.consecutiveFailures = 0 := by
    obtain ⟨idle, current, last, attrs⟩ := World.quiet_of_inner row.inner performs
    rw [attrs]
    exact uncounted
  have fetched {todo : List String} {seen : Watch} (same : seen.reading = true ∧ seen.failures = 0) :
      Steady next.attrs seen
        (RecoveryStage.within (.recheck now) (.checked now) LoopStage.caught (.next todo)) := by
    cases todo <;> exact ⟨same.1, same.2, kept⟩
  have lost {exception : Exc} (connection : exception.isConnection = true) :
      Steady next.attrs (watch world.log).lost (LoopStage.caught exception) := by
    rw [caught_eq_down connection]
    exact congrArg (· + 1) (zero.trans kept.symm)
  cases row with
  | @query outcome =>
      rw [watch_logged performs rfl]
      cases outcome with
      | ok pending => exact fetched ⟨reading, zero⟩
      | error exception =>
          have connection := isConnection_of_performs performs rfl
          simp only [Watch.record, connection, if_true]
          exact lost connection
  | @fetch messageId rest outcome =>
      rw [watch_logged performs rfl]
      cases outcome with
      | ok messages =>
          cases messages with
          | nil => exact fetched ⟨reading, zero⟩
          | cons message others => exact ⟨reading, zero, kept⟩
      | error exception =>
          have connection := isConnection_of_performs performs rfl
          simp only [Watch.record, connection, if_true]
          exact lost connection
  | @process message stage rest _ _ later row =>
      have here := Stage.Sound.row Policy.flaky_undisturbed row performs sound
      rw [watch_same performs (record_inner (Op.ofBatch_of_ofMessage row.ofMessage) reading)]
      refine Stage.within_cases (motive := fun stage => Steady next.attrs (watch world.log)
        (RecoveryStage.within (.recheck now) (.checked now) LoopStage.caught stage)) ?_ ?_ ?_
      · exact fun _ => ⟨reading, zero, kept⟩
      · exact fun _ => fetched ⟨reading, zero⟩
      · rintro exception rfl
        change Steady _ _ (LoopStage.caught exception)
        rw [caught_of_kind (.inl (kind_of_read here.2))]
        exact level_of_calm ⟨reading, zero, kept⟩

/-- Every row of the loop keeps it. -/
theorem steady_row {stage later : LoopStage} (row : LoopStage.Move self stage op outcome later)
    (performs : World.Performs .flaky world op outcome fate next)
    (sound : stage.Sound world.runTask)
    (awaited : ∀ {number exception}, world.outcomeOf number = some (.error exception) →
      exception.kind = .valueError)
    (running : stage = .enter ∨ world.attrs.running = true ∨ (watch world.log).stopped = true)
    (free : (watch (next.recordCall .loop op outcome fate).log).fatal = false)
    (steady : Steady world.attrs (watch world.log) stage) :
    Steady next.attrs (watch (next.recordCall .loop op outcome fate).log) later := by
  cases row with
  | startUp row => exact startUp_row row performs sound free steady
  | recheck row => exact recheck_row row performs sound steady
  | @each message stage rest _ _ later row =>
      obtain ⟨reading, zero, uncounted⟩ := steady
      have here := Stage.Sound.row Policy.flaky_undisturbed row performs sound
      obtain ⟨idle, current, last, attrs⟩ := World.quiet_of_inner row.inner performs
      have calm : (watch world.log).reading = true ∧ (watch world.log).failures = 0 ∧
          next.attrs.consecutiveFailures = 0 := ⟨reading, zero, by rw [attrs]; exact uncounted⟩
      rw [watch_same performs (record_inner (Op.ofBatch_of_ofMessage row.ofMessage) reading)]
      refine Stage.within_cases (motive := Steady next.attrs (watch world.log)) ?_ ?_ ?_
      · exact fun _ => calm
      · exact fun _ => steady_handling rest calm
      · rintro exception rfl
        rw [caught_of_kind (.inl (kind_of_read here.2))]
        exact level_of_calm calm
  | @batch messages stage _ _ later row =>
      obtain ⟨reading, zero, uncounted⟩ := steady
      have here := BatchStage.Sound.row Policy.flaky_undisturbed row performs sound
      obtain ⟨idle, current, last, attrs⟩ := World.quiet_of_inner row.inner performs
      have calm : (watch world.log).reading = true ∧ (watch world.log).failures = 0 ∧
          next.attrs.consecutiveFailures = 0 := ⟨reading, zero, by rw [attrs]; exact uncounted⟩
      rw [watch_same performs (record_inner row.ofBatch reading)]
      refine BatchStage.within_cases (motive := Steady next.attrs (watch world.log)) ?_ ?_ ?_
      · exact fun _ => calm
      · rintro delivery rfl
        cases delivery with
        | none => exact level_of_calm calm
        | some number => exact calm
      · rintro exception rfl
        rw [caught_of_kind (.inl here.2)]
        exact level_of_calm calm
  | enter =>
      rw [watch_unlogged performs rfl]
      exact steady
  | @setup outcome =>
      obtain ⟨start, zero⟩ := steady
      rw [watch_logged performs rfl] at free ⊢
      cases outcome with
      | ok value => exact ⟨start, zero, trivial⟩
      | error exception =>
          cases performs with
          | answered _ effect =>
              simp only [World.effect] at effect
              split at effect
              · rename_i busy
                have other : exception.isConnection = false := by simp [Exc.isConnection, busy.2.1]
                simp only [Watch.record, other, LoopStage.grouped, if_pos busy.2]
                exact ⟨start, zero, trivial⟩
              · cases effect
          | lost _ admitted | executed _ admitted =>
              simp [Watch.record, admitted.2, Watch.lost, start] at free
  | reset =>
      rw [watch_unlogged performs rfl, World.modify_performs performs]
      exact ⟨rfl, steady⟩
  | clock =>
      rw [watch_unlogged performs rfl, World.attrs_of_performs performs (by simp)]
      exact steady
  | stamp =>
      rw [watch_unlogged performs rfl, World.modify_performs performs]
      exact ⟨steady.1.trans steady.2.symm, fun lost => absurd steady.2 lost⟩
  | healthy =>
      rw [watch_unlogged performs rfl]
      exact steady
  | calm =>
      rw [watch_unlogged performs rfl, World.modify_performs performs]
      exact ⟨steady.1, steady.2, rfl⟩
  | @top attrs =>
      obtain ⟨same, rfl⟩ := World.attrs_performs performs
      rw [watch_unlogged performs rfl]
      rw [Except.ok.inj same]
      split
      · exact steady
      · rename_i stopped
        refine ⟨?_, steady.2⟩
        rcases running with never | running | stop
        · cases never
        · exact absurd running stopped
        · exact stop
  | hang => exact (World.feasible_of_performs performs rfl).elim fun never => by cases never
  | @read outcome =>
      rw [watch_logged performs rfl]
      cases outcome with
      | ok messages => exact ⟨rfl, rfl⟩
      | error exception =>
          have connection := isConnection_of_performs performs rfl
          simp only [Watch.record, connection, if_true]
          rw [World.attrs_of_performs performs (by simp)]
          simp only [afterCall, caught_eq_down connection]
          exact congrArg (· + 1) steady.1.symm
  | @peek messages attrs =>
      obtain ⟨-, rfl⟩ := World.attrs_performs performs
      rw [watch_unlogged performs rfl]
      split
      · exact steady
      · exact steady_dispatching messages steady
  | @await number messages outcome =>
      rw [watch_logged performs rfl]
      obtain ⟨rfl, -, found⟩ := World.awaitTask_answered Policy.flaky_undisturbed performs
      cases outcome with
      | ok value => exact steady
      | error exception =>
          simp only [afterCall, caught_of_kind (.inr (awaited found))]
          exact level_of_calm steady
  | forget =>
      rw [watch_unlogged performs rfl, World.modify_performs performs]
      exact steady_dispatching _ steady
  | idle =>
      rw [watch_unlogged performs rfl, World.attrs_of_performs performs (by simp)]
      exact steady
  | due =>
      obtain ⟨-, rfl⟩ := World.attrs_performs performs
      rw [watch_unlogged performs rfl]
      split
      · exact steady
      · exact level_of_calm steady
  | checked | store =>
      rw [watch_unlogged performs rfl, World.modify_performs performs]
      exact level_of_calm steady
  | down =>
      rw [watch_unlogged performs rfl, World.modify_performs performs]
      exact ⟨steady, rfl⟩
  | count =>
      rw [watch_unlogged performs rfl, World.modify_performs performs]
      exact ⟨steady.1.symm, steady.2⟩
  | @reread attrs =>
      obtain ⟨same, rfl⟩ := World.attrs_performs performs
      rw [watch_unlogged performs rfl] at free ⊢
      rw [Except.ok.inj same]
      obtain ⟨counted, unhealthy⟩ := steady
      unfold LoopStage.waiting
      split
      · exact ⟨counted, fun _ => unhealthy⟩
      · rename_i exception failed
        refine ⟨?_, fun _ => unhealthy⟩
        by_contra asked
        have going := Bool.eq_false_iff.mpr asked
        have bounded := bounded_watch _ free going
        rw [counted, backoffDelay_eq bounded] at failed
        cases failed
  | warn =>
      rw [watch_logged performs rfl, World.attrs_of_performs performs (by simp)]
      exact steady
  | @backOff delay outcome | @pause outcome =>
      obtain rfl := sleep_performs performs
      rw [watch_logged performs rfl, World.attrs_of_performs performs (by simp)]
      exact steady

theorem running_row {stage later : LoopStage} (row : LoopStage.Move self stage op outcome later)
    (performs : World.Performs .flaky world op outcome fate next)
    (running : stage = .enter ∨ world.attrs.running = true) : next.attrs.running = true := by
  have inner (inner : op.Inner) (other : stage ≠ .enter) : next.attrs.running = true := by
    obtain ⟨idle, current, last, attrs⟩ := World.quiet_of_inner inner performs
    rw [attrs]
    exact running.resolve_left other
  cases row with
  | startUp row | recheck row => exact inner row.inner (by simp)
  | each row => exact inner row.inner (by simp)
  | batch row => exact inner row.inner (by simp)
  | enter =>
      rw [World.modify_performs performs]
  | reset | stamp | healthy | calm | forget | checked | store | down | count =>
      rw [World.modify_performs performs]
      exact running.resolve_left (by simp)
  | _ =>
      rw [World.attrs_of_performs performs (by simp)]
      exact running.resolve_left (by simp)

end Rows

theorem stopped_of_record {seen : Watch} (entry : Entry) (stopped : seen.stopped = true) :
    (seen.record entry).stopped = true := by
  unfold Watch.record
  split
  · rfl
  · exact stopped
  · split <;> exact stopped
  · split <;> exact stopped
  · split <;> exact stopped
  · split <;> exact stopped
  · split <;> exact stopped
  · exact stopped

theorem record_task {seen : Watch} {number : Nat} {spec : TaskSpec} {op : Op}
    {outcome : Except Exc op.Reply} {fate : Fate} :
    seen.record (.call (.task number spec) op outcome fate) = seen := by
  cases op <;> rfl

/-- A stop does not touch the rest. -/
theorem Steady.stop {attrs : Attrs} {seen : Watch} {stage : LoopStage} (steady : Steady attrs seen stage) :
    Steady { attrs with running := false } { seen with stopped := true } stage := by
  cases stage with
  | ended outcome => exact ⟨rfl, steady.2⟩
  | _ => exact steady

theorem holds_step {self : Consumer} {first second : Crew LoopStage}
    (step : Crew.Step self .flaky (LoopStage.Move self) first second) (holds : Holds first) :
    Holds second := by
  have staffed := holds.staffed.step Policy.flaky_undisturbed LoopStage.Move.not_taskDone step
  have sound : LoopStage.Sound second.world.runTask second.main :=
    Crew.sound_step LoopStage.Sound.occur (LoopStage.Sound.row Policy.flaky_undisturbed) step holds.sound
  cases step with
  | @env world next stage posts event _ occurs =>
      have seen : watch (next.record (.env event)).log = (watch world.log).record (.env event) := by
        rw [World.record_log, World.log_of_occur occurs, watch_snoc]
      refine ⟨staffed, sound, ?_, fun free => ?_⟩
      · rcases holds.running with start | running | stopped
        · exact .inl start
        · refine .inr ?_
          rw [seen, World.record_attrs, World.attrs_of_occur occurs]
          by_cases stop : event = .stopCalled
          · subst stop
            exact .inr rfl
          · rw [if_neg stop]
            exact .inl running
        · refine .inr (.inr ?_)
          rw [seen]
          exact stopped_of_record _ stopped
      · rw [seen] at free ⊢
        rw [World.record_attrs, World.attrs_of_occur occurs]
        have steady := holds.steady (fatal_of_record free)
        by_cases stop : event = .stopCalled
        · subst stop
          exact steady.stop
        · rw [if_neg stop]
          have same : (watch world.log).record (.env event) = watch world.log := by
            cases event with
            | stopCalled => exact absurd rfl stop
            | _ => rfl
          rw [same]
          exact steady
  | @main world next stage later posts op outcome fate row performs =>
      have log : watch (next.recordCall .loop op outcome fate).log = watch world.log ∨
          watch (next.recordCall .loop op outcome fate).log =
            (watch world.log).record (.call .loop op outcome fate) := by
        cases logged : op.logged with
        | true => exact .inr (watch_logged performs logged)
        | false => exact .inl (watch_unlogged performs logged)
      refine ⟨staffed, sound, ?_, fun free => ?_⟩
      · refine .inr ?_
        rw [World.recordCall_attrs]
        rcases holds.running with start | running | stopped
        · exact .inl (running_row row performs (.inl start))
        · exact .inl (running_row row performs (.inr running))
        · refine .inr ?_
          rcases log with log | log
          · exact log ▸ stopped
          · exact log ▸ stopped_of_record _ stopped
      · have before : (watch world.log).fatal = false := by
          rcases log with log | log
          · exact log ▸ free
          · exact fatal_of_record (log ▸ free)
        rw [World.recordCall_attrs]
        exact steady_row row performs holds.sound (fun failed => (holds.staffed.failure failed).2)
          holds.running free (holds.steady before)
  | @post world next stage before after post later op outcome fate row performs =>
      have seen : watch (next.recordCall post.role op outcome fate).log = watch world.log := by
        rw [World.recordCall_log_of_performs post.role performs]
        split
        · rw [watch_snoc]
          exact record_task
        · rfl
      obtain ⟨idle, current, last, attrs⟩ := World.quiet_of_inner row.inner performs
      refine ⟨staffed, sound, ?_, fun free => ?_⟩
      · rw [seen, World.recordCall_attrs, attrs]
        exact holds.running
      · rw [seen] at free ⊢
        have steady := holds.steady free
        rw [World.recordCall_attrs, attrs]
        cases stage <;> exact steady

/-- While the loop waits, a lost connection shows in the health flag. -/
theorem reports_of_steady {attrs : Attrs} {seen : Watch} {stage : LoopStage}
    (steady : Steady attrs seen stage) (other : stage ≠ .down) (lost : seen.failures ≠ 0) :
    attrs.redisHealthy = false := by
  cases stage with
  | down => exact absurd rfl other
  | reset => exact absurd steady lost
  | enter | setup | clock | stamp | healthy | calm => exact absurd steady.2 lost
  | count | reread => exact steady.2
  | top | read | warn | backOff | pause | ended => exact steady.2 lost
  | _ => exact absurd steady.2.1 lost

end Endurance

open Endurance in
/-- In every run in which nothing fatal has happened so far, the loop goes on until it is stopped, and
its health flag shows every lost connection until the next successful read. -/
theorem endures_of_not_fatal (self : Consumer) (iterations : Nat) (redis : Redis) {system : System}
    (reaches : Pool.Reaches (machine self .flaky)
      (Pool.single { redis := redis } .loop (consumeLoop self iterations)) system)
    (suspended : ∀ task ∈ system.tasks, (machine self .flaky).suspended task.2 = true)
    (free : (watch system.state.log).fatal = false) : Endures system := by
  have start : Holds ⟨{ redis := redis }, .enter, []⟩ := by
    constructor
    · exact ⟨⟨rfl, rfl⟩, fun _ member => by cases member⟩
    · exact fun _ same => by cases same
    · exact .inl rfl
    · exact fun _ => ⟨rfl, rfl⟩
  obtain ⟨crew, stands, holds⟩ := (consumeLoop_follows iterations).reaches holds_step start reaches
  obtain ⟨body, others, tasks, elsewhere, follows⟩ := stands.main
  have steady := holds.steady (by rw [stands.1]; exact free)
  rw [stands.1] at steady
  constructor
  · intro task member
    rw [tasks] at member
    rcases List.mem_cons.mp member with here | away
    · obtain ⟨-, rfl⟩ := Prod.mk.inj here
      have ended {outcome : Except Exc Unit} (stage : crew.main = .ended outcome) :
          .env .stopCalled ∈ system.state.log := by
        rw [stage] at steady
        exact mem_of_stopped steady.1
      cases task with
      | call op resume => exact .inl ⟨op, resume, rfl⟩
      | ret value => exact .inr (ended follows)
      | raise exception => exact .inr (ended follows)
    · exact absurd rfl (elsewhere _ away)
  · refine reports_of_steady steady ?_
    intro stage
    obtain ⟨op, resume, rfl, ⟨outcome, later, row⟩, -⟩ := Crew.Stands.issued follows (by
      rw [stage]
      exact fun _ same => by cases same)
    have waits : (machine self .flaky).suspended (Coro.call op resume) = true := by
      apply suspended (.loop, .call op resume)
      rw [tasks]
      exact List.mem_cons_self
    rw [stage] at row
    cases row
    cases waits

/-! ### Two runs -/

namespace Endurance

/-- The second read loses the connection. -/
def waveringSurroundings : Surroundings :=
  (Surroundings.plain Sample.result).failing fun world op =>
    match op with
    | .xreadgroup _ _ =>
        if (watch world.log).reading ∧ (watch world.log).failures = 0 then
          some ⟨.connectionError, "Connection lost"⟩
        else none
    | _ => none

theorem waveringSurroundings_within : waveringSurroundings.Within .flaky := by
  apply Surroundings.failing_within (Surroundings.plain_within fun _ _ _ _ => trivial)
  intro world op exception picked
  cases op with
  | xreadgroup =>
      simp only at picked
      split at picked
      · cases picked
        exact ⟨rfl, rfl⟩
      · cases picked
  | _ => cases picked

/-- A run that waits after a lost connection. -/
def waveringRun : System :=
  System.play Sample.consumer .flaky waveringSurroundings (List.replicate 19 (.task 0))
    (Pool.single {} .loop (consumeLoop Sample.consumer 2))

theorem waveringRun_reaches :
    Pool.Reaches (machine Sample.consumer .flaky)
      (Pool.single {} .loop (consumeLoop Sample.consumer 2)) waveringRun :=
  System.play_reaches waveringSurroundings_within _ _ fun _ _ => trivial

/-- The creation of the group loses the connection. -/
def stillbornSurroundings : Surroundings :=
  (Surroundings.plain Sample.result).failing fun _ op =>
    match op with
    | .xgroupCreate => some ⟨.connectionError, "Connection lost"⟩
    | _ => none

theorem stillbornSurroundings_within : stillbornSurroundings.Within .flaky := by
  apply Surroundings.failing_within (Surroundings.plain_within fun _ _ _ _ => trivial)
  intro world op exception picked
  cases op with
  | xgroupCreate =>
      cases picked
      exact ⟨rfl, rfl⟩
  | _ => cases picked

/-- A run that ends in the start-up. -/
def stillbornRun : System :=
  System.play Sample.consumer .flaky stillbornSurroundings [.task 0, .task 0]
    (Pool.single {} .loop (consumeLoop Sample.consumer 0))

theorem stillbornRun_reaches :
    Pool.Reaches (machine Sample.consumer .flaky)
      (Pool.single {} .loop (consumeLoop Sample.consumer 0)) stillbornRun :=
  System.play_reaches stillbornSurroundings_within _ _ fun _ _ => trivial

end Endurance

open Endurance in
/-- The result, for a run that waits. -/
theorem endures_waveringRun : Endures waveringRun :=
  endures_of_not_fatal Sample.consumer 2 {} waveringRun_reaches (by decide +kernel) (by decide +kernel)

open Endurance in
/-- A connection lost in the start-up ends the loop. -/
theorem not_endures :
    ¬ ∀ (self : Consumer) (iterations : Nat) (redis : Redis) (system : System),
      Pool.Reaches (machine self .flaky)
        (Pool.single { redis := redis } .loop (consumeLoop self iterations)) system →
      (∀ task ∈ system.tasks, (machine self .flaky).suspended task.2 = true) → Endures system := by
  intro claim
  have endures := claim Sample.consumer 0 {} stillbornRun stillbornRun_reaches (by decide +kernel)
  have tasks : stillbornRun.tasks = [(.loop, .raise ⟨.connectionError, "Connection lost"⟩)] := rfl
  have log : stillbornRun.state.log =
      [.call .loop .xgroupCreate (.error ⟨.connectionError, "Connection lost"⟩) .lost] := rfl
  rcases endures.runs _ (by rw [tasks]; exact List.mem_singleton_self _) with ⟨op, resume, same⟩ | stopped
  · cases same
  · rw [log] at stopped
    cases List.mem_singleton.mp stopped

end CodaNode
