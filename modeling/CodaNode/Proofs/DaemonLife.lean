/-
Module: CodaNode.Proofs.DaemonLife
Layer: Proofs
Purpose: The recorded daemon over any calls of `start_daemon` and `stop_daemon`. As long as the callers may
  signal it, the PID file names it while it lives and no second one is spawned. What `stop_daemon` returns
  is right exactly when the daemon does not exit in front of a signal that is meant for it.
Imports: CodaNode.Posix.History, CodaNode.Posix.Rehearsal
Main exports: Punctual, StopsDaemon, StartsDaemon, stopProcess_verdict, startDaemon_calm,
  daemon_kept
-/
import CodaNode.Posix.History
import CodaNode.Posix.Rehearsal

namespace CodaNode.Posix

open Coroutine Coro

/-! ### Definitions -/

/-- What has been recorded since the world `base`. -/
def since (base world : World) : List Event := world.log.drop base.log.length

/-- When the process was alive at the beginning, it was alive when it was sent `SIGTERM`, and it was not sent
`SIGKILL` behind its exit. -/
def Punctual (pid : Int) (base after : World) : Prop :=
  pid ∈ base.live →
    .signalled pid .term true ∈ since base after ∧ .signalled pid .kill false ∉ since base after

/-- Along every run of `stop_daemon` the PID file names the recorded process while it lives, and the result
says whether the call has ended it. -/
def StopsDaemon (host : Host) (caller : Caller) (base : World) : Prop :=
  ∀ timeout after rest, Leads (hostMachine host) caller base (stopDaemon timeout) after rest →
    (∀ pid, base.recorded host daemonPidPath = some pid → pid ∈ after.live →
      after.recorded host daemonPidPath = some pid) ∧
    ∀ stopped, rest = .ret stopped →
      ((stopped = true ↔
          ∃ pid, base.recorded host daemonPidPath = some pid ∧ pid ∈ base.live ∧ pid ∉ after.live) ↔
        ∀ pid, base.recorded host daemonPidPath = some pid → Punctual pid base after)

/-- Along every run of `start_daemon` the PID file names the recorded process while it lives, and nothing is
spawned beside it. -/
def StartsDaemon (host : Host) (caller : Caller) (base : World) : Prop :=
  ∀ launch after rest, Leads (hostMachine host) caller base (startDaemon launch) after rest →
    ∀ pid, base.recorded host daemonPidPath = some pid → pid ∈ after.live →
      after.recorded host daemonPidPath = some pid ∧ ∀ second, .spawned second ∉ since base after

variable {host : Host} {caller : Caller}

/-! ### What is recorded since a world -/

/-- The log has grown. -/
def Grown (base world : World) : Prop := base.log <+: world.log

theorem since_snoc {base world after : World} {event : Event} (grown : Grown base world)
    (same : after.log = world.log ++ [event]) :
    Grown base after ∧ since base after = since base world ++ [event] := by
  constructor
  · rw [Grown, same]
    exact List.IsPrefix.trans grown (List.prefix_append _ _)
  · rw [since, same, List.drop_append_of_le_length grown.length_le]
    rfl

/-! ### What `os.kill` says about the recorded process -/

/-- The outcomes for a process that the caller may signal. -/
theorem Kills.outcomes {world after : World} {pid : Int} {signal : Signal} {outcome : Except Failure Unit}
    (positive : 0 < pid) (fits : Fits pid) (signalable : pid ∈ world.live → caller.MaySignal world pid)
    (kills : Kills caller world pid signal outcome after) :
    (outcome = .ok () ∧ (signal = .probe ∨ pid ∈ world.live) ∧ (signal = .kill → pid ∈ after.doomed)) ∨
      (outcome = .error .processLookupError ∧ pid ∉ world.live) ∨
      (outcome = .error .terminated ∧ signal ≠ .probe) := by
  cases kills with
  | large large => exact absurd fits large
  | ownProbe _ own probe =>
      refine .inl ⟨rfl, .inl probe, ?_⟩
      intro deadly
      rw [probe] at deadly
      cases deadly
  | own _ own deadly => exact .inr (.inr ⟨rfl, deadly⟩)
  | accepted _ other process alive permitted mild => exact .inl ⟨rfl, .inr alive, fun deadly => absurd deadly mild⟩
  | doomed _ other process alive permitted deadly => exact .inl ⟨rfl, .inr alive, fun _ => List.mem_cons_self⟩
  | forbidden _ other process alive foreign => exact absurd (signalable alive) foreign
  | missing _ other process dead => exact .inr (.inl ⟨rfl, dead⟩)
  | group _ other group outcome answer => omega

/-! ### `stop_daemon` -/

/-- What the log says about the process: `hit` when it was alive at its `SIGTERM`, `missed` when it was not
at its `SIGKILL`. -/
structure Marks (base : World) (pid : Int) (hit missed : Prop) (world : World) : Prop where
  grown : Grown base world
  hit : .signalled pid .term true ∈ since base world ↔ hit
  missed : .signalled pid .kill false ∈ since base world ↔ missed
  live : pid ∈ world.live → pid ∈ base.live

/-- The call is at work: the PID file is the one at the beginning. -/
structure Ending (host : Host) (base : World) (pid : Int) (hit : Prop) (world : World) : Prop where
  marks : Marks base pid hit False world
  entry : world.entry host daemonPidPath = base.entry host daemonPidPath
  owner : world.owner = base.owner
  wasAlive : hit → pid ∈ base.live

variable {base : World} {pid : Int} {hit missed : Prop}

theorem Marks.occurs {world after : World} (marks : Marks base pid hit missed world) (occurs : Occurs world after) :
    Marks base pid hit missed after := by
  cases occurs with
  | exit other alive =>
      obtain ⟨grown, more⟩ : Grown base (world.exit other) ∧
          since base (world.exit other) = since base world ++ [.exited other] :=
        since_snoc marks.grown rfl
      refine ⟨grown, ?_, ?_, ?_⟩
      · rw [more, List.mem_append, List.mem_singleton]
        simp [marks.hit]
      · rw [more, List.mem_append, List.mem_singleton]
        simp [marks.missed]
      · intro alive'
        exact marks.live (List.mem_of_mem_filter alive')
  | time later passes => exact ⟨marks.grown, marks.hit, marks.missed, marks.live⟩

theorem Ending.keeps : (hostMachine host).Keeps (Ending host base pid hit) := by
  intro world after occurs ending
  refine ⟨ending.marks.occurs occurs, ?_, ?_, ending.wasAlive⟩
  · rw [World.entry, Occurs.files occurs]
    exact ending.entry
  · cases occurs with
    | exit other alive => exact ending.owner
    | time later passes => exact ending.owner

/-- A dead process stays dead. -/
theorem Occurs.gone {world after : World} (occurs : Occurs world after) (gone : pid ∉ world.live) :
    pid ∉ after.live := by
  cases occurs with
  | exit other alive => exact fun alive' => gone (List.mem_of_mem_filter alive')
  | time later passes => exact gone

theorem Marks.sent {world after : World} (marks : Marks base pid hit missed world) {signal : Signal}
    (live : after.live = world.live)
    (same : after.log = world.log ++ [.signalled pid signal (decide (pid ∈ world.live))]) :
    Marks base pid (hit ∨ signal = .term ∧ pid ∈ world.live) (missed ∨ signal = .kill ∧ pid ∉ world.live) after := by
  obtain ⟨grown, more⟩ := since_snoc marks.grown same
  refine ⟨grown, ?_, ?_, live ▸ marks.live⟩
  · rw [more, List.mem_append, List.mem_singleton, marks.hit]
    simp [eq_comm]
  · rw [more, List.mem_append, List.mem_singleton, marks.missed]
    simp [eq_comm]

theorem Marks.congr {world : World} {hit' missed' : Prop} (marks : Marks base pid hit missed world)
    (sameHit : hit ↔ hit') (sameMissed : missed ↔ missed') : Marks base pid hit' missed' world :=
  ⟨marks.grown, marks.hit.trans sameHit, marks.missed.trans sameMissed, marks.live⟩

/-- The process lives on only under its PID file. -/
def Safe (host : Host) (pid : Int) (world : World) : Prop :=
  pid ∈ world.live → world.recorded host daemonPidPath = some pid

/-- The PID file cannot be removed by the caller. -/
def Refused (host : Host) (caller : Caller) (world : World) : Prop :=
  ∃ failure, host.unlink caller.user world.files true daemonPidPath = .error failure

/-- The process is gone, and the result says whether the signals have met it. -/
structure Verdict (base : World) (pid : Int) (stopped : Bool) (world : World) : Prop where
  gone : pid ∉ world.live
  marks : ∃ hit missed, Marks base pid hit missed world ∧ (stopped = true ↔ hit ∧ ¬ missed)
  wasAlive : stopped = true → pid ∈ base.live

/-- What holds where the signals have failed. -/
structure Failed (host : Host) (caller : Caller) (base : World) (pid : Int) (failure : Failure) (world : World) :
    Prop where
  safe : Safe host pid world
  caught : failure = .permissionError ∨ failure = .processLookupError →
    pid ∉ world.live ∧ (Verdict base pid false world ∨ Refused host caller world)

theorem Safe.of_gone {world : World} (gone : pid ∉ world.live) : Safe host pid world :=
  fun alive => absurd alive gone

theorem Verdict.occurs {stopped : Bool} {world after : World} (verdict : Verdict base pid stopped world)
    (occurs : Occurs world after) : Verdict base pid stopped after := by
  obtain ⟨hit, missed, marks, result⟩ := verdict.marks
  exact ⟨occurs.gone verdict.gone,
    ⟨hit, missed, marks.occurs occurs, result⟩, verdict.wasAlive⟩

theorem Verdict.keeps (stopped : Bool) : (hostMachine host).Keeps (Verdict base pid stopped) :=
  fun _ _ occurs verdict => verdict.occurs occurs

theorem Refused.keeps : (hostMachine host).Keeps (Refused host caller) := by
  intro world after occurs refused
  rw [Refused, Occurs.files occurs]
  exact refused

theorem Safe.keeps : (hostMachine host).Keeps (Safe host pid) := by
  intro world after occurs safe alive
  have before : pid ∈ world.live := by
    cases occurs with
    | exit other _ => exact List.mem_of_mem_filter alive
    | time later passes => exact alive
  rw [World.recorded, World.entry, Occurs.files occurs]
  exact safe before

theorem Failed.keeps (failure : Failure) : (hostMachine host).Keeps (Failed host caller base pid failure) := by
  intro world after occurs failed
  refine ⟨Safe.keeps occurs failed.safe, fun caught => ?_⟩
  obtain ⟨gone, reason⟩ := failed.caught caught
  refine ⟨occurs.gone gone, ?_⟩
  rcases reason with verdict | refused
  · exact .inl (verdict.occurs occurs)
  · exact .inr (Refused.keeps occurs refused)

/-- The PID file records the process, and the caller may signal it while it lives. -/
structure Subject (host : Host) (caller : Caller) (base : World) (pid : Int) : Prop where
  recorded : base.recorded host daemonPidPath = some pid
  positive : 0 < pid
  fits : Fits pid
  signalable : pid ∈ base.live → caller.MaySignal base pid

theorem Ending.safe {world : World} (ending : Ending host base pid hit world)
    (subject : Subject host caller base pid) : Safe host pid world := by
  intro _
  rw [World.recorded, ending.entry]
  exact subject.recorded

theorem Ending.signalable {world : World} (ending : Ending host base pid hit world)
    (subject : Subject host caller base pid) (alive : pid ∈ world.live) : caller.MaySignal world pid := by
  unfold Caller.MaySignal
  rw [ending.owner]
  exact subject.signalable (ending.marks.live alive)

theorem Ending.sent {world after : World} {signal : Signal} {outcome : Except Failure Unit}
    (ending : Ending host base pid hit world) (kills : Kills caller world pid signal outcome after)
    (landed : signal = .kill → pid ∈ world.live) :
    Ending host base pid (hit ∨ signal = .term ∧ pid ∈ world.live) after := by
  obtain ⟨files, live, -, owner, same⟩ := kills.frame
  refine ⟨?_, ?_, owner.trans ending.owner, ?_⟩
  · apply (ending.marks.sent live same).congr Iff.rfl
    simp only [false_or, iff_false, not_and, not_not]
    exact landed
  · rw [World.entry, files]
    exact ending.entry
  · intro met
    rcases met with met | ⟨-, alive⟩
    · exact ending.wasAlive met
    · exact ending.marks.live alive

theorem Ending.congr {world : World} {hit' : Prop} (ending : Ending host base pid hit world) (same : hit ↔ hit') :
    Ending host base pid hit' world :=
  ⟨ending.marks.congr same Iff.rfl, ending.entry, ending.owner, fun met => ending.wasAlive (same.mpr met)⟩

/-- The call is at work, and the process is gone. -/
def Done (host : Host) (base : World) (pid : Int) (hit : Prop) (world : World) : Prop :=
  Ending host base pid hit world ∧ pid ∉ world.live

theorem Done.keeps : (hostMachine host).Keeps (Done host base pid hit) :=
  fun _ _ occurs here => ⟨Ending.keeps occurs here.1, occurs.gone here.2⟩

/-- The call is at work, and the answer is no only when the process is gone. -/
def Answered (host : Host) (base : World) (pid : Int) (hit : Prop) (exists_ : Bool) (world : World) : Prop :=
  Ending host base pid hit world ∧ (exists_ = false → pid ∉ world.live)

theorem Answered.keeps (exists_ : Bool) : (hostMachine host).Keeps (Answered host base pid hit exists_) :=
  fun _ _ occurs here => ⟨Ending.keeps occurs here.1, fun no => occurs.gone (here.2 no)⟩

/-- `_process_exists` says no only when the process is gone. -/
theorem processExists_ending (subject : Subject host caller base pid) :
    Triple (hostMachine host) caller (Safe host pid) (Ending host base pid hit) (processExists pid)
      (Answered host base pid hit) fun _ _ => False := by
  have probes : Triple (hostMachine host) caller (Safe host pid) (Ending host base pid hit)
      (perform (Op.kill pid .probe) : Task Unit) (fun _ => Ending host base pid hit)
      fun failure world => Done host base pid hit world ∧ failure = .processLookupError := by
    have row {world after : World} {outcome : Except Failure Unit} (ending : Ending host base pid hit world)
        (kills : Kills caller world pid .probe outcome after) : Ending host base pid hit after := by
      apply (ending.sent kills (by simp)).congr
      simp
    apply Triple.perform Ending.keeps
    · intro _ ending
      exact ending.safe subject
    · intro _ world after ending performed
      cases performed with
      | kill _ _ _ _ kills => exact row ending kills
    · intro failure world after ending performed
      cases performed with
      | kill _ _ _ _ kills =>
          have live := kills.frame.2.1
          rcases kills.outcomes subject.positive subject.fits (ending.signalable subject) with
            ⟨same, -⟩ | ⟨same, gone⟩ | ⟨-, other⟩
          · cases same
          · cases same
            exact ⟨⟨row ending kills, live ▸ gone⟩, rfl⟩
          · exact absurd rfl other
    · intro _
      exact Ending.keeps
    · intro failure
      exact Done.keeps.also _
    · intro _ _ ending
      exact ending.safe subject
    · intro _ _ here
      exact here.1.1.safe subject
  have answered : Triple (hostMachine host) caller (Safe host pid) (Ending host base pid hit)
      (do
        perform (Op.kill pid .probe)
        return true : Task Bool)
      (Answered host base pid hit)
      fun failure world => Done host base pid hit world ∧ failure = .processLookupError := by
    apply probes.bind
    intro _
    apply Triple.ret (Answered.keeps true)
    · intro _ ending
      exact ⟨ending, fun no => by cases no⟩
    · intro _ here
      exact here.1.safe subject
  apply answered.handle
  · intro exists_
    apply Triple.ret (Answered.keeps exists_)
    · intro _ here
      exact here
    · intro _ here
      exact here.1.safe subject
  · intro failure world last rest here leads
    obtain ⟨done, rfl⟩ := here
    have gives : Triple (hostMachine host) caller (Safe host pid) (Done host base pid hit)
        (.ret false : Task Bool) (Answered host base pid hit) fun _ _ => False := by
      apply Triple.ret (Answered.keeps false)
      · intro _ done
        exact ⟨done.1, fun _ => done.2⟩
      · intro _ here
        exact here.1.safe subject
    exact gives done leads

/-- `SIGTERM`, and what follows when it does not arrive. -/
theorem term_ending (subject : Subject host caller base pid) :
    Triple (hostMachine host) caller (Safe host pid) (Ending host base pid False)
      (perform (Op.kill pid .term) : Task Unit) (fun _ => Ending host base pid True)
      (Failed host caller base pid) := by
  apply Triple.perform Ending.keeps
  · intro _ ending
    exact ending.safe subject
  · intro _ world after ending performed
    cases performed with
    | kill _ _ _ _ kills =>
        rcases kills.outcomes subject.positive subject.fits (ending.signalable subject) with
          ⟨-, alive, -⟩ | ⟨same, -⟩ | ⟨same, -⟩
        · apply (ending.sent kills (by simp)).congr
          simpa using alive
        · cases same
        · cases same
  · intro failure world after ending performed
    cases performed with
    | kill _ _ _ _ kills =>
        have later := ending.sent kills (by simp)
        refine ⟨later.safe subject, ?_⟩
        have live := kills.frame.2.1
        intro caught
        rcases kills.outcomes subject.positive subject.fits (ending.signalable subject) with
          ⟨same, -⟩ | ⟨same, gone⟩ | ⟨same, -⟩
        · cases same
        · refine ⟨live ▸ gone, .inl ⟨live ▸ gone, ⟨_, _, later.marks, ?_⟩, by simp⟩⟩
          simp [gone]
        · cases same
          simp at caught
  · intro _
    exact Ending.keeps
  · exact Failed.keeps
  · intro _ _ ending
    exact ending.safe subject
  · intro _ _ failed
    exact failed.safe

theorem monotonic_ending (subject : Subject host caller base pid) {failed : Failure → World → Prop} :
    Triple (hostMachine host) caller (Safe host pid) (Ending host base pid hit)
      (perform Op.monotonic : Task Rat) (fun _ => Ending host base pid hit) failed := by
  apply Triple.sure Ending.keeps
  · intro _ ending
    exact ending.safe subject
  · intro _ _ _ _ performed
    cases performed
  · intro _ _ _ ending performed
    cases performed
    exact ending
  · intro _
    exact Ending.keeps
  · intro _ _ ending
    exact ending.safe subject

/-- The loop is left by `break` only when the process is gone. -/
theorem awaitExit_ending (subject : Subject host caller base pid) (deadline : Rat) (polls : Nat) :
    Triple (hostMachine host) caller (Safe host pid) (Ending host base pid hit) (awaitExit deadline pid polls)
      (fun exited => Answered host base pid hit !exited)
      fun failure world => Ending host base pid hit world ∧ failure = .outOfFuel := by
  induction polls with
  | zero =>
      apply Triple.raise (Ending.keeps.also _)
      · intro _ ending
        exact ⟨ending, rfl⟩
      · intro _ here
        exact here.1.safe subject
  | succ polls ih =>
      apply (monotonic_ending subject).bind
      intro now
      split
      · have asks : Triple (hostMachine host) caller (Safe host pid) (Ending host base pid hit) (processExists pid)
            (Answered host base pid hit) fun failure world => Ending host base pid hit world ∧ failure = .outOfFuel := by
          apply (processExists_ending subject).consequence
          · intro _ here
            exact here
          · intro _ here
            exact here
          · intro _ _ here
            exact here
          · intro _ _ impossible
            exact impossible.elim
        apply asks.bind
        intro exists_
        cases exists_ with
        | true =>
            have sleeps : Triple (hostMachine host) caller (Safe host pid) (Answered host base pid hit true)
                (perform (Op.sleep (1 / 10)) : Task Unit) (fun _ => Ending host base pid hit)
                fun failure world => Ending host base pid hit world ∧ failure = .outOfFuel := by
              apply Triple.sure (Answered.keeps true)
              · intro _ here
                exact here.1.safe subject
              · intro _ _ _ _ performed
                cases performed
              · intro _ _ _ here performed
                cases performed
                exact ⟨⟨here.1.marks.grown, here.1.marks.hit, here.1.marks.missed, here.1.marks.live⟩,
                  here.1.entry, here.1.owner, here.1.wasAlive⟩
              · intro _
                exact Ending.keeps
              · intro _ _ ending
                exact ending.safe subject
            apply sleeps.bind
            intro _
            exact ih
        | false =>
            apply Triple.ret
            · exact Answered.keeps false
            · intro _ here
              exact here
            · intro _ here
              exact here.1.safe subject
      · apply Triple.ret
        · exact Answered.keeps true
        · intro _ ending
          exact ⟨ending, fun no => by cases no⟩
        · intro _ here
          exact here.1.safe subject

/-- Whatever the loop has found, the process is gone behind `SIGKILL`. -/
theorem forceKill_ending (subject : Subject host caller base pid) (exited : Bool) :
    Triple (hostMachine host) caller (Safe host pid) (Answered host base pid True !exited) (forceKill pid exited)
      (fun _ => Done host base pid True) (Failed host caller base pid) := by
  cases exited with
  | true =>
      apply Triple.ret
      · exact Done.keeps
      · intro _ here
        exact ⟨here.1, here.2 rfl⟩
      · intro _ done
        exact done.1.safe subject
  | false =>
      let Doomed (world : World) : Prop := Ending host base pid True world ∧ pid ∈ world.doomed
      have doomedKeeps : (hostMachine host).Keeps Doomed := by
        intro world after occurs here
        refine ⟨Ending.keeps occurs here.1, ?_⟩
        cases occurs <;> exact here.2
      have kills : Triple (hostMachine host) caller (Safe host pid) (Answered host base pid True true)
          (perform (Op.kill pid .kill) : Task Unit) (fun _ => Doomed) (Failed host caller base pid) := by
        apply Triple.perform (Answered.keeps true)
        · intro _ here
          exact here.1.safe subject
        · intro _ world after here performed
          cases performed with
          | kill _ _ _ _ kills =>
              rcases kills.outcomes subject.positive subject.fits (here.1.signalable subject) with
                ⟨-, alive, doomed⟩ | ⟨same, -⟩ | ⟨same, -⟩
              · have landed : pid ∈ world.live := by simpa using alive
                refine ⟨?_, doomed rfl⟩
                apply (here.1.sent kills fun _ => landed).congr
                simp
              · cases same
              · cases same
        · intro failure world after here performed
          cases performed with
          | kill _ _ _ _ kills =>
              obtain ⟨files, live, -, -, logged⟩ := kills.frame
              have marks := here.1.marks.sent live logged
              constructor
              · intro _
                rw [World.recorded, World.entry, files]
                exact here.1.safe subject (live ▸ ‹pid ∈ after.live›)
              · intro caught
                rcases kills.outcomes subject.positive subject.fits (here.1.signalable subject) with
                  ⟨same, -⟩ | ⟨same, gone⟩ | ⟨same, -⟩
                · cases same
                · refine ⟨live ▸ gone, .inl ⟨live ▸ gone, ⟨_, _, marks, ?_⟩, by simp⟩⟩
                  simp [gone]
                · cases same
                  simp at caught
        · intro _
          exact doomedKeeps
        · exact Failed.keeps
        · intro _ _ here
          exact here.1.safe subject
        · intro _ _ failed
          exact failed.safe
      have sleeps : Triple (hostMachine host) caller (Safe host pid) Doomed
          (perform (Op.sleep (1 / 2)) : Task Unit) (fun _ => Done host base pid True)
          (Failed host caller base pid) := by
        apply Triple.sure doomedKeeps
        · intro _ here
          exact here.1.safe subject
        · intro _ _ _ _ performed
          cases performed
        · intro _ _ _ here performed
          cases performed with
          | slept _ later elapsed ended =>
              refine ⟨⟨?_, here.1.entry, here.1.owner, here.1.wasAlive⟩, ended Rat.le_refl pid here.2⟩
              exact ⟨here.1.marks.grown, here.1.marks.hit, here.1.marks.missed, here.1.marks.live⟩
        · intro _
          exact Done.keeps
        · intro _ _ done
          exact done.1.safe subject
      apply kills.bind
      intro _
      exact sleeps

/-- The PID file goes when the process is gone. -/
theorem unlink_verdict (subject : Subject host caller base pid) :
    Triple (hostMachine host) caller (Safe host pid) (Done host base pid True)
      (perform (Op.unlink daemonPidPath true) : Task Unit) (fun _ => Verdict base pid true)
      (Failed host caller base pid) := by
  apply Triple.perform Done.keeps
  · intro _ done
    exact done.1.safe subject
  · intro _ world after done performed
    have marks := done.1.marks
    cases performed with
    | unlinked _ _ _ _ =>
        exact ⟨done.2, ⟨True, False, ⟨marks.grown, marks.hit, marks.missed, marks.live⟩, by simp⟩,
          fun _ => done.1.wasAlive trivial⟩
    | notFound _ _ _ => exact ⟨done.2, ⟨True, False, marks, by simp⟩, fun _ => done.1.wasAlive trivial⟩
  · intro _ world after done performed
    cases performed with
    | notUnlinked _ _ _ failed => exact ⟨done.1.safe subject, fun _ => ⟨done.2, .inr ⟨_, failed⟩⟩⟩
  · intro _
    exact Verdict.keeps true
  · exact Failed.keeps
  · intro _ _ verdict
    exact .of_gone verdict.gone
  · intro _ _ failed
    exact failed.safe

/-- The body of the `try` in `stop_daemon`. -/
theorem endProcess_verdict (subject : Subject host caller base pid) (timeout : Rat) :
    Triple (hostMachine host) caller (Safe host pid) (Ending host base pid False) (endProcess timeout pid)
      (Verdict base pid) (Failed host caller base pid) := by
  have awaits (began : Rat) : Triple (hostMachine host) caller (Safe host pid) (Ending host base pid True)
      (awaitExit (began + timeout) pid (pollLimit timeout)) (fun exited => Answered host base pid True !exited)
      (Failed host caller base pid) := by
    apply (awaitExit_ending subject _ _).consequence
    · intro _ here
      exact here
    · intro _ here
      exact here
    · intro _ _ here
      exact here
    · intro failure world here
      refine ⟨here.1.safe subject, fun caught => ?_⟩
      rw [here.2] at caught
      simp at caught
  apply (term_ending subject).bind
  intro _
  apply (monotonic_ending subject).bind
  intro began
  apply (awaits began).bind
  intro exited
  apply (forceKill_ending subject exited).bind
  intro _
  apply (unlink_verdict subject).bind
  intro _
  apply Triple.ret (Verdict.keeps true)
  · intro _ verdict
    exact verdict
  · intro _ verdict
    exact .of_gone verdict.gone

/-- A PID file is removed behind the end of its process, when it can be. -/
theorem discard_verdict :
    Triple (hostMachine host) caller (Safe host pid)
      (fun world => pid ∉ world.live ∧ (Verdict base pid false world ∨ Refused host caller world))
      (discard daemonPidPath) (Verdict base pid) fun _ => Safe host pid := by
  have kept : (hostMachine host).Keeps fun world =>
      pid ∉ world.live ∧ (Verdict base pid false world ∨ Refused host caller world) :=
    fun _ _ occurs here => ⟨occurs.gone here.1,
      here.2.imp (fun verdict => verdict.occurs occurs) fun refused =>
      Refused.keeps occurs refused⟩
  have gone : (hostMachine host).Keeps fun world => pid ∉ world.live := fun _ _ occurs dead => occurs.gone dead
  have removes : Triple (hostMachine host) caller (Safe host pid)
      (fun world => pid ∉ world.live ∧ (Verdict base pid false world ∨ Refused host caller world))
      (perform (Op.unlink daemonPidPath true) : Task Unit) (fun _ => Verdict base pid false)
      fun _ world => pid ∉ world.live := by
    apply Triple.perform kept
    · intro _ here
      exact .of_gone here.1
    · intro _ world after here performed
      cases performed with
      | unlinked _ _ _ done =>
          rcases here.2 with verdict | ⟨failure, failed⟩
          · obtain ⟨hit, missed, marks, result⟩ := verdict.marks
            exact ⟨verdict.gone, ⟨hit, missed, ⟨marks.grown, marks.hit, marks.missed, marks.live⟩, result⟩,
              verdict.wasAlive⟩
          · rw [failed] at done
            cases done
      | notFound _ _ done =>
          rcases here.2 with verdict | ⟨failure, failed⟩
          · exact verdict
          · rw [failed] at done
            cases done
    · intro _ world after here performed
      cases performed with
      | notUnlinked _ _ _ _ => exact here.1
    · intro _
      exact Verdict.keeps false
    · intro _
      exact gone
    · intro _ _ verdict
      exact .of_gone verdict.gone
    · intro _ _ dead
      exact .of_gone dead
  have discards : Triple (hostMachine host) caller (Safe host pid)
      (fun world => pid ∉ world.live ∧ (Verdict base pid false world ∨ Refused host caller world))
      (discard daemonPidPath) (Verdict base pid) fun _ world => pid ∉ world.live := by
    apply removes.bind
    intro _
    apply Triple.ret (Verdict.keeps false)
    · intro _ verdict
      exact verdict
    · intro _ verdict
      exact .of_gone verdict.gone
  apply discards.consequence
  · intro _ here
    exact here
  · intro _ here
    exact here
  · intro _ _ here
    exact here
  · intro _ _ dead
    exact .of_gone dead

/-- `stop_daemon` behind its reading of the PID file. -/
theorem stopProcess_verdict (subject : Subject host caller base pid) (timeout : Rat) :
    Triple (hostMachine host) caller (Safe host pid) (Ending host base pid False) (stopProcess timeout pid)
      (Verdict base pid) fun _ => Safe host pid := by
  have asks : Triple (hostMachine host) caller (Safe host pid) (Ending host base pid False) (processExists pid)
      (Answered host base pid False) fun _ => Safe host pid := by
    apply (processExists_ending subject).consequence
    · intro _ here
      exact here
    · intro _ here
      exact here
    · intro _ _ here
      exact here
    · intro _ _ impossible
      exact impossible.elim
  apply asks.bind
  intro exists_
  cases exists_ with
  | true =>
      have ends : Triple (hostMachine host) caller (Safe host pid) (Answered host base pid False true)
          (endProcess timeout pid) (Verdict base pid) (Failed host caller base pid) := by
        apply (endProcess_verdict subject timeout).consequence
        · intro _ here
          exact here.1
        · intro _ here
          exact here
        · intro _ _ here
          exact here
        · intro _ _ here
          exact here
      apply ends.handle
      · intro stopped
        apply Triple.ret (Verdict.keeps stopped)
        · intro _ verdict
          exact verdict
        · intro _ verdict
          exact .of_gone verdict.gone
      · intro failure
        split
        · rename_i caught
          intro world last rest failed leads
          exact discard_verdict (failed.caught caught) leads
        · apply Triple.raise Safe.keeps
          · intro _ failed
            exact failed.safe
          · intro _ safe
            exact safe
  | false =>
      apply discard_verdict.consequence
      · intro world here
        refine ⟨here.2 rfl, .inl ⟨here.2 rfl, ⟨_, _, here.1.marks, ?_⟩, by simp⟩⟩
        simp
      · intro _ here
        exact here
      · intro _ _ here
        exact here
      · intro _ _ here
        exact here

theorem since_self (base : World) : since base base = [] := by simp [since]

theorem Ending.start (host : Host) (base : World) (pid : Int) : Ending host base pid False base := by
  refine ⟨⟨List.prefix_rfl, ?_, ?_, fun alive => alive⟩, rfl, rfl, False.elim⟩
  · simp [since_self]
  · simp [since_self]

theorem stopDaemon_verdict (subject : Subject host caller base pid) (timeout : Rat) :
    Triple (hostMachine host) caller (Safe host pid) (Ending host base pid False) (stopDaemon timeout)
      (Verdict base pid) fun _ => Safe host pid := by
  have reads : Triple (hostMachine host) caller (Safe host pid) (Ending host base pid False) readDaemonPid
      (fun value world => Ending host base pid False world ∧ value = some pid) fun _ => Safe host pid := by
    apply (readDaemonPid_reads Ending.keeps fun _ ending => ending.entry).consequence
    · intro _ here
      exact here
    · intro _ ending
      exact ending.safe subject
    · intro value world here
      exact ⟨here.1, here.2.trans subject.recorded⟩
    · intro _ _ here
      exact here.1.safe subject
  apply reads.bind
  intro value world last rest here leads
  obtain ⟨ending, rfl⟩ := here
  exact stopProcess_verdict subject timeout ending leads

/-- Without a recorded process `stop_daemon` reports that it has stopped none. -/
theorem stopDaemon_unrecorded (unrecorded : base.recorded host daemonPidPath = none) (timeout : Rat) :
    Triple (hostMachine host) caller (fun _ => True)
      (fun world => world.entry host daemonPidPath = base.entry host daemonPidPath) (stopDaemon timeout)
      (fun stopped _ => stopped = false) fun _ _ => True := by
  have kept : (hostMachine host).Keeps fun world =>
      world.entry host daemonPidPath = base.entry host daemonPidPath := by
    intro world after occurs here
    rw [World.entry, Occurs.files occurs]
    exact here
  apply ((readDaemonPid_reads kept fun _ here => here).returns).bind
  intro value world last rest here leads
  have none_ : value = none := here.2.trans unrecorded
  subst none_
  have gives : Triple (hostMachine host) caller (fun _ => True) (fun _ => True) (.ret false : Task Bool)
      (fun stopped _ => stopped = false) fun _ _ => True := by
    apply Triple.ret
    · intro _ _ _ here
      exact here
    · intro _ _
      rfl
    · intro _ _
      trivial
  exact gives trivial leads

theorem Reached.subject (reached : Reached host base)
    (signalable : ∀ pid, base.recorded host daemonPidPath = some pid → pid ∈ base.live → caller.MaySignal base pid)
    (recorded : base.recorded host daemonPidPath = some pid) : Subject host caller base pid := by
  obtain ⟨positive, fits, -⟩ := reached.lawful pid recorded
  exact ⟨recorded, positive, fits, signalable pid recorded⟩

/-- A verdict is what there is to say about the result of a call. -/
theorem Verdict.result {stopped : Bool} {after : World} (verdict : Verdict base pid stopped after) :
    (stopped = true ↔ pid ∈ base.live ∧ pid ∉ after.live) ↔ Punctual pid base after := by
  obtain ⟨hit, missed, marks, result⟩ := verdict.marks
  rw [Punctual, marks.hit, marks.missed, ← result]
  constructor
  · intro right alive
    exact right.mpr ⟨alive, verdict.gone⟩
  · intro punctual
    exact ⟨fun stopped => ⟨verdict.wasAlive stopped, verdict.gone⟩, fun ended => punctual ended.1⟩

theorem stopsDaemon (reached : Reached host base)
    (signalable : ∀ pid, base.recorded host daemonPidPath = some pid → pid ∈ base.live → caller.MaySignal base pid) :
    StopsDaemon host caller base := by
  intro timeout after rest leads
  cases recorded : base.recorded host daemonPidPath with
  | none =>
      obtain ⟨-, returned, -⟩ := stopDaemon_unrecorded recorded timeout rfl leads
      constructor
      · intro pid same
        cases same
      · intro stopped ended
        rw [returned stopped ended]
        simp
  | some pid =>
      have subject := reached.subject signalable recorded
      obtain ⟨safe, returned, -⟩ := stopDaemon_verdict subject timeout (Ending.start host base pid) leads
      constructor
      · intro other same
        cases same
        exact safe
      · intro stopped ended
        have result := (returned stopped ended).result
        simpa using result

/-! ### `start_daemon` -/

/-- Nothing has been spawned, and the process is one there has been. -/
structure Unspawned (base : World) (pid : Int) (world : World) : Prop where
  grown : Grown base world
  unspawned : ∀ second, .spawned second ∉ since base world
  known : pid ∈ world.used

theorem Unspawned.snoc {world after : World} {event : Event} (here : Unspawned base pid world)
    (same : after.log = world.log ++ [event]) (other : ∀ second, event ≠ .spawned second)
    (known : pid ∈ after.used) : Unspawned base pid after := by
  obtain ⟨grown, more⟩ := since_snoc here.grown same
  refine ⟨grown, ?_, known⟩
  intro second inside
  rw [more] at inside
  rcases List.mem_append.mp inside with older | newest
  · exact here.unspawned second older
  · exact other second (List.mem_singleton.mp newest).symm

theorem Unspawned.occurs {world after : World} (here : Unspawned base pid world) (occurs : Occurs world after) :
    Unspawned base pid after := by
  cases occurs with
  | exit other alive => exact here.snoc rfl (by simp) here.known
  | time later passes => exact ⟨here.grown, here.unspawned, here.known⟩

theorem Unspawned.keeps : (hostMachine host).Keeps (Unspawned base pid) :=
  fun _ _ occurs here => here.occurs occurs

theorem Unspawned.kept ⦃op : Op⦄ ⦃outcome : Except Failure (Reply op)⦄ ⦃world after : World⦄
    (handles : ∃ pid, Handles daemonPidPath pid op) (performed : Performs host caller world op outcome after)
    (here : Unspawned base pid world) : Unspawned base pid after := by
  obtain ⟨other, handles⟩ := handles
  cases handles with
  | kill signal =>
      cases performed with
      | kill _ _ _ _ kills =>
          obtain ⟨-, -, used, -, same⟩ := kills.frame
          exact here.snoc same (by simp) (used ▸ here.known)
  | pathExists =>
      cases performed
      exact here
  | readText =>
      cases performed
      exact here
  | unlink missingOk => cases performed <;> exact ⟨here.grown, here.unspawned, here.known⟩
  | monotonic =>
      cases performed
      exact here
  | sleep seconds =>
      cases performed
      exact ⟨here.grown, here.unspawned, here.known⟩

/-- The process lives on only under its PID file, with nothing spawned beside it. -/
def Calm (host : Host) (base : World) (pid : Int) (world : World) : Prop :=
  pid ∈ world.live → world.recorded host daemonPidPath = some pid ∧ ∀ second, .spawned second ∉ since base world

/-- A process there has been is gone for good. -/
def Gone (pid : Int) (world : World) : Prop := pid ∈ world.used ∧ pid ∉ world.live

theorem Gone.keeps : (hostMachine host).Keeps (Gone pid) := by
  intro world after occurs gone
  refine ⟨?_, occurs.gone gone.2⟩
  cases occurs <;> exact gone.1

theorem Gone.kept ⦃op : Op⦄ ⦃outcome : Except Failure (Reply op)⦄ ⦃world after : World⦄ (_ : True)
    (performed : Performs host caller world op outcome after) (gone : Gone pid world) : Gone pid after := by
  cases performed with
  | spawned command environ other positive fits fresh =>
      refine ⟨List.mem_cons_of_mem _ gone.1, ?_⟩
      intro alive
      rcases List.mem_cons.mp alive with rfl | alive
      · exact fresh gone.1
      · exact gone.2 alive
  | kill _ _ _ _ kills =>
      obtain ⟨-, live, used, -, -⟩ := kills.frame
      rw [Gone, live, used]
      exact gone
  | _ => exact gone

theorem Calm.of_safe {world : World} (here : Safe host pid world ∧ Unspawned base pid world) :
    Calm host base pid world :=
  fun alive => ⟨here.1 alive, here.2.unspawned⟩

theorem Calm.of_gone {world : World} (gone : Gone pid world) : Calm host base pid world :=
  fun alive => absurd alive gone.2

/-- The start of a daemon at work: the PID file is the one at the beginning, and nothing has been spawned. -/
def Starting (host : Host) (base : World) (pid : Int) (world : World) : Prop :=
  Ending host base pid False world ∧ Unspawned base pid world

theorem Starting.keeps : (hostMachine host).Keeps (Starting host base pid) :=
  fun _ _ occurs here => ⟨Ending.keeps occurs here.1, here.2.occurs occurs⟩

theorem Starting.calm {world : World} (here : Starting host base pid world) (subject : Subject host caller base pid) :
    Calm host base pid world :=
  .of_safe ⟨here.1.safe subject, here.2⟩

theorem readDaemonPid_starting (subject : Subject host caller base pid) :
    Triple (hostMachine host) caller (Starting host base pid) (Starting host base pid) readDaemonPid
      (fun value world => Starting host base pid world ∧ value = some pid) fun _ => Starting host base pid := by
  apply (readDaemonPid_reads Starting.keeps fun _ here => here.1.entry).consequence
  · intro _ here
    exact here
  · intro _ here
    exact here
  · intro value world here
    exact ⟨here.1, here.2.trans subject.recorded⟩
  · intro _ _ here
    exact here.1

/-- `_process_exists` spawns nothing. -/
theorem processExists_starting (subject : Subject host caller base pid) :
    Triple (hostMachine host) caller (Calm host base pid) (Starting host base pid) (processExists pid)
      (fun exists_ world => Starting host base pid world ∧ (exists_ = false → Gone pid world))
      fun _ => Calm host base pid := by
  have quiet : Triple (hostMachine host) caller (Unspawned base pid) (Unspawned base pid) (processExists pid)
      (fun _ => Unspawned base pid) fun _ => Unspawned base pid :=
    Triple.invariant Unspawned.keeps Unspawned.kept
      (processExists_calls.imp fun op handles => ⟨pid, (handles : Handles daemonPidPath pid op)⟩)
  apply ((processExists_ending subject).and quiet).consequence
  · intro _ here
    exact here
  · intro _ here
    exact .of_safe here
  · intro _ _ here
    exact ⟨⟨here.1.1, here.2⟩, fun no => ⟨here.2.known, here.1.2 no⟩⟩
  · intro _ _ here
    exact here.1.elim

/-- `is_daemon_running` says no only when the recorded process is gone. -/
theorem isDaemonRunning_starting (subject : Subject host caller base pid) :
    Triple (hostMachine host) caller (Calm host base pid) (Starting host base pid) isDaemonRunning
      (fun running world => Starting host base pid world ∧ (running = false → Gone pid world))
      fun _ => Calm host base pid := by
  have reads : Triple (hostMachine host) caller (Calm host base pid) (Starting host base pid) readDaemonPid
      (fun value world => Starting host base pid world ∧ value = some pid) fun _ => Calm host base pid := by
    apply (readDaemonPid_starting subject).consequence
    · intro _ here
      exact here
    · intro _ here
      exact here.calm subject
    · intro _ _ here
      exact here
    · intro _ _ here
      exact here.calm subject
  apply reads.bind
  intro value world last rest here leads
  obtain ⟨starting, rfl⟩ := here
  exact processExists_starting subject starting leads

/-- A daemon that is running is reported, and nothing happens to it. -/
theorem refuse_starting (subject : Subject host caller base pid) :
    Triple (hostMachine host) caller (Starting host base pid) (Starting host base pid)
      (do
        let recorded ← readDaemonPid
        raise (.runtimeError ("Daemon already running (PID " ++ showPid recorded ++ ")")) : Task Int)
      (fun _ => Starting host base pid) fun _ => Starting host base pid := by
  apply (readDaemonPid_starting subject).bind
  intro value
  apply Triple.raise Starting.keeps
  · intro _ here
    exact here.1
  · intro _ here
    exact here

theorem startDaemon_calm (subject : Subject host caller base pid) (launch : Launch) :
    Triple (hostMachine host) caller (Calm host base pid) (Starting host base pid) (startDaemon launch)
      (fun _ => Calm host base pid) fun _ => Calm host base pid := by
  apply (isDaemonRunning_starting subject).bind
  intro running
  cases running with
  | true =>
      apply (refuse_starting subject).consequence
      · intro _ here
        exact here.1
      · intro _ here
        exact here.calm subject
      · intro _ _ here
        exact here.calm subject
      · intro _ _ here
        exact here.calm subject
  | false =>
      have behind : Triple (hostMachine host) caller (Gone pid) (Gone pid)
          (do
            removeStale
            spawnDaemon launch)
          (fun _ => Gone pid) fun _ => Gone pid :=
        Triple.invariant Gone.keeps Gone.kept (Issues.any _)
      apply behind.consequence
      · intro _ here
        exact here.2 rfl
      · intro _ gone
        exact .of_gone gone
      · intro _ _ gone
        exact .of_gone gone
      · intro _ _ gone
        exact .of_gone gone

theorem startsDaemon (reached : Reached host base)
    (signalable : ∀ pid, base.recorded host daemonPidPath = some pid → pid ∈ base.live → caller.MaySignal base pid) :
    StartsDaemon host caller base := by
  intro launch after rest leads pid recorded
  have known := (reached.lawful pid recorded).2.2
  have starting : Starting host base pid base := by
    refine ⟨Ending.start host base pid, ⟨List.prefix_rfl, ?_, known⟩⟩
    simp [since_self]
  exact (startDaemon_calm (reached.subject signalable recorded) launch starting leads).1

/-- In any world that calls of `start_daemon` and `stop_daemon` lead to, and for a caller who may signal the
recorded process: the PID file names it while it lives, nothing is spawned beside it, and the result of
`stop_daemon` says whether the call has ended it exactly when the process does not exit in front of its signals. -/
theorem daemon_kept (host : Host) (caller : Caller) (base : World) (reached : Reached host base)
    (signalable : ∀ pid, base.recorded host daemonPidPath = some pid → pid ∈ base.live →
      caller.MaySignal base pid) :
    StopsDaemon host caller base ∧ StartsDaemon host caller base :=
  ⟨stopsDaemon reached signalable, startsDaemon reached signalable⟩

/-! ### Runs with one daemon -/

namespace Sample

/-- A daemon on the usual port. -/
def launch : Launch := ⟨[], "python", "0.0.0.0", 8080, none⟩

/-- The world after a user has started a daemon, process 5000. -/
def started : World := Rehearsal.left .plain (.plain 1) 5000 (startDaemon launch) (.plain [] [] 1)

theorem started_reached : Reached .plain started := by
  have leads : Leads (hostMachine .plain) (.plain 1) (.plain [] [] 1) (startDaemon launch) started (.ret 5000) :=
    @Rehearsal.leads .plain (.plain 1) 5000 Int (startDaemon launch) (.plain [] [] 1) (.ok 5000) (by decide +kernel)
  exact .start (.plain 1) launch (.initial _ (by decide +kernel)) leads

theorem started_daemon : started.recorded .plain daemonPidPath = some 5000 ∧ 5000 ∈ started.live := by
  decide +kernel

theorem started_owner : started.owner 5000 = 1 := by decide +kernel

end Sample

/-- The user who has started the daemon may signal it. -/
theorem daemon_kept_started :
    StopsDaemon .plain (.plain 1) Sample.started ∧ StartsDaemon .plain (.plain 1) Sample.started := by
  apply daemon_kept .plain (.plain 1) Sample.started Sample.started_reached
  intro pid recorded _
  rw [Sample.started_daemon.1] at recorded
  cases recorded
  exact .inr Sample.started_owner.symm

/-- Another user stops the daemon: it lives on without a PID file, and a start spawns a second one. Its own user
stops it while it exits: nothing is reported as stopped. -/
theorem daemon_lost :
    Reached .plain Sample.started ∧ Sample.started.recorded .plain daemonPidPath = some 5000 ∧
    5000 ∈ Sample.started.live ∧
    (∃ last, Leads (hostMachine .plain) (.plain 2) Sample.started (stopDaemon 10) last (.ret false) ∧
      5000 ∈ last.live ∧ last.recorded .plain daemonPidPath = none) ∧
    (∃ last, Leads (hostMachine .plain) (.plain 2) Sample.started (startDaemon Sample.launch) last (.ret 6000) ∧
      5000 ∈ last.live ∧ 6000 ∈ last.live) ∧
    ∃ last, Leads (hostMachine .plain) (.plain 1) Sample.started (stopDaemon 10) last (.ret false) ∧
      5000 ∉ last.live := by
  refine ⟨Sample.started_reached, Sample.started_daemon.1, Sample.started_daemon.2, ?_, ?_, ?_⟩
  · refine ⟨Rehearsal.left .plain (.plain 2) 6000 (stopDaemon 10) Sample.started, ?_, by decide +kernel⟩
    exact @Rehearsal.leads .plain (.plain 2) 6000 Bool (stopDaemon 10) Sample.started (.ok false) (by decide +kernel)
  · refine ⟨Rehearsal.left .plain (.plain 2) 6000 (startDaemon Sample.launch) Sample.started, ?_, by decide +kernel⟩
    exact @Rehearsal.leads .plain (.plain 2) 6000 Int (startDaemon Sample.launch) Sample.started (.ok 6000)
      (by decide +kernel)
  · have exited : Leads (hostMachine .plain) (.plain 1) Sample.started (stopDaemon 10) (Sample.started.exit 5000)
        (stopDaemon 10) := .env .refl (.exit 5000 Sample.started_daemon.2)
    refine ⟨Rehearsal.left .plain (.plain 1) 6000 (stopDaemon 10) (Sample.started.exit 5000), ?_, by decide +kernel⟩
    exact exited.trans (@Rehearsal.leads .plain (.plain 1) 6000 Bool (stopDaemon 10) (Sample.started.exit 5000)
      (.ok false) (by decide +kernel))

end CodaNode.Posix
