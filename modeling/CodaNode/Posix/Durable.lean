/-
Module: CodaNode.Posix.Durable
Layer: Posix
Purpose: How the functions that stop the background processes end. They raise nothing exactly when their PID
  file can be looked at, the process id in it is harmless and the file may be removed, and they leave the other
  files alone. The number of polls is enough for the timeout.
Imports: CodaNode.Coroutine.Decided, CodaNode.Posix.Recorded
Main exports: Durable, Harmless, Host.Removes, awaitExit_durable, stopDaemon_decided, killOpenvpnDaemon_decided
-/
import CodaNode.Coroutine.Decided
import CodaNode.Posix.Recorded

namespace CodaNode.Posix

open Coroutine Coro
open CodaNode.Node (openvpnPidPath)
open Unix (Place)

variable {host : Host} {caller : Caller}

/-- Processes and time do not end the assertion. -/
def Durable (holds : World → Prop) : Prop :=
  ∀ world after : World, after.files = world.files → world.now ≤ after.now → holds world → holds after

/-- A signal to the process id neither fails for its size nor reaches the caller. -/
def Harmless (caller : Caller) (pid : Int) : Prop := Fits pid ∧ ¬ caller.Addresses pid

/-- A process that has been signalled without effect, or not signalled at all. -/
def Missed (failure : Failure) : Prop := failure = .permissionError ∨ failure = .processLookupError

theorem Durable.keeps {holds : World → Prop} (durable : Durable holds) : (hostMachine host).Keeps holds := by
  intro world after occurs here
  cases occurs with
  | exit pid alive => exact durable world _ rfl Rat.le_refl here
  | time later passes => exact durable world _ rfl passes here

theorem Durable.and {holds holds' : World → Prop} (durable : Durable holds) (durable' : Durable holds') :
    Durable fun world => holds world ∧ holds' world :=
  fun world after files now here => ⟨durable world after files now here.1, durable' world after files now here.2⟩

/-- `os.kill` for a harmless process id. -/
theorem kill_durable {holds : World → Prop} (durable : Durable holds) {pid : Int} (harmless : Harmless caller pid)
    (signal : Signal) :
    Triple (hostMachine host) caller (fun _ => True) holds (perform (Op.kill pid signal) : Task Unit)
      (fun _ => holds) fun failure world => holds world ∧ Missed failure := by
  have row {world after : World} {outcome : Except Failure Unit} (kills : Kills caller world pid signal outcome after) :
      after.files = world.files ∧ after.now = world.now ∧ ∀ failure, outcome = .error failure → Missed failure := by
    cases kills with
    | large large => exact absurd harmless.1 large
    | ownProbe _ own _ => exact absurd own harmless.2
    | own _ own _ => exact absurd own harmless.2
    | accepted => exact ⟨rfl, rfl, fun _ same => by cases same⟩
    | doomed => exact ⟨rfl, rfl, fun _ same => by cases same⟩
    | forbidden =>
        refine ⟨rfl, rfl, fun _ same => ?_⟩
        cases same
        exact .inl rfl
    | missing =>
        refine ⟨rfl, rfl, fun _ same => ?_⟩
        cases same
        exact .inr rfl
    | group _ _ _ _ answer =>
        refine ⟨rfl, rfl, fun _ same => ?_⟩
        rcases answer with rfl | rfl | rfl
        · cases same
        · cases same
          exact .inl rfl
        · cases same
          exact .inr rfl
  apply Triple.perform durable.keeps
  · intro _ _
    trivial
  · intro _ world after here performed
    cases performed with
    | kill _ _ _ _ kills =>
        obtain ⟨files, now, -⟩ := row kills
        exact durable world after files (now ▸ Rat.le_refl) here
  · intro failure world after here performed
    cases performed with
    | kill _ _ _ _ kills =>
        obtain ⟨files, now, missed⟩ := row kills
        exact ⟨durable world after files (now ▸ Rat.le_refl) here, missed failure rfl⟩
  · intro _
    exact durable.keeps
  · intro failure
    exact durable.keeps.also _
  · intro _ _ _
    trivial
  · intro _ _ _
    trivial

theorem Missed.isOSError {failure : Failure} (missed : Missed failure) : failure.isOSError = true := by
  rcases missed with rfl | rfl <;> rfl

/-- A value that is returned where an assertion holds. -/
theorem Durable.returns {holds : World → Prop} (durable : Durable holds) {α : Type} (value : α)
    {failed : Failure → World → Prop} :
    Triple (hostMachine host) caller (fun _ => True) holds (.ret value : Task α) (fun _ => holds) failed := by
  apply Triple.ret
  · exact durable.keeps
  · intro _ here
    exact here
  · intro _ _
    trivial

theorem processExists_durable {holds : World → Prop} (durable : Durable holds) {pid : Int}
    (harmless : Harmless caller pid) {failed : Failure → World → Prop} :
    Triple (hostMachine host) caller (fun _ => True) holds (processExists pid) (fun _ => holds) failed := by
  apply ((kill_durable durable harmless .probe).bind fun _ => durable.returns true).handle
  · intro exists_
    exact durable.returns exists_
  · intro failure world last rest here leads
    rw [if_pos here.2.isOSError] at leads
    exact durable.returns false here.1 leads

theorem sleep_durable {holds : World → Prop} (durable : Durable holds) {seconds : Rat} (forward : 0 ≤ seconds)
    {failed : Failure → World → Prop} :
    Triple (hostMachine host) caller (fun _ => True) holds (perform (Op.sleep seconds) : Task Unit)
      (fun _ world => holds world) failed := by
  apply Triple.sure durable.keeps
  · intro _ _
    trivial
  · intro _ _ _ _ performed
    cases performed
  · intro _ world _ here performed
    cases performed with
    | slept _ later elapsed _ =>
        have passes : world.now ≤ later := by grind
        exact durable world _ rfl passes here
  · intro _
    exact durable.keeps
  · intro _ _ _
    trivial

/-! ### Waiting for an exit -/

/-- The deadline is no further away than the polls that are left. -/
def Within (deadline : Rat) (polls : Nat) (world : World) : Prop :=
  ∃ left, polls = left + 1 ∧ deadline ≤ world.now + left / 10

theorem Within.durable (deadline : Rat) (polls : Nat) : Durable (Within deadline polls) := by
  intro world after _ now here
  obtain ⟨left, same, near⟩ := here
  exact ⟨left, same, by grind⟩

/-- Before the deadline a poll is left. -/
theorem Within.next {deadline now : Rat} {left : Nat} (near : deadline ≤ now + left / 10) (early : now < deadline) :
    ∃ less, left = less + 1 := by
  cases left with
  | zero =>
      have none_ : ((0 : Nat) : Rat) / 10 = 0 := by grind
      rw [none_] at near
      grind
  | succ less => exact ⟨less, rfl⟩

/-- One pause brings the deadline nearer by one poll. -/
theorem sleep_within {holds : World → Prop} (durable : Durable holds) (deadline : Rat) (less : Nat)
    {failed : Failure → World → Prop} :
    Triple (hostMachine host) caller (fun _ => True) (fun world => holds world ∧ Within deadline (less + 1 + 1) world)
      (perform (Op.sleep (1 / 10)) : Task Unit) (fun _ world => holds world ∧ Within deadline (less + 1) world)
      failed := by
  apply Triple.sure (durable.and (Within.durable deadline (less + 1 + 1))).keeps
  · intro _ _
    trivial
  · intro _ _ _ _ performed
    cases performed
  · intro _ world _ here performed
    cases performed with
    | slept _ later elapsed _ =>
        obtain ⟨left, same, near⟩ := here.2
        obtain rfl : less + 1 = left := by omega
        have passes : world.now ≤ later := by grind
        refine ⟨durable world _ rfl passes here.1, less, rfl, ?_⟩
        have one : ((less + 1 : Nat) : Rat) = less + 1 := by simp
        rw [one] at near
        show deadline ≤ later + less / 10
        grind
  · intro _
    exact (durable.and (Within.durable deadline (less + 1))).keeps
  · intro _ _ _
    trivial

/-- The loop comes to its end with the polls it has. -/
theorem awaitExit_durable {holds : World → Prop} (durable : Durable holds) {pid : Int}
    (harmless : Harmless caller pid) (deadline : Rat) (polls : Nat) {failed : Failure → World → Prop} :
    Triple (hostMachine host) caller (fun _ => True) (fun world => holds world ∧ Within deadline polls world)
      (awaitExit deadline pid polls) (fun _ => holds) failed := by
  induction polls with
  | zero =>
      intro world last rest here
      obtain ⟨left, impossible, -⟩ := here.2
      cases impossible
  | succ polls ih =>
      have reads : Triple (hostMachine host) caller (fun _ => True)
          (fun world => holds world ∧ Within deadline (polls + 1) world) (perform Op.monotonic : Task Rat)
          (fun (now : Rat) world => (holds world ∧ Within deadline (polls + 1) world) ∧ deadline ≤ now + polls / 10)
          failed := by
        apply Triple.sure (durable.and (Within.durable deadline (polls + 1))).keeps
        · intro _ _
          trivial
        · intro _ _ _ _ performed
          cases performed
        · intro _ _ _ here performed
          cases performed
          obtain ⟨left, same, near⟩ := here.2
          obtain rfl : polls = left := by omega
          exact ⟨here, near⟩
        · intro now
          exact (durable.and (Within.durable deadline (polls + 1))).keeps.also _
        · intro _ _ _
          trivial
      apply reads.bind
      intro now
      split
      · rename_i early
        intro world last rest here leads
        obtain ⟨less, rfl⟩ := Within.next here.2 early
        have checks : Triple (hostMachine host) caller (fun _ => True)
            (fun world => holds world ∧ Within deadline (less + 1 + 1) world)
            (do
              let exists_ ← processExists pid
              if exists_ then
                perform (Op.sleep (1 / 10))
                awaitExit deadline pid (less + 1)
              else return true : Task Bool)
            (fun _ => holds) failed := by
          apply (processExists_durable (durable.and (Within.durable deadline (less + 1 + 1))) harmless).bind
          intro exists_
          cases exists_ with
          | true =>
              apply (sleep_within durable deadline less).bind
              intro _
              exact ih
          | false =>
              intro world last rest here leads
              exact durable.returns true here.1 leads
        exact checks here.1 leads
      · intro world last rest here leads
        exact durable.returns false here.1.1 leads

theorem forceKill_durable {holds : World → Prop} (durable : Durable holds) {pid : Int}
    (harmless : Harmless caller pid) (exited : Bool) :
    Triple (hostMachine host) caller (fun _ => True) holds (forceKill pid exited) (fun _ => holds)
      fun failure world => holds world ∧ Missed failure := by
  cases exited with
  | true => exact durable.returns ()
  | false =>
      apply (kill_durable durable harmless .kill).bind
      intro _
      exact sleep_durable durable (by grind)

/-- The loop has enough polls for its timeout. -/
theorem within_pollLimit (timeout began : Rat) (world : World) (passed : began ≤ world.now) :
    Within (began + timeout) (pollLimit timeout) world := by
  refine ⟨(10 * timeout).ceil.toNat, rfl, ?_⟩
  have ceil : 10 * timeout ≤ ((10 * timeout).ceil : Rat) := Rat.le_ceil
  have natural : ((10 * timeout).ceil : Rat) ≤ ((10 * timeout).ceil.toNat : Rat) := by
    have whole := Int.self_le_toNat (10 * timeout).ceil
    exact_mod_cast whole
  grind

/-! ### The files -/

/-- The tree of files. -/
def Files (files : Unix.Tree Content) (world : World) : Prop := world.files = files

theorem Files.durable (files : Unix.Tree Content) : Durable (Files files) :=
  fun _ _ same _ here => Eq.trans same here

theorem Files.entry {files : Unix.Tree Content} (path : Path) (world : World) (here : Files files world) :
    world.entry host path = host.entry files path := by
  rw [World.entry, here]

theorem answers : (hostMachine host).Answers caller := Performs.answers caller

/-- The call of `unlink` raises nothing. -/
def Host.Removes (host : Host) (user : Nat) (files : Unix.Tree Content) (missingOk : Bool) (path : Path) : Prop :=
  ∃ removed, host.unlink user files missingOk path = .ok removed

/-- The files without the entry that a path names. -/
def Host.without (host : Host) (files : Unix.Tree Content) (path : Path) : Unix.Tree Content :=
  match host.spot files false path with
  | some (.entry place) => files.without place
  | _ => files

variable {files : Unix.Tree Content} {path : Path}

/-- What is left when `unlink` has returned. -/
theorem Host.unlink_without {user : Nat} {missingOk : Bool} {removed : Option Place}
    (done : host.unlink user files missingOk path = .ok removed) :
    host.without files path = (removed.map files.without).getD files := by
  unfold Host.unlink at done
  unfold Host.without
  cases leads : host.spot files false path with
  | none =>
      rw [leads] at done
      cases done
  | some spot =>
      rw [leads] at done
      cases spot with
      | entry place =>
          dsimp only at done
          split at done
          · cases done
            rfl
          · cases done
      | vacant place =>
          cases missingOk <;> cases done
          rfl
      | lost =>
          cases missingOk <;> cases done
          rfl
      | _ => cases done

theorem unlink_ends (missingOk : Bool) :
    Triple (hostMachine host) caller (fun _ => True) (Files files) (perform (Op.unlink path missingOk) : Task Unit)
      (fun _ world => Files (host.without files path) world ∧ host.Removes caller.user files missingOk path)
      fun failure world => Files files world ∧ host.unlink caller.user files missingOk path = .error failure := by
  apply Triple.perform (Files.durable files).keeps
  · intro _ _
    trivial
  · intro _ world after here performed
    obtain rfl : world.files = files := here
    cases performed with
    | unlinked _ _ place done => exact ⟨(host.unlink_without done).symm, _, done⟩
    | notFound _ _ done => exact ⟨(host.unlink_without done).symm, _, done⟩
  · intro failure world after here performed
    obtain rfl : world.files = files := here
    cases performed with
    | notUnlinked _ _ _ failed => exact ⟨rfl, failed⟩
  · intro _
    exact (Files.durable _).keeps.also _
  · intro _
    exact (Files.durable _).keeps.also _
  · intro _ _ _
    trivial
  · intro _ _ _
    trivial

theorem unlink_decided (missingOk : Bool) :
    Decided (hostMachine host) caller (Files files) (perform (Op.unlink path missingOk) : Task Unit)
      (host.Removes caller.user files missingOk path) fun _ => Files (host.without files path) where
  returns := by
    rintro ⟨removed, done⟩
    apply (unlink_ends missingOk).consequence
    · intro _ here
      exact here
    · intro _ _
      trivial
    · intro _ _ here
      exact here.1
    · intro failure _ here
      rw [done] at here
      cases here.2
  raises := by
    intro refused world here
    obtain rfl : world.files = files := here
    have start : Leads (hostMachine host) caller world (perform (Op.unlink path missingOk) : Task Unit) world _ := .refl
    cases outcome : host.unlink caller.user world.files missingOk path with
    | ok removed => exact absurd ⟨removed, outcome⟩ refused
    | error failure => exact ⟨world, failure, start.call (Performs.notUnlinked path missingOk failure outcome)⟩

/-- A value that is returned where the files are known. -/
theorem Files.gives {α : Type} {fine : Prop} {pre : World → Prop} (value : α)
    (implies : ∀ world, pre world → Files files world) (known : ∀ world, pre world → fine) :
    Decided (hostMachine host) caller pre (.ret value : Task α) fine fun _ => Files files :=
  .ret (Files.durable files).keeps implies known

theorem discard_decided :
    Decided (hostMachine host) caller (Files files) (discard path) (host.Removes caller.user files true path)
      fun _ => Files (host.without files path) :=
  ((unlink_decided true).bind answers fun _ =>
    Files.gives false (fun _ here => here) fun _ _ => trivial).congr (Iff.of_eq (and_true _))

/-- Why the body of a `try` fails: its signal was missed, or the PID file cannot be removed. -/
def Unended (host : Host) (caller : Caller) (files : Unix.Tree Content) (path : Path) (failure : Failure)
    (world : World) : Prop :=
  Files files world ∧ (Missed failure ∨ host.unlink caller.user files true path = .error failure)

/-- A signal in the body of a `try`. -/
theorem kill_ends {pid : Int} (harmless : Harmless caller pid) (signal : Signal) :
    Triple (hostMachine host) caller (fun _ => True) (Files files) (perform (Op.kill pid signal) : Task Unit)
      (fun _ => Files files) (Unended host caller files path) :=
  (kill_durable (Files.durable files) harmless signal).consequence (fun _ here => here) (fun _ _ => trivial)
    (fun _ _ here => here) fun _ _ here => ⟨here.1, .inl here.2⟩

/-- The PID file goes at the end of the body. -/
theorem removal_ends :
    Triple (hostMachine host) caller (fun _ => True) (Files files) (perform (Op.unlink path true) : Task Unit)
      (fun _ world => Files (host.without files path) world ∧ host.Removes caller.user files true path)
      (Unended host caller files path) :=
  (unlink_ends true).consequence (fun _ here => here) (fun _ _ => trivial) (fun _ _ here => here)
    fun _ _ here => ⟨here.1, .inr here.2⟩

/-- What the body returns when the PID file is gone. -/
theorem ended_ret {α : Type} (value : α) {failed : Failure → World → Prop} :
    Triple (hostMachine host) caller (fun _ => True)
      (fun world => Files (host.without files path) world ∧ host.Removes caller.user files true path)
      (.ret value : Task α)
      (fun _ world => Files (host.without files path) world ∧ host.Removes caller.user files true path) failed := by
  apply Triple.ret
  · exact (Files.durable _).keeps.also _
  · intro _ here
    exact here
  · intro _ _
    trivial

/-- A failure that is not caught is one of the removal. -/
theorem Unended.refused {failure : Failure} {world : World} (unended : Unended host caller files path failure world)
    (other : ¬ Missed failure) : ¬ host.Removes caller.user files true path := by
  rintro ⟨removed, done⟩
  rcases unended with ⟨-, missed | refused⟩
  · exact other missed
  · rw [refused] at done
    cases done

/-! ### `stop_daemon` -/

/-- The body of the `try` fails for the signal that is missed, or for the file that cannot be removed. -/
theorem endProcess_ends {pid : Int} (harmless : Harmless caller pid) (timeout : Rat) :
    Triple (hostMachine host) caller (fun _ => True) (Files files) (endProcess timeout pid)
      (fun _ world => Files (host.without files daemonPidPath) world ∧
        host.Removes caller.user files true daemonPidPath)
      (Unended host caller files daemonPidPath) := by
  have durable : Durable (Files files) := Files.durable files
  have reads : Triple (hostMachine host) caller (fun _ => True) (Files files) (perform Op.monotonic : Task Rat)
      (fun (began : Rat) world => Files files world ∧ Within (began + timeout) (pollLimit timeout) world)
      (Unended host caller files daemonPidPath) := by
    apply Triple.sure durable.keeps
    · intro _ _
      trivial
    · intro _ _ _ _ performed
      cases performed
    · intro _ world _ here performed
      cases performed
      exact ⟨here, within_pollLimit timeout world.now world Rat.le_refl⟩
    · intro began
      exact (durable.and (Within.durable _ _)).keeps
    · intro _ _ _
      trivial
  have forces (exited : Bool) : Triple (hostMachine host) caller (fun _ => True) (Files files) (forceKill pid exited)
      (fun _ => Files files) (Unended host caller files daemonPidPath) :=
    (forceKill_durable durable harmless exited).consequence (fun _ here => here) (fun _ _ => trivial)
      (fun _ _ here => here) fun _ _ here => ⟨here.1, .inl here.2⟩
  apply (kill_ends harmless .term).bind
  intro _
  apply reads.bind
  intro began
  apply (awaitExit_durable durable harmless _ _).bind
  intro exited
  apply (forces exited).bind
  intro _
  apply removal_ends.bind
  intro _
  exact ended_ret true

/-- `stop_daemon` behind its reading of the PID file, for a harmless process id. -/
theorem stopProcess_decided {pid : Int} (harmless : Harmless caller pid) (timeout : Rat) :
    Decided (hostMachine host) caller (Files files) (stopProcess timeout pid)
      (host.Removes caller.user files true daemonPidPath) fun _ => Files (host.without files daemonPidPath) := by
  have checks : Decided (hostMachine host) caller (Files files) (processExists pid) True fun _ => Files files :=
    .sure (processExists_durable (Files.durable files) harmless) fun _ _ => trivial
  apply checks.behind answers
  intro exists_
  cases exists_ with
  | true =>
      apply Decided.handle answers (endProcess_ends harmless timeout)
      · intro stopped
        exact Files.gives stopped (fun _ here => here.1) fun _ here => here.2
      · intro failure
        by_cases caught : failure = .permissionError ∨ failure = .processLookupError
        · rw [if_pos caught]
          exact discard_decided.weaken (fun _ here => here.1) fun _ _ here => here
        · rw [if_neg caught]
          apply Decided.raise
          intro _ unended
          exact unended.refused caught
  | false => exact discard_decided

/-- A process id that is not harmless ends a run. -/
theorem stopProcess_fails {pid : Int} (harmful : ¬ Harmless caller pid) (timeout : Rat) (world : World) :
    ∃ last failure, Leads (hostMachine host) caller world (stopProcess timeout pid) last (.raise failure) := by
  have start : Leads (hostMachine host) caller world (stopProcess timeout pid) world (stopProcess timeout pid) := .refl
  by_cases fits : Fits pid
  · have own : caller.Addresses pid := by
      by_contra other
      exact harmful ⟨fits, other⟩
    have probed := start.call (Performs.kill pid .probe _ _ (.ownProbe fits own rfl))
    exact ⟨_, .terminated, probed.call (Performs.kill pid .term _ _ (.own fits own (by simp)))⟩
  · exact ⟨_, .overflowError, start.call (Performs.kill pid .probe _ _ (.large fits))⟩

theorem pathExists_decided :
    Decided (hostMachine host) caller (Files files) (perform (Op.pathExists path) : Task Bool)
      (∃ present, (host.entry files path).exists = .ok present)
      fun present world => Files files world ∧ (host.entry files path).exists = .ok present := by
  apply Decided.reads (Files.durable files).keeps
  · intro outcome world after here performed
    rw [← Files.entry path world here]
    exact performed.pathExists_inv
  · intro world here
    rw [← Files.entry path world here]
    exact .pathExists path

/-- `int(path.read_text().strip())`, whatever a handler makes of it. -/
theorem readInt_ends :
    Triple (hostMachine host) caller (fun _ => True) (Files files) (readInt path)
      (fun pid world => Files files world ∧ (host.entry files path).readInt = .ok pid)
      fun failure world => Files files world ∧ (host.entry files path).readInt = .error failure :=
  (readInt_reads (Files.durable files).keeps (Files.entry path)).consequence (fun _ here => here) (fun _ _ => trivial)
    (fun _ _ here => here) fun _ _ here => here

theorem readDaemonPid_decided :
    Decided (hostMachine host) caller (Files files) readDaemonPid (host.entry files daemonPidPath).Checkable
      fun value world => Files files world ∧ value = (host.entry files daemonPidPath).readInt.toOption := by
  have kept (value : Option Int) : (hostMachine host).Keeps fun world =>
      Files files world ∧ value = (host.entry files daemonPidPath).readInt.toOption :=
    (Files.durable files).keeps.also _
  apply pathExists_decided.bind answers
  intro present
  apply Decided.given
  intro found
  cases present with
  | true =>
      have reads : Triple (hostMachine host) caller (fun _ => True) (Files files)
          (do
            let pid ← readInt daemonPidPath
            return some pid)
          (fun value world => Files files world ∧ ∃ pid, value = some pid ∧
            (host.entry files daemonPidPath).readInt = .ok pid)
          fun failure world => Files files world ∧ (host.entry files daemonPidPath).readInt = .error failure := by
        apply readInt_ends.bind
        intro pid
        apply Triple.ret
        · exact (Files.durable files).keeps.also _
        · intro _ here
          exact ⟨here.1, pid, rfl, here.2⟩
        · intro _ _
          trivial
      apply Decided.handle answers reads
      · intro value
        apply Decided.ret (kept value)
        · rintro _ ⟨here, pid, rfl, read⟩
          exact ⟨here, by rw [read]; rfl⟩
        · rintro _ ⟨-, pid, -, read⟩ blocked
          rw [read] at blocked
          cases blocked
      · intro failure
        by_cases caught : failure.isValueError ∨ failure.isOSError
        · rw [if_pos caught]
          apply Decided.ret (kept none)
          · intro _ here
            exact ⟨here.1, by rw [here.2]; rfl⟩
          · rintro _ ⟨-, read⟩ blocked
            rw [read] at blocked
            cases blocked
            exact absurd caught (by decide)
        · rw [if_neg caught]
          apply Decided.raise
          rintro _ ⟨-, read⟩ ends
          rcases Entry.readInt_error read with value | os | rfl
          · exact caught (.inl value)
          · exact caught (.inr os)
          · exact ends read
  | false =>
      obtain ⟨failure, read, other⟩ := Entry.readInt_absent found
      apply Decided.ret (kept none)
      · intro _ here
        exact ⟨here, by rw [read]; rfl⟩
      · intro _ _ blocked
        rw [read] at blocked
        exact other (Except.error.inj blocked)

/-- `stop_daemon` can deal with the PID file: it can be looked at, and what it records may be signalled and its file
removed. -/
def Stoppable (host : Host) (caller : Caller) (files : Unix.Tree Content) : Prop :=
  (host.entry files daemonPidPath).Checkable ∧
    ∀ pid, (host.entry files daemonPidPath).readInt = .ok pid →
      Harmless caller pid ∧ host.Removes caller.user files true daemonPidPath

/-- The files that `stop_daemon` leaves: a PID file that records nothing stays. -/
def Host.stopped (host : Host) (files : Unix.Tree Content) : Unix.Tree Content :=
  match (host.entry files daemonPidPath).readInt with
  | .ok _ => host.without files daemonPidPath
  | .error _ => files

theorem stopDaemon_decided (timeout : Rat) :
    Decided (hostMachine host) caller (Files files) (stopDaemon timeout) (Stoppable host caller files)
      fun _ => Files (host.stopped files) := by
  apply readDaemonPid_decided.bind answers
  intro value
  apply Decided.given
  intro found
  cases read : (host.entry files daemonPidPath).readInt with
  | ok pid =>
      rw [read] at found
      cases found
      have kept : host.stopped files = host.without files daemonPidPath := by
        rw [Host.stopped, read]
      rw [kept]
      apply Decided.congr (Decided.also (fun harmless => stopProcess_decided harmless timeout)
        fun harmful world _ => stopProcess_fails harmful timeout world)
      constructor
      · rintro both other same
        cases same
        exact both
      · intro all
        exact all pid rfl
  | error failure =>
      rw [read] at found
      cases found
      have kept : host.stopped files = files := by
        rw [Host.stopped, read]
      rw [kept]
      apply Files.gives false (fun _ here => here)
      intro _ _ pid same
      cases same

/-! ### `kill_openvpn_daemon` -/

/-- What `kill_openvpn_daemon` catches. -/
def Caught (failure : Failure) : Prop :=
  failure = .permissionError ∨ failure = .processLookupError ∨ failure.isValueError

/-- `kill_openvpn_daemon` can deal with the PID file: it can be asked for, and when it is there, its file may be
removed, and it records what may be signalled or cannot be read in a way that is caught. -/
def Endable (host : Host) (caller : Caller) (files : Unix.Tree Content) : Prop :=
  (∃ present, (host.entry files openvpnPidPath).exists = .ok present) ∧
    ((host.entry files openvpnPidPath).exists = .ok true →
      (∀ pid, (host.entry files openvpnPidPath).readInt = .ok pid → Harmless caller pid) ∧
        (∀ failure, (host.entry files openvpnPidPath).readInt = .error failure → Caught failure) ∧
        host.Removes caller.user files true openvpnPidPath)

/-- The files that `kill_openvpn_daemon` leaves. -/
def Host.ended (host : Host) (files : Unix.Tree Content) : Unix.Tree Content :=
  match (host.entry files openvpnPidPath).exists with
  | .ok true => host.without files openvpnPidPath
  | _ => files

/-- The signal reaches its process or is missed, and the PID file goes. -/
theorem signalOpenvpn_ends {pid : Int} (harmless : Harmless caller pid) :
    Triple (hostMachine host) caller (fun _ => True) (Files files) (signalOpenvpn pid)
      (fun _ world => Files (host.without files openvpnPidPath) world ∧
        host.Removes caller.user files true openvpnPidPath)
      (Unended host caller files openvpnPidPath) := by
  apply (kill_ends harmless .term).bind
  intro _
  apply removal_ends.bind
  intro _
  exact ended_ret true

/-- The `try` in `kill_openvpn_daemon`, for a harmless process id. -/
theorem tryEndOpenvpn_decided {pid : Int} (read : (host.entry files openvpnPidPath).readInt = .ok pid)
    (harmless : Harmless caller pid) :
    Decided (hostMachine host) caller (Files files) tryEndOpenvpn
      (host.Removes caller.user files true openvpnPidPath) fun _ => Files (host.without files openvpnPidPath) := by
  have ends : Triple (hostMachine host) caller (fun _ => True) (Files files) endOpenvpn
      (fun _ world => Files (host.without files openvpnPidPath) world ∧
        host.Removes caller.user files true openvpnPidPath)
      (Unended host caller files openvpnPidPath) := by
    have reads : Triple (hostMachine host) caller (fun _ => True) (Files files) (readInt openvpnPidPath)
        (fun other world => Files files world ∧ other = pid) (Unended host caller files openvpnPidPath) := by
      apply readInt_ends.consequence
      · intro _ here
        exact here
      · intro _ _
        trivial
      · intro other _ here
        rw [read] at here
        exact ⟨here.1, (Except.ok.inj here.2).symm⟩
      · intro _ _ here
        rw [read] at here
        cases here.2
    apply reads.bind
    rintro other world last rest ⟨here, rfl⟩ leads
    exact signalOpenvpn_ends harmless here leads
  apply Decided.handle answers ends
  · intro killed
    exact Files.gives killed (fun _ here => here.1) fun _ here => here.2
  · intro failure
    by_cases caught : failure = .permissionError ∨ failure = .processLookupError ∨ failure.isValueError
    · rw [if_pos caught]
      exact discard_decided.weaken (fun _ here => here.1) fun _ _ here => here
    · rw [if_neg caught]
      apply Decided.raise
      intro _ unended
      exact unended.refused fun missed => caught (missed.imp_right .inl)

/-- A process id that is not harmless ends a run. -/
theorem tryEndOpenvpn_fails {pid : Int} {world : World} (read : (host.entry files openvpnPidPath).readInt = .ok pid)
    (harmful : ¬ Harmless caller pid) (here : Files files world) :
    ∃ last failure, Leads (hostMachine host) caller world tryEndOpenvpn last (.raise failure) := by
  have recorded : world.recorded host openvpnPidPath = some pid := by
    rw [World.recorded_eq_some, Files.entry openvpnPidPath world here, read]
  have found : Leads (hostMachine host) caller world tryEndOpenvpn world _ :=
    ((readInt_leads recorded).returns _).handle _ _
  by_cases fits : Fits pid
  · have own : caller.Addresses pid := by
      by_contra other
      exact harmful ⟨fits, other⟩
    exact ⟨_, .terminated, found.call (Performs.kill pid .term _ _ (.own fits own (by simp)))⟩
  · exact ⟨_, .overflowError, found.call (Performs.kill pid .term _ _ (.large fits))⟩

/-- A PID file that cannot be read is removed when the handler catches why. -/
theorem tryEndOpenvpn_unread {failure : Failure} (read : (host.entry files openvpnPidPath).readInt = .error failure) :
    Decided (hostMachine host) caller (Files files) tryEndOpenvpn
      (Caught failure ∧ host.Removes caller.user files true openvpnPidPath)
      fun _ => Files (host.without files openvpnPidPath) := by
  have ends : Triple (hostMachine host) caller (fun _ => True) (Files files) endOpenvpn (fun _ _ => False)
      fun raised world => Files files world ∧ raised = failure := by
    have reads : Triple (hostMachine host) caller (fun _ => True) (Files files) (readInt openvpnPidPath)
        (fun _ _ => False) fun raised world => Files files world ∧ raised = failure := by
      apply readInt_ends.consequence
      · intro _ here
        exact here
      · intro _ _
        trivial
      · intro _ _ here
        rw [read] at here
        cases here.2
      · intro _ _ here
        rw [read] at here
        exact ⟨here.1, (Except.error.inj here.2).symm⟩
    apply reads.bind
    intro _ _ _ _ impossible
    exact impossible.elim
  apply Decided.handle answers ends
  · intro killed
    exact Files.gives killed (fun _ impossible => impossible.elim) fun _ impossible => impossible.elim
  · intro raised
    apply Decided.given
    rintro rfl
    apply Decided.also
    · intro caught
      have named : raised = .permissionError ∨ raised = .processLookupError ∨ raised.isValueError := caught
      rw [if_pos named]
      exact discard_decided
    · intro other world _
      have unnamed : ¬ (raised = .permissionError ∨ raised = .processLookupError ∨ raised.isValueError) := other
      rw [if_neg unnamed]
      exact ⟨world, raised, .refl⟩

theorem killOpenvpnDaemon_decided :
    Decided (hostMachine host) caller (Files files) killOpenvpnDaemon (Endable host caller files)
      fun _ => Files (host.ended files) := by
  apply pathExists_decided.bind answers
  intro recorded
  apply Decided.given
  intro found
  cases recorded with
  | true =>
      have kept : host.ended files = host.without files openvpnPidPath := by
        rw [Host.ended, found]
      rw [kept]
      cases read : (host.entry files openvpnPidPath).readInt with
      | ok pid =>
          apply Decided.congr (Decided.also (fun harmless => tryEndOpenvpn_decided read harmless)
            fun harmful world here => tryEndOpenvpn_fails read harmful here)
          constructor
          · rintro ⟨harmless, removes⟩ -
            refine ⟨?_, ?_, removes⟩
            · rintro other same
              cases same
              exact harmless
            · intro failure same
              cases same
          · intro all
            exact ⟨(all found).1 pid rfl, (all found).2.2⟩
      | error failure =>
          apply Decided.congr (tryEndOpenvpn_unread read)
          constructor
          · rintro ⟨caught, removes⟩ -
            refine ⟨?_, ?_, removes⟩
            · intro pid same
              cases same
            · rintro other same
              cases same
              exact caught
          · intro all
            exact ⟨(all found).2.1 failure rfl, (all found).2.2⟩
  | false =>
      have kept : host.ended files = files := by
        rw [Host.ended, found]
      rw [kept]
      apply Files.gives false (fun _ here => here)
      intro _ _ present
      rw [found] at present
      cases present

end CodaNode.Posix
