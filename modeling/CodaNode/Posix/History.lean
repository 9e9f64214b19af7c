/-
Module: CodaNode.Posix.History
Layer: Posix
Purpose: The worlds that calls of `start_daemon` and `stop_daemon` lead to. The PID file records nothing
  there, or a process that there has been.
Imports: CodaNode.Python.Decimal, CodaNode.Posix.Calls, CodaNode.Posix.Recorded
Main exports: Reached, Lawful, Kills.frame, Reached.lawful
-/
import CodaNode.Python.Decimal
import CodaNode.Posix.Calls
import CodaNode.Posix.Recorded

namespace CodaNode.Posix

open Coroutine Coro
open Unix (Place)

/-- The worlds that calls of `start_daemon` and `stop_daemon` lead to, by any users, from one whose PID file
records nothing. A call may also be given up anywhere. -/
inductive Reached (host : Host) : World → Prop where
  | initial (world : World) (unrecorded : world.recorded host daemonPidPath = none) : Reached host world
  | start {base after : World} {rest : Task Int} (caller : Caller) (launch : Launch) (earlier : Reached host base)
      (leads : Leads (hostMachine host) caller base (startDaemon launch) after rest) : Reached host after
  | stop {base after : World} {rest : Task Bool} (caller : Caller) (timeout : Rat) (earlier : Reached host base)
      (leads : Leads (hostMachine host) caller base (stopDaemon timeout) after rest) : Reached host after

variable {host : Host} {caller : Caller}

/-! ### The process that is recorded -/

/-- The PID file records nothing, or a process there has been. -/
def Lawful (host : Host) (world : World) : Prop :=
  ∀ pid, world.recorded host daemonPidPath = some pid → 0 < pid ∧ Fits pid ∧ pid ∈ world.used

theorem written_toList (number : Nat) :
    (toString (number : Int) ++ "\n").toList = Nat.toDigits 10 number ++ ['\n'] := by
  rw [String.toList_append, ← Nat.toList_repr]
  rfl

theorem parsePid_written {pid : Int} (positive : 0 < pid) (fits : Fits pid) :
    parsePid (toString pid ++ "\n") = .ok pid := by
  obtain ⟨number, rfl⟩ := Int.eq_ofNat_of_zero_le (Int.le_of_lt positive)
  have short : (Nat.toDigits 10 number).length ≤ Python.maxStrDigits := by
    apply Nat.le_trans ((Nat.length_toDigits_le_iff (k := 10) (by decide) (by decide)).mpr _)
    · decide
    · have := fits.2
      omega
  rw [parsePid_ok, pidOf, written_toList, Python.strip_toDigits, Python.int_toDigits short]
  · rfl
  intro char inside
  rw [List.mem_singleton.mp inside]
  rfl

/-- What is written for a process id is read back as that id. -/
theorem readInt_written {pid other : Int} {owner : Nat} (positive : 0 < pid) (fits : Fits pid)
    (read : (Entry.regular (.text (toString pid ++ "\n")) owner).readInt = .ok other) : other = pid := by
  have plain : '\r' ∉ (toString pid ++ "\n").toList := by
    obtain ⟨number, rfl⟩ := Int.eq_ofNat_of_zero_le (Int.le_of_lt positive)
    rw [written_toList, List.mem_append, not_or]
    exact ⟨Python.return_not_mem_digits number, by decide⟩
  rw [Entry.readInt_text plain, parsePid_written positive fits] at read
  exact (Except.ok.inj read).symm

/-- An empty file records nothing. -/
theorem readInt_empty {pid : Int} {owner : Nat} : (Entry.regular (.text "") owner).readInt ≠ .ok pid := by
  rw [Entry.readInt_text (by decide), parsePid, show pidOf "" = none from by decide +kernel]
  intro same
  cases same

theorem Lawful.remove {world : World} (lawful : Lawful host world) (place : Place) :
    Lawful host (world.remove place) :=
  fun pid recorded => lawful pid (World.recorded_remove recorded)

/-- An empty file more, or a file that is empty now. -/
theorem Lawful.empty {world : World} (lawful : Lawful host world) {place : Place}
    (plain : Unix.Rules.Plain world.files place) (owner : Nat) : Lawful host (world.put place (.text "") owner) := by
  intro pid recorded
  rcases World.recorded_put plain recorded with before | empty
  · exact lawful pid before
  · exact absurd empty readInt_empty

theorem Lawful.keeps : (hostMachine host).Keeps (Lawful host) := by
  intro world after occurs lawful
  cases occurs with
  | exit pid alive => exact lawful
  | time later passes => exact lawful

/-- Calls that do not write. -/
def Unwritten (op : Op) : Prop := ∀ path text, op ≠ .writeText path text

theorem Kills.frame {world after : World} {pid : Int} {signal : Signal} {outcome : Except Failure Unit}
    (kills : Kills caller world pid signal outcome after) :
    after.files = world.files ∧ after.live = world.live ∧ after.used = world.used ∧ after.owner = world.owner ∧
      after.log = world.log ++ [.signalled pid signal (decide (pid ∈ world.live))] := by
  cases kills <;> exact ⟨rfl, rfl, rfl, rfl, rfl⟩

theorem Lawful.frame {world after : World} (lawful : Lawful host world) (files : after.files = world.files)
    (used : ∀ pid ∈ world.used, pid ∈ after.used) : Lawful host after := by
  intro pid recorded
  have before : world.recorded host daemonPidPath = some pid := by
    rw [← recorded, World.recorded, World.recorded, World.entry, World.entry, files]
  obtain ⟨positive, fits, known⟩ := lawful pid before
  exact ⟨positive, fits, used pid known⟩

theorem Lawful.kept ⦃op : Op⦄ ⦃outcome : Except Failure (Reply op)⦄ ⦃world after : World⦄
    (unwritten : Unwritten op) (performed : Performs host caller world op outcome after)
    (lawful : Lawful host world) : Lawful host after := by
  cases performed with
  | unlinked path missingOk place done => exact lawful.remove place
  | written path text place owner opens => exact absurd rfl (unwritten path text)
  | emptied path text place owner opens => exact absurd rfl (unwritten path text)
  | created path place absent => exact lawful.empty (.inl (Host.spot_vacant absent)) caller.user
  | spawned command environ pid positive fits fresh =>
      exact lawful.frame rfl fun _ known => List.mem_cons_of_mem _ known
  | kill pid signal outcome after kills =>
      obtain ⟨files, -, used, -, -⟩ := kills.frame
      exact lawful.frame files fun _ known => used ▸ known
  | _ => exact lawful

/-- Calls that do not write keep the PID file lawful. -/
theorem Unwritten.lawful {α : Type} {body : Task α} (issues : body.Issues Unwritten) :
    Triple (hostMachine host) caller (Lawful host) (Lawful host) body (fun _ => Lawful host) fun _ => Lawful host :=
  Triple.invariant Lawful.keeps Lawful.kept issues

theorem Handles.unwritten {path : Path} {pid : Int} (op : Op) (handles : Handles path pid op) : Unwritten op := by
  intro _ _ same
  cases handles <;> cases same

theorem stopDaemon_unwritten (timeout : Rat) : (stopDaemon timeout).Issues Unwritten := by
  apply (stopDaemon_calls timeout).imp
  intro op handles
  obtain ⟨pid, handles⟩ := handles
  exact handles.unwritten

theorem isDaemonRunning_unwritten : isDaemonRunning.Issues Unwritten := by
  apply (readDaemonPid_calls.imp (@Handles.unwritten daemonPidPath 0)).bind
  intro recorded
  cases recorded with
  | none => trivial
  | some pid => exact processExists_calls.imp (@Handles.unwritten daemonPidPath pid)

theorem removeStale_unwritten : removeStale.Issues Unwritten := by
  apply (Issues.perform (by simp [Unwritten])).bind
  intro recorded
  cases recorded with
  | true => exact Issues.perform (by simp [Unwritten])
  | false => trivial

/-- A new daemon is recorded under its own process id. -/
theorem spawnDaemon_lawful (launch : Launch) :
    Triple (hostMachine host) caller (Lawful host) (Lawful host) (spawnDaemon launch) (fun _ => Lawful host)
      fun _ => Lawful host := by
  have opens : Triple (hostMachine host) caller (Lawful host) (Lawful host)
      (perform (Op.openLog daemonLogPath) : Task Unit) (fun _ => Lawful host) fun _ => Lawful host :=
    Unwritten.lawful (Issues.perform (by simp [Unwritten]))
  have changes : Triple (hostMachine host) caller (Lawful host) (Lawful host)
      (perform (Op.chmod daemonPidPath 0o644) : Task Unit) (fun _ => Lawful host) fun _ => Lawful host :=
    Unwritten.lawful (Issues.perform (by simp [Unwritten]))
  let Known (pid : Int) (world : World) : Prop := Lawful host world ∧ 0 < pid ∧ Fits pid ∧ pid ∈ world.used
  have knownKept (pid : Int) : (hostMachine host).Keeps (Known pid) := by
    intro world after occurs here
    refine ⟨Lawful.keeps occurs here.1, here.2.1, here.2.2.1, ?_⟩
    cases occurs <;> exact here.2.2.2
  have spawns (command : List String) (environ : List (String × String)) :
      Triple (hostMachine host) caller (Lawful host) (Lawful host)
        (perform (Op.popen command environ) : Task Int) Known fun _ => Lawful host := by
    apply Triple.perform Lawful.keeps
    · intro _ lawful
      exact lawful
    · intro pid world after lawful performed
      have lawful' := Lawful.kept (by simp [Unwritten]) performed lawful
      cases performed with
      | spawned _ _ _ positive fits fresh => exact ⟨lawful', positive, fits, List.mem_cons_self⟩
    · intro failure world after lawful performed
      exact Lawful.kept (by simp [Unwritten]) performed lawful
    · exact knownKept
    · intro _
      exact Lawful.keeps
    · intro _ _ here
      exact here.1
    · intro _ _ lawful
      exact lawful
  have writes (pid : Int) : Triple (hostMachine host) caller (Lawful host) (Known pid)
      (perform (Op.writeText daemonPidPath (toString pid ++ "\n")) : Task Unit) (fun _ => Lawful host)
      fun _ => Lawful host := by
    apply Triple.perform (knownKept pid)
    · intro _ here
      exact here.1
    · intro _ world after here performed
      obtain ⟨lawful, positive, fits, known⟩ := here
      cases performed with
      | written _ _ place owner opens =>
          intro other recorded
          rcases World.recorded_put (Host.opens_plain opens) recorded with before | written
          · exact lawful other before
          · obtain rfl := readInt_written positive fits written
            exact ⟨positive, fits, known⟩
      | swallowed => exact lawful
    · intro failure world after here performed
      cases performed with
      | notWritten => exact here.1
      | stuckWriting => exact here.1
      | emptied _ _ place owner opens => exact here.1.empty (Host.opens_plain opens) owner
    · intro _
      exact Lawful.keeps
    · intro _
      exact Lawful.keeps
    · intro _ _ lawful
      exact lawful
    · intro _ _ lawful
      exact lawful
  apply opens.bind
  intro _
  apply (spawns _ _).bind
  intro pid
  apply (writes pid).bind
  intro _
  apply changes.bind
  intro _
  exact Unwritten.lawful trivial

theorem startDaemon_lawful (launch : Launch) :
    Triple (hostMachine host) caller (Lawful host) (Lawful host) (startDaemon launch) (fun _ => Lawful host)
      fun _ => Lawful host := by
  apply (Unwritten.lawful isDaemonRunning_unwritten).bind
  intro running
  cases running with
  | true =>
      apply Unwritten.lawful
      apply (readDaemonPid_calls.imp (@Handles.unwritten daemonPidPath 0)).bind
      intro _
      trivial
  | false =>
      apply (Unwritten.lawful removeStale_unwritten).bind
      intro _
      exact spawnDaemon_lawful launch

/-- In every world that is reached, the PID file records nothing or a process there has been. -/
theorem Reached.lawful {world : World} (reached : Reached host world) : Lawful host world := by
  induction reached with
  | initial world unrecorded =>
      intro pid recorded
      rw [unrecorded] at recorded
      cases recorded
  | start caller launch _ leads ih => exact (startDaemon_lawful launch ih leads).1
  | stop caller timeout _ leads ih => exact (Unwritten.lawful (stopDaemon_unwritten timeout) ih leads).1

end CodaNode.Posix
