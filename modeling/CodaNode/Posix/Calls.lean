/-
Module: CodaNode.Posix.Calls
Layer: Posix
Purpose: Which calls the functions make. All that is done about a background process concerns one PID file,
  and behind its reading one process id.
Imports: CodaNode.Coroutine.Triple, CodaNode.Posix.Daemon
Main exports: Handles, processExists_calls, endProcess_calls, stopProcess_calls,
  stopDaemon_calls, signalOpenvpn_calls, killOpenvpnDaemon_calls
-/
import CodaNode.Coroutine.Triple
import CodaNode.Posix.Daemon

namespace CodaNode.Posix

open Coroutine Coro
open CodaNode.Node (openvpnPidPath)

/-- The calls about one process and its PID file. -/
inductive Handles (path : Path) (pid : Int) : Op → Prop where
  | pathExists : Handles path pid (.pathExists path)
  | readText : Handles path pid (.readText path)
  | unlink (missingOk : Bool) : Handles path pid (.unlink path missingOk)
  | kill (signal : Signal) : Handles path pid (.kill pid signal)
  | monotonic : Handles path pid .monotonic
  | sleep (seconds : Rat) : Handles path pid (.sleep seconds)

variable {path : Path} {pid : Int}

theorem readInt_calls : (readInt path).Issues (Handles path pid) := by
  apply (Issues.perform .readText).bind
  intro text
  cases parsePid text <;> trivial

theorem readDaemonPid_calls : readDaemonPid.Issues (Handles daemonPidPath pid) := by
  apply (Issues.perform .pathExists).bind
  intro recorded
  cases recorded with
  | true =>
      apply Issues.handle
      · apply readInt_calls.bind
        intro _
        trivial
      · intro _
        trivial
      · intro failure
        split <;> trivial
  | false => trivial

theorem processExists_calls : (processExists pid).Issues (Handles path pid) := by
  apply Issues.handle
  · apply (Issues.perform (.kill _)).bind
    intro _
    trivial
  · intro _
    trivial
  · intro failure
    split <;> trivial

theorem awaitExit_calls (deadline : Rat) (polls : Nat) :
    (awaitExit deadline pid polls).Issues (Handles path pid) := by
  induction polls with
  | zero => trivial
  | succ polls ih =>
      apply (Issues.perform .monotonic).bind
      intro now
      split
      · apply processExists_calls.bind
        intro alive
        split
        · apply (Issues.perform (.sleep _)).bind
          intro _
          exact ih
        · trivial
      · trivial

theorem forceKill_calls (exited : Bool) : (forceKill pid exited).Issues (Handles path pid) := by
  cases exited with
  | true => trivial
  | false =>
      apply (Issues.perform (.kill _)).bind
      intro _
      exact Issues.perform (.sleep _)

theorem discard_calls : (discard path).Issues (Handles path pid) := by
  apply (Issues.perform (.unlink _)).bind
  intro _
  trivial

theorem endProcess_calls (timeout : Rat) : (endProcess timeout pid).Issues (Handles daemonPidPath pid) := by
  apply (Issues.perform (.kill _)).bind
  intro _
  apply (Issues.perform .monotonic).bind
  intro began
  apply (awaitExit_calls _ _).bind
  intro exited
  apply (forceKill_calls exited).bind
  intro _
  apply (Issues.perform (.unlink _)).bind
  intro _
  trivial

/-- `stop_daemon` behind its reading of the PID file. -/
theorem stopProcess_calls (timeout : Rat) : (stopProcess timeout pid).Issues (Handles daemonPidPath pid) := by
  apply processExists_calls.bind
  intro alive
  split
  · apply (endProcess_calls timeout).handle
    · intro _
      trivial
    · intro failure
      split
      · exact discard_calls
      · trivial
  · exact discard_calls

theorem stopDaemon_calls (timeout : Rat) :
    (stopDaemon timeout).Issues fun op => ∃ pid, Handles daemonPidPath pid op := by
  have some_ (pid : Int) (op : Op) (handles : Handles daemonPidPath pid op) : ∃ pid, Handles daemonPidPath pid op :=
    ⟨pid, handles⟩
  apply (readDaemonPid_calls.imp (some_ 0)).bind
  intro recorded
  cases recorded with
  | none => trivial
  | some pid => exact (stopProcess_calls timeout).imp (some_ pid)

/-- `kill_openvpn_daemon` behind its reading of the PID file. -/
theorem signalOpenvpn_calls : (signalOpenvpn pid).Issues (Handles openvpnPidPath pid) := by
  apply (Issues.perform (.kill _)).bind
  intro _
  apply (Issues.perform (.unlink _)).bind
  intro _
  trivial

theorem tryEndOpenvpn_calls : tryEndOpenvpn.Issues fun op => ∃ pid, Handles openvpnPidPath pid op := by
  have some_ (pid : Int) (op : Op) (handles : Handles openvpnPidPath pid op) : ∃ pid, Handles openvpnPidPath pid op :=
    ⟨pid, handles⟩
  apply Issues.handle
  · apply (readInt_calls.imp (some_ 0)).bind
    intro pid
    exact signalOpenvpn_calls.imp (some_ pid)
  · intro _
    trivial
  · intro failure
    split
    · exact discard_calls.imp (some_ 0)
    · trivial

theorem killOpenvpnDaemon_calls : killOpenvpnDaemon.Issues fun op => ∃ pid, Handles openvpnPidPath pid op := by
  apply (Issues.perform ⟨0, .pathExists⟩).bind
  intro recorded
  cases recorded with
  | true => exact tryEndOpenvpn_calls
  | false => trivial

end CodaNode.Posix
