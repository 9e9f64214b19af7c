/-
Module: CodaNode.Posix.Daemon
Layer: Posix
Purpose: The functions that start and stop the background processes, over the calls of the machine. The
  loop that waits for an exit is written with the number of polls that fit into the timeout.
Imports: CodaNode.Python.Text, CodaNode.Posix.Host
Main exports: pidOf, readDaemonPid, processExists, isDaemonRunning, startDaemon, stopDaemon,
  killOpenvpnDaemon
-/
import CodaNode.Python.Text
import CodaNode.Posix.Host

namespace CodaNode.Posix

open Coroutine Coro
open CodaNode.Node (openvpnPidPath)

/-- `int(text.strip())`. -/
def pidOf (text : String) : Option Int := Python.int (String.ofList (Python.strip text.toList))

/-- The process id in the text of a PID file. -/
def parsePid (text : String) : Except Failure Int :=
  match pidOf text with
  | some pid => .ok pid
  | none => .error .valueError

/-- `int(path.read_text().strip())`. -/
def readInt (path : Path) : Task Int := do
  let text : String ← perform (Op.readText path)
  ofExcept (parsePid text)

/-- `read_daemon_pid`. [SRC daemon.py:36-48] -/
def readDaemonPid : Task (Option Int) := do
  let recorded : Bool ← perform (Op.pathExists daemonPidPath)
  if recorded then
    catching
      (do
        let pid ← readInt daemonPidPath
        return some pid)
      fun failure => if failure.isValueError ∨ failure.isOSError then return none else raise failure
  else return none

/-- `_process_exists`. [SRC daemon.py:51-58] -/
def processExists (pid : Int) : Task Bool :=
  catching
    (do
      perform (Op.kill pid .probe)
      return true)
    fun failure => if failure.isOSError then return false else raise failure

/-- `is_daemon_running`. [SRC daemon.py:61-71] -/
def isDaemonRunning : Task Bool := do
  match ← readDaemonPid with
  | none => return false
  | some pid => processExists pid

/-- `environ[key] = value`. -/
def setEnv (environ : List (String × String)) (key value : String) : List (String × String) :=
  environ.filter (·.1 ≠ key) ++ [(key, value)]

/-- What `str` makes of the process id in a message. -/
def showPid : Option Int → String
  | some pid => toString pid
  | none => "None"

/-- The environment of the daemon. [SRC daemon.py:127-132] -/
def daemonEnviron (environ : List (String × String)) (host : String) (port : Int) (token : Option String) :
    List (String × String) :=
  let located := setEnv (setEnv environ "CODA_HOST" host) "CODA_PORT" (toString port)
  match token with
  | some text => if text ≠ "" then setEnv located "CODA_NODE_TOKEN" text else located
  | none => located

/-- The command that runs the daemon. [SRC daemon.py:134-146] -/
def daemonCommand (executable host : String) (port : Int) : List String :=
  [executable, "-m", "uvicorn", "coda_node.server.app:app", "--host", host, "--port", toString port,
    "--log-level", "warning"]

/-- What `start_daemon` is called with, and what it finds in `os` and `sys`. -/
structure Launch where
  environ : List (String × String)
  executable : String
  host : String
  port : Int
  token : Option String

/-- The daemon is spawned and recorded. [SRC daemon.py:148-184] -/
def spawnDaemon (launch : Launch) : Task Int := do
  perform (Op.openLog daemonLogPath)
  let pid : Int ← perform (Op.popen (daemonCommand launch.executable launch.host launch.port)
    (daemonEnviron launch.environ launch.host launch.port launch.token))
  perform (Op.writeText daemonPidPath (toString pid ++ "\n"))
  perform (Op.chmod daemonPidPath 0o644)
  return pid

/-- A PID file whose process is gone is removed. [SRC daemon.py:123-125] -/
def removeStale : Task Unit := do
  let recorded : Bool ← perform (Op.pathExists daemonPidPath)
  if recorded then
    perform (Op.unlink daemonPidPath false)
  else return

/-- `start_daemon`. [SRC daemon.py:119-184] -/
def startDaemon (launch : Launch) : Task Int := do
  let running ← isDaemonRunning
  if running then
    let pid ← readDaemonPid
    raise (.runtimeError ("Daemon already running (PID " ++ showPid pid ++ ")"))
  else
    removeStale
    spawnDaemon launch

/-- The loop that waits for the process to exit, and whether it was left by `break`.
[SRC daemon.py:224-229] -/
def awaitExit (deadline : Rat) (pid : Int) : Nat → Task Bool
  | 0 => raise .outOfFuel
  | polls + 1 => do
      let now : Rat ← perform Op.monotonic
      if now < deadline then
        let exists_ ← processExists pid
        if exists_ then
          perform (Op.sleep (1 / 10))
          awaitExit deadline pid polls
        else return true
      else return false

/-- How often the loop can come to its condition. -/
def pollLimit (timeout : Rat) : Nat := (10 * timeout).ceil.toNat + 1

/-- `SIGKILL`, when the loop ended at its deadline. [SRC daemon.py:230-235] -/
def forceKill (pid : Int) (exited : Bool) : Task Unit :=
  if exited then return
  else do
    perform (Op.kill pid .kill)
    perform (Op.sleep (1 / 2))

/-- The body of the `try` in `stop_daemon`. [SRC daemon.py:220-238] -/
def endProcess (timeout : Rat) (pid : Int) : Task Bool := do
  perform (Op.kill pid .term)
  let began : Rat ← perform Op.monotonic
  let exited ← awaitExit (began + timeout) pid (pollLimit timeout)
  forceKill pid exited
  perform (Op.unlink daemonPidPath true)
  return true

/-- A PID file goes, and nothing was stopped. -/
def discard (path : Path) : Task Bool := do
  perform (Op.unlink path true)
  return false

/-- `stop_daemon` behind its reading of the PID file. [SRC daemon.py:201-242] -/
def stopProcess (timeout : Rat) (pid : Int) : Task Bool := do
  let exists_ ← processExists pid
  if exists_ then
    catching (endProcess timeout pid) fun failure =>
      if failure = .permissionError ∨ failure = .processLookupError then discard daemonPidPath
      else raise failure
  -- Stale PID file, clean up
  else discard daemonPidPath

/-- `stop_daemon`. [SRC daemon.py:187-242] -/
def stopDaemon (timeout : Rat) : Task Bool := do
  match ← readDaemonPid with
  | none => return false
  | some pid => stopProcess timeout pid

/-- The process is signalled, and its PID file goes. [SRC service.py:242-244] -/
def signalOpenvpn (pid : Int) : Task Bool := do
  perform (Op.kill pid .term)
  perform (Op.unlink openvpnPidPath true)
  return true

/-- The body of the `try` in `kill_openvpn_daemon`. [SRC service.py:231-244] -/
def endOpenvpn : Task Bool := do
  let pid ← readInt openvpnPidPath
  signalOpenvpn pid

/-- The `try` in `kill_openvpn_daemon`. [SRC service.py:231-248] -/
def tryEndOpenvpn : Task Bool :=
  catching endOpenvpn fun failure =>
    if failure = .permissionError ∨ failure = .processLookupError ∨ failure.isValueError then
      discard openvpnPidPath
    else raise failure

/-- `kill_openvpn_daemon`. [SRC service.py:219-248] -/
def killOpenvpnDaemon : Task Bool := do
  let recorded : Bool ← perform (Op.pathExists openvpnPidPath)
  if recorded then tryEndOpenvpn else return false

end CodaNode.Posix
