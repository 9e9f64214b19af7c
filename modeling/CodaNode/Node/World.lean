/-
Module: CodaNode.Node.World
Layer: Node
Purpose: What provisioning acts on: the settings object, the files, the OpenVPN daemons that run, and the
  operations between two suspensions with all their outcomes. An operation in a thread can be cancelled
  from outside; the thread then goes on, so its effect may still take place. `kill_openvpn_daemon` is the
  function of the command line, run on these files and daemons. The daemons the call has started and the ones
  it has killed are recorded.
Imports: CodaNode.Node.Bundle, CodaNode.Node.PostConnect, CodaNode.Node.Profile, CodaNode.Coroutine.Pool,
  CodaNode.Posix.Daemon, CodaNode.Python.JsonRoundTrip
Main exports: World, Op, Site, postConnect, Calls, killMachine, Performs, Occurs, nodeMachine
-/
import CodaNode.Node.Bundle
import CodaNode.Node.PostConnect
import CodaNode.Node.Profile
import CodaNode.Coroutine.Pool
import CodaNode.Posix.Daemon
import CodaNode.Python.JsonRoundTrip

namespace CodaNode.Node

open Coroutine
open Python (Json)

/-- The state around a call of `connect_settings`. -/
structure World where
  settings : Settings
  files : Files
  running : List Nat := []
  started : List Nat := []
  killed : List Nat := []

/-- What the code cannot decide by itself: the runtime and the name of the machine, its own process group and the ones
of the daemons, and which daemons it may signal. Usually a daemon leads a group of its own. -/
structure Site where
  runtime : Runtime
  machineFingerprint : String
  group : Int := 4242
  groupOf : Nat → Int := fun daemon => daemon
  maySignal : Nat → Bool := fun _ => true

/-- The operations. -/
inductive Op where
  | settings
  | resolveMachineFingerprint
  | connectivity
  | signToken
  | postConnect (authHeader : String) (payload : Value)
  | applyFields (bundle : Value)
  | pathExists (path : String)
  | writeVpnProfile (path profile : String)
  | detectTunInterface (hint : Value)
  | startOpenvpn (profilePath : String)
  | monotonic
  | sleep (seconds : Rat)
  | readOpenvpnLogTail
  | killOpenvpnDaemon
  | openForWriting (path : String)
  | writeText (path content : String)
  | chmod (path : String)
  | forever

/-- The types of what they return. -/
def Reply : Op → Type
  | .settings => Settings
  | .resolveMachineFingerprint => Value
  | .connectivity => Option Value
  | .signToken => String
  | .postConnect _ _ => Value
  | .applyFields _ => Option String
  | .pathExists _ => Bool
  | .detectTunInterface _ => Option String
  | .monotonic => Rat
  | .readOpenvpnLogTail => String
  | .killOpenvpnDaemon => Bool
  | .forever => Empty
  | _ => Unit

/-! ### The connect request -/

/-- `_post_connect`, given how every attempt goes. [SRC service.py:298-363] -/
def postConnect (exchange : Nat → Attempt) (settings : Settings) : Except Failure Value :=
  match settings .nodeConnectRetries with
  | .int maxRetries => (postConnectWith exchange maxRetries).2
  | _ => .error (.other "the number of retries is no number")

/-! ### The daemon -/

/-- The daemon is among the processes that a process id addresses: 0 stands for the own group, -1 for every process,
and any other negative number for a group. -/
def Site.addresses (site : Site) (pid : Int) (daemon : Nat) : Bool :=
  if 0 < pid then (daemon : Int) = pid
  else if pid = 0 then site.groupOf daemon = site.group
  else if pid = -1 then true
  else site.groupOf daemon = -pid

/-- A signal to the process id reaches the daemon. -/
def Site.reaches (site : Site) (pid : Int) (daemon : Nat) : Bool :=
  site.addresses pid daemon && site.maySignal daemon

/-- `path.read_text()` as the functions of the command line find it. -/
def File.found (file : File) : Except Posix.Failure String :=
  match file.readText with
  | .ok text => .ok text
  | .error _ => .error .unicodeDecodeError

/-- The process id in the PID file. -/
def recordedPid (files : Files) : Option Int :=
  match files openvpnPidPath with
  | some file =>
      match file.found with
      | .ok text => Posix.pidOf text
      | .error _ => none
  | none => none

/-- The files without the one at a path. -/
def Files.unlink (files : Files) (path : String) : Files :=
  fun other => if other = path then none else files other

/-- A signal has ended the daemons it reaches. -/
def World.signalled (world : World) (reached : Nat → Bool) : World :=
  { world with
    running := world.running.filter (!reached ·)
    killed := world.running.filter reached ++ world.killed }

/-- The calls of `kill_openvpn_daemon`. The PID file may be out of reach, a signal that reaches no daemon may reach
another process or none, and the node itself does not end by its own signal. -/
inductive Calls (site : Site) : World → (op : Posix.Op) → Except Posix.Failure (Posix.Reply op) → World → Prop where
  | pathExists (world : World) :
      Calls site world (.pathExists openvpnPidPath) (.ok (world.files openvpnPidPath).isSome) world
  | notAsked (world : World) (failure : Posix.Failure) (os : failure.isOSError = true) :
      Calls site world (.pathExists openvpnPidPath) (.error failure) world
  | readText (world : World) (file : File) (present : world.files openvpnPidPath = some file) :
      Calls site world (.readText openvpnPidPath) file.found world
  | notRead (world : World) (failure : Posix.Failure) (os : failure.isOSError = true) :
      Calls site world (.readText openvpnPidPath) (.error failure) world
  | unlinked (world : World) (missingOk : Bool) :
      Calls site world (.unlink openvpnPidPath missingOk) (.ok ())
        { world with files := world.files.unlink openvpnPidPath }
  | notUnlinked (world : World) (missingOk : Bool) (failure : Posix.Failure) (os : failure.isOSError = true) :
      Calls site world (.unlink openvpnPidPath missingOk) (.error failure) world
  | signalled (world : World) (pid : Int) (fits : Posix.Fits pid) :
      Calls site world (.kill pid .term) (.ok ()) (world.signalled (site.reaches pid))
  | missed (world : World) (pid : Int) (failure : Posix.Failure) (fits : Posix.Fits pid)
      (unreached : ∀ daemon ∈ world.running, site.reaches pid daemon = false)
      (reason : failure = .permissionError ∨ failure = .processLookupError) :
      Calls site world (.kill pid .term) (.error failure) world
  | large (world : World) (pid : Int) (large : ¬ Posix.Fits pid) :
      Calls site world (.kill pid .term) (.error .overflowError) world

/-- `kill_openvpn_daemon` runs without a suspension. [SRC service.py:219-248] -/
def killMachine (site : Site) : Machine Posix.Reply Posix.Failure World Unit where
  perform _ := Calls site
  spawns _ _ := []
  env _ _ := False
  isLocal _ := false

/-- An exception of `kill_openvpn_daemon`. -/
def raisedBy (message : String) (failure : Posix.Failure) : Failure :=
  if failure.isOSError then .os message else .other message

/-- The state behind a program on the settings object. -/
def World.run {α : Type} (world : World) (program : Files → Action α) : Except Failure α × World :=
  match program world.files world.settings with
  | .ok value settings => (.ok value, { world with settings := settings })
  | .error failure settings => (.error failure, { world with settings := settings })

/-- The file holds no more than a part of the text. -/
def PartOf (content : String) (file : File) : Prop :=
  ∀ text, file.text = some text → text.toList <+: content.toList

/-- The file is no more than a part of the text; its mode is the one the file there had, or has been
changed. -/
structure Rewritten (older : Option File) (content : String) (file : File) : Prop where
  part : PartOf content file
  mode : ∀ previous, older = some previous → file.mode = previous.mode ∨ file.mode = ownerOnly

/-- What a thread that persists the settings may have written when nobody waits for it any more. -/
structure Persisting (runtime : Runtime) (world : World) (files : Files) : Prop where
  others : ∀ path, path ≠ persistedConfigPath → path ≠ persistedPrivateKeyPath →
    files path = world.files path
  config : files persistedConfigPath = world.files persistedConfigPath ∨
    Json.dumpable (.dict (persistedEntries world.settings)) ∧ ∃ file, files persistedConfigPath = some file ∧
      Rewritten (world.files persistedConfigPath) (persistedConfigText runtime world.settings) file
  key : files persistedPrivateKeyPath = world.files persistedPrivateKeyPath ∨
    ∃ file, files persistedPrivateKeyPath = some file ∧
      Rewritten (world.files persistedPrivateKeyPath) (textOf (world.settings .jwtPrivateKey)) file

variable (site : Site)

/-- The outcomes of the operations. -/
inductive Performs : World → (op : Op) → Except Failure (Reply op) → World → Prop where
  | settings (world : World) : Performs world .settings (.ok world.settings) world
  | resolveMachineFingerprint (world : World) :
      Performs world .resolveMachineFingerprint
        (world.run fun files => Node.resolveMachineFingerprint site.runtime files site.machineFingerprint).1
        (world.run fun files => Node.resolveMachineFingerprint site.runtime files site.machineFingerprint).2
  | connectivity (world : World) (found : Option Value) : Performs world .connectivity (.ok found) world
  | signed (world : World) (token : String) : Performs world .signToken (.ok token) world
  | unsigned (world : World) (message : String) :
      Performs world .signToken (.error (.other message)) world
  | postConnect (world : World) (authHeader : String) (payload : Value) (exchange : Nat → Attempt) :
      Performs world (.postConnect authHeader payload) (Node.postConnect exchange world.settings) world
  | applyFields (world : World) (bundle : Value) :
      Performs world (.applyFields bundle)
        (world.run fun files => Node.applyFields site.runtime files bundle).1
        (world.run fun files => Node.applyFields site.runtime files bundle).2
  | pathExists (world : World) (path : String) :
      Performs world (.pathExists path) (.ok (world.files path).isSome) world
  | profileRefused (world : World) (path profile message : String)
      (refused : validateVpnProfile profile = .error message) :
      Performs world (.writeVpnProfile path profile) (.error (.forbiddenDirective message)) world
  | profileWritten (world : World) (path profile : String) (accepted : validateVpnProfile profile = .ok ()) :
      Performs world (.writeVpnProfile path profile) (.ok ())
        { world with files := world.files.put path ⟨some (vpnProfileText profile), ownerOnly⟩ }
  | profileFailed (world : World) (path profile : String) (failure : Failure) (file : Option File) :
      Performs world (.writeVpnProfile path profile) (.error failure)
        { world with files := fun other => if other = path then file else world.files other }
  | detected (world : World) (hint : Value) (interface : Option String) :
      Performs world (.detectTunInterface hint) (.ok interface) world
  | undetected (world : World) (hint : Value) (failure : Failure) :
      Performs world (.detectTunInterface hint) (.error failure) world
  | started (world : World) (profilePath : String) (pid : Nat) (fresh : pid ∉ world.running)
      (foreign : pid ∉ world.killed) :
      Performs world (.startOpenvpn profilePath) (.ok ())
        { world with
          files := world.files.put openvpnPidPath ⟨some (toString pid ++ "\n"), 0o644⟩
          running := pid :: world.running
          started := pid :: world.started }
  | notStarted (world : World) (profilePath : String) (failure : Failure) :
      Performs world (.startOpenvpn profilePath) (.error failure) world
  | startedUnattended (world : World) (profilePath : String) (pid : Nat) (fresh : pid ∉ world.running)
      (foreign : pid ∉ world.killed) :
      Performs world (.startOpenvpn profilePath) (.error .cancelled)
        { world with
          files := world.files.put openvpnPidPath ⟨some (toString pid ++ "\n"), 0o644⟩
          running := pid :: world.running
          started := pid :: world.started }
  | monotonic (world : World) (now : Rat) : Performs world .monotonic (.ok now) world
  | slept (world : World) (seconds : Rat) : Performs world (.sleep seconds) (.ok ()) world
  | logTail (world : World) (tail : String) : Performs world .readOpenvpnLogTail (.ok tail) world
  | noLogTail (world : World) (message : String) :
      Performs world .readOpenvpnLogTail (.error (.other message)) world
  | killOpenvpnDaemon (world after : World) (outcome : Except Posix.Failure Bool) (message : String)
      (runs : Coro.Leads (killMachine site) () world Posix.killOpenvpnDaemon after
        (Coro.resumeWith .ret .raise outcome)) :
      Performs world .killOpenvpnDaemon (outcome.mapError (raisedBy message)) after
  | opened (world : World) (path : String) (mode : Nat)
      (kept : ∀ file, world.files path = some file → mode = file.mode) :
      Performs world (.openForWriting path) (.ok ()) { world with files := world.files.put path ⟨some "", mode⟩ }
  | notOpened (world : World) (path message : String) :
      Performs world (.openForWriting path) (.error (.os message)) world
  | written (world : World) (path content : String) (mode : Nat)
      (kept : ∀ file, world.files path = some file → mode = file.mode) :
      Performs world (.writeText path content) (.ok ())
        { world with files := world.files.put path ⟨some content, mode⟩ }
  | partlyWritten (world : World) (path content message : String) (file : File)
      (part : PartOf content file) (kept : ∀ older, world.files path = some older → file.mode = older.mode) :
      Performs world (.writeText path content) (.error (.os message))
        { world with files := world.files.put path file }
  | changedMode (world : World) (path : String) (file : File) (present : world.files path = some file) :
      Performs world (.chmod path) (.ok ())
        { world with files := world.files.put path { file with mode := ownerOnly } }
  | notChangedMode (world : World) (path message : String) :
      Performs world (.chmod path) (.error (.os message)) world
  | postCancelled (world : World) (authHeader : String) (payload : Value) :
      Performs world (.postConnect authHeader payload) (.error .cancelled) world
  | sleepCancelled (world : World) (seconds : Rat) : Performs world (.sleep seconds) (.error .cancelled) world
  | openCancelled (world : World) (path : String) (files : Files)
      (persisting : Persisting site.runtime world files) :
      Performs world (.openForWriting path) (.error .cancelled) { world with files := files }
  | writeCancelled (world : World) (path content : String) (files : Files)
      (persisting : Persisting site.runtime world files) :
      Performs world (.writeText path content) (.error .cancelled) { world with files := files }
  | chmodCancelled (world : World) (path : String) (files : Files)
      (persisting : Persisting site.runtime world files) :
      Performs world (.chmod path) (.error .cancelled) { world with files := files }

/-- What may happen around the call: daemons come and go, and files change that are not the node's own. -/
structure Occurs (world after : World) : Prop where
  settings : after.settings = world.settings
  started : after.started = world.started
  killed : after.killed = world.killed
  config : after.files persistedConfigPath = world.files persistedConfigPath
  key : after.files persistedPrivateKeyPath = world.files persistedPrivateKeyPath
  loaded : loadPersistedRuntimeConfig site.runtime after.files =
    loadPersistedRuntimeConfig site.runtime world.files
  running : ∀ pid ∈ after.running, pid ∈ world.running ∨ pid ∉ world.started

/-- Provisioning as a machine with one task. -/
def nodeMachine : Machine Reply Failure World Unit where
  perform _ := Performs site
  spawns _ _ := []
  env := Occurs site
  isLocal _ := false

end CodaNode.Node
