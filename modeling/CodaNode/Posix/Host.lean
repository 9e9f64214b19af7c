/-
Module: CodaNode.Posix.Host
Layer: Posix
Purpose: The machine under the command line: its tree of files, its processes and its clock, and what the calls
  of the standard library answer. A caller has a user, a process and a process group. What a file may
  contain, who may remove it, which directories may be searched and what can be printed is left open.
  Processes may exit between any two calls.
Imports: CodaNode.Coroutine.Triple, CodaNode.Node.Config, CodaNode.Unix.Tree
Main exports: Path, Entry, World, Host, Caller, Failure, Op, Performs, Occurs, hostMachine, kill_answered,
  Performs.answers
-/
import CodaNode.Coroutine.Triple
import CodaNode.Node.Config
import CodaNode.Unix.Tree

namespace CodaNode.Posix

open Coroutine Coro
open Unix (Inode Place Spot)

/-! ### Paths -/

/-- `str(path)` in code points. A text that JSON has brought may hold lone surrogates. -/
structure Path where
  points : List Nat
deriving DecidableEq

/-- The code points of a text. -/
def pointsOf (text : String) : List Nat := text.toList.map Char.toNat

def Path.of (text : String) : Path := ⟨pointsOf text⟩

instance : Coe String Path := ⟨Path.of⟩

/-- The name the system is given. A text without an encoding, or with a null character, is refused with a `ValueError`
before that. -/
def Path.bytes (path : Path) : Option (List Nat) :=
  if 0 ∈ path.points then none else Python.fsencode path.points

/-- `OPENVPN_LOG_PATH`. [SRC service.py:67] -/
def openvpnLogPath : Path := "/tmp/coda-node-openvpn.log"

/-- `DAEMON_PID_PATH`. [SRC daemon.py:32] -/
def daemonPidPath : Path := "/tmp/coda-node.pid"

/-- `DAEMON_LOG_PATH`. [SRC daemon.py:33] -/
def daemonLogPath : Path := "/tmp/coda-node.log"

/-! ### Files -/

/-- What `read_text` finds in a file: a text, bytes that are no UTF-8, no permission, another error of the system,
or a pipe that nobody writes to. -/
inductive Content where
  | text (text : String)
  | undecodable
  | unreadable
  | broken
  | silent
deriving DecidableEq

/-- What a path leads to. A path that is twisted runs through a file or through too many links, the way of a barred
one may not be searched, and a nameless one cannot be given to the system. -/
inductive Entry where
  | nothing
  | regular (content : Content) (owner : Nat)
  | special (content : Content) (owner : Nat)
  | directory
  | twisted
  | barred
  | overlong
  | nameless
deriving DecidableEq

/-! ### Exceptions -/

/-- The exceptions that matter here. `terminated` is the end of the calling process by a signal, `blocked` a call
that does not return, and `outOfFuel` the end of the number of polls that the model foresees. -/
inductive Failure where
  | permissionError
  | processLookupError
  | fileNotFoundError
  | isADirectoryError
  | osError
  | valueError
  | unicodeDecodeError
  | unicodeEncodeError
  | jsonDecodeError
  | overflowError
  | recursionError
  | runtimeError (message : String)
  | terminated
  | blocked
  | outOfFuel
deriving DecidableEq

/-- `isinstance(failure, OSError)`. -/
def Failure.isOSError : Failure → Bool
  | .permissionError | .processLookupError | .fileNotFoundError | .isADirectoryError | .osError => true
  | _ => false

/-- `isinstance(failure, ValueError)`. -/
def Failure.isValueError : Failure → Bool
  | .valueError | .unicodeDecodeError | .unicodeEncodeError | .jsonDecodeError => true
  | _ => false

/-- `Path.exists`: links are followed, and what leads nowhere does not exist. Other errors of the system are
raised. -/
def Entry.exists : Entry → Except Failure Bool
  | .nothing | .twisted | .nameless => .ok false
  | .regular _ _ | .special _ _ | .directory => .ok true
  | .barred => .error .permissionError
  | .overlong => .error .osError

/-- What reading a file comes to. The text mode reads every line end as a line feed. -/
def Content.read : Content → Except Failure String
  | .text found => .ok (String.ofList (Python.universalNewlines found.toList))
  | .undecodable => .error .unicodeDecodeError
  | .unreadable => .error .permissionError
  | .broken => .error .osError
  | .silent => .error .blocked

/-- `Path.read_text`. -/
def Entry.readText : Entry → Except Failure String
  | .nothing => .error .fileNotFoundError
  | .regular content _ | .special content _ => content.read
  | .directory => .error .isADirectoryError
  | .twisted | .overlong => .error .osError
  | .barred => .error .permissionError
  | .nameless => .error .valueError

/-! ### Processes -/

/-- The signals the code sends; `probe` is signal 0. -/
inductive Signal where
  | probe
  | term
  | kill
deriving DecidableEq

/-- What is recorded about processes. A signal is recorded with whether its process was alive. -/
inductive Event where
  | signalled (pid : Int) (signal : Signal) (alive : Bool)
  | spawned (pid : Int)
  | exited (pid : Int)
deriving DecidableEq

/-- The state of the machine. `used` are all process ids there have been, `doomed` those that were sent
`SIGKILL`. -/
structure World where
  files : Unix.Tree Content
  live : List Int
  used : List Int
  owner : Int → Nat
  doomed : List Int
  now : Rat
  log : List Event

/-- Who calls. -/
structure Caller where
  user : Nat
  pid : Int
  group : Int

/-- A JSON value as far as a reset looks at it: an object, with the texts at its keys, or something else. -/
inductive Document where
  | object (text : String → Option (List Nat))
  | other

/-- What is left open about the machine: the reader of JSON, how paths are walked, which user may remove the entry
of which owner, and which code points can be printed. ASCII can. -/
structure Host where
  loads : String → Except Failure Document
  rules : Unix.Rules
  mayRemove : Nat → Place → Nat → Bool
  printable : Nat → Bool
  ascii : ∀ point < 128, printable point = true

/-- The process id fits the C type of the system call, a signed integer of 32 bits. -/
def Fits (pid : Int) : Prop := -2147483648 ≤ pid ∧ pid < 2147483648

instance : DecidablePred Fits := fun _ => inferInstanceAs (Decidable (_ ∧ _))

/-- The caller is among the processes the id addresses. With -1 it signals every process but itself. -/
def Caller.Addresses (caller : Caller) (pid : Int) : Prop :=
  pid = 0 ∨ pid = caller.pid ∨ pid ≠ -1 ∧ pid = -caller.group

instance (caller : Caller) : DecidablePred caller.Addresses := fun _ => inferInstanceAs (Decidable (_ ∨ _))

/-- The caller may signal a process: it is the superuser or owns it. -/
def Caller.MaySignal (caller : Caller) (world : World) (pid : Int) : Prop :=
  caller.user = 0 ∨ caller.user = world.owner pid

instance (caller : Caller) (world : World) : DecidablePred (caller.MaySignal world) :=
  fun _ => inferInstanceAs (Decidable (_ ∨ _))

namespace World

/-- A regular file is written. -/
def put (world : World) (place : Place) (content : Content) (owner : Nat) : World :=
  { world with files := world.files.put place content owner }

/-- An entry is removed. -/
def remove (world : World) (place : Place) : World := { world with files := world.files.without place }

def record (world : World) (event : Event) : World := { world with log := world.log ++ [event] }

/-- A signal has been sent. -/
def sent (world : World) (pid : Int) (signal : Signal) : World :=
  world.record (.signalled pid signal (decide (pid ∈ world.live)))

/-- A process has exited. -/
def exit (world : World) (pid : Int) : World :=
  { world with live := world.live.filter (· ≠ pid) }.record (.exited pid)

/-- A process of the user has started. -/
def spawn (world : World) (user : Nat) (pid : Int) : World :=
  { world with
    live := pid :: world.live
    used := pid :: world.used
    owner := fun other => if other = pid then user else world.owner other }.record (.spawned pid)

end World

/-- Where a path leads, when it has a name. -/
def Host.spot (host : Host) (files : Unix.Tree Content) (follow : Bool) (path : Path) : Option Spot :=
  path.bytes.map (host.rules.spot files follow)

/-- What a path leads to in a tree. -/
def Host.entry (host : Host) (files : Unix.Tree Content) (path : Path) : Entry :=
  match host.spot files true path with
  | none => .nameless
  | some (.entry place) =>
      match files place with
      | some (.regular content owner) => .regular content owner
      | some (.special content owner) => .special content owner
      | _ => .nothing
  | some .directory => .directory
  | some (.vacant _) | some .lost => .nothing
  | some .twisted => .twisted
  | some .barred => .barred
  | some .overlong => .overlong

/-- What a path leads to. -/
def World.entry (world : World) (host : Host) (path : Path) : Entry := host.entry world.files path

/-- The owner of an entry. -/
def ownerOf : Inode Content → Nat
  | .regular _ owner | .special _ owner | .link _ owner => owner
  | .directory => 0

/-- `Path.unlink(missing_ok=missing_ok)`: the entry that is removed, if there is one. A link is removed itself. -/
def Host.unlink (host : Host) (user : Nat) (files : Unix.Tree Content) (missingOk : Bool) (path : Path) :
    Except Failure (Option Place) :=
  match host.spot files false path with
  | none => .error .valueError
  | some (.entry place) =>
      if host.mayRemove user place (((files place).map ownerOf).getD 0) then .ok (some place)
      else .error .permissionError
  | some .directory => .error .isADirectoryError
  | some (.vacant _) | some .lost => if missingOk then .ok none else .error .fileNotFoundError
  | some .twisted | some .overlong => .error .osError
  | some .barred => .error .permissionError

/-- The regular file that is opened for writing, or the place where one is made, with its owner. -/
def Host.opens (host : Host) (user : Nat) (files : Unix.Tree Content) (path : Path) : Option (Place × Nat) :=
  match host.spot files true path with
  | some (.entry place) =>
      match files place with
      | some (.regular _ owner) => some (place, owner)
      | _ => none
  | some (.vacant place) => some (place, user)
  | _ => none

/-! ### Operations -/

/-- The calls of the standard library. -/
inductive Op where
  | pathExists (path : Path)
  | readText (path : Path)
  | unlink (path : Path) (missingOk : Bool)
  | writeText (path : Path) (text : String)
  | chmod (path : Path) (mode : Nat)
  | openLog (path : Path)
  | popen (command : List String) (environ : List (String × String))
  | kill (pid : Int) (signal : Signal)
  | monotonic
  | sleep (seconds : Rat)
  | print (text : List Nat)

/-- The types of what they return. -/
def Reply : Op → Type
  | .pathExists _ => Bool
  | .readText _ => String
  | .popen _ _ => Int
  | .monotonic => Rat
  | _ => Unit

abbrev Task : Type → Type := Coro Reply Failure

variable (host : Host) (caller : Caller)

/-- The outcomes of `os.kill`. What a process group does is left open. -/
inductive Kills (world : World) (pid : Int) (signal : Signal) : Except Failure Unit → World → Prop where
  | large (large : ¬ Fits pid) : Kills world pid signal (.error .overflowError) (world.sent pid signal)
  | ownProbe (fits : Fits pid) (own : caller.Addresses pid) (probe : signal = .probe) :
      Kills world pid signal (.ok ()) (world.sent pid signal)
  | own (fits : Fits pid) (own : caller.Addresses pid) (deadly : signal ≠ .probe) :
      Kills world pid signal (.error .terminated) (world.sent pid signal)
  | accepted (fits : Fits pid) (other : ¬ caller.Addresses pid) (process : 0 < pid) (alive : pid ∈ world.live)
      (permitted : caller.MaySignal world pid) (mild : signal ≠ .kill) :
      Kills world pid signal (.ok ()) (world.sent pid signal)
  | doomed (fits : Fits pid) (other : ¬ caller.Addresses pid) (process : 0 < pid) (alive : pid ∈ world.live)
      (permitted : caller.MaySignal world pid) (deadly : signal = .kill) :
      Kills world pid signal (.ok ()) { world.sent pid signal with doomed := pid :: world.doomed }
  | forbidden (fits : Fits pid) (other : ¬ caller.Addresses pid) (process : 0 < pid) (alive : pid ∈ world.live)
      (foreign : ¬ caller.MaySignal world pid) :
      Kills world pid signal (.error .permissionError) (world.sent pid signal)
  | missing (fits : Fits pid) (other : ¬ caller.Addresses pid) (process : 0 < pid) (dead : pid ∉ world.live) :
      Kills world pid signal (.error .processLookupError) (world.sent pid signal)
  | group (fits : Fits pid) (other : ¬ caller.Addresses pid) (group : pid ≤ 0) (outcome : Except Failure Unit)
      (answer : outcome = .ok () ∨ outcome = .error .permissionError ∨ outcome = .error .processLookupError) :
      Kills world pid signal outcome (world.sent pid signal)

/-- The outcomes of the calls. `SIGKILL` ends a process within half a second. -/
inductive Performs (world : World) : (op : Op) → Except Failure (Reply op) → World → Prop where
  | pathExists (path : Path) :
      Performs world (.pathExists path) (Entry.exists (world.entry host path)) world
  | readText (path : Path) :
      Performs world (.readText path) (Entry.readText (world.entry host path)) world
  | unlinked (path : Path) (missingOk : Bool) (place : Place)
      (done : host.unlink caller.user world.files missingOk path = .ok (some place)) :
      Performs world (.unlink path missingOk) (.ok ()) (world.remove place)
  | notFound (path : Path) (missingOk : Bool) (done : host.unlink caller.user world.files missingOk path = .ok none) :
      Performs world (.unlink path missingOk) (.ok ()) world
  | notUnlinked (path : Path) (missingOk : Bool) (failure : Failure)
      (failed : host.unlink caller.user world.files missingOk path = .error failure) :
      Performs world (.unlink path missingOk) (.error failure) world
  | written (path : Path) (text : String) (place : Place) (owner : Nat)
      (opens : host.opens caller.user world.files path = some (place, owner)) :
      Performs world (.writeText path text) (.ok ()) (world.put place (.text text) owner)
  | swallowed (path : Path) (text : String) (content : Content) (owner : Nat)
      (device : world.entry host path = .special content owner) : Performs world (.writeText path text) (.ok ()) world
  | notWritten (path : Path) (text : String) : Performs world (.writeText path text) (.error .osError) world
  | emptied (path : Path) (text : String) (place : Place) (owner : Nat)
      (opens : host.opens caller.user world.files path = some (place, owner)) :
      Performs world (.writeText path text) (.error .osError) (world.put place (.text "") owner)
  | stuckWriting (path : Path) (text : String) (content : Content) (owner : Nat)
      (device : world.entry host path = .special content owner) :
      Performs world (.writeText path text) (.error .blocked) world
  | changedMode (path : Path) (mode : Nat) : Performs world (.chmod path mode) (.ok ()) world
  | notChangedMode (path : Path) (mode : Nat) : Performs world (.chmod path mode) (.error .osError) world
  | created (path : Path) (place : Place) (absent : host.spot world.files true path = some (.vacant place)) :
      Performs world (.openLog path) (.ok ()) (world.put place (.text "") caller.user)
  | opened (path : Path) (present : world.entry host path ≠ .nothing) : Performs world (.openLog path) (.ok ()) world
  | notOpened (path : Path) : Performs world (.openLog path) (.error .osError) world
  | stuckOpening (path : Path) (content : Content) (owner : Nat)
      (device : world.entry host path = .special content owner) :
      Performs world (.openLog path) (.error .blocked) world
  | spawned (command : List String) (environ : List (String × String)) (pid : Int) (positive : 0 < pid)
      (fits : Fits pid) (fresh : pid ∉ world.used) :
      Performs world (.popen command environ) (.ok pid) (world.spawn caller.user pid)
  | notSpawned (command : List String) (environ : List (String × String)) :
      Performs world (.popen command environ) (.error .osError) world
  | kill (pid : Int) (signal : Signal) (outcome : Except Failure Unit) (after : World)
      (kills : Kills caller world pid signal outcome after) : Performs world (.kill pid signal) outcome after
  | monotonic : Performs world .monotonic (.ok world.now) world
  | slept (seconds later : Rat) (elapsed : world.now + seconds ≤ later)
      (ended : 1 / 2 ≤ seconds → ∀ pid ∈ world.doomed, pid ∉ world.live) :
      Performs world (.sleep seconds) (.ok ()) { world with now := later }
  | printed (text : List Nat) (encodable : ∀ point ∈ text, host.printable point = true) :
      Performs world (.print text) (.ok ()) world
  | notPrinted (text : List Nat) (unencodable : ¬ ∀ point ∈ text, host.printable point = true) :
      Performs world (.print text) (.error .unicodeEncodeError) world

/-- What may happen between two calls: a process exits, and time passes. -/
inductive Occurs (world : World) : World → Prop where
  | exit (pid : Int) (alive : pid ∈ world.live) : Occurs world (world.exit pid)
  | time (later : Rat) (passes : world.now ≤ later) : Occurs world { world with now := later }

/-- The machine; its tasks are named by who runs them. -/
def hostMachine : Machine Reply Failure World Caller where
  perform caller := Performs host caller
  spawns _ _ := []
  env := Occurs
  isLocal _ := false

variable {host caller}

/-! ### Every call is answered -/

theorem kill_answered (world : World) (pid : Int) (signal : Signal) :
    ∃ outcome after, Kills caller world pid signal outcome after ∧
      after.log = world.log ++ [.signalled pid signal (decide (pid ∈ world.live))] := by
  by_cases fits : Fits pid
  · by_cases own : caller.Addresses pid
    · by_cases probe : signal = .probe
      · exact ⟨_, _, .ownProbe fits own probe, rfl⟩
      · exact ⟨_, _, .own fits own probe, rfl⟩
    · by_cases process : 0 < pid
      · by_cases alive : pid ∈ world.live
        · by_cases permitted : caller.MaySignal world pid
          · by_cases deadly : signal = .kill
            · exact ⟨_, _, .doomed fits own process alive permitted deadly, rfl⟩
            · exact ⟨_, _, .accepted fits own process alive permitted deadly, rfl⟩
          · exact ⟨_, _, .forbidden fits own process alive permitted, rfl⟩
        · exact ⟨_, _, .missing fits own process alive, rfl⟩
      · exact ⟨_, _, .group fits own (by omega) (.ok ()) (.inl rfl), rfl⟩
  · exact ⟨_, _, .large fits, rfl⟩

/-- All processes may exit. -/
theorem exits (world : World) : ∃ after, Relation.ReflTransGen Occurs world after ∧ after.live = [] := by
  generalize size : world.live.length = count
  induction count using Nat.strongRecOn generalizing world with
  | ind count ih =>
      cases alive : world.live with
      | nil => exact ⟨world, .refl, alive⟩
      | cons pid others =>
          have inside : pid ∈ world.live := alive ▸ List.mem_cons_self
          have fewer : (world.exit pid).live.length < count := by
            rw [← size]
            exact List.length_filter_lt_length_iff_exists.mpr ⟨pid, inside, by simp⟩
          obtain ⟨after, occurs, none⟩ := ih _ fewer (world.exit pid) rfl
          exact ⟨after, .head (.exit pid inside) occurs, none⟩

/-- Whatever is called, the world can answer it, at the latest when the processes have exited. -/
theorem Performs.answers (caller : Caller) (world : World) (op : Op) :
    ∃ between outcome after, Relation.ReflTransGen Occurs world between ∧
      Performs host caller between op outcome after := by
  cases op with
  | pathExists path => exact ⟨world, _, _, .refl, .pathExists path⟩
  | readText path => exact ⟨world, _, _, .refl, .readText path⟩
  | unlink path missingOk =>
      cases found : host.unlink caller.user world.files missingOk path with
      | ok removed =>
          cases removed with
          | none => exact ⟨world, _, _, .refl, .notFound path missingOk found⟩
          | some place => exact ⟨world, _, _, .refl, .unlinked path missingOk place found⟩
      | error failure => exact ⟨world, _, _, .refl, .notUnlinked path missingOk failure found⟩
  | writeText path text => exact ⟨world, _, _, .refl, .notWritten path text⟩
  | chmod path mode => exact ⟨world, _, _, .refl, .changedMode path mode⟩
  | openLog path => exact ⟨world, _, _, .refl, .notOpened path⟩
  | popen command environ => exact ⟨world, _, _, .refl, .notSpawned command environ⟩
  | kill pid signal =>
      obtain ⟨outcome, after, kills, -⟩ := @kill_answered caller world pid signal
      exact ⟨world, outcome, after, .refl, .kill pid signal outcome after kills⟩
  | monotonic => exact ⟨world, _, _, .refl, .monotonic⟩
  | sleep seconds =>
      obtain ⟨between, occurs, none⟩ := exits world
      refine ⟨between, _, _, occurs, .slept seconds _ Rat.le_refl ?_⟩
      intro _ pid _
      rw [none]
      exact List.not_mem_nil
  | print text =>
      by_cases encodable : ∀ point ∈ text, host.printable point = true
      · exact ⟨world, _, _, .refl, .printed text encodable⟩
      · exact ⟨world, _, _, .refl, .notPrinted text encodable⟩

end CodaNode.Posix
