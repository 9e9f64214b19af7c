/-
Module: CodaNode.Posix.Reset
Layer: Posix
Purpose: `coda reset`: both background processes are stopped, and the runtime files are removed in the
  order of their paths, with the files that the persisted config names. What is done is printed on the way.
Imports: CodaNode.Posix.Daemon, Mathlib.Data.List.Sort, Mathlib.Data.List.Dedup
Main exports: Path.normal, fixedPaths, namedPaths, readResetPaths, removePath, reset
-/
import CodaNode.Posix.Daemon
import Mathlib.Data.List.Sort
import Mathlib.Data.List.Dedup

namespace CodaNode.Posix

open Coroutine Coro
open CodaNode.Node (persistedConfigPath persistedPrivateKeyPath openvpnPidPath)

/-- The root of a path: two slashes are kept, three are one. -/
def Path.root : List Nat → List Nat
  | 47 :: 47 :: 47 :: _ => [47]
  | 47 :: 47 :: _ => [47, 47]
  | 47 :: _ => [47]
  | _ => []

/-- `str(Path(text))`: empty parts and single dots are dropped. -/
def Path.normal (text : List Nat) : Path :=
  let parts := (text.splitOn 47).filter fun part => part ≠ [] ∧ part ≠ [46]
  let shown := Path.root text ++ [47].intercalate parts
  if shown = [] then "." else ⟨shown⟩

/-- The parts of a path. -/
def Path.parts (path : Path) : List (List Nat) := path.points.splitOn 47

/-- The order of paths is the one of their parts. -/
def Path.le (first second : Path) : Prop :=
  second.parts.lex first.parts (fun one other => one.lex other fun a b => decide (a < b)) = false

instance : DecidableRel Path.le := fun _ _ => inferInstanceAs (Decidable (_ = _))

/-- The files a reset always removes. [SRC cli.py:161-169] -/
def fixedPaths : List Path :=
  [persistedConfigPath, persistedPrivateKeyPath, openvpnPidPath, openvpnLogPath, daemonPidPath, daemonLogPath,
    "/tmp/coda-node.ovpn"]

/-- The text at a key, when it is one of a path. -/
def namedPath (text : String → Option (List Nat)) (key : String) : Option Path :=
  match text key with
  | some value => if value ≠ [] then some (Path.normal value) else none
  | none => none

/-- The files a config names. [SRC cli.py:175-179] -/
def namedPaths : Document → List Path
  | .object text => ["jwt_private_key_path", "node_vpn_profile_path"].filterMap (namedPath text)
  | .other => []

/-- `sorted` of a set of paths. -/
def sortedPaths (paths : List Path) : List Path := paths.dedup.insertionSort Path.le

variable (host : Host)

/-- The persisted config, as far as it can be read. [SRC cli.py:171-174] -/
def readConfig : Task Document :=
  catching
    (do
      let text : String ← perform (Op.readText persistedConfigPath)
      ofExcept (host.loads text))
    fun failure =>
      if failure.isOSError ∨ failure = .jsonDecodeError then return .object fun _ => none else raise failure

/-- `_read_reset_paths`. [SRC cli.py:159-180] -/
def readResetPaths : Task (List Path) := do
  let persisted : Bool ← perform (Op.pathExists persistedConfigPath)
  if persisted then
    let data ← readConfig host
    return sortedPaths (fixedPaths ++ namedPaths data)
  else return sortedPaths fixedPaths

/-- What is printed about a path that has been removed, and about one that was not there. [SRC cli.py:204, 206] -/
def removedText (path : Path) : List Nat := pointsOf "  ✓ Removed " ++ path.points

def notFoundText (path : Path) : List Nat := pointsOf "  - Not found " ++ path.points

/-- A path that is there is removed. [SRC cli.py:202-206] -/
def removePresent (path : Path) : Bool → Task Bool
  | true => do
      perform (Op.unlink path false)
      perform (Op.print (removedText path))
      return true
  | false => do
      perform (Op.print (notFoundText path))
      return false

/-- One path, and whether it has been removed. [SRC cli.py:201-206] -/
def removePath (path : Path) : Task Bool := do
  let present : Bool ← perform (Op.pathExists path)
  removePresent path present

/-- The loop, with `removed_any`. [SRC cli.py:199-206] -/
def removePaths (removedAny : Bool) : List Path → Task Bool
  | [] => return removedAny
  | path :: paths => do
      let removed ← removePath path
      removePaths (removedAny || removed) paths

/-- The last line, and the exit code. [SRC cli.py:208-210] -/
def conclude : Bool → Task Nat
  | true => return 0
  | false => do
      perform (Op.print (pointsOf "  No persisted runtime files found"))
      return 0

/-- `_reset`. [SRC cli.py:183-210] -/
def reset : Task Nat := do
  perform (Op.print (pointsOf "Resetting persisted Coda runtime state..."))
  let daemonStopped ← stopDaemon 10
  perform (Op.print (pointsOf (if daemonStopped then "  Stopped Coda daemon" else "  No Coda daemon running")))
  let vpnKilled ← killOpenvpnDaemon
  perform (Op.print (pointsOf
    (if vpnKilled then "  Stopped managed OpenVPN daemon" else "  No managed VPN process found")))
  let paths ← readResetPaths host
  let removedAny ← removePaths false paths
  conclude removedAny

theorem mem_sortedPaths {paths : List Path} {path : Path} : path ∈ sortedPaths paths ↔ path ∈ paths := by
  rw [sortedPaths, (List.perm_insertionSort Path.le paths.dedup).mem_iff, List.mem_dedup]

example : Path.normal (pointsOf "//tmp//./a/../key/") = "//tmp/a/../key" := by decide +kernel

end CodaNode.Posix
