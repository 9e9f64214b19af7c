/-
Module: CodaNode.Posix.Rehearsal
Layer: Posix
Purpose: Computed runs on a machine. Nothing fails that need not fail, every group has a process that may be
  signalled, and nothing happens between two calls. A run that ends is one of the machine.
Imports: CodaNode.Coroutine.Alone, CodaNode.Posix.Daemon
Main exports: Host.plain, World.plain, Caller.plain, Rehearsal.answer, Rehearsal.left, Rehearsal.leads
-/
import CodaNode.Coroutine.Alone
import CodaNode.Posix.Daemon

namespace CodaNode.Posix

open Coroutine Coro
open Unix (Inode)

/-- A machine with the usual limits, whose directories may be searched and written by anybody, and which prints
everything. -/
def Host.plain : Host where
  loads text :=
    match Python.Json.loads Node.Runtime.strict.readFloat text with
    | some (.dict entries) =>
        .ok (.object fun key =>
          match Python.Json.get entries key with
          | some (.str text) => some (pointsOf text)
          | _ => none)
    | some _ => .ok .other
    | none => .error .jsonDecodeError
  rules := ⟨fun _ => true, 255, 4096, 40, []⟩
  mayRemove _ _ _ := true
  printable _ := true
  ascii _ _ := rfl

/-- A world with some files and the temporary directory, and some processes of one user. -/
def World.plain (files : List (String × Inode Content)) (live : List Int) (owner : Nat) : World where
  files place := ((("/tmp", .directory) :: files).map fun file => (Unix.names (pointsOf file.1), file.2)).lookup place
  live := live
  used := live
  owner _ := owner
  doomed := []
  now := 0
  log := []

/-- A user at a terminal. -/
def Caller.plain (user : Nat) : Caller := ⟨user, 4242, 4242⟩

namespace Rehearsal

/-- What `os.kill` answers. -/
def kill (caller : Caller) (world : World) (pid : Int) (signal : Signal) : Except Failure Unit × World :=
  if ¬ Fits pid then (.error .overflowError, world.sent pid signal)
  else if caller.Addresses pid then
    (if signal = .probe then .ok () else .error .terminated, world.sent pid signal)
  else if pid ≤ 0 then (.ok (), world.sent pid signal)
  else if pid ∉ world.live then (.error .processLookupError, world.sent pid signal)
  else if ¬ caller.MaySignal world pid then (.error .permissionError, world.sent pid signal)
  else if signal = .kill then (.ok (), { world.sent pid signal with doomed := pid :: world.doomed })
  else (.ok (), world.sent pid signal)

theorem kill_kills (caller : Caller) (world : World) (pid : Int) (signal : Signal) :
    Kills caller world pid signal (kill caller world pid signal).1 (kill caller world pid signal).2 := by
  unfold kill
  split
  · rename_i large
    exact .large large
  · rename_i fits
    have fits := not_not.mp fits
    split
    · rename_i own
      by_cases probe : signal = .probe
      · rw [if_pos probe]
        exact .ownProbe fits own probe
      · rw [if_neg probe]
        exact .own fits own probe
    · rename_i other
      split
      · rename_i group
        exact .group fits other group _ (.inl rfl)
      · rename_i process
        have process := Int.not_le.mp process
        split
        · rename_i dead
          exact .missing fits other process dead
        · rename_i alive
          have alive := not_not.mp alive
          split
          · rename_i foreign
            exact .forbidden fits other process alive foreign
          · rename_i permitted
            have permitted := not_not.mp permitted
            split
            · rename_i deadly
              exact .doomed fits other process alive permitted deadly
            · rename_i mild
              exact .accepted fits other process alive permitted mild

/-- The outcomes of the calls; `next` is the process id of the next daemon. -/
def answer (host : Host) (caller : Caller) (next : Int) (world : World) :
    (op : Op) → Option (Except Failure (Reply op) × World)
  | .pathExists path => some ((world.entry host path).exists, world)
  | .readText path => some ((world.entry host path).readText, world)
  | .unlink path missingOk =>
      match host.unlink caller.user world.files missingOk path with
      | .ok (some place) => some (.ok (), world.remove place)
      | .ok none => some (.ok (), world)
      | .error failure => some (.error failure, world)
  | .writeText path text =>
      match host.opens caller.user world.files path with
      | some (place, owner) => some (.ok (), world.put place (.text text) owner)
      | none => none
  | .chmod _ _ => some (.ok (), world)
  | .openLog path =>
      match host.spot world.files true path with
      | some (.vacant place) => some (.ok (), world.put place (.text "") caller.user)
      | _ => if world.entry host path = .nothing then none else some (.ok (), world)
  | .popen _ _ =>
      if 0 < next ∧ Fits next ∧ next ∉ world.used then some (.ok next, world.spawn caller.user next) else none
  | .kill pid signal => some (kill caller world pid signal)
  | .monotonic => some (.ok world.now, world)
  | .sleep seconds =>
      if ∀ pid ∈ world.doomed, pid ∉ world.live then some (.ok (), { world with now := world.now + seconds })
      else none
  | .print text => if ∀ point ∈ text, host.printable point = true then some (.ok (), world) else none

variable {host : Host} {caller : Caller} {next : Int}

theorem answer_sound {world after : World} {op : Op} {outcome : Except Failure (Reply op)}
    (answered : answer host caller next world op = some (outcome, after)) :
    Performs host caller world op outcome after := by
  cases op with
  | pathExists path =>
      cases answered
      exact .pathExists path
  | readText path =>
      cases answered
      exact .readText path
  | unlink path missingOk =>
      simp only [answer] at answered
      split at answered
      · rename_i place done
        cases answered
        exact .unlinked path missingOk place done
      · rename_i done
        cases answered
        exact .notFound path missingOk done
      · rename_i failure failed
        cases answered
        exact .notUnlinked path missingOk failure failed
  | writeText path text =>
      simp only [answer] at answered
      split at answered
      · rename_i place owner opens
        cases answered
        exact .written path text place owner opens
      · cases answered
  | chmod path mode =>
      cases answered
      exact .changedMode path mode
  | openLog path =>
      simp only [answer] at answered
      split at answered
      · rename_i place absent
        cases answered
        exact .created path place absent
      · split at answered
        · cases answered
        · rename_i present
          cases answered
          exact .opened path present
  | popen command environ =>
      simp only [answer] at answered
      split at answered
      · rename_i suitable
        cases answered
        exact .spawned command environ next suitable.1 suitable.2.1 suitable.2.2
      · cases answered
  | kill pid signal =>
      have same := Option.some.inj answered
      obtain rfl := congrArg Prod.fst same
      obtain rfl := congrArg Prod.snd same
      exact .kill pid signal _ _ (kill_kills caller world pid signal)
  | monotonic =>
      cases answered
      exact .monotonic
  | sleep seconds =>
      simp only [answer] at answered
      split at answered
      · rename_i ended
        cases answered
        exact .slept seconds _ Rat.le_refl fun _ => ended
      · cases answered
  | print text =>
      simp only [answer] at answered
      split at answered
      · rename_i encodable
        cases answered
        exact .printed text encodable
      · cases answered

/-- The world that a computed run leaves. -/
def left {α : Type} (host : Host) (caller : Caller) (next : Int) (body : Task α) (world : World) : World :=
  ((body.solo (answer host caller next) world).map Prod.snd).getD world

/-- A computed run that ends is a run. -/
theorem leads {α : Type} {body : Task α} {world : World} {outcome : Except Failure α}
    (runs : (body.solo (answer host caller next) world).map Prod.fst = some outcome) :
    Leads (hostMachine host) caller world body (left host caller next body world)
      (resumeWith .ret .raise outcome) := by
  unfold left
  cases found : body.solo (answer host caller next) world with
  | none =>
      rw [found] at runs
      cases runs
  | some ending =>
      rw [found] at runs
      cases runs
      exact solo_leads answer_sound found

end Rehearsal

end CodaNode.Posix
