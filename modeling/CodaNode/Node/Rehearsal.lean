/-
Module: CodaNode.Node.Rehearsal
Layer: Node
Purpose: Computed runs of provisioning. The operations do what they are asked, a tunnel is up as soon as a
  daemon runs, and the server answers every attempt in the same way. A run that ends is one of the machine.
Imports: CodaNode.Coroutine.Alone, CodaNode.Node.Connect
Main exports: Rehearsal, Rehearsal.answer, Rehearsal.leads
-/
import CodaNode.Coroutine.Alone
import CodaNode.Node.Connect

namespace CodaNode.Node

open Coroutine Coro

/-- A machine with the strict runtime. -/
def Site.plain : Site where
  runtime := .strict
  machineFingerprint := "machine"

/-- What a computed run leaves open: how the server answers, and the process of the next daemon. -/
structure Rehearsal where
  attempt : Attempt
  pid : Nat

namespace Rehearsal

/-- The outcomes of the calls of `kill_openvpn_daemon`. -/
def called (site : Site) (world : World) : (op : Posix.Op) → Option (Except Posix.Failure (Posix.Reply op) × World)
  | .pathExists path =>
      if path = openvpnPidPath then some (.ok (world.files openvpnPidPath).isSome, world) else none
  | .readText path =>
      if path = openvpnPidPath then (world.files openvpnPidPath).map fun file => (file.found, world) else none
  | .unlink path _ =>
      if path = openvpnPidPath then some (.ok (), { world with files := world.files.unlink openvpnPidPath }) else none
  | .kill pid .term =>
      if Posix.Fits pid then some (.ok (), world.signalled (site.reaches pid))
      else some (.error .overflowError, world)
  | _ => none

/-- The outcomes of the operations. -/
def answer (site : Site) (rehearsal : Rehearsal) (world : World) :
    (op : Op) → Option (Except Failure (Reply op) × World)
  | .settings => some (.ok world.settings, world)
  | .resolveMachineFingerprint =>
      some (world.run fun files => Node.resolveMachineFingerprint site.runtime files site.machineFingerprint)
  | .connectivity => some (.ok none, world)
  | .signToken => some (.ok "token", world)
  | .postConnect _ _ => some (Node.postConnect (fun _ => rehearsal.attempt) world.settings, world)
  | .applyFields bundle => some (world.run fun files => Node.applyFields site.runtime files bundle)
  | .pathExists path => some (.ok (world.files path).isSome, world)
  | .writeVpnProfile path profile =>
      match validateVpnProfile profile with
      | .ok () =>
          some (.ok (), { world with files := world.files.put path ⟨some (vpnProfileText profile), ownerOnly⟩ })
      | .error message => some (.error (.forbiddenDirective message), world)
  | .detectTunInterface _ => some (.ok (if world.running = [] then none else some "tun0"), world)
  | .startOpenvpn _ =>
      if rehearsal.pid ∉ world.running ∧ rehearsal.pid ∉ world.killed then
        some (.ok (), { world with
          files := world.files.put openvpnPidPath ⟨some (toString rehearsal.pid ++ "\n"), 0o644⟩
          running := rehearsal.pid :: world.running
          started := rehearsal.pid :: world.started })
      else none
  | .monotonic => some (.ok (0 : Rat), world)
  | .sleep _ => some (.ok (), world)
  | .readOpenvpnLogTail => some (.ok "", world)
  | .killOpenvpnDaemon =>
      (Posix.killOpenvpnDaemon.solo (called site) world).map fun ending =>
        (ending.1.mapError (raisedBy ""), ending.2)
  | .openForWriting path =>
      some (.ok (), { world with
        files := world.files.put path ⟨some "", ((world.files path).map File.mode).getD 0o644⟩ })
  | .writeText path content =>
      some (.ok (), { world with
        files := world.files.put path ⟨some content, ((world.files path).map File.mode).getD 0o644⟩ })
  | .chmod path =>
      match world.files path with
      | some file => some (.ok (), { world with files := world.files.put path { file with mode := ownerOnly } })
      | none => none
  | .forever => none

variable {site : Site} {rehearsal : Rehearsal} {world after : World}

theorem kept {path : String} {file : File} (present : world.files path = some file) :
    ((world.files path).map File.mode).getD 0o644 = file.mode := by
  rw [present]
  rfl

theorem calls {op : Posix.Op} {outcome : Except Posix.Failure (Posix.Reply op)}
    (answered : called site world op = some (outcome, after)) : Calls site world op outcome after := by
  cases op with
  | pathExists path =>
      simp only [called] at answered
      split at answered
      · next same =>
        subst same
        cases answered
        exact .pathExists world
      · cases answered
  | readText path =>
      simp only [called] at answered
      split at answered
      · next same =>
        subst same
        obtain ⟨file, present, answer⟩ := Option.map_eq_some_iff.mp answered
        cases answer
        exact .readText world file present
      · cases answered
  | unlink path missingOk =>
      simp only [called] at answered
      split at answered
      · next same =>
        subst same
        cases answered
        exact .unlinked world missingOk
      · cases answered
  | kill pid signal =>
      cases signal with
      | term =>
          simp only [called] at answered
          split at answered
          · next fits =>
            cases answered
            exact .signalled world pid fits
          · next large =>
            cases answered
            exact .large world pid large
      | _ => cases answered
  | _ => cases answered

theorem performs {op : Op} {outcome : Except Failure (Reply op)}
    (answered : answer site rehearsal world op = some (outcome, after)) :
    Performs site world op outcome after := by
  cases op with
  | settings =>
      cases answered
      exact .settings world
  | resolveMachineFingerprint =>
      have same := Option.some.inj answered
      obtain rfl := congrArg Prod.fst same
      obtain rfl := congrArg Prod.snd same
      exact .resolveMachineFingerprint world
  | connectivity =>
      cases answered
      exact .connectivity world none
  | signToken =>
      cases answered
      exact .signed world _
  | postConnect authHeader payload =>
      cases answered
      exact .postConnect world authHeader payload _
  | applyFields bundle =>
      have same := Option.some.inj answered
      obtain rfl := congrArg Prod.fst same
      obtain rfl := congrArg Prod.snd same
      exact .applyFields world bundle
  | pathExists path =>
      cases answered
      exact .pathExists world path
  | writeVpnProfile path profile =>
      unfold answer at answered
      dsimp only at answered
      split at answered
      · next accepted =>
        cases answered
        exact .profileWritten world path profile accepted
      · next message refused =>
        cases answered
        exact .profileRefused world path profile message refused
  | detectTunInterface hint =>
      cases answered
      exact .detected world hint _
  | startOpenvpn profilePath =>
      unfold answer at answered
      dsimp only at answered
      split at answered
      · next fresh =>
        cases answered
        exact .started world profilePath rehearsal.pid fresh.1 fresh.2
      · cases answered
  | monotonic =>
      cases answered
      exact .monotonic world _
  | sleep seconds =>
      cases answered
      exact .slept world seconds
  | readOpenvpnLogTail =>
      cases answered
      exact .logTail world _
  | killOpenvpnDaemon =>
      obtain ⟨ending, runs, answer⟩ := Option.map_eq_some_iff.mp answered
      obtain ⟨ended, last⟩ := ending
      cases answer
      apply Performs.killOpenvpnDaemon
      apply Coro.solo_leads _ runs
      intro state op outcome next answered
      exact calls answered
  | openForWriting path =>
      cases answered
      exact .opened world path _ fun _ present => kept present
  | writeText path content =>
      cases answered
      exact .written world path content _ fun _ present => kept present
  | chmod path =>
      unfold answer at answered
      dsimp only at answered
      split at answered
      · next file present =>
        cases answered
        exact .changedMode world path file present
      · cases answered
  | forever => cases answered

/-- The run of a task. -/
def run (site : Site) (rehearsal : Rehearsal) {α : Type} (task : Task α) (world : World) :
    Option (Except Failure α × World) :=
  task.solo (answer site rehearsal) world

/-- A computed run is one of the machine. -/
theorem leads {α : Type} {task : Task α} {outcome : Except Failure α}
    (runs : run site rehearsal task world = some (outcome, after)) :
    Leads (nodeMachine site) () world task after (resumeWith .ret .raise outcome) := by
  apply Coro.solo_leads _ runs
  intro state op outcome next answered
  exact performs answered

/-- The run ends well, and its end passes the test. -/
def returns (test : World → Bool) : Option (Except Failure Unit × World) → Bool
  | some (.ok (), after) => test after
  | _ => false

/-- The run raises, and its end passes the test. -/
def raises (test : Failure → World → Bool) : Option (Except Failure Unit × World) → Bool
  | some (.error failure, after) => test failure after
  | _ => false

theorem leads_of_returns {task : Task Unit} {test : World → Bool}
    (passed : returns test (run site rehearsal task world) = true) :
    ∃ after, Leads (nodeMachine site) () world task after (.ret ()) ∧ test after = true := by
  unfold returns at passed
  split at passed
  · next after runs => exact ⟨after, leads runs, passed⟩
  · cases passed

theorem leads_of_raises {task : Task Unit} {test : Failure → World → Bool}
    (passed : raises test (run site rehearsal task world) = true) :
    ∃ failure after, Leads (nodeMachine site) () world task after (.raise failure) ∧
      test failure after = true := by
  unfold raises at passed
  split at passed
  · next failure after runs => exact ⟨failure, after, leads runs, passed⟩
  · cases passed

end Rehearsal

end CodaNode.Node
