/-
Module: CodaNode.Node.Cleanup
Layer: Node
Purpose: What `kill_openvpn_daemon` does to the daemons: nothing, or it ends all those that a signal to the
  process id in the PID file reaches. When it says that it has killed something, it has sent its signal.
Imports: CodaNode.Node.Quiet
Main exports: Site.hits, SameDaemons, Ended, Performs.kill_cases
-/
import CodaNode.Node.Quiet

namespace CodaNode.Node

open Coroutine Coro

/-- A signal to the process id in the PID file reaches the daemon. -/
def Site.hits (site : Site) (files : Files) (daemon : Nat) : Bool :=
  match recordedPid files with
  | some pid => site.reaches pid daemon
  | none => false

/-- The daemons are the same. -/
structure SameDaemons (world after : World) : Prop where
  running : after.running = world.running
  started : after.started = world.started
  killed : after.killed = world.killed

/-- A signal has ended the daemons that it reaches. -/
structure Ended (site : Site) (world after : World) : Prop where
  running : after.running = world.running.filter (!site.hits world.files ·)
  started : after.started = world.started
  killed : after.killed = world.running.filter (site.hits world.files) ++ world.killed

variable {site : Site} {world : World}

theorem SameDaemons.refl (world : World) : SameDaemons world world := ⟨rfl, rfl, rfl⟩

/-! ### Nothing happens between the calls -/

theorem kill_still (holds : World → Prop) : (killMachine site).Keeps holds :=
  fun _ _ impossible => impossible.elim

section Still

variable {α : Type} {pre : World → Prop} {failed : Posix.Failure → World → Prop}

/-- One call, by its answers. -/
theorem kill_perform {op : Posix.Op} {post : Posix.Reply op → World → Prop}
    (returned : ∀ {value before after}, pre before → Calls site before op (.ok value) after → post value after)
    (raised : ∀ {failure before after}, pre before → Calls site before op (.error failure) after →
      failed failure after) :
    Triple (killMachine site) () (fun _ => True) pre (perform op) post failed := by
  apply Triple.perform (kill_still _) _ returned raised
  · exact fun _ => kill_still _
  · exact fun _ => kill_still _
  · intro _ _ _
    trivial
  · intro _ _ _
    trivial
  · intro _ _
    trivial

theorem kill_ret {post : α → World → Prop} {value : α} (holds : ∀ world, pre world → post value world) :
    Triple (killMachine site) () (fun _ => True) pre (.ret value) post failed :=
  Triple.ret (kill_still _) holds fun _ _ => trivial

theorem kill_raise {post : α → World → Prop} {failure : Posix.Failure}
    (holds : ∀ world, pre world → failed failure world) :
    Triple (killMachine site) () (fun _ => True) pre (.raise failure) post failed :=
  Triple.raise (kill_still _) holds fun _ _ => trivial

end Still

/-! ### One call -/

theorem Calls.pathExists_inv {before after : World} {outcome : Except Posix.Failure Bool}
    (calls : Calls site before (.pathExists openvpnPidPath) outcome after) : after = before := by
  cases calls <;> rfl

/-- What is read from the PID file is the process id there. -/
theorem Calls.readText_inv {before after : World} {outcome : Except Posix.Failure String}
    (calls : Calls site before (.readText openvpnPidPath) outcome after) :
    after = before ∧ ∀ text pid, outcome = .ok text → Posix.pidOf text = some pid →
      recordedPid before.files = some pid := by
  cases calls with
  | readText file present =>
      refine ⟨rfl, fun text pid answered parsed => ?_⟩
      simp only [recordedPid, present, answered, parsed]
  | notRead failure os =>
      refine ⟨rfl, fun text pid answered _ => ?_⟩
      cases answered

theorem Calls.unlink_daemons {before after : World} {missingOk : Bool} {outcome : Except Posix.Failure Unit}
    (calls : Calls site before (.unlink openvpnPidPath missingOk) outcome after) : SameDaemons before after := by
  cases calls <;> exact ⟨rfl, rfl, rfl⟩

/-- A signal is sent and ends what it reaches, or it is not. -/
theorem Calls.kill_inv {before after : World} {pid : Int} {outcome : Except Posix.Failure Unit}
    (calls : Calls site before (.kill pid .term) outcome after) :
    outcome = .ok () ∧ after = before.signalled (site.reaches pid) ∨
      (∃ failure, outcome = .error failure) ∧ after = before := by
  cases calls with
  | signalled fits => exact .inl ⟨rfl, rfl⟩
  | missed failure fits unreached reason => exact .inr ⟨⟨_, rfl⟩, rfl⟩
  | large => exact .inr ⟨⟨_, rfl⟩, rfl⟩

theorem SameDaemons.trans {before after last : World} (first : SameDaemons before after)
    (second : SameDaemons after last) : SameDaemons before last :=
  ⟨second.running.trans first.running, second.started.trans first.started, second.killed.trans first.killed⟩

theorem Ended.behind {before after last : World} (ended : Ended site before after) (same : SameDaemons after last) :
    Ended site before last :=
  ⟨same.running.trans ended.running, same.started.trans ended.started, same.killed.trans ended.killed⟩

theorem ended_of_signalled {pid : Int} (recorded : recordedPid world.files = some pid) :
    Ended site world (world.signalled (site.reaches pid)) := by
  have same : site.hits world.files = site.reaches pid := by
    funext daemon
    rw [Site.hits, recorded]
  refine ⟨?_, rfl, ?_⟩
  · rw [same]
    rfl
  · rw [same]
    rfl

/-! ### The function -/

/-- The daemons are as they were, or a signal has ended some. -/
def Settled (site : Site) (world after : World) : Prop := SameDaemons world after ∨ Ended site world after

/-- The PID file is read. -/
theorem readInt_recorded :
    Triple (killMachine site) () (fun _ => True) (· = world) (Posix.readInt openvpnPidPath)
      (fun pid other => other = world ∧ recordedPid world.files = some pid) fun _ other => other = world := by
  have reads : Triple (killMachine site) () (fun _ => True) (· = world)
      (perform (Posix.Op.readText openvpnPidPath) : Posix.Task String)
      (fun text other => other = world ∧ ∀ pid, Posix.pidOf text = some pid → recordedPid world.files = some pid)
      fun _ other => other = world := by
    apply kill_perform
    · rintro text other after rfl calls
      obtain ⟨rfl, recorded⟩ := calls.readText_inv
      exact ⟨rfl, fun pid parsed => recorded text pid rfl parsed⟩
    · rintro failure other after rfl calls
      exact calls.readText_inv.1
  apply reads.bind
  intro text
  cases parsed : Posix.parsePid text with
  | ok pid =>
      apply kill_ret
      intro other here
      refine ⟨here.1, here.2 pid ?_⟩
      unfold Posix.parsePid at parsed
      split at parsed
      · next found =>
        cases parsed
        exact found
      · cases parsed
  | error failure =>
      apply kill_raise
      intro _ here
      exact here.1

/-- The signal and the removal of the PID file. -/
theorem signalOpenvpn_ended {pid : Int} (recorded : recordedPid world.files = some pid) :
    Triple (killMachine site) () (fun _ => True) (· = world) (Posix.signalOpenvpn pid) (fun _ => Ended site world)
      fun _ => Settled site world := by
  have signals : Triple (killMachine site) () (fun _ => True) (· = world)
      (perform (Posix.Op.kill pid .term) : Posix.Task Unit) (fun _ => Ended site world)
      fun _ => Settled site world := by
    apply kill_perform
    · rintro _ other after rfl calls
      rcases calls.kill_inv with ⟨-, rfl⟩ | ⟨⟨failure, impossible⟩, -⟩
      · exact ended_of_signalled recorded
      · cases impossible
    · rintro failure other after rfl calls
      rcases calls.kill_inv with ⟨impossible, -⟩ | ⟨-, rfl⟩
      · cases impossible
      · exact .inl (.refl _)
  have removes : Triple (killMachine site) () (fun _ => True) (Ended site world)
      (perform (Posix.Op.unlink openvpnPidPath true) : Posix.Task Unit) (fun _ => Ended site world)
      fun _ => Settled site world := by
    apply kill_perform
    · intro _ other after ended calls
      exact ended.behind calls.unlink_daemons
    · intro _ other after ended calls
      exact .inr (ended.behind calls.unlink_daemons)
  apply signals.bind
  intro _
  apply removes.bind
  intro _
  apply kill_ret
  intro _ here
  exact here

/-- The PID file goes, and the daemons stay as they are. -/
theorem discard_settled :
    Triple (killMachine site) () (fun _ => True) (Settled site world) (Posix.discard openvpnPidPath)
      (fun killed other => Settled site world other ∧ killed = false) fun _ => Settled site world := by
  have kept {other after : World} (settled : Settled site world other) (same : SameDaemons other after) :
      Settled site world after :=
    settled.imp (fun before => before.trans same) fun before => before.behind same
  have removes : Triple (killMachine site) () (fun _ => True) (Settled site world)
      (perform (Posix.Op.unlink openvpnPidPath true) : Posix.Task Unit) (fun _ => Settled site world)
      fun _ => Settled site world := by
    apply kill_perform
    · intro _ other after settled calls
      exact kept settled calls.unlink_daemons
    · intro _ other after settled calls
      exact kept settled calls.unlink_daemons
  apply removes.bind
  intro _
  apply kill_ret
  intro _ here
  exact ⟨here, rfl⟩

/-- The body of the `try`: when it returns, its signal has been sent. -/
theorem endOpenvpn_ended :
    Triple (killMachine site) () (fun _ => True) (· = world) Posix.endOpenvpn (fun _ => Ended site world)
      fun _ => Settled site world := by
  have reads := @readInt_recorded site world
  apply (reads.consequence (fun _ here => here) (fun _ _ => trivial) (fun _ _ here => here)
    fun _ other (here : other = world) => (Or.inl (here ▸ .refl other) : Settled site world other)).bind
  intro pid other last rest here leads
  exact signalOpenvpn_ended here.2 here.1 leads

/-- `kill_openvpn_daemon`: only a signal that was sent is reported. -/
theorem killOpenvpnDaemon_settled :
    Triple (killMachine site) () (fun _ => True) (· = world) Posix.killOpenvpnDaemon
      (fun killed other => Settled site world other ∧ (killed = true → Ended site world other))
      fun _ => Settled site world := by
  have checks : Triple (killMachine site) () (fun _ => True) (· = world)
      (perform (Posix.Op.pathExists openvpnPidPath) : Posix.Task Bool) (fun _ => (· = world))
      fun _ => Settled site world := by
    apply kill_perform
    · rintro _ other after rfl calls
      exact calls.pathExists_inv
    · rintro _ other after rfl calls
      obtain rfl := calls.pathExists_inv
      exact .inl (.refl _)
  apply checks.bind
  intro recorded
  cases recorded with
  | true =>
      apply endOpenvpn_ended.handle
      · intro killed
        apply kill_ret
        intro _ ended
        exact ⟨.inr ended, fun _ => ended⟩
      · intro failure
        split
        · apply discard_settled.consequence
          · intro _ here
            exact here
          · intro _ _
            trivial
          · rintro _ _ ⟨settled, rfl⟩
            exact ⟨settled, fun impossible => by cases impossible⟩
          · intro _ _ here
            exact here
        · apply kill_raise
          intro _ here
          exact here
  | false =>
      apply kill_ret
      rintro _ rfl
      exact ⟨.inl (.refl _), fun impossible => by cases impossible⟩

/-- The operation leaves the daemons as they were, or a signal has ended some, as it always has when it says so. -/
theorem Performs.kill_cases {after : World} {outcome : Except Failure Bool}
    (performed : Performs site world .killOpenvpnDaemon outcome after) :
    SameDaemons world after ∧ outcome ≠ .ok true ∨ Ended site world after := by
  cases performed with
  | killOpenvpnDaemon after outcome message runs =>
      obtain ⟨-, returned, raised⟩ := killOpenvpnDaemon_settled rfl runs
      cases outcome with
      | ok killed =>
          obtain ⟨settled, sent⟩ := returned killed rfl
          rcases settled with same | ended
          · cases killed with
            | true => exact .inr (sent rfl)
            | false => exact .inl ⟨same, fun impossible => by cases impossible⟩
          · exact .inr ended
      | error failure =>
          rcases raised failure rfl with same | ended
          · exact .inl ⟨same, fun impossible => by cases impossible⟩
          · exact .inr ended

end CodaNode.Node
