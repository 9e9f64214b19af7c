/-
Module: CodaNode.Proofs.PidSafety
Layer: Proofs
Purpose: Which process ids are signalled. The functions that stop the background processes signal what the
  PID file records and nothing else, and they do not check it: ids that are not positive address process
  groups.
Imports: CodaNode.Posix.Calls, CodaNode.Posix.Recorded, CodaNode.Posix.Rehearsal
Main exports: PositiveSince, Handles.positive, signals_positive_iff
-/
import CodaNode.Posix.Calls
import CodaNode.Posix.Recorded
import CodaNode.Posix.Rehearsal

namespace CodaNode.Posix

open Coroutine Coro
open CodaNode.Node (openvpnPidPath)

variable {host : Host} {caller : Caller}

/-- Since the world `base` only single processes have been signalled. -/
def PositiveSince (base world : World) : Prop :=
  ∃ events, world.log = base.log ++ events ∧
    ∀ pid signal alive, .signalled pid signal alive ∈ events → (0 : Int) < pid

theorem PositiveSince.refl (base : World) : PositiveSince base base :=
  ⟨[], by simp, fun _ _ _ inside => absurd inside List.not_mem_nil⟩

/-- One more event that signals nothing, or a single process. -/
theorem PositiveSince.snoc {base world after : World} {event : Event} (here : PositiveSince base world)
    (same : after.log = world.log ++ [event])
    (single : ∀ pid signal alive, event = .signalled pid signal alive → 0 < pid) : PositiveSince base after := by
  obtain ⟨events, shape, positive⟩ := here
  refine ⟨events ++ [event], by rw [same, shape, List.append_assoc], ?_⟩
  intro pid signal alive inside
  rcases List.mem_append.mp inside with older | newest
  · exact positive pid signal alive older
  · exact single pid signal alive (List.mem_singleton.mp newest).symm

theorem PositiveSince.of_log {base world after : World} (here : PositiveSince base world)
    (same : after.log = world.log) : PositiveSince base after := by
  obtain ⟨events, shape, positive⟩ := here
  exact ⟨events, same.trans shape, positive⟩

/-- Calls that signal nothing but single processes. -/
def Single (op : Op) : Prop := ∀ pid signal, op = .kill pid signal → 0 < pid

theorem PositiveSince.occurs {base world after : World} (here : PositiveSince base world)
    (occurs : Occurs world after) : PositiveSince base after := by
  rcases Occurs.log_cases occurs with ⟨pid, same⟩ | same
  · apply here.snoc same
    intro _ _ _ impossible
    cases impossible
  · exact here.of_log same

theorem PositiveSince.keeps (base : World) : (hostMachine host).Keeps (PositiveSince base) :=
  fun _ _ occurs here => here.occurs occurs

theorem PositiveSince.kept (base : World) ⦃op : Op⦄ ⦃outcome : Except Failure (Reply op)⦄ ⦃world after : World⦄
    (single : Single op) (performed : Performs host caller world op outcome after)
    (here : PositiveSince base world) : PositiveSince base after := by
  rcases performed.log_cases with ⟨pid, signal, rfl, same⟩ | ⟨pid, same⟩ | same
  · apply here.snoc same
    intro _ _ _ event
    cases event
    exact single pid signal rfl
  · apply here.snoc same
    intro _ _ _ impossible
    cases impossible
  · exact here.of_log same

/-- What is done about one process signals it alone. -/
theorem Handles.single {path : Path} {pid : Int} (positive : 0 < pid) (op : Op) (handles : Handles path pid op) :
    Single op := by
  intro other signal same
  cases handles with
  | kill _ =>
      cases same
      exact positive
  | _ => cases same

/-- The file at a path is the one at the beginning, and only single processes have been signalled. -/
def Untouched (host : Host) (path : Path) (base world : World) : Prop :=
  world.entry host path = base.entry host path ∧ PositiveSince base world

theorem Untouched.keeps (path : Path) (base : World) : (hostMachine host).Keeps (Untouched host path base) := by
  intro world after occurs here
  refine ⟨?_, here.2.occurs occurs⟩
  rw [World.entry, Occurs.files occurs]
  exact here.1

/-- What is done about a single process. -/
theorem Handles.positive {α : Type} {path : Path} {pid : Int} {body : Task α} (positive : 0 < pid)
    (issues : body.Issues (Handles path pid)) (base : World) :
    Triple (hostMachine host) caller (PositiveSince base) (PositiveSince base) body (fun _ => PositiveSince base)
      fun _ => PositiveSince base :=
  Triple.invariant (PositiveSince.keeps base) (PositiveSince.kept base) (issues.imp (Handles.single positive))

theorem stopDaemon_positive (base : World) (timeout : Rat)
    (positive : ∀ pid, base.recorded host daemonPidPath = some pid → 0 < pid) :
    Triple (hostMachine host) caller (PositiveSince base) (Untouched host daemonPidPath base) (stopDaemon timeout)
      (fun _ => PositiveSince base) fun _ => PositiveSince base := by
  have reads : Triple (hostMachine host) caller (PositiveSince base) (Untouched host daemonPidPath base) readDaemonPid
      (fun value world => Untouched host daemonPidPath base world ∧ value = base.recorded host daemonPidPath)
      fun _ => PositiveSince base := by
    apply (readDaemonPid_reads (Untouched.keeps daemonPidPath base) fun _ here => here.1).consequence
    · intro _ here
      exact here
    · intro _ here
      exact here.2
    · intro _ _ here
      exact here
    · intro _ _ here
      exact here.1.2
  apply reads.bind
  intro value
  cases value with
  | none =>
      apply Triple.ret
      · exact PositiveSince.keeps base
      · intro _ here
        exact here.1.2
      · intro _ here
        exact here
  | some pid =>
      intro world last rest here leads
      exact Handles.positive (positive pid here.2.symm) (stopProcess_calls timeout) base here.1.2 leads

theorem killOpenvpnDaemon_positive (base : World)
    (positive : ∀ pid, base.recorded host openvpnPidPath = some pid → 0 < pid) :
    Triple (hostMachine host) caller (PositiveSince base) (Untouched host openvpnPidPath base) killOpenvpnDaemon
      (fun _ => PositiveSince base) fun _ => PositiveSince base := by
  have kept : (hostMachine host).Keeps (PositiveSince base) := PositiveSince.keeps base
  have own : (hostMachine host).Keeps (Untouched host openvpnPidPath base) := Untouched.keeps openvpnPidPath base
  have checks : Triple (hostMachine host) caller (PositiveSince base) (Untouched host openvpnPidPath base)
      (perform (Op.pathExists openvpnPidPath) : Task Bool) (fun _ => Untouched host openvpnPidPath base)
      fun _ => PositiveSince base := by
    apply (pathExists_reads own fun _ here => here.1).consequence
    · intro _ here
      exact here
    · intro _ here
      exact here.2
    · intro _ _ here
      exact here.1
    · intro _ _ here
      exact here.1.2
  have reads : Triple (hostMachine host) caller (PositiveSince base) (Untouched host openvpnPidPath base)
      (readInt openvpnPidPath) (fun pid world => PositiveSince base world ∧ 0 < pid)
      fun _ => PositiveSince base := by
    apply (readInt_reads own fun _ here => here.1).consequence
    · intro _ here
      exact here
    · intro _ here
      exact here.2
    · intro pid _ here
      exact ⟨here.1.2, positive pid (World.recorded_eq_some.mpr here.2)⟩
    · intro _ _ here
      exact here.1.2
  apply checks.bind
  intro present
  cases present with
  | true =>
      have ends : Triple (hostMachine host) caller (PositiveSince base) (Untouched host openvpnPidPath base)
          endOpenvpn (fun _ => PositiveSince base) fun _ => PositiveSince base := by
        apply reads.bind
        intro pid world last rest here leads
        exact Handles.positive here.2 signalOpenvpn_calls base here.1 leads
      apply ends.handle
      · intro value
        apply Triple.ret
        · exact kept
        · intro _ here
          exact here
        · intro _ here
          exact here
      · intro failure
        apply Handles.positive Int.one_pos
        split
        · exact discard_calls
        · trivial
  | false =>
      apply Triple.ret
      · exact kept
      · intro _ here
        exact here.2
      · intro _ here
        exact here

/-! ### The runs to the first signal -/

/-- A run that has sent one signal to a process id that is not positive. -/
theorem not_positiveSince {base after : World} {pid : Int} {signal : Signal} {alive : Bool}
    (same : after.log = base.log ++ [.signalled pid signal alive]) (since : PositiveSince base after) : 0 < pid := by
  obtain ⟨events, shape, positive⟩ := since
  have only : events = [.signalled pid signal alive] := List.append_cancel_left (shape.symm.trans same)
  exact positive pid signal alive (only ▸ List.mem_singleton_self _)

theorem stopDaemon_signals {base : World} {pid : Int} (timeout : Rat)
    (recorded : base.recorded host daemonPidPath = some pid) :
    ∃ after rest, Leads (hostMachine host) caller base (stopDaemon timeout) after rest ∧
      ∃ signal alive, after.log = base.log ++ [.signalled pid signal alive] := by
  obtain ⟨outcome, after, kills, logged⟩ := @kill_answered caller base pid .probe
  have leads : Leads (hostMachine host) caller base (stopDaemon timeout) base _ :=
    (readDaemonPid_leads recorded).returns _
  exact ⟨after, _, .call leads (.kill pid .probe outcome after kills), .probe, _, logged⟩

theorem killOpenvpnDaemon_signals {base : World} {pid : Int}
    (recorded : base.recorded host openvpnPidPath = some pid) :
    ∃ after rest, Leads (hostMachine host) caller base killOpenvpnDaemon after rest ∧
      ∃ signal alive, after.log = base.log ++ [.signalled pid signal alive] := by
  obtain ⟨outcome, after, kills, logged⟩ := @kill_answered caller base pid .term
  have checked : Leads (hostMachine host) caller base killOpenvpnDaemon base _ :=
    .call .refl (pathExists_performs recorded)
  have leads := checked.trans (((readInt_leads recorded).returns _).handle _ _)
  exact ⟨after, _, .call leads (.kill pid .term outcome after kills), .term, _, logged⟩

/-- The process ids that `stop_daemon` and `kill_openvpn_daemon` signal are positive in all runs exactly when
the ones that the PID files record are. -/
theorem signals_positive_iff (host : Host) (caller : Caller) (base : World) (timeout : Rat) :
    ((∀ after rest, Leads (hostMachine host) caller base (stopDaemon timeout) after rest →
        PositiveSince base after) ↔
      ∀ pid, base.recorded host daemonPidPath = some pid → 0 < pid) ∧
    ((∀ after rest, Leads (hostMachine host) caller base killOpenvpnDaemon after rest →
        PositiveSince base after) ↔
      ∀ pid, base.recorded host openvpnPidPath = some pid → 0 < pid) := by
  have start (path : Path) : Untouched host path base base := ⟨rfl, .refl base⟩
  refine ⟨⟨?_, ?_⟩, ⟨?_, ?_⟩⟩
  · intro safe pid recorded
    obtain ⟨after, rest, leads, signal, alive, logged⟩ := stopDaemon_signals timeout recorded
    exact not_positiveSince logged (safe after rest leads)
  · intro positive after rest leads
    exact (stopDaemon_positive base timeout positive (start _) leads).1
  · intro safe pid recorded
    obtain ⟨after, rest, leads, signal, alive, logged⟩ := killOpenvpnDaemon_signals recorded
    exact not_positiveSince logged (safe after rest leads)
  · intro positive after rest leads
    exact (killOpenvpnDaemon_positive base positive (start _) leads).1

/-- PID files that record every process of the user. -/
def Sample.everyone : World :=
  .plain [("/tmp/coda-node.pid", .regular (.text "-1\n") 1), (openvpnPidPath, .regular (.text "-1\n") 1)] [] 1

/-- All of them are sent `SIGTERM`, by both functions. -/
theorem everyone_signalled :
    (∃ last, Leads (hostMachine Host.plain) (Caller.plain 1) Sample.everyone (stopDaemon 10) last (.ret true) ∧
      Event.signalled (-1) .term false ∈ last.log) ∧
    (∃ last, Leads (hostMachine Host.plain) (Caller.plain 1) Sample.everyone killOpenvpnDaemon last (.ret true) ∧
      Event.signalled (-1) .term false ∈ last.log) := by
  constructor
  · exact ⟨Rehearsal.left .plain (.plain 1) 5000 (stopDaemon 10) Sample.everyone,
      @Rehearsal.leads .plain (.plain 1) 5000 Bool (stopDaemon 10) Sample.everyone (.ok true) (by decide +kernel),
      by decide +kernel⟩
  · exact ⟨Rehearsal.left .plain (.plain 1) 5000 killOpenvpnDaemon Sample.everyone,
      @Rehearsal.leads .plain (.plain 1) 5000 Bool killOpenvpnDaemon Sample.everyone (.ok true) (by decide +kernel),
      by decide +kernel⟩

end CodaNode.Posix
