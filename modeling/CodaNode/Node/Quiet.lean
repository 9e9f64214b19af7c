/-
Module: CodaNode.Node.Quiet
Layer: Node
Purpose: The operations that leave the settings object alone, all but the two that assign its fields, and among
  them those that leave the persisted config alone.
Imports: CodaNode.Node.Connect, CodaNode.Coroutine.Triple
Main exports: Op.keepsSettings, Op.isInert, Performs.settings_eq, ensurePersistedVpn_inert, persistRuntimeConfig_quiet
-/
import CodaNode.Node.Connect
import CodaNode.Coroutine.Triple

namespace CodaNode.Node

open Coroutine Coro

/-- The operation does not assign a field. -/
def Op.keepsSettings : Op → Bool
  | .resolveMachineFingerprint | .applyFields _ => false
  | _ => true

variable {site : Site} {world after : World}

/-! ### `kill_openvpn_daemon` -/

/-- What every call of `kill_openvpn_daemon` leaves alone, the function leaves alone. -/
theorem Performs.kill_keeps (holds : World → Prop)
    (kept : ∀ {op : Posix.Op} {outcome : Except Posix.Failure (Posix.Reply op)} {world after : World},
      Calls site world op outcome after → holds world → holds after)
    {outcome : Except Failure Bool} (performed : Performs site world .killOpenvpnDaemon outcome after)
    (here : holds world) : holds after := by
  cases performed with
  | killOpenvpnDaemon after outcome message runs =>
      have keeps : (killMachine site).Keeps holds := fun _ _ impossible => impossible.elim
      exact (Triple.invariant keeps (fun _ _ _ _ _ performed here => kept performed here)
        (Issues.any Posix.killOpenvpnDaemon) here runs).1

theorem Performs.kill_settings {outcome : Except Failure Bool}
    (performed : Performs site world .killOpenvpnDaemon outcome after) : after.settings = world.settings := by
  apply performed.kill_keeps fun other => other.settings = world.settings
  · intro op outcome before behind calls here
    cases calls <;> exact here
  · rfl

theorem Performs.kill_started {outcome : Except Failure Bool}
    (performed : Performs site world .killOpenvpnDaemon outcome after) : after.started = world.started := by
  apply performed.kill_keeps fun other => other.started = world.started
  · intro op outcome before behind calls here
    cases calls <;> exact here
  · rfl

/-- It removes no file but the PID file. -/
theorem Performs.kill_files {outcome : Except Failure Bool}
    (performed : Performs site world .killOpenvpnDaemon outcome after) {path : String} (other : path ≠ openvpnPidPath) :
    after.files path = world.files path := by
  apply performed.kill_keeps fun found => found.files path = world.files path
  · intro op outcome before behind calls here
    cases calls with
    | unlinked missingOk => exact Eq.trans (if_neg other) here
    | _ => exact here
  · rfl

/-! ### Assignments -/

theorem Performs.applyFields_eq {bundle : Value} {outcome : Except Failure (Option String)}
    (performed : Performs site world (.applyFields bundle) outcome after) :
    outcome = (world.run fun files => Node.applyFields site.runtime files bundle).1 ∧
      after = (world.run fun files => Node.applyFields site.runtime files bundle).2 := by
  cases performed
  exact ⟨rfl, rfl⟩

theorem Performs.resolveMachineFingerprint_eq {outcome : Except Failure Value}
    (performed : Performs site world .resolveMachineFingerprint outcome after) :
    outcome = (world.run fun files => Node.resolveMachineFingerprint site.runtime files site.machineFingerprint).1 ∧
      after =
        (world.run fun files => Node.resolveMachineFingerprint site.runtime files site.machineFingerprint).2 := by
  cases performed
  exact ⟨rfl, rfl⟩

/-! ### Programs on the settings object -/

section

variable {α : Type} {program : Files → Action α}

theorem World.run_files (world : World) (program : Files → Action α) :
    (world.run program).2.files = world.files := by
  unfold World.run
  split <;> rfl

theorem World.run_ok {value : α} (returned : .ok value = (world.run program).1) :
    program world.files world.settings = .ok value (world.run program).2.settings := by
  unfold World.run at returned ⊢
  split at returned
  · next result settings runs =>
    cases returned
    exact runs
  · cases returned

theorem World.run_error {failure : Failure} (raised : .error failure = (world.run program).1) :
    program world.files world.settings = .error failure (world.run program).2.settings := by
  unfold World.run at raised ⊢
  split at raised
  · cases raised
  · next result settings runs =>
    cases raised
    exact runs

end

theorem Performs.applied {bundle : Value} {outcome : Except Failure (Option String)}
    (same : (world.run fun files => Node.applyFields site.runtime files bundle).1 = outcome) :
    Performs site world (.applyFields bundle) outcome
      (world.run fun files => Node.applyFields site.runtime files bundle).2 := by
  subst same
  exact .applyFields world bundle

theorem Performs.settings_eq {op : Op} {outcome : Except Failure (Reply op)}
    (performed : Performs site world op outcome after) (quiet : op.keepsSettings) :
    after.settings = world.settings := by
  cases performed with
  | resolveMachineFingerprint => cases quiet
  | applyFields => cases quiet
  | killOpenvpnDaemon after outcome message runs =>
      exact Performs.kill_settings (.killOpenvpnDaemon world after outcome message runs)
  | _ => rfl

/-- The operations that keep the settings. -/
abbrev Quiet (op : Op) : Prop := op.keepsSettings = true

/-- The operation assigns no field and writes no file of the node's own. -/
def Op.isInert : Op → Bool
  | .resolveMachineFingerprint | .applyFields _ | .writeVpnProfile _ _ | .openForWriting _ | .writeText _ _
  | .chmod _ => false
  | _ => true

/-- An inert operation. -/
abbrev Inert (op : Op) : Prop := op.isInert = true

theorem Performs.config_eq {op : Op} {outcome : Except Failure (Reply op)}
    (performed : Performs site world op outcome after) (inert : op.isInert = true) :
    after.files persistedConfigPath = world.files persistedConfigPath := by
  have apart : persistedConfigPath ≠ openvpnPidPath := by decide
  cases performed with
  | started => simp only [Files.put_other apart]
  | startedUnattended => simp only [Files.put_other apart]
  | killOpenvpnDaemon after outcome message runs =>
      exact Performs.kill_files (.killOpenvpnDaemon world after outcome message runs) apart
  | resolveMachineFingerprint => cases inert
  | applyFields => cases inert
  | profileWritten => cases inert
  | profileFailed => cases inert
  | profileRefused => cases inert
  | opened => cases inert
  | notOpened => cases inert
  | written => cases inert
  | partlyWritten => cases inert
  | changedMode => cases inert
  | notChangedMode => cases inert
  | openCancelled => cases inert
  | writeCancelled => cases inert
  | chmodCancelled => cases inert
  | _ => rfl

theorem Inert.quiet (op : Op) (inert : Inert op) : Quiet op := by
  cases op <;> first | rfl | cases inert

theorem never_inert {α : Type} : (never : Task α).Issues Inert := by
  refine ⟨rfl, fun outcome => ?_⟩
  cases outcome with
  | ok impossible => cases impossible
  | error failure => trivial

theorem pollTunnel_inert (hint : Value) (deadline : Rat) (fuel : Nat) :
    (pollTunnel hint deadline fuel).Issues Inert := by
  induction fuel with
  | zero => exact never_inert
  | succ fuel ih =>
      refine Issues.bind (.perform rfl) fun now => ?_
      split
      · refine Issues.bind (.perform rfl) fun interface => ?_
        cases interface with
        | some name => trivial
        | none => exact Issues.bind (.perform rfl) fun _ => ih
      · trivial

theorem bringUpTunnel_inert (fuel : Nat) : (bringUpTunnel fuel).Issues Inert := by
  refine Issues.bind (.perform rfl) fun settings => ?_
  refine Issues.bind (.perform rfl) fun _ => ?_
  refine Issues.bind ?_ fun _ => trivial
  refine Issues.bind (.perform rfl) fun now => ?_
  refine Issues.bind (pollTunnel_inert _ _ _) fun interface => ?_
  cases interface with
  | some name => trivial
  | none => exact Issues.bind (.perform rfl) fun tail => Issues.bind (.perform rfl) fun _ => trivial

theorem ensurePersistedVpn_inert (fuel : Nat) : (ensurePersistedVpn fuel).Issues Inert := by
  refine Issues.bind (.perform rfl) fun persisted => ?_
  refine Issues.bind (.perform rfl) fun settings => ?_
  split
  · trivial
  · split
    · trivial
    · refine Issues.bind (.perform rfl) fun present => ?_
      split
      · split <;> trivial
      · refine Issues.bind (.perform rfl) fun interface => ?_
        cases interface with
        | some name => trivial
        | none => exact bringUpTunnel_inert fuel

theorem cleanUp_inert (failure : Failure) : (cleanUp failure).Issues Inert := by
  unfold cleanUp
  split
  · refine Issues.bind (.perform rfl) fun settings => ?_
    split
    · exact Issues.bind (.perform rfl) fun _ => trivial
    · trivial
  · trivial

theorem installProfile_quiet (fuel : Nat) (profile : Option String) :
    (installProfile fuel profile).Issues Quiet := by
  cases profile with
  | none => trivial
  | some profile =>
      refine Issues.bind (.perform rfl) fun settings => ?_
      refine Issues.bind (.perform rfl) fun _ => ?_
      refine Issues.bind (.perform rfl) fun interface => ?_
      cases interface with
      | some name => trivial
      | none => exact (bringUpTunnel_inert fuel).imp Inert.quiet

theorem writeSecureText_quiet (path content : String) : (writeSecureText path content).Issues Quiet :=
  Issues.bind (.perform rfl) fun _ => Issues.bind (.perform rfl) fun _ => .perform rfl

theorem persistRuntimeConfig_quiet (runtime : Runtime) : (persistRuntimeConfig runtime).Issues Quiet := by
  refine Issues.bind (.perform rfl) fun settings => ?_
  refine Issues.bind (writeSecureText_quiet _ _) fun _ => ?_
  split
  · exact writeSecureText_quiet _ _
  · trivial

/-- The settings object is read. -/
theorem settings_reads {always pre : World → Prop} {failed : Failure → World → Prop}
    (keeps : (nodeMachine site).Keeps pre)
    (safe : ∀ world, pre world → always world) :
    Triple (nodeMachine site) () always pre (perform Op.settings : Task Settings)
      (fun found world => pre world ∧ world.settings = found) failed := by
  apply Triple.sure keeps safe
  · intro failure world after here performed
    cases performed
  · intro found world after here performed
    cases performed
    exact ⟨here, rfl⟩
  · intro found world after move here
    exact ⟨keeps move here.1, move.settings.trans here.2⟩
  · intro _ _ here
    exact safe _ here.1

/-- What depends on the settings alone survives the environment. -/
theorem keeps_settings {holds : Settings → Prop} :
    (nodeMachine site).Keeps fun world => holds world.settings := by
  intro world after move here
  rw [move.settings]
  exact here

/-- What depends on the settings alone survives a coroutine that keeps them. -/
theorem triple_quiet {α : Type} {body : Task α} (quiet : body.Issues Quiet) (holds : Settings → Prop) :
    Triple (nodeMachine site) () (fun world => holds world.settings) (fun world => holds world.settings) body
      (fun _ world => holds world.settings) (fun _ world => holds world.settings) := by
  refine Triple.invariant keeps_settings ?_ quiet
  intro op outcome world after quiet performed here
  rw [Performs.settings_eq performed quiet]
  exact here

/-- The assignments of a bundle have been made, from a state as in front of the operation. -/
theorem applyFields_triple {holds : World → Prop} (keeps : (nodeMachine site).Keeps holds) (bundle : Value) :
    Triple (nodeMachine site) () (fun _ => True) holds (perform (Op.applyFields bundle) : Task (Option String))
      (fun profile world => ∃ before : World, holds before ∧
        Node.applyFields site.runtime before.files bundle before.settings = .ok profile world.settings)
      fun _ _ => True := by
  apply Triple.performed keeps
  · intro profile world after here performed
    obtain ⟨result, rfl⟩ := performed.applyFields_eq
    unfold World.run at result ⊢
    split at result
    · next value settings applied =>
      obtain rfl := Except.ok.inj result
      exact ⟨world, here, applied⟩
    · cases result
  · intro profile world after move here
    rw [move.settings]
    exact here

/-- What the assignments have left survives the installation of the profile. -/
theorem installProfile_triple (fuel : Nat) (profile : Option String) (holds : Settings → Prop) :
    Triple (nodeMachine site) () (fun _ => True) (fun world => holds world.settings) (installProfile fuel profile)
      (fun _ world => holds world.settings) fun _ _ => True :=
  (triple_quiet (installProfile_quiet fuel profile) holds).returns

end CodaNode.Node
