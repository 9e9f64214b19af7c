/-
Module: CodaNode.Node.Guard
Layer: Node
Purpose: `VPNGuard`: the preflight in its three stages, and the watch loop with its callback. What a check
  meets outside (the interface, the resolver, the probes) is a `Check`; a run is a list of them.
Imports: none
Main exports: ServiceState, VPNGuard, Check, preflight, Iteration, watch
-/

namespace CodaNode.Node

/-- Overall readiness state of the node runtime. -/
inductive ServiceState where
  | booting
  | vpnUnavailable
  | ready
  | degraded
deriving DecidableEq, Repr

/-- The outcome of one probe. -/
structure ProbeResult where
  target : String
  ok : Bool
  error : Option String
deriving DecidableEq, Repr

/-- The result of a health check. -/
structure VPNStatus where
  ok : Bool
  interfaceFound : Bool
  probes : List ProbeResult := []
  reason : String := ""
deriving DecidableEq, Repr

/-- The settings of a guard, and how the host name of a target is read. -/
structure VPNGuard where
  probeTargets : List String
  vpnRequired : Bool
  hostname : String → Option String

/-- What one check meets: the interface, and for the targets by their position whether the host name
resolves and how the probe ends. -/
structure Check where
  interface : Option String
  resolves : Nat → Bool
  probe : Nat → Bool × Option String

namespace VPNGuard

variable (guard : VPNGuard)

/-- The host names that do not resolve. -/
def dnsFailures (check : Check) : List String :=
  guard.probeTargets.zipIdx.filterMap fun (target, index) =>
    match guard.hostname target with
    | some hostname => if hostname ≠ "" ∧ check.resolves index = false then some hostname else none
    | none => none

/-- The probes of all targets. -/
def probes (check : Check) : List ProbeResult :=
  guard.probeTargets.zipIdx.map fun (target, index) =>
    ⟨target, (check.probe index).1, (check.probe index).2⟩

/-- `probe.error or "unreachable"` behind the target. -/
def probeReason (probe : ProbeResult) : String :=
  probe.target ++ ": " ++
    match probe.error with
    | some message => if message = "" then "unreachable" else message
    | none => "unreachable"

/-- `VPNGuard.preflight`: the status, and the state it leaves. [SRC guard.py:317-369] -/
def preflight (check : Check) : VPNStatus × ServiceState :=
  let interfaceFound := check.interface.isSome
  if !interfaceFound && guard.vpnRequired then
    (⟨false, false, [], "No VPN tunnel interface detected"⟩, .vpnUnavailable)
  else
    let dnsFailures := guard.dnsFailures check
    if !dnsFailures.isEmpty && guard.vpnRequired then
      (⟨false, interfaceFound, [], "DNS resolution failed for: " ++ ", ".intercalate dnsFailures⟩,
        .vpnUnavailable)
    else
      let probes := guard.probes check
      let failed := probes.filter fun probe => !probe.ok
      if !failed.isEmpty && guard.vpnRequired then
        (⟨false, interfaceFound, probes, "Probe failures: " ++ "; ".intercalate (failed.map probeReason)⟩,
          .vpnUnavailable)
      else (⟨true, interfaceFound, probes, ""⟩, .ready)

end VPNGuard

/-- `is_ready` -/
def ServiceState.isReady (state : ServiceState) : Bool := state = .ready

/-- One iteration of the watch loop: the state in front of it, its status, the value passed to `on_change`
if it was invoked, and the state behind it. -/
structure Iteration where
  before : ServiceState
  status : VPNStatus
  reported : Option ServiceState
  after : ServiceState
deriving DecidableEq, Repr

/-- The body of the loop of `VPNGuard.watch`. [SRC guard.py:388-397] -/
def VPNGuard.iterate (guard : VPNGuard) (previous : ServiceState) (check : Check) : Iteration :=
  let (status, state) := guard.preflight check
  if status.ok ∧ previous ≠ .ready ∧ previous ≠ .booting then ⟨previous, status, some .ready, state⟩
  else if ¬ status.ok ∧ previous = .ready then ⟨previous, status, some .degraded, .degraded⟩
  else ⟨previous, status, none, state⟩

/-- `VPNGuard.watch` over the checks up to its end. -/
def VPNGuard.watch (guard : VPNGuard) : ServiceState → List Check → List Iteration
  | _, [] => []
  | state, check :: checks =>
      let iteration := guard.iterate state check
      iteration :: guard.watch iteration.after checks

/-- The values passed to `on_change`. -/
def reports (iterations : List Iteration) : List ServiceState := iterations.filterMap Iteration.reported

/-- The state behind a run. -/
def endState (state : ServiceState) (iterations : List Iteration) : ServiceState :=
  (iterations.getLast?.map Iteration.after).getD state

/-! ### The state of a preflight -/

variable {guard : VPNGuard} {check : Check} {state : ServiceState}

/-- The check passes. -/
def VPNGuard.passes (guard : VPNGuard) (check : Check) : Bool := (guard.preflight check).1.ok

/-- A preflight leaves `READY` when it passes and `VPN_UNAVAILABLE` when it fails. -/
theorem preflight_state : (guard.preflight check).2 = if guard.passes check then .ready else .vpnUnavailable := by
  unfold VPNGuard.passes VPNGuard.preflight
  dsimp only
  split
  · rfl
  · split
    · rfl
    · split <;> rfl

/-- Without a required VPN every check passes. -/
theorem passes_of_not_required (optional : guard.vpnRequired = false) : guard.passes check = true := by
  simp [VPNGuard.passes, VPNGuard.preflight, optional]

/-- The state behind an iteration. -/
def stateAfter (previous : ServiceState) (ok : Bool) : ServiceState :=
  if ok then .ready else if previous = .ready then .degraded else .vpnUnavailable

/-- The value an iteration passes to `on_change`. -/
def reportOf (previous : ServiceState) (ok : Bool) : Option ServiceState :=
  if ok then if previous = .ready ∨ previous = .booting then none else some .ready
  else if previous = .ready then some .degraded else none

/-- An iteration depends on the outcome of its check alone. -/
theorem iterate_eq : guard.iterate state check =
    ⟨state, (guard.preflight check).1, reportOf state (guard.passes check),
      stateAfter state (guard.passes check)⟩ := by
  have left : (guard.preflight check).2 = _ := preflight_state
  have outcome : (guard.preflight check).1.ok = guard.passes check := rfl
  unfold VPNGuard.iterate reportOf stateAfter
  generalize guard.preflight check = result at left outcome
  obtain ⟨status, after⟩ := result
  dsimp only at left outcome ⊢
  rw [left, outcome]
  cases guard.passes check <;> cases state <;> rfl

end CodaNode.Node
