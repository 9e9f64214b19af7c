/-
Module: CodaNode.Node.BundleRun
Layer: Node
Purpose: A bundle as a run of assignments. On a reconnect, when `apply_node_bundle` succeeds, it has
  assigned exactly the fields in `bundleAssignments`, in that order.
Imports: CodaNode.Node.Bundle, CodaNode.Node.Assignments
Main exports: bundleAssignments, Run, applyFields_run
-/
import CodaNode.Node.Bundle
import CodaNode.Node.Assignments

namespace CodaNode.Node

open Python (Json)

/-- A number: a truth value counts as one. -/
def number : Value → Value
  | .bool value => .int value.toNat
  | value => value

/-- The assignment of a text that the bundle may bring. -/
def textAssignments (bundle : List (String × Value)) (field : Field) : List (Field × Value) :=
  match textEntry bundle field.name with
  | some text => [(field, .str text)]
  | none => []

/-- The assignment of a value, if there is one. -/
def someAssignments (field : Field) : Option Value → List (Field × Value)
  | some value => [(field, value)]
  | none => []

/-- The assignment of the probe targets, if there are any. -/
def targetsAssignments (vpn : List (String × Value)) : List (Field × Value) :=
  match targetsEntry vpn with
  | some (item :: items) => [(.vpnProbeTargets, .list (item :: items))]
  | _ => []

/-- The assignments of a VPN block. -/
def vpnAssignments (vpn : List (String × Value)) : List (Field × Value) :=
  someAssignments .vpnRequired (requiredEntry vpn) ++
    (someAssignments .vpnInterfaceHint (hintEntry vpn) ++
      (someAssignments .vpnCheckIntervalSec ((intervalEntry vpn).map number) ++ targetsAssignments vpn))

/-- The value of `qpu_display_name` that a bundle sets. -/
def displayName (bundle : List (String × Value)) : Value :=
  orElse (entry bundle "qpu_display_name") (orElse (entry bundle "qpu_label") (.str ""))

/-- The assignments of the VPN block of a bundle. -/
def vpnBlockAssignments (bundle : List (String × Value)) : List (Field × Value) :=
  match entry bundle "vpn" with
  | .dict vpn => vpnAssignments vpn
  | _ => []

/-- The assignments in front of the VPN block, given the number of qubits. -/
def identityAssignments (bundle : List (String × Value)) (numQubits : Value) : List (Field × Value) :=
  [(.qpuId, entry bundle "qpu_id"), (.qpuDisplayName, displayName bundle),
      (.nativeGateSet, entry bundle "native_gate_set"), (.numQubits, numQubits)] ++
    (textAssignments bundle .jwtPrivateKey ++
      (textAssignments bundle .jwtKeyId ++
        ([(.redisUrl, entry bundle "redis_url"), (.webappUrl, entry bundle (webappKey bundle))] ++
          (textAssignments bundle .connectPath ++
            (textAssignments bundle .heartbeatPath ++ textAssignments bundle .webhookPath)))))

/-- The assignments of a bundle, given the number of qubits. -/
def bundleAssignments (bundle : List (String × Value)) (numQubits : Value) : List (Field × Value) :=
  identityAssignments bundle numQubits ++ vpnBlockAssignments bundle

/-! ### The entries have the types of their fields -/

theorem requiredEntry_fits {vpn : List (String × Value)} {value : Value} (found : requiredEntry vpn = some value) :
    Field.vpnRequired.kind.fits value := by
  unfold requiredEntry at found
  split at found <;> cases found
  rfl

theorem hintEntry_fits {vpn : List (String × Value)} {value : Value} (found : hintEntry vpn = some value) :
    Field.vpnInterfaceHint.kind.fits value := by
  unfold hintEntry at found
  split at found <;> cases found <;> rfl

theorem targetsEntry_fits {vpn : List (String × Value)} {items : List Value}
    (found : targetsEntry vpn = some items) : Field.vpnProbeTargets.kind.fits (.list items) := by
  unfold targetsEntry at found
  split at found
  · split at found
    · next fits =>
      cases found
      exact fits
    · cases found
  · cases found

/-- An integer or a truth value. -/
def IsNumber : Value → Prop
  | .int _ | .bool _ => True
  | _ => False

theorem intervalEntry_number {vpn : List (String × Value)} {value : Value}
    (found : intervalEntry vpn = some value) : IsNumber value := by
  unfold intervalEntry at found
  split at found <;> cases found <;> trivial

theorem asInt_number {bundle : List (String × Value)} {key : String} {default value : Value}
    (read : asInt bundle key default = .ok value) :
    IsNumber value ∧ ∀ found, Json.get bundle key = some found → value = found := by
  unfold asInt at read
  constructor
  · split at read <;> cases read <;> trivial
  · intro found same
    rw [same, Option.getD_some] at read
    split at read <;> cases read <;> rfl

theorem validate_number {runtime : Runtime} (documented : runtime.Documented) {field : Field}
    (kind : field.kind = .int) {value : Value} (isNumber : IsNumber value) :
    ∀ other, runtime.validate field value = .ok other → other = number value := by
  intro other validated
  cases value with
  | int value =>
      rw [documented.fits field (.int value) (by rw [kind]; rfl)] at validated
      cases validated
      rfl
  | bool value =>
      rw [documented.number field value kind] at validated
      cases validated
      rfl
  | _ => cases isNumber

/-! ### The run -/

variable {runtime : Runtime} {files : Files} {persisted : Data} {settings middle after : Settings}
  {done : List (Field × Value)}

/-- A run of assignments without a node token, with the validators at rest behind it. -/
structure Run (files : Files) (persisted : Data) (settings : Settings) (done : List (Field × Value))
    (after : Settings) : Prop where
  assigns : Assigns persisted settings done after
  stable : Stable files after
  credentialed : Credentialed after
  reconnect : truthy (after .nodeToken) = false

namespace Run

/-- One more assignment. -/
theorem assign {field : Field} {value result : Value} (documented : runtime.Documented)
    (loaded : loadPersistedRuntimeConfig runtime files = .ok persisted)
    (run : Run files persisted settings done middle) (tracked : field.Tracked) (own : field ≠ .nodeToken)
    (valid : ∀ other, runtime.validate field value = .ok other → other = result)
    (runs : Node.assign runtime files field value middle = .ok () after) :
    Run files persisted settings (done ++ [(field, result)]) after := by
  obtain ⟨other, validated, step, stable, credentialed, reconnect⟩ :=
    assign_ok documented loaded run.reconnect tracked own runs (.inl run.stable)
  rw [valid other validated] at step
  exact ⟨run.assigns.append (.cons step .nil), stable, credentialed, reconnect⟩

theorem text {bundle : List (String × Value)} {field : Field} (documented : runtime.Documented)
    (loaded : loadPersistedRuntimeConfig runtime files = .ok persisted)
    (run : Run files persisted settings done middle) (tracked : field.Tracked) (own : field ≠ .nodeToken)
    (kind : field.kind = .text) {otherwise : Action Unit}
    (idle : ∀ {after}, otherwise middle = .ok () after → after = middle)
    (runs : (match textEntry bundle field.name with
      | some text => Node.assign runtime files field (.str text)
      | none => otherwise) middle = .ok () after) :
    Run files persisted settings (done ++ textAssignments bundle field) after := by
  unfold textAssignments
  cases found : textEntry bundle field.name with
  | some text =>
      rw [found] at runs
      exact run.assign documented loaded tracked own (fun other => documented.text field _ _ kind) runs
  | none =>
      rw [found] at runs
      rw [idle runs, List.append_nil]
      exact run

theorem credential {bundle : List (String × Value)} {field : Field} (documented : runtime.Documented)
    (loaded : loadPersistedRuntimeConfig runtime files = .ok persisted)
    (run : Run files persisted settings done middle) (tracked : field.Tracked) (own : field ≠ .nodeToken)
    (kind : field.kind = .text) (runs : applyCredential runtime files bundle field middle = .ok () after) :
    Run files persisted settings (done ++ textAssignments bundle field) after := by
  refine run.text documented loaded tracked own kind ?_ runs
  intro after idle
  rw [Action.get_bind] at idle
  split at idle
  · exact absurd idle Action.throw_ok
  · exact (Action.pure_ok.mp idle).2.symm

theorem path {bundle : List (String × Value)} {field : Field} (documented : runtime.Documented)
    (loaded : loadPersistedRuntimeConfig runtime files = .ok persisted)
    (run : Run files persisted settings done middle) (tracked : field.Tracked) (own : field ≠ .nodeToken)
    (kind : field.kind = .text) (runs : applyPath runtime files bundle field middle = .ok () after) :
    Run files persisted settings (done ++ textAssignments bundle field) after :=
  run.text documented loaded tracked own kind (fun idle => (Action.pure_ok.mp idle).2.symm) runs

theorem given {field : Field} {value : Option Value} (result : Value → Value) (documented : runtime.Documented)
    (loaded : loadPersistedRuntimeConfig runtime files = .ok persisted)
    (run : Run files persisted settings done middle) (tracked : field.Tracked) (own : field ≠ .nodeToken)
    (valid : ∀ found, value = some found → ∀ other, runtime.validate field found = .ok other →
      other = result found)
    (runs : assignSome runtime files field value middle = .ok () after) :
    Run files persisted settings (done ++ someAssignments field (value.map result)) after := by
  cases value with
  | none =>
      obtain ⟨-, rfl⟩ := Action.pure_ok.mp runs
      rw [Option.map_none, someAssignments, List.append_nil]
      exact run
  | some found => exact run.assign documented loaded tracked own (valid found rfl) runs

/-- The settings of a VPN block. -/
theorem vpn {vpn : List (String × Value)} (documented : runtime.Documented)
    (loaded : loadPersistedRuntimeConfig runtime files = .ok persisted)
    (run : Run files persisted settings done middle)
    (runs : applyVpnFields runtime files vpn middle = .ok () after) :
    Run files persisted settings (done ++ vpnAssignments vpn) after := by
  have same {field : Field} {value : Value} (fits : field.kind.fits value) :
      ∀ other, runtime.validate field value = .ok other → other = value := by
    intro other validated
    rw [documented.fits field value fits] at validated
    cases validated
    rfl
  obtain ⟨first, required, runs⟩ := Action.seq_ok.mp runs
  obtain ⟨second, hint, runs⟩ := Action.seq_ok.mp runs
  obtain ⟨third, interval, targets⟩ := Action.seq_ok.mp runs
  have run := run.given id documented loaded (by decide) (by decide) (fun found entry =>
    same (requiredEntry_fits entry)) required
  have run := run.given id documented loaded (by decide) (by decide) (fun found entry =>
    same (hintEntry_fits entry)) hint
  have run := run.given number documented loaded (by decide) (by decide) (fun found entry =>
    validate_number documented rfl (intervalEntry_number entry)) interval
  rw [Option.map_id] at run
  dsimp only [id] at run
  unfold vpnAssignments targetsAssignments
  rw [← List.append_assoc, ← List.append_assoc, ← List.append_assoc]
  cases found : targetsEntry vpn with
  | none =>
      rw [found] at targets
      obtain ⟨-, rfl⟩ := Action.pure_ok.mp targets
      rw [List.append_nil]
      exact run
  | some items =>
      rw [found] at targets
      cases items with
      | nil =>
          obtain ⟨-, rfl⟩ := Action.pure_ok.mp targets
          rw [List.append_nil]
          exact run
      | cons item items =>
          exact run.assign documented loaded (by decide) (by decide) (same (targetsEntry_fits found)) targets

end Run

/-- What a bundle has to bring, and the number of qubits. -/
structure Brings (bundle : List (String × Value)) (numQubits : Value) : Prop where
  qpuId : isUnset (entry bundle "qpu_id") = false
  nativeGateSet : isUnset (entry bundle "native_gate_set") = false
  redisUrl : isUnset (entry bundle "redis_url") = false
  webappUrl : isUnset (entry bundle (webappKey bundle)) = false
  counted : isUnset numQubits = false
  given : ∀ value, Json.get bundle "num_qubits" = some value → numQubits = number value

theorem asStr_set {bundle : List (String × Value)} {key text : String} (read : asStr bundle key = .ok text) :
    isUnset (entry bundle key) = false := by
  obtain ⟨same, some⟩ := asStr_ok read
  rw [same]
  simpa [isUnset] using some

theorem isUnset_number {value : Value} (isNumber : IsNumber value) : isUnset (number value) = false := by
  cases value <;> first | rfl | cases isNumber

/-- The settings in front of the VPN block. -/
theorem applyIdentity_run {bundle : List (String × Value)} (documented : runtime.Documented)
    (loaded : loadPersistedRuntimeConfig runtime files = .ok persisted)
    (reconnect : truthy (settings .nodeToken) = false)
    (runs : applyIdentity runtime files bundle settings = .ok () after) :
    ∃ numQubits, Brings bundle numQubits ∧
      Run files persisted settings (identityAssignments bundle numQubits) after := by
  have text {field : Field} {value : Value} (kind : field.kind = .text) :
      ∀ other, runtime.validate field value = .ok other → other = value :=
    fun other => documented.text field value other kind
  obtain ⟨qpuId, _, lifted, runs⟩ := Action.bind_ok.mp runs
  obtain ⟨readQpuId, rfl⟩ := Action.lift_ok.mp lifted
  obtain ⟨qpuIdEntry, someQpuId⟩ := asStr_ok readQpuId
  obtain ⟨first, assigned, runs⟩ := Action.seq_ok.mp runs
  -- The validators may have work left in front of the first assignment, but a QPU id is not empty.
  obtain ⟨result, validated, step, stable, credentialed, reconnect⟩ :=
    assign_ok documented loaded reconnect (by decide) (by decide) assigned
      (.inr fun other validated => by rw [text rfl other validated]; simpa [isUnset] using someQpuId)
  rw [text rfl result validated] at step
  have run : Run files persisted settings [(.qpuId, .str qpuId)] first :=
    ⟨.cons step .nil, stable, credentialed, reconnect⟩
  obtain ⟨second, assigned, runs⟩ := Action.seq_ok.mp runs
  have run := run.assign documented loaded (by decide) (by decide) (text rfl) assigned
  obtain ⟨nativeGateSet, _, lifted, runs⟩ := Action.bind_ok.mp runs
  obtain ⟨readGateSet, rfl⟩ := Action.lift_ok.mp lifted
  obtain ⟨gateSetEntry, -⟩ := asStr_ok readGateSet
  obtain ⟨third, assigned, runs⟩ := Action.seq_ok.mp runs
  have run := run.assign documented loaded (by decide) (by decide) (text rfl) assigned
  rw [Action.get_bind] at runs
  obtain ⟨given, _, lifted, runs⟩ := Action.bind_ok.mp runs
  obtain ⟨read, rfl⟩ := Action.lift_ok.mp lifted
  obtain ⟨isNumber, found⟩ := asInt_number read
  obtain ⟨fourth, assigned, runs⟩ := Action.seq_ok.mp runs
  have run := run.assign documented loaded (by decide) (by decide)
    (validate_number documented rfl isNumber) assigned
  obtain ⟨fifth, key, runs⟩ := Action.seq_ok.mp runs
  have run := run.credential documented loaded (by decide) (by decide) rfl key
  obtain ⟨sixth, keyId, runs⟩ := Action.seq_ok.mp runs
  have run := run.credential documented loaded (by decide) (by decide) rfl keyId
  obtain ⟨redisUrl, _, lifted, runs⟩ := Action.bind_ok.mp runs
  obtain ⟨readRedisUrl, rfl⟩ := Action.lift_ok.mp lifted
  obtain ⟨redisEntry, -⟩ := asStr_ok readRedisUrl
  obtain ⟨seventh, assigned, runs⟩ := Action.seq_ok.mp runs
  have run := run.assign documented loaded (by decide) (by decide) (text rfl) assigned
  obtain ⟨webappUrl, _, lifted, runs⟩ := Action.bind_ok.mp runs
  obtain ⟨readWebappUrl, rfl⟩ := Action.lift_ok.mp lifted
  obtain ⟨webappEntry, -⟩ := asStr_ok readWebappUrl
  obtain ⟨eighth, assigned, runs⟩ := Action.seq_ok.mp runs
  have run := run.assign documented loaded (by decide) (by decide) (text rfl) assigned
  obtain ⟨ninth, path, runs⟩ := Action.seq_ok.mp runs
  have run := run.path documented loaded (by decide) (by decide) rfl path
  obtain ⟨tenth, path, runs⟩ := Action.seq_ok.mp runs
  have run := run.path documented loaded (by decide) (by decide) rfl path
  have run := run.path documented loaded (by decide) (by decide) rfl runs
  refine ⟨number given, ⟨asStr_set readQpuId, asStr_set readGateSet, asStr_set readRedisUrl,
    asStr_set readWebappUrl, isUnset_number isNumber, fun value same => by rw [found value same]⟩, ?_⟩
  unfold identityAssignments displayName
  rw [qpuIdEntry, gateSetEntry, redisEntry, webappEntry]
  simpa only [List.append_assoc, List.cons_append, List.nil_append] using run

/-- The assignments of a bundle that is applied on a reconnect. -/
theorem applyFields_run {bundle : List (String × Value)} {profile : Option String}
    (documented : runtime.Documented) (loaded : loadPersistedRuntimeConfig runtime files = .ok persisted)
    (reconnect : truthy (settings .nodeToken) = false)
    (runs : applyFields runtime files (.dict bundle) settings = .ok profile after) :
    ∃ numQubits, Brings bundle numQubits ∧
      Run files persisted settings (bundleAssignments bundle numQubits) after := by
  obtain ⟨middle, identity, runs⟩ := Action.seq_ok.mp runs
  obtain ⟨numQubits, brings, run⟩ := applyIdentity_run documented loaded reconnect identity
  refine ⟨numQubits, brings, ?_⟩
  unfold bundleAssignments vpnBlockAssignments
  generalize entry bundle "vpn" = block at runs ⊢
  cases block with
  | dict vpn =>
      obtain ⟨last, fields, installed⟩ := Action.seq_ok.mp runs
      have run := run.vpn documented loaded fields
      have same : after = last := by
        unfold profileToInstall at installed
        rw [Action.get_bind] at installed
        split at installed
        · exact absurd installed Action.throw_ok
        · split at installed <;> exact (Action.pure_ok.mp installed).2.symm
      rw [same]
      exact run
  | _ =>
      obtain ⟨-, rfl⟩ := Action.pure_ok.mp runs
      rw [List.append_nil]
      exact run

end CodaNode.Node
