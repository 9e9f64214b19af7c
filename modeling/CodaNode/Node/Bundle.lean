/-
Module: CodaNode.Node.Bundle
Layer: Node
Purpose: What a bundle does to the settings object: the part of `apply_node_bundle` in front of its first
  suspension, which assigns the fields one by one and returns the VPN profile that is to be installed.
  Also the fingerprint, and the config that is persisted of a settings object.
Imports: CodaNode.Node.Config
Main exports: applyFields, resolveMachineFingerprint, persistedEntries, persistedConfigText
-/
import CodaNode.Node.Config

namespace CodaNode.Node

open Python (Json)

variable (runtime : Runtime)

/-- `bundle.get(key)` -/
def entry (bundle : List (String × Value)) (key : String) : Value := (Json.get bundle key).getD .null

/-- `_as_str`. [SRC service.py:275-280] -/
def asStr (bundle : List (String × Value)) (key : String) : Except Failure String :=
  match entry bundle key with
  | .str text => if text = "" then .error (.missingKey key) else .ok text
  | _ => .error (.missingKey key)

theorem asStr_ok {bundle : List (String × Value)} {key text : String} (read : asStr bundle key = .ok text) :
    entry bundle key = .str text ∧ text ≠ "" := by
  unfold asStr at read
  split at read
  · next found same =>
    split at read
    · cases read
    · next some =>
      cases read
      exact ⟨same, some⟩
  · cases read

/-- `_as_int`. [SRC service.py:283-288] -/
def asInt (bundle : List (String × Value)) (key : String) (default : Value) : Except Failure Value :=
  match (Json.get bundle key).getD default with
  | .int value => .ok (.int value)
  | .bool value => .ok (.bool value)
  | _ => .error (.invalidKey key)

/-- `first or second` -/
def orElse (first second : Value) : Value := if truthy first then first else second

/-- A text that is not empty, in the way the optional keys are read. -/
def textEntry (bundle : List (String × Value)) (key : String) : Option String :=
  match entry bundle key with
  | .str text => if text = "" then none else some text
  | _ => none

/-- A credential that the bundle brings or the settings have. -/
def applyCredential (files : Files) (bundle : List (String × Value)) (field : Field) : Action Unit := do
  match textEntry bundle field.name with
  | some text => assign runtime files field (.str text)
  | none =>
      let settings ← get
      if !truthy (settings field) then throw (.missingKey field.name)

/-- A path that the bundle may bring. -/
def applyPath (files : Files) (bundle : List (String × Value)) (field : Field) : Action Unit :=
  match textEntry bundle field.name with
  | some text => assign runtime files field (.str text)
  | none => pure ()

/-- The key of the URL of the web application. -/
def webappKey (bundle : List (String × Value)) : String :=
  if (Json.get bundle "webapp_url").isSome then "webapp_url" else "cloud_base_url"

/-- `vpn.get("required")` when it is a truth value. -/
def requiredEntry (vpn : List (String × Value)) : Option Value :=
  match entry vpn "required" with
  | .bool value => some (.bool value)
  | _ => none

/-- `vpn.get("interface_hint")` when it is null or a text. -/
def hintEntry (vpn : List (String × Value)) : Option Value :=
  match entry vpn "interface_hint" with
  | .null => some .null
  | .str text => some (.str text)
  | _ => none

/-- `vpn.get("check_interval_sec")` when it is a number. -/
def intervalEntry (vpn : List (String × Value)) : Option Value :=
  match entry vpn "check_interval_sec" with
  | .int value => some (.int value)
  | .bool value => some (.bool value)
  | _ => none

/-- `vpn.get("probe_targets")` when it is a list of texts. -/
def targetsEntry (vpn : List (String × Value)) : Option (List Value) :=
  match entry vpn "probe_targets" with
  | .list items => if Kind.texts.fits (.list items) then some items else none
  | _ => none

/-- The assignment of a value, if there is one. -/
def assignSome (files : Files) (field : Field) : Option Value → Action Unit
  | some value => assign runtime files field value
  | none => pure ()

/-- The settings of the VPN block. [SRC service.py:521-538] -/
def applyVpnFields (files : Files) (vpn : List (String × Value)) : Action Unit := do
  assignSome runtime files .vpnRequired (requiredEntry vpn)
  assignSome runtime files .vpnInterfaceHint (hintEntry vpn)
  assignSome runtime files .vpnCheckIntervalSec (intervalEntry vpn)
  match targetsEntry vpn with
  | some (item :: items) => assign runtime files .vpnProbeTargets (.list (item :: items))
  | _ => pure ()

/-- The profile to install. [SRC service.py:540-546] -/
def profileToInstall (vpn : List (String × Value)) : Action (Option String) := do
  let profile := textEntry vpn "client_profile_ovpn"
  let settings ← get
  if truthy (settings .vpnRequired) ∧ profile = none then throw .profileMissing
  else if truthy (settings .nodeAutoVpn) then pure profile
  else pure none

/-- The settings in front of the VPN block. [SRC service.py:483-517] -/
def applyIdentity (files : Files) (bundle : List (String × Value)) : Action Unit := do
  let qpuId ← Action.lift (asStr bundle "qpu_id")
  assign runtime files .qpuId (.str qpuId)
  assign runtime files .qpuDisplayName
    (orElse (entry bundle "qpu_display_name") (orElse (entry bundle "qpu_label") (.str "")))
  let nativeGateSet ← Action.lift (asStr bundle "native_gate_set")
  assign runtime files .nativeGateSet (.str nativeGateSet)
  let settings ← get
  let numQubits ← Action.lift (asInt bundle "num_qubits" (settings .numQubits))
  assign runtime files .numQubits numQubits
  applyCredential runtime files bundle .jwtPrivateKey
  applyCredential runtime files bundle .jwtKeyId
  let redisUrl ← Action.lift (asStr bundle "redis_url")
  assign runtime files .redisUrl (.str redisUrl)
  let webappUrl ← Action.lift (asStr bundle (webappKey bundle))
  assign runtime files .webappUrl (.str webappUrl)
  applyPath runtime files bundle .connectPath
  applyPath runtime files bundle .heartbeatPath
  applyPath runtime files bundle .webhookPath

/-- The type of a value that is no dictionary, as the exception names it. -/
def typeName : Value → String
  | .null => "NoneType"
  | .bool _ => "bool"
  | .int _ => "int"
  | .float _ => "float"
  | .str _ => "str"
  | .list _ => "list"
  | .dict _ => "dict"

/-- `apply_node_bundle` up to its first suspension. [SRC service.py:483-546] -/
def applyFields (files : Files) : Value → Action (Option String)
  | .dict bundle => do
      applyIdentity runtime files bundle
      match entry bundle "vpn" with
      | .dict vpn => do
          applyVpnFields runtime files vpn
          profileToInstall vpn
      | _ => pure none
  | other => throw (.noAttribute s!"'{typeName other}' object has no attribute 'get'")

/-- `_resolve_machine_fingerprint`. [SRC service.py:291-295] -/
def resolveMachineFingerprint (files : Files) (machine : String) : Action Value := do
  let settings ← get
  let fingerprint := orElse (settings .nodeMachineFingerprint) (.str machine)
  assign runtime files .nodeMachineFingerprint fingerprint
  pure fingerprint

/-- The dictionary that is persisted. [SRC service.py:128-147] -/
def persistedEntries (settings : Settings) : List (String × Value) :=
  [("qpu_id", settings .qpuId), ("qpu_display_name", settings .qpuDisplayName),
    ("native_gate_set", settings .nativeGateSet), ("num_qubits", settings .numQubits),
    ("jwt_key_id", settings .jwtKeyId), ("jwt_private_key_path", .str persistedPrivateKeyPath),
    ("redis_url", settings .redisUrl), ("webapp_url", settings .webappUrl),
    ("connect_path", settings .connectPath), ("heartbeat_path", settings .heartbeatPath),
    ("webhook_path", settings .webhookPath), ("vpn_required", settings .vpnRequired),
    ("vpn_check_interval_sec", settings .vpnCheckIntervalSec),
    ("vpn_interface_hint", settings .vpnInterfaceHint),
    ("vpn_probe_targets", settings .vpnProbeTargets), ("node_auto_vpn", settings .nodeAutoVpn),
    ("node_vpn_profile_path", settings .nodeVpnProfilePath),
    ("node_machine_fingerprint", settings .nodeMachineFingerprint)]

theorem get_persistedEntries (settings : Settings) :
    ∀ field ∈ Field.persisted, Json.get (persistedEntries settings) field.name = some (settings field) := by
  intro field inside
  cases field <;> first | rfl | exact absurd inside (by decide)

/-- The text of the persisted config. [SRC service.py:148] -/
def persistedConfigText (settings : Settings) : String :=
  Json.dumps runtime.writeFloat (.dict (persistedEntries settings)) ++ "\n"

end CodaNode.Node
