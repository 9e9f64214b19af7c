/-
Module: CodaNode.Node.Settings
Layer: Node
Purpose: The settings object: the fields that provisioning reads, writes or persists, with their names,
  types and defaults, and the values they take. What Python and pydantic contribute is the parameter
  `Runtime`; `Runtime.Documented` is what their documentation promises about it.
Imports: CodaNode.Python.Json, CodaNode.Server.Ir
Main exports: Value, Field, Kind, Settings, Runtime, Runtime.Documented
-/
import CodaNode.Python.Json
import CodaNode.Server.Ir

namespace CodaNode.Node

open Python (Json)

/-- A value of a field, of a bundle or of the persisted config. -/
abbrev Value := Json PyFloat

/-- `bool(value)` -/
def truthy : Value → Bool
  | .null => false
  | .bool value => value
  | .int value => value ≠ 0
  | .float value => value ≠ .finite 0
  | .str text => text ≠ ""
  | .list items => !items.isEmpty
  | .dict entries => !entries.isEmpty

/-- `value in ("", None, [])` -/
def isUnset : Value → Bool
  | .str text => text = ""
  | .null => true
  | .list items => items.isEmpty
  | _ => false

/-- The types of the fields. -/
inductive Kind where
  | text
  | optionalText
  | int
  | flag
  | texts
deriving DecidableEq, Repr

/-- The value has the type. -/
def Kind.fits : Kind → Value → Bool
  | .text, .str _ => true
  | .optionalText, .str _ | .optionalText, .null => true
  | .int, .int _ => true
  | .flag, .bool _ => true
  | .texts, .list items => items.all fun item => match item with | .str _ => true | _ => false
  | _, _ => false

/-- The fields of the settings. [SRC config.py:167-204] -/
inductive Field where
  | qpuId
  | qpuDisplayName
  | nativeGateSet
  | numQubits
  | redisUrl
  | jwtPrivateKey
  | jwtKeyId
  | webappUrl
  | webhookPath
  | connectPath
  | heartbeatPath
  | vpnRequired
  | vpnCheckIntervalSec
  | vpnProbeTargets
  | vpnInterfaceHint
  | nodeToken
  | nodeMachineFingerprint
  | nodeAutoVpn
  | nodeVpnProfilePath
  | nodeConnectRetries
  | executorFactory
  | deviceConfig
deriving DecidableEq, Repr

namespace Field

/-- The fields in the order of the class. -/
def all : List Field :=
  [qpuId, qpuDisplayName, nativeGateSet, numQubits, redisUrl, jwtPrivateKey, jwtKeyId, webappUrl,
    webhookPath, connectPath, heartbeatPath, vpnRequired, vpnCheckIntervalSec, vpnProbeTargets,
    vpnInterfaceHint, nodeToken, nodeMachineFingerprint, nodeAutoVpn, nodeVpnProfilePath,
    nodeConnectRetries, executorFactory, deviceConfig]

theorem mem_all (field : Field) : field ∈ all := by
  cases field <;> decide

/-- The name of a field. -/
def name : Field → String
  | qpuId => "qpu_id"
  | qpuDisplayName => "qpu_display_name"
  | nativeGateSet => "native_gate_set"
  | numQubits => "num_qubits"
  | redisUrl => "redis_url"
  | jwtPrivateKey => "jwt_private_key"
  | jwtKeyId => "jwt_key_id"
  | webappUrl => "webapp_url"
  | webhookPath => "webhook_path"
  | connectPath => "connect_path"
  | heartbeatPath => "heartbeat_path"
  | vpnRequired => "vpn_required"
  | vpnCheckIntervalSec => "vpn_check_interval_sec"
  | vpnProbeTargets => "vpn_probe_targets"
  | vpnInterfaceHint => "vpn_interface_hint"
  | nodeToken => "node_token"
  | nodeMachineFingerprint => "node_machine_fingerprint"
  | nodeAutoVpn => "node_auto_vpn"
  | nodeVpnProfilePath => "node_vpn_profile_path"
  | nodeConnectRetries => "node_connect_retries"
  | executorFactory => "executor_factory"
  | deviceConfig => "device_config"

/-- The declared type of a field. -/
def kind : Field → Kind
  | numQubits | vpnCheckIntervalSec | nodeConnectRetries => .int
  | vpnRequired | nodeAutoVpn => .flag
  | vpnProbeTargets => .texts
  | vpnInterfaceHint => .optionalText
  | _ => .text

/-- The default of a field. -/
def default : Field → Value
  | nativeGateSet => .str "cz"
  | numQubits => .int 5
  | webappUrl => .str "https://coda.conductorquantum.com"
  | webhookPath => .str "/api/internal/qpu/webhook"
  | connectPath => .str "/api/internal/qpu/connect"
  | heartbeatPath => .str "/api/internal/qpu/heartbeat"
  | vpnRequired => .bool true
  | vpnCheckIntervalSec => .int 10
  | vpnProbeTargets => .list []
  | vpnInterfaceHint => .null
  | nodeAutoVpn => .bool true
  | nodeVpnProfilePath => .str "/tmp/coda-node.ovpn"
  | nodeConnectRetries => .int 3
  | _ => .str ""

theorem default_fits (field : Field) : field.kind.fits field.default := by
  cases field <;> rfl

/-- The keys `load_persisted_runtime_config` takes from the config. [SRC config.py:91-109] -/
def persisted : List Field :=
  [qpuId, qpuDisplayName, nativeGateSet, numQubits, jwtKeyId, redisUrl, webappUrl, connectPath,
    heartbeatPath, webhookPath, vpnRequired, vpnCheckIntervalSec, vpnInterfaceHint, vpnProbeTargets,
    nodeAutoVpn, nodeVpnProfilePath, nodeMachineFingerprint]

end Field

/-- The settings object. -/
abbrev Settings := Field → Value

/-- A dictionary with field names as its keys. -/
abbrev Data := Field → Option Value

/-- The object with another value in one field. -/
def Settings.set (settings : Settings) (field : Field) (value : Value) : Settings :=
  fun other => if other = field then value else settings other

@[simp] theorem Settings.set_self (settings : Settings) (field : Field) (value : Value) :
    settings.set field value field = value := if_pos rfl

theorem Settings.set_other {settings : Settings} {field other : Field} {value : Value}
    (different : other ≠ field) : settings.set field value other = settings other := if_neg different

/-- Every field has a value of its type. -/
def Settings.Typed (settings : Settings) : Prop := ∀ field : Field, field.kind.fits (settings field)

/-- What the language and pydantic contribute: the reader and the writer of float literals, `str` of a
value, and the validation of one field. -/
structure Runtime where
  readFloat : List Char → PyFloat
  writeFloat : PyFloat → List Char
  str : Value → String
  validate : Field → Value → Except String Value

/-- A value of the type of its field is taken as it is, a validated value has the type of its field, only
numbers and truth values are converted, and a truth value is a number. -/
structure Runtime.Documented (runtime : Runtime) : Prop where
  str : ∀ text, runtime.str (.str text) = text
  fits : ∀ (field : Field) (value : Value), field.kind.fits value → runtime.validate field value = .ok value
  typed : ∀ (field : Field) (value result : Value), runtime.validate field value = .ok result →
    field.kind.fits result
  unconverted : ∀ (field : Field) (value result : Value), field.kind ≠ .int → field.kind ≠ .flag →
    runtime.validate field value = .ok result → result = value
  number : ∀ (field : Field) (value : Bool), field.kind = .int →
    runtime.validate field (.bool value) = .ok (.int value.toNat)

theorem Runtime.Documented.text {runtime : Runtime} (documented : runtime.Documented) (field : Field)
    (value result : Value) (kind : field.kind = .text) (validated : runtime.validate field value = .ok result) :
    result = value :=
  documented.unconverted field value result (by simp [kind]) (by simp [kind]) validated

/-- A runtime that converts nothing but truth values. Its floats are written and read as one literal. -/
def Runtime.strict : Runtime where
  readFloat _ := .finite 0
  writeFloat _ := "0.0".toList
  str
    | .str text => text
    | _ => ""
  validate field value :=
    if field.kind.fits value then .ok value
    else
      match field.kind, value with
      | .int, .bool value => .ok (.int value.toNat)
      | _, _ => .error "Input should be of another type"

theorem Runtime.strict_documented : Runtime.strict.Documented where
  str _ := rfl
  fits _ _ fits := if_pos fits
  typed field value result validated := by
    unfold strict at validated
    dsimp only at validated
    split at validated
    · next fits =>
      cases validated
      exact fits
    · split at validated
      · next kind _ =>
        cases validated
        rw [kind]
        rfl
      · cases validated
  unconverted field value result noNumber _ validated := by
    unfold strict at validated
    dsimp only at validated
    split at validated
    · cases validated
      rfl
    · split at validated
      · next kind _ => exact absurd kind noNumber
      · cases validated
  number field value kind := by
    unfold strict
    dsimp only
    rw [kind]
    rfl

end CodaNode.Node
