/-
Module: CodaNode.Node.Config
Layer: Node
Purpose: The configuration of the node: the loader of the persisted files, the merge in front of every
  validation, the validators behind it, the assignment of a field and the construction of the settings
  object. A program that works on the settings object is an `Action`: it keeps what it has assigned also
  when it raises. The files are those of POSIX, with `/tmp` as the temporary directory.
Imports: CodaNode.Node.Settings, CodaNode.Python.Lines
Main exports: Failure, Files, loadPersistedRuntimeConfig, Action, assign, construct
-/
import CodaNode.Node.Settings
import CodaNode.Python.Lines

namespace CodaNode.Node

open Python (Json strip splitlines)

/-- What provisioning can fail with. -/
inductive Failure where
  | forbiddenDirective (message : String)
  | openvpn (message : String)
  | noTunnel (logTail : String)
  | missingKey (key : String)
  | invalidKey (key : String)
  | connectFailed (message : String)
  | tokenEmpty
  | profileMissing
  | persistedProfileNotFound
  | config (message : String)
  | validation (message : String)
  | noAttribute (message : String)
  | os (message : String)
  | other (message : String)
  | cancelled
deriving DecidableEq, Repr

namespace Failure

/-- The text of the exception. -/
def message : Failure → String
  | noTunnel logTail =>
      "OpenVPN daemon started but no VPN tunnel interface appeared within 30.0s. Check firewall rules " ++
        "and VPN endpoint connectivity." ++
        (if logTail = "" then "" else "\nOpenVPN log tail:\n" ++ logTail)
  | missingKey key => s!"Node response missing valid '{key}'"
  | invalidKey key => s!"Node response has invalid '{key}'"
  | tokenEmpty => "node token is empty"
  | profileMissing =>
      "VPN is required but node response did not include a VPN profile. Check VPN infrastructure " ++
        "status in the coda admin panel."
  | persistedProfileNotFound =>
      "Persisted VPN profile not found. Re-run node provisioning with a new token."
  | forbiddenDirective message | openvpn message | connectFailed message | config message
  | validation message | noAttribute message | os message | other message => message
  | cancelled => ""

/-- `except Exception` catches it. -/
def isException : Failure → Bool
  | cancelled => false
  | _ => true

end Failure

/-! ### Files -/

/-- A file: its text, if it can be decoded, and its permissions. -/
structure File where
  text : Option String
  mode : Nat
deriving DecidableEq, Repr

/-- The files by their paths. -/
abbrev Files := String → Option File

/-- The files with another one at a path. -/
def Files.put (files : Files) (path : String) (file : File) : Files :=
  fun other => if other = path then some file else files other

@[simp] theorem Files.put_self (files : Files) (path : String) (file : File) :
    files.put path file path = some file := if_pos rfl

theorem Files.put_other {files : Files} {path other : String} {file : File} (different : other ≠ path) :
    files.put path file other = files other := if_neg different

/-- `PERSISTED_CONFIG_PATH` -/
def persistedConfigPath : String := "/tmp/coda.config"

/-- `PERSISTED_PRIVATE_KEY_PATH` -/
def persistedPrivateKeyPath : String := "/tmp/coda-private-key"

/-- `OPENVPN_PID_PATH` -/
def openvpnPidPath : String := "/tmp/coda-node-openvpn.pid"

/-- `0o600` -/
def ownerOnly : Nat := 0o600

/-- `path.read_text()` of a file that exists. The text mode reads every line end as a line feed. -/
def File.readText (file : File) : Except Failure String :=
  match file.text with
  | some text => .ok (String.ofList (Python.universalNewlines text.toList))
  | none => .error (.other "the file cannot be decoded")

/-- What has no carriage return is read as it stands in the file. -/
theorem File.readText_plain {text : String} {mode : Nat} (plain : '\r' ∉ text.toList) :
    File.readText ⟨some text, mode⟩ = .ok text := by
  unfold File.readText
  dsimp only
  rw [Python.universalNewlines_of_plain plain, String.ofList_toList]

/-- `_read_secure_text`. [SRC config.py:47-55] -/
def readSecureText (files : Files) (path : String) : Except Failure String :=
  match files path with
  | none => .ok ""
  | some file =>
      if file.mode ≠ ownerOnly then .error (.config s!"{path} must have permissions 0600")
      else file.readText

/-! ### The persisted config -/

variable (runtime : Runtime)

/-- `Path(str(data.get("jwt_private_key_path") or PERSISTED_PRIVATE_KEY_PATH))` -/
def privateKeyPath (entries : List (String × Value)) : String :=
  match Json.get entries "jwt_private_key_path" with
  | some value => if truthy value then runtime.str value else persistedPrivateKeyPath
  | none => persistedPrivateKeyPath

/-- The settings a config object and a private key carry. [SRC config.py:90-116] -/
def persistedData (entries : List (String × Value)) (privateKey : String) : Data := fun field =>
  if field ∈ Field.persisted then Json.get entries field.name
  else if field = .jwtPrivateKey ∧ privateKey ≠ "" then some (.str privateKey)
  else none

/-- `load_persisted_runtime_config`. [SRC config.py:58-116] -/
def loadPersistedRuntimeConfig (files : Files) : Except Failure Data :=
  match files persistedConfigPath with
  | none => .ok fun _ => none
  | some _ => do
      let rawConfig ← readSecureText files persistedConfigPath
      if strip rawConfig.toList = [] then .ok fun _ => none
      else
        match Json.loads runtime.readFloat rawConfig with
        | some (.dict entries) => do
            let privateKey ← readSecureText files (privateKeyPath runtime entries)
            .ok (persistedData entries privateKey)
        | some _ => .error (.config s!"{persistedConfigPath} must contain a JSON object")
        | none => .error (.other "the config is no JSON text")

/-- One entry of the dictionary behind the merge. -/
def filled (persisted data : Data) : Data := fun field =>
  match persisted field with
  | none => data field
  | some value =>
      match data field with
      | none => some value
      | some current => if isUnset current then some value else some current

/-- `merge_persisted_runtime_config`. [SRC config.py:206-225] -/
def mergePersistedRuntimeConfig (files : Files) (data : Data) : Except Failure Data :=
  if ((data .nodeToken).map truthy).getD false then .ok data
  else do
    let persisted ← loadPersistedRuntimeConfig runtime files
    .ok (filled persisted data)

/-! ### The executor factory of a device config -/

/-- Whether a character lies inside quotes: single quotes, double quotes. -/
structure Quotes where
  single : Bool
  double : Bool

/-- The text in front of the first hash sign outside quotes, if there is one. -/
def beforeHash (quotes : Quotes) : List Char → Option (List Char)
  | [] => none
  | char :: rest =>
      if char = '\'' ∧ quotes.double = false then
        (beforeHash ⟨!quotes.single, quotes.double⟩ rest).map (char :: ·)
      else if char = '"' ∧ quotes.single = false then
        (beforeHash ⟨quotes.single, !quotes.double⟩ rest).map (char :: ·)
      else if char = '#' ∧ quotes.single = false ∧ quotes.double = false then some []
      else (beforeHash quotes rest).map (char :: ·)

/-- `_strip_inline_yaml_comment`. [SRC config.py:119-130] -/
def stripInlineYamlComment (value : List Char) : List Char :=
  match beforeHash ⟨false, false⟩ value with
  | some start => (start.reverse.dropWhile Python.isSpace).reverse
  | none => strip value

/-- The group of `^executor_factory\s*:\s*(.+?)\s*$` in a line without white space around it. -/
def executorFactoryValue (line : List Char) : Option (List Char) :=
  if "executor_factory".toList.isPrefixOf line then
    match (line.drop "executor_factory".length).dropWhile Python.isSpace with
    | ':' :: rest =>
        let value := rest.dropWhile Python.isSpace
        if value = [] then none else some value
    | _ => none
  else none

/-- A value without the quotes around it. -/
def unquoted (value : List Char) : List Char :=
  match value with
  | '"' :: rest => if rest.getLast? = some '"' then rest.dropLast else value
  | '\'' :: rest => if rest.getLast? = some '\'' then rest.dropLast else value
  | _ => value

/-- The loop over the lines of the device config. -/
def executorFactoryOf : List (List Char) → String
  | [] => ""
  | line :: lines =>
      if line.head? = some ' ' ∨ line.head? = some '\t' then executorFactoryOf lines
      else
        match executorFactoryValue (strip line) with
        | some value => String.ofList (strip (unquoted (stripInlineYamlComment value)))
        | none => executorFactoryOf lines

/-- `_load_executor_factory_from_device_config`: a file that cannot be opened counts as empty.
[SRC config.py:133-150] -/
def loadExecutorFactory (files : Files) (path : String) : Except Failure String :=
  match files path with
  | none => .ok ""
  | some file => do
      let text ← file.readText
      .ok (executorFactoryOf (splitlines text.toList))

/-! ### Work on the settings object -/

/-- A program that reads and assigns fields. What it has assigned stays when it raises. -/
abbrev Action := EStateM Failure Settings

/-- The value of a computation that may fail. -/
def Action.lift {α : Type} : Except Failure α → Action α
  | .ok value => pure value
  | .error failure => throw failure

/-- The text of a value. -/
def textOf : Value → String
  | .str text => text
  | _ => ""

/-- The checks in front of the validators that run behind them: the merge over the current values, and
the validation of the assigned one. -/
def assignField (files : Files) (field : Field) (value : Value) : Action Unit := do
  let settings ← get
  let merged ← Action.lift (mergePersistedRuntimeConfig runtime files fun other => some (settings other))
  match runtime.validate field value with
  | .error message => throw (.validation message)
  | .ok value => set (Settings.set (fun other => (merged other).getD (settings other)) field value)

/-- `check_jwt_or_node_token`. [SRC config.py:253-268] -/
def checkJwtOrNodeToken : Action Unit := do
  let settings ← get
  if !truthy (settings .nodeToken) then
    if !truthy (settings .jwtPrivateKey) then
      throw (.validation ("CODA_JWT_PRIVATE_KEY must be set (or provide CODA_NODE_TOKEN for " ++
        "auto-provisioning)"))
    if !truthy (settings .jwtKeyId) then
      throw (.validation ("CODA_JWT_KEY_ID must be set (or provide CODA_NODE_TOKEN for " ++
        "auto-provisioning)"))

/-- `apply_device_config_executor_factory`; `behind` are the validators that run behind its assignment.
[SRC config.py:237-251] -/
def applyDeviceConfigExecutorFactory (files : Files) (behind : Action Unit) : Action Unit := do
  let settings ← get
  if truthy (settings .executorFactory) || !truthy (settings .deviceConfig) then pure ()
  else
    let resolved ← Action.lift (loadExecutorFactory files (textOf (settings .deviceConfig)))
    if resolved = "" then pure ()
    else
      assignField runtime files .executorFactory (.str resolved)
      behind

/-- The default of `device_config`. -/
def defaultDeviceConfig : String := "site/device.yaml"

/-- `apply_default_device_config`. [SRC config.py:227-235] -/
def applyDefaultDeviceConfig (files : Files) (behind : Action Unit) : Action Unit := do
  let settings ← get
  if truthy (settings .deviceConfig) then pure ()
  else if (files defaultDeviceConfig).isSome then
    assignField runtime files .deviceConfig (.str defaultDeviceConfig)
    behind

/-- The validators that run behind an assignment. Their own assignments run them again: behind that of
the executor factory only the last one has something to do, behind that of the device config the last
two. -/
def afterValidators (files : Files) : Action Unit := do
  applyDefaultDeviceConfig runtime files do
    applyDeviceConfigExecutorFactory runtime files checkJwtOrNodeToken
    checkJwtOrNodeToken
  applyDeviceConfigExecutorFactory runtime files checkJwtOrNodeToken
  checkJwtOrNodeToken

/-- `settings.field = value`. [SRC config.py:300] -/
def assign (files : Files) (field : Field) (value : Value) : Action Unit := do
  assignField runtime files field value
  afterValidators runtime files

/-- The value of a field at construction: validated when it is given. -/
def initialValue (data : Data) (field : Field) : Except Failure Value :=
  match data field with
  | none => .ok field.default
  | some value =>
      match runtime.validate field value with
      | .ok value => .ok value
      | .error message => .error (.validation message)

/-- The failure of a computation. -/
def failureOf {α : Type} : Except Failure α → Option Failure
  | .ok _ => none
  | .error failure => some failure

/-- The fields at construction. -/
def initialSettings (data : Data) : Except Failure Settings :=
  match Field.all.findSome? fun field => failureOf (initialValue runtime data field) with
  | some failure => .error failure
  | none => .ok fun field => ((initialValue runtime data field).toOption).getD .null

/-- `Settings()` in an environment. -/
def construct (files : Files) (environment : Data) : Except Failure Settings := do
  let data ← mergePersistedRuntimeConfig runtime files environment
  let settings ← initialSettings runtime data
  match afterValidators runtime files settings with
  | .ok _ settings => .ok settings
  | .error failure _ => .error failure

end CodaNode.Node
