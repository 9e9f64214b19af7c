/-
Module: CodaNode.Node.Credentials
Layer: Node
Purpose: A field that is set stays set, with and without a node token: no merge and no validator empties it.
  A bundle that is applied leaves both credentials and the other required texts behind.
Imports: CodaNode.Node.Bundle, CodaNode.Node.Assignments
Main exports: Action.Keeps, assign_keeps, FilledAll, applyFields_fills
-/
import CodaNode.Node.Bundle
import CodaNode.Node.Assignments

namespace CodaNode.Node

open Python (Json)

/-- What holds in front of the program holds behind it, if it ends. -/
def Action.Keeps {α : Type} (holds : Settings → Prop) (action : Action α) : Prop :=
  ∀ ⦃settings : Settings⦄ ⦃value : α⦄ ⦃after : Settings⦄, action settings = .ok value after → holds settings →
    holds after

namespace Action.Keeps

variable {α β : Type} {holds : Settings → Prop}

theorem pure (value : α) : Keeps holds (Pure.pure value : Action α) := by
  intro settings result after runs here
  obtain ⟨-, rfl⟩ := Action.pure_ok.mp runs
  exact here

theorem throw (failure : Failure) : Keeps holds (MonadExcept.throw failure : Action α) := by
  intro settings result after runs here
  exact absurd runs Action.throw_ok

theorem lift (computed : Except Failure α) : Keeps holds (Action.lift computed) := by
  intro settings result after runs here
  obtain ⟨-, rfl⟩ := Action.lift_ok.mp runs
  exact here

theorem bind {first : Action α} {next : α → Action β} (head : Keeps holds first)
    (tail : ∀ value, Keeps holds (next value)) : Keeps holds (first >>= next) := by
  intro settings result after runs here
  obtain ⟨value, middle, begins, ends⟩ := Action.bind_ok.mp runs
  exact tail value ends (head begins here)

theorem get {next : Settings → Action β} (tail : ∀ settings, Keeps holds (next settings)) :
    Keeps holds (MonadState.get >>= next) := by
  intro settings result after runs here
  rw [Action.get_bind] at runs
  exact tail settings runs here

end Action.Keeps

variable {runtime : Runtime} {files : Files} {own field : Field} {value : Value}

/-- The field is set. -/
def Filled (own : Field) (settings : Settings) : Prop := truthy (settings own)

/-- A value that Python takes as true is none of the values the merge replaces. -/
theorem isUnset_of_truthy {value : Value} (some : truthy value = true) : isUnset value = false := by
  cases value with
  | null => cases some
  | str text => simpa [truthy, isUnset] using some
  | list items => simpa [truthy, isUnset] using some
  | _ => rfl

/-- The merge leaves a value that is set, whatever the persisted config has for the field. -/
theorem filled_set {persisted data : Data} (given : data field = some value) (set : isUnset value = false) :
    filled persisted data field = some value := by
  unfold filled
  rw [given]
  cases persisted field with
  | none => rfl
  | some older => simp [set]

/-- A field that is set comes out of the merge with its own value. -/
theorem merge_keeps {data merged : Data} (runs : mergePersistedRuntimeConfig runtime files data = .ok merged)
    (given : data own = some value) (set : isUnset value = false) : merged own = some value := by
  unfold mergePersistedRuntimeConfig at runs
  split at runs
  · cases runs
    exact given
  · cases loaded : loadPersistedRuntimeConfig runtime files with
    | error failure =>
        rw [loaded] at runs
        cases runs
    | ok persisted =>
        rw [loaded] at runs
        cases runs
        exact filled_set given set

/-- Storing one value leaves every other field set that is: the merge refills only unset fields. -/
theorem assignField_keeps (different : own ≠ field) :
    (assignField runtime files field value).Keeps (Filled own) := by
  intro settings result after runs here
  unfold assignField at runs
  rw [Action.get_bind] at runs
  obtain ⟨merged, middle, lifted, stored⟩ := Action.bind_ok.mp runs
  obtain ⟨merging, rfl⟩ := Action.lift_ok.mp lifted
  cases valid : runtime.validate field value with
  | error message =>
    rw [valid] at stored
    exact absurd stored Action.throw_ok
  | ok validated =>
    have same : after = Settings.set (fun other => (merged other).getD (settings other)) field validated := by
      rw [valid] at stored
      cases stored
      rfl
    have stays : merged own = some (settings own) := merge_keeps merging rfl (isUnset_of_truthy here)
    rw [same, Filled, Settings.set_other different, stays]
    exact here

section

variable {holds : Settings → Prop}

/-- The check of token and credentials reads the settings and changes nothing. -/
theorem check_keeps : checkJwtOrNodeToken.Keeps holds := by
  intro settings result after runs here
  obtain ⟨-, rfl⟩ := checkJwtOrNodeToken_ok.mp runs
  exact here

/-- The validator behind the device config keeps what its one assignment keeps. -/
theorem factory_keeps (assigns : ∀ value, (assignField runtime files .executorFactory value).Keeps holds) :
    (applyDeviceConfigExecutorFactory runtime files checkJwtOrNodeToken).Keeps holds := by
  unfold applyDeviceConfigExecutorFactory
  apply Action.Keeps.get
  intro settings
  split
  · exact .pure _
  · refine .bind (.lift _) fun resolved => ?_
    split
    · exact .pure _
    · exact .bind (assigns _) fun _ => check_keeps

/-- The validator of the default device config keeps what its assignment and its continuation keep. -/
theorem default_keeps (assigns : ∀ value, (assignField runtime files .deviceConfig value).Keeps holds)
    {behind : Action Unit} (tail : behind.Keeps holds) :
    (applyDefaultDeviceConfig runtime files behind).Keeps holds := by
  unfold applyDefaultDeviceConfig
  apply Action.Keeps.get
  intro settings
  split
  · exact .pure _
  · split
    · exact .bind (assigns _) fun _ => tail
    · exact .pure _

/-- The validators keep what their own assignments keep. -/
theorem afterValidators_keeps
    (assigns : ∀ field : Field, ¬ field.Tracked → ∀ value, (assignField runtime files field value).Keeps holds) :
    (afterValidators runtime files).Keeps holds := by
  have factory : (applyDeviceConfigExecutorFactory runtime files checkJwtOrNodeToken).Keeps holds :=
    factory_keeps (assigns _ (by decide))
  unfold afterValidators
  refine .bind (default_keeps (assigns _ (by decide)) ?_) fun _ => ?_
  · exact .bind factory fun _ => check_keeps
  · exact .bind factory fun _ => check_keeps

end

/-- The validators assign only untracked fields, so a tracked one stays set. -/
theorem afterValidators_keepsFilled (tracked : own.Tracked) :
    (afterValidators runtime files).Keeps (Filled own) := by
  apply afterValidators_keeps
  intro field untracked value
  apply assignField_keeps
  rintro rfl
  exact untracked tracked

/-- An assignment leaves every other field set that is. -/
theorem assign_keeps (tracked : own.Tracked) (different : own ≠ field) :
    (assign runtime files field value).Keeps (Filled own) :=
  .bind (assignField_keeps different) fun _ => afterValidators_keepsFilled tracked

/-- An assignment of another field leaves the node token as it is: no config carries it. -/
theorem assignField_keepsToken {current : Value} (other : field ≠ .nodeToken) :
    (assignField runtime files field value).Keeps fun settings => settings .nodeToken = current := by
  rintro settings result after runs same
  unfold assignField at runs
  rw [Action.get_bind] at runs
  obtain ⟨merged, middle, lifted, stored⟩ := Action.bind_ok.mp runs
  obtain ⟨merging, rfl⟩ := Action.lift_ok.mp lifted
  have token : merged .nodeToken = some current := by
    unfold mergePersistedRuntimeConfig at merging
    split at merging
    · cases merging
      exact congrArg some same
    · cases loaded : loadPersistedRuntimeConfig runtime files with
      | error failure =>
          rw [loaded] at merging
          cases merging
      | ok persisted =>
          rw [loaded] at merging
          cases merging
          simp [filled, (spared_of_load loaded).token, same]
  cases valid : runtime.validate field value with
  | error message =>
    rw [valid] at stored
    exact absurd stored Action.throw_ok
  | ok validated =>
    rw [valid] at stored
    cases stored
    rw [Settings.set_other other.symm, token]
    rfl

/-- An assignment of another field leaves the node token as it is, validators included. -/
theorem assign_keepsToken {current : Value} (other : field ≠ .nodeToken) :
    (assign runtime files field value).Keeps fun settings => settings .nodeToken = current := by
  refine .bind (assignField_keepsToken other) fun _ => ?_
  apply afterValidators_keeps
  intro untracked notTracked value
  apply assignField_keepsToken
  rintro rfl
  exact notTracked (by decide)

/-- An assignment leaves the value of every other field that is set: no merge replaces it. -/
theorem assignField_keepsSet {current : Value} (set : isUnset current = false) (different : own ≠ field) :
    (assignField runtime files field value).Keeps fun settings => settings own = current := by
  rintro settings result after runs rfl
  unfold assignField at runs
  rw [Action.get_bind] at runs
  obtain ⟨merged, middle, lifted, stored⟩ := Action.bind_ok.mp runs
  obtain ⟨merging, rfl⟩ := Action.lift_ok.mp lifted
  have stays : merged own = some (settings own) := merge_keeps merging rfl set
  cases valid : runtime.validate field value with
  | error message =>
    rw [valid] at stored
    exact absurd stored Action.throw_ok
  | ok validated =>
    rw [valid] at stored
    cases stored
    rw [Settings.set_other different, stays]
    rfl

theorem afterValidators_keepsSet {current : Value} (set : isUnset current = false) (tracked : own.Tracked) :
    (afterValidators runtime files).Keeps fun settings => settings own = current := by
  apply afterValidators_keeps
  intro untracked notTracked value
  apply assignField_keepsSet set
  rintro rfl
  exact notTracked tracked

/-- An assignment with its validators leaves the value of every other tracked field that is set. -/
theorem assign_keepsSet {current : Value} (set : isUnset current = false) (tracked : own.Tracked)
    (different : own ≠ field) :
    (assign runtime files field value).Keeps fun settings => settings own = current :=
  .bind (assignField_keepsSet set different) fun _ => afterValidators_keepsSet set tracked

/-! ### Types -/

/-- What is loaded has the types of the fields. -/
def Native (runtime : Runtime) (files : Files) : Prop :=
  ∀ persisted, loadPersistedRuntimeConfig runtime files = .ok persisted →
    ∀ field value, persisted field = some value → field.kind.fits value = true

/-- The merge takes each value from the settings or from the persisted config, and both have the types of
the fields. -/
theorem filled_fits {persisted data : Data} (native : ∀ field value, persisted field = some value →
      field.kind.fits value = true) (fits : ∀ field value, data field = some value → field.kind.fits value = true)
    (found : filled persisted data field = some value) : field.kind.fits value = true := by
  unfold filled at found
  cases here : persisted field with
  | none =>
      rw [here] at found
      exact fits field value found
  | some older =>
      rw [here] at found
      cases given : data field with
      | none =>
          rw [given] at found
          cases found
          exact native field _ here
      | some current =>
          rw [given] at found
          dsimp only at found
          split at found
          · cases found
            exact native field _ here
          · cases found
            exact fits field _ given

theorem assignField_typed (documented : runtime.Documented) (native : Native runtime files) :
    (assignField runtime files field value).Keeps Settings.Typed := by
  intro settings result after runs typed
  unfold assignField at runs
  rw [Action.get_bind] at runs
  obtain ⟨merged, middle, lifted, stored⟩ := Action.bind_ok.mp runs
  obtain ⟨merging, rfl⟩ := Action.lift_ok.mp lifted
  have current : ∀ other found, some (settings other) = some found → other.kind.fits found = true := by
    rintro other found same
    cases same
    exact typed other
  have fits : ∀ other found, merged other = some found → other.kind.fits found = true := by
    intro other found here
    unfold mergePersistedRuntimeConfig at merging
    split at merging
    · cases merging
      exact current other found here
    · cases loaded : loadPersistedRuntimeConfig runtime files with
      | error failure =>
          rw [loaded] at merging
          cases merging
      | ok persisted =>
          rw [loaded] at merging
          cases merging
          exact filled_fits (native persisted loaded) current here
  cases valid : runtime.validate field value with
  | error message =>
    rw [valid] at stored
    exact absurd stored Action.throw_ok
  | ok validated =>
    rw [valid] at stored
    cases stored
    intro other
    by_cases same : other = field
    · rw [same, Settings.set_self]
      exact documented.typed field value validated valid
    · rw [Settings.set_other same]
      cases found : merged other with
      | none => exact typed other
      | some older => exact fits other older found

theorem afterValidators_typed (documented : runtime.Documented) (native : Native runtime files) :
    (afterValidators runtime files).Keeps Settings.Typed := by
  apply afterValidators_keeps
  intro _ _ _
  exact assignField_typed documented native

/-- The settings keep their types over what a node has persisted. -/
theorem assign_typed (documented : runtime.Documented) (native : Native runtime files) :
    (assign runtime files field value).Keeps Settings.Typed :=
  .bind (assignField_typed documented native) fun _ => afterValidators_typed documented native

/-- An assignment sets its field, when what the validation returns is set. -/
theorem assign_fills (tracked : own.Tracked) {settings after : Settings}
    (valid : ∀ result, runtime.validate own value = .ok result → truthy result)
    (runs : assign runtime files own value settings = .ok () after) : Filled own after := by
  obtain ⟨middle, assigned, runs⟩ := Action.seq_ok.mp runs
  apply afterValidators_keepsFilled tracked runs
  unfold assignField at assigned
  rw [Action.get_bind] at assigned
  obtain ⟨merged, between, lifted, stored⟩ := Action.bind_ok.mp assigned
  cases validated : runtime.validate own value with
  | error message =>
    rw [validated] at stored
    exact absurd stored Action.throw_ok
  | ok result =>
    have same : middle = Settings.set (fun other => (merged other).getD (settings other)) own result := by
      rw [validated] at stored
      cases stored
      rfl
    rw [same, Filled, Settings.set_self]
    exact valid result validated

/-- An assignment leaves what the validation returns, when that is set. -/
theorem assign_sets (tracked : own.Tracked) {result : Value} (valid : runtime.validate own value = .ok result)
    (set : isUnset result = false) {settings after : Settings}
    (runs : assign runtime files own value settings = .ok () after) : after own = result := by
  obtain ⟨middle, assigned, runs⟩ := Action.seq_ok.mp runs
  apply afterValidators_keepsSet set tracked runs
  unfold assignField at assigned
  rw [Action.get_bind] at assigned
  obtain ⟨merged, between, lifted, stored⟩ := Action.bind_ok.mp assigned
  rw [valid] at stored
  cases stored
  exact Settings.set_self ..

/-- An assignment of a non-empty text sets its field: pydantic returns a text as it is given. -/
theorem assign_fillsText (documented : runtime.Documented) (tracked : own.Tracked) (kind : own.kind = .text)
    {text : String} (some : text ≠ "") {settings after : Settings}
    (runs : assign runtime files own (.str text) settings = .ok () after) : Filled own after := by
  apply assign_fills tracked _ runs
  intro result validated
  rw [documented.text own (.str text) result kind validated]
  simpa [truthy] using some

/-! ### The bundle -/

section

variable {holds : Settings → Prop} {bundle : List (String × Value)}

/-- A value that is assigned when it is there keeps what its assignment keeps. -/
theorem assignSome_keeps (assigns : ∀ value, (assign runtime files field value).Keeps holds)
    (value : Option Value) : (assignSome runtime files field value).Keeps holds := by
  cases value with
  | none => exact .pure _
  | some value => exact assigns value

/-- A credential keeps what its assignment keeps: the other way out reads the settings only. -/
theorem applyCredential_keeps (assigns : ∀ value, (assign runtime files field value).Keeps holds) :
    (applyCredential runtime files bundle field).Keeps holds := by
  unfold applyCredential
  split
  · exact assigns _
  · apply Action.Keeps.get
    intro settings
    split
    · exact .throw _
    · exact .pure _

/-- An optional path keeps what its assignment keeps. -/
theorem applyPath_keeps (assigns : ∀ value, (assign runtime files field value).Keeps holds) :
    (applyPath runtime files bundle field).Keeps holds := by
  unfold applyPath
  split
  · exact assigns _
  · exact .pure _

/-- The fields in front of the VPN block. -/
def identityFields : List Field :=
  [.qpuId, .qpuDisplayName, .nativeGateSet, .numQubits, .jwtPrivateKey, .jwtKeyId, .redisUrl, .webappUrl,
    .connectPath, .heartbeatPath, .webhookPath]

/-- The fields in front of the VPN block keep what each of their assignments keeps. -/
theorem applyIdentity_keeps
    (assigns : ∀ field ∈ identityFields, ∀ value, (assign runtime files field value).Keeps holds) :
    (applyIdentity runtime files bundle).Keeps holds := by
  unfold applyIdentity
  refine .bind (.lift _) fun _ => ?_
  refine .bind (assigns _ (by decide) _) fun _ => ?_
  refine .bind (assigns _ (by decide) _) fun _ => ?_
  refine .bind (.lift _) fun _ => ?_
  refine .bind (assigns _ (by decide) _) fun _ => ?_
  refine .get fun _ => ?_
  refine .bind (.lift _) fun _ => ?_
  refine .bind (assigns _ (by decide) _) fun _ => ?_
  refine .bind (applyCredential_keeps (assigns _ (by decide))) fun _ => ?_
  refine .bind (applyCredential_keeps (assigns _ (by decide))) fun _ => ?_
  refine .bind (.lift _) fun _ => ?_
  refine .bind (assigns _ (by decide) _) fun _ => ?_
  refine .bind (.lift _) fun _ => ?_
  refine .bind (assigns _ (by decide) _) fun _ => ?_
  refine .bind (applyPath_keeps (assigns _ (by decide))) fun _ => ?_
  refine .bind (applyPath_keeps (assigns _ (by decide))) fun _ => ?_
  exact applyPath_keeps (assigns _ (by decide))

/-- The settings a VPN block can assign. -/
def vpnFields : List Field := [.vpnRequired, .vpnInterfaceHint, .vpnCheckIntervalSec, .vpnProbeTargets]

/-- The fields of the VPN block keep what each of their assignments keeps. -/
theorem applyVpnFields_keeps {vpn : List (String × Value)}
    (assigns : ∀ field ∈ vpnFields, ∀ value, (assign runtime files field value).Keeps holds) :
    (applyVpnFields runtime files vpn).Keeps holds := by
  unfold applyVpnFields
  refine .bind (assignSome_keeps (assigns _ (by decide)) _) fun _ => ?_
  refine .bind (assignSome_keeps (assigns _ (by decide)) _) fun _ => ?_
  refine .bind (assignSome_keeps (assigns _ (by decide)) _) fun _ => ?_
  split
  · exact assigns _ (by decide) _
  · exact .pure _

/-- Choosing the profile reads the settings and changes nothing. -/
theorem profileToInstall_keeps {vpn : List (String × Value)} : (profileToInstall vpn).Keeps holds := by
  unfold profileToInstall
  apply Action.Keeps.get
  intro settings
  split
  · exact .throw _
  · split <;> exact .pure _

/-- Recording the fingerprint keeps what its one assignment keeps. -/
theorem resolveMachineFingerprint_keeps {machine : String}
    (assigns : ∀ value, (assign runtime files .nodeMachineFingerprint value).Keeps holds) :
    (resolveMachineFingerprint runtime files machine).Keeps holds := by
  apply Action.Keeps.get
  intro settings
  exact .bind (assigns _) fun _ => .pure _

end

/-- A text that counts as given by the bundle is not empty. -/
theorem textEntry_ne_empty {bundle : List (String × Value)} {key text : String}
    (found : textEntry bundle key = some text) : text ≠ "" := by
  unfold textEntry at found
  split at found
  · split at found
    · cases found
    · next some =>
      cases found
      exact some
  · cases found

/-- The credential of a bundle, or the one that is there. -/
theorem applyCredential_fills (documented : runtime.Documented) (tracked : own.Tracked) (kind : own.kind = .text)
    {bundle : List (String × Value)} {settings after : Settings}
    (runs : applyCredential runtime files bundle own settings = .ok () after) : Filled own after := by
  unfold applyCredential at runs
  cases found : textEntry bundle own.name with
  | some text =>
    rw [found] at runs
    exact assign_fillsText documented tracked kind (textEntry_ne_empty found) runs
  | none =>
    rw [found] at runs
    dsimp only at runs
    rw [Action.get_bind] at runs
    split at runs
    · exact absurd runs Action.throw_ok
    · next some =>
      obtain ⟨-, rfl⟩ := Action.pure_ok.mp runs
      simpa [Filled] using some

/-- All these fields are set. -/
def FilledAll (owns : List Field) (settings : Settings) : Prop := ∀ own ∈ owns, Filled own settings

/-- An assignment of a field outside the list leaves the whole list set. -/
theorem assign_keepsAll {owns : List Field} (tracked : ∀ own ∈ owns, own.Tracked) (other : field ∉ owns) :
    (assign runtime files field value).Keeps (FilledAll owns) := by
  intro settings result after runs here own inside
  have different : own ≠ field := by
    rintro rfl
    exact other inside
  exact assign_keeps (tracked own inside) different runs (here own inside)

/-- One more field joins the list of those that are set. -/
theorem filledAll_cons {owns : List Field} {settings : Settings} (first : Filled own settings)
    (rest : FilledAll owns settings) : FilledAll (own :: owns) settings := by
  intro other inside
  rcases List.mem_cons.mp inside with rfl | later
  · exact first
  · exact rest other later

/-- The texts a bundle that is applied leaves behind. -/
def requiredFields : List Field := [.webappUrl, .redisUrl, .jwtKeyId, .jwtPrivateKey, .nativeGateSet, .qpuId]

/-- The identity of a bundle: every required text is set when it is assigned, and stays so. -/
theorem applyIdentity_fills (documented : runtime.Documented) {bundle : List (String × Value)}
    {settings after : Settings} (runs : applyIdentity runtime files bundle settings = .ok () after) :
    FilledAll requiredFields after := by
  have fills {own : Field} (tracked : own.Tracked) (kind : own.kind = .text) {key text : String}
      (read : asStr bundle key = .ok text) {settings after : Settings}
      (runs : assign runtime files own (.str text) settings = .ok () after) : Filled own after :=
    assign_fillsText documented tracked kind (asStr_ok read).2 runs
  obtain ⟨qpuId, _, lifted, runs⟩ := Action.bind_ok.mp runs
  obtain ⟨readQpuId, rfl⟩ := Action.lift_ok.mp lifted
  obtain ⟨first, assigned, runs⟩ := Action.seq_ok.mp runs
  have one : FilledAll [.qpuId] first :=
    filledAll_cons (fills (by decide) rfl readQpuId assigned) fun _ inside => by cases inside
  obtain ⟨second, assigned, runs⟩ := Action.seq_ok.mp runs
  have one : FilledAll [.qpuId] second := assign_keepsAll (by decide) (by decide) assigned one
  obtain ⟨nativeGateSet, _, lifted, runs⟩ := Action.bind_ok.mp runs
  obtain ⟨readGateSet, rfl⟩ := Action.lift_ok.mp lifted
  obtain ⟨third, assigned, runs⟩ := Action.seq_ok.mp runs
  have two : FilledAll [.nativeGateSet, .qpuId] third :=
    filledAll_cons (fills (by decide) rfl readGateSet assigned)
      (assign_keepsAll (by decide) (by decide) assigned one)
  rw [Action.get_bind] at runs
  obtain ⟨_, _, lifted, runs⟩ := Action.bind_ok.mp runs
  obtain ⟨-, rfl⟩ := Action.lift_ok.mp lifted
  obtain ⟨fourth, assigned, runs⟩ := Action.seq_ok.mp runs
  have two : FilledAll [.nativeGateSet, .qpuId] fourth := assign_keepsAll (by decide) (by decide) assigned two
  obtain ⟨fifth, key, runs⟩ := Action.seq_ok.mp runs
  have three : FilledAll [.jwtPrivateKey, .nativeGateSet, .qpuId] fifth :=
    filledAll_cons (applyCredential_fills documented (by decide) rfl key)
      (applyCredential_keeps (fun _ => assign_keepsAll (by decide) (by decide)) key two)
  obtain ⟨sixth, keyId, runs⟩ := Action.seq_ok.mp runs
  have four : FilledAll [.jwtKeyId, .jwtPrivateKey, .nativeGateSet, .qpuId] sixth :=
    filledAll_cons (applyCredential_fills documented (by decide) rfl keyId)
      (applyCredential_keeps (fun _ => assign_keepsAll (by decide) (by decide)) keyId three)
  obtain ⟨redisUrl, _, lifted, runs⟩ := Action.bind_ok.mp runs
  obtain ⟨readRedisUrl, rfl⟩ := Action.lift_ok.mp lifted
  obtain ⟨seventh, assigned, runs⟩ := Action.seq_ok.mp runs
  have five : FilledAll [.redisUrl, .jwtKeyId, .jwtPrivateKey, .nativeGateSet, .qpuId] seventh :=
    filledAll_cons (fills (by decide) rfl readRedisUrl assigned)
      (assign_keepsAll (by decide) (by decide) assigned four)
  obtain ⟨webappUrl, _, lifted, runs⟩ := Action.bind_ok.mp runs
  obtain ⟨readWebappUrl, rfl⟩ := Action.lift_ok.mp lifted
  obtain ⟨eighth, assigned, runs⟩ := Action.seq_ok.mp runs
  have six : FilledAll requiredFields eighth :=
    filledAll_cons (fills (by decide) rfl readWebappUrl assigned)
      (assign_keepsAll (by decide) (by decide) assigned five)
  have paths {field : Field} (apart : field ∉ requiredFields) :
      (applyPath runtime files bundle field).Keeps (FilledAll requiredFields) :=
    applyPath_keeps fun _ => assign_keepsAll (by decide) apart
  refine Action.Keeps.bind (paths (by decide)) (fun _ => ?_) runs six
  exact .bind (paths (by decide)) fun _ => paths (by decide)

/-- A bundle that is applied leaves every required text behind. -/
theorem applyFields_fills (documented : runtime.Documented) {bundle : Value} {profile : Option String}
    {settings after : Settings} (runs : applyFields runtime files bundle settings = .ok profile after) :
    FilledAll requiredFields after := by
  cases bundle with
  | dict bundle =>
      obtain ⟨middle, identity, runs⟩ := Action.seq_ok.mp runs
      have filled := applyIdentity_fills documented identity
      cases block : entry bundle "vpn" with
      | dict vpn =>
          rw [block] at runs
          have apart : ∀ field ∈ vpnFields, field ∉ requiredFields := by decide
          have fields : (applyVpnFields runtime files vpn).Keeps (FilledAll requiredFields) :=
            applyVpnFields_keeps fun field inside _ => assign_keepsAll (by decide) (apart field inside)
          exact Action.Keeps.bind fields (fun _ => profileToInstall_keeps) runs filled
      | _ =>
          rw [block] at runs
          exact Action.Keeps.pure _ runs filled
  | _ => cases runs

end CodaNode.Node
