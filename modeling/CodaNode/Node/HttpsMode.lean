/-
Module: CodaNode.Node.HttpsMode
Layer: Node
Purpose: Bundles in HTTPS mode, and what a node that is given no others has on its disk. Such a bundle, once it is
  applied, leaves no VPN required and no profile to install; it does not fail for want of one. The config that is
  persisted of it says so, and a part of this config says so or is no object.
Imports: CodaNode.Node.Credentials, CodaNode.Node.Failures, CodaNode.Node.Quiet, CodaNode.Node.Restart
Main exports: HttpsBundle, Failure.ofTunnel, applyFields_https, applyFields_httpsFails, Direct
-/
import CodaNode.Node.Credentials
import CodaNode.Node.Failures
import CodaNode.Node.Quiet
import CodaNode.Node.Restart

namespace CodaNode.Node

open Coroutine Coro
open Python (Json)

/-- The bundle is in HTTPS mode: no VPN is required, and it brings no profile. -/
def HttpsBundle (bundle : Value) : Prop :=
  ∃ entries vpn, bundle = .dict entries ∧ entry entries "vpn" = .dict vpn ∧ entry vpn "required" = .bool false ∧
    textEntry vpn "client_profile_ovpn" = none

/-- The exception is about a missing tunnel or a missing profile. -/
def Failure.ofTunnel : Failure → Bool
  | noTunnel _ | persistedProfileNotFound | profileMissing => true
  | _ => false

/-- The exception is about something else. -/
abbrev Tunnelless (failure : Failure) : Prop := failure.ofTunnel = false

variable {runtime : Runtime} {files : Files} {settings after : Settings}

/-! ### A bundle that is applied -/

/-- The settings and the types of their fields. -/
structure Exempt (settings : Settings) : Prop where
  typed : settings.Typed
  optional : settings .vpnRequired = .bool false

theorem Refusal.tunnelless {failure : Failure} (refusal : Refusal failure) : Tunnelless failure := by
  cases failure <;> first | rfl | cases refusal

theorem assign_tunnelless (field : Field) (value : Value) : FailsAs Tunnelless (assign runtime files field value) := by
  intro settings failure after fails
  exact (assign_fails fails).tunnelless

/-- A VPN block that requires none leaves none required. -/
theorem applyVpnFields_optional (documented : runtime.Documented) {vpn : List (String × Value)}
    (optional : entry vpn "required" = .bool false)
    (runs : applyVpnFields runtime files vpn settings = .ok () after) : after .vpnRequired = .bool false := by
  have keeps {field : Field} (different : Field.vpnRequired ≠ field) (value : Value) :
      (assign runtime files field value).Keeps fun settings => settings .vpnRequired = .bool false :=
    assign_keepsSet rfl (by decide) different
  obtain ⟨first, one, runs⟩ := Action.seq_ok.mp runs
  have start : first .vpnRequired = .bool false := by
    rw [requiredEntry, optional] at one
    exact assign_sets (by decide) (documented.fits .vpnRequired (.bool false) rfl) rfl one
  have kept {rest : Action Unit} (kept : rest.Keeps fun settings => settings .vpnRequired = .bool false)
      (runs : rest first = .ok () after) : after .vpnRequired = .bool false := kept runs start
  refine kept ?_ runs
  refine .bind (assignSome_keeps (keeps (by decide)) _) fun _ => ?_
  refine .bind (assignSome_keeps (keeps (by decide)) _) fun _ => ?_
  split
  · exact keeps (by decide) _
  · exact .pure _

theorem profileToInstall_https {vpn : List (String × Value)} {profile : Option String}
    (none : textEntry vpn "client_profile_ovpn" = none)
    (runs : profileToInstall vpn settings = .ok profile after) : profile = .none ∧ after = settings := by
  unfold profileToInstall at runs
  rw [none, Action.get_bind] at runs
  split at runs
  · exact absurd runs Action.throw_ok
  · split at runs
    · obtain ⟨same, rfl⟩ := Action.pure_ok.mp runs
      exact ⟨same.symm, rfl⟩
    · obtain ⟨same, rfl⟩ := Action.pure_ok.mp runs
      exact ⟨same.symm, rfl⟩

theorem applyFields_typed (documented : runtime.Documented) (native : Native runtime files)
    (bundle : List (String × Value)) : (applyFields runtime files (.dict bundle)).Keeps Settings.Typed := by
  unfold applyFields
  refine .bind (applyIdentity_keeps fun _ _ _ => assign_typed documented native) fun _ => ?_
  split
  · refine .bind (applyVpnFields_keeps fun _ _ _ => assign_typed documented native) fun _ => ?_
    exact profileToInstall_keeps
  · exact .pure _

/-- A bundle in HTTPS mode that is applied leaves no VPN required and no profile to install. -/
theorem applyFields_https (documented : runtime.Documented) {bundle : Value} {profile : Option String}
    (https : HttpsBundle bundle) (runs : applyFields runtime files bundle settings = .ok profile after) :
    profile = none ∧ after .vpnRequired = .bool false := by
  obtain ⟨entries, vpn, rfl, block, optional, absent⟩ := https
  obtain ⟨middle, -, runs⟩ := Action.seq_ok.mp runs
  rw [block] at runs
  obtain ⟨last, fields, installs⟩ := Action.seq_ok.mp runs
  obtain ⟨same, rfl⟩ := profileToInstall_https absent installs
  exact ⟨same, applyVpnFields_optional documented optional fields⟩

/-- A bundle in HTTPS mode that cannot be applied does not fail for want of a profile. -/
theorem applyFields_httpsFails (documented : runtime.Documented) {bundle : Value} (https : HttpsBundle bundle)
    {failure : Failure} (fails : applyFields runtime files bundle settings = .error failure after) :
    Tunnelless failure := by
  obtain ⟨entries, vpn, rfl, block, optional, absent⟩ := https
  rcases Action.bind_error fails with fails | ⟨_, middle, -, fails⟩
  · exact applyIdentity_fails assign_tunnelless (fun _ => rfl) (fun _ => rfl) fails
  · rw [block] at fails
    rcases Action.bind_error fails with fails | ⟨_, last, fields, fails⟩
    · exact applyVpnFields_fails assign_tunnelless fails
    · -- no VPN is required here, so that the check of the profile passes
      have free := applyVpnFields_optional documented optional fields
      have passes : ¬ (truthy (last .vpnRequired) = true ∧ (none : Option String) = none) := by
        rintro ⟨required, -⟩
        rw [free] at required
        cases required
      unfold profileToInstall at fails
      rw [absent, Action.get_bind, if_neg passes] at fails
      split at fails <;> cases fails

/-! ### The config on the disk -/

/-- What a config says of a node in HTTPS mode. -/
structure DirectEntries (entries : List (String × Value)) : Prop where
  typed : ∀ field ∈ Field.persisted, ∀ value, Json.get entries field.name = some value →
    field.kind.fits value = true
  optional : Json.get entries Field.vpnRequired.name = some (.bool false)

/-- The file is no config, or one of a node in HTTPS mode. -/
def DirectFile (runtime : Runtime) (file : File) : Prop :=
  ∀ text entries, file.readText = .ok text → Json.loads runtime.readFloat text = some (.dict entries) →
    DirectEntries entries

/-- So is the config on the disk. -/
def Direct (runtime : Runtime) (files : Files) : Prop :=
  ∀ file, files persistedConfigPath = some file → DirectFile runtime file

theorem direct_of_part (exempt : Exempt settings) (dumpable : Json.dumpable (.dict (persistedEntries settings)) = true)
    {file : File} (part : PartOf (persistedConfigText runtime settings) file) : DirectFile runtime file := by
  intro text entries opened read
  obtain ⟨content, mode⟩ := file
  cases content with
  | none => cases opened
  | some content =>
  have front := part content rfl
  rw [File.readText_plain fun inside => return_not_mem_configText exempt.typed dumpable (front.subset inside)]
    at opened
  cases opened
  obtain ⟨-, rfl⟩ := whole_of_part exempt.typed dumpable front read
  constructor
  · intro field inside value found
    rw [get_persistedEntries settings field inside] at found
    cases found
    exact exempt.typed field
  · rw [get_persistedEntries settings .vpnRequired (by decide), exempt.optional]

theorem readSecureText_ok {path text : String} (read : readSecureText files path = .ok text) :
    text = "" ∨ ∃ file, files path = some file ∧ file.readText = .ok text := by
  unfold readSecureText at read
  split at read
  · cases read
    exact .inl rfl
  · next file present =>
    split at read
    · cases read
    · exact .inr ⟨file, present, read⟩

/-- What is loaded of it is nothing at all, or says that no VPN is required. -/
theorem Direct.loaded (direct : Direct runtime files) {persisted : Data}
    (loaded : loadPersistedRuntimeConfig runtime files = .ok persisted) :
    (persisted = fun _ => none) ∨
      persisted .vpnRequired = some (.bool false) ∧
        ∀ field value, persisted field = some value → field.kind.fits value = true := by
  rcases load_cases loaded with rfl | ⟨text, entries, privateKey, raw, object, -, rfl⟩
  · exact .inl rfl
  · right
    rcases readSecureText_ok raw with rfl | ⟨file, present, written⟩
    · simp [Json.loads, Json.skip, Json.value] at object
    · have entriesDirect := direct file present text entries written object
      constructor
      · rw [persistedData, if_pos (by decide)]
        exact entriesDirect.optional
      · intro field value found
        unfold persistedData at found
        split at found
        · next inside => exact entriesDirect.typed field inside value found
        · split at found
          · next key =>
            cases found
            rw [key.1]
            rfl
          · cases found

theorem Direct.native (direct : Direct runtime files) : Native runtime files := by
  intro persisted loaded field value found
  rcases direct.loaded loaded with rfl | ⟨-, fits⟩
  · cases found
  · exact fits field value found

/-! ### The construction of the settings -/

theorem construct_ok {environment : Data} (built : construct runtime files environment = .ok settings) :
    ∃ data initial, mergePersistedRuntimeConfig runtime files environment = .ok data ∧
      initialSettings runtime data = .ok initial ∧ afterValidators runtime files initial = .ok () settings := by
  unfold construct at built
  cases merged : mergePersistedRuntimeConfig runtime files environment with
  | error failure =>
      rw [merged] at built
      cases built
  | ok data =>
      rw [merged] at built
      dsimp only [bind, Except.bind] at built
      cases started : initialSettings runtime data with
      | error failure =>
          rw [started] at built
          cases built
      | ok initial =>
          rw [started] at built
          dsimp only at built
          cases runs : afterValidators runtime files initial with
          | error failure after =>
              rw [runs] at built
              cases built
          | ok result after =>
              rw [runs] at built
              cases built
              exact ⟨data, initial, rfl, started, runs⟩

theorem construct_typed (documented : runtime.Documented) (native : Native runtime files) {environment : Data}
    (built : construct runtime files environment = .ok settings) : settings.Typed := by
  obtain ⟨data, initial, -, started, runs⟩ := construct_ok built
  exact afterValidators_typed documented native runs (initialSettings_typed documented started)

/-- A restart that finds the config of a node in HTTPS mode requires no VPN, unless the environment does. -/
theorem construct_optional (documented : runtime.Documented) (direct : Direct runtime files) {environment : Data}
    (tokenFree : TokenFree environment) (unset : environment .vpnRequired = none)
    (found : loadPersistedRuntimeConfig runtime files ≠ .ok fun _ => none)
    (built : construct runtime files environment = .ok settings) : settings .vpnRequired = .bool false := by
  obtain ⟨data, initial, merged, started, runs⟩ := construct_ok built
  apply afterValidators_keepsSet rfl (by decide) runs
  unfold mergePersistedRuntimeConfig at merged
  rw [tokenFree, if_neg (by decide)] at merged
  cases loaded : loadPersistedRuntimeConfig runtime files with
  | error failure =>
      rw [loaded] at merged
      cases merged
  | ok persisted =>
      rw [loaded] at merged
      cases merged
      rcases direct.loaded loaded with rfl | ⟨optional, -⟩
      · exact absurd loaded found
      · have value := initialSettings_ok started .vpnRequired
        rw [initialValue, filled, optional, unset] at value
        dsimp only at value
        rw [documented.fits .vpnRequired (.bool false) rfl] at value
        exact (Except.ok.inj value).symm

end CodaNode.Node
