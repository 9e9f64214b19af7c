/-
Module: CodaNode.Node.Failures
Layer: Node
Purpose: How the programs on the settings object fail. An assignment fails with a message of the loader, of
  pydantic or of a validator; a bundle fails in an assignment, in a key, or without its profile.
Imports: CodaNode.Node.Assignments, CodaNode.Node.Bundle
Main exports: FailsAs, assign_fails, applyIdentity_fails, applyVpnFields_fails, profileToInstall_fails
-/
import CodaNode.Node.Assignments
import CodaNode.Node.Bundle

namespace CodaNode.Node

open Python (Json)

/-- A sequence fails in its first part, or behind it. -/
theorem Action.bind_error {α β : Type} {first : Action α} {next : α → Action β} {settings after : Settings}
    {failure : Failure} (fails : (first >>= next) settings = .error failure after) :
    first settings = .error failure after ∨
      ∃ value middle, first settings = .ok value middle ∧ next value middle = .error failure after := by
  change EStateM.bind first next settings = .error failure after at fails
  unfold EStateM.bind at fails
  cases ends : first settings with
  | ok value middle =>
      rw [ends] at fails
      exact .inr ⟨value, middle, rfl, fails⟩
  | error raised middle =>
      rw [ends] at fails
      cases fails
      exact .inl rfl

/-- The program fails only in these ways. -/
def FailsAs {α : Type} (bad : Failure → Prop) (action : Action α) : Prop :=
  ∀ ⦃settings : Settings⦄ ⦃failure : Failure⦄ ⦃after : Settings⦄, action settings = .error failure after →
    bad failure

namespace FailsAs

variable {α β : Type} {bad : Failure → Prop}

theorem pure (value : α) : FailsAs bad (Pure.pure value : Action α) := by
  intro settings failure after fails
  cases fails

theorem throw {failure : Failure} (known : bad failure) : FailsAs bad (MonadExcept.throw failure : Action α) := by
  intro settings raised after fails
  cases fails
  exact known

theorem lift {computed : Except Failure α} (known : ∀ failure, computed = .error failure → bad failure) :
    FailsAs bad (Action.lift computed) := by
  intro settings failure after fails
  cases computed with
  | ok value => cases fails
  | error raised =>
      cases fails
      exact known failure rfl

theorem bind {first : Action α} {next : α → Action β} (head : FailsAs bad first)
    (tail : ∀ value, FailsAs bad (next value)) : FailsAs bad (first >>= next) := by
  intro settings failure after fails
  rcases Action.bind_error fails with fails | ⟨value, middle, -, fails⟩
  · exact head fails
  · exact tail value fails

theorem get {next : Settings → Action β} (tail : ∀ settings, FailsAs bad (next settings)) :
    FailsAs bad (MonadState.get >>= next) := by
  intro settings failure after fails
  rw [Action.get_bind] at fails
  exact tail settings fails

end FailsAs

variable {runtime : Runtime} {files : Files} {field : Field} {value : Value} {bad : Failure → Prop}

/-! ### Assignments -/

/-- The exception comes from the loader, from pydantic or from a validator. -/
def Failure.isRefusal : Failure → Bool
  | config _ | validation _ | other _ => true
  | _ => false

/-- The exception is a refusal. -/
abbrev Refusal (failure : Failure) : Prop := failure.isRefusal = true

/-- A file that cannot be read raises an exception of the operating system or of the decoder, and both count
as refusals here. -/
theorem readText_fails {file : File} {failure : Failure} (fails : file.readText = .error failure) :
    Refusal failure := by
  unfold File.readText at fails
  split at fails
  · cases fails
  · cases fails
    rfl

/-- The loader refuses a file whose mode is open to others with its own message, and passes on what the
reading raises. -/
theorem readSecureText_fails {path : String} {failure : Failure} (fails : readSecureText files path = .error failure) :
    Refusal failure := by
  unfold readSecureText at fails
  split at fails
  · cases fails
  · split at fails
    · cases fails
      rfl
    · exact readText_fails fails

/-- Loading the persisted config fails in one of its two files, or because the JSON text is none or no
object. -/
theorem loadPersisted_fails {failure : Failure} (fails : loadPersistedRuntimeConfig runtime files = .error failure) :
    Refusal failure := by
  unfold loadPersistedRuntimeConfig at fails
  split at fails
  · cases fails
  · cases read : readSecureText files persistedConfigPath with
    | error raised =>
        rw [read] at fails
        cases fails
        exact readSecureText_fails read
    | ok rawConfig =>
        rw [read] at fails
        dsimp only [bind, Except.bind] at fails
        split at fails
        · cases fails
        · split at fails
          · next entries object =>
            cases key : readSecureText files (privateKeyPath runtime entries) with
            | error raised =>
                rw [key] at fails
                cases fails
                exact readSecureText_fails key
            | ok privateKey =>
                rw [key] at fails
                cases fails
          · cases fails
            rfl
          · cases fails
            rfl

/-- The validator that runs before the fields fails only where loading the persisted config does. -/
theorem merge_fails {data : Data} {failure : Failure}
    (fails : mergePersistedRuntimeConfig runtime files data = .error failure) : Refusal failure := by
  unfold mergePersistedRuntimeConfig at fails
  split at fails
  · cases fails
  · cases loaded : loadPersistedRuntimeConfig runtime files with
    | error raised =>
        rw [loaded] at fails
        cases fails
        exact loadPersisted_fails loaded
    | ok persisted =>
        rw [loaded] at fails
        cases fails

/-- Looking the executor factory up in the device config fails only where the file cannot be read. -/
theorem loadExecutorFactory_fails {path : String} {failure : Failure}
    (fails : loadExecutorFactory files path = .error failure) : Refusal failure := by
  unfold loadExecutorFactory at fails
  split at fails
  · cases fails
  · next file present =>
    cases read : file.readText with
    | error raised =>
        rw [read] at fails
        cases fails
        exact readText_fails read
    | ok text =>
        rw [read] at fails
        cases fails

/-- Storing one value fails in the merge in front of it, or with the message of pydantic about the value. -/
theorem assignField_fails : FailsAs Refusal (assignField runtime files field value) := by
  unfold assignField
  apply FailsAs.get
  intro settings
  refine .bind (.lift fun _ => merge_fails) fun merged => ?_
  split
  · exact .throw rfl
  · intro settings failure after fails
    cases fails

/-- The check of token and credentials fails with one of its own two messages. -/
theorem check_fails : FailsAs Refusal checkJwtOrNodeToken := by
  unfold checkJwtOrNodeToken
  apply FailsAs.get
  intro settings
  split
  · dsimp only
    split
    · refine .bind (.throw rfl) fun _ => ?_
      split
      · exact .throw rfl
      · exact .pure _
    · split
      · exact .throw rfl
      · exact .pure _
  · exact .pure _

/-- The validator behind the device config fails in the file it reads, or in the assignment it makes. -/
theorem factory_fails : FailsAs Refusal (applyDeviceConfigExecutorFactory runtime files checkJwtOrNodeToken) := by
  unfold applyDeviceConfigExecutorFactory
  apply FailsAs.get
  intro settings
  split
  · exact .pure _
  · refine .bind (.lift fun _ => loadExecutorFactory_fails) fun resolved => ?_
    split
    · exact .pure _
    · exact .bind assignField_fails fun _ => check_fails

/-- The validator that fills in the default device config fails in its assignment, or in what follows it. -/
theorem default_fails {behind : Action Unit} (tail : FailsAs Refusal behind) :
    FailsAs Refusal (applyDefaultDeviceConfig runtime files behind) := by
  unfold applyDefaultDeviceConfig
  apply FailsAs.get
  intro settings
  split
  · exact .pure _
  · split
    · exact .bind assignField_fails fun _ => tail
    · exact .pure _

/-- An assignment is refused. -/
theorem assign_fails : FailsAs Refusal (assign runtime files field value) := by
  unfold assign afterValidators
  refine .bind assignField_fails fun _ => ?_
  refine .bind (default_fails (.bind factory_fails fun _ => check_fails)) fun _ => ?_
  exact .bind factory_fails fun _ => check_fails

/-! ### Bundles -/

section

variable {bundle : List (String × Value)}

/-- Reading a required text of the bundle fails with the name of the key that is missing. -/
theorem asStr_fails (missing : ∀ key, bad (.missingKey key)) (key : String) :
    FailsAs bad (Action.lift (asStr bundle key)) := by
  apply FailsAs.lift
  intro failure fails
  unfold asStr at fails
  split at fails
  · split at fails
    · cases fails
      exact missing key
    · cases fails
  · cases fails
    exact missing key

/-- Reading a number of the bundle fails with the name of the key whose value is no number. -/
theorem asInt_fails (invalid : ∀ key, bad (.invalidKey key)) (key : String) (default : Value) :
    FailsAs bad (Action.lift (asInt bundle key default)) := by
  apply FailsAs.lift
  intro failure fails
  unfold asInt at fails
  split at fails
  · cases fails
  · cases fails
  · cases fails
    exact invalid key

/-- A credential fails in its assignment, or with the name of the key when neither bundle nor settings have
one. -/
theorem applyCredential_fails (assigns : ∀ field value, FailsAs bad (assign runtime files field value))
    (missing : ∀ key, bad (.missingKey key)) : FailsAs bad (applyCredential runtime files bundle field) := by
  unfold applyCredential
  split
  · exact assigns _ _
  · apply FailsAs.get
    intro settings
    split
    · exact .throw (missing _)
    · exact .pure _

/-- An optional path fails only in its assignment. -/
theorem applyPath_fails (assigns : ∀ field value, FailsAs bad (assign runtime files field value)) :
    FailsAs bad (applyPath runtime files bundle field) := by
  unfold applyPath
  split
  · exact assigns _ _
  · exact .pure _

/-- A value that is assigned when it is there fails only in that assignment. -/
theorem assignSome_fails (assigns : ∀ field value, FailsAs bad (assign runtime files field value))
    (value : Option Value) : FailsAs bad (assignSome runtime files field value) := by
  cases value with
  | none => exact .pure _
  | some value => exact assigns _ _

/-- The fields in front of the VPN block fail in an assignment, in a missing key or in a key that is no
number. -/
theorem applyIdentity_fails (assigns : ∀ field value, FailsAs bad (assign runtime files field value))
    (missing : ∀ key, bad (.missingKey key)) (invalid : ∀ key, bad (.invalidKey key)) :
    FailsAs bad (applyIdentity runtime files bundle) := by
  unfold applyIdentity
  refine .bind (asStr_fails missing _) fun _ => ?_
  refine .bind (assigns _ _) fun _ => ?_
  refine .bind (assigns _ _) fun _ => ?_
  refine .bind (asStr_fails missing _) fun _ => ?_
  refine .bind (assigns _ _) fun _ => ?_
  refine .get fun _ => ?_
  refine .bind (asInt_fails invalid _ _) fun _ => ?_
  refine .bind (assigns _ _) fun _ => ?_
  refine .bind (applyCredential_fails assigns missing) fun _ => ?_
  refine .bind (applyCredential_fails assigns missing) fun _ => ?_
  refine .bind (asStr_fails missing _) fun _ => ?_
  refine .bind (assigns _ _) fun _ => ?_
  refine .bind (asStr_fails missing _) fun _ => ?_
  refine .bind (assigns _ _) fun _ => ?_
  refine .bind (applyPath_fails assigns) fun _ => ?_
  exact .bind (applyPath_fails assigns) fun _ => applyPath_fails assigns

/-- The fields of the VPN block fail only in their assignments: each of them may be missing. -/
theorem applyVpnFields_fails {vpn : List (String × Value)}
    (assigns : ∀ field value, FailsAs bad (assign runtime files field value)) :
    FailsAs bad (applyVpnFields runtime files vpn) := by
  unfold applyVpnFields
  refine .bind (assignSome_fails assigns _) fun _ => ?_
  refine .bind (assignSome_fails assigns _) fun _ => ?_
  refine .bind (assignSome_fails assigns _) fun _ => ?_
  split
  · exact assigns _ _
  · exact .pure _

end

end CodaNode.Node
