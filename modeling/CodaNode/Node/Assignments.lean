/-
Module: CodaNode.Node.Assignments
Layer: Node
Purpose: What an assignment does to the other fields. Without a node token every assignment puts the
  persisted values back into the fields that are unset, so the value a field has in the end depends on
  what is assigned behind it: `valueAfter`. A run of assignments is `Assigns`.
Imports: CodaNode.Node.Config
Main exports: refill, assign_ok, Step, Assigns, Assigns.final
-/
import CodaNode.Node.Config

namespace CodaNode.Node

open Python (Json)

variable {runtime : Runtime} {files : Files}

/-! ### Programs that succeed -/

section

variable {α β : Type} {settings after : Settings}

theorem Action.bind_ok {first : Action α} {next : α → Action β} {value : β} :
    (first >>= next) settings = .ok value after ↔
      ∃ result middle, first settings = .ok result middle ∧ next result middle = .ok value after := by
  change EStateM.bind first next settings = .ok value after ↔ _
  unfold EStateM.bind
  cases first settings with
  | ok result middle =>
      constructor
      · intro runs
        exact ⟨result, middle, rfl, runs⟩
      · rintro ⟨result, middle, same, runs⟩
        cases same
        exact runs
  | error failure middle => simp

theorem Action.seq_ok {first : Action Unit} {next : Action β} {value : β} :
    (first >>= fun _ => next) settings = .ok value after ↔
      ∃ middle, first settings = .ok () middle ∧ next middle = .ok value after := by
  rw [Action.bind_ok]
  constructor
  · rintro ⟨⟨⟩, middle, runs⟩
    exact ⟨middle, runs⟩
  · rintro ⟨middle, runs⟩
    exact ⟨(), middle, runs⟩

theorem Action.get_bind {next : Settings → Action β} :
    (get >>= next) settings = next settings settings := rfl

theorem Action.pure_ok {result value : α} :
    (pure result : Action α) settings = .ok value after ↔ result = value ∧ settings = after := by
  change EStateM.Result.ok result settings = .ok value after ↔ _
  simp

theorem Action.throw_ok {failure : Failure} {value : α} :
    ¬ (throw failure : Action α) settings = .ok value after := by
  change ¬ EStateM.Result.error failure settings = .ok value after
  simp

theorem Action.lift_ok {computed : Except Failure α} {value : α} :
    Action.lift computed settings = .ok value after ↔ computed = .ok value ∧ settings = after := by
  cases computed with
  | ok result => simp [Action.lift, Action.pure_ok]
  | error failure => simp [Action.lift, Action.throw_ok]

end

/-! ### The merge -/

/-- The value of a field after a merge. -/
def refill (persisted : Data) (field : Field) (value : Value) : Value :=
  match persisted field with
  | none => value
  | some older => if isUnset value then older else value

theorem refill_of_set {persisted : Data} {field : Field} {value : Value} (set : isUnset value = false) :
    refill persisted field value = value := by
  unfold refill
  cases persisted field with
  | none => rfl
  | some older => simp [set]

/-- A second merge changes nothing. -/
@[simp] theorem refill_refill (persisted : Data) (field : Field) (value : Value) :
    refill persisted field (refill persisted field value) = refill persisted field value := by
  unfold refill
  cases persisted field with
  | none => rfl
  | some older =>
      cases unset : isUnset value with
      | false => simp [unset]
      | true => simp

/-- A config that loads is empty or an object, with its key file. -/
theorem load_cases {persisted : Data} (loaded : loadPersistedRuntimeConfig runtime files = .ok persisted) :
    (persisted = fun _ => none) ∨ ∃ rawConfig entries privateKey,
      readSecureText files persistedConfigPath = .ok rawConfig ∧
      Json.loads runtime.readFloat rawConfig = some (.dict entries) ∧
      readSecureText files (privateKeyPath runtime entries) = .ok privateKey ∧
      persisted = persistedData entries privateKey := by
  unfold loadPersistedRuntimeConfig at loaded
  split at loaded
  · cases loaded
    exact .inl rfl
  · cases read : readSecureText files persistedConfigPath with
    | error failure =>
        rw [read] at loaded
        cases loaded
    | ok rawConfig =>
        rw [read] at loaded
        dsimp only [bind, Except.bind] at loaded
        split at loaded
        · cases loaded
          exact .inl rfl
        · split at loaded
          · next entries object =>
            cases key : readSecureText files (privateKeyPath runtime entries) with
            | error failure =>
                rw [key] at loaded
                cases loaded
            | ok privateKey =>
                rw [key] at loaded
                cases loaded
                exact .inr ⟨rawConfig, entries, privateKey, rfl, object, key, rfl⟩
          · cases loaded
          · cases loaded

/-- The persisted config has settings of its own keys only. -/
theorem load_other {persisted : Data} (loaded : loadPersistedRuntimeConfig runtime files = .ok persisted)
    {field : Field} (other : field ∉ Field.persisted) (noKey : field ≠ .jwtPrivateKey) :
    persisted field = none := by
  rcases load_cases loaded with rfl | ⟨_, entries, privateKey, -, -, -, rfl⟩
  · rfl
  · simp [persistedData, other, noKey]

theorem filled_getD {persisted : Data} {settings : Settings} {field : Field} :
    (filled persisted (fun other => some (settings other)) field).getD (settings field) =
      refill persisted field (settings field) := by
  unfold filled refill
  cases persisted field with
  | none => rfl
  | some older =>
      dsimp only
      cases isUnset (settings field) <;> rfl

/-! ### One assignment -/

/-- Neither of the two fields that the validators assign themselves. -/
def Field.Tracked (field : Field) : Prop := field ≠ .deviceConfig ∧ field ≠ .executorFactory

instance (field : Field) : Decidable field.Tracked := inferInstanceAs (Decidable (_ ∧ _))

/-- The object after a merge. -/
def refilled (persisted : Data) (settings : Settings) : Settings := fun field =>
  refill persisted field (settings field)

variable {settings after : Settings} {field : Field} {value : Value}

/-- What the checks in front of the validators do. -/
theorem assignField_ok (reconnect : truthy (settings .nodeToken) = false) :
    assignField runtime files field value settings = .ok () after ↔
      ∃ persisted result, loadPersistedRuntimeConfig runtime files = .ok persisted ∧
        runtime.validate field value = .ok result ∧ (refilled persisted settings).set field result = after := by
  unfold assignField
  rw [Action.get_bind, Action.bind_ok]
  simp only [Action.lift_ok, mergePersistedRuntimeConfig, Option.map_some, Option.getD_some, reconnect,
    Bool.false_eq_true, if_false]
  cases loadPersistedRuntimeConfig runtime files with
  | error failure => simp [bind, Except.bind]
  | ok persisted =>
      have merged : (fun other => (filled persisted (fun other => some (settings other)) other).getD
          (settings other)) = refilled persisted settings := funext fun _ => filled_getD
      cases runtime.validate field value with
      | error message => simp [Action.throw_ok]
      | ok result =>
          simp only [bind, Except.bind, Except.ok.injEq]
          constructor
          · rintro ⟨data, middle, ⟨rfl, rfl⟩, stored⟩
            rw [merged] at stored
            cases stored
            exact ⟨persisted, result, rfl, rfl, rfl⟩
          · rintro ⟨same, result', rfl, rfl, rfl⟩
            refine ⟨_, settings, ⟨rfl, rfl⟩, ?_⟩
            rw [merged]
            rfl

/-- There is a way to authenticate. -/
def Credentialed (settings : Settings) : Prop :=
  truthy (settings .nodeToken) ∨ truthy (settings .jwtPrivateKey) ∧ truthy (settings .jwtKeyId)

theorem checkJwtOrNodeToken_ok :
    checkJwtOrNodeToken settings = .ok () after ↔ Credentialed settings ∧ settings = after := by
  unfold checkJwtOrNodeToken Credentialed
  rw [Action.get_bind]
  cases truthy (settings .nodeToken) <;> cases truthy (settings .jwtPrivateKey) <;>
    cases truthy (settings .jwtKeyId) <;> simp [Action.pure_ok, Action.throw_ok, Action.bind_ok]

/-- The device config has no executor factory to offer, or there is one already. -/
def FactoryDone (files : Files) (settings : Settings) : Prop :=
  truthy (settings .executorFactory) ∨ truthy (settings .deviceConfig) = false ∨
    loadExecutorFactory files (textOf (settings .deviceConfig)) = .ok ""

/-- The validators have nothing left to assign. -/
structure Stable (files : Files) (settings : Settings) : Prop where
  device : truthy (settings .deviceConfig) ∨ (files defaultDeviceConfig).isSome = false
  factory : FactoryDone files settings

/-- The fields a merge leaves alone, without a node token. -/
structure Spared (persisted : Data) : Prop where
  device : persisted .deviceConfig = none
  factory : persisted .executorFactory = none
  token : persisted .nodeToken = none

theorem spared_of_load {persisted : Data} (loaded : loadPersistedRuntimeConfig runtime files = .ok persisted) :
    Spared persisted := by
  constructor <;> exact load_other loaded (by decide) (by decide)

theorem refilled_of_none {persisted : Data} (absent : persisted field = none) :
    refilled persisted settings field = settings field := by
  simp [refilled, refill, absent]

/-- What the validator of the executor factory does: nothing, or one more merge and its assignment. -/
theorem applyFactory_ok {persisted : Data} (documented : runtime.Documented)
    (loaded : loadPersistedRuntimeConfig runtime files = .ok persisted)
    (reconnect : truthy (settings .nodeToken) = false)
    (runs : applyDeviceConfigExecutorFactory runtime files checkJwtOrNodeToken settings = .ok () after) :
    (FactoryDone files settings ∧ after = settings) ∨
      ∃ resolved, resolved ≠ "" ∧ after = (refilled persisted settings).set .executorFactory (.str resolved) := by
  unfold applyDeviceConfigExecutorFactory at runs
  rw [Action.get_bind] at runs
  by_cases idle : (truthy (settings .executorFactory) || !truthy (settings .deviceConfig)) = true
  · rw [if_pos idle] at runs
    obtain ⟨-, same⟩ := Action.pure_ok.mp runs
    left
    refine ⟨?_, same.symm⟩
    unfold FactoryDone
    simp only [Bool.or_eq_true, Bool.not_eq_true'] at idle
    rcases idle with factory | device
    · exact .inl factory
    · exact .inr (.inl device)
  · rw [if_neg idle] at runs
    obtain ⟨resolved, middle, lifted, runs⟩ := Action.bind_ok.mp runs
    obtain ⟨read, rfl⟩ := Action.lift_ok.mp lifted
    by_cases empty : resolved = ""
    · rw [if_pos empty] at runs
      obtain ⟨-, same⟩ := Action.pure_ok.mp runs
      left
      exact ⟨.inr (.inr (by rw [read, empty])), same.symm⟩
    · rw [if_neg empty] at runs
      obtain ⟨middle, assigned, runs⟩ := Action.seq_ok.mp runs
      obtain ⟨persisted', result, loaded', valid, rfl⟩ := (assignField_ok reconnect).mp assigned
      rw [loaded] at loaded'
      cases loaded'
      rw [documented.fits .executorFactory (.str resolved) rfl] at valid
      cases valid
      exact .inr ⟨resolved, empty, (checkJwtOrNodeToken_ok.mp runs).2.symm⟩

/-- What the validator of the device config does. -/
theorem applyDefault_ok {persisted : Data} (documented : runtime.Documented)
    (loaded : loadPersistedRuntimeConfig runtime files = .ok persisted)
    (reconnect : truthy (settings .nodeToken) = false) {behind : Action Unit}
    (runs : applyDefaultDeviceConfig runtime files behind settings = .ok () after) :
    ((truthy (settings .deviceConfig) ∨ (files defaultDeviceConfig).isSome = false) ∧ after = settings) ∨
      behind ((refilled persisted settings).set .deviceConfig (.str defaultDeviceConfig)) = .ok () after := by
  unfold applyDefaultDeviceConfig at runs
  rw [Action.get_bind] at runs
  by_cases given : truthy (settings .deviceConfig) = true
  · rw [if_pos given] at runs
    exact .inl ⟨.inl given, (Action.pure_ok.mp runs).2.symm⟩
  · rw [if_neg given] at runs
    by_cases present : (files defaultDeviceConfig).isSome = true
    · rw [if_pos present] at runs
      obtain ⟨middle, assigned, runs⟩ := Action.seq_ok.mp runs
      obtain ⟨persisted', result, loaded', valid, rfl⟩ := (assignField_ok reconnect).mp assigned
      rw [loaded] at loaded'
      cases loaded'
      rw [documented.fits .deviceConfig (.str defaultDeviceConfig) rfl] at valid
      cases valid
      exact .inr runs
    · rw [if_neg present] at runs
      exact .inl ⟨.inr (by simpa using present), (Action.pure_ok.mp runs).2.symm⟩

/-- What the validators leave of the tracked fields: all as they are, or all merged again. -/
def Merged (persisted : Data) (settings after : Settings) : Prop :=
  (∀ field, field.Tracked → after field = settings field) ∨
    ∀ field, field.Tracked → after field = refill persisted field (settings field)

theorem Merged.trans {persisted : Data} {first second third : Settings} (one : Merged persisted first second)
    (two : Merged persisted second third) : Merged persisted first third := by
  rcases one with one | one <;> rcases two with two | two
  · exact .inl fun field tracked => (two field tracked).trans (one field tracked)
  · exact .inr fun field tracked => by rw [two field tracked, one field tracked]
  · exact .inr fun field tracked => by rw [two field tracked, one field tracked]
  · exact .inr fun field tracked => by rw [two field tracked, one field tracked, refill_refill]

theorem merged_set {persisted : Data} {own : Field} (untracked : ¬ own.Tracked) :
    Merged persisted settings ((refilled persisted settings).set own value) := by
  right
  intro field tracked
  rw [Settings.set_other]
  · rfl
  · intro same
    exact untracked (same ▸ tracked)

/-- The validator of the executor factory keeps the device config and has nothing left to do. -/
theorem factory_spec {persisted : Data} (documented : runtime.Documented)
    (loaded : loadPersistedRuntimeConfig runtime files = .ok persisted)
    (reconnect : truthy (settings .nodeToken) = false)
    (runs : applyDeviceConfigExecutorFactory runtime files checkJwtOrNodeToken settings = .ok () after) :
    FactoryDone files after ∧ after .deviceConfig = settings .deviceConfig ∧
      after .nodeToken = settings .nodeToken ∧ Merged persisted settings after := by
  have spared := spared_of_load loaded
  rcases applyFactory_ok documented loaded reconnect runs with ⟨done, rfl⟩ | ⟨resolved, some, rfl⟩
  · exact ⟨done, rfl, rfl, .inl fun _ _ => rfl⟩
  · refine ⟨.inl ?_, ?_, ?_, merged_set (by decide)⟩
    · simpa [truthy] using some
    · rw [Settings.set_other (by decide), refilled_of_none spared.device]
    · rw [Settings.set_other (by decide), refilled_of_none spared.token]

/-- The validators end with nothing left to assign. -/
theorem afterValidators_ok {persisted : Data} (documented : runtime.Documented)
    (loaded : loadPersistedRuntimeConfig runtime files = .ok persisted)
    (reconnect : truthy (settings .nodeToken) = false)
    (runs : afterValidators runtime files settings = .ok () after) :
    Stable files after ∧ Credentialed after ∧ after .nodeToken = settings .nodeToken ∧
      Merged persisted settings after := by
  have spared := spared_of_load loaded
  unfold afterValidators at runs
  obtain ⟨first, default, runs⟩ := Action.seq_ok.mp runs
  obtain ⟨second, factory, check⟩ := Action.seq_ok.mp runs
  obtain ⟨credentialed, rfl⟩ := checkJwtOrNodeToken_ok.mp check
  have start : (truthy (first .deviceConfig) ∨ (files defaultDeviceConfig).isSome = false) ∧
      first .nodeToken = settings .nodeToken ∧ Merged persisted settings first := by
    rcases applyDefault_ok documented loaded reconnect default with ⟨done, rfl⟩ | behind
    · exact ⟨done, rfl, .inl fun _ _ => rfl⟩
    · obtain ⟨middle, inner, check⟩ := Action.seq_ok.mp behind
      obtain ⟨-, rfl⟩ := checkJwtOrNodeToken_ok.mp check
      have token : (refilled persisted settings).set .deviceConfig (.str defaultDeviceConfig) .nodeToken
          = settings .nodeToken := by
        rw [Settings.set_other (by decide), refilled_of_none spared.token]
      obtain ⟨-, device, same, merged⟩ := factory_spec documented loaded (token ▸ reconnect) inner
      refine ⟨.inl ?_, same.trans token, (merged_set (by decide)).trans merged⟩
      rw [device, Settings.set_self]
      decide
  obtain ⟨device, token, merged⟩ := start
  obtain ⟨done, kept, same, merged'⟩ := factory_spec documented loaded (token ▸ reconnect) factory
  exact ⟨⟨kept ▸ device, done⟩, credentialed, same.trans token, merged.trans merged'⟩

theorem applyFactory_done (done : FactoryDone files settings)
    (runs : applyDeviceConfigExecutorFactory runtime files checkJwtOrNodeToken settings = .ok () after) :
    after = settings := by
  unfold applyDeviceConfigExecutorFactory at runs
  rw [Action.get_bind] at runs
  by_cases idle : (truthy (settings .executorFactory) || !truthy (settings .deviceConfig)) = true
  · rw [if_pos idle] at runs
    exact (Action.pure_ok.mp runs).2.symm
  · rw [if_neg idle] at runs
    have empty : loadExecutorFactory files (textOf (settings .deviceConfig)) = .ok "" := by
      simp only [Bool.or_eq_true, Bool.not_eq_true', not_or] at idle
      rcases done with factory | device | empty
      · exact absurd factory idle.1
      · exact absurd device idle.2
      · exact empty
    obtain ⟨resolved, middle, lifted, runs⟩ := Action.bind_ok.mp runs
    obtain ⟨read, rfl⟩ := Action.lift_ok.mp lifted
    cases empty.symm.trans read
    rw [if_pos rfl] at runs
    exact (Action.pure_ok.mp runs).2.symm

/-- Validators that have nothing to assign leave the object alone. -/
theorem afterValidators_stable (stable : Stable files settings)
    (runs : afterValidators runtime files settings = .ok () after) : after = settings := by
  unfold afterValidators at runs
  obtain ⟨first, default, runs⟩ := Action.seq_ok.mp runs
  obtain ⟨second, factory, check⟩ := Action.seq_ok.mp runs
  obtain ⟨-, rfl⟩ := checkJwtOrNodeToken_ok.mp check
  have start : first = settings := by
    unfold applyDefaultDeviceConfig at default
    rw [Action.get_bind] at default
    rcases stable.device with given | absent
    · rw [if_pos given] at default
      exact (Action.pure_ok.mp default).2.symm
    · by_cases given : truthy (settings .deviceConfig) = true
      · rw [if_pos given] at default
        exact (Action.pure_ok.mp default).2.symm
      · rw [if_neg given, if_neg (by simp [absent])] at default
        exact (Action.pure_ok.mp default).2.symm
  subst start
  exact applyFactory_done stable.factory factory

/-! ### A run of assignments -/

/-- One assignment without a node token: the field has the validated value, and all others are merged. -/
structure Step (persisted : Data) (settings : Settings) (field : Field) (value : Value) (after : Settings) :
    Prop where
  assigned : after field = value
  merged : ∀ other, other.Tracked → other ≠ field → after other = refill persisted other (settings other)

/-- What an assignment of a tracked field does without a node token. -/
theorem assign_ok {persisted : Data} (documented : runtime.Documented)
    (loaded : loadPersistedRuntimeConfig runtime files = .ok persisted)
    (reconnect : truthy (settings .nodeToken) = false) (tracked : field.Tracked) (own : field ≠ .nodeToken)
    (runs : assign runtime files field value settings = .ok () after)
    (quiet : Stable files settings ∨ ∀ result, runtime.validate field value = .ok result →
      isUnset result = false) :
    ∃ result, runtime.validate field value = .ok result ∧ Step persisted settings field result after ∧
      Stable files after ∧ Credentialed after ∧ truthy (after .nodeToken) = false := by
  have spared := spared_of_load loaded
  obtain ⟨middle, assigned, runs⟩ := Action.seq_ok.mp runs
  obtain ⟨persisted', result, loaded', valid, rfl⟩ := (assignField_ok reconnect).mp assigned
  cases loaded.symm.trans loaded'
  have token : (refilled persisted settings).set field result .nodeToken = settings .nodeToken := by
    rw [Settings.set_other own.symm, refilled_of_none spared.token]
  obtain ⟨stable, credentialed, same, merged⟩ :=
    afterValidators_ok documented loaded (token ▸ reconnect) runs
  refine ⟨result, valid, ?_, stable, credentialed, by rw [same, token, reconnect]⟩
  have others : ∀ other, other.Tracked → other ≠ field →
      (refilled persisted settings).set field result other = refill persisted other (settings other) :=
    fun other _ different => Settings.set_other different
  rcases quiet with still | set
  · have unchanged : Stable files ((refilled persisted settings).set field result) := by
      have device : (refilled persisted settings).set field result .deviceConfig = settings .deviceConfig := by
        rw [Settings.set_other tracked.1.symm, refilled_of_none spared.device]
      have factory : (refilled persisted settings).set field result .executorFactory
          = settings .executorFactory := by
        rw [Settings.set_other tracked.2.symm, refilled_of_none spared.factory]
      constructor
      · rw [device]
        exact still.device
      · unfold FactoryDone
        rw [device, factory]
        exact still.factory
    rw [afterValidators_stable unchanged runs]
    exact ⟨Settings.set_self .., others⟩
  · rcases merged with merged | merged
    · constructor
      · rw [merged field tracked, Settings.set_self]
      · intro other tracked different
        rw [merged other tracked, others other tracked different]
    · constructor
      · rw [merged field tracked, Settings.set_self, refill_of_set (set result valid)]
      · intro other tracked different
        rw [merged other tracked, others other tracked different, refill_refill]

/-- Assignments one behind the other. -/
inductive Assigns (persisted : Data) : Settings → List (Field × Value) → Settings → Prop where
  | nil {settings : Settings} : Assigns persisted settings [] settings
  | cons {settings middle after : Settings} {field : Field} {value : Value} {rest : List (Field × Value)}
      (step : Step persisted settings field value middle) (later : Assigns persisted middle rest after) :
      Assigns persisted settings ((field, value) :: rest) after

theorem Assigns.append {persisted : Data} {middle : Settings} {first second : List (Field × Value)}
    (one : Assigns persisted settings first middle) (two : Assigns persisted middle second after) :
    Assigns persisted settings (first ++ second) after := by
  induction one with
  | nil => exact two
  | cons step _ ih => exact .cons step (ih two)

/-- The value a field with this value has behind a run of assignments. -/
def valueAfter (persisted : Data) (field : Field) (value : Value) : List (Field × Value) → Value
  | [] => value
  | (assigned, result) :: rest =>
      valueAfter persisted field (if field = assigned then result else refill persisted field value) rest

theorem Assigns.final {persisted : Data} {assignments : List (Field × Value)}
    (assigns : Assigns persisted settings assignments after) (tracked : field.Tracked) :
    after field = valueAfter persisted field (settings field) assignments := by
  induction assigns with
  | nil => rfl
  | @cons settings middle after assigned result rest step _ ih =>
      rw [ih, valueAfter]
      by_cases same : field = assigned
      · rw [if_pos same, same, step.assigned]
      · rw [if_neg same, step.merged field tracked same]

/-- A run that does not assign the field merges it, if there is a run at all. -/
theorem valueAfter_of_absent {persisted : Data} {assignments : List (Field × Value)}
    (absent : ∀ assignment ∈ assignments, assignment.1 ≠ field) :
    valueAfter persisted field value assignments =
      if assignments = [] then value else refill persisted field value := by
  induction assignments generalizing value with
  | nil => rfl
  | cons assignment rest ih =>
      obtain ⟨different, others⟩ := List.forall_mem_cons.mp absent
      rw [valueAfter, if_neg (Ne.symm different), ih others]
      cases rest <;> simp

theorem valueAfter_append (persisted : Data) (field : Field) (value : Value)
    (first second : List (Field × Value)) :
    valueAfter persisted field value (first ++ second) =
      valueAfter persisted field (valueAfter persisted field value first) second := by
  induction first generalizing value with
  | nil => rfl
  | cons assignment rest ih => exact ih _

end CodaNode.Node
