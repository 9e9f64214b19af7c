/-
Module: CodaNode.Node.Restart
Layer: Node
Purpose: The construction of the settings object behind a restart. When the loader finds the settings that
  were persisted, every environment without a token gets them back in each field it does not set itself,
  and the check of the credentials passes. What can still fail is a value of the environment that is
  refused, or a device config that cannot be decoded.
Imports: CodaNode.Node.Credentials, CodaNode.Python.JsonRoundTrip
Main exports: Field.carried, Restored, Restarts, load_of_texts, restarts_of_load
-/
import CodaNode.Node.Credentials
import CodaNode.Python.JsonRoundTrip

namespace CodaNode.Node

open Python (Json strip trim universalNewlines universalNewlines_of_plain)

/-- The fields that outlive the process: the private key and the keys of the config. -/
def Field.carried : List Field := .jwtPrivateKey :: Field.persisted

/-- The environment has no node token. -/
def TokenFree (environment : Data) : Prop := ((environment .nodeToken).map truthy).getD false = false

/-- The settings a restart with the persisted `settings` has to come up with: the values the environment
sets, and the persisted ones. -/
structure Restored (runtime : Runtime) (environment : Data) (settings later : Settings) : Prop where
  set : ∀ field ∈ Field.carried, ∀ value, environment field = some value → isUnset value = false →
    runtime.validate field value = .ok (later field)
  kept : ∀ field ∈ Field.carried, (∀ value, environment field = some value → isUnset value) →
    later field = settings field
  privateKey : truthy (later .jwtPrivateKey)
  keyId : truthy (later .jwtKeyId)

/-- The environment sets a field to a value that is refused. -/
def Refused (runtime : Runtime) (environment : Data) (failure : Failure) : Prop :=
  ∃ field value message, environment field = some value ∧ (field ∈ Field.carried → isUnset value = false) ∧
    runtime.validate field value = .error message ∧ failure = .validation message

/-- The file that is searched for an executor factory cannot be decoded. -/
def DeviceUnread (files : Files) (environment : Data) (failure : Failure) : Prop :=
  ((environment .executorFactory).map truthy).getD false = false ∧
    ∃ path file, (path = defaultDeviceConfig ∨ environment .deviceConfig = some (.str path)) ∧
      files path = some file ∧ file.readText = .error failure

/-- The outcome of a construction that found `settings` on the disk. -/
def RestoredBy (runtime : Runtime) (files : Files) (environment : Data) (settings : Settings) :
    Except Failure Settings → Prop
  | .ok later => Restored runtime environment settings later
  | .error failure => Refused runtime environment failure ∨ DeviceUnread files environment failure

/-- Every restart without a token finds `settings` on the disk. -/
def Restarts (runtime : Runtime) (files : Files) (settings : Settings) : Prop :=
  ∀ environment, TokenFree environment →
    RestoredBy runtime files environment settings (construct runtime files environment)

/-- Settings that can be persisted and read back. -/
structure Carriable (settings : Settings) : Prop where
  typed : settings.Typed
  privateKey : truthy (settings .jwtPrivateKey)
  keyId : truthy (settings .jwtKeyId)

/-- What the loader returns of settings that were persisted. -/
def carriedData (settings : Settings) : Data := fun field =>
  if field ∈ Field.carried then some (settings field) else none

variable {runtime : Runtime} {files : Files} {settings : Settings}

/-! ### What was written is read back -/

theorem writableEntries_iff {entries : List (String × Value)} :
    Json.writableEntries entries = true ↔ ∀ entry ∈ entries, entry.2.writable = true := by
  induction entries with
  | nil => simp [Json.writableEntries]
  | cons entry entries ih =>
      obtain ⟨key, value⟩ := entry
      simp [Json.writableEntries, ih]

theorem dumpableEntries_iff {entries : List (String × Value)} :
    Json.dumpableEntries entries = true ↔ ∀ entry ∈ entries, entry.2.dumpable = true := by
  induction entries with
  | nil => simp [Json.dumpableEntries]
  | cons entry entries ih =>
      obtain ⟨key, value⟩ := entry
      simp [Json.dumpableEntries, ih]

theorem writableItems_of_texts {items : List Value} (texts : Kind.texts.fits (.list items) = true) :
    Json.writableItems items = true := by
  induction items with
  | nil => rfl
  | cons item items ih =>
      simp only [Kind.fits, List.all_cons, Bool.and_eq_true] at texts
      have rest := ih texts.2
      cases item with
      | str text => simpa [Json.writableItems, Json.writable] using rest
      | _ => cases texts.1

/-- The value of a field has a text that is read back, unless it is too long a number. -/
theorem writable_of_fits {kind : Kind} {value : Value} (fits : kind.fits value = true)
    (dumpable : value.dumpable = true) : value.writable = true := by
  cases value with
  | int value => exact dumpable
  | list items => cases kind <;> first | exact writableItems_of_texts fits | cases fits
  | float value => cases kind <;> cases fits
  | dict entries => cases kind <;> cases fits
  | null => rfl
  | bool value => rfl
  | str text => rfl

theorem mem_persistedEntries {settings : Settings} {entry : String × Value}
    (inside : entry ∈ persistedEntries settings) :
    (∃ field ∈ Field.persisted, entry = (field.name, settings field)) ∨
      entry = ("jwt_private_key_path", .str persistedPrivateKeyPath) := by
  simp only [persistedEntries, List.mem_cons, List.not_mem_nil, or_false] at inside
  simp only [Field.persisted, List.mem_cons, List.not_mem_nil, or_false, exists_eq_or_imp, exists_eq_left,
    Field.name]
  grind

theorem writable_persistedEntries (typed : settings.Typed)
    (dumpable : Json.dumpable (.dict (persistedEntries settings)) = true) :
    Json.writable (.dict (persistedEntries settings)) = true := by
  have parts : ∀ entry ∈ persistedEntries settings, entry.2.dumpable = true :=
    dumpableEntries_iff.mp dumpable
  apply writableEntries_iff.mpr
  intro entry inside
  rcases mem_persistedEntries inside with ⟨field, -, rfl⟩ | rfl
  · exact writable_of_fits (typed field) (parts _ inside)
  · rfl

/-! ### A part of a config -/

theorem blank_of_skip {chars : List Char} (blank : Json.skip chars = []) :
    ∀ char ∈ chars, Json.isBlank char = true := by
  induction chars with
  | nil => simp
  | cons char chars ih =>
      simp only [Json.skip, List.dropWhile_cons] at blank
      split at blank
      · next here =>
        intro other inside
        rcases List.mem_cons.mp inside with rfl | later
        · exact here
        · exact ih blank other later
      · cases blank

/-- A config that is written starts and ends with a brace. -/
theorem configText_shape (runtime : Runtime) (settings : Settings) :
    ∃ chars body, (persistedConfigText runtime settings).toList = '{' :: chars ++ ['\n'] ∧
      '{' :: chars = body ++ ['}'] := by
  obtain ⟨chars, starts⟩ : ∃ chars, Json.dump runtime.writeFloat 0 (.dict (persistedEntries settings)) =
      '{' :: chars := ⟨_, rfl⟩
  obtain ⟨body, ends⟩ : ∃ body, Json.dump runtime.writeFloat 0 (.dict (persistedEntries settings)) =
      body ++ ['}'] := ⟨_, rfl⟩
  refine ⟨chars, body, ?_, starts.symm.trans ends⟩
  rw [persistedConfigText, Json.dumps, starts]
  simp

theorem persistedConfigText_eq (runtime : Runtime) (settings : Settings) :
    persistedConfigText runtime settings =
      String.ofList (Json.dump runtime.writeFloat 0 (.dict (persistedEntries settings)) ++ ['\n']) := by
  apply String.toList_inj.mp
  simp [persistedConfigText, Json.dumps]

theorem loads_configText (typed : settings.Typed)
    (dumpable : Json.dumpable (.dict (persistedEntries settings)) = true) :
    Json.loads runtime.readFloat (persistedConfigText runtime settings) =
      some (.dict (persistedEntries settings)) := by
  rw [persistedConfigText_eq]
  exact Json.loads_dumps (writable_persistedEntries typed dumpable) (.inr rfl) rfl

/-- A config that is written has no carriage return, so it is read as it was written. -/
theorem return_not_mem_configText (typed : settings.Typed)
    (dumpable : Json.dumpable (.dict (persistedEntries settings)) = true) :
    '\r' ∉ (persistedConfigText runtime settings).toList := by
  rw [persistedConfigText_eq, String.toList_ofList, List.mem_append, not_or]
  exact ⟨Json.return_not_mem_dump _ 0 (writable_persistedEntries typed dumpable), by decide⟩

/-- A part of a config that is an object is the whole config, perhaps without its last line feed. -/
theorem whole_of_part (typed : settings.Typed)
    (dumpable : Json.dumpable (.dict (persistedEntries settings)) = true) {text : String}
    {entries : List (String × Value)} (part : text.toList <+: (persistedConfigText runtime settings).toList)
    (read : Json.loads runtime.readFloat text = some (.dict entries)) :
    (text = persistedConfigText runtime settings ∨ text ++ "\n" = persistedConfigText runtime settings) ∧
      entries = persistedEntries settings := by
  obtain ⟨front, rfl⟩ : ∃ front, text = String.ofList front := ⟨text.toList, String.ofList_toList.symm⟩
  rw [String.toList_ofList] at part
  obtain ⟨more, whole⟩ := part
  obtain ⟨chars, body, shape, braced⟩ := configText_shape runtime settings
  cases front with
  | nil => simp [Json.loads, Json.skip, Json.value] at read
  | cons char rest =>
      obtain rfl : char = '{' := by
        rw [shape] at whole
        exact (List.cons.inj whole).1
      have same : String.ofList ('{' :: rest ++ more) = persistedConfigText runtime settings := by
        rw [whole, String.ofList_toList]
      have cut : Json.loads runtime.readFloat (persistedConfigText runtime settings) =
          if Json.skip more = [] then some (.dict entries) else none := by
        rw [← same]
        exact Json.loads_cut read
      rw [loads_configText typed dumpable] at cut
      split at cut
      · next blank =>
        refine ⟨?_, by cases cut; rfl⟩
        rw [shape, braced] at whole
        have short (front : '{' :: rest = body ++ ['}']) :
            String.ofList ('{' :: rest) ++ "\n" = persistedConfigText runtime settings := by
          apply String.toList_inj.mp
          rw [String.toList_append, String.toList_ofList, shape, braced, front]
          rfl
        rcases List.append_eq_append_iff.mp whole with ⟨middle, front, behind⟩ | ⟨middle, front, behind⟩
        · rcases List.eq_nil_or_concat middle with rfl | ⟨init, last, rfl⟩
          · rw [List.append_nil] at front
            exact .inr (short front.symm)
          · -- the last brace would be among the white space
            rw [List.concat_eq_append, ← List.append_assoc] at front
            obtain ⟨-, brace⟩ := List.append_inj' front rfl
            obtain rfl : '}' = last := (List.cons.inj brace).1
            have impossible := blank_of_skip blank '}' (by simp [behind])
            cases impossible
        · cases middle with
          | nil =>
              rw [List.append_nil] at front
              exact .inr (short front)
          | cons char middle =>
              obtain ⟨-, rest⟩ := List.cons.inj behind
              obtain ⟨-, rfl⟩ := List.append_eq_nil_iff.mp rest.symm
              rw [List.append_nil] at same
              exact .inl same
      · cases cut

/-! ### What is loaded -/

theorem strip_ne_nil {char : Char} {rest : List Char} (solid : Python.isSpace char = false) :
    strip (char :: rest) ≠ [] := by
  intro empty
  rw [strip, trim, List.dropWhile_cons_of_neg (by simp [solid]), List.reverse_eq_nil_iff, List.reverse_cons,
    List.dropWhile_append] at empty
  split at empty
  · simp [solid] at empty
  · simp at empty

/-- A file of its owner is read in the text mode. -/
theorem readSecureText_private {path text : String} (present : files path = some ⟨some text, ownerOnly⟩) :
    readSecureText files path = .ok (String.ofList (universalNewlines text.toList)) := by
  rw [readSecureText, present]
  rfl

/-- The loader, given the object in the config and the private key that is read. -/
theorem load_of_entries (documented : runtime.Documented) {entries : List (String × Value)}
    {chars : List Char} {key : String}
    (config : files persistedConfigPath = some ⟨some (String.ofList ('{' :: chars)), ownerOnly⟩)
    (rawConfig : readSecureText files persistedConfigPath = .ok (String.ofList ('{' :: chars)))
    (read : Json.loads runtime.readFloat (String.ofList ('{' :: chars)) = some (.dict entries))
    (path : Json.get entries "jwt_private_key_path" = some (.str persistedPrivateKeyPath))
    (stored : readSecureText files persistedPrivateKeyPath = .ok key) :
    loadPersistedRuntimeConfig runtime files = .ok (persistedData entries key) := by
  have solid : strip (String.ofList ('{' :: chars)).toList ≠ [] := by
    rw [String.toList_ofList]
    exact strip_ne_nil (by decide)
  have privateKey : readSecureText files (privateKeyPath runtime entries) = .ok key := by
    have place : privateKeyPath runtime entries = persistedPrivateKeyPath := by
      rw [privateKeyPath, path]
      dsimp only
      rw [documented.str]
      rfl
    rw [place, stored]
  rw [loadPersistedRuntimeConfig, config]
  dsimp only
  rw [rawConfig]
  dsimp only [bind, Except.bind]
  rw [if_neg solid, read]
  dsimp only
  rw [privateKey]

theorem persistedData_carried (carriable : Carriable settings) :
    persistedData (persistedEntries settings) (textOf (settings .jwtPrivateKey)) = carriedData settings := by
  have key : settings .jwtPrivateKey = .str (textOf (settings .jwtPrivateKey)) ∧
      textOf (settings .jwtPrivateKey) ≠ "" := by
    have fits := carriable.typed .jwtPrivateKey
    have some := carriable.privateKey
    generalize settings .jwtPrivateKey = value at fits some ⊢
    cases value with
    | str text => exact ⟨rfl, by simpa [truthy, textOf] using some⟩
    | _ => cases fits
  funext field
  unfold persistedData carriedData Field.carried
  by_cases inside : field ∈ Field.persisted
  · rw [if_pos inside, if_pos (List.mem_cons_of_mem _ inside), get_persistedEntries settings field inside]
  · rw [if_neg inside]
    by_cases same : field = .jwtPrivateKey
    · subst same
      rw [if_pos ⟨rfl, key.2⟩, if_pos List.mem_cons_self, ← key.1]
    · rw [if_neg fun both => same both.1, if_neg (by simp [same, inside])]

/-- What `_persist_runtime_config` writes is what the loader finds, also without the last line feed. -/
theorem load_of_texts (documented : runtime.Documented) (carriable : Carriable settings)
    (dumpable : Json.dumpable (.dict (persistedEntries settings)) = true) {text : String}
    (written : text = persistedConfigText runtime settings ∨
      text ++ "\n" = persistedConfigText runtime settings)
    (config : files persistedConfigPath = some ⟨some text, ownerOnly⟩)
    (key : readSecureText files persistedPrivateKeyPath = .ok (textOf (settings .jwtPrivateKey))) :
    loadPersistedRuntimeConfig runtime files = .ok (carriedData settings) := by
  have rawConfig : readSecureText files persistedConfigPath = .ok text := by
    have unbroken : '\r' ∉ text.toList := by
      intro inside
      have plain : '\r' ∉ (persistedConfigText runtime settings).toList :=
        return_not_mem_configText carriable.typed dumpable
      apply plain
      rcases written with rfl | short
      · exact inside
      · rw [← short, String.toList_append]
        exact List.mem_append_left _ inside
    rw [readSecureText_private config, universalNewlines_of_plain unbroken, String.ofList_toList]
  obtain ⟨chars, shape⟩ : ∃ chars, Json.dump runtime.writeFloat 0 (.dict (persistedEntries settings)) =
      '{' :: chars := ⟨_, rfl⟩
  have plain := writable_persistedEntries carriable.typed dumpable
  obtain ⟨blank, white, bounded, same⟩ : ∃ blank, Json.skip blank = [] ∧ Json.Bounded blank ∧
      text = String.ofList ('{' :: (chars ++ blank)) := by
    have whole : persistedConfigText runtime settings = String.ofList ('{' :: (chars ++ ['\n'])) := by
      rw [persistedConfigText, Json.dumps, shape]
      apply String.toList_inj.mp
      simp
    rcases written with rfl | short
    · exact ⟨['\n'], rfl, .inr rfl, whole⟩
    · refine ⟨[], rfl, .inl rfl, ?_⟩
      rw [whole] at short
      have chars' := congrArg String.toList short
      simp only [String.toList_append, String.toList_ofList, ← List.cons_append] at chars'
      apply String.toList_inj.mp
      rw [String.toList_ofList, List.append_nil]
      exact List.append_cancel_right chars'
  subst same
  rw [← persistedData_carried carriable]
  refine load_of_entries documented config rawConfig ?_ rfl key
  rw [← List.cons_append, ← shape]
  exact Json.loads_dumps plain bounded white

/-! ### Validators that may fail -/

/-- The program ends with `good` or fails with `bad`. -/
def Action.Ends (action : Action Unit) (settings : Settings) (good : Settings → Prop) (bad : Failure → Prop) :
    Prop :=
  (∃ after, action settings = .ok () after ∧ good after) ∨
    ∃ failure after, action settings = .error failure after ∧ bad failure

theorem Action.Ends.seq {first next : Action Unit} {middle good : Settings → Prop} {bad : Failure → Prop}
    (head : Action.Ends first settings middle bad)
    (tail : ∀ after, middle after → Action.Ends next after good bad) :
    Action.Ends (first >>= fun _ => next) settings good bad := by
  rcases head with ⟨between, runs, here⟩ | ⟨failure, between, fails, here⟩
  · have same : (first >>= fun _ => next) settings = next between := by
      change EStateM.bind _ _ settings = _
      rw [EStateM.bind, runs]
    rcases tail between here with ⟨after, runs, holds⟩ | ⟨failure, after, fails, holds⟩
    · exact .inl ⟨after, same.trans runs, holds⟩
    · exact .inr ⟨failure, after, same.trans fails, holds⟩
  · refine .inr ⟨failure, between, ?_, here⟩
    change EStateM.bind _ _ settings = _
    rw [EStateM.bind, fails]

/-- The object can go through the validators; `first` is the one they started with. -/
structure Ready (first settings : Settings) : Prop where
  reconnect : truthy (settings .nodeToken) = false
  privateKey : truthy (settings .jwtPrivateKey)
  keyId : truthy (settings .jwtKeyId)
  factory : truthy (settings .executorFactory) = false → truthy (first .executorFactory) = false
  device : settings .deviceConfig = first .deviceConfig ∨ settings .deviceConfig = .str defaultDeviceConfig

/-- The device config cannot be decoded. -/
def Unread (files : Files) (first : Settings) (failure : Failure) : Prop :=
  truthy (first .executorFactory) = false ∧
    ∃ path file, (path = defaultDeviceConfig ∨ truthy (first .deviceConfig) ∧ path = textOf (first .deviceConfig)) ∧
      files path = some file ∧ file.readText = .error failure

variable {persisted : Data} {first : Settings}

theorem check_ends (ready : Ready first settings) :
    checkJwtOrNodeToken.Ends settings (Ready first) (Unread files first) :=
  .inl ⟨settings, checkJwtOrNodeToken_ok.mpr ⟨.inr ⟨ready.privateKey, ready.keyId⟩, rfl⟩, ready⟩

/-- An assignment of the validators. -/
theorem assignField_ends (documented : runtime.Documented)
    (loaded : loadPersistedRuntimeConfig runtime files = .ok persisted) {field : Field} {text : String}
    (ready : Ready first settings) (kind : field.kind = .text)
    (own : field = .executorFactory ∧ text ≠ "" ∨ field = .deviceConfig ∧ text = defaultDeviceConfig) :
    (assignField runtime files field (.str text)).Ends settings (Ready first) (Unread files first) := by
  have valid : runtime.validate field (.str text) = .ok (.str text) :=
    documented.fits field (.str text) (by rw [kind]; rfl)
  have spared := spared_of_load loaded
  have stays {other : Field} (set : truthy (settings other)) (different : other ≠ field) :
      truthy ((refilled persisted settings).set field (.str text) other) := by
    rw [Settings.set_other different, refilled, refill_of_set (isUnset_of_truthy set)]
    exact set
  refine .inl ⟨_, (assignField_ok ready.reconnect).mpr ⟨persisted, _, loaded, valid, rfl⟩, ?_⟩
  constructor
  · rw [Settings.set_other, refilled_of_none spared.token]
    · exact ready.reconnect
    · rcases own with ⟨rfl, -⟩ | ⟨rfl, -⟩ <;> decide
  · apply stays ready.privateKey
    rcases own with ⟨rfl, -⟩ | ⟨rfl, -⟩ <;> decide
  · apply stays ready.keyId
    rcases own with ⟨rfl, -⟩ | ⟨rfl, -⟩ <;> decide
  · rcases own with ⟨rfl, some⟩ | ⟨rfl, -⟩
    · rw [Settings.set_self]
      simp [truthy, some]
    · rw [Settings.set_other (by decide), refilled_of_none spared.factory]
      exact ready.factory
  · rcases own with ⟨rfl, -⟩ | ⟨rfl, rfl⟩
    · rw [Settings.set_other (by decide), refilled_of_none spared.device]
      exact ready.device
    · exact .inr (Settings.set_self ..)

theorem factory_ends (documented : runtime.Documented)
    (loaded : loadPersistedRuntimeConfig runtime files = .ok persisted) (ready : Ready first settings) :
    (applyDeviceConfigExecutorFactory runtime files checkJwtOrNodeToken).Ends settings (Ready first)
      (Unread files first) := by
  unfold applyDeviceConfigExecutorFactory Action.Ends
  rw [Action.get_bind]
  by_cases idle : (truthy (settings .executorFactory) || !truthy (settings .deviceConfig)) = true
  · rw [if_pos idle]
    exact .inl ⟨settings, rfl, ready⟩
  · rw [if_neg idle]
    simp only [Bool.or_eq_true, Bool.not_eq_true', not_or, Bool.not_eq_true, Bool.not_eq_false] at idle
    cases read : loadExecutorFactory files (textOf (settings .deviceConfig)) with
    | error failure =>
        refine .inr ⟨failure, settings, rfl, ready.factory idle.1, ?_⟩
        unfold loadExecutorFactory at read
        split at read
        · cases read
        · next file present =>
          refine ⟨_, file, ?_, present, ?_⟩
          · rcases ready.device with same | same
            · exact .inr ⟨same ▸ idle.2, by rw [same]⟩
            · exact .inl (by rw [same]; rfl)
          · cases text : file.readText with
            | ok text =>
                rw [text] at read
                cases read
            | error other =>
                rw [text] at read
                cases read
                rfl
    | ok resolved =>
        have lifted {next : String → Action Unit} :
            (Action.lift (.ok resolved) >>= next) settings = next resolved settings := rfl
        rw [lifted]
        by_cases empty : resolved = ""
        · rw [if_pos empty]
          exact .inl ⟨settings, rfl, ready⟩
        · rw [if_neg empty]
          exact (assignField_ends documented loaded ready rfl (.inl ⟨rfl, empty⟩)).seq
            fun after ready => check_ends ready

theorem default_ends (documented : runtime.Documented)
    (loaded : loadPersistedRuntimeConfig runtime files = .ok persisted) {behind : Action Unit}
    (tail : ∀ after, Ready first after → behind.Ends after (Ready first) (Unread files first))
    (ready : Ready first settings) :
    (applyDefaultDeviceConfig runtime files behind).Ends settings (Ready first) (Unread files first) := by
  unfold applyDefaultDeviceConfig Action.Ends
  rw [Action.get_bind]
  split
  · exact .inl ⟨settings, rfl, ready⟩
  · split
    · exact (assignField_ends documented loaded ready rfl (.inr ⟨rfl, rfl⟩)).seq tail
    · exact .inl ⟨settings, rfl, ready⟩

/-- With credentials, and without a token, the validators fail only at a device config. -/
theorem afterValidators_ends (documented : runtime.Documented)
    (loaded : loadPersistedRuntimeConfig runtime files = .ok persisted) (ready : Ready first settings) :
    (afterValidators runtime files).Ends settings (Ready first) (Unread files first) := by
  have behind : ∀ after, Ready first after →
      Action.Ends (do
        applyDeviceConfigExecutorFactory runtime files checkJwtOrNodeToken
        checkJwtOrNodeToken) after (Ready first) (Unread files first) :=
    fun after ready => (factory_ends documented loaded ready).seq fun _ ready => check_ends ready
  exact (default_ends documented loaded behind ready).seq behind

/-! ### Construction -/

theorem initialSettings_ok {data : Data} (built : initialSettings runtime data = .ok settings) (field : Field) :
    initialValue runtime data field = .ok (settings field) := by
  unfold initialSettings at built
  split at built
  · cases built
  · next none =>
    cases built
    have fine := List.findSome?_eq_none_iff.mp none field field.mem_all
    dsimp only
    cases value : initialValue runtime data field with
    | ok value => rfl
    | error failure =>
        rw [value] at fine
        cases fine

theorem initialSettings_error {data : Data} {failure : Failure}
    (refused : initialSettings runtime data = .error failure) :
    ∃ field value message, data field = some value ∧ runtime.validate field value = .error message ∧
      failure = .validation message := by
  unfold initialSettings at refused
  split at refused
  · next found =>
    cases refused
    obtain ⟨field, -, failed⟩ := List.exists_of_findSome?_eq_some found
    unfold initialValue at failed
    split at failed
    · cases failed
    · next value given =>
      split at failed
      · cases failed
      · next message wrong =>
        cases failed
        exact ⟨field, value, message, given, wrong, rfl⟩
  · cases refused

theorem initialSettings_typed (documented : runtime.Documented) {data : Data}
    (built : initialSettings runtime data = .ok settings) : settings.Typed := by
  intro field
  have value := initialSettings_ok built field
  rw [initialValue] at value
  split at value
  · rw [← Except.ok.inj value]
    exact field.default_fits
  · split at value
    · next result validated =>
      cases value
      exact documented.typed field _ _ validated
    · cases value

/-- A value that is set stays so when it is validated. -/
theorem validate_set (documented : runtime.Documented) {field : Field} {value result : Value}
    (set : isUnset value = false) (validated : runtime.validate field value = .ok result) :
    isUnset result = false := by
  by_cases converted : field.kind = .int ∨ field.kind = .flag
  · have fits := documented.typed field value result validated
    rcases converted with kind | kind <;> rw [kind] at fits <;> cases result <;> first | rfl | cases fits
  · rw [not_or] at converted
    rw [documented.unconverted field value result converted.1 converted.2 validated]
    exact set

theorem filled_unset {environment : Data} {field : Field} {older : Value} (found : persisted field = some older)
    (unset : ∀ value, environment field = some value → isUnset value) :
    filled persisted environment field = some older := by
  unfold filled
  rw [found]
  cases given : environment field with
  | none => rfl
  | some value => simp [unset value given]

theorem filled_other {environment : Data} {field : Field} (absent : persisted field = none) :
    filled persisted environment field = environment field := by
  unfold filled
  rw [absent]

theorem carriedData_of_mem {field : Field} (inside : field ∈ Field.carried) :
    carriedData settings field = some (settings field) := if_pos inside

theorem carriedData_of_not_mem {field : Field} (outside : field ∉ Field.carried) :
    carriedData settings field = none := if_neg outside

/-- The text of a field that is not persisted, at construction. -/
theorem initial_text (documented : runtime.Documented) {environment : Data} {later : Settings} {field : Field}
    (kind : field.kind = .text) (empty : field.default = .str "") (outside : field ∉ Field.carried)
    (built : initialSettings runtime (filled (carriedData settings) environment) = .ok later) :
    later field = (environment field).getD (.str "") := by
  have value := initialSettings_ok built field
  rw [initialValue, filled_other (carriedData_of_not_mem outside)] at value
  cases given : environment field with
  | none =>
      rw [given] at value
      rw [← Except.ok.inj value]
      exact empty
  | some text =>
      rw [given] at value
      dsimp only at value
      split at value
      · next result validated =>
        cases value
        exact documented.text field text _ kind validated
      · cases value

theorem getD_str (environment : Data) (field : Field) :
    truthy ((environment field).getD (.str "")) = ((environment field).map truthy).getD false := by
  cases environment field <;> rfl

/-- The carried fields at construction. -/
theorem initial_carried (documented : runtime.Documented) (carriable : Carriable settings) {environment : Data}
    {initial : Settings} (built : initialSettings runtime (filled (carriedData settings) environment) = .ok initial)
    {field : Field} (inside : field ∈ Field.carried) :
    (∀ value, environment field = some value → isUnset value = false →
        runtime.validate field value = .ok (initial field) ∧ isUnset (initial field) = false) ∧
      ((∀ value, environment field = some value → isUnset value) → initial field = settings field) := by
  have taken := initialSettings_ok built field
  rw [initialValue] at taken
  constructor
  · intro value given set
    rw [filled_set given set] at taken
    dsimp only at taken
    split at taken
    · next result validated =>
      cases taken
      exact ⟨validated, validate_set documented set validated⟩
    · cases taken
  · intro unset
    rw [filled_unset (carriedData_of_mem inside) unset] at taken
    dsimp only at taken
    rw [documented.fits field _ (carriable.typed field)] at taken
    exact (Except.ok.inj taken).symm

/-- A credential at construction. -/
theorem initial_credential (documented : runtime.Documented) (carriable : Carriable settings)
    {environment : Data} {initial : Settings}
    (built : initialSettings runtime (filled (carriedData settings) environment) = .ok initial) {field : Field}
    (inside : field ∈ Field.carried) (kind : field.kind = .text) (own : truthy (settings field)) :
    truthy (initial field) := by
  obtain ⟨set, kept⟩ := initial_carried documented carriable built inside
  by_cases unset : ∀ value, environment field = some value → isUnset value
  · rw [kept unset]
    exact own
  · obtain ⟨value, shape⟩ := Classical.not_forall.mp unset
    obtain ⟨given, nonempty⟩ := Classical.not_imp.mp shape
    rw [Bool.not_eq_true] at nonempty
    obtain ⟨validated, nonempty⟩ := set value given nonempty
    have fits := documented.typed field value _ validated
    rw [kind] at fits
    cases found : initial field with
    | str text =>
        rw [found] at nonempty
        simpa [truthy, isUnset] using nonempty
    | _ =>
        rw [found] at fits
        cases fits

/-- The construction has everything the validators need. -/
theorem ready_initial (documented : runtime.Documented) (carriable : Carriable settings) {environment : Data}
    {initial : Settings} (tokenFree : TokenFree environment)
    (built : initialSettings runtime (filled (carriedData settings) environment) = .ok initial) :
    Ready initial initial where
  reconnect := by
    rw [initial_text documented rfl rfl (by decide) built, getD_str]
    exact tokenFree
  privateKey := initial_credential documented carriable built (by decide) rfl carriable.privateKey
  keyId := initial_credential documented carriable built (by decide) rfl carriable.keyId
  factory same := same
  device := .inl rfl

/-- What the validators leave of the carried fields. -/
theorem restored_of_merged (documented : runtime.Documented) (carriable : Carriable settings)
    {environment : Data} {initial later : Settings}
    (built : initialSettings runtime (filled (carriedData settings) environment) = .ok initial)
    (merged : Merged (carriedData settings) initial later) (ready : Ready initial later) :
    Restored runtime environment settings later := by
  have tracked {field : Field} (inside : field ∈ Field.carried) : field.Tracked := by
    constructor <;> rintro rfl <;> exact absurd inside (by decide)
  have refilled_set {field : Field} (inside : field ∈ Field.carried) (set : isUnset (initial field) = false) :
      later field = initial field := by
    rcases merged with merged | merged
    · exact merged field (tracked inside)
    · rw [merged field (tracked inside), refill_of_set set]
  constructor
  · intro field inside value given set
    obtain ⟨validated, nonempty⟩ := (initial_carried documented carriable built inside).1 value given set
    rw [refilled_set inside nonempty]
    exact validated
  · intro field inside unset
    have same := (initial_carried documented carriable built inside).2 unset
    rcases merged with merged | merged
    · rw [merged field (tracked inside), same]
    · rw [merged field (tracked inside), same, refill, carriedData_of_mem inside]
      simp
  · exact ready.privateKey
  · exact ready.keyId

/-- A restart finds the settings the loader returns. -/
theorem restarts_of_load (documented : runtime.Documented) (carriable : Carriable settings)
    (loaded : loadPersistedRuntimeConfig runtime files = .ok (carriedData settings)) :
    Restarts runtime files settings := by
  intro environment tokenFree
  unfold construct mergePersistedRuntimeConfig
  rw [tokenFree, if_neg (by decide), loaded]
  dsimp only [bind, Except.bind]
  cases built : initialSettings runtime (filled (carriedData settings) environment) with
  | error failure =>
      obtain ⟨field, value, message, given, refused, rfl⟩ := initialSettings_error built
      left
      by_cases inside : field ∈ Field.carried
      · by_cases unset : ∀ value, environment field = some value → isUnset value
        · rw [filled_unset (carriedData_of_mem inside) unset] at given
          cases given
          rw [documented.fits field _ (carriable.typed field)] at refused
          cases refused
        · obtain ⟨other, shape⟩ := Classical.not_forall.mp unset
          obtain ⟨found, set⟩ := Classical.not_imp.mp shape
          rw [Bool.not_eq_true] at set
          rw [filled_set found set] at given
          cases given
          exact ⟨field, _, message, found, fun _ => set, refused, rfl⟩
      · rw [filled_other (carriedData_of_not_mem inside)] at given
        exact ⟨field, value, message, given, fun carried => absurd carried inside, refused, rfl⟩
  | ok initial =>
      have ready := ready_initial documented carriable tokenFree built
      dsimp only
      rcases afterValidators_ends documented loaded ready with ⟨later, runs, ready'⟩ | ⟨failure, later, fails, unread⟩
      · obtain ⟨-, -, -, merged⟩ := afterValidators_ok documented loaded ready.reconnect runs
        rw [runs]
        exact restored_of_merged documented carriable built merged ready'
      · rw [fails]
        right
        obtain ⟨factory, path, file, place, present, text⟩ := unread
        rw [initial_text documented rfl rfl (by decide) built, getD_str] at factory
        refine ⟨factory, path, file, ?_, present, text⟩
        rcases place with default | ⟨given, same⟩
        · exact .inl default
        · right
          have fits := initialSettings_typed documented built .deviceConfig
          rw [initial_text documented rfl rfl (by decide) built] at fits given same
          cases found : environment .deviceConfig with
          | none =>
              rw [found] at given
              cases given
          | some value =>
              rw [found, Option.getD_some] at fits same
              cases value with
              | str text => rw [same, textOf]
              | _ => cases fits

end CodaNode.Node
