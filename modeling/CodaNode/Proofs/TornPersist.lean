/-
Module: CodaNode.Proofs.TornPersist
Layer: Proofs
Purpose: What a restart finds when `_persist_runtime_config` was interrupted. The two files are rewritten in
  place, one behind the other, so there are states between the old settings and the new ones: a key
  without a text, a part of a key, the new key beside the old config, a part of the new config. A restart
  finds the old settings or the new ones exactly when both files have the texts of one of them, where the
  last line feed of the config does not matter, and where the key is taken as the text mode reads it.
Imports: CodaNode.Node.Restart, CodaNode.Node.Persist, CodaNode.Node.Rehearsal
Main exports: Unbroken, Torn, persistRuntimeConfig_restarts_iff
-/
import CodaNode.Node.Restart
import CodaNode.Node.Persist
import CodaNode.Node.Rehearsal

namespace CodaNode.Node

open Coroutine Coro
open Python (Json universalNewlines universalNewlines_of_plain)

/-- The two files have the texts of the settings: the key up to the line ends that the text mode translates, the
config perhaps without its last line feed. -/
structure Unbroken (runtime : Runtime) (settings : Settings) (files : Files) : Prop where
  key : ∃ text, files persistedPrivateKeyPath = some ⟨some text, ownerOnly⟩ ∧
    universalNewlines text.toList = (textOf (settings .jwtPrivateKey)).toList
  config : ∃ text, files persistedConfigPath = some ⟨some text, ownerOnly⟩ ∧
    (text = persistedConfigText runtime settings ∨ text ++ "\n" = persistedConfigText runtime settings)
  dumpable : Json.dumpable (.dict (persistedEntries settings))

/-- A file that holds an old text or a part of a new one. -/
def Between (files : Files) (path older newer : String) : Prop :=
  ∃ file, files path = some file ∧ file.mode = ownerOnly ∧ (file.text = some older ∨ PartOf newer file)

/-- The files while the new settings are written over the old ones. -/
structure Torn (runtime : Runtime) (older newer : Settings) (files : Files) : Prop where
  key : Between files persistedPrivateKeyPath (textOf (older .jwtPrivateKey)) (textOf (newer .jwtPrivateKey))
  config : Between files persistedConfigPath (persistedConfigText runtime older)
    (persistedConfigText runtime newer)
  dumpable : Json.dumpable (.dict (persistedEntries newer)) ∨
    files persistedConfigPath = some ⟨some (persistedConfigText runtime older), ownerOnly⟩

namespace TornPersist

variable {runtime : Runtime} {files : Files} {settings older newer : Settings}

/-! ### What a restart has read -/

/-- An environment that names an executor factory and nothing else. -/
def probe : Data := fun field => if field = .executorFactory then some (.str "factory") else none

theorem probe_carried {field : Field} (inside : field ∈ Field.carried) : probe field = none := by
  apply if_neg
  rintro rfl
  exact absurd inside (by decide)

theorem probe_tokenFree : TokenFree probe := rfl

/-- With an executor factory given, and nothing that could be refused, a restart comes up. -/
theorem construct_of_restarts (documented : runtime.Documented) (restarts : Restarts runtime files settings) :
    ∃ later, construct runtime files probe = .ok later ∧ Restored runtime probe settings later := by
  have outcome := restarts probe probe_tokenFree
  cases built : construct runtime files probe with
  | ok later =>
      rw [built] at outcome
      exact ⟨later, rfl, outcome⟩
  | error failure =>
      rw [built] at outcome
      rcases outcome with ⟨field, value, message, given, -, refused, -⟩ | ⟨noFactory, -⟩
      · simp only [probe] at given
        split at given
        · next same =>
          cases given
          rw [same, documented.fits .executorFactory (.str "factory") rfl] at refused
          cases refused
        · cases given
      · cases noFactory

/-- What such a restart has in a carried field is what the loader returned for it, or the default. -/
theorem later_of_construct (documented : runtime.Documented) {later : Settings}
    (built : construct runtime files probe = .ok later) :
    ∃ persisted, loadPersistedRuntimeConfig runtime files = .ok persisted ∧
      ∀ field ∈ Field.carried,
        (∀ value, persisted field = some value → field.kind.fits value → later field = value) ∧
          (persisted field = none → later field = field.default) := by
  unfold construct mergePersistedRuntimeConfig at built
  rw [probe_tokenFree, if_neg (by decide)] at built
  cases loaded : loadPersistedRuntimeConfig runtime files with
  | error failure =>
      rw [loaded] at built
      cases built
  | ok persisted =>
      rw [loaded] at built
      dsimp only [bind, Except.bind] at built
      cases started : initialSettings runtime (filled persisted probe) with
      | error failure =>
          rw [started] at built
          cases built
      | ok initial =>
          rw [started] at built
          dsimp only at built
          have spared := spared_of_load loaded
          have reconnect : truthy (initial .nodeToken) = false := by
            have value := initialSettings_ok started .nodeToken
            rw [initialValue, filled_other spared.token] at value
            rw [← Except.ok.inj value]
            rfl
          cases runs : afterValidators runtime files initial with
          | error failure after =>
              rw [runs] at built
              cases built
          | ok result after =>
              rw [runs] at built
              cases built
              obtain ⟨-, -, -, merged⟩ := afterValidators_ok documented loaded reconnect runs
              refine ⟨persisted, rfl, ?_⟩
              intro field inside
              have tracked : field.Tracked := by
                constructor <;> rintro rfl <;> exact absurd inside (by decide)
              have value := initialSettings_ok started field
              constructor
              · intro older found fits
                have same : initial field = older := by
                  rw [initialValue, filled_unset found (by simp [probe_carried inside])] at value
                  dsimp only at value
                  rw [documented.fits field older fits] at value
                  exact (Except.ok.inj value).symm
                rcases merged with merged | merged
                · rw [merged field tracked, same]
                · rw [merged field tracked, same, refill, found]
                  simp
              · intro absent
                have same : initial field = field.default := by
                  rw [initialValue, filled_other absent, probe_carried inside] at value
                  exact (Except.ok.inj value).symm
                rcases merged with merged | merged
                · rw [merged field tracked, same]
                · rw [merged field tracked, same, refill, absent]

/-! ### Torn files -/

theorem readSecureText_between {path older newer text : String} (between : Between files path older newer)
    (read : readSecureText files path = .ok text) :
    ∃ content, files path = some ⟨some content, ownerOnly⟩ ∧
      text = String.ofList (universalNewlines content.toList) ∧
      (content = older ∨ content.toList <+: newer.toList) := by
  obtain ⟨⟨found, mode⟩, present, restricted, written⟩ := between
  dsimp only at restricted written
  subst restricted
  rw [readSecureText, present] at read
  dsimp only at read
  rw [if_neg (by simp)] at read
  cases found with
  | none => cases read
  | some content =>
      cases read
      refine ⟨content, present, rfl, ?_⟩
      rcases written with same | part
      · exact .inl (Option.some.inj same)
      · exact .inr (part _ rfl)

theorem privateKeyPath_persisted (documented : runtime.Documented) (settings : Settings) :
    privateKeyPath runtime (persistedEntries settings) = persistedPrivateKeyPath := by
  have found : Json.get (persistedEntries settings) "jwt_private_key_path" =
      some (.str persistedPrivateKeyPath) := rfl
  rw [privateKeyPath, found]
  dsimp only
  rw [documented.str]
  rfl

/-- An object that is read of a torn config is the old one or the new one. -/
theorem entries_of_torn (olderTyped : older.Typed) (newerTyped : newer.Typed)
    (dumpable : Json.dumpable (.dict (persistedEntries older)) = true) (torn : Torn runtime older newer files)
    {text : String} {entries : List (String × Value)}
    (raw : readSecureText files persistedConfigPath = .ok text)
    (object : Json.loads runtime.readFloat text = some (.dict entries)) :
    files persistedConfigPath = some ⟨some text, ownerOnly⟩ ∧ ∃ source : Settings, source.Typed ∧
      Json.dumpable (.dict (persistedEntries source)) = true ∧ entries = persistedEntries source ∧
        (text = persistedConfigText runtime source ∨ text ++ "\n" = persistedConfigText runtime source) := by
  obtain ⟨content, present, translated, written⟩ := readSecureText_between torn.config raw
  have plain : '\r' ∉ content.toList := by
    intro inside
    rcases written with rfl | part
    · exact return_not_mem_configText olderTyped dumpable inside
    · rcases torn.dumpable with newerDumpable | untouched
      · exact return_not_mem_configText newerTyped newerDumpable (part.subset inside)
      · cases present.symm.trans untouched
        exact return_not_mem_configText olderTyped dumpable inside
  rw [universalNewlines_of_plain plain, String.ofList_toList] at translated
  subst translated
  refine ⟨present, ?_⟩
  have old (same : text = persistedConfigText runtime older) : ∃ source : Settings, source.Typed ∧
      Json.dumpable (.dict (persistedEntries source)) = true ∧ entries = persistedEntries source ∧
        (text = persistedConfigText runtime source ∨ text ++ "\n" = persistedConfigText runtime source) := by
    refine ⟨older, olderTyped, dumpable, ?_, .inl same⟩
    rw [same, loads_configText olderTyped dumpable] at object
    cases object
    rfl
  rcases written with same | part
  · exact old same
  · rcases torn.dumpable with newerDumpable | untouched
    · obtain ⟨whole, same⟩ := whole_of_part newerTyped newerDumpable part object
      exact ⟨newer, newerTyped, newerDumpable, same, whole⟩
    · apply old
      rw [present] at untouched
      simpa using untouched

theorem persistedEntries_congr (same : ∀ field ∈ Field.persisted, older field = newer field) :
    persistedEntries older = persistedEntries newer := by
  simp only [Field.persisted, List.forall_mem_cons] at same
  simp only [persistedEntries, same]

/-- Torn files from which every restart has some settings are not broken for these. -/
theorem unbroken_of_restarts (documented : runtime.Documented) (olderTyped : older.Typed)
    (newerTyped : newer.Typed) (dumpable : Json.dumpable (.dict (persistedEntries older)) = true)
    (torn : Torn runtime older newer files) (restarts : Restarts runtime files settings) :
    Unbroken runtime settings files := by
  obtain ⟨later, built, restored⟩ := construct_of_restarts documented restarts
  obtain ⟨persisted, loaded, fields⟩ := later_of_construct documented built
  have kept {field : Field} (inside : field ∈ Field.carried) : later field = settings field :=
    restored.kept field inside (by simp [probe_carried inside])
  have keyless : persisted .jwtPrivateKey ≠ none := by
    intro absent
    have key := restored.privateKey
    rw [(fields .jwtPrivateKey (by decide)).2 absent] at key
    cases key
  rcases load_cases loaded with rfl | ⟨text, entries, privateKey, raw, object, key, rfl⟩
  · exact absurd rfl keyless
  · obtain ⟨present, source, typed, sourceDumpable, rfl, whole⟩ :=
      entries_of_torn olderTyped newerTyped dumpable torn raw object
    rw [privateKeyPath_persisted documented] at key
    obtain ⟨stored, held, translated, -⟩ := readSecureText_between torn.key key
    have same : persistedEntries source = persistedEntries settings := by
      apply persistedEntries_congr
      intro field inside
      have carried : field ∈ Field.carried := List.mem_cons_of_mem _ inside
      rw [← kept carried]
      refine ((fields field carried).1 (source field) ?_ (typed field)).symm
      rw [persistedData, if_pos inside, get_persistedEntries source field inside]
    have own : privateKey = textOf (settings .jwtPrivateKey) := by
      by_cases empty : privateKey = ""
      · exact absurd (by simp [persistedData, Field.persisted, empty]) keyless
      · have found := (fields .jwtPrivateKey (by decide)).1 (.str privateKey)
          (by simp [persistedData, Field.persisted, empty]) rfl
        rw [← kept (by decide), found, textOf]
    constructor
    · refine ⟨stored, held, ?_⟩
      rw [← own, translated, String.toList_ofList]
    · refine ⟨text, present, ?_⟩
      unfold persistedConfigText at whole ⊢
      rw [← same]
      exact whole
    · rw [← same]
      exact sourceDumpable

/-- A key that is read back has no carriage return. -/
theorem Unbroken.key_plain (unbroken : Unbroken runtime settings files) :
    '\r' ∉ (textOf (settings .jwtPrivateKey)).toList := by
  obtain ⟨text, -, same⟩ := unbroken.key
  rw [← same]
  exact Python.return_not_mem_universalNewlines text.toList

theorem restarts_of_unbroken (documented : runtime.Documented) (carriable : Carriable settings)
    (unbroken : Unbroken runtime settings files) : Restarts runtime files settings := by
  obtain ⟨text, config, written⟩ := unbroken.config
  apply restarts_of_load documented carriable
  obtain ⟨key, stored, same⟩ := unbroken.key
  apply load_of_texts documented carriable unbroken.dumpable written config
  rw [readSecureText_private stored, same, String.ofList_toList]

/-! ### The run -/

variable {site : Site}

/-- The operations behind the first one, for the settings that are persisted. -/
def Rewrites (runtime : Runtime) (settings : Settings) : Op → Prop
  | .openForWriting path | .chmod path =>
      path = persistedPrivateKeyPath ∨
        path = persistedConfigPath ∧ Json.dumpable (.dict (persistedEntries settings))
  | .writeText path content =>
      path = persistedPrivateKeyPath ∧ content = textOf (settings .jwtPrivateKey) ∨
        path = persistedConfigPath ∧ content = persistedConfigText runtime settings ∧
          Json.dumpable (.dict (persistedEntries settings))
  | _ => False

/-- The settings are being persisted over older ones. -/
def Rewriting (site : Site) (older newer : Settings) (world : World) : Prop :=
  world.settings = newer ∧ Torn site.runtime older newer world.files

theorem rewriting_keeps : (nodeMachine site).Keeps (Rewriting site older newer) := by
  rintro world after move ⟨current, torn⟩
  have key := Occurs.own move (.inr rfl)
  have config := Occurs.own move (.inl rfl)
  refine ⟨move.settings.trans current, ?_⟩
  constructor
  · unfold Between
    rw [key]
    exact torn.key
  · unfold Between
    rw [config]
    exact torn.config
  · rw [config]
    exact torn.dumpable

/-- A file that is put in the place of the key or the config. -/
theorem torn_put (torn : Torn runtime older newer files) {path content : String} {file : File}
    (part : PartOf content file) (mode : ∀ previous, files path = some previous → file.mode = previous.mode ∨
      file.mode = ownerOnly)
    (place : path = persistedPrivateKeyPath ∧ content = textOf (newer .jwtPrivateKey) ∨
      path = persistedConfigPath ∧ content = persistedConfigText runtime newer ∧
        Json.dumpable (.dict (persistedEntries newer))) :
    Torn runtime older newer (files.put path file) := by
  have restricted {older newer : String} (between : Between files path older newer) : file.mode = ownerOnly := by
    obtain ⟨previous, present, restricted, -⟩ := between
    rcases mode previous present with same | same
    · rw [same, restricted]
    · exact same
  rcases place with ⟨rfl, rfl⟩ | ⟨rfl, rfl, dumpable⟩
  · constructor
    · exact ⟨file, Files.put_self .., restricted torn.key, .inr part⟩
    · unfold Between
      rw [Files.put_other (by decide)]
      exact torn.config
    · rw [Files.put_other (by decide)]
      exact torn.dumpable
  · constructor
    · unfold Between
      rw [Files.put_other (by decide)]
      exact torn.key
    · exact ⟨file, Files.put_self .., restricted torn.config, .inr part⟩
    · exact .inl dumpable

theorem torn_chmod (torn : Torn runtime older newer files) {path : String} {file : File}
    (present : files path = some file)
    (place : path = persistedPrivateKeyPath ∨
      path = persistedConfigPath ∧ Json.dumpable (.dict (persistedEntries newer))) :
    Torn runtime older newer (files.put path { file with mode := ownerOnly }) := by
  have restricted {older newer : String} (between : Between files path older newer) :
      Between (files.put path { file with mode := ownerOnly }) path older newer := by
    obtain ⟨previous, there, -, written⟩ := between
    cases there.symm.trans present
    exact ⟨_, Files.put_self .., rfl, written⟩
  rcases place with rfl | ⟨rfl, dumpable⟩
  · constructor
    · exact restricted torn.key
    · unfold Between
      rw [Files.put_other (by decide)]
      exact torn.config
    · rw [Files.put_other (by decide)]
      exact torn.dumpable
  · constructor
    · unfold Between
      rw [Files.put_other (by decide)]
      exact torn.key
    · exact restricted torn.config
    · exact .inl dumpable

theorem part_self (content : String) (mode : Nat) : PartOf content ⟨some content, mode⟩ := by
  intro text same
  cases same
  exact List.prefix_rfl

theorem part_empty (content : String) (mode : Nat) : PartOf content ⟨some "", mode⟩ := by
  intro text same
  cases same
  exact List.nil_prefix

/-- What a thread has written that nobody waits for. -/
theorem torn_persisting {world : World} {files : Files} (torn : Torn runtime older newer world.files)
    (current : world.settings = newer) (persisting : Persisting runtime world files) :
    Torn runtime older newer files := by
  have rewritten {path older newer : String} {file : File} (between : Between world.files path older newer)
      (present : files path = some file) (rewritten : Rewritten (world.files path) newer file) :
      Between files path older newer := by
    obtain ⟨previous, there, restricted, -⟩ := between
    refine ⟨file, present, ?_, .inr rewritten.part⟩
    rcases rewritten.mode previous there with same | same
    · rw [same, restricted]
    · exact same
  have kept {path older newer : String} (between : Between world.files path older newer)
      (same : files path = world.files path) : Between files path older newer := by
    unfold Between
    rw [same]
    exact between
  obtain ⟨-, config, key⟩ := persisting
  rw [current] at config key
  constructor
  · rcases key with same | ⟨file, present, written⟩
    · exact kept torn.key same
    · exact rewritten torn.key present written
  · rcases config with same | ⟨-, file, present, written⟩
    · exact kept torn.config same
    · exact rewritten torn.config present written
  · rcases config with same | ⟨dumpable, -⟩
    · rw [same]
      exact torn.dumpable
    · exact .inl dumpable

/-- Every operation leaves the files between the old and the new settings, however it ends. -/
theorem rewriting_performs {op : Op} {outcome : Except Failure (Reply op)} {world after : World}
    (allowed : Rewrites site.runtime newer op) (performed : Performs site world op outcome after)
    (here : Rewriting site older newer world) : Rewriting site older newer after := by
  obtain ⟨current, torn⟩ := here
  cases performed with
  | opened path mode kept =>
      refine ⟨current, ?_⟩
      rcases allowed with rfl | ⟨rfl, dumpable⟩
      · exact torn_put torn (part_empty _ _) (fun _ present => .inl (kept _ present)) (.inl ⟨rfl, rfl⟩)
      · exact torn_put torn (part_empty _ _) (fun _ present => .inl (kept _ present))
          (.inr ⟨rfl, rfl, dumpable⟩)
  | written path content mode kept =>
      exact ⟨current, torn_put torn (part_self _ _) (fun _ present => .inl (kept _ present)) allowed⟩
  | partlyWritten path content message file part kept =>
      exact ⟨current, torn_put torn part (fun _ present => .inl (kept _ present)) allowed⟩
  | changedMode path file present => exact ⟨current, torn_chmod torn present allowed⟩
  | openCancelled path files persisting => exact ⟨current, torn_persisting torn current persisting⟩
  | writeCancelled path content files persisting => exact ⟨current, torn_persisting torn current persisting⟩
  | chmodCancelled path files persisting => exact ⟨current, torn_persisting torn current persisting⟩
  | notOpened => exact ⟨current, torn⟩
  | notChangedMode => exact ⟨current, torn⟩
  | _ => cases allowed

theorem writeSecureText_rewrites {path content : String}
    (place : path = persistedPrivateKeyPath ∧ content = textOf (newer .jwtPrivateKey) ∨
      path = persistedConfigPath ∧ content = persistedConfigText runtime newer ∧
        Json.dumpable (.dict (persistedEntries newer))) :
    (writeSecureText path content).Issues (Rewrites runtime newer) := by
  have whose : path = persistedPrivateKeyPath ∨
      path = persistedConfigPath ∧ Json.dumpable (.dict (persistedEntries newer)) :=
    place.imp And.left fun both => ⟨both.1, both.2.2⟩
  exact Issues.bind (.perform whose) fun _ => Issues.bind (.perform place) fun _ => .perform whose

theorem persisting_rewrites (runtime : Runtime) (settings : Settings) :
    (do
      writeSecureText persistedPrivateKeyPath (textOf (settings .jwtPrivateKey))
      if Json.dumpable (.dict (persistedEntries settings)) then
        writeSecureText persistedConfigPath (persistedConfigText runtime settings)
      else .raise (.other "Exceeds the limit (4300 digits) for integer string conversion") : Task Unit).Issues
      (Rewrites runtime settings) := by
  refine Issues.bind (writeSecureText_rewrites (.inl ⟨rfl, rfl⟩)) fun _ => ?_
  split
  · next dumpable => exact writeSecureText_rewrites (.inr ⟨rfl, rfl, dumpable⟩)
  · trivial

/-- All through `_persist_runtime_config` the files are between the old and the new settings. -/
theorem persistRuntimeConfig_torn :
    Triple (nodeMachine site) () (Rewriting site older newer) (Rewriting site older newer)
      (persistRuntimeConfig site.runtime) (fun _ => Rewriting site older newer)
      fun _ => Rewriting site older newer := by
  have reads : Triple (nodeMachine site) () (Rewriting site older newer) (Rewriting site older newer)
      (perform Op.settings : Task Settings) (fun found world => found = newer ∧ Rewriting site older newer world)
      fun _ => Rewriting site older newer := by
    apply Triple.perform rewriting_keeps
    · intro _ here
      exact here
    · intro found world after here performed
      cases performed
      exact ⟨here.1, here⟩
    · intro failure world after here performed
      cases performed
    · intro found world after move here
      exact ⟨here.1, rewriting_keeps move here.2⟩
    · intro _
      exact rewriting_keeps
    · intro _ _ here
      exact here.2
    · intro _ _ here
      exact here
  apply reads.bind
  intro found world last rest here leads
  obtain ⟨rfl, here⟩ := here
  refine Triple.invariant rewriting_keeps ?_ (persisting_rewrites site.runtime found) here leads
  intro op outcome state after allowed performed
  exact rewriting_performs allowed performed

end TornPersist

/-- The files of settings that were persisted. -/
structure Persisted (runtime : Runtime) (settings : Settings) (files : Files) : Prop where
  key : files persistedPrivateKeyPath = some ⟨some (textOf (settings .jwtPrivateKey)), ownerOnly⟩
  config : files persistedConfigPath = some ⟨some (persistedConfigText runtime settings), ownerOnly⟩
  dumpable : Json.dumpable (.dict (persistedEntries settings))

theorem Persisted.torn {runtime : Runtime} {older : Settings} {files : Files}
    (persisted : Persisted runtime older files) (newer : Settings) : Torn runtime older newer files :=
  ⟨⟨_, persisted.key, rfl, .inl rfl⟩, ⟨_, persisted.config, rfl, .inl rfl⟩, .inr persisted.config⟩

/-- A restart behind an interrupted `_persist_runtime_config` has the old settings or the new ones exactly
when the two files have the texts of one of them, the key as the text mode reads it. -/
theorem persistRuntimeConfig_restarts_iff (site : Site) (documented : site.runtime.Documented)
    (older : Settings) (world last : World) (rest : Task Unit) (olderCarriable : Carriable older)
    (newerCarriable : Carriable world.settings) (persisted : Persisted site.runtime older world.files)
    (leads : Leads (nodeMachine site) () world (persistRuntimeConfig site.runtime) last rest) :
    (Restarts site.runtime last.files older ∨ Restarts site.runtime last.files world.settings) ↔
      (Unbroken site.runtime older last.files ∨ Unbroken site.runtime world.settings last.files) := by
  have torn : Torn site.runtime older world.settings last.files :=
    (TornPersist.persistRuntimeConfig_torn ⟨rfl, persisted.torn _⟩ leads).1.2
  have unbroken {settings : Settings} (restarts : Restarts site.runtime last.files settings) :
      Unbroken site.runtime settings last.files :=
    TornPersist.unbroken_of_restarts documented olderCarriable.typed newerCarriable.typed persisted.dumpable
      torn restarts
  constructor
  · intro restarts
    exact restarts.imp unbroken unbroken
  · intro texts
    exact texts.imp (TornPersist.restarts_of_unbroken documented olderCarriable)
      (TornPersist.restarts_of_unbroken documented newerCarriable)

namespace TornPersist

/-- A provisioned node with the text as its key and its key id. -/
def node (text : String) : Settings :=
  Settings.set (Settings.set Field.default .jwtPrivateKey (.str text)) .jwtKeyId (.str text)

theorem node_carriable {text : String} (some : text ≠ "") : Carriable (node text) where
  typed field := by cases field <;> rfl
  privateKey := by simp [node, Settings.set, truthy, some]
  keyId := by simp [node, Settings.set, truthy, some]

/-- The files of the old node. -/
def files : Files :=
  Files.put (Files.put (fun _ => none) persistedPrivateKeyPath ⟨some "old", ownerOnly⟩) persistedConfigPath
    ⟨some (persistedConfigText Runtime.strict (node "old")), ownerOnly⟩

theorem files_persisted : Persisted Site.plain.runtime (node "old") files :=
  ⟨by rfl, by rfl, by decide +kernel⟩

/-- The new node, about to be persisted. -/
def world : World := { settings := node "new", files := files }

/-- The new key is written, and the config is the old one. -/
def torn : World :=
  { world with
    files := (files.put persistedPrivateKeyPath ⟨some "", ownerOnly⟩).put persistedPrivateKeyPath
      ⟨some "new", ownerOnly⟩ }

theorem torn_leads : ∃ rest,
    Leads (nodeMachine Site.plain) () world (persistRuntimeConfig Site.plain.runtime) torn rest := by
  have kept {files : Files} {file : File} (present : files persistedPrivateKeyPath = some file)
      (restricted : file.mode = ownerOnly) :
      ∀ other, files persistedPrivateKeyPath = some other → ownerOnly = other.mode := by
    intro other found
    cases present.symm.trans found
    exact restricted.symm
  have read : (nodeMachine Site.plain).perform () world .settings (.ok (node "new")) world := .settings world
  have opened : (nodeMachine Site.plain).perform () world (.openForWriting persistedPrivateKeyPath) (.ok ())
      { world with files := files.put persistedPrivateKeyPath ⟨some "", ownerOnly⟩ } :=
    .opened world _ _ (kept files_persisted.key rfl)
  have emptied : files.put persistedPrivateKeyPath ⟨some "", ownerOnly⟩ persistedPrivateKeyPath =
      some ⟨some "", ownerOnly⟩ := Files.put_self ..
  have written : (nodeMachine Site.plain).perform ()
      { world with files := files.put persistedPrivateKeyPath ⟨some "", ownerOnly⟩ }
      (.writeText persistedPrivateKeyPath "new") (.ok ()) torn :=
    .written _ _ _ _ (kept emptied rfl)
  have start : Leads (nodeMachine Site.plain) () world (persistRuntimeConfig Site.plain.runtime) world
      (persistRuntimeConfig Site.plain.runtime) := .refl
  exact ⟨_, .call (.call (.call start read) opened) written⟩

theorem torn_old : ¬ Unbroken Site.plain.runtime (node "old") torn.files := by
  intro unbroken
  obtain ⟨text, present, same⟩ := unbroken.key
  have key : (some ⟨some "new", ownerOnly⟩ : Option File) = some ⟨some text, ownerOnly⟩ := present
  obtain rfl : "new" = text := by simpa using key
  revert same
  decide

theorem torn_new : ¬ Unbroken Site.plain.runtime (node "new") torn.files := by
  rintro ⟨-, ⟨text, present, whole⟩, -⟩
  have same : (some ⟨some (persistedConfigText Runtime.strict (node "old")), ownerOnly⟩ : Option File) =
      some ⟨some text, ownerOnly⟩ := present
  obtain rfl : persistedConfigText Runtime.strict (node "old") = text := by simpa using same
  -- the two texts are compared as lists of characters
  rcases whole with whole | whole
  · have chars := congrArg String.toList whole
    simp only [persistedConfigText, Json.dumps, String.toList_append, String.toList_ofList] at chars
    revert chars
    decide +kernel
  · have chars := congrArg String.toList whole
    simp only [persistedConfigText, Json.dumps, String.toList_append, String.toList_ofList] at chars
    revert chars
    decide +kernel

end TornPersist

/-- The key is the new one and the config is the old one: the files have the texts of neither. -/
theorem persistRuntimeConfig_restarts_torn :
    (Restarts Site.plain.runtime TornPersist.torn.files (TornPersist.node "old") ∨
        Restarts Site.plain.runtime TornPersist.torn.files (TornPersist.node "new")) ↔
      (Unbroken Site.plain.runtime (TornPersist.node "old") TornPersist.torn.files ∨
        Unbroken Site.plain.runtime (TornPersist.node "new") TornPersist.torn.files) := by
  obtain ⟨rest, leads⟩ := TornPersist.torn_leads
  exact persistRuntimeConfig_restarts_iff Site.plain Runtime.strict_documented (TornPersist.node "old")
    TornPersist.world TornPersist.torn rest (TornPersist.node_carriable (by decide))
    (TornPersist.node_carriable (by decide)) TornPersist.files_persisted leads

/-- The process dies behind the key, and a restart finds neither the old settings nor the new ones. -/
theorem persistRuntimeConfig_mixes :
    ∃ (older : Settings) (world last : World) (rest : Task Unit), Carriable older ∧ Carriable world.settings ∧
      Persisted Site.plain.runtime older world.files ∧
      Leads (nodeMachine Site.plain) () world (persistRuntimeConfig Site.plain.runtime) last rest ∧
      ¬ (Restarts Site.plain.runtime last.files older ∨ Restarts Site.plain.runtime last.files world.settings) := by
  obtain ⟨rest, leads⟩ := TornPersist.torn_leads
  have older : Carriable (TornPersist.node "old") := TornPersist.node_carriable (by decide)
  have newer : Carriable (TornPersist.node "new") := TornPersist.node_carriable (by decide)
  have torn : Torn Site.plain.runtime (TornPersist.node "old") (TornPersist.node "new")
      TornPersist.torn.files :=
    (TornPersist.persistRuntimeConfig_torn ⟨rfl, TornPersist.files_persisted.torn _⟩ leads).1.2
  refine ⟨_, _, _, rest, older, newer, TornPersist.files_persisted, leads, ?_⟩
  have unbroken {settings : Settings} (restarts : Restarts Site.plain.runtime TornPersist.torn.files settings) :
      Unbroken Site.plain.runtime settings TornPersist.torn.files :=
    TornPersist.unbroken_of_restarts Runtime.strict_documented older.typed newer.typed
      TornPersist.files_persisted.dumpable torn restarts
  rintro (restarts | restarts)
  · exact TornPersist.torn_old (unbroken restarts)
  · exact TornPersist.torn_new (unbroken restarts)

end CodaNode.Node
