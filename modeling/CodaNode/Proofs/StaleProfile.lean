/-
Module: CodaNode.Proofs.StaleProfile
Layer: Proofs
Purpose: A node that is given bundles in HTTPS mode. The config it persists says that no VPN is required, over any
  restarts and interruptions. A reconnect that reads it needs no tunnel; but when the profile of an older bundle is
  still on the disk, it looks for an interface, and starts a daemon when there is none.
Imports: CodaNode.Node.HttpsMode, CodaNode.Node.Rehearsal, CodaNode.Proofs.Restart, CodaNode.Proofs.TornPersist
Main exports: httpsMachine, shelteredMachine, Since, reconnect_sheltered
-/
import CodaNode.Node.HttpsMode
import CodaNode.Node.Rehearsal
import CodaNode.Proofs.Restart
import CodaNode.Proofs.TornPersist

namespace CodaNode.Node

open Coroutine Coro
open Python (Json)

/-! ### Definitions -/

/-- The bundle of an answer is in HTTPS mode. -/
def SendsHttps : (op : Op) → Except Failure (Reply op) → Prop
  | .postConnect _ _, .ok bundle => HttpsBundle bundle
  | _, _ => True

/-- Provisioning with bundles in HTTPS mode only. -/
abbrev httpsMachine (site : Site) : Machine Reply Failure World Unit :=
  (nodeMachine site).restrict fun _ op outcome _ => SendsHttps op outcome

/-- A look for the tunnel finds an interface. -/
def FindsTunnel : (op : Op) → Except Failure (Reply op) → Prop
  | .detectTunInterface _, .ok interface => interface ≠ none
  | .detectTunInterface _, .error failure => Tunnelless failure
  | _, _ => True

/-- Provisioning in HTTPS mode where a tunnel is up whenever it is looked for. -/
abbrev shelteredMachine (site : Site) : Machine Reply Failure World Unit :=
  (httpsMachine site).restrict fun _ op outcome _ => FindsTunnel op outcome

/-- What becomes of a node that is given bundles in HTTPS mode only: its process is started again and again,
in any environments, and each time `connect_settings` gets to its end or to any point before. -/
inductive Since (site : Site) (base : World) : World → Prop where
  | base : Since site base base
  | env {world after : World} (earlier : Since site base world) (move : Occurs site world after) :
      Since site base after
  | boot {world last : World} {environment : Data} {settings : Settings} {fuel : Nat} {rest : Task Unit}
      (earlier : Since site base world) (built : construct site.runtime world.files environment = .ok settings)
      (leads : Leads (httpsMachine site) () { world with settings := settings }
        (connectSettings site.runtime fuel) last rest) : Since site base last

variable {site : Site}

namespace StaleProfile

/-! ### The config over the restarts -/

/-- The config on the disk is that of a node in HTTPS mode. -/
abbrev Stored (site : Site) (world : World) : Prop := Direct site.runtime world.files

/-- The settings have their types. -/
structure Fit (site : Site) (world : World) : Prop where
  typed : world.settings.Typed
  stored : Stored site world

theorem Direct.of_same {runtime : Runtime} {files files' : Files} (direct : Direct runtime files)
    (same : files' persistedConfigPath = files persistedConfigPath) : Direct runtime files' := by
  intro file present
  rw [same] at present
  exact direct file present

theorem Stored.keeps : (httpsMachine site).Keeps (Stored site) :=
  fun _ _ move here => Direct.of_same here (Occurs.config move)

theorem Fit.keeps : (httpsMachine site).Keeps (Fit site) := by
  intro world after move here
  constructor
  · rw [move.settings]
    exact here.typed
  · exact Stored.keeps move here.stored

theorem Stored.performs {op : Op} {outcome : Except Failure (Reply op)} {world after : World}
    (inert : op.isInert = true) (performed : Performs site world op outcome after) (here : Stored site world) :
    Stored site after :=
  Direct.of_same here (performed.config_eq inert)

/-- What is inert keeps the types and the config. -/
theorem triple_fit {α : Type} {body : Task α} (inert : body.Issues Inert) :
    Triple (httpsMachine site) () (Stored site) (Fit site) body (fun _ => Fit site) fun _ => Stored site := by
  have fits : Triple (httpsMachine site) () (Fit site) (Fit site) body (fun _ => Fit site) fun _ => Fit site := by
    apply Triple.invariant Fit.keeps _ inert
    intro op outcome world after inert performed here
    constructor
    · rw [performed.1.settings_eq (Inert.quiet op inert)]
      exact here.typed
    · exact Stored.performs inert performed.1 here.stored
  apply fits.consequence
  · intro _ here
    exact here
  · intro _ here
    exact here.stored
  · intro _ _ here
    exact here
  · intro _ _ here
    exact here.stored

/-- What is inert keeps the config. -/
theorem triple_stored {α : Type} {body : Task α} (inert : body.Issues Inert) :
    Triple (httpsMachine site) () (Stored site) (Stored site) body (fun _ => Stored site) fun _ => Stored site := by
  apply Triple.invariant Stored.keeps _ inert
  intro op outcome world after inert performed here
  exact Stored.performs inert performed.1 here

theorem resolveMachineFingerprint_fit (documented : site.runtime.Documented) :
    Triple (httpsMachine site) () (Stored site) (Fit site) (perform Op.resolveMachineFingerprint : Task Value)
      (fun _ => Fit site) fun _ => Stored site := by
  have stored {outcome : Except Failure Value} {world after : World} (here : Stored site world)
      (performed : Performs site world .resolveMachineFingerprint outcome after) : Stored site after := by
    obtain ⟨-, rfl⟩ := performed.resolveMachineFingerprint_eq
    rw [Stored, World.run_files]
    exact here
  apply Triple.perform Fit.keeps
  · intro _ here
    exact here.stored
  · intro value world after here performed
    obtain ⟨result, same⟩ := performed.1.resolveMachineFingerprint_eq
    have keeps : (Node.resolveMachineFingerprint site.runtime world.files site.machineFingerprint).Keeps
        Settings.Typed :=
      resolveMachineFingerprint_keeps fun _ => assign_typed documented here.stored.native
    constructor
    · rw [same]
      exact keeps (World.run_ok result) here.typed
    · exact stored here.stored performed.1
  · intro _ _ _ here performed
    exact stored here.stored performed.1
  · intro _
    exact Fit.keeps
  · intro _
    exact Stored.keeps
  · intro _ _ here
    exact here.stored
  · intro _ _ here
    exact here

/-! ### The bundle -/

/-- The request returns a bundle in HTTPS mode. -/
theorem postConnect_https (authHeader : String) (payload : Value) :
    Triple (httpsMachine site) () (Stored site) (Fit site) (perform (Op.postConnect authHeader payload) : Task Value)
      (fun bundle world => Fit site world ∧ HttpsBundle bundle) fun _ => Stored site := by
  apply Triple.perform Fit.keeps
  · intro _ here
    exact here.stored
  · intro bundle world after here performed
    refine ⟨⟨?_, Stored.performs rfl performed.1 here.stored⟩, performed.2⟩
    rw [performed.1.settings_eq rfl]
    exact here.typed
  · intro _ _ _ here performed
    exact Stored.performs rfl performed.1 here.stored
  · intro bundle
    exact Fit.keeps.also _
  · intro _
    exact Stored.keeps
  · intro _ _ here
    exact here.1.stored
  · intro _ _ here
    exact here

theorem raise_stored {α : Type} (failure : Failure) {post : α → World → Prop} :
    Triple (httpsMachine site) () (Stored site) (Fit site) (.raise failure : Task α) post fun _ => Stored site := by
  apply Triple.raise Stored.keeps
  · intro _ here
    exact here.stored
  · intro _ here
    exact here

theorem fetchNodeBundle_https (documented : site.runtime.Documented) (connectivity : Option Value) :
    Triple (httpsMachine site) () (Stored site) (Fit site) (fetchNodeBundle connectivity)
      (fun bundle world => Fit site world ∧ HttpsBundle bundle) fun _ => Stored site := by
  apply (triple_fit (.perform rfl)).bind
  intro settings
  split
  · apply (resolveMachineFingerprint_fit documented).bind
    intro fingerprint
    exact postConnect_https _ _
  · exact raise_stored _

theorem fetchReconnectBundle_https (documented : site.runtime.Documented) (connectivity : Option Value) :
    Triple (httpsMachine site) () (Stored site) (Fit site) (fetchReconnectBundle connectivity)
      (fun bundle world => Fit site world ∧ HttpsBundle bundle) fun _ => Stored site := by
  apply (resolveMachineFingerprint_fit documented).bind
  intro fingerprint
  apply (triple_fit (.perform rfl)).bind
  intro token
  exact postConnect_https _ _

theorem fetchBundle_https (documented : site.runtime.Documented) (fuel : Nat) :
    Triple (httpsMachine site) () (Stored site) (Fit site) (fetchBundle fuel)
      (fun bundle world => Fit site world ∧ HttpsBundle bundle) fun _ => Stored site := by
  apply (resolveMachineFingerprint_fit documented).bind
  intro fingerprint
  apply (triple_fit (.perform rfl)).bind
  intro connectivity
  apply (triple_fit (.perform rfl)).bind
  intro settings
  split
  · exact fetchNodeBundle_https documented connectivity
  · apply (triple_fit (ensurePersistedVpn_inert fuel)).bind
    intro _
    exact fetchReconnectBundle_https documented connectivity

/-- The fields of a bundle in HTTPS mode are assigned, and no profile is to be installed. -/
structure Assigned (site : Site) (profile : Option String) (world : World) : Prop where
  none : profile = none
  exempt : Exempt world.settings
  stored : Stored site world

theorem Assigned.keeps (profile : Option String) : (httpsMachine site).Keeps (Assigned site profile) := by
  intro world after move here
  refine ⟨here.none, ?_, Stored.keeps move here.stored⟩
  rw [Occurs.settings move]
  exact here.exempt

theorem applyFields_assigned (documented : site.runtime.Documented) {bundle : Value} (https : HttpsBundle bundle) :
    Triple (httpsMachine site) () (Stored site) (Fit site) (perform (Op.applyFields bundle) : Task (Option String))
      (Assigned site) fun _ => Stored site := by
  have stored {outcome : Except Failure (Option String)} {world after : World} (here : Stored site world)
      (performed : Performs site world (.applyFields bundle) outcome after) : Stored site after := by
    obtain ⟨-, rfl⟩ := performed.applyFields_eq
    rw [Stored, World.run_files]
    exact here
  apply Triple.perform Fit.keeps
  · intro _ here
    exact here.stored
  · intro profile world after here performed
    have after := stored here.stored performed.1
    obtain ⟨result, rfl⟩ := performed.1.applyFields_eq
    have applied := World.run_ok result
    obtain ⟨none, optional⟩ := applyFields_https documented https applied
    obtain ⟨entries, -, rfl, -⟩ := https
    exact ⟨none, ⟨applyFields_typed documented here.stored.native entries applied here.typed, optional⟩, after⟩
  · intro _ _ _ here performed
    exact stored here.stored performed.1
  · exact Assigned.keeps
  · intro _
    exact Stored.keeps
  · intro _ _ here
    exact here.stored
  · intro _ _ here
    exact here

/-! ### The config that is written -/

/-- While settings are persisted. -/
structure Saving (site : Site) (settings : Settings) (world : World) : Prop where
  current : world.settings = settings
  stored : Stored site world

theorem Saving.keeps (settings : Settings) : (httpsMachine site).Keeps (Saving site settings) :=
  fun _ _ move here => ⟨(Occurs.settings move).trans here.current, Stored.keeps move here.stored⟩

theorem Direct.put_key {runtime : Runtime} {files : Files} (direct : Direct runtime files) (file : File) :
    Direct runtime (files.put persistedPrivateKeyPath file) := by
  have apart : persistedConfigPath ≠ persistedPrivateKeyPath := by decide
  exact Direct.of_same direct (Files.put_other apart)

/-- A file that is put in the place of the key or the config. -/
theorem direct_put {runtime : Runtime} {files : Files} {settings : Settings} (direct : Direct runtime files)
    (exempt : Exempt settings) {path content : String} {file : File} (part : PartOf content file)
    (place : path = persistedPrivateKeyPath ∧ content = textOf (settings .jwtPrivateKey) ∨
      path = persistedConfigPath ∧ content = persistedConfigText runtime settings ∧
        Json.dumpable (.dict (persistedEntries settings))) : Direct runtime (files.put path file) := by
  rcases place with ⟨rfl, -⟩ | ⟨rfl, rfl, dumpable⟩
  · exact Direct.put_key direct file
  · intro found present
    rw [Files.put_self] at present
    cases present
    exact direct_of_part exempt dumpable part

theorem direct_persisting {world : World} {files : Files} (exempt : Exempt world.settings)
    (direct : Direct site.runtime world.files) (persisting : Persisting site.runtime world files) :
    Direct site.runtime files := by
  rcases persisting.config with same | ⟨dumpable, file, present, written⟩
  · exact Direct.of_same direct same
  · intro found there
    cases present.symm.trans there
    exact direct_of_part exempt dumpable written.part

/-- Whatever an operation of `_persist_runtime_config` leaves of the config, it is that of a node in HTTPS mode. -/
theorem Saving.performs {settings : Settings} (exempt : Exempt settings) {op : Op} {outcome : Except Failure (Reply op)}
    {world after : World} (allowed : TornPersist.Rewrites site.runtime settings op)
    (performed : Performs site world op outcome after) (here : Saving site settings world) :
    Saving site settings after := by
  obtain ⟨current, stored⟩ := here
  have persisting {files : Files} (persisting : Persisting site.runtime world files) : Direct site.runtime files :=
    direct_persisting (current ▸ exempt) stored persisting
  cases performed with
  | opened path mode kept =>
      refine ⟨current, ?_⟩
      rcases allowed with rfl | ⟨rfl, dumpable⟩
      · exact direct_put stored exempt (TornPersist.part_empty _ _) (.inl ⟨rfl, rfl⟩)
      · exact direct_put stored exempt (TornPersist.part_empty _ _) (.inr ⟨rfl, rfl, dumpable⟩)
  | written path content mode kept =>
      exact ⟨current, direct_put stored exempt (TornPersist.part_self _ _) allowed⟩
  | partlyWritten path content message file part kept => exact ⟨current, direct_put stored exempt part allowed⟩
  | changedMode path file present =>
      refine ⟨current, ?_⟩
      rcases allowed with rfl | ⟨rfl, -⟩
      · exact Direct.put_key stored { file with mode := ownerOnly }
      · intro found there
        dsimp only at there
        rw [Files.put_self] at there
        cases there
        exact stored file present
  | openCancelled path files unattended => exact ⟨current, persisting unattended⟩
  | writeCancelled path content files unattended => exact ⟨current, persisting unattended⟩
  | chmodCancelled path files unattended => exact ⟨current, persisting unattended⟩
  | notOpened => exact ⟨current, stored⟩
  | notChangedMode => exact ⟨current, stored⟩
  | _ => cases allowed

theorem persistRuntimeConfig_stored :
    Triple (httpsMachine site) () (Stored site) (fun world => Exempt world.settings ∧ Stored site world)
      (persistRuntimeConfig site.runtime) (fun _ => Stored site) fun _ => Stored site := by
  have keeps : (nodeMachine site).Keeps fun world => Exempt world.settings ∧ Stored site world := by
    intro world after move here
    rw [move.settings]
    exact ⟨here.1, Stored.keeps move here.2⟩
  apply ((settings_reads keeps fun _ here => here.2).restrict fun _ op outcome _ => SendsHttps op outcome).bind
  rintro found world last rest ⟨⟨exempt, stored⟩, rfl⟩ leads
  have saves : Triple (httpsMachine site) () (Saving site world.settings) (Saving site world.settings) _ _ _ :=
    Triple.invariant (Saving.keeps _) (fun _ _ _ _ allowed performed here => here.performs exempt allowed performed.1)
      (TornPersist.persisting_rewrites site.runtime world.settings)
  obtain ⟨always, returned, raised⟩ := saves ⟨rfl, stored⟩ leads
  exact ⟨always.stored, fun value same => (returned value same).stored, fun failure same => (raised failure same).stored⟩

theorem return_stored {α : Type} (value : α) {failed : Failure → World → Prop} :
    Triple (httpsMachine site) () (Stored site) (Stored site) (.ret value : Task α) (fun _ => Stored site) failed := by
  apply Triple.ret
  · exact Stored.keeps
  · intro _ here
    exact here
  · intro _ here
    exact here

theorem applyNodeBundle_stored (documented : site.runtime.Documented) (fuel : Nat) {bundle : Value}
    (https : HttpsBundle bundle) :
    Triple (httpsMachine site) () (Stored site) (Fit site) (applyNodeBundle fuel bundle)
      (fun _ world => Exempt world.settings ∧ Stored site world) fun _ => Stored site := by
  have keeps : (httpsMachine site).Keeps fun world => Exempt world.settings ∧ Stored site world := by
    intro world after move here
    rw [Occurs.settings move]
    exact ⟨here.1, Stored.keeps move here.2⟩
  apply (applyFields_assigned documented https).bind
  rintro profile world last rest ⟨rfl, exempt, stored⟩ leads
  have returns : Triple (httpsMachine site) () (Stored site) (fun world => Exempt world.settings ∧ Stored site world)
      (.ret () : Task Unit) (fun _ world => Exempt world.settings ∧ Stored site world) fun _ => Stored site := by
    apply Triple.ret keeps
    · intro _ here
      exact here
    · intro _ here
      exact here.2
  exact returns ⟨exempt, stored⟩ leads

/-- All through a call with bundles in HTTPS mode the config on the disk is that of a node in HTTPS mode. -/
theorem connectSettings_stored (documented : site.runtime.Documented) (fuel : Nat) :
    Triple (httpsMachine site) () (Stored site) (Fit site) (connectSettings site.runtime fuel)
      (fun _ => Stored site) fun _ => Stored site := by
  apply (fetchBundle_https documented fuel).bind
  rintro bundle world last rest ⟨fit, https⟩ leads
  have applies : Triple (httpsMachine site) () (Stored site) (Fit site)
      (do applyNodeBundle fuel bundle; persistRuntimeConfig site.runtime) (fun _ => Stored site)
      fun _ => Stored site := by
    apply (applyNodeBundle_stored documented fuel https).bind
    intro _
    exact persistRuntimeConfig_stored
  have ends : Triple (httpsMachine site) () (Stored site) (Fit site)
      ((do applyNodeBundle fuel bundle; persistRuntimeConfig site.runtime : Task Unit).catching cleanUp)
      (fun _ => Stored site) fun _ => Stored site := by
    apply applies.handle
    · intro _
      exact return_stored _
    · intro failure
      exact triple_stored (cleanUp_inert failure)
  exact ends fit leads

/-! ### The call behind which the node is in HTTPS mode -/

theorem fetchBundle_sends (fuel : Nat) :
    Triple (httpsMachine site) () (fun _ => True) (fun _ => True) (fetchBundle fuel)
      (fun bundle _ => HttpsBundle bundle) fun _ _ => True := by
  have posts (authHeader : String) (payload : Value) : Triple (httpsMachine site) () (fun _ => True) (fun _ => True)
      (perform (Op.postConnect authHeader payload) : Task Value) (fun bundle _ => HttpsBundle bundle)
      fun _ _ => True := by
    apply Triple.performed
    · intro _ _ _ _
      trivial
    · intro _ _ _ _ performed
      exact performed.2
    · intro _ _ _ _ here
      exact here
  have raises (failure : Failure) : Triple (httpsMachine site) () (fun _ => True) (fun _ => True)
      (.raise failure : Task Value) (fun bundle _ => HttpsBundle bundle) fun _ _ => True :=
    Triple.raise (fun _ _ _ here => here) (fun _ _ => trivial) fun _ _ => trivial
  apply (Triple.any _).bind
  intro fingerprint
  apply (Triple.any _).bind
  intro connectivity
  apply (Triple.any _).bind
  intro settings
  split
  · apply (Triple.any _).bind
    intro current
    split
    · apply (Triple.any _).bind
      intro _
      exact posts _ _
    · exact raises _
  · apply (Triple.any _).bind
    intro _
    apply (Triple.any _).bind
    intro _
    apply (Triple.any _).bind
    intro _
    exact posts _ _

/-- A call that returns leaves no VPN required. -/
theorem connectSettings_optional (documented : site.runtime.Documented) (fuel : Nat) :
    Triple (httpsMachine site) () (fun _ => True) (fun _ => True) (connectSettings site.runtime fuel)
      (fun _ world => world.settings .vpnRequired = .bool false) fun _ _ => True := by
  apply (fetchBundle_sends fuel).bind
  intro bundle world last rest https leads
  have optional {α : Type} {body : Task α} (quiet : body.Issues Quiet) :
      Triple (httpsMachine site) () (fun _ => True) (fun world => world.settings .vpnRequired = .bool false) body
        (fun _ world => world.settings .vpnRequired = .bool false) fun _ _ => True :=
    (triple_quiet quiet fun settings => settings .vpnRequired = .bool false).returns.restrict _
  have applies : Triple (httpsMachine site) () (fun _ => True) (fun _ => True)
      (do applyNodeBundle fuel bundle; persistRuntimeConfig site.runtime)
      (fun _ world => world.settings .vpnRequired = .bool false) fun _ _ => True := by
    have assigns : Triple (httpsMachine site) () (fun _ => True) (fun _ => True) (applyNodeBundle fuel bundle)
        (fun _ world => world.settings .vpnRequired = .bool false) fun _ _ => True := by
      have always : (nodeMachine site).Keeps fun _ => True := fun _ _ _ here => here
      apply ((applyFields_triple always bundle).restrict fun _ op outcome _ => SendsHttps op outcome).bind
      rintro profile middle last rest ⟨before, -, applied⟩ leads
      exact optional (installProfile_quiet fuel profile) (applyFields_https documented https applied).2 leads
    apply assigns.bind
    intro _
    exact optional (persistRuntimeConfig_quiet site.runtime)
  have ends : Triple (httpsMachine site) () (fun _ => True) (fun _ => True)
      ((do applyNodeBundle fuel bundle; persistRuntimeConfig site.runtime : Task Unit).catching cleanUp)
      (fun _ world => world.settings .vpnRequired = .bool false) fun _ _ => True := by
    apply applies.handle
    · intro _
      apply Triple.ret
      · exact @keeps_settings site fun settings => settings .vpnRequired = .bool false
      · intro _ here
        exact here
      · intro _ _
        trivial
    · intro failure
      apply ((cleanUp_raises failure).restrict _).consequence
      · intro _ here
        exact here
      · intro _ here
        exact here
      · intro _ _ impossible
        exact impossible.elim
      · intro _ _ here
        exact here
  exact ends trivial leads

theorem stored_of_returned (documented : site.runtime.Documented) {fuel : Nat} {world last : World}
    (typed : last.settings.Typed)
    (leads : Leads (httpsMachine site) () world (connectSettings site.runtime fuel) last (.ret ())) :
    Stored site last := by
  have optional := (connectSettings_optional documented fuel trivial leads).2.1 () rfl
  obtain ⟨-, written⟩ := (connectSettings_written documented fuel trivial leads.unrestricted).2.1 () rfl
  intro file present
  cases written.config.symm.trans present
  exact direct_of_part ⟨typed, optional⟩ written.dumpable (TornPersist.part_self _ _)

theorem Since.stored (documented : site.runtime.Documented) {base world : World} (stored : Stored site base)
    (since : Since site base world) : Stored site world := by
  induction since with
  | base => exact stored
  | env _ move ih => exact Stored.keeps move ih
  | @boot world last environment settings fuel rest _ built leads ih =>
      have fit : Fit site { world with settings := settings } := ⟨construct_typed documented ih.native built, ih⟩
      exact (connectSettings_stored documented fuel fit leads).1

/-! ### A reconnect that finds a tunnel -/

/-- The operations that a call in HTTPS mode needs when it finds a tunnel, but the assignments of the bundle. -/
def isSheltered : Op → Bool
  | .applyFields _ | .startOpenvpn _ | .writeVpnProfile _ _ => false
  | _ => true

theorem pauseConnect_tunnelless {maxRetries : Int} {attempt : Nat} {made : Attempt}
    {later : List Attempt × Except Failure Value} {failure : Failure}
    (behind : ∀ failure, later.2 = .error failure → Tunnelless failure)
    (fails : (pauseConnect maxRetries attempt made later).2 = .error failure) : Tunnelless failure := by
  unfold pauseConnect connectDelay at fails
  split at fails
  · split at fails
    · exact behind failure fails
    · next overflow delayed =>
      split at delayed
      · cases delayed
      · cases delayed
        cases fails
        rfl
  · exact behind failure fails

theorem attempts_tunnelless (exchange : Nat → Attempt) (maxRetries : Int) (left attempt : Nat) (last : String)
    {failure : Failure} (fails : (attempts exchange maxRetries left attempt last).2 = .error failure) :
    Tunnelless failure := by
  induction left generalizing attempt last failure with
  | zero =>
      cases fails
      rfl
  | succ left ih =>
      unfold attempts at fails
      split at fails
      · cases fails
      · split at fails
        · cases fails
          rfl
        · exact pauseConnect_tunnelless (fun _ => ih _ _) fails
      · exact pauseConnect_tunnelless (fun _ => ih _ _) fails
      · cases fails
        rfl

theorem postConnect_tunnelless {exchange : Nat → Attempt} {settings : Settings} {failure : Failure}
    (fails : Node.postConnect exchange settings = .error failure) : Tunnelless failure := by
  unfold Node.postConnect at fails
  split at fails
  · exact attempts_tunnelless exchange _ _ _ _ fails
  · cases fails
    rfl

theorem resolveMachineFingerprint_fails {runtime : Runtime} {files : Files} {machine : String} :
    FailsAs Tunnelless (Node.resolveMachineFingerprint runtime files machine) := by
  apply FailsAs.get
  intro settings
  exact .bind (assign_tunnelless _ _) fun _ => .pure _

theorem Performs.tunnelless {op : Op} {outcome : Except Failure (Reply op)} {world after : World} {failure : Failure}
    (performed : Performs site world op outcome after) (sheltered : isSheltered op = true)
    (finds : FindsTunnel op outcome) (raised : outcome = .error failure) : Tunnelless failure := by
  cases performed with
  | resolveMachineFingerprint => exact resolveMachineFingerprint_fails (World.run_error raised.symm)
  | postConnect => exact postConnect_tunnelless raised
  | applyFields => cases sheltered
  | profileRefused => cases sheltered
  | profileFailed => cases sheltered
  | notStarted => cases sheltered
  | startedUnattended => cases sheltered
  | undetected =>
      cases raised
      exact finds
  | killOpenvpnDaemon after outcome message runs =>
      cases outcome with
      | ok killed => cases raised
      | error reason =>
          cases raised
          unfold raisedBy
          split <;> rfl
  | _ =>
      cases raised
      try rfl

theorem run_started {α : Type} (world : World) (program : Files → Action α) :
    (world.run program).2.started = world.started := by
  unfold World.run
  split <;> rfl

theorem Performs.started_eq {op : Op} {outcome : Except Failure (Reply op)} {world after : World}
    (performed : Performs site world op outcome after) (sheltered : isSheltered op = true) :
    after.started = world.started := by
  cases performed with
  | resolveMachineFingerprint => exact run_started world _
  | applyFields => cases sheltered
  | started => cases sheltered
  | startedUnattended => cases sheltered
  | killOpenvpnDaemon after outcome message runs =>
      exact Performs.kill_started (.killOpenvpnDaemon world after outcome message runs)
  | _ => rfl

/-- The call has started nothing, and no VPN is required. -/
structure Calm (started : List Nat) (world : World) : Prop where
  same : world.started = started
  optional : world.settings .vpnRequired = .bool false

/-- The call has started nothing. -/
abbrev Idle (started : List Nat) (world : World) : Prop := world.started = started

/-- The call fails, but not for want of a tunnel. -/
structure Excusable (started : List Nat) (failure : Failure) (world : World) : Prop where
  same : world.started = started
  reason : Tunnelless failure

variable {started : List Nat}

theorem Calm.keeps : (shelteredMachine site).Keeps (Calm started) := by
  intro world after move here
  constructor
  · exact (Occurs.started move).trans here.same
  · rw [Occurs.settings move]
    exact here.optional

theorem Idle.keeps : (shelteredMachine site).Keeps (Idle started) :=
  fun _ _ move here => (Occurs.started move).trans here

theorem Excusable.keeps (failure : Failure) : (shelteredMachine site).Keeps (Excusable started failure) :=
  fun _ _ move here => ⟨(Occurs.started move).trans here.same, here.reason⟩

/-- An operation that keeps the setting. -/
theorem perform_calm {op : Op} (sheltered : isSheltered op = true)
    (keeps : ∀ {world after : World} {value : Reply op}, Performs site world op (.ok value) after →
      world.settings .vpnRequired = .bool false → after.settings .vpnRequired = .bool false) :
    Triple (shelteredMachine site) () (Idle started) (Calm started) (perform op : Task (Reply op))
      (fun _ => Calm started) (Excusable started) := by
  apply Triple.perform Calm.keeps
  · intro _ here
    exact here.same
  · intro value world after here performed
    exact ⟨(Performs.started_eq performed.1.1 sheltered).trans here.same, keeps performed.1.1 here.optional⟩
  · intro failure world after here performed
    exact ⟨(Performs.started_eq performed.1.1 sheltered).trans here.same,
      Performs.tunnelless performed.1.1 sheltered performed.2 rfl⟩
  · intro _
    exact Calm.keeps
  · exact Excusable.keeps
  · intro _ _ here
    exact here.same
  · intro _ _ here
    exact here.same

theorem quiet_calm {op : Op} (sheltered : isSheltered op = true) (quiet : op.keepsSettings = true) :
    Triple (shelteredMachine site) () (Idle started) (Calm started) (perform op : Task (Reply op))
      (fun _ => Calm started) (Excusable started) := by
  apply perform_calm sheltered
  intro world after value performed optional
  rw [performed.settings_eq quiet]
  exact optional

theorem resolveMachineFingerprint_calm :
    Triple (shelteredMachine site) () (Idle started) (Calm started) (perform Op.resolveMachineFingerprint : Task Value)
      (fun _ => Calm started) (Excusable started) := by
  apply perform_calm rfl
  intro world after value performed optional
  obtain ⟨result, rfl⟩ := performed.resolveMachineFingerprint_eq
  have keeps : (Node.resolveMachineFingerprint site.runtime world.files site.machineFingerprint).Keeps
      fun settings => settings .vpnRequired = .bool false :=
    resolveMachineFingerprint_keeps fun _ => assign_keepsSet rfl (by decide) (by decide)
  exact keeps (World.run_ok result) optional

theorem return_calm {α : Type} (value : α) :
    Triple (shelteredMachine site) () (Idle started) (Calm started) (.ret value : Task α) (fun _ => Calm started)
      (Excusable started) := by
  apply Triple.ret
  · exact Calm.keeps
  · intro _ here
    exact here
  · intro _ here
    exact here.same

/-- The look for a tunnel finds one. -/
theorem detectTunInterface_calm (hint : Value) :
    Triple (shelteredMachine site) () (Idle started) (Calm started)
      (perform (Op.detectTunInterface hint) : Task (Option String))
      (fun interface world => Calm started world ∧ interface ≠ none) (Excusable started) := by
  apply Triple.perform Calm.keeps
  · intro _ here
    exact here.same
  · intro interface world after here performed
    have same := Performs.started_eq performed.1.1 rfl
    refine ⟨⟨same.trans here.same, ?_⟩, performed.2⟩
    rw [performed.1.1.settings_eq rfl]
    exact here.optional
  · intro failure world after here performed
    exact ⟨(Performs.started_eq performed.1.1 rfl).trans here.same, Performs.tunnelless performed.1.1 rfl performed.2 rfl⟩
  · intro interface
    exact Calm.keeps.also _
  · exact Excusable.keeps
  · intro _ _ here
    exact here.1.same
  · intro _ _ here
    exact here.same

/-- Where no VPN is required and a tunnel is found, nothing has to be restored. -/
theorem ensurePersistedVpn_calm (fuel : Nat) :
    Triple (shelteredMachine site) () (Idle started) (Calm started) (ensurePersistedVpn fuel) (fun _ => Calm started)
      (Excusable started) := by
  apply (quiet_calm rfl rfl).bind
  intro persisted
  have reads : Triple (shelteredMachine site) () (Idle started) (Calm started) (perform Op.settings : Task Settings)
      (fun found world => Calm started world ∧ world.settings = found) (Excusable started) :=
    ((settings_reads Calm.keeps fun _ here => here.same).restrict _).restrict _
  apply reads.bind
  rintro settings world last rest ⟨calm, rfl⟩ leads
  have runs {body : Task Unit} (triple : Triple (shelteredMachine site) () (Idle started) (Calm started) body
      (fun _ => Calm started) (Excusable started)) (leads : Leads (shelteredMachine site) () world body last rest) :=
    triple calm leads
  refine runs ?_ leads
  split
  · exact return_calm _
  · split
    · exact return_calm _
    · apply (quiet_calm rfl rfl).bind
      intro present
      split
      · split
        · next required =>
          rw [calm.optional] at required
          cases required
        · exact return_calm _
      · apply (detectTunInterface_calm _).bind
        intro interface
        cases interface with
        | some name =>
            apply (return_calm ()).consequence
            · intro _ here
              exact here.1
            · intro _ here
              exact here
            · intro _ _ here
              exact here
            · intro _ _ here
              exact here
        | none =>
            intro state last rest here
            exact absurd rfl here.2

/-- The request returns a bundle in HTTPS mode. -/
theorem postConnect_calm (authHeader : String) (payload : Value) :
    Triple (shelteredMachine site) () (Idle started) (Calm started)
      (perform (Op.postConnect authHeader payload) : Task Value)
      (fun bundle world => Idle started world ∧ HttpsBundle bundle) (Excusable started) := by
  apply Triple.perform Calm.keeps
  · intro _ here
    exact here.same
  · intro bundle world after here performed
    exact ⟨(Performs.started_eq performed.1.1 rfl).trans here.same, performed.1.2⟩
  · intro failure world after here performed
    exact ⟨(Performs.started_eq performed.1.1 rfl).trans here.same, Performs.tunnelless performed.1.1 rfl performed.2 rfl⟩
  · intro bundle
    exact Idle.keeps.also _
  · exact Excusable.keeps
  · intro _ _ here
    exact here.1
  · intro _ _ here
    exact here.same

theorem fetchBundle_calm (fuel : Nat) :
    Triple (shelteredMachine site) () (Idle started) (Calm started) (fetchBundle fuel)
      (fun bundle world => Idle started world ∧ HttpsBundle bundle) (Excusable started) := by
  apply resolveMachineFingerprint_calm.bind
  intro fingerprint
  apply (quiet_calm rfl rfl).bind
  intro connectivity
  apply (quiet_calm rfl rfl).bind
  intro settings
  split
  · apply (quiet_calm rfl rfl).bind
    intro current
    split
    · apply resolveMachineFingerprint_calm.bind
      intro _
      exact postConnect_calm _ _
    · apply Triple.raise (Excusable.keeps _)
      · intro _ here
        exact ⟨here.same, rfl⟩
      · intro _ here
        exact here.same
  · apply (ensurePersistedVpn_calm fuel).bind
    intro _
    apply resolveMachineFingerprint_calm.bind
    intro _
    apply (quiet_calm rfl rfl).bind
    intro _
    exact postConnect_calm _ _

/-- A bundle in HTTPS mode is assigned without a profile, or it fails for another reason. -/
theorem applyFields_idle (documented : site.runtime.Documented) {bundle : Value} (https : HttpsBundle bundle) :
    Triple (shelteredMachine site) () (Idle started) (Idle started)
      (perform (Op.applyFields bundle) : Task (Option String)) (fun profile world => Idle started world ∧ profile = none)
      (Excusable started) := by
  have same {outcome : Except Failure (Option String)} {world after : World}
      (performed : Performs site world (.applyFields bundle) outcome after) : after.started = world.started := by
    obtain ⟨-, rfl⟩ := performed.applyFields_eq
    exact run_started world _
  apply Triple.perform Idle.keeps
  · intro _ here
    exact here
  · intro profile world after here performed
    obtain ⟨result, -⟩ := performed.1.1.applyFields_eq
    exact ⟨(same performed.1.1).trans here, (applyFields_https documented https (World.run_ok result)).1⟩
  · intro failure world after here performed
    obtain ⟨result, -⟩ := performed.1.1.applyFields_eq
    exact ⟨(same performed.1.1).trans here, applyFields_httpsFails documented https (World.run_error result)⟩
  · intro profile
    exact Idle.keeps.also _
  · exact Excusable.keeps
  · intro _ _ here
    exact here.1
  · intro _ _ here
    exact here.same

/-- An operation when no profile is to be installed. -/
theorem perform_idle {op : Op} (sheltered : isSheltered op = true) :
    Triple (shelteredMachine site) () (Idle started) (Idle started) (perform op : Task (Reply op))
      (fun _ => Idle started) (Excusable started) := by
  apply Triple.perform Idle.keeps
  · intro _ here
    exact here
  · intro _ _ _ here performed
    exact (Performs.started_eq performed.1.1 sheltered).trans here
  · intro failure world after here performed
    exact ⟨(Performs.started_eq performed.1.1 sheltered).trans here,
      Performs.tunnelless performed.1.1 sheltered performed.2 rfl⟩
  · intro _
    exact Idle.keeps
  · exact Excusable.keeps
  · intro _ _ here
    exact here
  · intro _ _ here
    exact here.same

theorem raise_idle {α : Type} {failure : Failure} (reason : Tunnelless failure) {post : α → World → Prop} :
    Triple (shelteredMachine site) () (Idle started) (Idle started) (.raise failure : Task α) post
      (Excusable started) := by
  apply Triple.raise (Excusable.keeps _)
  · intro _ here
    exact ⟨here, reason⟩
  · intro _ here
    exact here.same

theorem return_idle {α : Type} (value : α) :
    Triple (shelteredMachine site) () (Idle started) (Idle started) (.ret value : Task α) (fun _ => Idle started)
      (Excusable started) := by
  apply Triple.ret
  · exact Idle.keeps
  · intro _ here
    exact here
  · intro _ here
    exact here

theorem applyNodeBundle_idle (documented : site.runtime.Documented) (fuel : Nat) {bundle : Value}
    (https : HttpsBundle bundle) :
    Triple (shelteredMachine site) () (Idle started) (Idle started) (applyNodeBundle fuel bundle)
      (fun _ => Idle started) (Excusable started) := by
  apply (applyFields_idle documented https).bind
  rintro profile world last rest ⟨idle, rfl⟩ leads
  exact return_idle () idle leads

theorem writeSecureText_idle (path content : String) :
    Triple (shelteredMachine site) () (Idle started) (Idle started) (writeSecureText path content)
      (fun _ => Idle started) (Excusable started) := by
  apply (perform_idle rfl).bind
  intro _
  apply (perform_idle rfl).bind
  intro _
  exact perform_idle rfl

theorem persistRuntimeConfig_idle :
    Triple (shelteredMachine site) () (Idle started) (Idle started) (persistRuntimeConfig site.runtime)
      (fun _ => Idle started) (Excusable started) := by
  apply (perform_idle rfl).bind
  intro settings
  apply (writeSecureText_idle _ _).bind
  intro _
  split
  · exact writeSecureText_idle _ _
  · exact raise_idle rfl

theorem cleanUp_idle (failure : Failure) :
    Triple (shelteredMachine site) () (Idle started) (Excusable started failure) (cleanUp failure)
      (fun _ => Idle started) (Excusable started) := by
  intro world last rest here leads
  have cleans : Triple (shelteredMachine site) () (Idle started) (Idle started) (cleanUp failure)
      (fun _ => Idle started) (Excusable started) := by
    unfold cleanUp
    split
    · apply (perform_idle rfl).bind
      intro settings
      split
      · apply (perform_idle rfl).bind
        intro _
        exact raise_idle here.reason
      · exact raise_idle here.reason
    · exact raise_idle here.reason
  exact cleans here.same leads

/-- In HTTPS mode, where no VPN is required and a tunnel is found, a call starts nothing, and fails only for
other reasons. -/
theorem connectSettings_calm (documented : site.runtime.Documented) (fuel : Nat) :
    Triple (shelteredMachine site) () (Idle started) (Calm started) (connectSettings site.runtime fuel)
      (fun _ => Idle started) (Excusable started) := by
  apply (fetchBundle_calm fuel).bind
  rintro bundle world last rest ⟨idle, https⟩ leads
  have applies : Triple (shelteredMachine site) () (Idle started) (Idle started)
      (do applyNodeBundle fuel bundle; persistRuntimeConfig site.runtime) (fun _ => Idle started)
      (Excusable started) := by
    apply (applyNodeBundle_idle documented fuel https).bind
    intro _
    exact persistRuntimeConfig_idle
  have ends : Triple (shelteredMachine site) () (Idle started) (Idle started)
      ((do applyNodeBundle fuel bundle; persistRuntimeConfig site.runtime : Task Unit).catching cleanUp)
      (fun _ => Idle started) (Excusable started) := by
    apply applies.handle
    · intro _
      exact return_idle _
    · exact cleanUp_idle
  exact ends idle leads

end StaleProfile

/-- Once a call in HTTPS mode has returned, and over any restarts with bundles in HTTPS mode, a reconnect whose
environment requires no VPN and that finds settings in the config starts no daemon and fails for no missing
tunnel, as long as each look for a tunnel finds one. -/
theorem reconnect_sheltered (site : Site) (documented : site.runtime.Documented) (start base world last : World)
    (fuel later : Nat) (typed : base.settings.Typed)
    (connects : Leads (httpsMachine site) () start (connectSettings site.runtime fuel) base (.ret ()))
    (since : Since site base world) (environment : Data) (settings : Settings) (tokenFree : TokenFree environment)
    (unset : environment .vpnRequired = none)
    (found : loadPersistedRuntimeConfig site.runtime world.files ≠ .ok fun _ => none)
    (built : construct site.runtime world.files environment = .ok settings) (rest : Task Unit)
    (leads : Leads (shelteredMachine site) () { world with settings := settings }
      (connectSettings site.runtime later) last rest) :
    last.started = world.started ∧ ∀ failure, rest = .raise failure → failure.ofTunnel = false := by
  have stored : StaleProfile.Stored site world :=
    StaleProfile.Since.stored documented (StaleProfile.stored_of_returned documented typed connects) since
  have optional := construct_optional documented stored tokenFree unset found built
  have calm : StaleProfile.Calm world.started { world with settings := settings } := ⟨rfl, optional⟩
  obtain ⟨idle, -, raised⟩ := StaleProfile.connectSettings_calm documented later calm leads
  exact ⟨idle, fun failure same => (raised failure same).reason⟩

namespace StaleProfile

/-- The server sends bundles in HTTPS mode. -/
def rehearsal : Rehearsal where
  attempt := .answer (.dict [("qpu_id", .str "qpu"), ("native_gate_set", .str "cz"), ("num_qubits", .int 5),
    ("jwt_private_key", .str "key"), ("jwt_key_id", .str "id"), ("redis_url", .str "redis://host"),
    ("webapp_url", .str "https://host"),
    ("vpn", .dict [("required", .bool false), ("client_profile_ovpn", .null)])])
  pid := 7

/-- The server refuses the node. -/
def refusal : Rehearsal where
  attempt := .status 403 "forbidden" "Client error"
  pid := 7

/-- A node with a new token, on a machine with the profile of an older bundle, where some daemon runs. -/
def start (running : List Nat) : World where
  settings := Settings.set Field.default .nodeToken (.str "token")
  files := fun path => if path = "/tmp/coda-node.ovpn" then some ⟨some "client\n", ownerOnly⟩ else none
  running := running

/-- The bundle is in HTTPS mode. -/
def isHttps : Value → Bool
  | .dict entries =>
      match entry entries "vpn" with
      | .dict vpn => entry vpn "required" = .bool false ∧ textEntry vpn "client_profile_ovpn" = none
      | _ => false
  | _ => false

theorem https_of_isHttps {bundle : Value} (passed : isHttps bundle = true) : HttpsBundle bundle := by
  unfold isHttps at passed
  split at passed
  · next entries =>
    split at passed
    · next vpn block =>
      rw [decide_eq_true_eq] at passed
      exact ⟨entries, vpn, rfl, block, passed⟩
    · cases passed
  · cases passed

/-- The bundle of the outcome is in HTTPS mode. -/
def sends : (op : Op) → Except Failure (Reply op) → Bool
  | .postConnect _ _, .ok bundle => isHttps bundle
  | _, _ => true

/-- The outcome is no look for the tunnel that fails. -/
def finds : (op : Op) → Except Failure (Reply op) → Bool
  | .detectTunInterface _, .ok interface => interface.isSome
  | .detectTunInterface _, .error _ => false
  | _, _ => true

theorem sendsHttps_of_sends {op : Op} {outcome : Except Failure (Reply op)} (passed : sends op outcome = true) :
    SendsHttps op outcome := by
  cases op with
  | postConnect authHeader payload =>
      cases outcome with
      | ok bundle => exact https_of_isHttps passed
      | error failure => trivial
  | _ => cases outcome <;> trivial

theorem findsTunnel_of_finds {op : Op} {outcome : Except Failure (Reply op)} (passed : finds op outcome = true) :
    FindsTunnel op outcome := by
  cases op with
  | detectTunInterface hint =>
      cases outcome with
      | ok interface =>
          intro missing
          rw [missing] at passed
          cases passed
      | error failure => cases passed
  | _ => cases outcome <;> trivial

/-- The settings have their types, and the private key has no carriage return. -/
def isPlain (settings : Settings) : Bool :=
  Field.all.all (fun field => field.kind.fits (settings field)) &&
    !(textOf (settings .jwtPrivateKey)).toList.contains '\r'

/-- The outcomes of a first call. -/
def answer (world : World) (op : Op) : Option (Except Failure (Reply op) × World) :=
  (Rehearsal.answer .plain rehearsal world op).filter fun reply => sends op reply.1

/-- The node behind its first call, when that returns. -/
def provisioned (running : List Nat) : Option World :=
  match (connectSettings Site.plain.runtime 1).solo answer (start running) with
  | some (.ok (), base) => if isPlain base.settings then some base else none
  | _ => none

theorem leads_of_provisioned {running : List Nat} {base : World} (first : provisioned running = some base) :
    base.settings.Typed ∧ '\r' ∉ (textOf (base.settings .jwtPrivateKey)).toList ∧
      Leads (httpsMachine .plain) () (start running) (connectSettings Site.plain.runtime 1) base (.ret ()) := by
  unfold provisioned at first
  split at first
  · next ended runs =>
    split at first
    · next plain =>
      cases first
      rw [isPlain, Bool.and_eq_true, Bool.not_eq_true', ← Bool.not_eq_true, List.contains_iff_mem] at plain
      refine ⟨fun field => List.all_eq_true.mp plain.1 field field.mem_all, plain.2, ?_⟩
      apply Coro.solo_leads _ runs
      intro world op outcome after answered
      obtain ⟨plain, passed⟩ := Option.filter_eq_some_iff.mp answered
      exact ⟨Rehearsal.performs plain, sendsHttps_of_sends passed⟩
    · cases first
  · cases first

/-- The config and the key are those of the node behind its first call. -/
structure Same (base world : World) : Prop where
  config : world.files persistedConfigPath = base.files persistedConfigPath
  key : world.files persistedPrivateKeyPath = base.files persistedPrivateKeyPath

/-- The loader finds the settings of the first call. -/
theorem load_of_provisioned {running : List Nat} {base world : World} (first : provisioned running = some base)
    (same : Same base world) :
    loadPersistedRuntimeConfig Runtime.strict world.files = .ok (carriedData base.settings) := by
  obtain ⟨typed, plain, leads⟩ := leads_of_provisioned first
  obtain ⟨-, returned, -⟩ := connectSettings_written Runtime.strict_documented 1 trivial leads.unrestricted
  obtain ⟨provided, written⟩ := returned () rfl
  apply load_of_texts Runtime.strict_documented ⟨typed, provided _ (by decide), provided _ (by decide)⟩
    written.dumpable (.inl rfl)
  · rw [same.config]
    exact written.config
  · rw [readSecureText_private (same.key.trans written.key), Python.universalNewlines_of_plain plain,
      String.ofList_toList]

theorem found_of_provisioned {running : List Nat} {base : World} (first : provisioned running = some base) :
    loadPersistedRuntimeConfig Runtime.strict base.files ≠ .ok fun _ => none := by
  have loaded := load_of_provisioned first ⟨rfl, rfl⟩
  intro nothing
  have same := congrFun (Except.ok.inj (loaded.symm.trans nothing)) .vpnRequired
  cases same

/-! The text of the config is long, so the runs behind the restart are computed with what the loader finds. -/

/-- An assignment when the loader finds `persisted`. -/
def assignFound (persisted : Data) (files : Files) (field : Field) (value : Value) : Action Unit := do
  let settings ← get
  match Runtime.strict.validate field value with
  | .error message => throw (.validation message)
  | .ok value =>
      set (Settings.set (fun other =>
        (if truthy (settings .nodeToken) then some (settings other)
          else filled persisted (fun other => some (settings other)) other).getD (settings other)) field value)
  afterValidators Runtime.strict files

/-- The fingerprint when the loader finds `persisted`. -/
def fingerprintFound (persisted : Data) (files : Files) : Action Value := do
  let settings ← get
  let fingerprint := orElse (settings .nodeMachineFingerprint) (.str "machine")
  assignFound persisted files .nodeMachineFingerprint fingerprint
  pure fingerprint

theorem fingerprintFound_eq {persisted : Data} {files : Files}
    (found : loadPersistedRuntimeConfig Runtime.strict files = .ok persisted) :
    fingerprintFound persisted files = Node.resolveMachineFingerprint Runtime.strict files "machine" := by
  have same (field : Field) (value : Value) :
      assignFound persisted files field value = assign Runtime.strict files field value := by
    funext settings
    unfold assignFound assign assignField mergePersistedRuntimeConfig
    rw [found]
    have read : (EStateM.get : Action Settings) settings = .ok settings settings := rfl
    simp only [bind, EStateM.bind, get, getThe, MonadStateOf.get, read, Option.map_some, Option.getD_some,
      Action.lift]
    cases token : truthy (settings .nodeToken) <;> cases Runtime.strict.validate field value <;> rfl
  unfold fingerprintFound Node.resolveMachineFingerprint
  simp only [same]

/-- The settings behind a restart in an empty environment. -/
def restarted (base : World) : Option Settings :=
  match initialSettings Runtime.strict (filled (carriedData base.settings) fun _ => none) with
  | .ok initial =>
      match afterValidators Runtime.strict base.files initial with
      | .ok () settings => some settings
      | .error _ _ => none
  | .error _ => none

theorem construct_of_restarted {running : List Nat} {base : World} {settings : Settings}
    (first : provisioned running = some base) (restart : restarted base = some settings) :
    construct Runtime.strict base.files (fun _ => none) = .ok settings := by
  have loaded := load_of_provisioned first ⟨rfl, rfl⟩
  unfold restarted at restart
  unfold construct mergePersistedRuntimeConfig
  rw [if_neg (by decide), loaded]
  dsimp only [bind, Except.bind]
  split at restart
  · next initial starts =>
    rw [starts]
    dsimp only
    split at restart
    · next runs =>
      cases restart
      rw [runs]
    · cases restart
  · cases restart

/-- The outcomes behind the restart. -/
def answerAgain (base world : World) : (op : Op) → Option (Except Failure (Reply op) × World)
  | .resolveMachineFingerprint => some (world.run (fingerprintFound (carriedData base.settings)))
  | .applyFields _ => none
  | .openForWriting _ => none
  | .writeText _ _ => none
  | .chmod _ => none
  | .writeVpnProfile _ _ => none
  | .killOpenvpnDaemon => none
  | op => (Rehearsal.answer .plain refusal world op).filter fun reply => sends op reply.1

/-- The outcomes behind the restart where a tunnel is found. -/
def answerFound (base world : World) (op : Op) : Option (Except Failure (Reply op) × World) :=
  (answerAgain base world op).filter fun reply => finds op reply.1

theorem answerAgain_performs {running : List Nat} {base : World} (first : provisioned running = some base)
    {op : Op} {outcome : Except Failure (Reply op)} {world after : World} (same : Same base world)
    (answered : answerAgain base world op = some (outcome, after)) :
    (httpsMachine .plain).perform () world op outcome after ∧ Same base after := by
  have plain {answer : Option (Except Failure (Reply op) × World)}
      (asked : Rehearsal.answer .plain refusal world op = answer)
      (passed : (answer.filter fun reply => sends op reply.1) = some (outcome, after)) :
      answer = some (outcome, after) ∧ (httpsMachine .plain).perform () world op outcome after := by
    obtain ⟨whole, sent⟩ := Option.filter_eq_some_iff.mp passed
    exact ⟨whole, Rehearsal.performs (asked.trans whole), sendsHttps_of_sends sent⟩
  cases op with
  | resolveMachineFingerprint =>
      have runs : world.run (fingerprintFound (carriedData base.settings)) =
          world.run fun files => Node.resolveMachineFingerprint Runtime.strict files "machine" := by
        unfold World.run
        rw [fingerprintFound_eq (load_of_provisioned first same)]
      have result := runs.symm.trans (Option.some.inj answered)
      obtain rfl := congrArg Prod.fst result
      obtain rfl := congrArg Prod.snd result
      refine ⟨⟨.resolveMachineFingerprint world, trivial⟩, ?_⟩
      constructor
      · rw [World.run_files]
        exact same.config
      · rw [World.run_files]
        exact same.key
  | applyFields bundle => cases answered
  | startOpenvpn profilePath =>
      obtain ⟨whole, performed⟩ := plain rfl answered
      unfold Rehearsal.answer at whole
      dsimp only at whole
      split at whole
      · cases whole
        have config : persistedConfigPath ≠ openvpnPidPath := by decide
        have key : persistedPrivateKeyPath ≠ openvpnPidPath := by decide
        refine ⟨performed, ?_⟩
        constructor
        · rw [← same.config]
          dsimp only
          exact Files.put_other config
        · rw [← same.key]
          dsimp only
          exact Files.put_other key
      · cases whole
  | openForWriting path => cases answered
  | writeText path content => cases answered
  | chmod path => cases answered
  | writeVpnProfile path profile => cases answered
  | killOpenvpnDaemon => cases answered
  | forever => cases answered
  | _ =>
      obtain ⟨whole, performed⟩ := plain rfl answered
      cases whole
      exact ⟨performed, same⟩

/-- A reconnect behind the restart. -/
def reconnected (answers : World → (op : Op) → Option (Except Failure (Reply op) × World)) (base : World)
    (settings : Settings) : Option (Except Failure Unit × World) :=
  (connectSettings Site.plain.runtime 1).solo answers { base with settings := settings }

/-- The call is refused. -/
def isRefused : Option (Except Failure Unit × World) → Bool
  | some (.error (.connectFailed _), _) => true
  | _ => false

/-- The call has started the process 7. -/
def hasStarted : Option (Except Failure Unit × World) → Bool
  | some (_, last) => last.started = [7]
  | none => false

/-- Some daemon runs on the machine. -/
theorem sheltered_refused : (provisioned [9]).bind (fun base => (restarted base).map fun settings =>
    isRefused (reconnected (answerFound base) base settings)) = some true := by
  decide +kernel

/-- None runs. -/
theorem stale_started : (provisioned []).bind (fun base => (restarted base).map fun settings =>
    decide (base.started = []) && hasStarted (reconnected (answerAgain base) base settings)) = some true := by
  decide +kernel

/-- A run behind a first call and a restart, in HTTPS mode. -/
theorem leads_of_reconnected {running : List Nat} {base : World} {settings : Settings}
    {outcome : Except Failure Unit} {last : World} (first : provisioned running = some base)
    (runs : (connectSettings Site.plain.runtime 1).solo (answerAgain base) { base with settings := settings } =
      some (outcome, last)) :
    Leads (httpsMachine .plain) () { base with settings := settings } (connectSettings Site.plain.runtime 1) last
      (resumeWith .ret .raise outcome) :=
  Coro.solo_leads_while (answerAgain_performs first) ⟨rfl, rfl⟩ runs

theorem leads_of_found {running : List Nat} {base : World} {settings : Settings} {outcome : Except Failure Unit}
    {last : World} (first : provisioned running = some base)
    (runs : (connectSettings Site.plain.runtime 1).solo (answerFound base) { base with settings := settings } =
      some (outcome, last)) :
    Leads (shelteredMachine .plain) () { base with settings := settings } (connectSettings Site.plain.runtime 1) last
      (resumeWith .ret .raise outcome) := by
  have start : Same base { base with settings := settings } := ⟨rfl, rfl⟩
  apply Coro.solo_leads_while _ start runs
  intro world op outcome after same answered
  obtain ⟨plain, passed⟩ := Option.filter_eq_some_iff.mp answered
  obtain ⟨performed, kept⟩ := answerAgain_performs first same plain
  exact ⟨⟨performed, findsTunnel_of_finds passed⟩, kept⟩

end StaleProfile

/-- A node is provisioned in HTTPS mode and started again, some daemon runs, and the server refuses its reconnect:
no daemon is started for it. -/
theorem reconnect_sheltered_refused :
    ∃ (base last : World) (settings : Settings) (failure : Failure),
      Leads (httpsMachine .plain) () (StaleProfile.start [9]) (connectSettings Site.plain.runtime 1) base (.ret ()) ∧
      construct Site.plain.runtime base.files (fun _ => none) = .ok settings ∧
      Leads (shelteredMachine .plain) () { base with settings := settings } (connectSettings Site.plain.runtime 1) last
        (.raise failure) ∧
      last.started = base.started ∧ failure.ofTunnel = false := by
  obtain ⟨base, first, behind⟩ := Option.bind_eq_some_iff.mp StaleProfile.sheltered_refused
  obtain ⟨settings, restart, refused⟩ := Option.map_eq_some_iff.mp behind
  obtain ⟨typed, -, connects⟩ := StaleProfile.leads_of_provisioned first
  have built := StaleProfile.construct_of_restarted first restart
  have found := StaleProfile.found_of_provisioned first
  unfold StaleProfile.isRefused at refused
  split at refused
  · next message last runs =>
    have leads := StaleProfile.leads_of_found first runs
    obtain ⟨same, reasons⟩ := reconnect_sheltered Site.plain Runtime.strict_documented (StaleProfile.start [9])
      base base last 1 1 typed connects .base (fun _ => none) settings rfl rfl found built _ leads
    exact ⟨base, last, settings, _, connects, built, leads, same, reasons _ rfl⟩
  · cases refused

/-- With the profile of an older bundle on the disk and no daemon, a reconnect in HTTPS mode starts one. -/
theorem reconnect_stale :
    ∃ (base last : World) (settings : Settings) (rest : Task Unit),
      Leads (httpsMachine .plain) () (StaleProfile.start []) (connectSettings Site.plain.runtime 1) base (.ret ()) ∧
      construct Site.plain.runtime base.files (fun _ => none) = .ok settings ∧
      Leads (httpsMachine .plain) () { base with settings := settings } (connectSettings Site.plain.runtime 1) last
        rest ∧
      base.started = [] ∧ last.started = [7] := by
  obtain ⟨base, first, behind⟩ := Option.bind_eq_some_iff.mp StaleProfile.stale_started
  obtain ⟨settings, restart, passed⟩ := Option.map_eq_some_iff.mp behind
  obtain ⟨typed, -, connects⟩ := StaleProfile.leads_of_provisioned first
  have built := StaleProfile.construct_of_restarted first restart
  rw [Bool.and_eq_true, decide_eq_true_eq] at passed
  obtain ⟨fresh, started⟩ := passed
  unfold StaleProfile.hasStarted at started
  split at started
  · next outcome last runs =>
    have leads := StaleProfile.leads_of_reconnected first runs
    exact ⟨base, last, settings, _, connects, built, leads, fresh, of_decide_eq_true started⟩
  · cases started

end CodaNode.Node
