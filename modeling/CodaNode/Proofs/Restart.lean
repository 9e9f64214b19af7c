/-
Module: CodaNode.Proofs.Restart
Layer: Proofs
Purpose: A restart finds what `connect_settings` has persisted. Behind a call that returns, the two files
  hold its settings and both credentials are there; every later construction without a token takes the
  values the environment sets and the persisted ones elsewhere, and has its credentials.
Imports: CodaNode.Node.Restart, CodaNode.Node.Persist, CodaNode.Node.Rehearsal
Main exports: connectSettings_restarts
-/
import CodaNode.Node.Restart
import CodaNode.Node.Persist
import CodaNode.Node.Rehearsal

namespace CodaNode.Node

open Coroutine Coro

variable {site : Site}

/-- A bundle that is applied leaves both credentials behind, whatever happens to its tunnel. -/
theorem applyNodeBundle_provided (documented : site.runtime.Documented) (fuel : Nat) (bundle : Value) :
    Triple (nodeMachine site) () (fun _ => True) (fun _ => True) (applyNodeBundle fuel bundle)
      (fun _ world => FilledAll requiredFields world.settings) fun _ _ => True := by
  have always : (nodeMachine site).Keeps fun _ => True := fun _ _ _ here => here
  apply (applyFields_triple always bundle).bind
  intro profile world last rest applied leads
  obtain ⟨start, -, applied⟩ := applied
  exact installProfile_triple fuel profile (FilledAll requiredFields) (applyFields_fills documented applied) leads

/-- The cleanup raises. -/
theorem cleanUp_raises (failure : Failure) :
    Triple (nodeMachine site) () (fun _ => True) (fun _ => True) (cleanUp failure) (fun _ _ => False)
      fun _ _ => True := by
  have raises : Triple (nodeMachine site) () (fun _ => True) (fun _ => True) (.raise failure : Task Unit)
      (fun _ _ => False) fun _ _ => True :=
    Triple.raise (fun _ _ _ here => here) (fun _ _ => trivial) fun _ _ => trivial
  unfold cleanUp
  split
  · apply (Triple.any _).bind
    intro settings
    split
    · exact (Triple.any _).bind fun _ => raises
    · exact raises
  · exact raises

theorem written_keeps {settings : Settings} : (nodeMachine site).Keeps (Written site.runtime settings) := by
  intro world after move written
  constructor
  · exact move.settings.trans written.current
  · exact (Occurs.own move (.inr rfl)).trans written.key
  · exact (Occurs.own move (.inl rfl)).trans written.config
  · exact written.dumpable

/-- Behind a call that returns, its settings are on the disk and have both credentials. -/
theorem connectSettings_written (documented : site.runtime.Documented) (fuel : Nat) :
    Triple (nodeMachine site) () (fun _ => True) (fun _ => True) (connectSettings site.runtime fuel)
      (fun _ world => FilledAll requiredFields world.settings ∧ Written site.runtime world.settings world)
      fun _ _ => True := by
  have persists : Triple (nodeMachine site) () (fun _ => True) (fun world => FilledAll requiredFields world.settings)
      (persistRuntimeConfig site.runtime)
      (fun _ world => FilledAll requiredFields world.settings ∧ Written site.runtime world.settings world)
      fun _ _ => True := by
    intro world last rest provided leads
    obtain ⟨-, returned, -⟩ := persistRuntimeConfig_written world.settings rfl leads
    refine ⟨trivial, ?_, fun _ _ => trivial⟩
    intro value same
    have written := returned value same
    rw [written.current]
    exact ⟨provided, written⟩
  unfold connectSettings
  apply (Triple.any (fetchBundle fuel)).bind
  intro bundle
  apply Triple.handle ((applyNodeBundle_provided documented fuel bundle).bind fun _ => persists)
  · intro _
    apply Triple.ret
    · intro world after move here
      rw [move.settings]
      exact ⟨here.1, written_keeps move here.2⟩
    · intro _ here
      exact here
    · intro _ _
      trivial
  · intro failure
    apply (cleanUp_raises failure).consequence
    · intro _ here
      exact here
    · intro _ here
      exact here
    · intro _ _ impossible
      exact impossible.elim
    · intro _ _ here
      exact here

/-- A restart with the files of a call that returned finds its settings, when the text mode reads the key back as
it was written. -/
theorem connectSettings_restarts (site : Site) (documented : site.runtime.Documented) (fuel : Nat)
    (world last : World) (typed : last.settings.Typed)
    (connects : Leads (nodeMachine site) () world (connectSettings site.runtime fuel) last (.ret ()))
    (files : Files) (config : files persistedConfigPath = last.files persistedConfigPath)
    (key : files persistedPrivateKeyPath = last.files persistedPrivateKeyPath)
    (readBack : Python.universalNewlines (textOf (last.settings .jwtPrivateKey)).toList =
      (textOf (last.settings .jwtPrivateKey)).toList) :
    Restarts site.runtime files last.settings := by
  obtain ⟨provided, written⟩ := (connectSettings_written documented fuel trivial connects).2.1 () rfl
  have carriable : Carriable last.settings := ⟨typed, provided _ (by decide), provided _ (by decide)⟩
  apply restarts_of_load documented carriable
  apply load_of_texts documented carriable written.dumpable (.inl rfl) (config.trans written.config)
  rw [readSecureText_private (key.trans written.key), readBack, String.ofList_toList]

namespace Restart

/-- The server provisions a node in HTTPS mode. -/
def rehearsal : Rehearsal where
  attempt := .answer (.dict [("qpu_id", .str "qpu"), ("native_gate_set", .str "cz"), ("num_qubits", .int 5),
    ("jwt_private_key", .str "key"), ("jwt_key_id", .str "id"), ("redis_url", .str "redis://host"),
    ("webapp_url", .str "https://host"), ("vpn", .dict [("required", .bool false)])])
  pid := 7

/-- A new node with a token. -/
def world : World where
  settings := Settings.set Field.default .nodeToken (.str "token")
  files _ := none

end Restart

namespace Restart

/-- The settings have their types, and the QPU and the key are those of the bundle. -/
def provisioned (after : World) : Bool :=
  Field.all.all (fun field => field.kind.fits (after.settings field)) &&
    (textOf (after.settings .qpuId) = "qpu" && textOf (after.settings .jwtPrivateKey) = "key")

theorem world_provisioned : Rehearsal.returns provisioned
    (Rehearsal.run Site.plain rehearsal (connectSettings Site.plain.runtime 0) world) = true := by
  decide +kernel

end Restart

/-- A node is provisioned, and every restart finds its settings. -/
theorem connectSettings_restarts_provisioned :
    ∃ last, Leads (nodeMachine Site.plain) () Restart.world (connectSettings Site.plain.runtime 0) last
        (.ret ()) ∧ textOf (last.settings .qpuId) = "qpu" ∧
      Restarts Site.plain.runtime last.files last.settings := by
  obtain ⟨last, connects, test⟩ := Rehearsal.leads_of_returns Restart.world_provisioned
  simp only [Restart.provisioned, Bool.and_eq_true, List.all_eq_true, decide_eq_true_eq] at test
  obtain ⟨typed, id, key⟩ := test
  refine ⟨last, connects, id, ?_⟩
  apply connectSettings_restarts Site.plain Runtime.strict_documented 0 Restart.world last
    (fun field => typed field field.mem_all) connects last.files rfl rfl
  rw [key]
  decide

end CodaNode.Node
