/-
Module: CodaNode.Node.Persist
Layer: Node
Purpose: What `_persist_runtime_config` leaves on the disk when it returns.
Imports: CodaNode.Node.Quiet
Main exports: Written, writeSecureText_written, persistRuntimeConfig_written
-/
import CodaNode.Node.Quiet

namespace CodaNode.Node

open Coroutine Coro
open Python (Json)

variable {site : Site}

/-- The file at a path has the text, for its owner only. -/
def Holds (path content : String) (world : World) : Prop :=
  world.files path = some ⟨some content, ownerOnly⟩

theorem Holds.put_other {path other content : String} {world : World} {file : File}
    (here : Holds path content world) (different : path ≠ other) :
    Holds path content { world with files := world.files.put other file } := by
  unfold Holds
  dsimp only
  rw [Files.put_other different]
  exact here

/-- A file that nobody but the node writes. -/
def OwnPath (path : String) : Prop := path = persistedConfigPath ∨ path = persistedPrivateKeyPath

theorem Occurs.own {world after : World} (move : Occurs site world after) {path : String} (own : OwnPath path) :
    after.files path = world.files path := by
  rcases own with rfl | rfl
  · exact move.config
  · exact move.key

section

variable {path content : String} {base : World → Prop}

theorem Performs.openForWriting_ok {world after : World} {value : Reply (.openForWriting path)}
    (performed : Performs site world (.openForWriting path) (.ok value) after) :
    ∃ file, after = { world with files := world.files.put path file } := by
  cases performed with
  | opened _ mode _ => exact ⟨⟨some "", mode⟩, rfl⟩

theorem Performs.writeText_ok {world after : World} {value : Reply (.writeText path content)}
    (performed : Performs site world (.writeText path content) (.ok value) after) :
    ∃ mode, after = { world with files := world.files.put path ⟨some content, mode⟩ } := by
  cases performed with
  | written _ _ mode _ => exact ⟨mode, rfl⟩

theorem Performs.chmod_ok {world after : World} {value : Reply (.chmod path)}
    (performed : Performs site world (.chmod path) (.ok value) after) :
    ∃ file, world.files path = some file ∧
      after = { world with files := world.files.put path { file with mode := ownerOnly } } := by
  cases performed with
  | changedMode _ file present => exact ⟨file, present, rfl⟩

/-- A text that is written is there, and what does not speak about its file still holds. -/
theorem writeSecureText_written (own : OwnPath path) (kept : (nodeMachine site).Keeps base)
    (frame : ∀ world file, base world → base { world with files := world.files.put path file }) :
    Triple (nodeMachine site) () (fun _ => True) base (writeSecureText path content)
      (fun _ world => base world ∧ Holds path content world) fun _ _ => True := by
  have stays (holds : Option File → Prop) :
      (nodeMachine site).Keeps fun world => base world ∧ holds (world.files path) := by
    intro world after move here
    rw [Occurs.own move own]
    exact ⟨kept move here.1, here.2⟩
  have present := stays fun file => ∃ mode, file = some ⟨some content, mode⟩
  have restricted := stays fun file => file = some ⟨some content, ownerOnly⟩
  have opens : Triple (nodeMachine site) () (fun _ => True) base
      (perform (Op.openForWriting path) : Task Unit) (fun _ => base) fun _ _ => True := by
    apply Triple.performed kept _ fun _ => kept
    intro _ world after here performed
    obtain ⟨file, rfl⟩ := performed.openForWriting_ok
    exact frame world file here
  have writes : Triple (nodeMachine site) () (fun _ => True) base
      (perform (Op.writeText path content) : Task Unit)
      (fun _ world => base world ∧ ∃ mode, world.files path = some ⟨some content, mode⟩) fun _ _ => True := by
    apply Triple.performed kept _ fun _ => present
    intro _ world after here performed
    obtain ⟨mode, rfl⟩ := performed.writeText_ok
    exact ⟨frame world _ here, mode, Files.put_self ..⟩
  have restricts : Triple (nodeMachine site) () (fun _ => True)
      (fun world => base world ∧ ∃ mode, world.files path = some ⟨some content, mode⟩)
      (perform (Op.chmod path) : Task Unit) (fun _ world => base world ∧ Holds path content world)
      fun _ _ => True := by
    apply Triple.performed present _ fun _ => restricted
    rintro _ world after ⟨here, mode, found⟩ performed
    obtain ⟨file, present, rfl⟩ := performed.chmod_ok
    cases found.symm.trans present
    exact ⟨frame world _ here, Files.put_self ..⟩
  exact opens.bind fun _ => writes.bind fun _ => restricts

end

/-- The two files hold the settings. -/
structure Written (runtime : Runtime) (settings : Settings) (world : World) : Prop where
  current : world.settings = settings
  key : Holds persistedPrivateKeyPath (textOf (settings .jwtPrivateKey)) world
  config : Holds persistedConfigPath (persistedConfigText runtime settings) world
  dumpable : Json.dumpable (.dict (persistedEntries settings))

/-- The first operation returns the settings. -/
theorem settings_read (settings : Settings) :
    Triple (nodeMachine site) () (fun _ => True) (fun world => world.settings = settings)
      (perform Op.settings : Task Settings) (fun found world => found = settings ∧ world.settings = settings)
      fun _ _ => True := by
  have current : (nodeMachine site).Keeps fun world => world.settings = settings :=
    fun _ _ move here => move.settings.trans here
  apply Triple.performed current
  · intro found world after here performed
    cases performed
    exact ⟨here, here⟩
  · intro found world after move here
    exact ⟨here.1, current move here.2⟩

/-- Behind `_persist_runtime_config` the settings are on the disk. -/
theorem persistRuntimeConfig_written (settings : Settings) :
    Triple (nodeMachine site) () (fun _ => True) (fun world => world.settings = settings)
      (persistRuntimeConfig site.runtime) (fun _ => Written site.runtime settings) fun _ _ => True := by
  apply (settings_read settings).bind
  intro found world last rest here leads
  obtain ⟨rfl, current⟩ := here
  have kept : (nodeMachine site).Keeps fun world => world.settings = found :=
    fun _ _ move here => move.settings.trans here
  have keyKept : (nodeMachine site).Keeps fun world =>
      world.settings = found ∧ Holds persistedPrivateKeyPath (textOf (found .jwtPrivateKey)) world := by
    intro world after move here
    exact ⟨kept move here.1, (Occurs.own move (.inr rfl)).trans here.2⟩
  have frame : ∀ (world : World) (file : File),
      world.settings = found ∧ Holds persistedPrivateKeyPath (textOf (found .jwtPrivateKey)) world →
      world.settings = found ∧ Holds persistedPrivateKeyPath (textOf (found .jwtPrivateKey))
        { world with files := world.files.put persistedConfigPath file } := by
    intro world file here
    exact ⟨here.1, here.2.put_other (by decide)⟩
  have key : Triple (nodeMachine site) () (fun _ => True) (fun world => world.settings = found)
      (writeSecureText persistedPrivateKeyPath (textOf (found .jwtPrivateKey)))
      (fun _ world => world.settings = found ∧
        Holds persistedPrivateKeyPath (textOf (found .jwtPrivateKey)) world) fun _ _ => True :=
    writeSecureText_written (.inr rfl) kept fun _ _ here => here
  refine (key.bind fun _ => ?_) current leads
  split
  · next dumpable =>
    apply (writeSecureText_written (.inl rfl) keyKept frame).consequence
    · intro _ here
      exact here
    · intro _ here
      exact here
    · intro _ world here
      exact ⟨here.1.1, here.1.2, here.2, dumpable⟩
    · intro _ _ here
      exact here
  · exact Triple.raise (fun _ _ _ here => here) (fun _ _ => trivial) fun _ _ => trivial

end CodaNode.Node
