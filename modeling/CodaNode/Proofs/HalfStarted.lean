/-
Module: CodaNode.Proofs.HalfStarted
Layer: Proofs
Purpose: The daemon a failed `connect_settings` leaves behind. Only what fails behind the bundle of a node token
  is cleaned up, and the cleanup ends whatever the PID file names. A run whose steps fail there or in front of
  the start, and whose kills hit what the call has started, leaves none of its daemons and ends no other.
Imports: CodaNode.Node.Cleanup, CodaNode.Node.Rehearsal, CodaNode.Node.Credentials
Main exports: Alive, Tidy, Covered, coveredMachine, connectSettings_tidy
-/
import CodaNode.Node.Cleanup
import CodaNode.Node.Rehearsal
import CodaNode.Node.Credentials

namespace CodaNode.Node

open Coroutine Coro
open Python (Json)

/-! ### Definitions -/

/-- A daemon that the call has started runs. -/
def Alive (world : World) : Prop := ∃ pid ∈ world.started, pid ∈ world.running

/-- No daemon was killed but those that the call has started. -/
def Sparing (world : World) : Prop := ∀ pid ∈ world.killed, pid ∈ world.started

/-- No daemon of the call is left, and no other one was killed. -/
structure Tidy (world : World) : Prop where
  stopped : ¬ Alive world
  spared : Sparing world

/-- The signal of a kill was sent. -/
def Signalled : (op : Op) → Except Failure (Reply op) → Prop
  | .killOpenvpnDaemon, outcome => outcome = .ok true
  | _, _ => True

/-- A step that the cleanup can answer for. While a daemon of the call runs, only a call with a node token
fails, and with an `Exception`; the settings of a call without one have a text. A signal to the process id in the
PID file in front of a kill reaches what the call has started and no other daemon that runs, and it is sent. -/
structure Covered (site : Site) (world : World) (op : Op) (outcome : Except Failure (Reply op)) (after : World) :
    Prop where
  caught : ∀ failure, outcome = .error failure → Alive after →
    truthy (world.settings .nodeToken) = true ∧ failure.isException = true
  dumped : op = .chmod persistedPrivateKeyPath → Alive world →
    truthy (world.settings .nodeToken) = true ∨ Json.dumpable (.dict (persistedEntries world.settings))
  known : op = .killOpenvpnDaemon → ∀ pid ∈ world.running,
    (pid ∈ world.started ↔ site.hits world.files pid = true)
  signalled : Alive world → Signalled op outcome

/-- Provisioning with covered steps only. -/
abbrev coveredMachine (site : Site) : Machine Reply Failure World Unit := (nodeMachine site).restrict (Covered site)

variable {site : Site} {world after : World}

/-! ### Steps -/

/-- The operations that neither start a daemon nor end one. -/
def Op.sparesDaemons : Op → Bool
  | .startOpenvpn _ | .killOpenvpnDaemon => false
  | _ => true

theorem World.run_daemons {α : Type} (world : World) (program : Files → Action α) :
    SameDaemons world (world.run program).2 := by
  unfold World.run
  split
  · exact ⟨rfl, rfl, rfl⟩
  · exact ⟨rfl, rfl, rfl⟩

theorem Performs.daemons_eq {op : Op} {outcome : Except Failure (Reply op)}
    (performed : Performs site world op outcome after) (spares : op.sparesDaemons = true) :
    SameDaemons world after := by
  cases performed with
  | resolveMachineFingerprint => exact world.run_daemons _
  | applyFields => exact world.run_daemons _
  | started => cases spares
  | notStarted => cases spares
  | startedUnattended => cases spares
  | killOpenvpnDaemon => cases spares
  | _ => exact ⟨rfl, rfl, rfl⟩

theorem SameDaemons.alive_iff (same : SameDaemons world after) : Alive after ↔ Alive world := by
  rw [Alive, Alive, same.started, same.running]

theorem SameDaemons.sparing (same : SameDaemons world after) (sparing : Sparing world) : Sparing after := by
  rw [Sparing, same.started, same.killed]
  exact sparing

theorem Occurs.alive (move : Occurs site world after) (alive : Alive after) : Alive world := by
  obtain ⟨pid, started, running⟩ := alive
  rw [move.started] at started
  rcases move.running pid running with older | foreign
  · exact ⟨pid, started, older⟩
  · exact absurd started foreign

theorem Occurs.sparing (move : Occurs site world after) (sparing : Sparing world) : Sparing after := by
  rw [Sparing, move.started, move.killed]
  exact sparing

/-- A covered kill ends every daemon of the call and no other. -/
theorem Performs.kill_tidy {outcome : Except Failure Bool}
    (performed : Performs site world .killOpenvpnDaemon outcome after)
    (covered : Covered site world .killOpenvpnDaemon outcome after) (sparing : Sparing world) : Tidy after := by
  rcases performed.kill_cases with ⟨same, unsent⟩ | ended
  · constructor
    · intro alive
      exact unsent (covered.signalled (same.alive_iff.mp alive))
    · exact same.sparing sparing
  · constructor
    · rintro ⟨pid, own, left⟩
      rw [ended.started] at own
      rw [ended.running, List.mem_filter] at left
      have hit := (covered.known rfl pid left.1).mp own
      simp [hit] at left
    · intro pid killed
      rw [ended.killed, List.mem_append, List.mem_filter] at killed
      rw [ended.started]
      rcases killed with ⟨runs, hit⟩ | earlier
      · exact (covered.known rfl pid runs).mpr hit
      · exact sparing pid earlier

theorem Performs.start_sparing {profilePath : String} {outcome : Except Failure Unit}
    (performed : Performs site world (.startOpenvpn profilePath) outcome after) (sparing : Sparing world) :
    Sparing after := by
  cases performed with
  | started pid fresh foreign => exact fun other killed => List.mem_cons_of_mem _ (sparing other killed)
  | notStarted => exact sparing
  | startedUnattended pid fresh foreign => exact fun other killed => List.mem_cons_of_mem _ (sparing other killed)

/-- No covered step ends a daemon of somebody else. -/
theorem Performs.sparing {op : Op} {outcome : Except Failure (Reply op)}
    (performed : Performs site world op outcome after)
    (covered : Covered site world op outcome after) (sparing : Sparing world) : Sparing after := by
  cases op with
  | startOpenvpn profilePath => exact performed.start_sparing sparing
  | killOpenvpnDaemon => exact (performed.kill_tidy covered sparing).spared
  | _ => exact (performed.daemons_eq rfl).sparing sparing

/-! ### Assertions -/

/-- The cleanup can answer for a failure here. -/
structure Cleanable (failure : Failure) (world : World) : Prop where
  sparing : Sparing world
  caught : Alive world → truthy (world.settings .nodeToken) = true ∧ failure.isException = true

/-- The call has started nothing yet. -/
structure Untouched (world : World) : Prop where
  started : world.started = []
  killed : world.killed = []

/-- The call has no node token. -/
structure Reconnecting (world : World) : Prop where
  sparing : Sparing world
  token : truthy (world.settings .nodeToken) = false

/-- A daemon that runs behind the fetch of the bundle was started without a node token. -/
structure Fetched (world : World) : Prop where
  sparing : Sparing world
  token : Alive world → truthy (world.settings .nodeToken) = false

theorem Untouched.tidy (untouched : Untouched world) : Tidy world := by
  constructor
  · rintro ⟨pid, started, -⟩
    rw [untouched.started] at started
    cases started
  · intro pid killed
    rw [untouched.killed] at killed
    cases killed

theorem Tidy.cleanable (tidy : Tidy world) (failure : Failure) : Cleanable failure world :=
  ⟨tidy.spared, fun alive => absurd alive tidy.stopped⟩

theorem Sparing.keeps : (coveredMachine site).Keeps Sparing := fun _ _ move here => Occurs.sparing move here

theorem Tidy.keeps : (coveredMachine site).Keeps Tidy := by
  intro world after move here
  exact ⟨fun alive => here.stopped (Occurs.alive move alive), Occurs.sparing move here.spared⟩

theorem Cleanable.keeps (failure : Failure) : (coveredMachine site).Keeps (Cleanable failure) := by
  intro world after move here
  constructor
  · exact Occurs.sparing move here.sparing
  · intro alive
    rw [move.settings]
    exact here.caught (Occurs.alive move alive)

theorem Reconnecting.keeps : (coveredMachine site).Keeps Reconnecting := by
  intro world after move here
  constructor
  · exact Occurs.sparing move here.sparing
  · rw [move.settings]
    exact here.token

theorem Fetched.keeps : (coveredMachine site).Keeps Fetched := by
  intro world after move here
  constructor
  · exact Occurs.sparing move here.sparing
  · intro alive
    rw [move.settings]
    exact here.token (Occurs.alive move alive)

/-! ### Operations -/

/-- An operation that keeps the settings. -/
theorem perform_cleanable {op : Op} (quiet : op.keepsSettings = true) :
    Triple (coveredMachine site) () Sparing Sparing (perform op : Task (Reply op)) (fun _ => Sparing) Cleanable := by
  apply Triple.perform Sparing.keeps
  · intro _ here
    exact here
  · intro value world after here performed
    exact performed.1.sparing performed.2 here
  · intro failure world after here performed
    constructor
    · exact performed.1.sparing performed.2 here
    · intro alive
      rw [performed.1.settings_eq quiet]
      exact performed.2.caught failure rfl alive
  · intro _
    exact Sparing.keeps
  · exact Cleanable.keeps
  · intro _ _ here
    exact here
  · intro _ _ here
    exact here.sparing

/-- An operation while no daemon of the call runs. -/
theorem perform_tidy {op : Op} (spares : op.sparesDaemons = true) :
    Triple (coveredMachine site) () Sparing Tidy (perform op : Task (Reply op)) (fun _ => Tidy) fun _ => Tidy := by
  have kept {outcome : Except Failure (Reply op)} {world after : World} (here : Tidy world)
      (performed : (coveredMachine site).perform () world op outcome after) : Tidy after := by
    have same := performed.1.daemons_eq spares
    exact ⟨fun alive => here.stopped (same.alive_iff.mp alive), same.sparing here.spared⟩
  apply Triple.perform Tidy.keeps
  · intro _ here
    exact here.spared
  · intro _ _ _ here performed
    exact kept here performed
  · intro _ _ _ here performed
    exact kept here performed
  · intro _
    exact Tidy.keeps
  · intro _
    exact Tidy.keeps
  · intro _ _ here
    exact here.spared
  · intro _ _ here
    exact here.spared

/-- An operation of a call without a node token. -/
theorem perform_reconnecting {op : Op} (keeps : ∀ {world after : World} {value : Reply op},
      Performs site world op (.ok value) after → truthy (world.settings .nodeToken) = false →
      truthy (after.settings .nodeToken) = false) :
    Triple (coveredMachine site) () Sparing Reconnecting (perform op : Task (Reply op)) (fun _ => Reconnecting)
      fun _ => Tidy := by
  apply Triple.perform Reconnecting.keeps
  · intro _ here
    exact here.sparing
  · intro value world after here performed
    exact ⟨performed.1.sparing performed.2 here.sparing, keeps performed.1 here.token⟩
  · intro failure world after here performed
    constructor
    · intro alive
      have token := (performed.2.caught failure rfl alive).1
      rw [here.token] at token
      cases token
    · exact performed.1.sparing performed.2 here.sparing
  · intro _
    exact Reconnecting.keeps
  · intro _
    exact Tidy.keeps
  · intro _ _ here
    exact here.sparing
  · intro _ _ here
    exact here.spared

/-! ### The tunnel -/

theorem never_cleanable {α : Type} : Triple (coveredMachine site) () Sparing Sparing (never : Task α)
    (fun _ => Sparing) Cleanable := by
  apply Triple.call (fun outcome world => ∀ failure, outcome = .error failure → Cleanable failure world) Sparing.keeps
  · intro _ here
    exact here
  · rintro outcome world after here performed failure rfl
    exact ⟨performed.1.sparing performed.2 here, fun alive => by
      rw [performed.1.settings_eq rfl]
      exact performed.2.caught failure rfl alive⟩
  · intro outcome
    cases outcome with
    | ok impossible => cases impossible
    | error failure =>
        apply Triple.raise (Cleanable.keeps failure)
        · intro _ here
          exact here failure rfl
        · intro _ here
          exact here.sparing

theorem return_sparing {α : Type} (value : α) {failed : Failure → World → Prop} :
    Triple (coveredMachine site) () Sparing Sparing (.ret value : Task α) (fun _ => Sparing) failed := by
  apply Triple.ret Sparing.keeps
  · intro _ here
    exact here
  · intro _ here
    exact here

theorem pollTunnel_cleanable (hint : Value) (deadline : Rat) (fuel : Nat) :
    Triple (coveredMachine site) () Sparing Sparing (pollTunnel hint deadline fuel) (fun _ => Sparing) Cleanable := by
  induction fuel with
  | zero => exact never_cleanable
  | succ fuel ih =>
      apply (perform_cleanable rfl).bind
      intro now
      split
      · apply (perform_cleanable rfl).bind
        intro interface
        cases interface with
        | some name => exact return_sparing _
        | none =>
            apply (perform_cleanable rfl).bind
            intro _
            exact ih
      · exact return_sparing _

/-- A kill ends what the call has started. -/
theorem kill_tidies : Triple (coveredMachine site) () Sparing Sparing (perform Op.killOpenvpnDaemon : Task Bool)
    (fun _ => Tidy) fun _ => Tidy := by
  apply Triple.perform Sparing.keeps
  · intro _ here
    exact here
  · intro _ _ _ here performed
    exact performed.1.kill_tidy performed.2 here
  · intro _ _ _ here performed
    exact performed.1.kill_tidy performed.2 here
  · intro _
    exact Tidy.keeps
  · intro _
    exact Tidy.keeps
  · intro _ _ here
    exact here.spared
  · intro _ _ here
    exact here.spared

theorem raise_tidy {α : Type} (failure : Failure) {post : α → World → Prop} :
    Triple (coveredMachine site) () Sparing Tidy (.raise failure : Task α) post fun _ => Tidy := by
  apply Triple.raise Tidy.keeps
  · intro _ here
    exact here
  · intro _ here
    exact here.spared

/-- What leaves nothing behind leaves nothing to clean up. -/
theorem cleanable_of_tidy {α : Type} {body : Task α} {pre : World → Prop} {post : α → World → Prop}
    (triple : Triple (coveredMachine site) () Sparing pre body post fun _ => Tidy) :
    Triple (coveredMachine site) () Sparing pre body post Cleanable := by
  apply triple.consequence
  · intro _ here
    exact here
  · intro _ here
    exact here
  · intro _ _ here
    exact here
  · intro failure _ here
    exact here.cleanable failure

theorem waitForTunnel_cleanable (fuel : Nat) (hint : Value) :
    Triple (coveredMachine site) () Sparing Sparing (waitForTunnel fuel hint) (fun _ => Sparing) Cleanable := by
  apply (perform_cleanable rfl).bind
  intro now
  apply (pollTunnel_cleanable hint _ fuel).bind
  intro interface
  cases interface with
  | some name => exact return_sparing _
  | none =>
      apply (perform_cleanable rfl).bind
      intro tail
      apply cleanable_of_tidy
      apply kill_tidies.bind
      intro _
      exact raise_tidy _

theorem bringUpTunnel_cleanable (fuel : Nat) :
    Triple (coveredMachine site) () Sparing Sparing (bringUpTunnel fuel) (fun _ => Sparing) Cleanable := by
  apply (perform_cleanable rfl).bind
  intro settings
  apply (perform_cleanable rfl).bind
  intro _
  apply (waitForTunnel_cleanable fuel _).bind
  intro _
  exact return_sparing _

theorem installProfile_cleanable (fuel : Nat) (profile : Option String) :
    Triple (coveredMachine site) () Sparing Sparing (installProfile fuel profile) (fun _ => Sparing) Cleanable := by
  cases profile with
  | none => exact return_sparing _
  | some profile =>
      apply (perform_cleanable rfl).bind
      intro settings
      apply (perform_cleanable rfl).bind
      intro _
      apply (perform_cleanable rfl).bind
      intro interface
      cases interface with
      | some name => exact return_sparing _
      | none => exact bringUpTunnel_cleanable fuel

/-! ### The bundle -/

/-- Up to the start of a daemon nothing has to be cleaned up; behind it, what the wait for the tunnel leaves. -/
theorem ensurePersistedVpn_cleanable (fuel : Nat) :
    Triple (coveredMachine site) () Sparing Tidy (ensurePersistedVpn fuel) (fun _ => Sparing) Cleanable := by
  have returns : Triple (coveredMachine site) () Sparing Tidy (.ret () : Task Unit) (fun _ => Sparing) Cleanable := by
    apply Triple.ret Sparing.keeps
    · intro _ here
      exact here.spared
    · intro _ here
      exact here
  apply (cleanable_of_tidy (perform_tidy rfl)).bind
  intro persisted
  apply (cleanable_of_tidy (perform_tidy rfl)).bind
  intro settings
  split
  · exact returns
  · split
    · exact returns
    · apply (cleanable_of_tidy (perform_tidy rfl)).bind
      intro present
      split
      · split
        · exact cleanable_of_tidy (raise_tidy _)
        · exact returns
      · apply (cleanable_of_tidy (perform_tidy rfl)).bind
        intro interface
        cases interface with
        | some name => exact returns
        | none =>
            apply (bringUpTunnel_cleanable fuel).consequence
            · intro _ here
              exact here.spared
            · intro _ here
              exact here
            · intro _ _ here
              exact here
            · intro _ _ here
              exact here

/-- Without a node token every step behind the start of a daemon succeeds. -/
theorem ensurePersistedVpn_reconnecting (fuel : Nat) :
    Triple (coveredMachine site) () Sparing (fun world => Tidy world ∧ truthy (world.settings .nodeToken) = false)
      (ensurePersistedVpn fuel) (fun _ => Reconnecting) fun _ => Tidy := by
  have token := (@triple_quiet site _ _ ((ensurePersistedVpn_inert fuel).imp Inert.quiet)
    fun settings => truthy (settings .nodeToken) = false).restrict (Covered site)
  apply ((ensurePersistedVpn_cleanable fuel).and token).consequence
  · intro _ here
    exact here
  · intro _ here
    exact here.1
  · intro _ _ here
    exact ⟨here.1, here.2⟩
  · intro _ world here
    constructor
    · intro alive
      have token := (here.1.caught alive).1
      rw [here.2] at token
      cases token
    · exact here.1.sparing

/-- The fingerprint of the machine leaves the node token alone. -/
theorem resolveMachineFingerprint_token {value : Reply .resolveMachineFingerprint}
    (performed : Performs site world .resolveMachineFingerprint (.ok value) after)
    (token : truthy (world.settings .nodeToken) = false) : truthy (after.settings .nodeToken) = false := by
  obtain ⟨result, rfl⟩ := performed.resolveMachineFingerprint_eq
  have keeps : (Node.resolveMachineFingerprint site.runtime world.files site.machineFingerprint).Keeps
      fun settings => settings .nodeToken = world.settings .nodeToken :=
    resolveMachineFingerprint_keeps fun _ => assign_keepsToken (by decide)
  exact (congrArg truthy (keeps (World.run_ok result) rfl)).trans token

theorem fetchReconnectBundle_reconnecting (connectivity : Option Value) :
    Triple (coveredMachine site) () Sparing Reconnecting (fetchReconnectBundle connectivity) (fun _ => Reconnecting)
      fun _ => Tidy := by
  have quiet {op : Op} (keeps : op.keepsSettings = true) : Triple (coveredMachine site) () Sparing Reconnecting
      (perform op : Task (Reply op)) (fun _ => Reconnecting) fun _ => Tidy := by
    apply perform_reconnecting
    intro world after value performed token
    rw [performed.settings_eq keeps]
    exact token
  apply (perform_reconnecting resolveMachineFingerprint_token).bind
  intro fingerprint
  apply (quiet rfl).bind
  intro token
  exact quiet rfl

theorem Op.untouched {op : Op} (spares : op.sparesDaemons = true) {outcome : Except Failure (Reply op)}
    (performed : Performs site world op outcome after) (here : Untouched world) : Untouched after := by
  have same := performed.daemons_eq spares
  exact ⟨same.started.trans here.started, same.killed.trans here.killed⟩

theorem Untouched.keeps : (coveredMachine site).Keeps Untouched := by
  intro world after move here
  exact ⟨(Occurs.started move).trans here.started, (Occurs.killed move).trans here.killed⟩

/-- What spares the daemons starts none and ends none. -/
theorem triple_untouched {α : Type} {body : Task α} (spares : body.Issues fun op => op.sparesDaemons = true) :
    Triple (coveredMachine site) () Untouched Untouched body (fun _ => Untouched) fun _ => Untouched := by
  apply Triple.invariant Untouched.keeps _ spares
  intro op outcome world after spares performed here
  exact Op.untouched spares performed.1 here

theorem fetchNodeBundle_spares (connectivity : Option Value) :
    (fetchNodeBundle connectivity).Issues fun op => op.sparesDaemons = true := by
  refine Issues.bind (.perform rfl) fun settings => ?_
  split
  · refine Issues.bind (.perform rfl) fun fingerprint => ?_
    exact .perform rfl
  · trivial

/-- The bundle has been fetched without a daemon, or behind the stored tunnel. -/
theorem fetchBundle_fetched (fuel : Nat) :
    Triple (coveredMachine site) () Sparing Untouched (fetchBundle fuel) (fun _ => Fetched) fun _ => Tidy := by
  have untouched {α : Type} {body : Task α} (spares : body.Issues fun op => op.sparesDaemons = true) :
      Triple (coveredMachine site) () Sparing Untouched body (fun _ => Untouched) fun _ => Tidy := by
    apply (triple_untouched spares).consequence
    · intro _ here
      exact here
    · intro _ here
      exact here.tidy.spared
    · intro _ _ here
      exact here
    · intro _ _ here
      exact here.tidy
  apply (untouched (.perform rfl)).bind
  intro fingerprint
  apply (untouched (.perform rfl)).bind
  intro connectivity
  apply ((settings_reads Untouched.keeps fun _ here => here.tidy.spared).restrict (Covered site)).bind
  intro settings
  split
  · apply (untouched (fetchNodeBundle_spares connectivity)).consequence
    · intro _ here
      exact here.1
    · intro _ here
      exact here
    · intro _ _ here
      exact ⟨here.tidy.spared, fun alive => absurd alive here.tidy.stopped⟩
    · intro _ _ here
      exact here
  · next absent =>
    have behind : Triple (coveredMachine site) () Sparing
        (fun world => Tidy world ∧ truthy (world.settings .nodeToken) = false)
        (do ensurePersistedVpn fuel; fetchReconnectBundle connectivity) (fun _ => Reconnecting) fun _ => Tidy := by
      apply (ensurePersistedVpn_reconnecting fuel).bind
      intro _
      exact fetchReconnectBundle_reconnecting connectivity
    apply behind.consequence
    · intro world here
      rw [here.2]
      exact ⟨here.1.tidy, by simpa using absent⟩
    · intro _ here
      exact here
    · intro _ _ here
      exact ⟨here.sparing, fun _ => here.token⟩
    · intro _ _ here
      exact here

/-! ### The cleanup -/

/-- The fields are assigned. What fails here, fails before anything is left to clean up, or in front of the cleanup. -/
theorem applyFields_cleanable (bundle : Value) :
    Triple (coveredMachine site) () Sparing Fetched (perform (Op.applyFields bundle) : Task (Option String))
      (fun _ => Sparing) Cleanable := by
  apply Triple.perform Fetched.keeps
  · intro _ here
    exact here.sparing
  · intro _ world after here performed
    exact performed.1.sparing performed.2 here.sparing
  · intro failure world after here performed
    have same := performed.1.daemons_eq rfl
    have gone : ¬ Alive after := by
      intro alive
      have token := (performed.2.caught failure rfl alive).1
      rw [here.token (same.alive_iff.mp alive)] at token
      cases token
    exact ⟨same.sparing here.sparing, fun alive => absurd alive gone⟩
  · intro _
    exact Sparing.keeps
  · exact Cleanable.keeps
  · intro _ _ here
    exact here
  · intro _ _ here
    exact here.sparing

theorem applyNodeBundle_cleanable (fuel : Nat) (bundle : Value) :
    Triple (coveredMachine site) () Sparing Fetched (applyNodeBundle fuel bundle) (fun _ => Sparing) Cleanable := by
  apply (applyFields_cleanable bundle).bind
  intro profile
  exact installProfile_cleanable fuel profile

/-- The private key is written: what runs now can be cleaned up, or the config has a text. -/
structure KeyWritten (settings : Settings) (world : World) : Prop where
  sparing : Sparing world
  current : world.settings = settings
  dumped : Alive world → truthy (settings .nodeToken) = true ∨ Json.dumpable (.dict (persistedEntries settings))

theorem KeyWritten.keeps (settings : Settings) : (coveredMachine site).Keeps (KeyWritten settings) := by
  intro world after move here
  exact ⟨Occurs.sparing move here.sparing, (Occurs.settings move).trans here.current,
    fun alive => here.dumped (Occurs.alive move alive)⟩

/-- An operation that keeps the settings, where they are known. -/
theorem perform_current {op : Op} (quiet : op.keepsSettings = true) (settings : Settings) :
    Triple (coveredMachine site) () Sparing (fun world => Sparing world ∧ world.settings = settings)
      (perform op : Task (Reply op)) (fun _ world => Sparing world ∧ world.settings = settings) Cleanable := by
  have current := (@triple_quiet site _ _ (.perform quiet : (perform op : Task (Reply op)).Issues Quiet)
    fun found => found = settings).restrict (Covered site)
  apply ((perform_cleanable quiet).and current).consequence
  · intro _ here
    exact here
  · intro _ here
    exact here.1
  · intro _ _ here
    exact here
  · intro _ _ here
    exact here.1

theorem chmod_keyWritten (settings : Settings) :
    Triple (coveredMachine site) () Sparing (fun world => Sparing world ∧ world.settings = settings)
      (perform (Op.chmod persistedPrivateKeyPath) : Task Unit) (fun _ => KeyWritten settings) Cleanable := by
  have current : (coveredMachine site).Keeps fun world => Sparing world ∧ world.settings = settings := by
    intro world after move here
    exact ⟨Occurs.sparing move here.1, (Occurs.settings move).trans here.2⟩
  apply Triple.perform current
  · intro _ here
    exact here.1
  · intro _ world after here performed
    have same := performed.1.daemons_eq rfl
    constructor
    · exact same.sparing here.1
    · exact (performed.1.settings_eq rfl).trans here.2
    · intro alive
      rw [← here.2]
      exact performed.2.dumped rfl (same.alive_iff.mp alive)
  · intro failure world after here performed
    constructor
    · exact performed.1.sparing performed.2 here.1
    · intro alive
      rw [performed.1.settings_eq rfl]
      exact performed.2.caught failure rfl alive
  · intro _
    exact KeyWritten.keeps settings
  · exact Cleanable.keeps
  · intro _ _ here
    exact here.sparing
  · intro _ _ here
    exact here.sparing

theorem writeSecureText_cleanable (path content : String) :
    Triple (coveredMachine site) () Sparing Sparing (writeSecureText path content) (fun _ => Sparing) Cleanable := by
  apply (perform_cleanable rfl).bind
  intro _
  apply (perform_cleanable rfl).bind
  intro _
  exact perform_cleanable rfl

theorem persistRuntimeConfig_cleanable :
    Triple (coveredMachine site) () Sparing Sparing (persistRuntimeConfig site.runtime) (fun _ => Sparing)
      Cleanable := by
  apply ((settings_reads Sparing.keeps fun _ here => here).restrict (Covered site)).bind
  intro settings
  have writesKey (content : String) : Triple (coveredMachine site) () Sparing
      (fun world => Sparing world ∧ world.settings = settings) (writeSecureText persistedPrivateKeyPath content)
      (fun _ => KeyWritten settings) Cleanable := by
    apply (perform_current rfl settings).bind
    intro _
    apply (perform_current rfl settings).bind
    intro _
    exact chmod_keyWritten settings
  apply (writesKey _).bind
  intro _
  split
  · apply (writeSecureText_cleanable _ _).consequence
    · intro _ here
      exact here.sparing
    · intro _ here
      exact here
    · intro _ _ here
      exact here
    · intro _ _ here
      exact here
  · next unwritable =>
    apply Triple.raise (Cleanable.keeps _)
    · intro world here
      constructor
      · exact here.sparing
      · intro alive
        rw [here.current]
        exact ⟨(here.dumped alive).resolve_right unwritable, rfl⟩
    · intro _ here
      exact here.sparing

/-- The cleanup of a failure that it can answer for leaves nothing behind. -/
theorem cleanUp_tidy (failure : Failure) :
    Triple (coveredMachine site) () Sparing (Cleanable failure) (cleanUp failure) (fun _ => Sparing)
      fun _ => Tidy := by
  have raises {pre : World → Prop} (tidy : ∀ world, pre world → Tidy world) :
      Triple (coveredMachine site) () Sparing pre (.raise failure : Task Unit) (fun _ => Sparing) fun _ => Tidy := by
    apply Triple.raise Tidy.keeps tidy
    intro _ here
    exact here.spared
  unfold cleanUp
  split
  · apply ((settings_reads (Cleanable.keeps failure) fun _ here => here.sparing).restrict (Covered site)).bind
    intro settings
    split
    · have kills : Triple (coveredMachine site) () Sparing Sparing
          (do let _ : Bool ← perform Op.killOpenvpnDaemon; (.raise failure : Task Unit)) (fun _ => Sparing)
          fun _ => Tidy := by
        apply kill_tidies.bind
        intro _
        exact raises fun _ here => here
      apply kills.consequence
      · intro _ here
        exact here.1.sparing
      · intro _ here
        exact here
      · intro _ _ here
        exact here
      · intro _ _ here
        exact here
    · next absent =>
      apply raises
      intro world here
      constructor
      · intro alive
        have token := (here.1.caught alive).1
        rw [here.2] at token
        exact absent token
      · exact here.1.sparing
  · next fatal =>
    apply raises
    intro world here
    exact ⟨fun alive => fatal (here.caught alive).2, here.sparing⟩

/-- In every run of covered steps from a state in which the call has started and killed nothing, a failure
leaves no daemon that the call has started, and no other daemon was killed. -/
theorem connectSettings_tidy (site : Site) (fuel : Nat) (world last : World) (failure : Failure)
    (started : world.started = []) (killed : world.killed = [])
    (fails : Leads (coveredMachine site) () world (connectSettings site.runtime fuel) last (.raise failure)) :
    Tidy last := by
  have tidy : Triple (coveredMachine site) () Sparing Untouched (connectSettings site.runtime fuel)
      (fun _ => Sparing) fun _ => Tidy := by
    apply (fetchBundle_fetched fuel).bind
    intro bundle
    have applies : Triple (coveredMachine site) () Sparing Fetched
        (do applyNodeBundle fuel bundle; persistRuntimeConfig site.runtime) (fun _ => Sparing) Cleanable := by
      apply (applyNodeBundle_cleanable fuel bundle).bind
      intro _
      exact persistRuntimeConfig_cleanable
    apply applies.handle
    · intro _
      exact return_sparing _
    · exact cleanUp_tidy
  exact (tidy ⟨started, killed⟩ fails).2.2 failure rfl

namespace HalfStarted

/-- The server sends a profile; the daemon gets the process 7. -/
def rehearsal : Rehearsal where
  attempt := .answer (.dict [("qpu_id", .str "qpu"), ("native_gate_set", .str "cz"), ("num_qubits", .int 5),
    ("jwt_private_key", .str "key"), ("jwt_key_id", .str "id"), ("redis_url", .str "redis://host"),
    ("webapp_url", .str "https://host"),
    ("vpn", .dict [("required", .bool true), ("client_profile_ovpn", .str "client\n")])])
  pid := 7

/-- A new node with a token. -/
def newNode : World where
  settings := Settings.set Field.default .nodeToken (.str "token")
  files _ := none

/-- No file can be opened for writing. -/
def answerFull (world : World) : (op : Op) → Option (Except Failure (Reply op) × World)
  | .openForWriting _ => some (.error (.os "No space left on device"), world)
  | op => Rehearsal.answer .plain rehearsal world op

theorem answerFull_performs {op : Op} {outcome : Except Failure (Reply op)}
    (answered : answerFull world op = some (outcome, after)) : Performs .plain world op outcome after := by
  cases op with
  | openForWriting path =>
      cases answered
      exact .notOpened world path _
  | _ => exact @Rehearsal.performs _ rehearsal _ _ _ _ answered

/-- The step of a call with a node token is covered. -/
def covers (world : World) : (op : Op) → Except Failure (Reply op) → Bool
  | .killOpenvpnDaemon, .ok true =>
      world.running.all fun pid => decide (pid ∈ world.started ↔ Site.plain.hits world.files pid = true)
  | .killOpenvpnDaemon, _ => false
  | _, .ok _ => truthy (world.settings .nodeToken)
  | _, .error failure => truthy (world.settings .nodeToken) && failure.isException

theorem covered_of_covers {op : Op} {outcome : Except Failure (Reply op)} (passed : covers world op outcome = true) :
    Covered .plain world op outcome after := by
  cases op with
  | killOpenvpnDaemon =>
      cases outcome with
      | error failure => cases passed
      | ok signalled =>
          cases signalled with
          | false => cases passed
          | true =>
              simp only [covers, List.all_eq_true, decide_eq_true_eq] at passed
              constructor
              · intro failure impossible
                cases impossible
              · intro impossible
                cases impossible
              · intro _
                exact passed
              · intro _
                rfl
  | _ =>
      cases outcome with
      | ok value =>
          constructor
          · intro failure impossible
            cases impossible
          · intro _ _
            exact .inl passed
          · intro impossible
            cases impossible
          · intro _
            trivial
      | error failure =>
          simp only [covers, Bool.and_eq_true] at passed
          constructor
          · intro other same _
            cases same
            exact passed
          · intro _ _
            exact .inl passed.1
          · intro impossible
            cases impossible
          · intro _
            trivial

/-- The covered outcomes. -/
def answer (world : World) (op : Op) : Option (Except Failure (Reply op) × World) :=
  (answerFull world op).filter fun reply => covers world op reply.1

theorem answer_performs {op : Op} {outcome : Except Failure (Reply op)}
    (answered : answer world op = some (outcome, after)) :
    (coveredMachine .plain).perform () world op outcome after := by
  obtain ⟨full, passed⟩ := Option.filter_eq_some_iff.mp answered
  exact ⟨answerFull_performs full, covered_of_covers passed⟩

/-- The call raises, and has ended the daemon it has started. -/
def ended : Option (Except Failure Unit × World) → Bool
  | some (.error _, last) => last.started = [7] ∧ last.killed = [7]
  | _ => false

theorem newNode_ended : ended ((connectSettings Site.plain.runtime 1).solo answer newNode) = true := by decide +kernel

theorem newNode_fails : ∃ last failure, Leads (coveredMachine .plain) () newNode
    (connectSettings Site.plain.runtime 1) last (.raise failure) ∧ last.started = [7] ∧ last.killed = [7] := by
  have passed := newNode_ended
  unfold ended at passed
  split at passed
  · next failure last runs =>
    rw [decide_eq_true_eq] at passed
    exact ⟨last, failure, solo_leads answer_performs runs, passed⟩
  · cases passed

end HalfStarted

/-- The disk is full when a new node persists its settings: the daemon it has started is ended. -/
theorem connectSettings_tidy_newNode :
    ∃ last failure, Leads (coveredMachine .plain) () HalfStarted.newNode (connectSettings Site.plain.runtime 1) last
        (.raise failure) ∧ last.started = [7] ∧ Tidy last := by
  obtain ⟨last, failure, fails, started, -⟩ := HalfStarted.newNode_fails
  exact ⟨last, failure, fails, started,
    connectSettings_tidy .plain 1 HalfStarted.newNode last failure rfl rfl fails⟩

namespace HalfStarted

/-- A server that refuses the node. -/
def refusing : Rehearsal where
  attempt := .status 403 "forbidden" "Client error"
  pid := 7

/-- A node that has been provisioned behind a VPN, after a restart of its machine. -/
def restarted : World where
  settings := (Settings.set Field.default .jwtPrivateKey (.str "key")).set .jwtKeyId (.str "id")
  files := fun path =>
    if path = persistedConfigPath then some ⟨some "\x7b\x7d", ownerOnly⟩
    else if path = "/tmp/coda-node.ovpn" then some ⟨some "client\n", ownerOnly⟩
    else none

/-- A node with a new token while its daemon runs, and a server that sends an incomplete bundle. -/
def incomplete : Rehearsal where
  attempt := .answer (.dict [("qpu_id", .str "qpu")])
  pid := 7

def renewed : World where
  settings := Settings.set Field.default .nodeToken (.str "token")
  files := fun path => if path = openvpnPidPath then some ⟨some "5\n", 0o644⟩ else none
  running := [5]

theorem restarted_raises : Rehearsal.raises (fun _ last => last.started = [7] ∧ last.running = [7])
    (Rehearsal.run .plain refusing (connectSettings Site.plain.runtime 1) restarted) = true := by
  decide +kernel

theorem renewed_raises : Rehearsal.raises (fun _ last => last.started = [] ∧ last.killed = [5])
    (Rehearsal.run .plain incomplete (connectSettings Site.plain.runtime 1) renewed) = true := by
  decide +kernel

end HalfStarted

/-- A reconnect that is refused leaves the daemon it has started running, and a bundle that cannot be applied
ends a daemon that ran before the call. -/
theorem connectSettings_untidy :
    (∃ world last failure, world.started = [] ∧ world.killed = [] ∧
      Leads (nodeMachine .plain) () world (connectSettings Site.plain.runtime 1) last (.raise failure) ∧
      ∃ pid ∈ last.started, pid ∈ last.running) ∧
    ∃ world last failure, world.started = [] ∧ world.killed = [] ∧
      Leads (nodeMachine .plain) () world (connectSettings Site.plain.runtime 1) last (.raise failure) ∧
      ∃ pid ∈ world.running, pid ∉ last.started ∧ pid ∈ last.killed := by
  constructor
  · obtain ⟨failure, last, leads, left⟩ := Rehearsal.leads_of_raises HalfStarted.restarted_raises
    rw [decide_eq_true_eq] at left
    refine ⟨HalfStarted.restarted, last, failure, rfl, rfl, leads, 7, ?_, ?_⟩
    · rw [left.1]
      exact List.mem_cons_self
    · rw [left.2]
      exact List.mem_cons_self
  · obtain ⟨failure, last, leads, hit⟩ := Rehearsal.leads_of_raises HalfStarted.renewed_raises
    rw [decide_eq_true_eq] at hit
    refine ⟨HalfStarted.renewed, last, failure, rfl, rfl, leads, 5, List.mem_cons_self, ?_, ?_⟩
    · rw [hit.1]
      exact List.not_mem_nil
    · rw [hit.2]
      exact List.mem_cons_self

end CodaNode.Node
