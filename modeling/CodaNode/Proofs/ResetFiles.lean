/-
Module: CodaNode.Proofs.ResetFiles
Layer: Proofs
Purpose: What a reset leaves. It comes to its end and leaves none of the runtime files, nor a regular file that the
  config names, exactly when both PID files can be dealt with, the config can be read or is one of the faults that
  are caught, and every path, in its turn, leads to nothing or to what may be removed and printed.
Imports: CodaNode.Posix.Durable, CodaNode.Posix.Rehearsal, CodaNode.Posix.Reset
Main exports: Resettable, Resets, reset_decided, reset_clears_iff
-/
import CodaNode.Posix.Durable
import CodaNode.Posix.Rehearsal
import CodaNode.Posix.Reset

namespace CodaNode.Posix

open Coroutine Coro
open CodaNode.Node (persistedConfigPath)
open Unix (Below Place)

/-! ### Definitions -/

/-- The persisted config, or why it cannot be read. -/
def Host.config (host : Host) (files : Unix.Tree Content) : Except Failure Document :=
  match (host.entry files persistedConfigPath).readText with
  | .ok text => host.loads text
  | .error failure => .error failure

/-- A config that is not there, is read, or whose fault is caught. -/
def Readable (host : Host) (files : Unix.Tree Content) : Prop :=
  (∃ present, (host.entry files persistedConfigPath).exists = .ok present) ∧
    ((host.entry files persistedConfigPath).exists = .ok true →
      ∀ failure, host.config files = .error failure → failure.isOSError ∨ failure = .jsonDecodeError)

/-- The files a readable config names. -/
def Host.named (host : Host) (files : Unix.Tree Content) : List Path :=
  ((host.config files).toOption.map namedPaths).getD []

/-- The paths a reset goes through. -/
def Host.resetPaths (host : Host) (files : Unix.Tree Content) : List Path :=
  sortedPaths (fixedPaths ++ host.named files)

/-- The text has an encoding. -/
def Host.Prints (host : Host) (text : List Nat) : Prop := ∀ point ∈ text, host.printable point = true

/-- A path leads to what may be removed and printed, or to nothing and may be printed. -/
def Manageable (host : Host) (caller : Caller) (files : Unix.Tree Content) (path : Path) : Prop :=
  (host.entry files path).exists = .ok true ∧ host.Removes caller.user files false path ∧
      host.Prints (removedText path) ∨
    (host.entry files path).exists = .ok false ∧ host.Prints (notFoundText path)

/-- The files behind a path that has been dealt with. -/
def Host.past (host : Host) (files : Unix.Tree Content) (path : Path) : Unix.Tree Content :=
  match (host.entry files path).exists with
  | .ok true => host.without files path
  | _ => files

/-- Every path is manageable in its turn, with the ones in front of it removed. -/
inductive Passable (host : Host) (caller : Caller) : Unix.Tree Content → List Path → Prop where
  | nil (files : Unix.Tree Content) : Passable host caller files []
  | cons {files : Unix.Tree Content} {path : Path} {paths : List Path} (manageable : Manageable host caller files path)
      (behind : Passable host caller (host.past files path) paths) : Passable host caller files (path :: paths)

/-- The files when both processes have been stopped. -/
def Host.halted (host : Host) (files : Unix.Tree Content) : Unix.Tree Content := host.ended (host.stopped files)

/-- The files at the end of a reset. -/
def Host.reset (host : Host) (files : Unix.Tree Content) : Unix.Tree Content :=
  (host.resetPaths (host.halted files)).foldl host.past (host.halted files)

/-- The files a reset can deal with. A config that leads through a PID file may be gone with it. -/
structure Resettable (host : Host) (caller : Caller) (files : Unix.Tree Content) : Prop where
  daemon : Stoppable host caller files
  openvpn : Endable host caller (host.stopped files)
  config : Readable host (host.halted files)
  paths : Passable host caller (host.halted files) (host.resetPaths (host.halted files))
  named : ∀ path ∈ host.named files, path ∈ host.named (host.halted files) ∨
    ∀ content owner, host.entry (host.reset files) path ≠ .regular content owner

/-- None of the runtime files is there any more, nor a regular file that the config has named. -/
def Cleared (host : Host) (base world : World) : Prop :=
  (∀ path ∈ fixedPaths, (world.entry host path).exists = .ok false) ∧
    ∀ path ∈ host.named base.files, ∀ content owner, world.entry host path ≠ .regular content owner

/-- No run of the reset raises anything, it can always be run to its end, and at its end all is cleared. -/
def Resets (host : Host) (caller : Caller) (base : World) : Prop :=
  ∀ after rest, Leads (hostMachine host) caller base (reset host) after rest →
    (∀ failure, rest ≠ .raise failure) ∧
    (∃ last, Leads (hostMachine host) caller after rest last (.ret 0)) ∧
    ∀ code, rest = .ret code → Cleared host base after

variable {host : Host} {caller : Caller} {files : Unix.Tree Content} {path : Path}

/-! ### What has been removed -/

theorem Host.without_below : Below (host.without files path) files := by
  unfold Host.without
  split
  · exact Unix.Tree.without_below _
  · exact fun _ _ found => found

theorem Host.past_below : Below (host.past files path) files := by
  unfold Host.past
  split
  · exact Host.without_below
  · exact fun _ _ found => found

theorem Host.pasts_below (paths : List Path) : Below (paths.foldl host.past files) files := by
  induction paths generalizing files with
  | nil => exact fun _ _ found => found
  | cons path paths ih => exact ih.trans Host.past_below

/-- What is not there, is not there among fewer files. -/
theorem Host.absent_below {smaller larger : Unix.Tree Content} (below : Below smaller larger)
    (absent : (host.entry larger path).exists = .ok false) : (host.entry smaller path).exists = .ok false := by
  rcases @Host.entry_below host _ _ below path with same | nothing
  · rw [same]
    exact absent
  · rw [nothing]
    rfl

/-- An entry that is removed is no longer there. -/
theorem Host.removed_absent (removes : host.Removes caller.user files false path) :
    (host.entry (host.without files path) path).exists = .ok false := by
  obtain ⟨removed, done⟩ := removes
  unfold Host.unlink at done
  unfold Host.without Host.entry
  split at done
  · cases done
  · next place leads =>
    unfold Host.spot at leads ⊢
    obtain ⟨name, named, spot⟩ := Option.map_eq_some_iff.mp leads
    have missing := @Unix.Rules.spot_without Content host.rules files true name place spot
    rw [named, Option.map_some, Option.map_some, spot]
    dsimp only
    cases behind : host.rules.spot (files.without place) true name with
    | vacant other => rfl
    | lost => rfl
    | _ =>
        rw [behind] at missing
        cases missing
  all_goals cases done

theorem Manageable.absent (manageable : Manageable host caller files path) :
    (host.entry (host.past files path) path).exists = .ok false := by
  rcases manageable with ⟨present, removes, -⟩ | ⟨absent, -⟩
  · rw [Host.past, present]
    exact Host.removed_absent removes
  · rw [Host.past, absent]
    exact absent

/-- When all paths have been dealt with, none of them is there. -/
theorem Passable.absent {paths : List Path} (passable : Passable host caller files paths) (inside : path ∈ paths) :
    (host.entry (paths.foldl host.past files) path).exists = .ok false := by
  induction passable with
  | nil files => cases inside
  | @cons files first paths manageable behind ih =>
      rcases List.mem_cons.mp inside with rfl | later
      · exact Host.absent_below (Host.pasts_below paths) manageable.absent
      · exact ih later

theorem Entry.not_regular {entry : Entry} (absent : entry.exists = .ok false) (content : Content) (owner : Nat) :
    entry ≠ .regular content owner := by
  rintro rfl
  cases absent

/-! ### The parts of the reset -/

theorem print_decided (text : List Nat) :
    Decided (hostMachine host) caller (Files files) (perform (Op.print text) : Task Unit) (host.Prints text)
      fun _ => Files files where
  returns := by
    intro prints
    apply Triple.sure (Files.durable files).keeps
    · intro _ _
      trivial
    · intro _ _ _ _ performed
      cases performed with
      | notPrinted _ unencodable => exact unencodable prints
    · intro _ _ _ here performed
      cases performed
      exact here
    · intro _
      exact (Files.durable files).keeps
    · intro _ _ _
      trivial
  raises := by
    intro unencodable world _
    have start : Leads (hostMachine host) caller world (perform (Op.print text) : Task Unit) world _ := .refl
    exact ⟨world, _, start.call (Performs.notPrinted text unencodable)⟩

/-- A text of the program can be printed. -/
theorem print_ascii {text : List Nat} (ascii : ∀ point ∈ text, point < 128) :
    Decided (hostMachine host) caller (Files files) (perform (Op.print text) : Task Unit) True fun _ => Files files :=
  (print_decided text).congr (iff_true_intro fun point inside => host.ascii point (ascii point inside))

/-- What is there is removed, and what is not there is reported. -/
theorem removePresent_decided {present : Bool} (found : (host.entry files path).exists = .ok present) :
    Decided (hostMachine host) caller (Files files) (removePresent path present) (Manageable host caller files path)
      fun _ => Files (host.past files path) := by
  cases present with
  | true =>
      have kept : host.past files path = host.without files path := by
        rw [Host.past, found]
      rw [kept]
      have removes : Decided (hostMachine host) caller (Files files) (removePresent path true)
          (host.Removes caller.user files false path ∧ host.Prints (removedText path) ∧ True)
          fun _ => Files (host.without files path) :=
        (unlink_decided false).bind answers fun _ => (print_decided _).bind answers fun _ =>
          Files.gives true (fun _ here => here) fun _ _ => trivial
      apply removes.congr
      simp [Manageable, found]
  | false =>
      have kept : host.past files path = files := by
        rw [Host.past, found]
      rw [kept]
      have prints : Decided (hostMachine host) caller (Files files) (removePresent path false)
          (host.Prints (notFoundText path) ∧ True) fun _ => Files files :=
        (print_decided _).bind answers fun _ => Files.gives false (fun _ here => here) fun _ _ => trivial
      apply prints.congr
      simp [Manageable, found]

theorem removePath_decided (path : Path) :
    Decided (hostMachine host) caller (Files files) (removePath path) (Manageable host caller files path)
      fun _ => Files (host.past files path) := by
  have removes : Decided (hostMachine host) caller (Files files) (removePath path)
      ((∃ present, (host.entry files path).exists = .ok present) ∧ Manageable host caller files path)
      fun _ => Files (host.past files path) :=
    pathExists_decided.bind answers fun _ => Decided.given removePresent_decided
  apply removes.congr
  constructor
  · exact fun both => both.2
  · intro manageable
    refine ⟨?_, manageable⟩
    rcases manageable with ⟨present, -⟩ | ⟨absent, -⟩
    · exact ⟨true, present⟩
    · exact ⟨false, absent⟩

theorem removePaths_decided (removedAny : Bool) (paths : List Path) :
    Decided (hostMachine host) caller (Files files) (removePaths removedAny paths)
      (Passable host caller files paths) fun _ => Files (paths.foldl host.past files) := by
  induction paths generalizing files removedAny with
  | nil => exact Files.gives removedAny (fun _ here => here) fun _ _ => .nil files
  | cons path paths ih =>
      apply ((removePath_decided path).bind answers fun removed => ih (removedAny || removed)).congr
      constructor
      · exact fun both => .cons both.1 both.2
      · rintro (_ | ⟨manageable, behind⟩)
        exact ⟨manageable, behind⟩

/-- The config is read, or its fault is caught. -/
theorem readConfig_decided :
    Decided (hostMachine host) caller (Files files) (readConfig host)
      (∀ failure, host.config files = .error failure → failure.isOSError ∨ failure = .jsonDecodeError)
      fun data world => Files files world ∧ namedPaths data = host.named files := by
  have kept (data : Document) : (hostMachine host).Keeps fun world =>
      Files files world ∧ namedPaths data = host.named files := (Files.durable files).keeps.also _
  have reads : Triple (hostMachine host) caller (fun _ => True) (Files files)
      (do
        let text : String ← perform (Op.readText persistedConfigPath)
        ofExcept (host.loads text) : Task Document)
      (fun data world => Files files world ∧ host.config files = .ok data)
      fun failure world => Files files world ∧ host.config files = .error failure := by
    have texts : Triple (hostMachine host) caller (fun _ => True) (Files files)
        (perform (Op.readText persistedConfigPath) : Task String)
        (fun text world => Files files world ∧ (host.entry files persistedConfigPath).readText = .ok text)
        fun failure world => Files files world ∧ host.config files = .error failure := by
      apply (readText_reads (Files.durable files).keeps (Files.entry persistedConfigPath)).consequence
      · intro _ here
        exact here
      · intro _ _
        trivial
      · intro _ _ here
        exact here
      · intro failure _ here
        exact ⟨here.1, by rw [Host.config, here.2]⟩
    apply texts.bind
    intro text
    apply (Triple.ofExcept ((Files.durable files).keeps.also _)).consequence
    · intro _ here
      exact here
    · intro _ _
      trivial
    · intro data _ here
      refine ⟨here.1.1, ?_⟩
      rw [Host.config, here.1.2]
      exact here.2
    · intro failure _ here
      refine ⟨here.1.1, ?_⟩
      rw [Host.config, here.1.2]
      exact here.2
  apply Decided.handle answers reads
  · intro data
    apply Decided.ret (kept data)
    · intro _ here
      exact ⟨here.1, by rw [Host.named, here.2]; rfl⟩
    · intro _ here failure failed
      rw [here.2] at failed
      cases failed
  · intro failure
    by_cases caught : failure.isOSError ∨ failure = .jsonDecodeError
    · rw [if_pos caught]
      apply Decided.ret (kept _)
      · intro _ here
        exact ⟨here.1, by rw [Host.named, here.2]; rfl⟩
      · intro _ here other failed
        rw [here.2] at failed
        cases failed
        exact caught
    · rw [if_neg caught]
      apply Decided.raise
      intro _ here readable
      exact caught (readable failure here.2)

theorem named_absent (absent : (host.entry files persistedConfigPath).exists = .ok false) : host.named files = [] := by
  have unread : ∃ failure, (host.entry files persistedConfigPath).readText = .error failure := by
    cases found : host.entry files persistedConfigPath <;> rw [found] at absent <;>
      first | exact ⟨_, rfl⟩ | cases absent
  obtain ⟨failure, unread⟩ := unread
  rw [Host.named, Host.config, unread]
  rfl

/-- `_read_reset_paths` returns the paths of the files it finds. -/
theorem readResetPaths_decided :
    Decided (hostMachine host) caller (Files files) (readResetPaths host) (Readable host files)
      fun paths world => Files files world ∧ paths = host.resetPaths files := by
  have kept (paths : List Path) : (hostMachine host).Keeps fun world =>
      Files files world ∧ paths = host.resetPaths files := (Files.durable files).keeps.also _
  apply pathExists_decided.bind answers
  intro persisted
  apply Decided.given
  intro found
  cases persisted with
  | true =>
      have reads : Decided (hostMachine host) caller (Files files)
          (do
            let data ← readConfig host
            return sortedPaths (fixedPaths ++ namedPaths data))
          ((∀ failure, host.config files = .error failure → failure.isOSError ∨ failure = .jsonDecodeError) ∧ True)
          fun paths world => Files files world ∧ paths = host.resetPaths files := by
        apply readConfig_decided.bind answers
        intro data
        apply Decided.ret (kept _)
        · intro _ here
          exact ⟨here.1, by rw [here.2, Host.resetPaths]⟩
        · intro _ _
          trivial
      apply reads.congr
      simp [found]
  | false =>
      apply Decided.ret (kept _)
      · intro _ here
        exact ⟨here, by rw [Host.resetPaths, named_absent found, List.append_nil]⟩
      · intro _ _ present
        rw [found] at present
        cases present

/-! ### The reset -/

theorem conclude_decided (removedAny : Bool) :
    Decided (hostMachine host) caller (Files files) (conclude removedAny) True
      fun code world => Files files world ∧ code = 0 := by
  have gives : Decided (hostMachine host) caller (Files files) (.ret 0 : Task Nat) True
      fun code world => Files files world ∧ code = 0 := by
    apply Decided.ret
    · exact (Files.durable files).keeps.also _
    · intro _ here
      exact ⟨here, rfl⟩
    · intro _ _
      trivial
  cases removedAny with
  | true => exact gives
  | false => exact (print_ascii (by decide +kernel)).behind answers fun _ => gives

/-- A reset raises nothing exactly when each of its parts can deal with the files that it finds. -/
theorem reset_decided :
    Decided (hostMachine host) caller (Files files) (reset host)
      (Stoppable host caller files ∧ Endable host caller (host.stopped files) ∧ Readable host (host.halted files) ∧
        Passable host caller (host.halted files) (host.resetPaths (host.halted files)))
      fun code world => Files (host.reset files) world ∧ code = 0 := by
  apply (print_ascii (by decide +kernel)).behind answers
  intro _
  apply (stopDaemon_decided 10).bind answers
  intro stopped
  apply (print_ascii (by cases stopped <;> decide +kernel)).behind answers
  intro _
  apply killOpenvpnDaemon_decided.bind answers
  intro killed
  apply (print_ascii (by cases killed <;> decide +kernel)).behind answers
  intro _
  apply readResetPaths_decided.bind answers
  intro paths
  apply Decided.given
  rintro rfl
  exact ((removePaths_decided false _).bind answers conclude_decided).congr (Iff.of_eq (and_true _))

theorem fixed_mem (inside : path ∈ fixedPaths) : path ∈ host.resetPaths files :=
  mem_sortedPaths.mpr (List.mem_append_left _ inside)

theorem named_mem (inside : path ∈ host.named files) : path ∈ host.resetPaths files :=
  mem_sortedPaths.mpr (List.mem_append_right _ inside)

/-- The files that a resettable world is left with. -/
theorem Resettable.cleared {base world : World} (resettable : Resettable host caller base.files)
    (here : Files (host.reset base.files) world) : Cleared host base world := by
  have absent (path : Path) (inside : path ∈ host.resetPaths (host.halted base.files)) :
      (world.entry host path).exists = .ok false := by
    rw [Files.entry path world here]
    exact resettable.paths.absent inside
  constructor
  · intro path inside
    exact absent path (fixed_mem inside)
  · intro path inside content owner
    rcases resettable.named path inside with still | elsewhere
    · exact Entry.not_regular (absent path (named_mem still)) content owner
    · rw [Files.entry path world here]
      exact elsewhere content owner

/-- A reset comes to its end and clears everything, in all runs, exactly in the resettable worlds. -/
theorem reset_clears_iff (host : Host) (caller : Caller) (base : World) :
    Resets host caller base ↔ Resettable host caller base.files := by
  have decided := @reset_decided host caller base.files
  have start : Files base.files base := rfl
  constructor
  · intro resets
    have ends : ∀ last rest, Leads (hostMachine host) caller base (reset host) last rest →
        (∀ failure, rest ≠ .raise failure) ∧
          ∃ after code, Leads (hostMachine host) caller last rest after (.ret code) := by
      intro last rest leads
      obtain ⟨quiet, ⟨after, further⟩, -⟩ := resets last rest leads
      exact ⟨quiet, after, 0, further⟩
    have fine := (decided.iff answers start).mp ends
    refine ⟨fine.1, fine.2.1, fine.2.2.1, fine.2.2.2, ?_⟩
    obtain ⟨-, ⟨last, leads⟩, -⟩ := resets base (reset host) .refl
    obtain ⟨-, returned, -⟩ := decided.returns fine start leads
    intro path inside
    right
    intro content owner
    rw [← Files.entry path last (returned 0 rfl).1]
    exact ((resets last _ leads).2.2 0 rfl).2 path inside content owner
  · intro resettable after rest leads
    have fine : Stoppable host caller base.files ∧ Endable host caller (host.stopped base.files) ∧
        Readable host (host.halted base.files) ∧
        Passable host caller (host.halted base.files) (host.resetPaths (host.halted base.files)) :=
      ⟨resettable.daemon, resettable.openvpn, resettable.config, resettable.paths⟩
    obtain ⟨quiet, last, code, further⟩ := (decided.iff answers start).mpr fine after rest leads
    obtain ⟨-, returned, -⟩ := decided.returns fine start (leads.trans further)
    obtain ⟨-, rfl⟩ := returned code rfl
    refine ⟨quiet, ⟨last, further⟩, ?_⟩
    intro other ended
    exact resettable.cleared ((decided.returns fine start leads).2.1 other ended).1

/-! ### A config that names a directory -/

/-- A persisted config whose VPN profile is the temporary directory. -/
def Sample.directory : World :=
  .plain [(persistedConfigPath, .regular (.text "\x7b\"node_vpn_profile_path\": \"/tmp\"\x7d") 1)] [] 1

/-- The reset raises in front of all files, and the config stays. -/
theorem reset_blocked :
    ∃ last, Leads (hostMachine Host.plain) (Caller.plain 1) Sample.directory (reset .plain) last
        (.raise .isADirectoryError) ∧
      last.entry .plain persistedConfigPath ≠ .nothing :=
  ⟨Rehearsal.left .plain (.plain 1) 5000 (reset .plain) Sample.directory,
    @Rehearsal.leads .plain (.plain 1) 5000 Nat (reset .plain) Sample.directory (.error .isADirectoryError)
      (by decide +kernel),
    by decide +kernel⟩

end CodaNode.Posix
