/-
Module: CodaNode.Posix.Recorded
Layer: Posix
Purpose: What a PID file records, and what the functions that read one return. Reading changes nothing, so
  whatever the exits of processes leave alone holds before and after it.
Imports: CodaNode.Coroutine.Passage, CodaNode.Posix.Daemon
Main exports: Entry.readInt, World.recorded, Host.entry_below, Host.entry_put, readInt_reads, readDaemonPid_reads,
  Performs.log_cases
-/
import CodaNode.Coroutine.Passage
import CodaNode.Posix.Daemon

namespace CodaNode.Posix

open Coroutine Coro
open Unix (Place)
open CodaNode.Node (openvpnPidPath)

variable {host : Host} {caller : Caller}

/-- The process id in a file, or why there is none. -/
def Entry.readInt (entry : Entry) : Except Failure Int :=
  match entry.readText with
  | .ok text => parsePid text
  | .error failure => .error failure

/-- The process a PID file records. -/
def World.recorded (world : World) (host : Host) (path : Path) : Option Int :=
  (world.entry host path).readInt.toOption

theorem World.recorded_eq_some {world : World} {path : Path} {pid : Int} :
    world.recorded host path = some pid ↔ (world.entry host path).readInt = .ok pid := by
  unfold World.recorded
  cases (world.entry host path).readInt with
  | ok found => simp [Except.toOption]
  | error failure => simp [Except.toOption]

/-- A text without carriage returns is read as it stands. -/
theorem Entry.readInt_text {text : String} (plain : '\r' ∉ text.toList) (owner : Nat) :
    (Entry.regular (.text text) owner).readInt = parsePid text := by
  simp only [Entry.readInt, Entry.readText, Content.read, Python.universalNewlines_of_plain plain, String.ofList_toList]

theorem parsePid_ok {text : String} {pid : Int} : parsePid text = .ok pid ↔ pidOf text = some pid := by
  unfold parsePid
  cases pidOf text with
  | some found => simp
  | none => simp

theorem parsePid_error {text : String} {failure : Failure} (parsed : parsePid text = .error failure) :
    failure = .valueError := by
  unfold parsePid at parsed
  cases found : pidOf text with
  | some pid =>
      rw [found] at parsed
      cases parsed
  | none =>
      rw [found] at parsed
      cases parsed
      rfl

/-- A file that records a process is a text. -/
theorem Entry.readInt_ok {entry : Entry} {pid : Int} (read : entry.readInt = .ok pid) :
    ∃ text, entry.readText = .ok text ∧ parsePid text = .ok pid ∧ entry.exists = .ok true := by
  unfold Entry.readInt at read
  split at read
  · next text found =>
    refine ⟨text, found, read, ?_⟩
    cases entry <;> first | rfl | cases found
  · cases read

/-- Whatever a PID file is, reading it raises nothing that `read_daemon_pid` does not catch, or does not return. -/
theorem Entry.readInt_error {entry : Entry} {failure : Failure} (read : entry.readInt = .error failure) :
    failure.isValueError ∨ failure.isOSError ∨ failure = .blocked := by
  have reads {content : Content} (failed : content.read = .error failure) :
      failure.isValueError ∨ failure.isOSError ∨ failure = .blocked := by
    cases content <;> cases failed
    · exact .inl rfl
    · exact .inr (.inl rfl)
    · exact .inr (.inl rfl)
    · exact .inr (.inr rfl)
  unfold Entry.readInt at read
  split at read
  · rw [parsePid_error read]
    exact .inl rfl
  · next raised failed =>
    cases read
    cases entry with
    | regular content owner => exact reads failed
    | special content owner => exact reads failed
    | nameless =>
        cases failed
        exact .inl rfl
    | _ =>
        cases failed
        exact .inr (.inl rfl)

/-- What is not there records nothing. -/
theorem Entry.readInt_absent {entry : Entry} (absent : entry.exists = .ok false) :
    ∃ failure, entry.readInt = .error failure ∧ failure ≠ .blocked := by
  cases entry with
  | nothing => exact ⟨_, rfl, by decide⟩
  | twisted => exact ⟨_, rfl, by decide⟩
  | nameless => exact ⟨_, rfl, by decide⟩
  | _ => cases absent

/-- It can be asked whether something is there, and reading it comes to an end. -/
def Entry.Checkable (entry : Entry) : Prop :=
  (∃ present, entry.exists = .ok present) ∧ entry.readInt ≠ .error .blocked

/-! ### Files that change -/

/-- With fewer entries a path leads where it led, or to nothing. -/
theorem Host.entry_below {smaller larger : Unix.Tree Content} (below : Unix.Below smaller larger) (path : Path) :
    host.entry smaller path = host.entry larger path ∨ host.entry smaller path = .nothing := by
  unfold Host.entry Host.spot
  cases path.bytes with
  | none => exact .inl rfl
  | some name =>
      rcases @Unix.Rules.spot_below Content host.rules smaller true larger below name with same | missing
      · rw [Option.map_some, Option.map_some, same]
        cases leads : host.rules.spot larger true name with
        | entry place =>
            cases found : smaller place with
            | none => exact absurd found (Unix.Rules.spot_entry (same.trans leads))
            | some inode => exact .inl (by simp only [found, below place inode found])
        | _ => exact .inl rfl
      · right
        rw [Option.map_some]
        cases leads : host.rules.spot smaller true name with
        | vacant place => rfl
        | lost => rfl
        | _ =>
            rw [leads] at missing
            cases missing

/-- With a regular file put somewhere a path leads where it led, or to that file, or through it. -/
theorem Host.entry_put {files : Unix.Tree Content} {place : Place} (plain : Unix.Rules.Plain files place)
    (content : Content) (owner : Nat) (path : Path) :
    host.entry (files.put place content owner) path = host.entry files path ∨
      host.entry (files.put place content owner) path = .regular content owner ∨
      host.entry (files.put place content owner) path = .twisted := by
  unfold Host.entry Host.spot
  cases path.bytes with
  | none => exact .inl rfl
  | some name =>
      rw [Option.map_some, Option.map_some]
      rcases @Unix.Rules.spot_put Content host.rules files true place plain content owner name with
        same | ⟨-, after⟩ | ⟨-, after⟩
      · rw [same]
        cases host.rules.spot files true name with
        | entry other =>
            by_cases here : other = place
            · right
              left
              simp only [here, Unix.Tree.put_self]
            · left
              have kept : files.put place content owner other = files other := if_neg here
              simp only [kept]
        | _ => exact .inl rfl
      · right
        left
        simp only [after, Unix.Tree.put_self]
      · right
        right
        rw [after]

theorem Host.spot_vacant {files : Unix.Tree Content} {path : Path} {place : Place}
    (vacant : host.spot files true path = some (.vacant place)) : files place = none := by
  unfold Host.spot at vacant
  obtain ⟨name, -, leads⟩ := Option.map_eq_some_iff.mp vacant
  have ends := @Unix.Rules.spot_ends Content host.rules files true name
  rw [leads] at ends
  exact ends

theorem Host.opens_plain {user owner : Nat} {files : Unix.Tree Content} {path : Path} {place : Place}
    (opens : host.opens user files path = some (place, owner)) : Unix.Rules.Plain files place := by
  unfold Host.opens at opens
  split at opens
  · next other leads =>
    split at opens
    · next content owner' found =>
      cases opens
      exact .inr ⟨content, owner, found⟩
    · cases opens
  · next other vacant =>
    cases opens
    exact .inl (Host.spot_vacant vacant)
  · cases opens

theorem World.recorded_remove {world : World} {place : Place} {path : Path} {pid : Int}
    (recorded : (world.remove place).recorded host path = some pid) : world.recorded host path = some pid := by
  unfold World.recorded World.entry World.remove at *
  rcases @Host.entry_below host _ _ (Unix.Tree.without_below place) path with same | nothing
  · rw [← same]
    exact recorded
  · rw [nothing] at recorded
    cases recorded

theorem World.recorded_put {world : World} {place : Place} {content : Content} {owner : Nat} {path : Path} {pid : Int}
    (plain : Unix.Rules.Plain world.files place)
    (recorded : (world.put place content owner).recorded host path = some pid) :
    world.recorded host path = some pid ∨ (Entry.regular content owner).readInt = .ok pid := by
  unfold World.recorded World.entry World.put at *
  rcases @Host.entry_put host _ _ plain content owner path with same | here | twisted
  · rw [← same]
    exact .inl recorded
  · rw [here] at recorded
    right
    cases read : (Entry.regular content owner).readInt with
    | ok found =>
        rw [read] at recorded
        exact congrArg Except.ok (Option.some.inj recorded)
    | error failure =>
        rw [read] at recorded
        cases recorded
  · rw [twisted] at recorded
    cases recorded

/-! ### One call -/

theorem Occurs.files {world after : World} (occurs : Occurs world after) : after.files = world.files := by
  cases occurs <;> rfl

theorem Performs.pathExists_inv {world after : World} {path : Path} {outcome : Except Failure Bool}
    (performed : Performs host caller world (.pathExists path) outcome after) :
    outcome = (world.entry host path).exists ∧ after = world := by
  cases performed
  exact ⟨rfl, rfl⟩

theorem Performs.readText_inv {world after : World} {path : Path} {outcome : Except Failure String}
    (performed : Performs host caller world (.readText path) outcome after) :
    outcome = (world.entry host path).readText ∧ after = world := by
  cases performed
  exact ⟨rfl, rfl⟩

/-- What a call records. -/
theorem Performs.log_cases {world after : World} {op : Op} {outcome : Except Failure (Reply op)}
    (performed : Performs host caller world op outcome after) :
    (∃ pid signal, op = .kill pid signal ∧
      after.log = world.log ++ [.signalled pid signal (decide (pid ∈ world.live))]) ∨
      (∃ pid, after.log = world.log ++ [.spawned pid]) ∨ after.log = world.log := by
  cases performed with
  | kill pid signal outcome after kills => exact .inl ⟨pid, signal, rfl, by cases kills <;> rfl⟩
  | spawned command environ pid positive fits fresh => exact .inr (.inl ⟨pid, rfl⟩)
  | _ => exact .inr (.inr rfl)

theorem Occurs.log_cases {world after : World} (occurs : Occurs world after) :
    (∃ pid, after.log = world.log ++ [.exited pid]) ∨ after.log = world.log := by
  cases occurs with
  | exit pid alive => exact .inl ⟨pid, rfl⟩
  | time later passes => exact .inr rfl

/-! ### Reading -/

section

variable {holds : World → Prop} {entry : Entry} {path : Path}

/-- `path.exists()`. -/
theorem pathExists_reads (kept : (hostMachine host).Keeps holds)
    (found : ∀ world, holds world → world.entry host path = entry) :
    Triple (hostMachine host) caller holds holds (perform (Op.pathExists path) : Task Bool)
      (fun value world => holds world ∧ entry.exists = .ok value)
      fun failure world => holds world ∧ entry.exists = .error failure := by
  apply Triple.reads kept
  intro outcome world after here performed
  exact found world here ▸ performed.pathExists_inv

/-- `path.read_text()`. -/
theorem readText_reads (kept : (hostMachine host).Keeps holds)
    (found : ∀ world, holds world → world.entry host path = entry) :
    Triple (hostMachine host) caller holds holds (perform (Op.readText path) : Task String)
      (fun value world => holds world ∧ entry.readText = .ok value)
      fun failure world => holds world ∧ entry.readText = .error failure := by
  apply Triple.reads kept
  intro outcome world after here performed
  exact found world here ▸ performed.readText_inv

/-- `int(path.read_text().strip())`. -/
theorem readInt_reads (kept : (hostMachine host).Keeps holds)
    (found : ∀ world, holds world → world.entry host path = entry) :
    Triple (hostMachine host) caller holds holds (readInt path)
      (fun value world => holds world ∧ entry.readInt = .ok value)
      fun failure world => holds world ∧ entry.readInt = .error failure := by
  have reads : Triple (hostMachine host) caller holds holds (perform (Op.readText path) : Task String)
      (fun text world => holds world ∧ entry.readText = .ok text)
      fun failure world => holds world ∧ entry.readInt = .error failure := by
    apply (readText_reads kept found).consequence
    · intro _ here
      exact here
    · intro _ here
      exact here
    · intro _ _ here
      exact here
    · intro failure world here
      exact ⟨here.1, by rw [Entry.readInt, here.2]⟩
  apply reads.bind
  intro text
  apply (Triple.ofExcept (kept.also (entry.readText = .ok text))).consequence
  · intro _ here
    exact here
  · intro _ here
    exact here.1
  · intro value world here
    exact ⟨here.1.1, by rw [Entry.readInt, here.1.2]; exact here.2⟩
  · intro failure world here
    exact ⟨here.1.1, by rw [Entry.readInt, here.1.2]; exact here.2⟩

/-- `read_daemon_pid` returns what the PID file records; it raises only where the place is barred, and does not come
to its end where nobody writes to a pipe. -/
theorem readDaemonPid_reads (kept : (hostMachine host).Keeps holds)
    (found : ∀ world, holds world → world.entry host daemonPidPath = entry) :
    Triple (hostMachine host) caller holds holds readDaemonPid
      (fun value world => holds world ∧ value = entry.readInt.toOption)
      fun _ world => holds world ∧ ¬ entry.Checkable := by
  have checks : Triple (hostMachine host) caller holds holds (perform (Op.pathExists daemonPidPath) : Task Bool)
      (fun value world => holds world ∧ entry.exists = .ok value) fun _ world => holds world ∧ ¬ entry.Checkable := by
    apply (pathExists_reads kept found).consequence
    · intro _ here
      exact here
    · intro _ here
      exact here
    · intro _ _ here
      exact here
    · intro failure _ here
      refine ⟨here.1, fun checkable => ?_⟩
      obtain ⟨present, answered⟩ := checkable.1
      rw [here.2] at answered
      cases answered
  apply checks.bind
  intro present
  cases present with
  | true =>
      have reads : Triple (hostMachine host) caller holds
          (fun world => holds world ∧ entry.exists = .ok true) (readInt daemonPidPath)
          (fun value world => holds world ∧ entry.readInt = .ok value)
          fun failure world => holds world ∧ entry.readInt = .error failure := by
        apply (readInt_reads kept found).consequence
        · intro _ here
          exact here.1
        · intro _ here
          exact here
        · intro _ _ here
          exact here
        · intro _ _ here
          exact here
      apply (reads.bind _).handle
      · intro value
        apply Triple.ret (kept.also _)
        · intro _ here
          exact here
        · intro _ here
          exact here.1
      · intro failure
        by_cases caught : failure.isValueError ∨ failure.isOSError
        · rw [if_pos caught]
          apply Triple.ret (kept.also _)
          · intro _ here
            exact ⟨here.1, by rw [here.2]; rfl⟩
          · intro _ here
            exact here.1
        · rw [if_neg caught]
          apply Triple.raise (kept.also _)
          · intro _ here
            refine ⟨here.1, fun checkable => ?_⟩
            rcases Entry.readInt_error here.2 with value | os | rfl
            · exact caught (.inl value)
            · exact caught (.inr os)
            · exact checkable.2 here.2
          · intro _ here
            exact here.1
      · intro value
        apply Triple.ret (kept.also _)
        · intro _ here
          exact ⟨here.1, by rw [here.2]; rfl⟩
        · intro _ here
          exact here.1
  | false =>
      apply Triple.ret (kept.also _)
      · intro world here
        obtain ⟨failure, read, -⟩ := Entry.readInt_absent here.2
        exact ⟨here.1, by rw [read]; rfl⟩
      · intro _ here
        exact here.1

end

/-! ### Runs that read -/

section

variable {world : World} {pid : Int}

theorem readInt_leads {path : Path} (here : world.recorded host path = some pid) :
    Leads (hostMachine host) caller world (readInt path) world (.ret pid) := by
  obtain ⟨text, read, parsed, -⟩ := Entry.readInt_ok (World.recorded_eq_some.mp here)
  have performed : Performs host caller world (.readText path) (.ok text) world := read ▸ .readText path
  have first : Leads (hostMachine host) caller world (perform (Op.readText path) : Task String) world (.ret text) :=
    .perform performed
  have second : (ofExcept (parsePid text) : Task Int) = .ret pid := by
    rw [parsed]
    rfl
  exact second ▸ first.returns fun text => ofExcept (parsePid text)

theorem pathExists_performs {path : Path} (here : world.recorded host path = some pid) :
    Performs host caller world (.pathExists path) (.ok true) world := by
  obtain ⟨text, -, -, present⟩ := Entry.readInt_ok (World.recorded_eq_some.mp here)
  exact present ▸ .pathExists path

theorem readDaemonPid_leads (here : world.recorded host daemonPidPath = some pid) :
    Leads (hostMachine host) caller world readDaemonPid world (.ret (some pid)) := by
  have checked : Leads (hostMachine host) caller world readDaemonPid world _ :=
    .call .refl (pathExists_performs here)
  exact checked.trans (((readInt_leads here).returns _).handle _ _)

end

end CodaNode.Posix
