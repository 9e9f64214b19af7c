/-
Module: CodaNode.Proofs.GuardReports
Layer: Proofs
Purpose: What the guard reports. The values passed to `on_change` follow the readiness of the guard: they
  alternate, and the last one agrees with it. A change of the state between two failing checks, from
  `DEGRADED` to `VPN_UNAVAILABLE`, is not reported.
Imports: CodaNode.Node.Guard, Mathlib.Data.List.Chain
Main exports: Reported, watch_reported_iff, watch_alternates
-/
import CodaNode.Node.Guard
import Mathlib.Data.List.Chain

namespace CodaNode.Node

variable {guard : VPNGuard} {check : Check} {checks : List Check} {state : ServiceState}

/-! ### Unreported changes -/

/-- The callback was invoked if and only if the state has changed, with the new state. -/
def Iteration.Reported (iteration : Iteration) : Prop :=
  iteration.reported = if iteration.after = iteration.before then none else some iteration.after

/-- No two failing checks in a row. -/
def NoRelapse (guard : VPNGuard) (checks : List Check) : Prop :=
  checks.IsChain fun first second => guard.passes first ∨ guard.passes second

/-- No check fails directly behind one that has degraded the guard. -/
def Steady (guard : VPNGuard) (checks : List Check) : ServiceState → Prop
  | .vpnUnavailable => NoRelapse guard (checks.dropWhile fun check => !guard.passes check)
  | .degraded => (∀ check ∈ checks.head?, guard.passes check) ∧ NoRelapse guard checks
  | _ => NoRelapse guard checks

theorem noRelapse_cons_of_passes (passes : guard.passes check = true) :
    NoRelapse guard (check :: checks) ↔ NoRelapse guard checks := by
  unfold NoRelapse
  cases checks with
  | nil => simp
  | cons next rest => simp [List.isChain_cons_cons, passes]

theorem noRelapse_cons_of_fails (fails : guard.passes check = false) :
    NoRelapse guard (check :: checks) ↔ Steady guard checks .degraded := by
  unfold Steady NoRelapse
  cases checks with
  | nil => simp
  | cons next rest => simp [List.isChain_cons_cons, fails]

/-- One iteration reports its change, unless it is the second failure in a row. -/
theorem iterate_reported_iff (started : state ≠ .booting) :
    (guard.iterate state check).Reported ↔ (state = .degraded → guard.passes check) := by
  rw [iterate_eq]
  unfold Iteration.Reported reportOf stateAfter
  cases guard.passes check <;> cases state <;> simp at started ⊢

/-- What is left of the condition behind one check. -/
theorem steady_cons (started : state ≠ .booting) :
    Steady guard (check :: checks) state ↔
      (state = .degraded → guard.passes check) ∧
        Steady guard checks (stateAfter state (guard.passes check)) := by
  cases passes : guard.passes check with
  | true =>
      have rest : NoRelapse guard (check :: checks) ↔ NoRelapse guard checks :=
        noRelapse_cons_of_passes passes
      cases state with
      | booting => exact absurd rfl started
      | vpnUnavailable => simp [Steady, stateAfter, passes, rest]
      | ready => simp [Steady, stateAfter, rest]
      | degraded => simp [Steady, stateAfter, passes, rest]
  | false =>
      have rest : NoRelapse guard (check :: checks) ↔ Steady guard checks .degraded :=
        noRelapse_cons_of_fails passes
      cases state with
      | booting => exact absurd rfl started
      | vpnUnavailable => simp [Steady, stateAfter, passes]
      | ready => simpa [Steady, stateAfter] using rest
      | degraded => simp [Steady, passes]

/-- Every change of the state is reported exactly when no check fails behind one that has degraded the
guard. -/
theorem watch_reported_iff (guard : VPNGuard) (initial : ServiceState) (started : initial ≠ .booting)
    (checks : List Check) :
    (∀ iteration ∈ guard.watch initial checks, iteration.Reported) ↔ Steady guard checks initial := by
  induction checks generalizing initial with
  | nil => cases initial <;> simp [VPNGuard.watch, Steady, NoRelapse]
  | cons check checks ih =>
      have later : stateAfter initial (guard.passes check) ≠ .booting := by
        unfold stateAfter
        split
        · decide
        · split <;> decide
      have behind : (guard.iterate initial check).after = stateAfter initial (guard.passes check) := by
        rw [iterate_eq]
      rw [VPNGuard.watch, List.forall_mem_cons, behind, ih _ later, iterate_reported_iff started,
        steady_cons started]

namespace GuardReports

/-- A guard that needs the VPN and has no targets. -/
def tunnelled : VPNGuard := ⟨[], true, fun _ => none⟩

/-- A check that finds no interface. -/
def down : Check := ⟨none, fun _ => true, fun _ => (true, none)⟩

/-- A check that finds one. -/
def up : Check := ⟨some "tun0", fun _ => true, fun _ => (true, none)⟩

end GuardReports

/-- A failure and a recovery are reported. -/
theorem watch_reported_recovery :
    reports (GuardReports.tunnelled.watch .ready [GuardReports.down, GuardReports.up]) = [.degraded, .ready] ∧
      ∀ iteration ∈ GuardReports.tunnelled.watch .ready [GuardReports.down, GuardReports.up],
        iteration.Reported := by
  constructor
  · decide
  · exact (watch_reported_iff GuardReports.tunnelled .ready (by decide) _).mpr
      (.cons_cons (.inr rfl) (.singleton _))

/-- The second failure in a row turns `DEGRADED` into `VPN_UNAVAILABLE` without a report. -/
theorem watch_unreported :
    ∃ iteration ∈ GuardReports.tunnelled.watch .ready [GuardReports.down, GuardReports.down],
      iteration.before = .degraded ∧ iteration.after = .vpnUnavailable ∧ iteration.reported = none ∧
        ¬ iteration.Reported := by
  refine ⟨⟨.degraded, ⟨false, false, [], "No VPN tunnel interface detected"⟩, none, .vpnUnavailable⟩, ?_,
    rfl, rfl, rfl, ?_⟩
  · decide
  · simp [Iteration.Reported]

/-! ### The reports follow the readiness -/

/-- The value that stands for a state in the reports. -/
def marker (state : ServiceState) : ServiceState := if state.isReady then .ready else .degraded

theorem stateAfter_isReady (previous : ServiceState) (ok : Bool) : (stateAfter previous ok).isReady = ok := by
  cases ok <;> cases previous <;> rfl

theorem stateAfter_started (previous : ServiceState) (ok : Bool) : stateAfter previous ok ≠ .booting := by
  cases ok <;> cases previous <;> decide

theorem marker_isReady (state : ServiceState) : (marker state).isReady = state.isReady := by
  cases state <;> rfl

/-- An iteration reports the new marker when it has changed. -/
theorem reportOf_marker {previous : ServiceState} (started : previous ≠ .booting) (ok : Bool) :
    reportOf previous ok =
      if marker (stateAfter previous ok) = marker previous then none
      else some (marker (stateAfter previous ok)) := by
  cases ok <;> cases previous <;> first | rfl | exact absurd rfl started

theorem watch_isReady (checks : List Check) (state : ServiceState) :
    ∀ iteration ∈ guard.watch state checks, iteration.after.isReady = iteration.status.ok := by
  induction checks generalizing state with
  | nil => simp [VPNGuard.watch]
  | cons check checks ih =>
      rw [VPNGuard.watch, List.forall_mem_cons]
      refine ⟨?_, ih _⟩
      rw [iterate_eq]
      exact stateAfter_isReady state _

theorem endState_cons {iteration : Iteration} {iterations : List Iteration} :
    endState state (iteration :: iterations) = endState iteration.after iterations := by
  unfold endState
  rw [List.getLast?_cons, Option.map_some, Option.getD_some]
  cases iterations.getLast? <;> rfl

/-- Behind the marker of its first state, the reports of a run change with every value and end with the
marker of its last state. -/
theorem watch_markers (guard : VPNGuard) (checks : List Check) {state : ServiceState} (started : state ≠ .booting) :
    (marker state :: reports (guard.watch state checks)).IsChain (· ≠ ·) ∧
      (marker state :: reports (guard.watch state checks)).getLast? =
        some (marker (endState state (guard.watch state checks))) := by
  induction checks generalizing state with
  | nil => exact ⟨.singleton _, rfl⟩
  | cons check checks ih =>
      obtain ⟨chain, last⟩ := ih (stateAfter_started state (guard.passes check))
      have shape : reports (guard.watch state (check :: checks)) =
          (reportOf state (guard.passes check)).toList ++
            reports (guard.watch (stateAfter state (guard.passes check)) checks) := by
        rw [VPNGuard.watch, reports, iterate_eq, List.filterMap_cons]
        cases reportOf state (guard.passes check) <;> rfl
      have ends : endState state (guard.watch state (check :: checks)) =
          endState (stateAfter state (guard.passes check))
            (guard.watch (stateAfter state (guard.passes check)) checks) := by
        rw [VPNGuard.watch, endState_cons, iterate_eq]
      rw [shape, ends, reportOf_marker started]
      by_cases same : marker (stateAfter state (guard.passes check)) = marker state
      · rw [if_pos same, ← same]
        exact ⟨chain, last⟩
      · rw [if_neg same]
        refine ⟨.cons_cons (Ne.symm same) chain, ?_⟩
        rw [← last]
        rfl

theorem marker_cases (state : ServiceState) : marker state = .ready ∨ marker state = .degraded := by
  cases state <;> decide

theorem mem_reports (checks : List Check) {state : ServiceState} (started : state ≠ .booting) :
    ∀ value ∈ reports (guard.watch state checks), value = .ready ∨ value = .degraded := by
  intro value inside
  obtain ⟨iteration, member, reported⟩ := List.mem_filterMap.mp inside
  clear inside
  induction checks generalizing state with
  | nil => cases member
  | cons check checks ih =>
      rw [VPNGuard.watch, iterate_eq] at member
      rcases List.mem_cons.mp member with rfl | later
      · dsimp only at reported
        rw [reportOf_marker started] at reported
        split at reported
        · cases reported
        · cases reported
          exact marker_cases _
      · exact ih (stateAfter_started _ _) later

/-- The readiness that the reports of a run stand for, given the outcome of the preflight. -/
def lastReport (opened : Bool) (iterations : List Iteration) : Bool :=
  (((reports iterations).getLast?).map ServiceState.isReady).getD opened

theorem watch_take (checks : List Check) (state : ServiceState) (count : Nat) :
    (guard.watch state checks).take count = guard.watch state (checks.take count) := by
  induction checks generalizing state count with
  | nil => simp [VPNGuard.watch]
  | cons check checks ih =>
      cases count with
      | zero => rfl
      | succ count => rw [VPNGuard.watch, List.take_succ_cons, List.take_succ_cons, VPNGuard.watch, ih]

theorem watch_lastReport (checks : List Check) {state : ServiceState} (started : state ≠ .booting) :
    (endState state (guard.watch state checks)).isReady =
      lastReport state.isReady (guard.watch state checks) := by
  obtain ⟨-, last⟩ := watch_markers guard checks started
  rw [List.getLast?_cons] at last
  have same := Option.some.inj last
  unfold lastReport
  rw [← marker_isReady, ← same]
  cases (reports (guard.watch state checks)).getLast? with
  | none => exact marker_isReady state
  | some value => rfl

/-- From the preflight on, at the end of every iteration the guard is ready when its latest check has
passed, the reports so far alternate, and the last one agrees with the readiness, as does the preflight when
there is none. -/
theorem watch_alternates (guard : VPNGuard) (first : Check) (checks : List Check) (count : Nat) :
    let opened := guard.preflight first
    let run := (guard.watch opened.2 checks).take count
    (∀ iteration ∈ run, iteration.after.isReady = iteration.status.ok) ∧
      (∀ value ∈ reports run, value = .ready ∨ value = .degraded) ∧ (reports run).IsChain (· ≠ ·) ∧
      (endState opened.2 run).isReady = lastReport opened.1.ok run := by
  intro opened run
  have started : opened.2 ≠ .booting := by
    change (guard.preflight first).2 ≠ .booting
    rw [preflight_state]
    split <;> decide
  have outcome : opened.1.ok = opened.2.isReady := by
    change guard.passes first = (guard.preflight first).2.isReady
    rw [preflight_state]
    cases guard.passes first <;> rfl
  have same : run = guard.watch opened.2 (checks.take count) := watch_take checks opened.2 count
  rw [same, outcome]
  refine ⟨watch_isReady _ _, mem_reports _ started, ?_, watch_lastReport _ started⟩
  obtain ⟨chain, -⟩ := watch_markers guard (checks.take count) started
  exact chain.tail

end CodaNode.Node
