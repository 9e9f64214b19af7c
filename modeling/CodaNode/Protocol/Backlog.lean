/-
Module: CodaNode.Protocol.Backlog
Layer: Protocol
Purpose: Which deliveries of earlier batches are under way at each stage of the loop. The loop awaits the
  stored delivery between a read and the dispatch, so while it dispatches, recovers or rechecks, every
  background task has ended.
Imports: CodaNode.Protocol.Crew, CodaNode.Protocol.Loop
Main exports: Policy.Patient, Backlog.Owed, Backlog.Held, Backlog.held_step
-/
import CodaNode.Protocol.Crew
import CodaNode.Protocol.Loop

namespace CodaNode

open Coroutine

/-- The wait for a delivery is not interrupted. -/
def Policy.Patient (policy : Policy) : Prop := ∀ number exception, ¬ policy.fault (.awaitTask number) exception

namespace Backlog

/-! ### Who owes what -/

/-- The task delivers a batch. -/
def gathers : Post → Bool
  | .gather _ _ _ _ => true
  | .single _ _ _ => false

/-- The task was to deliver a batch and has failed. -/
def failed : Post → Bool
  | .gather _ _ _ (.past (.error _)) => true
  | _ => false

/-- Every delivery but this one has succeeded. -/
structure Owed (posts : List Post) (pending : Option Nat) : Prop where
  others : ∀ post ∈ posts, gathers post = true →
    post.ending = some (.ok ()) ∨ pending = some post.number
  stored : ∀ number, pending = some number → ∃ post ∈ posts, gathers post = true ∧ post.number = number

/-- The delivery the loop has still to await, stage by stage. -/
def Held (attrs : Attrs) (posts : List Post) : LoopStage → Prop
  | .enter | .setup | .startUp _ | .idle | .due _ | .recheck _ _ | .checked _ | .each _ _ _ | .batch _ _ =>
      attrs.pendingBatchDelivery = none ∧ Owed posts none
  | .store number => attrs.pendingBatchDelivery = none ∧ Owed posts (some number)
  | .await number _ => attrs.pendingBatchDelivery = some number ∧ Owed posts (some number)
  | .forget _ => Owed posts none
  | _ => Owed posts attrs.pendingBatchDelivery

theorem Owed.post {self : Consumer} {before after created : List Post} {post later : Post} {op : Op}
    {outcome : Except Exc op.Reply} {pending : Option Nat} (row : Post.Move self post op outcome later)
    (singles : ∀ other ∈ created, gathers other = false)
    (owed : Owed (before ++ post :: after) pending) :
    Owed (before ++ later :: after ++ created) pending := by
  have kind : gathers later = gathers post := by cases row <;> rfl
  constructor
  · intro other member gather
    rcases List.mem_append.mp member with old | new
    · rcases List.mem_append.mp old with front | back
      · exact owed.others other (List.mem_append_left _ front) gather
      · rcases List.mem_cons.mp back with rfl | behind
        · refine .inr ?_
          rw [row.number_eq]
          rcases owed.others post (by simp) (kind ▸ gather) with done | here
          · rw [row.ending_eq.1] at done
            cases done
          · exact here
        · exact owed.others other (List.mem_append_right _ (List.mem_cons_of_mem _ behind)) gather
    · rw [singles other new] at gather
      cases gather
  · intro number here
    obtain ⟨other, member, gather, same⟩ := owed.stored number here
    rcases List.mem_append.mp member with front | back
    · exact ⟨other, List.mem_append_left _ (List.mem_append_left _ front), gather, same⟩
    · rcases List.mem_cons.mp back with rfl | behind
      · exact ⟨later, by simp, kind.trans gather, row.number_eq.trans same⟩
      · exact ⟨other, List.mem_append_left _ (List.mem_append_right _ (List.mem_cons_of_mem _ behind)),
          gather, same⟩

/-- A delivery that has been awaited with success is no longer owed. -/
theorem Owed.done {world : World} {stage : LoopStage} {posts : List Post} {number : Nat}
    (roster : Crew.Roster ⟨world, stage, posts⟩) (found : world.outcomeOf number = some (.ok ()))
    (owed : Owed posts (some number)) : Owed posts none := by
  obtain ⟨post, member, same, ended, -⟩ := roster.post_of_outcome found
  refine ⟨fun other listed gather => .inl ?_, fun _ never => by cases never⟩
  rcases owed.others other listed gather with done | here
  · exact done
  · have here := Option.some.inj here
    rw [← roster.unique member listed (same.trans here)]
    exact ended

/-- The stored delivery has failed if awaiting it raises. -/
theorem Owed.failed {world : World} {stage : LoopStage} {posts : List Post} {number : Nat}
    {exception : Exc} (roster : Crew.Roster ⟨world, stage, posts⟩)
    (found : world.outcomeOf number = some (.error exception)) (owed : Owed posts (some number)) :
    posts.any Backlog.failed = true := by
  obtain ⟨post, member, same, ended, -⟩ := roster.post_of_outcome found
  obtain ⟨other, listed, gather, number_⟩ := owed.stored number rfl
  obtain rfl := roster.unique listed member (number_.trans same.symm)
  apply List.any_eq_true.mpr
  refine ⟨other, listed, ?_⟩
  cases other with
  | single number delivery stage => cases gather
  | gather number parsed results stage =>
      cases stage with
      | past ending =>
          cases ended
          rfl
      | _ => cases ended

/-- Nothing has failed once nothing is owed. -/
theorem Owed.sound {posts : List Post} (owed : Owed posts none) : posts.any Backlog.failed = false := by
  apply List.any_eq_false.mpr
  intro post member
  cases post with
  | single number delivery stage => simp [Backlog.failed]
  | gather number parsed results stage =>
      have ended := (owed.others _ member rfl).resolve_right (by simp)
      cases stage with
      | past ending =>
          cases ended
          simp [Backlog.failed]
      | _ => cases ended

/-! ### The rows of the loop -/

section Rows

variable {self : Consumer} {policy : Policy} {world next : World} {op : Op} {outcome : Except Exc op.Reply}
variable {fate : Fate}

theorem created_eq_nil (other : ∀ spec, op ≠ .createTask spec) : world.created op = [] := by
  cases op with
  | createTask spec => exact absurd rfl (other spec)
  | _ => rfl

/-- A wait for a delivery is not interrupted. -/
theorem awaitTask_performs (patient : policy.Patient) {number : Nat}
    {outcome : Except Exc (Op.awaitTask number).Reply}
    (performs : World.Performs policy world (.awaitTask number) outcome fate next) :
    next = world ∧ world.outcomeOf number = some outcome := by
  cases performs with
  | answered _ effect =>
      simp only [World.effect] at effect
      split at effect
      · rename_i same
        cases effect
        exact ⟨rfl, same⟩
      · cases effect
  | lost _ admitted | executed _ admitted => exact (patient _ _ admitted).elim

theorem pending_inner (inner : op.Inner) (performs : World.Performs policy world op outcome fate next) :
    next.attrs.pendingBatchDelivery = world.attrs.pendingBatchDelivery := by
  obtain ⟨idle, current, last, attrs⟩ := World.quiet_of_inner inner performs
  rw [attrs]

theorem owed_of_none {attrs : Attrs} {posts : List Post} (free : attrs.pendingBatchDelivery = none)
    (owed : Owed posts none) : Owed posts attrs.pendingBatchDelivery := by
  rw [free]
  exact owed

theorem held_caught {attrs : Attrs} {posts : List Post} (exception : Exc)
    (owed : Owed posts attrs.pendingBatchDelivery) : Held attrs posts (.caught exception) := by
  unfold LoopStage.caught
  split
  · exact owed
  · split <;> exact owed

theorem held_handling {attrs : Attrs} {posts : List Post} (messages : List StreamMessage)
    (free : attrs.pendingBatchDelivery = none) (owed : Owed posts none) :
    Held attrs posts (.handling messages) := by
  cases messages with
  | nil => exact owed_of_none free owed
  | cons message rest => exact ⟨free, owed⟩

theorem held_dispatching {attrs : Attrs} {posts : List Post} (messages : List StreamMessage)
    (free : attrs.pendingBatchDelivery = none) (owed : Owed posts none) :
    Held attrs posts (.dispatching self messages) := by
  unfold LoopStage.dispatching
  split
  · exact ⟨free, owed⟩
  · split
    · exact ⟨free, owed⟩
    · exact held_handling messages free owed

theorem held_row (patient : policy.Patient) {stage later : LoopStage} {posts : List Post}
    (row : LoopStage.Move self stage op outcome later)
    (performs : World.Performs policy world op outcome fate next)
    (roster : Crew.Roster ⟨world, stage, posts⟩) (held : Held world.attrs posts stage) :
    Held next.attrs (posts ++ world.created op) later := by
  have alone {other : Op} (ofRecovery : other.ofRecovery = true) : world.created other = [] := by
    apply created_eq_nil
    rintro spec rfl
    cases ofRecovery
  cases row with
  | @startUp stage _ _ later row =>
      have kept := pending_inner row.inner performs
      rw [alone row.ofRecovery, List.append_nil]
      have free : next.attrs.pendingBatchDelivery = none := kept.trans held.1
      refine RecoveryStage.within_cases (motive := Held next.attrs posts) ?_ ?_ ?_
      · exact fun _ => ⟨free, held.2⟩
      · exact fun _ => owed_of_none free held.2
      · exact fun _ _ => owed_of_none free held.2
  | @recheck now stage _ _ later row =>
      have kept := pending_inner row.inner performs
      rw [alone row.ofRecovery, List.append_nil]
      have free : next.attrs.pendingBatchDelivery = none := kept.trans held.1
      refine RecoveryStage.within_cases (motive := Held next.attrs posts) ?_ ?_ ?_
      · exact fun _ => ⟨free, held.2⟩
      · exact fun _ => ⟨free, held.2⟩
      · exact fun exception _ => held_caught exception (owed_of_none free held.2)
  | @each message stage rest _ _ later row =>
      have kept := pending_inner row.inner performs
      rw [alone (Op.ofRecovery_of_ofMessage row.ofMessage), List.append_nil]
      have free : next.attrs.pendingBatchDelivery = none := kept.trans held.1
      refine Stage.within_cases (motive := Held next.attrs posts) ?_ ?_ ?_
      · exact fun _ => ⟨free, held.2⟩
      · exact fun _ => held_handling rest free held.2
      · exact fun exception _ => held_caught exception (owed_of_none free held.2)
  | @batch messages stage _ _ later row =>
      have free : next.attrs.pendingBatchDelivery = none := (pending_inner row.inner performs).trans held.1
      by_cases spawns : ∃ spec, op = .createTask spec
      · obtain ⟨spec, rfl⟩ := spawns
        cases row with
        | @spawn parsed results number =>
            obtain ⟨same, -, rfl⟩ := World.createTask_performs performs
            refine ⟨free, ?_, ?_⟩
            · intro post member gather
              rcases List.mem_append.mp member with old | new
              · exact .inl ((held.2.others post old gather).resolve_right (by simp))
              · rw [List.mem_singleton.mp new]
                exact .inr (congrArg some (Except.ok.inj same))
            · intro other same'
              refine ⟨_, List.mem_append_right _ (List.mem_singleton_self _), rfl, ?_⟩
              exact (Except.ok.inj same).symm.trans (Option.some.inj same')
        | process row => cases row.ofMessage
      · rw [created_eq_nil fun spec same => spawns ⟨spec, same⟩, List.append_nil]
        refine BatchStage.within_cases (motive := Held next.attrs posts) ?_ ?_ ?_
        · exact fun _ => ⟨free, held.2⟩
        · intro delivery ended
          cases delivery with
          | none => exact owed_of_none free held.2
          | some number =>
              exact (row.delivers (fun spec same => spawns ⟨spec, same⟩) number ended).elim
        · exact fun exception _ => held_caught exception (owed_of_none free held.2)
  | hang => exact (World.feasible_of_performs performs rfl).elim fun never => by cases never
  | @peek messages attrs =>
      obtain ⟨same, rfl⟩ := World.attrs_performs performs
      obtain rfl := Except.ok.inj same
      rw [created_eq_nil (by simp), List.append_nil]
      cases pending : next.attrs.pendingBatchDelivery with
      | some number => exact ⟨pending, pending ▸ held⟩
      | none => exact held_dispatching messages pending (pending ▸ held)
  | @await number messages outcome =>
      obtain ⟨rfl, found⟩ := awaitTask_performs patient performs
      rw [created_eq_nil (by simp), List.append_nil]
      cases outcome with
      | ok value => exact held.2.done roster found
      | error exception => exact held_caught exception (held.1 ▸ held.2)
  | forget =>
      rw [World.modify_performs performs, created_eq_nil (by simp), List.append_nil]
      exact held_dispatching _ rfl held
  | store =>
      rw [World.modify_performs performs, created_eq_nil (by simp), List.append_nil]
      exact held.2
  | enter | reset | stamp | healthy | calm | down | count =>
      rw [World.modify_performs performs, created_eq_nil (by simp), List.append_nil]
      exact held
  | checked =>
      rw [World.modify_performs performs, created_eq_nil (by simp), List.append_nil]
      exact owed_of_none held.1 held.2
  | idle =>
      rw [World.attrs_of_performs performs (by simp), created_eq_nil (by simp), List.append_nil]
      exact held
  | due =>
      rw [World.attrs_of_performs performs (by simp), created_eq_nil (by simp), List.append_nil]
      split
      · exact held
      · exact owed_of_none held.1 held.2
  | @read outcome =>
      rw [World.attrs_of_performs performs (by simp), created_eq_nil (by simp), List.append_nil]
      cases outcome with
      | ok messages => exact held
      | error exception => exact held_caught exception held
  | @setup outcome =>
      rw [World.attrs_of_performs performs (by simp), created_eq_nil (by simp), List.append_nil]
      unfold LoopStage.grouped
      split
      · exact held
      · split
        · exact held
        · exact owed_of_none held.1 held.2
  | @top attrs =>
      rw [World.attrs_of_performs performs (by simp), created_eq_nil (by simp), List.append_nil]
      split <;> exact held
  | @reread attrs =>
      rw [World.attrs_of_performs performs (by simp), created_eq_nil (by simp), List.append_nil]
      unfold LoopStage.waiting
      split <;> exact held
  | clock | warn =>
      rw [World.attrs_of_performs performs (by simp), created_eq_nil (by simp), List.append_nil]
      exact held
  | @backOff _ outcome | @pause outcome =>
      rw [World.attrs_of_performs performs (by simp), created_eq_nil (by simp), List.append_nil]
      cases outcome <;> exact held

end Rows

/-- The background tasks create tasks for one result only. -/
theorem single_created {self : Consumer} {world : World} {post later : Post} {op : Op}
    {outcome : Except Exc op.Reply} (row : Post.Move self post op outcome later) :
    ∀ other ∈ world.created op, gathers other = false := by
  cases row with
  | single row => cases row <;> exact fun _ member => by cases member
  | gather row =>
      cases row with
      | spawn =>
          intro other member
          rw [List.mem_singleton.mp member]
          rfl
      | _ => exact fun _ member => by cases member

/-- Every step keeps track of the deliveries. -/
theorem held_step {self : Consumer} {policy : Policy} (patient : policy.Patient)
    {first second : Crew LoopStage} (step : Crew.Step self policy (LoopStage.Move self) first second)
    (roster : first.Roster) (held : Held first.world.attrs first.posts first.main) :
    Held second.world.attrs second.posts second.main := by
  cases step with
  | @env world next stage posts event _ occurs =>
      have pending : next.attrs.pendingBatchDelivery = world.attrs.pendingBatchDelivery := by
        rw [World.attrs_of_occur occurs]
        split <;> rfl
      change Held next.attrs posts stage
      cases stage <;> (simp only [Held, pending] at held ⊢; exact held)
  | @main world next stage later posts op outcome fate row performs =>
      rw [World.recordCall_attrs]
      exact held_row patient row performs roster held
  | @post world next stage before after post later op outcome fate row performs =>
      obtain ⟨idle, current, last, attrs⟩ := World.quiet_of_inner row.inner performs
      have pending : (next.recordCall post.role op outcome fate).attrs.pendingBatchDelivery =
          world.attrs.pendingBatchDelivery := by
        rw [World.recordCall_attrs, attrs]
      have owed {pending : Option Nat} (owed : Owed (before ++ post :: after) pending) :
          Owed (before ++ later :: after ++ world.created op) pending :=
        owed.post row (single_created row)
      cases stage with
      | enter | setup | startUp | idle | due | recheck | checked | each | batch | store | await =>
          exact ⟨pending.trans held.1, owed held.2⟩
      | forget => exact owed held
      | _ =>
          simp only [Held, pending]
          exact owed held

/-! ### The tasks for single results -/

/-- The task for a batch still waits for the task of this number, or it has failed. -/
def awaits (number : Nat) : GatherStage → Prop
  | .spawn _ numbers _ _ | .gather _ numbers => number ∈ numbers
  | .release (.error _) | .finish (.error _) | .past (.error _) => True
  | _ => False

/-- A task for one result that has not succeeded belongs to a batch that has not succeeded either. -/
def Tended (posts : List Post) : Prop :=
  ∀ number delivery stage, .single number delivery stage ∈ posts → stage ≠ .past (.ok ()) →
    ∃ batch parsed results waiting, .gather batch parsed results waiting ∈ posts ∧ awaits number waiting

theorem awaits_spawning {nowIso : String} {numbers : List Nat} {todo : List Delivery} {number : Nat}
    (member : number ∈ numbers) : awaits number (.spawning nowIso numbers todo) := by
  cases todo <;> exact member

/-- While nothing is owed, every background task has succeeded. -/
theorem Owed.over {posts : List Post} (owed : Owed posts none) (tended : Tended posts) :
    ∀ post ∈ posts, post.ending = some (.ok ()) := by
  have gathered {post : Post} (member : post ∈ posts) (gather : gathers post = true) :
      post.ending = some (.ok ()) := (owed.others post member gather).resolve_right (by simp)
  intro post member
  cases post with
  | gather => exact gathered member rfl
  | single number delivery stage =>
      by_cases done : stage = .past (.ok ())
      · rw [done]
        rfl
      · obtain ⟨batch, parsed, results, waiting, listed, awaited⟩ := tended number delivery stage member done
        have ended := gathered listed rfl
        cases waiting with
        | past outcome =>
            cases ended
            exact awaited.elim
        | _ => cases ended

section Tended

variable {self : Consumer} {policy : Policy} {world next : World} {op : Op} {outcome : Except Exc op.Reply}
variable {fate : Fate}

/-- The wait of a batch ends well only if all tasks have. -/
theorem gather_performs {numbers : List Nat}
    (performs : World.Performs policy world (.gather numbers) (.ok ()) fate next) :
    ∀ number ∈ numbers, world.outcomeOf number = some (.ok ()) := by
  cases performs with
  | answered _ effect =>
      simp only [World.effect] at effect
      split at effect
      · assumption
      · cases effect

/-- The rows of a batch keep to the tasks that have not succeeded. -/
theorem awaits_row {batch : Nat} {parsed : List ParsedJob} {results : List ExecutionResult}
    {waiting later : GatherStage} (row : GatherStage.Move batch parsed results waiting op outcome later)
    (performs : World.Performs policy world op outcome fate next) {number : Nat}
    (unfinished : world.outcomeOf number ≠ some (.ok ())) (awaited : awaits number waiting) :
    awaits number later := by
  cases row with
  | spawn => exact awaits_spawning (List.mem_append_left _ awaited)
  | @gather nowIso numbers outcome =>
      cases outcome with
      | ok value => exact absurd (gather_performs performs number awaited) unfinished
      | error exception => trivial
  | @release ending | @finish ending =>
      cases ending with
      | ok value => exact awaited.elim
      | error exception => trivial
  | start | clock | stamp => exact awaited.elim

theorem Tended.post {stage : LoopStage} {before after : List Post} {post later : Post}
    (row : Post.Move self post op outcome later)
    (performs : World.Performs policy world op outcome fate next)
    (roster : Crew.Roster ⟨world, stage, before ++ post :: after⟩)
    (tended : Tended (before ++ post :: after)) :
    Tended (before ++ later :: after ++ world.created op) := by
  -- a task for one result that has not succeeded has not stored a success
  have unfinished {number : Nat} {delivery : Delivery} {single : SingleStage}
      (member : .single number delivery single ∈ before ++ post :: after)
      (running : single ≠ .past (.ok ())) : world.outcomeOf number ≠ some (.ok ()) := by
    intro ended
    obtain ⟨other, listed, same, ending, -⟩ := roster.post_of_outcome ended
    rw [roster.unique listed member same] at ending
    cases single with
    | past outcome =>
        cases ending
        exact running rfl
    | _ => cases ending
  -- the batch that waits for it is still there, and still waits
  have kept {number : Nat} {delivery : Delivery} {single : SingleStage}
      (member : .single number delivery single ∈ before ++ post :: after)
      (running : single ≠ .past (.ok ())) :
      ∃ batch parsed results waiting,
        .gather batch parsed results waiting ∈ before ++ later :: after ++ world.created op ∧
          awaits number waiting := by
    obtain ⟨batch, parsed, results, waiting, listed, awaited⟩ := tended number delivery single member running
    rcases List.mem_append.mp listed with front | back
    · exact ⟨batch, parsed, results, waiting, by simp [front], awaited⟩
    · rcases List.mem_cons.mp back with rfl | behind
      · cases row with
        | @gather _ _ _ _ _ _ moved row =>
            exact ⟨batch, parsed, results, moved, by simp,
              awaits_row row performs (unfinished member running) awaited⟩
      · exact ⟨batch, parsed, results, waiting, by simp [behind], awaited⟩
  intro number delivery single member running
  rcases List.mem_append.mp member with old | new
  · rcases List.mem_append.mp old with front | back
    · exact kept (List.mem_append_left _ front) running
    · rcases List.mem_cons.mp back with rfl | behind
      · cases row with
        | @single _ _ earlier _ _ _ row =>
            apply kept (List.mem_append_right before List.mem_cons_self)
            rintro rfl
            cases row
      · exact kept (List.mem_append_right _ (List.mem_cons_of_mem _ behind)) running
  · cases row with
    | single row => cases row <;> cases new
    | @gather batch parsed results _ _ _ _ row =>
        cases row with
        | @spawn nowIso numbers delivery todo fresh =>
            obtain ⟨same, -, -⟩ := World.createTask_performs performs
            cases List.mem_singleton.mp new
            cases same
            have listed : world.tasks.length ∈ numbers ++ [world.tasks.length] := by simp
            refine ⟨batch, parsed, results, .spawning nowIso (numbers ++ [world.tasks.length]) todo, ?_,
              awaits_spawning listed⟩
            exact List.mem_append_left _ (List.mem_append_right _ List.mem_cons_self)
        | _ => cases new

/-- The loop creates tasks for batches only. -/
theorem gathers_created {stage later : LoopStage} (row : LoopStage.Move self stage op outcome later) :
    ∀ post ∈ world.created op, gathers post = true := by
  have none_ {other : Op} (ofRecovery : other.ofRecovery = true) :
      ∀ post ∈ world.created other, gathers post = true := by
    cases other with
    | createTask => cases ofRecovery
    | _ => exact fun _ member => by cases member
  cases row with
  | startUp row | recheck row => exact none_ row.ofRecovery
  | each row => exact none_ (Op.ofRecovery_of_ofMessage row.ofMessage)
  | batch row =>
      cases row with
      | spawn =>
          intro post member
          rw [List.mem_singleton.mp member]
          rfl
      | process row => exact none_ (Op.ofRecovery_of_ofMessage row.ofMessage)
      | _ => exact fun _ member => by cases member
  | _ => exact fun _ member => by cases member

/-- Every step keeps the tasks for single results with their batches. -/
theorem tended_step {first second : Crew LoopStage}
    (step : Crew.Step self policy (LoopStage.Move self) first second) (roster : first.Roster)
    (tended : Tended first.posts) : Tended second.posts := by
  cases step with
  | env => exact tended
  | main row performs =>
      intro number delivery single member running
      rcases List.mem_append.mp member with old | new
      · obtain ⟨batch, parsed, results, waiting, listed, awaited⟩ := tended number delivery single old running
        exact ⟨batch, parsed, results, waiting, List.mem_append_left _ listed, awaited⟩
      · cases gathers_created row _ new
  | post row performs => exact tended.post row performs roster

end Tended

/-- What is known of the background tasks at every stage of the loop. -/
structure Kept (crew : Crew LoopStage) : Prop where
  roster : crew.Roster
  held : Held crew.world.attrs crew.posts crew.main
  tended : Tended crew.posts

theorem Kept.start (world : World) (fresh : world.tasks = []) (idle : world.attrs.pendingBatchDelivery = none) :
    Kept ⟨world, .enter, []⟩ where
  roster := ⟨fresh, rfl⟩
  held := by
    exact ⟨idle, (fun _ member => by cases member), (fun _ same => by cases same)⟩
  tended := fun _ _ _ member => by cases member

theorem Kept.step {self : Consumer} {policy : Policy} (patient : policy.Patient)
    {first second : Crew LoopStage} (step : Crew.Step self policy (LoopStage.Move self) first second)
    (kept : Kept first) : Kept second where
  roster := kept.roster.step LoopStage.Move.not_taskDone step
  held := held_step patient step kept.roster kept.held
  tended := tended_step step kept.roster kept.tended

/-- The stages at which the loop handles messages. -/
def handles : LoopStage → Bool
  | .enter | .setup | .startUp _ | .idle | .due _ | .recheck _ _ | .checked _ | .each _ _ _ | .batch _ _ => true
  | _ => false

/-- While the loop handles messages, every background task has succeeded. -/
theorem Kept.over {crew : Crew LoopStage} (kept : Kept crew) (handles : handles crew.main = true) :
    ∀ post ∈ crew.posts, post.ending = some (.ok ()) := by
  obtain ⟨world, stage, posts⟩ := crew
  have held := kept.held
  cases stage with
  | enter | setup | startUp | idle | due | recheck | checked | each | batch =>
      exact held.2.over kept.tended
  | _ => cases handles

end Backlog

end CodaNode
