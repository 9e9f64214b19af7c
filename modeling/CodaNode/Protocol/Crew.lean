/-
Module: CodaNode.Protocol.Crew
Layer: Protocol
Purpose: The tasks of a consumer at their stages. A crew is the shared state, the stage of the main
  coroutine and the stages of the background tasks in the order of their creation; its steps are rows
  of the tables. `Follows.reaches` carries what every step of the crew preserves over to the pools of
  coroutines.
Imports: CodaNode.Protocol.Delivery
Main exports: Crew, Crew.Step, Crew.Stands, Follows.reaches
-/
import CodaNode.Protocol.Delivery
import Mathlib.Data.List.Nodup

namespace CodaNode

open Coroutine

/-- The shared state, the main coroutine at its stage, and the background tasks at theirs. -/
structure Crew (L : Type) where
  world : World
  main : L
  posts : List Post

/-- The background task an operation creates. -/
def World.created (world : World) : Op → List Post
  | .createTask spec => [.fresh world.tasks.length spec]
  | _ => []

/-- A task of a crew. -/
inductive Station (L : Type) where
  | main (stage : L)
  | post (post : Post)

namespace Crew

variable {L : Type} (self : Consumer) (policy : Policy)
variable (move : L → (op : Op) → Except Exc op.Reply → L → Prop)

/-- The steps of a crew. -/
inductive Step : Crew L → Crew L → Prop where
  | env {world next : World} {stage : L} {posts : List Post} {event : EnvEvent}
      (allowed : policy.env event) (occurs : world.occur event = some next) :
      Step ⟨world, stage, posts⟩ ⟨next.record (.env event), stage, posts⟩
  | main {world next : World} {stage later : L} {posts : List Post} {op : Op}
      {outcome : Except Exc op.Reply} {fate : Fate} (row : move stage op outcome later)
      (performs : World.Performs policy world op outcome fate next) :
      Step ⟨world, stage, posts⟩
        ⟨next.recordCall .loop op outcome fate, later, posts ++ world.created op⟩
  | post {world next : World} {stage : L} {before after : List Post} {post later : Post} {op : Op}
      {outcome : Except Exc op.Reply} {fate : Fate} (row : Post.Move self post op outcome later)
      (performs : World.Performs policy world op outcome fate next) :
      Step ⟨world, stage, before ++ post :: after⟩
        ⟨next.recordCall post.role op outcome fate, stage,
          before ++ later :: after ++ world.created op⟩

/-- The rows of the tasks. -/
inductive Row : Station L → (op : Op) → Except Exc op.Reply → Station L → Prop where
  | main {stage op outcome next} (row : move stage op outcome next) :
      Row (.main stage) op outcome (.main next)
  | post {post op outcome next} (row : Post.Move self post op outcome next) :
      Row (.post post) op outcome (.post next)

/-- How a task has ended. -/
def Over (past : Except Exc Unit → L → Prop) (outcome : Except Exc Unit) : Station L → Prop
  | .main stage => past outcome stage
  | .post post => post.ending.isSome = true

private theorem taskBody_follows_row (past : Except Exc Unit → L → Prop) (number : Nat)
    (spec : TaskSpec) :
    Follows (Row self move) (fun _ => Over past (.ok ())) (fun exception => Over past (.error exception))
      (taskBody self number spec) (.post (.fresh number spec)) := by
  have body : Follows (Post.Move self)
      (fun _ later => later.role = .task number spec ∧ later.ending.isSome = true)
      (fun _ later => later.ending.isSome = true)
      (taskBody self number spec) (Post.fresh number spec) := taskBody_follows spec
  refine (Coro.Tracks.map Station.post Row.post body).imp ?_ ?_
  · rintro _ later ⟨last, rfl, -, ended⟩
    exact ended
  · rintro exception later ⟨last, rfl, ended⟩
    exact ended

/-- The tables of a crew. -/
def table (past : Except Exc Unit → L → Prop) (start : L) : Table (machine self policy) (Station L)
    where
  possible := Feasible
  move _ := Row self move
  past _ := Over past
  entry
    | .loop => .main start
    | .task number spec => .post (.fresh number spec)
  feasible := feasible_of_performs
  spawned := by
    intro name stage op outcome next state row task member
    change task ∈ spawned self state op at member
    cases op with
    | createTask spec =>
        rw [List.mem_singleton.mp member]
        exact taskBody_follows_row self move past _ spec
    | _ => cases member

/-- The tasks by name, as the pool lists them. -/
def places (crew : Crew L) : List (Role × Station L) :=
  (.loop, .main crew.main) :: crew.posts.map fun post => (post.role, .post post)

/-- The pool is at these stages. -/
def Stands (past : Except Exc Unit → L → Prop) (start : L) (system : System) (crew : Crew L) : Prop :=
  crew.world = system.state ∧ (table self policy move past start).Tracked system crew.places

variable {self policy move}

theorem step_of_step {past : Except Exc Unit → L → Prop} {start : L} {crew : Crew L}
    {after : Snapshot World Role (Station L)}
    (step : (table self policy move past start).Step ⟨crew.world, crew.places⟩ after) :
    ∃ crew' : Crew L, after = ⟨crew'.world, crew'.places⟩ ∧ Step self policy move crew crew' := by
  obtain ⟨world, stage, posts⟩ := crew
  generalize shape : places ⟨world, stage, posts⟩ = all at step
  have fresh (op : Op) :
      ((machine self policy).spawns world op).map
          (fun task => (task.1, (table self policy move past start).entry task.1)) =
        (world.created op).map fun post => (post.role, Station.post post) := by
    cases op with
    | createTask spec =>
        simp only [machine, spawned, World.created, List.map_cons, List.map_nil, Post.role,
          Post.fresh_number, Post.fresh_spec]
        rfl
    | _ => rfl
  cases step with
  | env moved =>
      obtain ⟨event, next, allowed, occurs, rfl⟩ := moved
      subst shape
      exact ⟨⟨next.record (.env event), stage, posts⟩, rfl, .env allowed occurs⟩
  | @row _ state' before rest name place next op outcome row performed =>
      obtain ⟨fate, world', performs, rfl⟩ := performed
      rw [fresh op]
      cases before with
      | nil =>
          obtain ⟨same, others⟩ := List.cons.inj shape
          obtain ⟨rfl, rfl⟩ := Prod.mk.inj same
          subst others
          cases row with
          | @main _ _ _ later row =>
              refine ⟨⟨world'.recordCall .loop op outcome fate, later, posts ++ world.created op⟩, ?_,
                .main row performs⟩
              simp [places]
      | cons first before =>
          obtain ⟨same, others⟩ := List.cons.inj shape
          subst same
          obtain ⟨front, back, rfl, rfl, tail⟩ := List.map_eq_append_iff.mp others
          cases back with
          | nil => cases tail
          | cons post back =>
              obtain ⟨same, behind⟩ := List.cons.inj tail
              obtain ⟨rfl, rfl⟩ := Prod.mk.inj same
              subst behind
              cases row with
              | @post _ _ _ later row =>
                  refine ⟨⟨world'.recordCall post.role op outcome fate, stage,
                    front ++ later :: back ++ world.created op⟩, ?_, .post row performs⟩
                  simp [places, row.role_eq]

end Crew

/-- What every step of the crew preserves holds of some crew at whose stages a reachable pool is. -/
theorem Follows.reaches {L : Type} {self : Consumer} {policy : Policy}
    {move : L → (op : Op) → Except Exc op.Reply → L → Prop} {past : Except Exc Unit → L → Prop}
    {start : L} {body : Task Unit} {holds : Crew L → Prop}
    (follows : Follows move (fun _ => past (.ok ())) (fun exception => past (.error exception)) body
      start)
    (kept : ∀ {first second}, Crew.Step self policy move first second → holds first → holds second)
    {world : World} (here : holds ⟨world, start, []⟩) {system : System}
    (reaches : Pool.Reaches (machine self policy) (Pool.single world .loop body) system) :
    ∃ crew, Crew.Stands self policy move past start system crew ∧ holds crew := by
  let table := Crew.table self policy move past start
  have main : table.Follows Role.loop body (.main start) := by
    refine (Coro.Tracks.map Station.main Crew.Row.main follows).imp ?_ ?_
    · rintro _ later ⟨last, rfl, ended⟩
      exact ended
    · rintro exception later ⟨last, rfl, ended⟩
      exact ended
  let stands (snapshot : Snapshot World Role (Station L)) : Prop :=
    ∃ crew : Crew L, snapshot = ⟨crew.world, crew.places⟩ ∧ holds crew
  have preserved : ∀ {first second : Snapshot World Role (Station L)}, table.Step first second →
      stands first → stands second := by
    rintro first second step ⟨crew, rfl, held⟩
    obtain ⟨crew', rfl, moved⟩ := Crew.step_of_step step
    exact ⟨crew', rfl, kept moved held⟩
  obtain ⟨places, tracked, crew, shape, held⟩ :=
    Table.Tracked.reaches preserved (Table.Tracked.single main) ⟨⟨world, start, []⟩, rfl, here⟩ reaches
  obtain ⟨same, rfl⟩ := Snapshot.mk.inj shape
  exact ⟨crew, ⟨same.symm, tracked⟩, held⟩

namespace Crew.Stands

variable {L : Type} {self : Consumer} {policy : Policy}
variable {move : L → (op : Op) → Except Exc op.Reply → L → Prop}
variable {past : Except Exc Unit → L → Prop} {start : L} {system : System} {crew : Crew L}

/-- The main coroutine comes first and is the only one, and it follows its rows from its stage on. -/
theorem main (stands : Stands self policy move past start system crew) :
    ∃ body others, system.tasks = (.loop, body) :: others ∧ (∀ task ∈ others, task.1 ≠ .loop) ∧
      Follows (Row self move) (fun _ => Over past (.ok ()))
        (fun exception => Over past (.error exception)) body (.main crew.main) := by
  obtain ⟨-, tracked⟩ := stands
  obtain ⟨⟨name, body⟩, others, ⟨same, follows⟩, rest, shape⟩ := List.forall₂_cons_right_iff.mp tracked
  change name = .loop at same
  subst same
  refine ⟨body, others, shape, ?_, follows⟩
  intro task member
  obtain ⟨index, bound, rfl⟩ := List.mem_iff_getElem.mp member
  have inside := bound
  rw [List.Forall₂.length_eq rest] at inside
  obtain ⟨named, -⟩ := List.Forall₂.get rest bound inside
  simp only [List.get_eq_getElem, List.getElem_map] at named
  rw [named]
  exact fun same => by cases same

/-- The main coroutine has not ended unless its stage says so. -/
theorem issued {body : Task Unit} {stage : L}
    (follows : Follows (Row self move) (fun _ => Over past (.ok ()))
      (fun exception => Over past (.error exception)) body (.main stage))
    (running : ∀ outcome, ¬ past outcome stage) :
    ∃ op resume, body = .call op resume ∧ (∃ outcome later, move stage op outcome later) ∧
      ∀ outcome, Feasible op outcome → ∃ later, move stage op outcome later ∧
        Follows (Row self move) (fun _ => Over past (.ok ()))
          (fun exception => Over past (.error exception)) (resume outcome) (.main later) := by
  cases body with
  | ret value => exact absurd follows (running _)
  | raise exception => exact absurd follows (running _)
  | call op resume =>
      obtain ⟨⟨outcome, next, row⟩, rows⟩ := follows
      refine ⟨op, resume, rfl, ?_, fun outcome feasible => ?_⟩
      · cases row with
        | main row => exact ⟨outcome, _, row⟩
      · obtain ⟨later, row, rest⟩ := rows outcome feasible
        cases row with
        | main row => exact ⟨_, row, rest⟩

/-- A pool whose tasks have all ended is at final stages. -/
theorem ended (stands : Stands self policy move past start system crew) (finished : system.Ended) :
    (∃ outcome, past outcome crew.main) ∧ ∀ post ∈ crew.posts, post.ending.isSome = true := by
  have last := stands.2.past finished
  constructor
  · exact last (.loop, .main crew.main) List.mem_cons_self
  · intro post member
    obtain ⟨_, final⟩ := last (post.role, .post post)
      (List.mem_cons_of_mem _ (List.mem_map_of_mem member))
    exact final

/-- When the main coroutine has returned, so has its stage, whatever the background tasks are doing. -/
theorem of_returned (stands : Stands self policy move past start system crew) (returned : system.Returned) :
    past (.ok ()) crew.main := by
  obtain ⟨body, others, tasks, elsewhere, follows⟩ := stands.main
  rw [System.Returned, tasks] at returned
  rcases List.mem_cons.mp returned with same | other
  · obtain ⟨-, rfl⟩ := Prod.mk.inj same
    exact follows
  · exact absurd rfl (elsewhere _ other)

/-- A pool whose tasks have ended has returned or raised. -/
theorem returned (stands : Stands self policy move past start system crew) (ended : system.Ended) :
    (system.Returned ∧ past (.ok ()) crew.main) ∨
      ¬ system.Returned ∧ ∃ exception, past (.error exception) crew.main := by
  obtain ⟨body, others, tasks, elsewhere, follows⟩ := stands.main
  cases body with
  | ret value => exact .inl ⟨by rw [System.Returned, tasks]; exact List.mem_cons_self, follows⟩
  | raise exception =>
      refine .inr ⟨fun returned => ?_, exception, follows⟩
      rw [System.Returned, tasks] at returned
      rcases List.mem_cons.mp returned with same | other
      · cases same
      · exact elsewhere _ other rfl
  | call op resume =>
      refine absurd rfl (ended (.loop, .call op resume) ?_ op resume)
      rw [tasks]
      exact List.mem_cons_self

end Crew.Stands

/-! ### The table of tasks

The state keeps a record of every background task. It agrees with the stages, so what is awaited can be
read off the stages. -/

namespace Crew

variable {L : Type} {self : Consumer} {policy : Policy}
variable {move : L → (op : Op) → Except Exc op.Reply → L → Prop}

/-- The records are those of the tasks, and the tasks are numbered in order. -/
structure Roster (crew : Crew L) : Prop where
  records : crew.world.tasks = crew.posts.map Post.record
  numbers : crew.posts.map Post.number = List.range crew.posts.length

theorem Roster.number_eq {world : World} {stage : L} {before after : List Post} {post : Post}
    (roster : Roster ⟨world, stage, before ++ post :: after⟩) : post.number = before.length := by
  have at_ : ((before ++ post :: after).map Post.number)[before.length]? =
      (List.range (before ++ post :: after).length)[before.length]? :=
    congrArg (·[before.length]?) roster.numbers
  simpa using at_

/-- What is recorded of a task is how it has ended. -/
theorem Roster.outcomeOf_eq {world : World} {stage : L} {before after : List Post} {post : Post}
    (roster : Roster ⟨world, stage, before ++ post :: after⟩) :
    world.outcomeOf post.number = post.ending := by
  rw [World.outcomeOf, roster.records, List.getElem?_map, roster.number_eq,
    List.getElem?_append_right (Nat.le_refl _), Nat.sub_self, List.getElem?_cons_zero]
  rfl

/-- A task that stores its outcome has none so far. -/
theorem Roster.running {world : World} {stage : L} {before after : List Post} {post later : Post} {op : Op}
    {outcome : Except Exc op.Reply} (roster : Roster ⟨world, stage, before ++ post :: after⟩)
    (row : Post.Move self post op outcome later) :
    ∀ number ending, op = .taskDone number ending → world.outcomeOf number = none := by
  rintro other ending rfl
  obtain ⟨still, ends⟩ := row.ending_eq
  rcases ends with ⟨-, ends⟩ | ⟨last, same, -⟩
  · exact absurd rfl (ends other ending)
  · cases same
    rw [roster.outcomeOf_eq]
    exact still

private theorem Roster.created {world next : World} {op : Op} {outcome : Except Exc op.Reply}
    {fate : Fate} {posts : List Post} (performs : World.Performs policy world op outcome fate next)
    (ends : ∀ number ending, op ≠ .taskDone number ending)
    (records : world.tasks = posts.map Post.record)
    (numbers : posts.map Post.number = List.range posts.length) :
    next.tasks = (posts ++ world.created op).map Post.record ∧
      (posts ++ world.created op).map Post.number = List.range (posts ++ world.created op).length := by
  by_cases creates : ∃ spec, op = .createTask spec
  · obtain ⟨spec, rfl⟩ := creates
    obtain ⟨-, -, rfl⟩ := World.createTask_performs performs
    have size : world.tasks.length = posts.length := by rw [records, List.length_map]
    have record : Post.record (.fresh world.tasks.length spec) = ⟨spec, none⟩ := by
      cases spec <;> rfl
    constructor
    · change world.tasks ++ [⟨spec, none⟩] = (posts ++ [Post.fresh world.tasks.length spec]).map _
      rw [List.map_append, List.map_singleton, record, records]
    · simp [World.created, numbers, size, List.range_succ]
  · have none : ∀ spec, op ≠ .createTask spec := fun spec same => creates ⟨spec, same⟩
    have empty : world.created op = [] := by
      cases op with
      | createTask spec => exact absurd rfl (none spec)
      | _ => rfl
    rw [empty, List.append_nil, World.tasks_of_performs performs none ends]
    exact ⟨records, numbers⟩

private theorem modify_middle {α : Type} {change : α → α} (before after : List α) (item : α) :
    (before ++ item :: after).modify before.length change = before ++ change item :: after := by
  induction before with
  | nil => rfl
  | cons head rest inductionHypothesis => exact congrArg (head :: ·) inductionHypothesis

theorem Roster.step {first second : Crew L} (mains : ∀ {stage op outcome later},
      move stage op outcome later → ∀ number ending, op ≠ .taskDone number ending)
    (step : Step self policy move first second) (roster : Roster first) : Roster second := by
  cases step with
  | env allowed occurs =>
      refine ⟨?_, roster.numbers⟩
      change (World.record _ _).tasks = _
      rw [World.record_tasks, World.tasks_of_occur occurs]
      exact roster.records
  | main row performs =>
      obtain ⟨records, numbers⟩ := Roster.created performs (mains row) roster.records roster.numbers
      refine ⟨?_, numbers⟩
      change (World.recordCall _ _ _ _ _).tasks = _
      rw [World.recordCall_tasks]
      exact records
  | @post world next stage before after post later op outcome fate row performs =>
      obtain ⟨running, ending⟩ := row.ending_eq
      have number := roster.number_eq
      have numbers : (before ++ later :: after).map Post.number =
          List.range (before ++ later :: after).length := by
        have old := roster.numbers
        simp only [List.map_append, List.map_cons, List.length_append, List.length_cons] at old ⊢
        rw [row.number_eq]
        exact old
      rcases ending with ⟨still, ends⟩ | ⟨outcome', rfl, ended⟩
      · have records : world.tasks = (before ++ later :: after).map Post.record := by
          rw [show world.tasks = _ from roster.records]
          simp [Post.record, row.spec_eq, running, still]
        obtain ⟨records', numbers'⟩ := Roster.created performs ends records numbers
        refine ⟨?_, numbers'⟩
        change (World.recordCall _ _ _ _ _).tasks = _
        rw [World.recordCall_tasks]
        exact records'
      · have empty : world.created (.taskDone post.number outcome') = [] := rfl
        rw [empty, List.append_nil, World.taskDone_performs performs]
        refine ⟨?_, numbers⟩
        change (World.recordCall _ _ _ _ _).tasks = _
        rw [World.recordCall_tasks]
        change world.tasks.modify _ _ = _
        rw [show world.tasks = _ from roster.records, number, ← List.length_map Post.record,
          List.map_append, List.map_cons, modify_middle]
        simp [Post.record, row.spec_eq, ended]

/-- The task of a record. -/
theorem Roster.post_of_record {crew : Crew L} (roster : crew.Roster) {number : Nat} {record : TaskRecord}
    (found : crew.world.tasks[number]? = some record) :
    ∃ post ∈ crew.posts, post.number = number ∧ record = post.record := by
  rw [roster.records, List.getElem?_map] at found
  obtain ⟨post, at_, rfl⟩ := Option.map_eq_some_iff.mp found
  refine ⟨post, List.mem_of_getElem? at_, ?_, rfl⟩
  have numbered := congrArg (·[number]?) roster.numbers
  obtain ⟨bound, -⟩ := List.getElem?_eq_some_iff.mp at_
  simp only [List.getElem?_map, at_, List.getElem?_range bound, Option.map_some] at numbered
  exact Option.some.inj numbered

/-- The task that has an outcome. -/
theorem Roster.post_of_outcome {crew : Crew L} (roster : crew.Roster) {number : Nat}
    {outcome : Except Exc Unit} (found : crew.world.outcomeOf number = some outcome) :
    ∃ post ∈ crew.posts, post.number = number ∧ post.ending = some outcome ∧
      crew.world.tasks[number]? = some post.record := by
  obtain ⟨record, here, ended⟩ := Option.bind_eq_some_iff.mp found
  obtain ⟨post, member, numbered, rfl⟩ := roster.post_of_record here
  exact ⟨post, member, numbered, ended, here⟩

/-- No two tasks have the same number. -/
theorem Roster.unique {crew : Crew L} (roster : crew.Roster) {first second : Post}
    (here : first ∈ crew.posts) (there : second ∈ crew.posts) (same : first.number = second.number) :
    first = second := by
  have distinct : (crew.posts.map Post.number).Nodup := by
    rw [roster.numbers]
    exact List.nodup_range
  exact List.inj_on_of_nodup_map distinct here there same

end Crew

end CodaNode
