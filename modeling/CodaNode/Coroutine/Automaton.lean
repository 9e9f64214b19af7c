/-
Module: CodaNode.Coroutine.Automaton
Layer: Coroutine (library)
Purpose: Coroutines that follow a transition table. `Tracks` says that a coroutine issues only
  operations the table has a row for and that every outcome leads along a row; it does not mention the
  shared state. A `Table` gives every task of a machine its rows; its steps are the steps of the pool
  without the coroutines. `Tracked.reaches` is the simulation: what every step of the table preserves
  holds in every pool that is reached. So the control flow is followed once, and every later argument
  about it is an argument about rows.
Imports: CodaNode.Coroutine.Pool
Main exports: Coro.Tracks, Table, Table.Step, Table.Tracked, Table.Tracked.reaches
-/
import CodaNode.Coroutine.Pool
import Mathlib.Data.List.Forall2

namespace Coroutine

variable {Op : Type} {Reply : Op → Type} {ε σ ι α β S : Type}

namespace Coro

variable (possible : (op : Op) → Except ε (Reply op) → Prop)
variable (move : S → (op : Op) → Except ε (Reply op) → S → Prop)

/-- The coroutine stays within the table from this stage on, for all outcomes that are possible at
all, and ends where `onReturn` or `onRaise` says. -/
def Tracks (onReturn : α → S → Prop) (onRaise : ε → S → Prop) : Coro Reply ε α → S → Prop
  | .ret value, stage => onReturn value stage
  | .raise exception, stage => onRaise exception stage
  | .call op resume, stage =>
      (∃ outcome next, move stage op outcome next) ∧
        ∀ outcome, possible op outcome →
          ∃ next, move stage op outcome next ∧ Tracks onReturn onRaise (resume outcome) next

variable {possible move}

namespace Tracks

variable {onRaise : ε → S → Prop} {stage : S}

theorem handle {body : Coro Reply ε α} {next : α → Coro Reply ε β} {handler : ε → Coro Reply ε β}
    {onReturn : β → S → Prop}
    (head : Tracks possible move (fun value => Tracks possible move onReturn onRaise (next value))
      (fun exception => Tracks possible move onReturn onRaise (handler exception)) body stage) :
    Tracks possible move onReturn onRaise (body.handle next handler) stage := by
  induction body generalizing stage with
  | ret value => exact head
  | raise exception => exact head
  | call op resume inductionHypothesis =>
      obtain ⟨issued, rows⟩ := head
      refine ⟨issued, fun outcome feasible => ?_⟩
      obtain ⟨later, row, rest⟩ := rows outcome feasible
      exact ⟨later, row, inductionHypothesis outcome rest⟩

theorem imp {body : Coro Reply ε α} {onReturn onReturn' : α → S → Prop} {onRaise' : ε → S → Prop}
    (tracks : Tracks possible move onReturn onRaise body stage)
    (returns : ∀ value later, onReturn value later → onReturn' value later)
    (raises : ∀ exception later, onRaise exception later → onRaise' exception later) :
    Tracks possible move onReturn' onRaise' body stage := by
  induction body generalizing stage with
  | ret value => exact returns value stage tracks
  | raise exception => exact raises exception stage tracks
  | call op resume inductionHypothesis =>
      obtain ⟨issued, rows⟩ := tracks
      refine ⟨issued, fun outcome feasible => ?_⟩
      obtain ⟨later, row, rest⟩ := rows outcome feasible
      exact ⟨later, row, inductionHypothesis outcome rest⟩

/-- The first part leads to stages from which the second part goes on; exceptions pass through. -/
theorem bind {body : Coro Reply ε α} {next : α → Coro Reply ε β} {middle : α → S → Prop}
    {onReturn : β → S → Prop} (head : Tracks possible move middle onRaise body stage)
    (tail : ∀ value later, middle value later →
      Tracks possible move onReturn onRaise (next value) later) :
    Tracks possible move onReturn onRaise (body >>= next) stage :=
  handle (head.imp tail fun _ _ raised => raised)

theorem catching {body : Coro Reply ε α} {handler : ε → Coro Reply ε α} {onReturn : α → S → Prop}
    {failed : ε → S → Prop} (head : Tracks possible move onReturn failed body stage)
    (rescue : ∀ exception later, failed exception later →
      Tracks possible move onReturn onRaise (handler exception) later) :
    Tracks possible move onReturn onRaise (body.catching handler) stage :=
  handle (head.imp (fun _ _ returned => returned) rescue)

theorem «finally» {body : Coro Reply ε α} {cleanup : Coro Reply ε Unit} {onReturn : α → S → Prop}
    {middle : α → S → Prop} {failed : ε → S → Prop}
    (head : Tracks possible move middle failed body stage)
    (returned : ∀ value later, middle value later →
      Tracks possible move (fun _ => onReturn value) onRaise cleanup later)
    (raised : ∀ exception later, failed exception later →
      Tracks possible move (fun _ => onRaise exception) onRaise cleanup later) :
    Tracks possible move onReturn onRaise (body.finally cleanup) stage := by
  refine handle (head.imp (fun value later reached => ?_) fun exception later reached => ?_)
  · exact handle ((returned value later reached).imp (fun _ _ done => done) fun _ _ done => done)
  · exact handle ((raised exception later reached).imp (fun _ _ done => done) fun _ _ done => done)

/-- One operation whose rows are given by a function of the outcome. -/
theorem perform {op : Op} {onReturn : Reply op → S → Prop} (after : Except ε (Reply op) → S)
    (issued : ∃ outcome next, move stage op outcome next)
    (rows : ∀ outcome, possible op outcome → move stage op outcome (after outcome))
    (returns : ∀ value, onReturn value (after (.ok value)))
    (raises : ∀ exception, possible op (.error exception) →
      onRaise exception (after (.error exception))) :
    Tracks possible move onReturn onRaise (Coro.perform op) stage := by
  refine ⟨issued, fun outcome feasible => ⟨after outcome, rows outcome feasible, ?_⟩⟩
  cases outcome with
  | ok value => exact returns value
  | error exception => exact raises exception feasible

/-- A table can be embedded into another one. -/
theorem map {S' : Type} {move' : S' → (op : Op) → Except ε (Reply op) → S' → Prop}
    {body : Coro Reply ε α} {onReturn : α → S → Prop} (embed : S → S')
    (lift : ∀ {first op outcome second}, move first op outcome second →
      move' (embed first) op outcome (embed second))
    (tracks : Tracks possible move onReturn onRaise body stage) :
    Tracks possible move' (fun value later => ∃ last, later = embed last ∧ onReturn value last)
      (fun exception later => ∃ last, later = embed last ∧ onRaise exception last) body
      (embed stage) := by
  induction body generalizing stage with
  | ret value => exact ⟨stage, rfl, tracks⟩
  | raise exception => exact ⟨stage, rfl, tracks⟩
  | call op resume inductionHypothesis =>
      obtain ⟨⟨outcome, next, row⟩, rows⟩ := tracks
      refine ⟨⟨outcome, embed next, lift row⟩, fun outcome feasible => ?_⟩
      obtain ⟨later, row, rest⟩ := rows outcome feasible
      exact ⟨embed later, lift row, inductionHypothesis outcome rest⟩

/-- A loop whose rounds lead from each list of remaining items to its tail. -/
theorem forEach {τ : Type} {items : List τ} {body : τ → Coro Reply ε Unit} (todo : List τ → S)
    (each : ∀ item rest, Tracks possible move (fun _ later => later = todo rest) onRaise (body item)
      (todo (item :: rest))) :
    Tracks possible move (fun _ later => later = todo []) onRaise (Coro.forEach items body)
      (todo items) := by
  induction items with
  | nil => exact rfl
  | cons item rest inductionHypothesis =>
      refine (each item rest).bind ?_
      rintro value later rfl
      exact inductionHypothesis

/-- A loop that also keeps the values of the rounds behind it. -/
theorem collect {τ : Type} {items : List τ} {body : τ → Coro Reply ε α}
    (spot : List α → List τ → S)
    (each : ∀ values item rest, Tracks possible move
      (fun value later => later = spot (values ++ [value]) rest) onRaise (body item)
      (spot values (item :: rest)))
    (values : List α) :
    Tracks possible move (fun more later => later = spot (values ++ more) []) onRaise
      (Coro.collect items body) (spot values items) := by
  induction items generalizing values with
  | nil => exact (congrArg (spot · []) (List.append_nil values)).symm
  | cons item rest inductionHypothesis =>
      refine (each values item rest).bind ?_
      rintro value later rfl
      refine (inductionHypothesis (values ++ [value])).bind ?_
      rintro more later rfl
      exact congrArg (spot · []) (List.append_assoc values [value] more)

end Tracks

end Coro

/-! ### From one coroutine to a pool -/

/-- Transition tables for the tasks of a machine: the rows of each task, the stages in which a task
that has ended may be, and the stage a new task starts in. -/
structure Table (machine : Machine Reply ε σ ι) (S : Type) where
  possible : (op : Op) → Except ε (Reply op) → Prop
  move : ι → S → (op : Op) → Except ε (Reply op) → S → Prop
  past : ι → Except ε Unit → S → Prop
  entry : ι → S
  feasible : ∀ {name state op outcome after},
    machine.perform name state op outcome after → possible op outcome
  spawned : ∀ {name stage op outcome next} state, move name stage op outcome next →
    ∀ task ∈ machine.spawns state op,
      task.2.Tracks possible (move task.1) (fun _ => past task.1 (.ok ()))
        (fun exception => past task.1 (.error exception)) (entry task.1)

/-- A state and the stage of every task, in the order of the tasks. -/
structure Snapshot (σ ι S : Type) where
  state : σ
  places : List (ι × S)

namespace Table

variable {machine : Machine Reply ε σ ι} (table : Table machine S)

/-- The coroutine of this task follows its rows. -/
def Follows (name : ι) (body : Coro Reply ε Unit) (stage : S) : Prop :=
  body.Tracks table.possible (table.move name) (fun _ => table.past name (.ok ()))
    (fun exception => table.past name (.error exception)) stage

/-- The abstract system: a task moves along a row, without regard to its coroutine. -/
inductive Step : Snapshot σ ι S → Snapshot σ ι S → Prop where
  | env {state state' : σ} {places : List (ι × S)} (move : machine.env state state') :
      Step ⟨state, places⟩ ⟨state', places⟩
  | row {state state' : σ} {before after : List (ι × S)} {name : ι} {stage next : S} {op : Op}
      {outcome : Except ε (Reply op)} (row : table.move name stage op outcome next)
      (performed : machine.perform name state op outcome state') :
      Step ⟨state, before ++ (name, stage) :: after⟩
        ⟨state', before ++ (name, next) :: after ++
          (machine.spawns state op).map fun task => (task.1, table.entry task.1)⟩

/-- Every task of the pool is at its place. -/
def Tracked (pool : Pool Reply ε σ ι) (places : List (ι × S)) : Prop :=
  List.Forall₂ (fun task place => task.1 = place.1 ∧ table.Follows task.1 task.2 place.2) pool.tasks
    places

variable {table}

/-- A step of the pool is a step of the abstract system. -/
theorem Tracked.step {pool pool' : Pool Reply ε σ ι} {places : List (ι × S)}
    (tracked : table.Tracked pool places) (step : Pool.Step machine pool pool') :
    ∃ places', table.Step ⟨pool.state, places⟩ ⟨pool'.state, places'⟩ ∧
      table.Tracked pool' places' := by
  cases step with
  | env move => exact ⟨places, .env move, tracked⟩
  | @call state state' before after name op resume outcome others performed =>
      have head := List.forall₂_take before.length tracked
      have tail := List.forall₂_drop before.length tracked
      rw [List.take_left] at head
      rw [List.drop_left] at tail
      obtain ⟨⟨name', stage⟩, rest, ⟨same, follows⟩, others, shape⟩ :=
        List.forall₂_cons_left_iff.mp tail
      change name = name' at same
      subst same
      obtain ⟨-, rows⟩ := follows
      obtain ⟨next, row, follows⟩ := rows outcome (table.feasible performed)
      have parts : places = places.take before.length ++ (name, stage) :: rest := by
        rw [← shape, List.take_append_drop]
      have moved : table.Step ⟨state, places.take before.length ++ (name, stage) :: rest⟩ _ :=
        .row row performed
      rw [← parts] at moved
      refine ⟨_, moved, ?_⟩
      have resumed : table.Follows name (resume outcome) next := follows
      refine List.rel_append (List.rel_append head (.cons ⟨rfl, resumed⟩ others)) ?_
      apply List.forall₂_map_right_iff.mpr
      apply List.forall₂_same.mpr
      intro task member
      exact ⟨rfl, table.spawned state row task member⟩

/-- The simulation: what the steps of the tables preserve holds in every pool that is reached. -/
theorem Tracked.reaches {holds : Snapshot σ ι S → Prop}
    (kept : ∀ {first second}, table.Step first second → holds first → holds second)
    {pool pool' : Pool Reply ε σ ι} {places : List (ι × S)} (tracked : table.Tracked pool places)
    (here : holds ⟨pool.state, places⟩) (reaches : Pool.Reaches machine pool pool') :
    ∃ places', table.Tracked pool' places' ∧ holds ⟨pool'.state, places'⟩ := by
  induction reaches with
  | refl => exact ⟨places, tracked, here⟩
  | tail _ step inductionHypothesis =>
      obtain ⟨middle, tracked', here'⟩ := inductionHypothesis
      obtain ⟨places', step', tracked''⟩ := tracked'.step step
      exact ⟨places', tracked'', kept step' here'⟩

/-- A task that has ended is in one of its last stages. -/
theorem Tracked.past {pool : Pool Reply ε σ ι} {places : List (ι × S)}
    (tracked : table.Tracked pool places) (ended : pool.Ended) :
    ∀ place ∈ places, ∃ outcome, table.past place.1 outcome place.2 := by
  intro place member
  obtain ⟨index, bound, rfl⟩ := List.mem_iff_getElem.mp member
  have inside : index < pool.tasks.length := by
    rw [List.Forall₂.length_eq tracked]
    exact bound
  obtain ⟨same, follows⟩ := List.Forall₂.get tracked inside bound
  have last := ended (pool.tasks.get ⟨index, inside⟩) (List.get_mem _ _)
  simp only [List.get_eq_getElem] at same follows last
  rw [← same]
  cases body : pool.tasks[index].2 with
  | ret value =>
      rw [body] at follows
      exact ⟨.ok (), follows⟩
  | raise exception =>
      rw [body] at follows
      exact ⟨.error exception, follows⟩
  | call op resume => exact absurd body (last op resume)

/-- A suspended task is in a stage with a row for its operation. -/
theorem Tracked.issued {pool : Pool Reply ε σ ι} {places : List (ι × S)}
    (tracked : table.Tracked pool places) {name : ι} {op : Op}
    {resume : Except ε (Reply op) → Coro Reply ε Unit}
    (member : (name, Coro.call op resume) ∈ pool.tasks) :
    ∃ stage, (name, stage) ∈ places ∧ ∃ outcome next, table.move name stage op outcome next := by
  obtain ⟨index, inside, shape⟩ := List.mem_iff_getElem.mp member
  have bound : index < places.length := by
    rw [← List.Forall₂.length_eq tracked]
    exact inside
  obtain ⟨same, follows⟩ := List.Forall₂.get tracked inside bound
  simp only [List.get_eq_getElem] at same follows
  rw [shape] at same follows
  refine ⟨places[index].2, ?_, follows.1⟩
  change name = places[index].1 at same
  rw [same]
  exact List.getElem_mem bound

/-- The tables of a pool of one task. -/
theorem Tracked.single {state : σ} {name : ι} {body : Coro Reply ε Unit} {stage : S}
    (follows : table.Follows name body stage) :
    table.Tracked (Pool.single state name body) [(name, stage)] :=
  .cons ⟨rfl, follows⟩ .nil

end Table

end Coroutine
