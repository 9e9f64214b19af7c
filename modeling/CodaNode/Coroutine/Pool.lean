/-
Module: CodaNode.Coroutine.Pool
Layer: Coroutine (library)
Purpose: Cooperative multitasking. A pool holds one shared state and the tasks that run over it. A
  machine says how the state answers an operation, which tasks an operation creates, and what the
  environment does on its own. A task runs until its next operation that is not local, so only one
  task can be between two such operations. `Pool.Reaches` is the set of all finite interleavings, and
  `Pool.follow` computes one of them from a script.
Imports: CodaNode.Coroutine.Basic
Main exports: Machine, Pool, Pool.Step, Pool.Reaches, Pool.follow, Pool.follow_reaches
-/
import CodaNode.Coroutine.Basic
import Mathlib.Logic.Relation

namespace Coroutine

/-- How a shared state of type `σ` serves the operations of named tasks. -/
structure Machine {Op : Type} (Reply : Op → Type) (ε σ ι : Type) where
  /-- `perform ι s op outcome s'`: task `ι` may get `outcome` for `op` in `s`, leaving `s'`. -/
  perform : ι → σ → (op : Op) → Except ε (Reply op) → σ → Prop
  /-- The tasks created by an operation. -/
  spawns : σ → Op → List (ι × Coro Reply ε Unit)
  /-- What may happen to the state between two operations. -/
  env : σ → σ → Prop
  /-- Local operations do not give up control. -/
  isLocal : Op → Bool

/-- One shared state and the tasks over it, in the order of their creation. -/
structure Pool {Op : Type} (Reply : Op → Type) (ε σ ι : Type) where
  state : σ
  tasks : List (ι × Coro Reply ε Unit)

variable {Op : Type} {Reply : Op → Type} {ε σ ι α : Type}

/-- A task that has ended or waits in an operation that gives up control. -/
def Machine.suspended (machine : Machine Reply ε σ ι) : Coro Reply ε α → Bool
  | .call op _ => !machine.isLocal op
  | _ => true

namespace Pool

/-- One move of the environment, or one operation of one task while the others are suspended. -/
inductive Step (machine : Machine Reply ε σ ι) : Pool Reply ε σ ι → Pool Reply ε σ ι → Prop where
  | env {state state' : σ} {tasks : List (ι × Coro Reply ε Unit)}
      (move : machine.env state state') : Step machine ⟨state, tasks⟩ ⟨state', tasks⟩
  | call {state state' : σ} {before after : List (ι × Coro Reply ε Unit)} {name : ι} {op : Op}
      {resume : Except ε (Reply op) → Coro Reply ε Unit} {outcome : Except ε (Reply op)}
      (others : ∀ task ∈ before ++ after, machine.suspended task.2 = true)
      (performed : machine.perform name state op outcome state') :
      Step machine ⟨state, before ++ (name, .call op resume) :: after⟩
        ⟨state', before ++ (name, resume outcome) :: after ++ machine.spawns state op⟩

/-- The pools some finite interleaving leads to. -/
def Reaches (machine : Machine Reply ε σ ι) : Pool Reply ε σ ι → Pool Reply ε σ ι → Prop :=
  Relation.ReflTransGen (Step machine)

/-- Every task has ended. -/
def Ended (pool : Pool Reply ε σ ι) : Prop :=
  ∀ task ∈ pool.tasks, ∀ op resume, task.2 ≠ .call op resume

/-- The pool of one task. -/
def single (state : σ) (name : ι) (body : Coro Reply ε Unit) : Pool Reply ε σ ι :=
  ⟨state, [(name, body)]⟩

end Pool

/-! ### Computing one interleaving

A script names, turn by turn, the task that runs or the move the environment makes. `answer` decides
what the operations return. A turn that is not possible changes nothing. -/

/-- One turn of a script. -/
inductive Turn (Event : Type) where
  | task (index : Nat)
  | env (event : Event)

namespace Pool

variable {Event : Type} (machine : Machine Reply ε σ ι)
variable (answer : ι → σ → (op : Op) → Option (Except ε (Reply op) × σ))
variable (occur : Event → σ → Option σ)

/-- Let the task at `index` perform its operation. -/
def runTask (index : Nat) (pool : Pool Reply ε σ ι) : Pool Reply ε σ ι :=
  match pool.tasks.drop index with
  | (name, .call op resume) :: after =>
      if (pool.tasks.take index ++ after).all fun task => machine.suspended task.2 then
        match answer name pool.state op with
        | some (outcome, state') =>
            ⟨state', pool.tasks.take index ++ (name, resume outcome) :: after ++
              machine.spawns pool.state op⟩
        | none => pool
      else pool
  | _ => pool

/-- The pool a script leads to. -/
def follow : List (Turn Event) → Pool Reply ε σ ι → Pool Reply ε σ ι
  | [], pool => pool
  | .task index :: script, pool => follow script (pool.runTask machine answer index)
  | .env event :: script, pool =>
      match occur event pool.state with
      | some state' => follow script ⟨state', pool.tasks⟩
      | none => follow script pool

variable {machine answer occur}

/-- A turn of a task is a step of the pool, or nothing happens. -/
theorem runTask_step
    (sound : ∀ {name state op outcome state'}, answer name state op = some (outcome, state') →
      machine.perform name state op outcome state')
    (index : Nat) (pool : Pool Reply ε σ ι) :
    Step machine pool (pool.runTask machine answer index) ∨ pool.runTask machine answer index = pool := by
  obtain ⟨state, tasks⟩ := pool
  simp only [runTask]
  split
  · rename_i name op resume after found
    split
    · rename_i others
      split
      · rename_i outcome state' answered
        have parts : tasks = tasks.take index ++ (name, .call op resume) :: after := by
          rw [← found, List.take_append_drop]
        have step : Step machine ⟨state, tasks.take index ++ (name, .call op resume) :: after⟩ _ :=
          .call (fun task member => List.all_eq_true.mp others task member) (sound answered)
        rw [← parts] at step
        exact .inl step
      · exact .inr rfl
    · exact .inr rfl
  · exact .inr rfl

/-- What a turn of a task leads to is reachable. -/
theorem runTask_reaches
    (sound : ∀ {name state op outcome state'}, answer name state op = some (outcome, state') →
      machine.perform name state op outcome state')
    (index : Nat) (pool : Pool Reply ε σ ι) :
    Reaches machine pool (pool.runTask machine answer index) := by
  rcases runTask_step sound index pool with step | same
  · exact Relation.ReflTransGen.single step
  · rw [same]
    exact Relation.ReflTransGen.refl

/-- A script computes an interleaving. -/
theorem follow_reaches
    (sound : ∀ {name state op outcome state'}, answer name state op = some (outcome, state') →
      machine.perform name state op outcome state')
    (script : List (Turn Event)) (pool : Pool Reply ε σ ι)
    (moves : ∀ event, Turn.env event ∈ script → ∀ {state state'},
      occur event state = some state' → machine.env state state') :
    Reaches machine pool (pool.follow machine answer occur script) := by
  induction script generalizing pool with
  | nil => exact Relation.ReflTransGen.refl
  | cons turn script inductionHypothesis =>
      have later : ∀ event, Turn.env event ∈ script → ∀ {state state'},
          occur event state = some state' → machine.env state state' :=
        fun event member => moves event (List.mem_cons_of_mem _ member)
      cases turn with
      | task index => exact (runTask_reaches sound index pool).trans (inductionHypothesis _ later)
      | env event =>
          simp only [follow]
          split
          · rename_i state' occurred
            have move := moves event List.mem_cons_self occurred
            exact .head (Step.env move) (inductionHypothesis _ later)
          · exact inductionHypothesis pool later

end Pool

end Coroutine
