/-
Module: CodaNode.Coroutine.Solo
Layer: Coroutine (library)
Purpose: Running one coroutine by itself. When a function answers the operations, a coroutine is a
  function of the state: it ends with a value or an exception, or it waits for something the function
  does not answer. `solo_handle` computes such runs piece by piece, so runs of any length are built by
  induction, and `solo_reaches` turns them into interleavings of the pool.
Imports: CodaNode.Coroutine.Pool
Main exports: Coro.solo, Coro.solo_handle, Coro.exhaust, Coro.solo_reaches
-/
import CodaNode.Coroutine.Pool

namespace Coroutine

namespace Coro

variable {Op : Type} {Reply : Op → Type} {ε σ ι α β : Type}
variable (answer : σ → (op : Op) → Option (Except ε (Reply op) × σ))

/-- The end of a coroutine that runs by itself, and the state it leaves. -/
def solo : Coro Reply ε α → σ → Option (Except ε α × σ)
  | .ret value, state => some (.ok value, state)
  | .raise exception, state => some (.error exception, state)
  | .call op resume, state =>
      match answer state op with
      | some (outcome, next) => (resume outcome).solo next
      | none => none

/-- How far a coroutine gets by itself: the state it leaves, and its outcome unless it waits for something that is
not answered. -/
def exhaust : Coro Reply ε α → σ → σ × Option (Except ε α)
  | .ret value, state => (state, some (.ok value))
  | .raise exception, state => (state, some (.error exception))
  | .call op resume, state =>
      match answer state op with
      | some (outcome, next) => (resume outcome).exhaust next
      | none => (state, none)

/-- What follows an outcome. -/
def resumeWith (onReturn : α → Coro Reply ε β) (onRaise : ε → Coro Reply ε β) :
    Except ε α → Coro Reply ε β
  | .ok value => onReturn value
  | .error exception => onRaise exception

variable {answer}

/-- A coroutine with a continuation runs as its parts do. -/
theorem solo_handle (body : Coro Reply ε α) (onReturn : α → Coro Reply ε β)
    (onRaise : ε → Coro Reply ε β) (state : σ) :
    (body.handle onReturn onRaise).solo answer state =
      (body.solo answer state).bind fun ending =>
        (resumeWith onReturn onRaise ending.1).solo answer ending.2 := by
  induction body generalizing state with
  | ret value => rfl
  | raise exception => rfl
  | call op resume inductionHypothesis =>
      simp only [Coro.handle, solo]
      cases answer state op with
      | none => rfl
      | some answered => exact inductionHypothesis answered.1 answered.2

theorem solo_bind {body : Coro Reply ε α} {next : α → Coro Reply ε β} {state state' : σ} {value : α}
    (runs : body.solo answer state = some (.ok value, state')) :
    (body >>= next).solo answer state = (next value).solo answer state' := by
  rw [bind_eq, solo_handle, runs]
  rfl

/-- The pool reaches the end of a part that runs by itself. -/
theorem solo_reaches {machine : Machine Reply ε σ ι} {name : ι}
    (sound : ∀ {state op outcome next}, answer state op = some (outcome, next) →
      machine.perform name state op outcome next ∧ machine.spawns state op = [])
    {body : Coro Reply ε α} {onReturn : α → Coro Reply ε Unit} {onRaise : ε → Coro Reply ε Unit}
    {state state' : σ} {outcome : Except ε α} (runs : body.solo answer state = some (outcome, state')) :
    Pool.Reaches machine (Pool.single state name (body.handle onReturn onRaise))
      (Pool.single state' name (resumeWith onReturn onRaise outcome)) := by
  induction body generalizing state with
  | ret value =>
      cases runs
      exact Relation.ReflTransGen.refl
  | raise exception =>
      cases runs
      exact Relation.ReflTransGen.refl
  | call op resume inductionHypothesis =>
      simp only [solo] at runs
      split at runs
      · rename_i reply next answered
        obtain ⟨performed, alone⟩ := sound answered
        have step : Pool.Step machine
            ⟨state, [] ++ (name, .call op fun reply => (resume reply).handle onReturn onRaise) :: []⟩
            ⟨next, [] ++ (name, (resume reply).handle onReturn onRaise) :: [] ++
              machine.spawns state op⟩ :=
          .call (fun task member => by cases member) performed
        rw [alone] at step
        exact Relation.ReflTransGen.head step (inductionHypothesis reply runs)
      · cases runs

end Coro

end Coroutine
