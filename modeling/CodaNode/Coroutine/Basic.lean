/-
Module: CodaNode.Coroutine.Basic
Layer: Coroutine (library)
Purpose: Coroutines as trees. A coroutine has ended with a value, has ended with an exception, or is
  suspended in one operation and says how it goes on for every outcome of it. The trees form a monad
  with exceptions; `catching` and `finally` are the two handlers of the source language, and both are
  instances of one operator, `handle`. Loops over a list are structural. A loop without a bound is
  written with fuel and ends in an operation that nothing answers.
Imports: none
Main exports: Coro, Coro.handle, Coro.catching, Coro.finally, Coro.forEach,
  Coro.collect
-/

namespace Coroutine

/-- What a coroutine can still do. `Reply op` is the type of the value operation `op` returns and
`ε` the type of exceptions, which an operation may raise instead. -/
inductive Coro {Op : Type} (Reply : Op → Type) (ε α : Type) where
  | ret (value : α)
  | raise (exception : ε)
  | call (op : Op) (resume : Except ε (Reply op) → Coro Reply ε α)

namespace Coro

variable {Op : Type} {Reply : Op → Type} {ε α β : Type}

/-- Continue a coroutine after its end: `onReturn` takes its value, `onRaise` its exception. -/
def handle (body : Coro Reply ε α) (onReturn : α → Coro Reply ε β)
    (onRaise : ε → Coro Reply ε β) : Coro Reply ε β :=
  match body with
  | .ret value => onReturn value
  | .raise exception => onRaise exception
  | .call op resume => .call op fun outcome => (resume outcome).handle onReturn onRaise

instance : Monad (Coro Reply ε) where
  pure := .ret
  bind body next := body.handle next .raise

/-- Suspend in one operation and end with its outcome. -/
def perform (op : Op) : Coro Reply ε (Reply op) :=
  .call op fun
    | .ok value => .ret value
    | .error exception => .raise exception

/-- The value of a pure computation that may fail. -/
def ofExcept : Except ε α → Coro Reply ε α
  | .ok value => .ret value
  | .error exception => .raise exception

/-- `try: body except e: handler e`. -/
def catching (body : Coro Reply ε α) (handler : ε → Coro Reply ε α) : Coro Reply ε α :=
  body.handle .ret handler

/-- `try: body finally: cleanup`. An exception of the cleanup replaces the outcome of the body. -/
def «finally» (body : Coro Reply ε α) (cleanup : Coro Reply ε Unit) : Coro Reply ε α :=
  body.handle (fun value => cleanup.handle (fun _ => .ret value) .raise)
    (fun exception => cleanup.handle (fun _ => .raise exception) .raise)

/-- `for item in items: body item`. -/
def forEach {τ : Type} (items : List τ) (body : τ → Coro Reply ε Unit) : Coro Reply ε Unit :=
  match items with
  | [] => .ret ()
  | item :: rest => do
      body item
      forEach rest body

/-- `[body item for item in items]`, left to right. -/
def collect {τ : Type} (items : List τ) (body : τ → Coro Reply ε α) : Coro Reply ε (List α) :=
  match items with
  | [] => .ret []
  | item :: rest => do
      let value ← body item
      let values ← collect rest body
      return value :: values

@[simp] theorem handle_ret (value : α) (onReturn : α → Coro Reply ε β)
    (onRaise : ε → Coro Reply ε β) : (ret value).handle onReturn onRaise = onReturn value := rfl

@[simp] theorem handle_raise (exception : ε) (onReturn : α → Coro Reply ε β)
    (onRaise : ε → Coro Reply ε β) :
    (raise exception : Coro Reply ε α).handle onReturn onRaise = onRaise exception := rfl

@[simp] theorem ret_bind (value : α) (next : α → Coro Reply ε β) :
    (ret value : Coro Reply ε α) >>= next = next value := rfl

@[simp] theorem raise_bind (exception : ε) (next : α → Coro Reply ε β) :
    (raise exception : Coro Reply ε α) >>= next = raise exception := rfl

theorem bind_eq (body : Coro Reply ε α) (next : α → Coro Reply ε β) :
    body >>= next = body.handle next .raise := rfl

end Coro

end Coroutine
