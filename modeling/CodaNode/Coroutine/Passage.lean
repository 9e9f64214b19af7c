/-
Module: CodaNode.Coroutine.Passage
Layer: Coroutine (library)
Purpose: What happened on the way of one coroutine. A run that has returned is taken apart at its
  continuations, and `Meets` says that some operation on it ended in a given way; it is found in a part and
  carried to the whole.
Imports: CodaNode.Coroutine.Triple
Main exports: Coro.bind_returns, Coro.completes, Coro.Meets, Coro.meets_perform, Coro.Meets.head, Coro.Meets.tail
-/
import CodaNode.Coroutine.Triple

namespace Coroutine

namespace Coro

variable {Op : Type} {Reply : Op → Type} {ε σ ι α β : Type} {machine : Machine Reply ε σ ι} {name : ι}
  {state middle last : σ}

/-- The head of a run with a continuation. -/
theorem Leads.bind {body rest : Coro Reply ε α} (leads : Leads machine name state body last rest)
    (next : α → Coro Reply ε β) : Leads machine name state (body >>= next) last (rest >>= next) := by
  induction leads with
  | refl => exact .refl
  | env _ move ih => exact .env ih move
  | call _ performed ih => exact .call ih performed

/-- What follows a part that has returned. -/
theorem Leads.returns {body : Coro Reply ε α} {value : α}
    (leads : Leads machine name state body last (.ret value)) (next : α → Coro Reply ε β) :
    Leads machine name state (body >>= next) last (next value) :=
  leads.bind next

/-- A part that has raised has raised in the whole. -/
theorem Leads.raises {body : Coro Reply ε α} {exception : ε}
    (leads : Leads machine name state body last (.raise exception)) (next : α → Coro Reply ε β) :
    Leads machine name state (body >>= next) last (.raise exception) :=
  leads.bind next

theorem Leads.handle {body rest : Coro Reply ε α} (leads : Leads machine name state body last rest)
    (next : α → Coro Reply ε β) (handler : ε → Coro Reply ε β) :
    Leads machine name state (body.handle next handler) last (rest.handle next handler) := by
  induction leads with
  | refl => exact .refl
  | env _ move ih => exact .env ih move
  | call _ performed ih => exact .call ih performed

/-- An operation that returns. -/
theorem Leads.perform {op : Op} {value : Reply op} {after : σ}
    (performed : machine.perform name state op (.ok value) after) :
    Leads machine name state (Coro.perform op) after (.ret value) :=
  .call .refl performed

/-- A coroutine whose operations are all answered, at the latest after some moves of the environment, can always be
run to an end. -/
theorem completes
    (answers : ∀ state op, ∃ between outcome after, Relation.ReflTransGen machine.env state between ∧
      machine.perform name between op outcome after)
    (body : Coro Reply ε α) (state : σ) :
    ∃ last outcome, Leads machine name state body last (resumeWith .ret .raise outcome) := by
  induction body generalizing state with
  | ret value => exact ⟨state, .ok value, .refl⟩
  | raise exception => exact ⟨state, .error exception, .refl⟩
  | call op resume ih =>
      obtain ⟨between, outcome, after, moves, performed⟩ := answers state op
      have waits : Leads machine name state (.call op resume) between (.call op resume) := by
        clear performed
        induction moves with
        | refl => exact .refl
        | tail _ move leads => exact .env leads move
      obtain ⟨last, ending, leads⟩ := ih outcome after
      exact ⟨last, ending, (Leads.call waits performed).trans leads⟩

/-- On the way an operation ended as `event` says. -/
def Meets (machine : Machine Reply ε σ ι) (name : ι) (event : (op : Op) → Except ε (Reply op) → Prop)
    (state : σ) (body : Coro Reply ε α) (last : σ) (rest : Coro Reply ε α) : Prop :=
  ∃ front behind op resume outcome, Leads machine name state body front (.call op resume) ∧
    machine.perform name front op outcome behind ∧ event op outcome ∧
    Leads machine name behind (resume outcome) last rest

variable {event : (op : Op) → Except ε (Reply op) → Prop}

theorem Meets.leads {body rest : Coro Reply ε α} (meets : Meets machine name event state body last rest) :
    Leads machine name state body last rest := by
  obtain ⟨front, behind, op, resume, outcome, before, performed, -, after⟩ := meets
  exact (Leads.call before performed).trans after

/-- What happened in the first part. -/
theorem Meets.head {body : Coro Reply ε α} {next : α → Coro Reply ε β} {rest : Coro Reply ε β} {value : α}
    (meets : Meets machine name event state body middle (.ret value))
    (later : Leads machine name middle (next value) last rest) :
    Meets machine name event state (body >>= next) last rest := by
  obtain ⟨front, behind, op, resume, outcome, before, performed, holds, after⟩ := meets
  exact ⟨front, behind, op, _, outcome, before.bind next, performed, holds, (after.bind next).trans later⟩

/-- What happened in the second part. -/
theorem Meets.tail {body : Coro Reply ε α} {next : α → Coro Reply ε β} {rest : Coro Reply ε β} {value : α}
    (earlier : Leads machine name state body middle (.ret value))
    (meets : Meets machine name event middle (next value) last rest) :
    Meets machine name event state (body >>= next) last rest := by
  obtain ⟨front, behind, op, resume, outcome, before, performed, holds, after⟩ := meets
  exact ⟨front, behind, op, resume, outcome, (earlier.bind next).trans before, performed, holds, after⟩

end Coro

end Coroutine
