/-
Module: CodaNode.Coroutine.Alone
Layer: Coroutine (library)
Purpose: One coroutine over a shared state, with the value it returns. `Leads` is a run of it among the
  moves of the environment. `Tracks.leads` is the simulation for such runs: a table whose rows preserve
  an assertion tells what holds where the coroutine returns.
Imports: CodaNode.Coroutine.Automaton, CodaNode.Coroutine.Solo
Main exports: Coro.Leads, Coro.Tracks.leads, Coro.solo_leads, Coro.amid_leads
-/
import CodaNode.Coroutine.Automaton
import CodaNode.Coroutine.Solo

namespace Coroutine

variable {Op : Type} {Reply : Op → Type} {ε σ ι α S : Type}

namespace Coro

/-- A coroutine that runs by itself gets from one state to another, and this is left of it. -/
inductive Leads (machine : Machine Reply ε σ ι) (name : ι) (state : σ) (body : Coro Reply ε α) :
    σ → Coro Reply ε α → Prop where
  | refl : Leads machine name state body state body
  | env {middle last : σ} {rest : Coro Reply ε α} (earlier : Leads machine name state body middle rest)
      (move : machine.env middle last) : Leads machine name state body last rest
  | call {middle last : σ} {op : Op} {resume : Except ε (Reply op) → Coro Reply ε α}
      {outcome : Except ε (Reply op)}
      (earlier : Leads machine name state body middle (.call op resume))
      (performed : machine.perform name middle op outcome last) :
      Leads machine name state body last (resume outcome)

/-- What the environment and the rows preserve holds at some stage the rest of the coroutine is at. -/
theorem Tracks.leads {machine : Machine Reply ε σ ι} {name : ι}
    {possible : (op : Op) → Except ε (Reply op) → Prop}
    {move : S → (op : Op) → Except ε (Reply op) → S → Prop} {holds : S → σ → Prop}
    (feasible : ∀ {state op outcome after}, machine.perform name state op outcome after →
      possible op outcome)
    (occur : ∀ {stage state after}, machine.env state after → holds stage state → holds stage after)
    (row : ∀ {stage op outcome later state after}, move stage op outcome later →
      machine.perform name state op outcome after → holds stage state → holds later after)
    {onReturn : α → S → Prop} {onRaise : ε → S → Prop} {body rest : Coro Reply ε α} {stage : S}
    {state last : σ} (tracks : Tracks possible move onReturn onRaise body stage)
    (here : holds stage state) (leads : Leads machine name state body last rest) :
    ∃ later, Tracks possible move onReturn onRaise rest later ∧ holds later last := by
  induction leads with
  | refl => exact ⟨stage, tracks, here⟩
  | env _ moved inductionHypothesis =>
      obtain ⟨later, tracks', here'⟩ := inductionHypothesis
      exact ⟨later, tracks', occur moved here'⟩
  | call _ performed inductionHypothesis =>
      obtain ⟨middle, tracks', here'⟩ := inductionHypothesis
      obtain ⟨later, moved, tracks''⟩ := tracks'.2 _ (feasible performed)
      exact ⟨later, tracks'', row moved performed here'⟩

theorem Leads.trans {machine : Machine Reply ε σ ι} {name : ι} {state middle last : σ}
    {body between rest : Coro Reply ε α} (first : Leads machine name state body middle between)
    (second : Leads machine name middle between last rest) :
    Leads machine name state body last rest := by
  induction second with
  | refl => exact first
  | env _ moved inductionHypothesis => exact .env inductionHypothesis moved
  | call _ performed inductionHypothesis => exact .call inductionHypothesis performed

/-- A computed run is a run. -/
theorem solo_leads {machine : Machine Reply ε σ ι} {name : ι}
    {answer : σ → (op : Op) → Option (Except ε (Reply op) × σ)}
    (sound : ∀ {state op outcome next}, answer state op = some (outcome, next) →
      machine.perform name state op outcome next)
    {body : Coro Reply ε α} {state last : σ} {outcome : Except ε α}
    (runs : body.solo answer state = some (outcome, last)) :
    Leads machine name state body last (resumeWith .ret .raise outcome) := by
  induction body generalizing state with
  | ret value =>
      cases runs
      exact .refl
  | raise exception =>
      cases runs
      exact .refl
  | call op resume inductionHypothesis =>
      simp only [solo] at runs
      split at runs
      · rename_i reply next answered
        exact (Leads.call .refl (sound answered)).trans (inductionHypothesis reply runs)
      · cases runs

/-- A computed run is a run, when the answers are right wherever an assertion holds that they keep. -/
theorem solo_leads_while {machine : Machine Reply ε σ ι} {name : ι}
    {answer : σ → (op : Op) → Option (Except ε (Reply op) × σ)} {holds : σ → Prop}
    (sound : ∀ {state op outcome next}, holds state → answer state op = some (outcome, next) →
      machine.perform name state op outcome next ∧ holds next)
    {body : Coro Reply ε α} {state last : σ} {outcome : Except ε α} (here : holds state)
    (runs : body.solo answer state = some (outcome, last)) :
    Leads machine name state body last (resumeWith .ret .raise outcome) := by
  induction body generalizing state with
  | ret value =>
      cases runs
      exact .refl
  | raise exception =>
      cases runs
      exact .refl
  | call op resume inductionHypothesis =>
      simp only [solo] at runs
      split at runs
      · next reply next answered =>
        obtain ⟨performed, after⟩ := sound here answered
        exact (Leads.call .refl performed).trans (inductionHypothesis reply after runs)
      · cases runs

/-- A scripted run among events: at `none` the coroutine does its next operation. -/
def amid {Event : Type} (answer : σ → (op : Op) → Option (Except ε (Reply op) × σ))
    (occur : Event → σ → Option σ) : List (Option Event) → σ → Coro Reply ε α → Option (σ × Coro Reply ε α)
  | [], state, body => some (state, body)
  | some event :: script, state, body =>
      match occur event state with
      | some next => amid answer occur script next body
      | none => none
  | none :: script, state, .call op resume =>
      match answer state op with
      | some (outcome, next) => amid answer occur script next (resume outcome)
      | none => none
  | none :: _, _, _ => none

/-- A scripted run is a run. -/
theorem amid_leads {Event : Type} {machine : Machine Reply ε σ ι} {name : ι}
    {answer : σ → (op : Op) → Option (Except ε (Reply op) × σ)} {occur : Event → σ → Option σ}
    (sound : ∀ {state op outcome next}, answer state op = some (outcome, next) →
      machine.perform name state op outcome next)
    (happens : ∀ {event state next}, occur event state = some next → machine.env state next)
    {script : List (Option Event)} {body rest : Coro Reply ε α} {state last : σ}
    (runs : amid answer occur script state body = some (last, rest)) :
    Leads machine name state body last rest := by
  induction script generalizing state body with
  | nil =>
      cases runs
      exact .refl
  | cons turn script inductionHypothesis =>
      cases turn with
      | some event =>
          simp only [amid] at runs
          split at runs
          · rename_i next occurred
            exact (Leads.env .refl (happens occurred)).trans (inductionHypothesis runs)
          · cases runs
      | none =>
          cases body with
          | ret value => cases runs
          | raise exception => cases runs
          | call op resume =>
              simp only [amid] at runs
              split at runs
              · rename_i outcome next answered
                exact (Leads.call .refl (sound answered)).trans (inductionHypothesis runs)
              · cases runs

end Coro

end Coroutine
