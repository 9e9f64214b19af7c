/-
Module: CodaNode.Coroutine.Triple
Layer: Coroutine (library)
Purpose: Pre- and postconditions for one coroutine over a shared state. A triple speaks about every run of
  the coroutine among the moves of the environment: what holds always, where the coroutine returns and
  where it raises. The rules follow the constructors of the coroutine and its handlers; an assertion that
  stands in front of an operation has to survive the environment.
Imports: CodaNode.Coroutine.Alone
Main exports: Machine.Keeps, Triple, Triple.ret, Triple.raise, Triple.perform, Triple.reads, Triple.sure,
  Triple.bind,
  Triple.catching, Triple.consequence, Triple.and, Machine.restrict
-/
import CodaNode.Coroutine.Alone

namespace Coroutine

variable {Op : Type} {Reply : Op → Type} {ε σ ι α β : Type}

/-- The environment leaves the assertion alone. -/
def Machine.Keeps (machine : Machine Reply ε σ ι) (holds : σ → Prop) : Prop :=
  ∀ ⦃state after : σ⦄, machine.env state after → holds state → holds after

/-- An assertion with a fact that does not speak about the state. -/
theorem Machine.Keeps.also {machine : Machine Reply ε σ ι} {holds : σ → Prop} (keeps : machine.Keeps holds)
    (fact : Prop) : machine.Keeps fun state => holds state ∧ fact :=
  fun _ _ move here => ⟨keeps move here.1, here.2⟩

/-- From every state with `pre`, the coroutine stays within `always` and ends as `post` and `failed` say. -/
def Triple (machine : Machine Reply ε σ ι) (name : ι) (always pre : σ → Prop) (body : Coro Reply ε α)
    (post : α → σ → Prop) (failed : ε → σ → Prop) : Prop :=
  ∀ ⦃state last : σ⦄ ⦃rest : Coro Reply ε α⦄, pre state → Coro.Leads machine name state body last rest →
    always last ∧ (∀ value, rest = .ret value → post value last) ∧
      ∀ exception, rest = .raise exception → failed exception last

namespace Triple

variable {machine : Machine Reply ε σ ι} {name : ι} {always pre : σ → Prop} {post : α → σ → Prop}
  {failed : ε → σ → Prop}

theorem ret {value : α} (keeps : machine.Keeps (post value)) (implies : ∀ state, pre state → post value state)
    (safe : ∀ state, post value state → always state) :
    Triple machine name always pre (.ret value) post failed := by
  intro state last rest here leads
  have ends : rest = .ret value ∧ post value last := by
    induction leads with
    | refl => exact ⟨rfl, implies state here⟩
    | env _ move ih => exact ⟨ih.1, keeps move ih.2⟩
    | call _ _ ih => cases ih.1
  obtain ⟨rfl, holds⟩ := ends
  refine ⟨safe last holds, ?_, ?_⟩
  · intro value' same
    cases same
    exact holds
  · intro exception same
    cases same

theorem raise {exception : ε} (keeps : machine.Keeps (failed exception))
    (implies : ∀ state, pre state → failed exception state)
    (safe : ∀ state, failed exception state → always state) :
    Triple machine name always pre (.raise exception) post failed := by
  intro state last rest here leads
  have ends : rest = .raise exception ∧ failed exception last := by
    induction leads with
    | refl => exact ⟨rfl, implies state here⟩
    | env _ move ih => exact ⟨ih.1, keeps move ih.2⟩
    | call _ _ ih => cases ih.1
  obtain ⟨rfl, holds⟩ := ends
  refine ⟨safe last holds, ?_, ?_⟩
  · intro value same
    cases same
  · intro exception' same
    cases same
    exact holds

/-- An operation: every outcome leads to the assertion in front of what follows it. -/
theorem call {op : Op} {resume : Except ε (Reply op) → Coro Reply ε α}
    (middle : Except ε (Reply op) → σ → Prop) (keeps : machine.Keeps pre) (safe : ∀ state, pre state → always state)
    (rows : ∀ {outcome state after}, pre state → machine.perform name state op outcome after →
      middle outcome after)
    (resumed : ∀ outcome, Triple machine name always (middle outcome) (resume outcome) post failed) :
    Triple machine name always pre (.call op resume) post failed := by
  intro state last rest here leads
  have spot : (rest = .call op resume ∧ pre last) ∨
      ∃ outcome between, middle outcome between ∧
        Coro.Leads machine name between (resume outcome) last rest := by
    induction leads with
    | refl => exact .inl ⟨rfl, here⟩
    | env _ move ih =>
        rcases ih with ⟨same, holds⟩ | ⟨outcome, between, holds, leads⟩
        · exact .inl ⟨same, keeps move holds⟩
        · exact .inr ⟨outcome, between, holds, .env leads move⟩
    | call _ performed ih =>
        rcases ih with ⟨same, holds⟩ | ⟨outcome, between, holds, leads⟩
        · cases same
          exact .inr ⟨_, _, rows holds performed, .refl⟩
        · exact .inr ⟨outcome, between, holds, .call leads performed⟩
  rcases spot with ⟨rfl, holds⟩ | ⟨outcome, between, holds, leads⟩
  · refine ⟨safe last holds, ?_, ?_⟩
    · intro value same
      cases same
    · intro exception same
      cases same
  · exact resumed outcome holds leads

theorem consequence {always' pre' : σ → Prop} {post' : α → σ → Prop} {failed' : ε → σ → Prop}
    {body : Coro Reply ε α} (triple : Triple machine name always pre body post failed)
    (before : ∀ state, pre' state → pre state) (meanwhile : ∀ state, always state → always' state)
    (returns : ∀ value state, post value state → post' value state)
    (raises : ∀ exception state, failed exception state → failed' exception state) :
    Triple machine name always' pre' body post' failed' := by
  intro state last rest here leads
  obtain ⟨safe, returned, raised⟩ := triple (before state here) leads
  exact ⟨meanwhile last safe, fun value same => returns value last (returned value same),
    fun exception same => raises exception last (raised exception same)⟩

/-- Two triples of one coroutine. -/
theorem and {always' pre' : σ → Prop} {post' : α → σ → Prop} {failed' : ε → σ → Prop} {body : Coro Reply ε α}
    (first : Triple machine name always pre body post failed)
    (second : Triple machine name always' pre' body post' failed') :
    Triple machine name (fun state => always state ∧ always' state) (fun state => pre state ∧ pre' state) body
      (fun value state => post value state ∧ post' value state)
      fun exception state => failed exception state ∧ failed' exception state := by
  intro state last rest here leads
  obtain ⟨safe, returned, raised⟩ := first here.1 leads
  obtain ⟨safe', returned', raised'⟩ := second here.2 leads
  exact ⟨⟨safe, safe'⟩, fun value same => ⟨returned value same, returned' value same⟩,
    fun exception same => ⟨raised exception same, raised' exception same⟩⟩

/-- When only what the coroutine returns matters. -/
theorem returns {body : Coro Reply ε α} (triple : Triple machine name always pre body post failed) :
    Triple machine name (fun _ => True) pre body post fun _ _ => True := by
  apply triple.consequence
  · intro _ here
    exact here
  · intro _ _
    trivial
  · intro _ _ here
    exact here
  · intro _ _ _
    trivial

theorem perform {op : Op} {post : Reply op → σ → Prop} (keeps : machine.Keeps pre)
    (safe : ∀ state, pre state → always state)
    (returned : ∀ {value state after}, pre state → machine.perform name state op (.ok value) after →
      post value after)
    (raised : ∀ {exception state after}, pre state → machine.perform name state op (.error exception) after →
      failed exception after)
    (kept : ∀ value, machine.Keeps (post value)) (keptFailed : ∀ exception, machine.Keeps (failed exception))
    (safeReturn : ∀ value state, post value state → always state)
    (safeRaise : ∀ exception state, failed exception state → always state) :
    Triple machine name always pre (Coro.perform op) post failed := by
  let middle : Except ε (Reply op) → σ → Prop := fun outcome state =>
    (∀ value, outcome = .ok value → post value state) ∧
      ∀ exception, outcome = .error exception → failed exception state
  refine call middle keeps safe ?_ ?_
  · intro outcome state after here performed
    constructor
    · rintro value rfl
      exact returned here performed
    · rintro exception rfl
      exact raised here performed
  · intro outcome
    cases outcome with
    | ok value =>
        have held : ∀ state, middle (.ok value) state → post value state := fun _ holds => holds.1 value rfl
        exact consequence (ret (kept value) (fun _ holds => holds) (safeReturn value)) held
          (fun _ holds => holds) (fun _ _ holds => holds) fun _ _ holds => holds
    | error exception =>
        have held : ∀ state, middle (.error exception) state → failed exception state :=
          fun _ holds => holds.2 exception rfl
        exact consequence (raise (keptFailed exception) (fun _ holds => holds) (safeRaise exception)) held
          (fun _ holds => holds) (fun _ _ holds => holds) fun _ _ holds => holds

/-- An operation when only what it returns matters. -/
theorem performed {op : Op} {post : Reply op → σ → Prop} (keeps : machine.Keeps pre)
    (returned : ∀ {value state after}, pre state → machine.perform name state op (.ok value) after →
      post value after)
    (kept : ∀ value, machine.Keeps (post value)) :
    Triple machine name (fun _ => True) pre (Coro.perform op) post fun _ _ => True := by
  apply perform keeps _ returned _ kept
  · intro _ _ _ _ _
    trivial
  · intro _ _ _
    trivial
  · intro _ _ _
    trivial
  · intro _ _
    trivial
  · intro _ _ _ _ _
    trivial

/-- An operation that changes nothing and has one answer. -/
theorem reads {op : Op} {answer : Except ε (Reply op)} (keeps : machine.Keeps pre)
    (rows : ∀ {outcome state after}, pre state → machine.perform name state op outcome after →
      outcome = answer ∧ after = state) :
    Triple machine name pre pre (Coro.perform op) (fun value state => pre state ∧ answer = .ok value)
      fun exception state => pre state ∧ answer = .error exception := by
  apply perform keeps
  · intro _ here
    exact here
  · intro value state after here performed
    obtain ⟨same, rfl⟩ := rows here performed
    exact ⟨here, same.symm⟩
  · intro exception state after here performed
    obtain ⟨same, rfl⟩ := rows here performed
    exact ⟨here, same.symm⟩
  · intro value
    exact keeps.also _
  · intro exception
    exact keeps.also _
  · intro _ _ here
    exact here.1
  · intro _ _ here
    exact here.1

/-- An operation that raises nothing. -/
theorem sure {op : Op} {post : Reply op → σ → Prop} (keeps : machine.Keeps pre)
    (safe : ∀ state, pre state → always state)
    (never : ∀ {exception state after}, pre state → ¬ machine.perform name state op (.error exception) after)
    (returned : ∀ {value state after}, pre state → machine.perform name state op (.ok value) after →
      post value after)
    (kept : ∀ value, machine.Keeps (post value)) (safeReturn : ∀ value state, post value state → always state) :
    Triple machine name always pre (Coro.perform op) post failed := by
  have impossible : Triple machine name always pre (Coro.perform op) post fun _ _ => False := by
    apply perform keeps safe returned _ kept _ safeReturn
    · intro _ _ here
      exact here.elim
    · intro exception state after here performed
      exact never here performed
    · intro _ _ _ _ here
      exact here
  apply impossible.consequence
  · intro _ here
    exact here
  · intro _ here
    exact here
  · intro _ _ here
    exact here
  · intro _ _ here
    exact here.elim

/-- A pure computation that may fail. -/
theorem ofExcept {outcome : Except ε α} (keeps : machine.Keeps pre) :
    Triple machine name pre pre (Coro.ofExcept outcome) (fun value state => pre state ∧ outcome = .ok value)
      fun exception state => pre state ∧ outcome = .error exception := by
  cases outcome with
  | ok value =>
      apply ret (keeps.also _)
      · intro _ here
        exact ⟨here, rfl⟩
      · intro _ here
        exact here.1
  | error exception =>
      apply raise (keeps.also _)
      · intro _ here
        exact ⟨here, rfl⟩
      · intro _ here
        exact here.1

/-- Where a coroutine with a continuation is: in its first part, or in what follows an end of it. -/
theorem handle_spot {body : Coro Reply ε α} {next : α → Coro Reply ε β} {handler : ε → Coro Reply ε β}
    {state last : σ} {rest : Coro Reply ε β}
    (leads : Coro.Leads machine name state (body.handle next handler) last rest) :
    (∃ first, rest = first.handle next handler ∧ Coro.Leads machine name state body last first) ∨
      (∃ value middle, Coro.Leads machine name state body middle (.ret value) ∧
        Coro.Leads machine name middle (next value) last rest) ∨
      ∃ exception middle, Coro.Leads machine name state body middle (.raise exception) ∧
        Coro.Leads machine name middle (handler exception) last rest := by
  induction leads with
  | refl => exact .inl ⟨body, rfl, .refl⟩
  | env _ move ih =>
      rcases ih with ⟨first, same, leads⟩ | ⟨value, middle, ended, leads⟩ | ⟨exception, middle, ended, leads⟩
      · exact .inl ⟨first, same, .env leads move⟩
      · exact .inr (.inl ⟨value, middle, ended, .env leads move⟩)
      · exact .inr (.inr ⟨exception, middle, ended, .env leads move⟩)
  | call _ performed ih =>
      rcases ih with ⟨first, same, leads⟩ | ⟨value, middle, ended, leads⟩ | ⟨exception, middle, ended, leads⟩
      · cases first with
        | ret value =>
            rw [Coro.handle_ret] at same
            exact .inr (.inl ⟨value, _, leads, same ▸ .call .refl performed⟩)
        | raise exception =>
            rw [Coro.handle_raise] at same
            exact .inr (.inr ⟨exception, _, leads, same ▸ .call .refl performed⟩)
        | call op resume =>
            cases same
            exact .inl ⟨_, rfl, .call leads performed⟩
      · exact .inr (.inl ⟨value, middle, ended, .call leads performed⟩)
      · exact .inr (.inr ⟨exception, middle, ended, .call leads performed⟩)

/-- A coroutine with a continuation. -/
theorem handle {body : Coro Reply ε α} {next : α → Coro Reply ε β} {handler : ε → Coro Reply ε β}
    {middle : α → σ → Prop} {caught : ε → σ → Prop} {post : β → σ → Prop}
    (head : Triple machine name always pre body middle caught)
    (returned : ∀ value, Triple machine name always (middle value) (next value) post failed)
    (raised : ∀ exception, Triple machine name always (caught exception) (handler exception) post failed) :
    Triple machine name always pre (body.handle next handler) post failed := by
  intro state last rest here leads
  rcases handle_spot leads with ⟨first, rfl, inside⟩ | ⟨value, between, ended, leads⟩ |
    ⟨exception, between, ended, leads⟩
  · obtain ⟨safe, returns, raises⟩ := head here inside
    cases first with
    | ret value => exact returned value (returns value rfl) .refl
    | raise exception => exact raised exception (raises exception rfl) .refl
    | call op resume =>
        refine ⟨safe, ?_, ?_⟩
        · intro value same
          cases same
        · intro exception same
          cases same
  · exact returned value ((head here ended).2.1 value rfl) leads
  · exact raised exception ((head here ended).2.2 exception rfl) leads

/-- What a coroutine has raised stays raised. -/
theorem raised_leads {body : Coro Reply ε α} {state middle last : σ} {rest : Coro Reply ε β} {exception : ε}
    (ended : Coro.Leads machine name state body middle (.raise exception))
    (leads : Coro.Leads machine name middle (.raise exception) last rest) :
    rest = .raise exception ∧ Coro.Leads machine name state body last (.raise exception) := by
  induction leads with
  | refl => exact ⟨rfl, ended⟩
  | env _ move ih => exact ⟨ih.1, .env ih.2 move⟩
  | call _ _ ih => cases ih.1

/-- One part behind the other. -/
theorem bind {body : Coro Reply ε α} {next : α → Coro Reply ε β} {middle : α → σ → Prop} {post : β → σ → Prop}
    (head : Triple machine name always pre body middle failed)
    (tail : ∀ value, Triple machine name always (middle value) (next value) post failed) :
    Triple machine name always pre (body >>= next) post failed := by
  intro state last rest here leads
  rw [Coro.bind_eq] at leads
  rcases handle_spot leads with ⟨first, rfl, inside⟩ | ⟨value, between, ended, leads⟩ |
    ⟨exception, between, ended, leads⟩
  · obtain ⟨safe, returns, raises⟩ := head here inside
    cases first with
    | ret value => exact tail value (returns value rfl) .refl
    | raise exception =>
        refine ⟨safe, ?_, ?_⟩
        · intro value same
          cases same
        · intro exception' same
          cases same
          exact raises exception rfl
    | call op resume =>
        refine ⟨safe, ?_, ?_⟩
        · intro value same
          cases same
        · intro exception same
          cases same
  · exact tail value ((head here ended).2.1 value rfl) leads
  · obtain ⟨rfl, ended⟩ := raised_leads ended leads
    obtain ⟨safe, -, raises⟩ := head here ended
    refine ⟨safe, ?_, ?_⟩
    · intro value same
      cases same
    · intro exception' same
      cases same
      exact raises exception rfl

end Triple

/-! ### Invariants -/

namespace Coro

/-- The coroutine issues only operations that are allowed, whatever they return. -/
def Issues (allowed : Op → Prop) : Coro Reply ε α → Prop
  | .ret _ | .raise _ => True
  | .call op resume => allowed op ∧ ∀ outcome, Issues allowed (resume outcome)

variable {allowed : Op → Prop}

theorem Issues.perform {op : Op} (permitted : allowed op) :
    (Coro.perform op : Coro Reply ε (Reply op)).Issues allowed := by
  refine ⟨permitted, fun outcome => ?_⟩
  cases outcome <;> trivial

theorem Issues.imp {allowed' : Op → Prop} (implies : ∀ op, allowed op → allowed' op) {body : Coro Reply ε α}
    (issues : body.Issues allowed) : body.Issues allowed' := by
  induction body with
  | ret value => trivial
  | raise exception => trivial
  | call op resume ih => exact ⟨implies op issues.1, fun outcome => ih outcome (issues.2 outcome)⟩

theorem Issues.handle {body : Coro Reply ε α} {next : α → Coro Reply ε β} {handler : ε → Coro Reply ε β}
    (head : body.Issues allowed) (returned : ∀ value, (next value).Issues allowed)
    (raised : ∀ exception, (handler exception).Issues allowed) : (body.handle next handler).Issues allowed := by
  induction body with
  | ret value => exact returned value
  | raise exception => exact raised exception
  | call op resume ih => exact ⟨head.1, fun outcome => ih outcome (head.2 outcome)⟩

theorem Issues.bind {body : Coro Reply ε α} {next : α → Coro Reply ε β} (head : body.Issues allowed)
    (tail : ∀ value, (next value).Issues allowed) : (body >>= next).Issues allowed :=
  head.handle tail fun _ => trivial

end Coro

/-- What the environment and the allowed operations leave alone holds throughout. -/
theorem Triple.invariant {machine : Machine Reply ε σ ι} {name : ι} {holds : σ → Prop} {allowed : Op → Prop}
    {body : Coro Reply ε α} (keeps : machine.Keeps holds)
    (kept : ∀ ⦃op outcome state after⦄, allowed op → machine.perform name state op outcome after →
      holds state → holds after)
    (issues : body.Issues allowed) :
    Triple machine name holds holds body (fun _ => holds) (fun _ => holds) := by
  induction body with
  | ret value => exact .ret keeps (fun _ here => here) fun _ here => here
  | raise exception => exact .raise keeps (fun _ here => here) fun _ here => here
  | call op resume ih =>
      refine .call (fun _ => holds) keeps (fun _ here => here) ?_ fun outcome => ih outcome (issues.2 outcome)
      intro outcome state after here performed
      exact kept issues.1 performed here

theorem Coro.Issues.any (body : Coro Reply ε α) : body.Issues fun _ => True := by
  induction body with
  | ret value => trivial
  | raise exception => trivial
  | call op resume ih => exact ⟨trivial, ih⟩

/-! ### Restriction -/

/-- The machine with those steps alone that are allowed. -/
def Machine.restrict (machine : Machine Reply ε σ ι)
    (allowed : σ → (op : Op) → Except ε (Reply op) → σ → Prop) : Machine Reply ε σ ι where
  perform name state op outcome after := machine.perform name state op outcome after ∧ allowed state op outcome after
  spawns := machine.spawns
  env := machine.env
  isLocal := machine.isLocal

/-- A run of allowed steps is a run. -/
theorem Coro.Leads.unrestricted {machine : Machine Reply ε σ ι} {name : ι}
    {allowed : σ → (op : Op) → Except ε (Reply op) → σ → Prop} {state last : σ} {body rest : Coro Reply ε α}
    (leads : Leads (machine.restrict allowed) name state body last rest) : Leads machine name state body last rest := by
  induction leads with
  | refl => exact .refl
  | env _ move ih => exact .env ih move
  | call _ performed ih => exact .call ih performed.1

theorem Triple.restrict {machine : Machine Reply ε σ ι} {name : ι} {always pre : σ → Prop} {post : α → σ → Prop}
    {failed : ε → σ → Prop} {body : Coro Reply ε α} (triple : Triple machine name always pre body post failed)
    (allowed : σ → (op : Op) → Except ε (Reply op) → σ → Prop) :
    Triple (machine.restrict allowed) name always pre body post failed := by
  intro state last rest here leads
  exact triple here leads.unrestricted

/-- What nothing is known about. -/
theorem Triple.any {machine : Machine Reply ε σ ι} {name : ι} {pre : σ → Prop} (body : Coro Reply ε α) :
    Triple machine name (fun _ => True) pre body (fun _ _ => True) fun _ _ => True := by
  have kept : Triple machine name (fun _ => True) (fun _ => True) body (fun _ _ => True) fun _ _ => True :=
    Triple.invariant (fun _ _ _ here => here) (fun _ _ _ _ _ _ here => here) (Coro.Issues.any body)
  intro state last rest _ leads
  exact kept trivial leads

end Coroutine
