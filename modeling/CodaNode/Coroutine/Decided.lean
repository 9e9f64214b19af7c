/-
Module: CodaNode.Coroutine.Decided
Layer: Coroutine (library)
Purpose: Conditions that decide how a coroutine ends. Where the condition holds, no run raises; where it does
  not, some run does. The rules put such conditions together along a program, when every operation is
  answered sooner or later.
Imports: CodaNode.Coroutine.Passage
Main exports: Decided, Decided.handle, Decided.bind, Decided.also, Decided.iff
-/
import CodaNode.Coroutine.Passage

namespace Coroutine

variable {Op : Type} {Reply : Op → Type} {ε σ ι α β : Type}

/-- From every state with `pre`, the coroutine raises nothing and returns as `post` says when the condition holds, and
some run of it raises when it does not. -/
structure Decided (machine : Machine Reply ε σ ι) (name : ι) (pre : σ → Prop) (body : Coro Reply ε α) (fine : Prop)
    (post : α → σ → Prop) : Prop where
  returns : fine → Triple machine name (fun _ => True) pre body post fun _ _ => False
  raises : ¬ fine → ∀ state, pre state → ∃ last exception, Coro.Leads machine name state body last (.raise exception)

/-- Every operation is answered, at the latest after some moves of the environment. -/
def Machine.Answers (machine : Machine Reply ε σ ι) (name : ι) : Prop :=
  ∀ state op, ∃ between outcome after, Relation.ReflTransGen machine.env state between ∧
    machine.perform name between op outcome after

namespace Decided

variable {machine : Machine Reply ε σ ι} {name : ι} {pre : σ → Prop} {body : Coro Reply ε α} {fine fine' : Prop}
  {post : α → σ → Prop}

theorem congr (decided : Decided machine name pre body fine post) (same : fine ↔ fine') :
    Decided machine name pre body fine' post where
  returns holds := decided.returns (same.mpr holds)
  raises fails := decided.raises fun holds => fails (same.mp holds)

theorem weaken {pre' : σ → Prop} {post' : α → σ → Prop} (decided : Decided machine name pre body fine post)
    (before : ∀ state, pre' state → pre state) (after : ∀ value state, post value state → post' value state) :
    Decided machine name pre' body fine post' where
  returns holds :=
    (decided.returns holds).consequence before (fun _ _ => trivial) after fun _ _ impossible => impossible
  raises fails state here := decided.raises fails state (before state here)

/-- A triple without exceptions, where the condition holds anyway. -/
theorem sure (triple : Triple machine name (fun _ => True) pre body post fun _ _ => False)
    (known : ∀ state, pre state → fine) : Decided machine name pre body fine post where
  returns _ := triple
  raises fails state here := absurd (known state here) fails

theorem ret {value : α} (keeps : machine.Keeps (post value)) (implies : ∀ state, pre state → post value state)
    (known : ∀ state, pre state → fine) : Decided machine name pre (.ret value) fine post :=
  sure (Triple.ret keeps implies fun _ _ => trivial) known

/-- An exception is raised where the condition does not hold. -/
theorem raise (exception : ε) (refuted : ∀ state, pre state → ¬ fine) :
    Decided machine name pre (.raise exception) fine post where
  returns holds state _ _ here := absurd holds (refuted state here)
  raises _ state _ := ⟨state, exception, .refl⟩

/-- A fact in the precondition that does not speak about the state. -/
theorem given {fact : Prop} (decided : fact → Decided machine name pre body fine post) :
    Decided machine name (fun state => pre state ∧ fact) body fine post where
  returns holds _ _ _ here leads := (decided here.2).returns holds here.1 leads
  raises fails state here := (decided here.2).raises fails state here.1

/-- A condition without which some run raises. -/
theorem also {needed : Prop} (decided : needed → Decided machine name pre body fine post)
    (raises : ¬ needed → ∀ state, pre state →
      ∃ last exception, Coro.Leads machine name state body last (.raise exception)) :
    Decided machine name pre body (needed ∧ fine) post where
  returns holds := (decided holds.1).returns holds.2
  raises fails state here := by
    by_cases met : needed
    · exact (decided met).raises (fun holds => fails ⟨met, holds⟩) state here
    · exact raises met state here

/-- An operation that changes nothing and has one answer. -/
theorem reads {op : Op} {answer : Except ε (Reply op)} (keeps : machine.Keeps pre)
    (rows : ∀ {outcome state after}, pre state → machine.perform name state op outcome after →
      outcome = answer ∧ after = state)
    (can : ∀ state, pre state → machine.perform name state op answer state) :
    Decided machine name pre (Coro.perform op) (∃ value, answer = .ok value)
      fun value state => pre state ∧ answer = .ok value where
  returns := by
    rintro ⟨value, answered⟩
    apply (Triple.reads keeps rows).consequence
    · intro _ here
      exact here
    · intro _ _
      trivial
    · intro _ _ here
      exact here
    · intro exception state here
      rw [answered] at here
      cases here.2
  raises := by
    intro fails state here
    cases answered : answer with
    | ok value => exact absurd ⟨value, answered⟩ fails
    | error exception => exact ⟨state, exception, .call .refl (answered ▸ can state here)⟩

/-- A run from a state is either finished by a value or by an exception, as a triple says. -/
theorem finishes (answers : machine.Answers name) {middle : α → σ → Prop} {caught : ε → σ → Prop}
    (triple : Triple machine name (fun _ => True) pre body middle caught) {state : σ} (here : pre state) :
    (∃ last value, Coro.Leads machine name state body last (.ret value) ∧ middle value last) ∨
      ∃ last exception, Coro.Leads machine name state body last (.raise exception) ∧ caught exception last := by
  obtain ⟨last, outcome, leads⟩ := Coro.completes answers body state
  obtain ⟨-, returned, raised⟩ := triple here leads
  cases outcome with
  | ok value => exact .inl ⟨last, value, leads, returned value rfl⟩
  | error exception => exact .inr ⟨last, exception, leads, raised exception rfl⟩

/-- A coroutine with a continuation: what follows its value and what follows its exception is decided alike. -/
theorem handle (answers : machine.Answers name) {next : α → Coro Reply ε β} {handler : ε → Coro Reply ε β}
    {middle : α → σ → Prop} {caught : ε → σ → Prop} {post : β → σ → Prop}
    (head : Triple machine name (fun _ => True) pre body middle caught)
    (returned : ∀ value, Decided machine name (middle value) (next value) fine post)
    (raised : ∀ exception, Decided machine name (caught exception) (handler exception) fine post) :
    Decided machine name pre (body.handle next handler) fine post where
  returns holds :=
    head.handle (fun value => (returned value).returns holds) fun exception => (raised exception).returns holds
  raises := by
    intro fails state here
    rcases finishes answers head here with ⟨between, value, leads, held⟩ | ⟨between, exception, leads, held⟩
    · obtain ⟨last, exception, raises⟩ := (returned value).raises fails between held
      exact ⟨last, exception, (leads.handle next handler).trans raises⟩
    · obtain ⟨last, exception', raises⟩ := (raised exception).raises fails between held
      exact ⟨last, exception', (leads.handle next handler).trans raises⟩

/-- One part behind the other. -/
theorem bind (answers : machine.Answers name) {next : α → Coro Reply ε β} {middle : α → σ → Prop}
    {post : β → σ → Prop} (head : Decided machine name pre body fine middle)
    (tail : ∀ value, Decided machine name (middle value) (next value) fine' post) :
    Decided machine name pre (body >>= next) (fine ∧ fine') post where
  returns holds := (head.returns holds.1).bind fun value => (tail value).returns holds.2
  raises := by
    intro fails state here
    by_cases first : fine
    · rcases finishes answers (head.returns first) here with ⟨between, value, leads, held⟩ | ⟨_, _, _, impossible⟩
      · obtain ⟨last, exception, raises⟩ := (tail value).raises (fun second => fails ⟨first, second⟩) between held
        exact ⟨last, exception, (leads.returns next).trans raises⟩
      · exact impossible.elim
    · obtain ⟨last, exception, raises⟩ := head.raises first state here
      exact ⟨last, exception, raises.raises next⟩

/-- A first part that cannot fail. -/
theorem behind (answers : machine.Answers name) {next : α → Coro Reply ε β} {middle : α → σ → Prop}
    {post : β → σ → Prop} (head : Decided machine name pre body True middle)
    (tail : ∀ value, Decided machine name (middle value) (next value) fine post) :
    Decided machine name pre (body >>= next) fine post :=
  (head.bind answers tail).congr (Iff.of_eq (true_and fine))

/-- No run raises and every run can be finished exactly where the condition holds. -/
theorem iff (decided : Decided machine name pre body fine post) (answers : machine.Answers name) {state : σ}
    (here : pre state) :
    (∀ last rest, Coro.Leads machine name state body last rest →
        (∀ exception, rest ≠ .raise exception) ∧
          ∃ after value, Coro.Leads machine name last rest after (.ret value)) ↔ fine := by
  constructor
  · intro ends
    by_contra fails
    obtain ⟨last, exception, leads⟩ := decided.raises fails state here
    exact (ends last _ leads).1 exception rfl
  · intro holds last rest leads
    obtain ⟨-, -, raised⟩ := decided.returns holds here leads
    refine ⟨fun exception same => raised exception same, ?_⟩
    obtain ⟨after, outcome, further⟩ := Coro.completes answers rest last
    cases outcome with
    | ok value => exact ⟨after, value, further⟩
    | error exception => exact ((decided.returns holds here (leads.trans further)).2.2 exception rfl).elim

end Decided

end Coroutine
