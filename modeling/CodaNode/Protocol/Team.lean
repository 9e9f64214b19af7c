/-
Module: CodaNode.Protocol.Team
Layer: Protocol
Purpose: Several consumer processes at the stages of their tasks. A team is to a cluster what a crew is
  to a pool: the shared Redis, and for every place the records of its earlier processes and the crew of
  the present one. The steps of a cluster are steps of a team, so what the rows preserve holds in every
  cluster that is reached.
Imports: CodaNode.Protocol.Crew, CodaNode.Protocol.Loop, CodaNode.Server.Cluster
Main exports: Team, Team.Step, Team.Stands, Team.Stands.step, Team.Stands.reaches
-/
import CodaNode.Protocol.Crew
import CodaNode.Protocol.Loop
import CodaNode.Server.Cluster

namespace CodaNode

open Coroutine

/-- The crew on another Redis. -/
def Crew.joined (crew : Crew LoopStage) (redis : Redis) : Crew LoopStage :=
  { crew with world := { crew.world with redis := redis } }

/-- A crew of which nothing runs. -/
def Crew.off : Crew LoopStage := ⟨{}, .ended (.ok ()), []⟩

/-- A crew whose loop has been called. -/
def Crew.opening : Crew LoopStage := ⟨{}, .enter, []⟩

/-- A site at the stages of its tasks: what its earlier processes have logged, and the present crew. Of
its state only what is not in Redis counts. -/
structure Desk where
  past : List Entry := []
  crew : Crew LoopStage := .off

/-- The records of all processes of a desk, oldest first. -/
def Desk.log (desk : Desk) : List Entry := desk.past ++ desk.crew.world.log

/-- The Redis the desks share, and the desks. -/
structure Team (ι : Type) where
  redis : Redis
  desk : ι → Desk

section Desk

variable {self : Consumer} {policy : Policy}

/-- The site is at these stages. -/
structure Desk.Stands (consumer : Consumer) (policy : Policy) (site : Site) (desk : Desk) : Prop where
  past : desk.past = site.past
  world : desk.crew.world = site.system.state
  places : (Crew.table consumer policy (LoopStage.Move consumer) LoopStage.Over .enter).Tracked site.system
      desk.crew.places ∨
    site.system.tasks = [] ∧ desk.crew.main = .ended (.ok ()) ∧ desk.crew.posts = []

/-- What a process does, its crew does. -/
theorem Desk.Stands.act {site : Site} {desk : Desk} (stands : Desk.Stands self policy site desk)
    {redis : Redis} {next : System}
    (step : Pool.Step (machine self policy) (site.system.joined redis) next) :
    ∃ crew, Crew.Step self policy (LoopStage.Move self) (desk.crew.joined redis) crew ∧
      Desk.Stands self policy ⟨site.past, next⟩ ⟨desk.past, crew⟩ := by
  have world : (desk.crew.joined redis).world = (site.system.joined redis).state := by
    rw [Crew.joined, System.joined, stands.world]
  rcases stands.places with tracked | ⟨empty, ended, alone⟩
  · have joined : (Crew.table self policy (LoopStage.Move self) LoopStage.Over .enter).Tracked
        (site.system.joined redis) (desk.crew.joined redis).places := tracked
    obtain ⟨places, moved, tracked'⟩ := joined.step step
    rw [← world] at moved
    obtain ⟨crew, shape, step'⟩ := Crew.step_of_step moved
    obtain ⟨state, rfl⟩ := Snapshot.mk.inj shape
    exact ⟨crew, step', ⟨stands.past, state.symm, .inl tracked'⟩⟩
  · -- without a process only events occur
    have tasks : (site.system.joined redis).tasks = [] := empty
    generalize site.system.joined redis = pool at step world tasks
    cases step with
    | env moved =>
        obtain ⟨event, middle, allowed, occurs, rfl⟩ := moved
        obtain ⟨earlier, world', stage, posts⟩ := desk
        cases world
        exact ⟨⟨middle.record (.env event), stage, posts⟩, .env allowed occurs,
          ⟨stands.past, rfl, .inr ⟨tasks, ended, alone⟩⟩⟩
    | call others performed => cases List.append_eq_nil_iff.mp tasks |>.2

end Desk

namespace Team

variable {ι : Type} [DecidableEq ι] {self : ι → Consumer} {policy : ι → Policy}

/-- Nothing has been started yet. -/
def opening (redis : Redis) : Team ι := ⟨redis, fun _ => {}⟩

/-- The desk has changed to this. -/
def become (team : Team ι) (name : ι) (desk : Desk) : ι → Desk := Function.update team.desk name desk

variable (self policy) in
/-- The steps of a team. -/
inductive Step : Team ι → Team ι → Prop where
  | act {team : Team ι} (name : ι) {next : Crew LoopStage}
      (step : Crew.Step (self name) (policy name) (LoopStage.Move (self name))
        ((team.desk name).crew.joined team.redis) next) :
      Step team ⟨next.world.redis, team.become name ⟨(team.desk name).past, next⟩⟩
  | crash {team : Team ι} (name : ι) :
      Step team ⟨team.redis, team.become name ⟨(team.desk name).log, .off⟩⟩
  | start {team : Team ι} (name : ι) (down : (team.desk name).crew = .off) :
      Step team ⟨team.redis, team.become name ⟨(team.desk name).past, .opening⟩⟩

variable (self policy) in
/-- The teams some interleaving of the desks leads to. -/
def Reaches : Team ι → Team ι → Prop := Relation.ReflTransGen (Step self policy)

/-- What every step preserves holds of every team that is reached. -/
theorem Reaches.preserves {holds : Team ι → Prop}
    (kept : ∀ {first second}, Step self policy first second → holds first → holds second)
    {first second : Team ι} (here : holds first) (reaches : Reaches self policy first second) :
    holds second := by
  induction reaches with
  | refl => exact here
  | tail _ step inductionHypothesis => exact kept step inductionHypothesis

/-- The cluster is at these stages. -/
structure Stands (consumer : ι → Consumer) (policy : ι → Policy) (cluster : Cluster ι) (team : Team ι) :
    Prop where
  redis : team.redis = cluster.redis
  desk : ∀ name, Desk.Stands (consumer name) (policy name) (cluster.site name) (team.desk name)

omit [DecidableEq ι] in
theorem Stands.log {cluster : Cluster ι} {team : Team ι} (stands : Stands self policy cluster team)
    (name : ι) : (team.desk name).log = (cluster.site name).log := by
  rw [Desk.log, Site.log, (stands.desk name).past, (stands.desk name).world]

omit [DecidableEq ι] in
theorem Stands.opening (redis : Redis) : Stands self policy (.opening redis) (.opening redis) where
  redis := rfl
  desk _ := ⟨rfl, rfl, .inr ⟨rfl, rfl, rfl⟩⟩

private theorem Stands.become {cluster : Cluster ι} {team : Team ι} (stands : Stands self policy cluster team)
    {name : ι} {site : Site} {desk : Desk} (here : Desk.Stands (self name) (policy name) site desk)
    (redis : Redis) : Stands self policy ⟨redis, cluster.become name site⟩ ⟨redis, team.become name desk⟩ where
  redis := rfl
  desk other := by
    by_cases same : other = name
    · subst same
      simp only [Cluster.become, Team.become, Function.update_self]
      exact here
    · simp only [Cluster.become, Team.become, Function.update_of_ne same]
      exact stands.desk other

/-- A step of the cluster is a step of the team. -/
theorem Stands.step {first second : Cluster ι} {team : Team ι} (stands : Stands self policy first team)
    (step : Cluster.Step self policy first second) :
    ∃ team', Step self policy team team' ∧ Stands self policy second team' := by
  cases step with
  | @act name next step =>
      rw [← stands.redis] at step
      obtain ⟨crew, step', here⟩ := (stands.desk name).act step
      refine ⟨_, .act name step', ?_⟩
      have world : crew.world = next.state := here.world
      rw [← world]
      exact stands.become here _
  | crash name =>
      refine ⟨_, .crash name, ?_⟩
      rw [stands.redis, stands.log]
      exact stands.become ⟨rfl, rfl, .inr ⟨rfl, rfl, rfl⟩⟩ _
  | start name iterations down =>
      obtain ⟨-, world, places⟩ := stands.desk name
      rw [down] at world places
      have off : (team.desk name).crew = .off := by
        generalize (team.desk name).crew = crew at world places
        obtain ⟨world', stage, posts⟩ := crew
        rcases places with tracked | ⟨-, ended, alone⟩
        · cases tracked
        · cases world
          cases ended
          cases alone
          rfl
      refine ⟨_, .start name off, ?_⟩
      rw [stands.redis, (stands.desk name).past]
      apply stands.become
      refine ⟨rfl, rfl, .inl (Table.Tracked.single ?_)⟩
      refine (Coro.Tracks.map Station.main Crew.Row.main (consumeLoop_follows iterations)).imp ?_ ?_
      · rintro _ later ⟨last, rfl, ended⟩
        exact ended
      · rintro exception later ⟨last, rfl, ended⟩
        exact ended

/-- A run of the cluster is a run of the team. -/
theorem Stands.reaches {first second : Cluster ι} {team : Team ι} (stands : Stands self policy first team)
    (reaches : Cluster.Reaches self policy first second) :
    ∃ team', Reaches self policy team team' ∧ Stands self policy second team' := by
  induction reaches with
  | refl => exact ⟨team, .refl, stands⟩
  | tail _ step inductionHypothesis =>
      obtain ⟨middle, reached, stands'⟩ := inductionHypothesis
      obtain ⟨last, step', stands''⟩ := stands'.step step
      exact ⟨last, reached.tail step', stands''⟩

end Team

end CodaNode
