/-
Module: CodaNode.Server.Cluster
Layer: Server
Purpose: Several consumer processes on one stream and one group. Each process has its own attributes,
  tasks and log; Redis is shared. A process performs its steps on the Redis the others have left, it may
  crash at any point, and it may be started again.
Imports: CodaNode.Server.System, Mathlib.Logic.Function.Basic
Main exports: Site, Cluster, Cluster.Step, Cluster.Reaches, Cluster.play, Site.Dispatched
-/
import CodaNode.Server.System
import Mathlib.Logic.Function.Basic

namespace CodaNode

open Coroutine

/-- This system on another Redis. -/
def System.joined (system : System) (redis : Redis) : System :=
  ⟨{ system.state with redis := redis }, system.tasks⟩

/-- A process that does not run. -/
def System.down : System := ⟨{}, []⟩

/-- The place of one consumer: what the processes before the present one have logged, and the present
one. Of its state only what is not in Redis counts. -/
structure Site where
  past : List Entry := []
  system : System := .down

/-- The records of all processes of a site, oldest first. -/
def Site.log (site : Site) : List Entry := site.past ++ site.system.state.log

/-- The Redis the sites share, and the sites. -/
structure Cluster (ι : Type) where
  redis : Redis
  site : ι → Site

namespace Cluster

variable {ι : Type} [DecidableEq ι]

/-- Nothing has been started yet. -/
def opening (redis : Redis) : Cluster ι := ⟨redis, fun _ => {}⟩

/-- The site has changed to this. -/
def become (cluster : Cluster ι) (name : ι) (site : Site) : ι → Site :=
  Function.update cluster.site name site

/-- The steps of a cluster. -/
inductive Step (self : ι → Consumer) (policy : ι → Policy) : Cluster ι → Cluster ι → Prop where
  | act {cluster : Cluster ι} (name : ι) {next : System}
      (step : Pool.Step (machine (self name) (policy name))
        ((cluster.site name).system.joined cluster.redis) next) :
      Step self policy cluster
        ⟨next.state.redis, cluster.become name ⟨(cluster.site name).past, next⟩⟩
  | crash {cluster : Cluster ι} (name : ι) :
      Step self policy cluster ⟨cluster.redis, cluster.become name ⟨(cluster.site name).log, .down⟩⟩
  | start {cluster : Cluster ι} (name : ι) (iterations : Nat)
      (down : (cluster.site name).system = .down) :
      Step self policy cluster
        ⟨cluster.redis, cluster.become name
          ⟨(cluster.site name).past, Pool.single {} .loop (consumeLoop (self name) iterations)⟩⟩

/-- The clusters some interleaving of the sites leads to. -/
def Reaches (self : ι → Consumer) (policy : ι → Policy) : Cluster ι → Cluster ι → Prop :=
  Relation.ReflTransGen (Step self policy)

/-- What every step preserves holds of every cluster that is reached. -/
theorem Reaches.preserves {self : ι → Consumer} {policy : ι → Policy} {holds : Cluster ι → Prop}
    (kept : ∀ {first second}, Step self policy first second → holds first → holds second)
    {first second : Cluster ι} (here : holds first) (reaches : Reaches self policy first second) :
    holds second := by
  induction reaches with
  | refl => exact here
  | tail _ step inductionHypothesis => exact kept step inductionHypothesis

/-- One site runs for a while. -/
theorem Reaches.acts {self : ι → Consumer} {policy : ι → Policy} {cluster : Cluster ι} (name : ι)
    {next : System} (reaches : Pool.Reaches (machine (self name) (policy name))
      ((cluster.site name).system.joined cluster.redis) next) :
    Reaches self policy cluster
      ⟨next.state.redis, cluster.become name ⟨(cluster.site name).past, next⟩⟩ ∨
      next = (cluster.site name).system.joined cluster.redis := by
  induction reaches with
  | refl => exact .inr rfl
  | @tail middle last _ step inductionHypothesis =>
      apply Or.inl
      rcases inductionHypothesis with reached | rfl
      · let here : Cluster ι :=
          ⟨middle.state.redis, cluster.become name ⟨(cluster.site name).past, middle⟩⟩
        have mine : here.site name = ⟨(cluster.site name).past, middle⟩ := Function.update_self ..
        have again : here.become name ⟨(cluster.site name).past, last⟩ =
            cluster.become name ⟨(cluster.site name).past, last⟩ := Function.update_idem ..
        have moved : Pool.Step (machine (self name) (policy name))
            ((here.site name).system.joined here.redis) last := by
          rw [mine]
          exact step
        have acted : Step self policy here _ := .act name moved
        rw [mine, again] at acted
        exact reached.tail acted
      · exact .single (.act name step)

end Cluster

/-! ### Scripts -/

namespace Cluster

variable {ι : Type} [DecidableEq ι]

/-- What a script of one site leads its process to. -/
def playSite (self : ι → Consumer) (policy : ι → Policy) (surroundings : Surroundings) (name : ι)
    (script : List (Turn EnvEvent)) (cluster : Cluster ι) : System :=
  ((cluster.site name).system.joined cluster.redis).play (self name) (policy name) surroundings script

/-- The cluster a script of one site leads to. -/
def play (self : ι → Consumer) (policy : ι → Policy) (surroundings : Surroundings) (name : ι)
    (script : List (Turn EnvEvent)) (cluster : Cluster ι) : Cluster ι :=
  let next := cluster.playSite self policy surroundings name script
  ⟨next.state.redis, cluster.become name ⟨(cluster.site name).past, next⟩⟩

/-- The process of a site is started. -/
def launch (self : ι → Consumer) (name : ι) (iterations : Nat) (cluster : Cluster ι) : Cluster ι :=
  ⟨cluster.redis, cluster.become name
    ⟨(cluster.site name).past, Pool.single {} .loop (consumeLoop (self name) iterations)⟩⟩

/-- The process of a site crashes. -/
def halt (name : ι) (cluster : Cluster ι) : Cluster ι :=
  ⟨cluster.redis, cluster.become name ⟨(cluster.site name).log, .down⟩⟩

/-- What a script of one site leads to is reachable, if the script logs something. -/
theorem play_reaches {self : ι → Consumer} {policy : ι → Policy} {surroundings : Surroundings}
    {name : ι} (within : surroundings.Within (policy name)) {script : List (Turn EnvEvent)}
    {cluster : Cluster ι} (env : ∀ event, Turn.env event ∈ script → (policy name).env event)
    (moves : (cluster.playSite self policy surroundings name script).state.log.length ≠
      (cluster.site name).system.state.log.length) :
    Reaches self policy cluster (cluster.play self policy surroundings name script) := by
  have reached : Pool.Reaches (machine (self name) (policy name)) _
      (cluster.playSite self policy surroundings name script) :=
    System.play_reaches within script _ env
  refine (Reaches.acts name reached).resolve_right fun same => moves ?_
  rw [same]
  rfl

/-- A turn of one site is a step, if it logs something. -/
theorem play_step {self : ι → Consumer} {policy : ι → Policy} {surroundings : Surroundings} {name : ι}
    (within : surroundings.Within (policy name)) {index : Nat} {cluster : Cluster ι}
    (moves : (cluster.playSite self policy surroundings name [.task index]).state.log.length ≠
      (cluster.site name).system.state.log.length) :
    Step self policy cluster (cluster.play self policy surroundings name [.task index]) := by
  have turn : Pool.Step (machine (self name) (policy name)) _
      (cluster.playSite self policy surroundings name [.task index]) ∨ _ :=
    Pool.runTask_step (World.serve_performs within) index _
  apply Step.act name
  refine turn.resolve_right fun same => moves ?_
  rw [playSite, System.play, Pool.follow, Pool.follow, same]
  rfl

end Cluster

/-! ### Dispatch -/

/-- The message is handed to `_process_message` or, with others, to `_process_batch`. -/
def Entry.dispatches (messageId : String) : Entry → Bool
  | .call _ (.note (.processMessage message)) _ _ => message.messageId = messageId
  | .call _ (.note (.processBatch messages)) _ _ =>
      messages.any fun message => message.messageId = messageId
  | _ => false

/-- Some process of the site has dispatched the message. -/
def Site.Dispatched (site : Site) (messageId : String) : Prop :=
  ∃ entry ∈ site.log, entry.dispatches messageId = true

end CodaNode
