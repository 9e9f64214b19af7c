/-
Module: CodaNode.Proofs.Ownership
Layer: Proofs
Purpose: Two consumers of one group do not dispatch the same message, whatever fails and however often
  either of them crashes and is started again. The group hands a message to one consumer, and from then
  on the message has an owner, whom neither an acknowledgement nor a crash changes.
Imports: CodaNode.Protocol.Possession, CodaNode.Server.Undisturbed
Main exports: Redis.Distinct, dispatched_by_one
-/
import CodaNode.Protocol.Possession
import CodaNode.Server.Undisturbed

namespace CodaNode

open Coroutine

/-- The ids of a stream are unique, and a message the group has handed out is not handed out again. -/
def Redis.Distinct (redis : Redis) : Prop :=
  (redis.undelivered.map StreamMessage.messageId ++ redis.pending.map PendingEntry.messageId).Nodup

/-- The query and the read of this consumer name it. -/
def Op.Names (consumer : String) : Op → Prop
  | .xpendingRange name _ | .xreadgroup name _ => name = consumer
  | _ => True

namespace Ownership

/-- Whom the messages that were handed out belong to. -/
structure Owned (owner : String → Option String) (redis : Redis) : Prop where
  pending : ∀ entry ∈ redis.pending, owner entry.messageId = some entry.consumer
  waiting : ∀ message ∈ redis.undelivered, owner message.messageId = none
  distinct : (redis.undelivered.map StreamMessage.messageId).Nodup

/-- An owner stays one. -/
def Grows (owner owner' : String → Option String) : Prop :=
  ∀ messageId consumer, owner messageId = some consumer → owner' messageId = some consumer

/-- The messages of this consumer. -/
def Mine (owner : String → Option String) (consumer messageId : String) : Prop :=
  owner messageId = some consumer

theorem Grows.refl (owner : String → Option String) : Grows owner owner := fun _ _ same => same

section Operations

variable {policy : Policy} {world next : World} {op : Op} {outcome : Except Exc op.Reply} {fate : Fate}
variable {owner : String → Option String} {consumer : String}

/-- What a read hands out gets an owner. -/
theorem Owned.deliver {redis : Redis} (owned : Owned owner redis) (consumer : String) (count : Nat) :
    ∃ owner', Grows owner owner' ∧ Owned owner' (redis.deliver consumer count) ∧
      Owns (Mine owner' consumer) (redis.undelivered.take count) := by
  let taken := (redis.undelivered.take count).map StreamMessage.messageId
  let owner' (messageId : String) : Option String :=
    if messageId ∈ taken then some consumer else owner messageId
  have grows : Grows owner owner' := by
    intro messageId name had
    have outside : messageId ∉ taken := by
      intro inside
      obtain ⟨message, member, rfl⟩ := List.mem_map.mp inside
      rw [owned.waiting message (List.mem_of_mem_take member)] at had
      cases had
    exact (if_neg outside).trans had
  have mine : Owns (Mine owner' consumer) (redis.undelivered.take count) :=
    fun message member => if_pos (List.mem_map_of_mem member)
  refine ⟨owner', grows, ⟨?_, ?_, ?_⟩, mine⟩
  · intro entry member
    rcases List.mem_append.mp member with old | new
    · exact grows _ _ (owned.pending entry old)
    · obtain ⟨message, here, rfl⟩ := List.mem_map.mp new
      exact mine message here
  · intro message member
    have parts : (redis.undelivered.map StreamMessage.messageId).take count ++
        (redis.undelivered.map StreamMessage.messageId).drop count =
          redis.undelivered.map StreamMessage.messageId := List.take_append_drop ..
    have apart := owned.distinct
    rw [← parts, ← List.map_take, ← List.map_drop] at apart
    have outside : message.messageId ∉ taken :=
      fun inside => List.disjoint_of_nodup_append apart inside (List.mem_map_of_mem member)
    exact (if_neg outside).trans (owned.waiting message (List.mem_of_mem_drop member))
  · change ((redis.undelivered.drop count).map StreamMessage.messageId).Nodup
    rw [List.map_drop]
    exact owned.distinct.sublist (List.drop_sublist ..)

/-- What an answered operation does to the owners. -/
theorem Owned.effect (owned : Owned owner world.redis) (effect : world.effect op outcome = some next)
    (names : op.Names consumer) :
    ∃ owner', Grows owner owner' ∧ Owned owner' next.redis ∧ op.Yields (Mine owner' consumer) outcome := by
  by_cases reads : ∃ name count, op = .xreadgroup name count
  · obtain ⟨name, count, rfl⟩ := reads
    obtain rfl : name = consumer := names
    cases outcome with
    | ok messages =>
        simp only [World.effect] at effect
        split at effect
        · rename_i read
          cases effect
          obtain ⟨owner', grows, owned', mine⟩ := owned.deliver name messages.length
          refine ⟨owner', grows, owned', ?_⟩
          rw [← read.2] at mine
          exact mine
        · cases effect
    | error exception => cases effect
  · by_cases acks : ∃ messageId, op = .xack messageId
    · obtain ⟨messageId, rfl⟩ := acks
      cases outcome with
      | ok value =>
          cases effect
          refine ⟨owner, .refl owner, ⟨?_, owned.waiting, owned.distinct⟩, trivial⟩
          exact fun entry member => owned.pending entry (List.mem_of_mem_filter member)
      | error exception => cases effect
    · obtain ⟨pending, undelivered⟩ := World.entries_of_effect effect
        (fun name count same => reads ⟨name, count, same⟩) fun messageId same => acks ⟨messageId, same⟩
      refine ⟨owner, .refl owner, ⟨?_, ?_, ?_⟩, ?_⟩
      · rw [pending]
        exact owned.pending
      · rw [undelivered]
        exact owned.waiting
      · rw [undelivered]
        exact owned.distinct
      · cases op with
        | xreadgroup name count => exact absurd ⟨name, count, rfl⟩ reads
        | xpendingRange name count =>
            obtain rfl : name = consumer := names
            cases outcome with
            | ok ids =>
                simp only [World.effect] at effect
                split at effect
                · rename_i listed
                  intro messageId member
                  rw [listed] at member
                  obtain ⟨entry, inside, rfl⟩ := List.mem_map.mp (List.mem_of_mem_take member)
                  obtain ⟨pending, same⟩ := List.mem_filter.mp inside
                  exact (owned.pending entry pending).trans (congrArg some (of_decide_eq_true same))
                · cases effect
            | error exception => cases effect
        | _ => trivial

theorem Owned.performs (owned : Owned owner world.redis)
    (performs : World.Performs policy world op outcome fate next) (names : op.Names consumer) :
    ∃ owner', Grows owner owner' ∧ Owned owner' next.redis ∧ op.Yields (Mine owner' consumer) outcome := by
  have raised {exception : Exc} : op.Yields (Mine owner consumer) (.error exception) := by
    cases op <;> trivial
  cases performs with
  | answered _ effect => exact owned.effect effect names
  | lost => exact ⟨owner, .refl owner, owned, raised⟩
  | executed _ _ effect =>
      obtain ⟨owner', grows, owned', -⟩ := owned.effect effect names
      refine ⟨owner', grows, owned', ?_⟩
      cases op <;> trivial

theorem Owned.occur {event : EnvEvent} (owned : Owned owner world.redis)
    (occurs : world.occur event = some next) : Owned owner next.redis := by
  have pending := (World.entries_of_occur occurs).2
  have undelivered : next.redis.undelivered = world.redis.undelivered := by
    cases event with
    | cancelRequested | statusWritten | stopCalled =>
        cases occurs
        rfl
    | runFinished jobId outcome =>
        simp only [World.occur] at occurs
        split at occurs
        · split at occurs <;> cases occurs
          rfl
        · cases occurs
  constructor
  · rw [pending]
    exact owned.pending
  · rw [undelivered]
    exact owned.waiting
  · rw [undelivered]
    exact owned.distinct

end Operations

section Names

variable {self : Consumer} {op : Op} {outcome : Except Exc op.Reply}

theorem names_message {message : StreamMessage} {job : JobMessage} {stage later : Stage}
    (row : Stage.Move self message job stage op outcome later) : op.Names self.consumerName := by
  cases row <;> trivial

theorem names_recovery {stage later : RecoveryStage}
    (row : RecoveryStage.Move self stage op outcome later) : op.Names self.consumerName := by
  cases row with
  | query => rfl
  | fetch => trivial
  | process row => exact names_message row

/-- The loop asks for its own messages. -/
theorem names_loop {stage later : LoopStage} (row : LoopStage.Move self stage op outcome later) :
    op.Names self.consumerName := by
  cases row with
  | read => rfl
  | startUp row | recheck row => exact names_recovery row
  | each row => exact names_message row
  | batch row =>
      cases row with
      | process row => exact names_message row
      | _ => trivial
  | _ => trivial

theorem names_post {post later : Post} (row : Post.Move self post op outcome later) :
    op.Names self.consumerName := by
  cases row with
  | gather row => cases row <;> trivial
  | single row => cases row <;> trivial

end Names

/-! ### Sites -/

/-- The tables of the tasks of a consumer that runs its loop. -/
abbrev table (self : Consumer) (policy : Policy) : Table (machine self policy) (Station LoopStage) :=
  Crew.table self policy (LoopStage.Move self) LoopStage.Over .enter

/-- The loop has its own messages in hand. -/
def Stocked (own : String → Prop) (places : List (Role × Station LoopStage)) : Prop :=
  ∀ role stage, (role, .main stage) ∈ places → stage.Has own

/-- The processes of a site have dispatched, and the present one has in hand, only its own messages. -/
structure Keeps (own : String → Prop) (consumer : Consumer) (policy : Policy) (site : Site) : Prop where
  log : ∀ entry ∈ site.log, ∀ messageId, entry.dispatches messageId = true → own messageId
  hand : ∃ places, (table consumer policy).Tracked site.system places ∧ Stocked own places

theorem Keeps.mono {own own' : String → Prop} (weaker : ∀ messageId, own messageId → own' messageId)
    {self : Consumer} {policy : Policy} {site : Site} (keeps : Keeps own self policy site) :
    Keeps own' self policy site := by
  obtain ⟨places, tracked, stocked⟩ := keeps.hand
  exact ⟨fun entry inLog messageId dispatches => weaker _ (keeps.log entry inLog messageId dispatches),
    places, tracked, fun role stage member => (stocked role stage member).mono weaker⟩

/-- What a step of one process does: owners are added, and the process keeps to its own messages. -/
theorem Keeps.act {self : Consumer} {policy : Policy} {site : Site} {redis : Redis} {next : System}
    {owner : String → Option String} (owned : Owned owner redis)
    (keeps : Keeps (Mine owner self.consumerName) self policy site)
    (step : Pool.Step (machine self policy) (site.system.joined redis) next) :
    ∃ owner', Grows owner owner' ∧ Owned owner' next.state.redis ∧
      Keeps (Mine owner' self.consumerName) self policy ⟨site.past, next⟩ := by
  obtain ⟨places, tracked, stocked⟩ := keeps.hand
  have joined : (table self policy).Tracked (site.system.joined redis) places := tracked
  obtain ⟨places', moved, tracked'⟩ := joined.step step
  obtain ⟨state, tasks⟩ := next
  generalize start : (site.system.joined redis).state = world at moved
  have redis_ : world.redis = redis := by rw [← start]; rfl
  have log_ : world.log = site.system.state.log := by rw [← start]; rfl
  rw [← redis_] at owned
  cases moved with
  | env move =>
      obtain ⟨event, middle, -, occurs, rfl⟩ := move
      have owned' : Owned owner middle.redis := owned.occur occurs
      refine ⟨owner, .refl owner, owned', ?_, places, tracked', stocked⟩
      intro entry inLog messageId dispatches
      change entry ∈ site.past ++ (middle.record (.env event)).log at inLog
      rw [World.record_log, World.log_of_occur occurs, log_, ← List.append_assoc] at inLog
      rcases List.mem_append.mp inLog with old | new
      · exact keeps.log entry old messageId dispatches
      · rw [List.mem_singleton.mp new] at dispatches
        cases dispatches
  | @row _ _ before after name stage later op outcome row performed =>
      obtain ⟨fate, middle, performs, rfl⟩ := performed
      have names : op.Names self.consumerName := by
        cases row with
        | main row => exact names_loop row
        | post row => exact names_post row
      obtain ⟨owner', grows, owned', yields⟩ := owned.performs performs names
      have weaker (messageId : String) (mine : Mine owner self.consumerName messageId) :
          Mine owner' self.consumerName messageId := grows messageId self.consumerName mine
      have keeps' := keeps.mono weaker
      have has {place : Role × Station LoopStage} (member : place ∈ before ++ (name, stage) :: after) :
          ∀ stage, place.2 = .main stage → stage.Has (Mine owner' self.consumerName) := by
        rintro stage same
        refine (stocked place.1 stage ?_).mono weaker
        rw [← same]
        exact member
      refine ⟨owner', grows, ?_, ?_, _, tracked', ?_⟩
      · change Owned owner' (World.recordCall _ _ _ _ _).redis
        rw [World.recordCall_redis]
        exact owned'
      · intro entry inLog messageId dispatches
        change entry ∈ site.past ++ (middle.recordCall name op outcome fate).log at inLog
        rw [World.recordCall_log_of_performs name performs] at inLog
        rcases List.mem_append.mp inLog with past | present
        · exact keeps'.log entry (List.mem_append_left _ past) messageId dispatches
        · split at present
          · rcases List.mem_append.mp present with old | new
            · rw [log_] at old
              exact keeps'.log entry (List.mem_append_right _ old) messageId dispatches
            · rw [List.mem_singleton.mp new] at dispatches
              cases row with
              | main row => exact (has (List.mem_append_right before List.mem_cons_self) _ rfl).dispatches row dispatches
              | post row =>
                  rw [row.not_dispatches messageId] at dispatches
                  cases dispatches
          · rw [log_] at present
            exact keeps'.log entry (List.mem_append_right _ present) messageId dispatches
      · intro role place member
        rcases List.mem_append.mp member with old | new
        · rcases List.mem_append.mp old with front | back
          · exact has (List.mem_append_left _ front) place rfl
          · rcases List.mem_cons.mp back with here | behind
            · cases row with
              | main row =>
                  cases here
                  exact (has (List.mem_append_right before List.mem_cons_self) _ rfl).row row yields
              | post row => cases here
            · exact has (List.mem_append_right _ (List.mem_cons_of_mem _ behind)) place rfl
        · obtain ⟨task, created, same⟩ := List.mem_map.mp new
          change task ∈ spawned self world op at created
          cases op with
          | createTask spec =>
              rw [List.mem_singleton.mp created] at same
              cases same
          | _ => cases created

/-! ### Clusters -/

section Cluster

variable {ι : Type} [DecidableEq ι] {self : ι → Consumer} {policy : ι → Policy}

/-- The messages that were handed out have owners, to whom all sites keep. -/
def Holds (self : ι → Consumer) (policy : ι → Policy) (cluster : Cluster ι) : Prop :=
  ∃ owner, Owned owner cluster.redis ∧
    ∀ name, Keeps (Mine owner (self name).consumerName) (self name) (policy name) (cluster.site name)

omit [DecidableEq ι] in
theorem holds_opening {redis : Redis} (distinct : redis.Distinct) :
    Holds self policy (Cluster.opening redis : Cluster ι) := by
  obtain ⟨waiting, pending, apart⟩ := List.nodup_append'.mp distinct
  let owner (messageId : String) : Option String :=
    (redis.pending.find? fun entry => entry.messageId = messageId).map PendingEntry.consumer
  refine ⟨owner, ⟨?_, ?_, waiting⟩, fun name => ⟨?_, [], .nil, ?_⟩⟩
  · intro entry member
    cases found : redis.pending.find? fun other => other.messageId = entry.messageId with
    | none => simpa using List.find?_eq_none.mp found entry member
    | some other =>
        have same : other.messageId = entry.messageId := by simpa using List.find?_some found
        have unique := List.inj_on_of_nodup_map pending (List.mem_of_find?_eq_some found) member same
        simp only [owner, found, unique, Option.map_some]
  · intro message member
    have absent : redis.pending.find? (fun entry => entry.messageId = message.messageId) = none := by
      apply List.find?_eq_none.mpr
      intro entry inside same
      have here : entry.messageId ∈ redis.pending.map PendingEntry.messageId := List.mem_map_of_mem inside
      rw [of_decide_eq_true same] at here
      exact apart (List.mem_map_of_mem member) here
    simp only [owner, absent, Option.map_none]
  · exact fun entry member => by cases member
  · exact fun role stage member => by cases member

theorem holds_step {first second : Cluster ι} (step : Cluster.Step self policy first second)
    (holds : Holds self policy first) : Holds self policy second := by
  obtain ⟨owner, owned, keeps⟩ := holds
  -- the sites that do not take the step keep to the owners they had
  have become {owner' : String → Option String} (grows : Grows owner owner') {name : ι} {site : Site}
      (here : Keeps (Mine owner' (self name).consumerName) (self name) (policy name) site) (other : ι) :
      Keeps (Mine owner' (self other).consumerName) (self other) (policy other)
        (first.become name site other) := by
    by_cases same : other = name
    · subst same
      rw [Cluster.become, Function.update_self]
      exact here
    · rw [Cluster.become, Function.update_of_ne same]
      exact (keeps other).mono fun messageId mine => grows messageId _ mine
  cases step with
  | act name step =>
      obtain ⟨owner', grows, owned', here⟩ := (keeps name).act owned step
      exact ⟨owner', owned', become grows here⟩
  | crash name =>
      refine ⟨owner, owned, become (.refl owner) ⟨?_, [], .nil, ?_⟩⟩
      · intro entry inLog
        rw [Site.log, show (System.down.state.log : List Entry) = [] from rfl, List.append_nil] at inLog
        exact (keeps name).log entry inLog
      · exact fun role stage member => by cases member
  | start name iterations down =>
      refine ⟨owner, owned, become (.refl owner) ⟨?_, [(.loop, .main .enter)], ?_, ?_⟩⟩
      · intro entry inLog
        rw [Site.log, show ((Pool.single ({} : World) Role.loop _ : System).state.log) = [] from rfl,
          List.append_nil] at inLog
        exact (keeps name).log entry (List.mem_append_left _ inLog)
      · apply Table.Tracked.single
        refine (Coro.Tracks.map Station.main Crew.Row.main (consumeLoop_follows iterations)).imp ?_ ?_
        · rintro _ later ⟨last, rfl, ended⟩
          exact ended
        · rintro exception later ⟨last, rfl, ended⟩
          exact ended
      · intro role stage member
        cases List.mem_singleton.mp member
        trivial

end Cluster

end Ownership

open Ownership in
/-- In every run of consumers on one stream and one group, with any failures, crashes and restarts: two
consumers with different names do not both dispatch a message. -/
theorem dispatched_by_one {ι : Type} [DecidableEq ι] (self : ι → Consumer) (policy : ι → Policy)
    {redis : Redis} (distinct : redis.Distinct) {cluster : Cluster ι}
    (reaches : Cluster.Reaches self policy (.opening redis) cluster) {first second : ι}
    (names : (self first).consumerName ≠ (self second).consumerName) (messageId : String) :
    ¬ ((cluster.site first).Dispatched messageId ∧ (cluster.site second).Dispatched messageId) := by
  rintro ⟨⟨entry, inLog, dispatches⟩, other, inOther, dispatches'⟩
  obtain ⟨owner, -, keeps⟩ := reaches.preserves holds_step (holds_opening distinct)
  have here : owner messageId = some (self first).consumerName :=
    (keeps first).log entry inLog messageId dispatches
  have there : owner messageId = some (self second).consumerName :=
    (keeps second).log other inOther messageId dispatches'
  exact names (Option.some.inj (here.symm.trans there))

/-! ### A run of two consumers -/

namespace Ownership

/-- Two consumers that read one message at a time. -/
def workers (name : Bool) : Consumer :=
  { Sample.consumer with
    canBatch := false
    consumerName := if name then "worker-0" else "worker-1" }

/-- Two messages wait. -/
def waiting : Redis := Sample.waiting [Sample.message "1-0" "a", Sample.message "2-0" "b"]

/-- Nothing fails but the processes. -/
def mild (_ : Bool) : Policy := .healthy

/-- One site runs. -/
def turn (name : Bool) (cluster : Cluster Bool) : Cluster Bool :=
  cluster.play workers mild (.plain Sample.result) name (List.replicate 20 (.task 0))

/-- The first consumer has read the first message. -/
def firstRun : Cluster Bool := turn true ((Cluster.opening waiting).launch workers true 2)

/-- It has crashed, and the second consumer has read the second message. -/
def secondRun : Cluster Bool := turn false ((firstRun.halt true).launch workers false 2)

/-- The first consumer has been started again and recovers its message. -/
def sharedRun : Cluster Bool := turn true (secondRun.launch workers true 2)

theorem sharedRun_reaches : Cluster.Reaches workers mild (.opening waiting) sharedRun := by
  have within (name : Bool) : (Surroundings.plain Sample.result).Within (mild name) :=
    Surroundings.plain_within fun _ _ _ _ => trivial
  have first : Cluster.Reaches workers mild ((Cluster.opening waiting).launch workers true 2) firstRun :=
    Cluster.play_reaches (within true) (fun _ _ => trivial) (by decide +kernel)
  have second : Cluster.Reaches workers mild ((firstRun.halt true).launch workers false 2) secondRun :=
    Cluster.play_reaches (within false) (fun _ _ => trivial) (by decide +kernel)
  have third : Cluster.Reaches workers mild (secondRun.launch workers true 2) sharedRun :=
    Cluster.play_reaches (within true) (fun _ _ => trivial) (by decide +kernel)
  apply Relation.ReflTransGen.head (.start true 2 rfl)
  apply first.trans
  apply Relation.ReflTransGen.head (.crash true)
  apply Relation.ReflTransGen.head (.start false 2 rfl)
  apply second.trans
  apply Relation.ReflTransGen.head (.start true 2 rfl)
  exact third

end Ownership

open Ownership in
/-- The result, for that run: the first message is dispatched by the first consumer only. -/
theorem dispatched_by_one_sharedRun :
    (sharedRun.site true).Dispatched "1-0" ∧ (sharedRun.site false).Dispatched "2-0" ∧
      ¬ ((sharedRun.site true).Dispatched "1-0" ∧ (sharedRun.site false).Dispatched "1-0") :=
  ⟨by unfold Site.Dispatched; decide +kernel, by unfold Site.Dispatched; decide +kernel,
    dispatched_by_one workers mild (by unfold Redis.Distinct; decide +kernel)
      sharedRun_reaches (by decide) "1-0"⟩

end CodaNode
