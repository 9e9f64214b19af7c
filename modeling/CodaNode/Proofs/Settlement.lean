/-
Module: CodaNode.Proofs.Settlement
Layer: Proofs
Purpose: A job that one entry of the stream carries is settled once. Over any number of consumers on one
  group, whatever fails and however often processes crash and are started again, at most one part of one
  consumer has the job in charge. So after its result webhook or its cancelled status, with a final
  status in Redis, nothing executes it, writes its status or sends one of its webhooks, and its result
  is reported at most once.
Imports: CodaNode.Proofs.Ownership, CodaNode.Protocol.Hand, CodaNode.Protocol.Team
Main exports: Redis.Once, settled_stays, reported_once
-/
import CodaNode.Proofs.Ownership
import CodaNode.Protocol.Hand
import CodaNode.Protocol.Team

namespace CodaNode

open Coroutine

/-- No entry of the stream but this one carries the job. -/
def Redis.Once (jobId messageId : String) (redis : Redis) : Prop :=
  ∀ message, message ∈ redis.stream ∨ message ∈ redis.undelivered → message.carries jobId = true →
    message.messageId = messageId

/-- The record of an operation that executes this job, writes its status or sends one of its webhooks. -/
def Entry.touches (jobId : String) : Entry → Bool
  | .call _ op _ _ => op.touches jobId
  | .env _ => false

/-- The record of a result webhook of this job that was answered, or of its cancelled status that was
written. -/
def Entry.concludes (jobId : String) : Entry → Bool
  | .call _ op outcome _ => op.concludes jobId && outcome.isOk
  | .env _ => false

/-- The record of a result webhook of this job that was answered. -/
def Entry.reports (jobId : String) : Entry → Bool
  | .call _ (.sendResult _ payload) outcome _ => payload.jobId = jobId && outcome.isOk
  | _ => false

/-- How often this job has been concluded. -/
def Site.conclusions (jobId : String) (site : Site) : Nat := site.log.countP (Entry.concludes jobId)

/-- How many result webhooks of this job have been answered. -/
def Site.reports (jobId : String) (site : Site) : Nat := site.log.countP (Entry.reports jobId)

/-- The surroundings do not write the status of this job. -/
def Policy.Spares (jobId : String) (policy : Policy) : Prop :=
  ∀ state, ¬ policy.env (.statusWritten jobId state)

namespace Settlement

open Ownership

section Operations

variable {policy : Policy} {world next : World} {op : Op} {outcome : Except Exc op.Reply} {fate : Fate}
variable {jobId messageId : String}

/-- What is undelivered gets less. -/
theorem undelivered_of_performs (performs : World.Performs policy world op outcome fate next) :
    next.redis.undelivered.Sublist world.redis.undelivered := by
  have answered {outcome : Except Exc op.Reply} (effect : world.effect op outcome = some next) :
      next.redis.undelivered.Sublist world.redis.undelivered := by
    unfold World.effect World.finish at effect
    split at effect
    all_goals first
      | (split at effect <;> cases effect <;> first | exact .refl _ | exact List.drop_sublist ..)
      | (cases effect; exact .refl _)
      | cases effect
  cases performs with
  | answered _ effect => exact answered effect
  | lost => exact .refl _
  | executed _ _ effect => exact answered effect

theorem undelivered_of_occur {event : EnvEvent} (occurs : world.occur event = some next) :
    next.redis.undelivered = world.redis.undelivered := by
  cases event with
  | cancelRequested | statusWritten | stopCalled =>
      cases occurs
      rfl
  | runFinished jobId outcome =>
      simp only [World.occur] at occurs
      split at occurs
      · split at occurs <;> cases occurs
        rfl
      · cases occurs

theorem once_performs (performs : World.Performs policy world op outcome fate next)
    (once : world.redis.Once jobId messageId) : next.redis.Once jobId messageId := by
  rintro message (listed | waiting)
  · rw [World.stream_of_performs performs] at listed
    exact once message (.inl listed)
  · exact once message (.inr ((undelivered_of_performs performs).subset waiting))

theorem once_occur {event : EnvEvent} (occurs : world.occur event = some next)
    (once : world.redis.Once jobId messageId) : next.redis.Once jobId messageId := by
  rw [Redis.Once, (World.entries_of_occur occurs).1, undelivered_of_occur occurs]
  exact once

/-- Messages with distinct ids carry the job at most once if only one id does. -/
theorem lone_of_nodup {messages : List StreamMessage} (distinct : (messages.map StreamMessage.messageId).Nodup)
    (same : ∀ message ∈ messages, message.carries jobId = true → message.messageId = messageId) :
    Lone jobId messageId messages := by
  refine ⟨same, ?_⟩
  induction messages with
  | nil => exact Nat.zero_le 1
  | cons message rest inductionHypothesis =>
      obtain ⟨fresh, distinct⟩ := List.nodup_cons.mp distinct
      obtain ⟨here, others⟩ := List.forall_mem_cons.mp same
      rw [carriers, List.countP_cons]
      split
      · rename_i carries
        have none_ : rest.countP (StreamMessage.carries jobId) = 0 := by
          apply List.countP_eq_zero.mpr
          intro other member carries'
          rw [here carries, ← others other member carries'] at fresh
          exact fresh (List.mem_map_of_mem member)
        exact Nat.le_of_eq (congrArg (· + 1) none_)
      · exact inductionHypothesis distinct others

/-- What is fetched of the job is its message. -/
theorem brings_of_performs {owner : String → Option String} (owned : Owned owner world.redis)
    (once : world.redis.Once jobId messageId)
    (performs : World.Performs policy world op outcome fate next) : op.Brings jobId messageId outcome := by
  have raised {exception : Exc} : op.Brings jobId messageId (.error exception) := by
    cases op <;> trivial
  cases performs with
  | lost | executed => exact raised
  | answered _ effect =>
      cases outcome with
      | error exception => exact raised
      | ok reply =>
          cases op with
          | xrange id =>
              simp only [World.effect] at effect
              split at effect
              · rename_i found
                intro message member carries
                rw [found] at member
                obtain ⟨listed, same⟩ := List.mem_filter.mp member
                rw [← of_decide_eq_true same]
                exact once message (.inl listed) carries
              · cases effect
          | xreadgroup consumer count =>
              simp only [World.effect] at effect
              split at effect
              · rename_i found
                have inside : reply.Sublist world.redis.undelivered := by
                  rw [found.2]
                  exact List.take_sublist ..
                apply lone_of_nodup
                · exact owned.distinct.sublist (inside.map _)
                · exact fun message member => once message (.inr (inside.subset member))
              · cases effect
          | _ => trivial

/-- A final status is found as it is. -/
theorem findsFinal_of_performs (final : Final (world.redis.status jobId).state)
    (performs : World.Performs policy world op outcome fate next) : op.FindsFinal jobId outcome := by
  have raised {exception : Exc} : op.FindsFinal jobId (.error exception) := by
    cases op <;> trivial
  cases performs with
  | lost | executed => exact raised
  | answered _ effect =>
      cases outcome with
      | error exception => exact raised
      | ok reply =>
          cases op with
          | hgetState id =>
              simp only [World.effect] at effect
              split at effect
              · rename_i found
                rintro rfl
                rw [found]
                exact final
              · cases effect
          | _ => trivial

/-- Only a write to it changes the status of the job. -/
theorem status_of_unwritten (performs : World.Performs policy world op outcome fate next)
    (unwritten : ∀ mapping, op ≠ .hset jobId mapping) :
    next.redis.status jobId = world.redis.status jobId := by
  by_cases writes : ∃ id mapping, op = .hset id mapping
  · obtain ⟨id, mapping, rfl⟩ := writes
    have other : jobId ≠ id := by
      rintro rfl
      exact unwritten mapping rfl
    have written {outcome : Except Exc Unit} (effect : world.effect (.hset id mapping) outcome = some next) :
        next.redis.status jobId = world.redis.status jobId := by
      cases outcome with
      | error exception => cases effect
      | ok value =>
          cases effect
          exact Redis.writeStatus_other _ mapping other
    cases performs with
    | answered _ effect => exact written effect
    | lost => rfl
    | executed _ _ effect => exact written effect
  · rw [World.status_of_performs performs fun id mapping same => writes ⟨id, mapping, same⟩]

theorem status_of_untouched (performs : World.Performs policy world op outcome fate next)
    (untouched : op.touches jobId = false) : next.redis.status jobId = world.redis.status jobId := by
  apply status_of_unwritten performs
  rintro mapping rfl
  exact of_decide_eq_false untouched rfl

/-- A write that does not fail has written. -/
theorem status_of_written {mapping : StatusHash} {state : JobState} (written : mapping.state = some state)
    (steadfast : ∀ exception, ¬ policy.fault (.hset jobId mapping) exception)
    {outcome : Except Exc (Op.hset jobId mapping).Reply}
    (performs : World.Performs policy world (.hset jobId mapping) outcome fate next) :
    (next.redis.status jobId).state = some state := by
  cases performs with
  | lost _ admitted | executed _ admitted => exact absurd admitted (steadfast _)
  | answered _ effect =>
      cases outcome with
      | error exception => cases effect
      | ok value =>
          cases effect
          rw [Redis.writeStatus_same, StatusHash.merge, written]
          rfl

theorem status_of_spared {event : EnvEvent} (spared : policy.Spares jobId) (allowed : policy.env event)
    (occurs : world.occur event = some next) : next.redis.status jobId = world.redis.status jobId := by
  cases event with
  | statusWritten id state =>
      cases occurs
      apply Redis.writeStatus_other
      rintro rfl
      exact spared state allowed
  | cancelRequested | stopCalled =>
      cases occurs
      rfl
  | runFinished id outcome =>
      simp only [World.occur] at occurs
      split at occurs
      · split at occurs <;> cases occurs
        rfl
      · cases occurs

end Operations

/-! ### One consumer -/

/-- At most one part of the consumer has the job in charge, and then its message is the consumer's own. -/
structure Charge (own : String → Prop) (jobId messageId : String) (crew : Crew LoopStage) : Prop where
  kept : Backlog.Kept crew
  fits : crew.main.Fits jobId
  has : crew.main.Has own
  lone : Lone jobId messageId crew.main.hand
  few : engaged jobId crew.posts ≤ 1
  mine : 0 < engaged jobId crew.posts → own messageId

namespace Charge

variable {own : String → Prop} {jobId messageId : String} {crew : Crew LoopStage}

theorem engaged_of_ended {posts : List Post} (ended : ∀ post ∈ posts, post.ending = some (.ok ())) :
    engaged jobId posts = 0 := by
  induction posts with
  | nil => rfl
  | cons post rest inductionHypothesis =>
      obtain ⟨here, others⟩ := List.forall_mem_cons.mp ended
      have done : post.engagement jobId = 0 := by
        cases post with
        | gather _ _ _ stage =>
            cases stage with
            | past => rfl
            | _ => cases here
        | single _ _ stage =>
            cases stage with
            | past => exact if_neg fun ⟨_, busy⟩ => by cases busy
            | _ => cases here
      rw [engaged_cons, done, inductionHypothesis others]

/-- While the loop has the job in charge, no delivery has. -/
theorem idle (charge : Charge own jobId messageId crew) (busy : 0 < crew.main.engagement jobId) :
    engaged jobId crew.posts = 0 := by
  apply engaged_of_ended
  apply charge.kept.over
  obtain ⟨world, stage, posts⟩ := crew
  cases stage with
  | startUp | recheck | each | batch => rfl
  | _ => cases busy

theorem engagement_le_one (charge : Charge own jobId messageId crew) : crew.engagement jobId ≤ 1 := by
  unfold Crew.engagement
  by_cases busy : 0 < crew.main.engagement jobId
  · rw [charge.idle busy]
    exact Nat.le_trans (LoopStage.engagement_le charge.fits) charge.lone.few
  · rw [Nat.eq_zero_of_not_pos busy, Nat.zero_add]
    exact charge.few

theorem own_of_busy (charge : Charge own jobId messageId crew) (busy : 0 < crew.engagement jobId) : own messageId := by
  by_cases main : 0 < crew.main.engagement jobId
  · exact LoopStage.own_of_engaged charge.fits charge.has charge.lone main
  · apply charge.mine
    rw [Crew.engagement, Nat.eq_zero_of_not_pos main, Nat.zero_add] at busy
    exact busy

theorem mono {own' : String → Prop} (weaker : ∀ id, own id → own' id)
    (charge : Charge own jobId messageId crew) : Charge own' jobId messageId crew where
  kept := charge.kept
  fits := charge.fits
  has := charge.has.mono weaker
  lone := charge.lone
  few := charge.few
  mine busy := weaker messageId (charge.mine busy)

theorem joined (charge : Charge own jobId messageId crew) (redis : Redis) :
    Charge own jobId messageId (crew.joined redis) where
  kept := ⟨⟨charge.kept.roster.records, charge.kept.roster.numbers⟩, charge.kept.held, charge.kept.tended⟩
  fits := charge.fits
  has := charge.has
  lone := charge.lone
  few := charge.few
  mine := charge.mine

theorem opening : Charge own jobId messageId .opening where
  kept := Backlog.Kept.start {} rfl rfl
  fits := trivial
  has := trivial
  lone := .nil
  few := Nat.zero_le 1
  mine busy := by cases busy

theorem off : Charge own jobId messageId .off where
  kept := by
    refine ⟨⟨rfl, rfl⟩, ⟨?_, ?_⟩, ?_⟩
    · exact fun _ member => by cases member
    · exact fun _ same => by cases same
    · exact fun _ _ _ member => by cases member
  fits := trivial
  has := trivial
  lone := .nil
  few := Nat.zero_le 1
  mine busy := by cases busy

/-- Every step of the consumer keeps it in charge of at most its own message. -/
theorem step {self : Consumer} {policy : Policy} (patient : policy.Patient) {first second : Crew LoopStage}
    {owner : String → Option String} (owned : Owned owner first.world.redis)
    (once : first.world.redis.Once jobId messageId)
    (step : Crew.Step self policy (LoopStage.Move self) first second)
    (charge : Charge (Mine owner self.consumerName) jobId messageId first) :
    ∃ owner', Grows owner owner' ∧ Owned owner' second.world.redis ∧
      second.world.redis.Once jobId messageId ∧
        Charge (Mine owner' self.consumerName) jobId messageId second := by
  have kept := charge.kept.step patient step
  have total := charge.engagement_le_one
  cases step with
  | @env world next stage posts event allowed occurs =>
      have owned' : Owned owner next.redis := Owned.occur owned occurs
      have once' : next.redis.Once jobId messageId := once_occur occurs once
      exact ⟨owner, .refl owner, owned', once', kept, charge.fits, charge.has, charge.lone,
        charge.few, charge.mine⟩
  | @main world next stage later posts op outcome fate row performs =>
      obtain ⟨owner', grows, owned', yields⟩ := owned.performs performs (names_loop row)
      have mine := charge.mono fun id => grows id self.consumerName
      -- the loop passes the job on to a task it creates
      have passed : (∃ spec, op = .createTask spec) →
          engaged jobId (world.created op) ≤ stage.engagement jobId := by
        rintro ⟨spec, rfl⟩
        have partakes : Partakes jobId (.createTask spec) _ (stage.engagement jobId) _ _ _ :=
          Partakes.ofLoop row charge.fits.marks world
        have fewer := partakes.settled trivial
        omega
      have alone : (¬ ∃ spec, op = .createTask spec) → engaged jobId (world.created op) = 0 := by
        intro other
        rw [Backlog.created_eq_nil fun spec same => other ⟨spec, same⟩, engaged_nil]
      change stage.engagement jobId + engaged jobId posts ≤ 1 at total
      have few : engaged jobId posts ≤ 1 := charge.few
      refine ⟨owner', grows, ?_, ?_, kept, charge.fits.row row, mine.has.row row yields, ?_, ?_, ?_⟩
      · rw [World.recordCall_redis]
        exact owned'
      · rw [World.recordCall_redis]
        exact once_performs performs once
      · exact LoopStage.lone_row row (brings_of_performs owned once performs) charge.lone
      · change engaged jobId (posts ++ world.created op) ≤ 1
        rw [engaged_append]
        by_cases creates : ∃ spec, op = .createTask spec
        · have := passed creates
          omega
        · have := alone creates
          omega
      · change 0 < engaged jobId (posts ++ world.created op) → _
        rw [engaged_append]
        intro busy
        apply mine.own_of_busy
        change 0 < stage.engagement jobId + engaged jobId posts
        by_cases creates : ∃ spec, op = .createTask spec
        · have := passed creates
          omega
        · have := alone creates
          omega
  | @post world next stage before after post later op outcome fate row performs =>
      obtain ⟨owner', grows, owned', -⟩ := owned.performs performs (names_post row)
      have mine := charge.mono fun id => grows id self.consumerName
      have passed : later.engagement jobId + engaged jobId (world.created op) ≤ post.engagement jobId :=
        Post.engagement_row row world
      have fewer : engaged jobId (before ++ later :: after ++ world.created op) ≤
          engaged jobId (before ++ post :: after) := by
        simp only [engaged_append, engaged_cons]
        omega
      refine ⟨owner', grows, ?_, ?_, kept, charge.fits, mine.has, charge.lone, ?_, ?_⟩
      · rw [World.recordCall_redis]
        exact owned'
      · rw [World.recordCall_redis]
        exact once_performs performs once
      · exact Nat.le_trans fewer charge.few
      · exact fun busy => mine.mine (Nat.lt_of_lt_of_le busy fewer)

end Charge

/-! ### All consumers -/

section Teams

variable {ι : Type} [DecidableEq ι] {self : ι → Consumer} {policy : ι → Policy} {jobId messageId : String}

/-- The messages have owners, and each consumer has at most its own in charge. -/
def Orderly (self : ι → Consumer) (jobId messageId : String) (team : Team ι) : Prop :=
  ∃ owner, Owned owner team.redis ∧ team.redis.Once jobId messageId ∧
    ∀ name, Charge (Mine owner (self name).consumerName) jobId messageId (team.desk name).crew

omit [DecidableEq ι] in
theorem orderly_opening {redis : Redis} (distinct : redis.Distinct) (once : redis.Once jobId messageId) :
    Orderly self jobId messageId (.opening redis) := by
  have holds : Holds self (fun _ => .healthy) (.opening redis) := holds_opening distinct
  obtain ⟨owner, owned, -⟩ := holds
  exact ⟨owner, owned, once, fun _ => .off⟩

theorem orderly_step (patient : ∀ name, (policy name).Patient) {first second : Team ι}
    (step : Team.Step self policy first second) (orderly : Orderly self jobId messageId first) :
    Orderly self jobId messageId second := by
  obtain ⟨owner, owned, once, charge⟩ := orderly
  have become {owner' : String → Option String} (grows : Grows owner owner') {name : ι} {desk : Desk}
      (here : Charge (Mine owner' (self name).consumerName) jobId messageId desk.crew) (other : ι) :
      Charge (Mine owner' (self other).consumerName) jobId messageId (first.become name desk other).crew := by
    by_cases same : other = name
    · subst same
      rw [Team.become, Function.update_self]
      exact here
    · rw [Team.become, Function.update_of_ne same]
      exact (charge other).mono fun id => grows id _
  cases step with
  | act name step =>
      obtain ⟨owner', grows, owned', once', here⟩ :=
        ((charge name).joined first.redis).step (patient name) owned once step
      exact ⟨owner', owned', once', become grows here⟩
  | crash name => exact ⟨owner, owned, once, become (.refl owner) .off⟩
  | start name => exact ⟨owner, owned, once, become (.refl owner) .opening⟩

omit [DecidableEq ι] in
/-- At most one consumer has the job in charge. -/
theorem Orderly.unique (apart : Function.Injective fun name => (self name).consumerName) {team : Team ι}
    (orderly : Orderly self jobId messageId team) {name other : ι}
    (here : 0 < (team.desk name).crew.engagement jobId)
    (there : 0 < (team.desk other).crew.engagement jobId) : name = other := by
  obtain ⟨owner, -, -, charge⟩ := orderly
  have mine : owner messageId = some (self name).consumerName := (charge name).own_of_busy here
  have theirs : owner messageId = some (self other).consumerName := (charge other).own_of_busy there
  exact apart (Option.some.inj (mine.symm.trans theirs))

omit [DecidableEq ι] in
theorem Orderly.few {team : Team ι} (orderly : Orderly self jobId messageId team) (name : ι) :
    (team.desk name).crew.engagement jobId ≤ 1 := by
  obtain ⟨owner, -, -, charge⟩ := orderly
  exact (charge name).engagement_le_one

omit [DecidableEq ι] in
theorem Orderly.marks {team : Team ι} (orderly : Orderly self jobId messageId team) (name : ι) :
    (team.desk name).crew.main.Marks := by
  obtain ⟨owner, -, -, charge⟩ := orderly
  exact (charge name).fits.marks

/-- What a step of a team does to one desk, to the status of the job and to the log. -/
inductive Moved (policy : Policy) (jobId : String) (first second : Team ι) (name : ι) : Prop where
  /-- An event occurs, or the process crashes or starts. -/
  | calm (status : second.redis.status jobId = first.redis.status jobId)
      (engagement : (second.desk name).crew.engagement jobId ≤ (first.desk name).crew.engagement jobId)
      (reporting : (second.desk name).crew.Reporting jobId → (first.desk name).crew.Reporting jobId)
      (log : ∃ events : List EnvEvent, (second.desk name).log =
        (first.desk name).log ++ events.map Entry.env)
  /-- A part of the process performs an operation. -/
  | act {role : Role} {op : Op} {outcome : Except Exc op.Reply} {fate : Fate} {world next : World}
      (before : world.redis = first.redis) (performs : World.Performs policy world op outcome fate next)
      (after : second.redis = next.redis)
      (partakes : Partakes jobId op outcome ((first.desk name).crew.engagement jobId)
        ((second.desk name).crew.engagement jobId) ((first.desk name).crew.Reporting jobId)
        ((second.desk name).crew.Reporting jobId))
      (log : (second.desk name).log =
        (first.desk name).log ++ if op.logged then [.call role op outcome fate] else [])

theorem desk_self (team : Team ι) (redis : Redis) (name : ι) (desk : Desk) :
    (Team.mk redis (team.become name desk)).desk name = desk := Function.update_self ..

theorem desk_other (team : Team ι) (redis : Redis) {name other : ι} (desk : Desk) (different : other ≠ name) :
    (Team.mk redis (team.become name desk)).desk other = team.desk other :=
  Function.update_of_ne different ..

theorem moved_of_step (spared : ∀ name, (policy name).Spares jobId) {first second : Team ι}
    (step : Team.Step self policy first second) (orderly : Orderly self jobId messageId first) :
    ∃ name, (∀ other, other ≠ name → second.desk other = first.desk other) ∧
      Moved (policy name) jobId first second name := by
  cases step with
  | @act name crew step =>
      refine ⟨name, fun other different => desk_other first _ _ different, ?_⟩
      have parts := step.parts (orderly.marks name) (orderly.few name)
      rcases parts with ⟨event, next, allowed, occurs, rfl⟩ |
        ⟨role, op, outcome, fate, next, performs, world, partakes⟩
      · apply Moved.calm
        · exact status_of_spared (spared name) allowed occurs
        · rw [desk_self]
          exact Nat.le_refl _
        · rw [desk_self]
          exact id
        · refine ⟨[event], ?_⟩
          rw [desk_self, Desk.log, Desk.log, List.append_assoc]
          change _ ++ (next.record (.env event)).log = _
          rw [World.record_log, World.log_of_occur occurs]
          rfl
      · apply Moved.act rfl performs
        · rw [world, World.recordCall_redis]
        · rw [desk_self]
          exact partakes
        · rw [desk_self, Desk.log, Desk.log, List.append_assoc, world,
            World.recordCall_log_of_performs role performs]
          split
          · rfl
          · rw [List.append_nil]
            rfl
  | crash name =>
      refine ⟨name, fun other different => desk_other first _ _ different, .calm rfl ?_ ?_ ⟨[], ?_⟩⟩
      · rw [desk_self]
        exact Nat.zero_le _
      · rw [desk_self]
        rintro (reports | ⟨post, member, -⟩)
        · exact reports.elim
        · cases member
      · rw [desk_self]
        rfl
  | start name down =>
      refine ⟨name, fun other different => desk_other first _ _ different, .calm rfl ?_ ?_ ⟨[], ?_⟩⟩
      · rw [desk_self]
        exact Nat.zero_le _
      · rw [desk_self]
        rintro (reports | ⟨post, member, -⟩)
        · exact reports.elim
        · cases member
      · rw [desk_self, Desk.log, Desk.log, down]
        exact (List.append_nil _).symm

/-! ### After the conclusion -/

/-- The status is final and nobody has the job in charge. -/
structure Closed (jobId : String) (team : Team ι) : Prop where
  final : Final (team.redis.status jobId).state
  free : ∀ name, (team.desk name).crew.engagement jobId = 0

/-- What is logged from there on does not touch the job. -/
def Untouched (jobId : String) (first second : Team ι) : Prop :=
  second.redis.status jobId = first.redis.status jobId ∧
    ∀ name, ∃ later, (second.desk name).log = (first.desk name).log ++ later ∧
      ∀ entry ∈ later, entry.touches jobId = false

theorem Closed.step (spared : ∀ name, (policy name).Spares jobId) {first second : Team ι}
    (step : Team.Step self policy first second) (orderly : Orderly self jobId messageId first)
    (closed : Closed jobId first) : Closed jobId second ∧ Untouched jobId first second := by
  obtain ⟨name, others, moved⟩ := moved_of_step spared step orderly
  -- the desks that do not move are as they were
  have free (here : (second.desk name).crew.engagement jobId = 0) (other : ι) :
      (second.desk other).crew.engagement jobId = 0 := by
    by_cases same : other = name
    · rw [same]
      exact here
    · rw [others other same]
      exact closed.free other
  have logs {more : List Entry} (here : (second.desk name).log = (first.desk name).log ++ more)
      (clean : ∀ entry ∈ more, entry.touches jobId = false) (other : ι) :
      ∃ later, (second.desk other).log = (first.desk other).log ++ later ∧
        ∀ entry ∈ later, entry.touches jobId = false := by
    by_cases same : other = name
    · rw [same]
      exact ⟨more, here, clean⟩
    · rw [others other same]
      exact ⟨[], (List.append_nil _).symm, fun _ member => by cases member⟩
  cases moved with
  | calm status engagement _ log =>
      have here := Nat.le_trans engagement (Nat.le_of_eq (closed.free name))
      obtain ⟨events, log⟩ := log
      refine ⟨⟨?_, free (Nat.le_zero.mp here)⟩, status, logs log ?_⟩
      · rw [status]
        exact closed.final
      · intro entry member
        obtain ⟨event, -, rfl⟩ := List.mem_map.mp member
        rfl
  | @act role op outcome fate world next before performs after partakes log =>
      have untouched : op.touches jobId = false := by
        cases touches : op.touches jobId with
        | false => rfl
        | true =>
            have busy := partakes.touches touches
            rw [closed.free name] at busy
            cases busy
      have status : second.redis.status jobId = first.redis.status jobId := by
        rw [after, ← before]
        exact status_of_untouched performs untouched
      have finds : op.FindsFinal jobId outcome := by
        apply findsFinal_of_performs _ performs
        rw [before]
        exact closed.final
      have here := Nat.le_trans (partakes.settled finds) (Nat.le_of_eq (closed.free name))
      refine ⟨⟨?_, free (Nat.le_zero.mp here)⟩, status, logs log ?_⟩
      · rw [status]
        exact closed.final
      · intro entry member
        split at member
        · rw [List.mem_singleton.mp member]
          exact untouched
        · cases member

omit [DecidableEq ι] in
theorem Untouched.refl (team : Team ι) : Untouched jobId team team :=
  ⟨rfl, fun _ => ⟨[], (List.append_nil _).symm, fun _ member => by cases member⟩⟩

omit [DecidableEq ι] in
theorem Untouched.trans {first second third : Team ι} (before : Untouched jobId first second)
    (after : Untouched jobId second third) : Untouched jobId first third := by
  refine ⟨after.1.trans before.1, fun name => ?_⟩
  obtain ⟨early, log, clean⟩ := before.2 name
  obtain ⟨late, log', clean'⟩ := after.2 name
  refine ⟨early ++ late, by rw [log', log, List.append_assoc], fun entry member => ?_⟩
  exact (List.mem_append.mp member).elim (clean entry) (clean' entry)

/-- In every run from there on, nothing touches the job. -/
theorem Closed.reaches (spared : ∀ name, (policy name).Spares jobId)
    (patient : ∀ name, (policy name).Patient) {first second : Team ι}
    (reaches : Team.Reaches self policy first second) (orderly : Orderly self jobId messageId first)
    (closed : Closed jobId first) :
    Orderly self jobId messageId second ∧ Closed jobId second ∧ Untouched jobId first second := by
  induction reaches with
  | refl => exact ⟨orderly, closed, .refl first⟩
  | tail _ step inductionHypothesis =>
      obtain ⟨orderly', closed', untouched⟩ := inductionHypothesis
      obtain ⟨closed'', untouched'⟩ := closed'.step spared step orderly'
      exact ⟨orderly_step patient step orderly', closed'', untouched.trans untouched'⟩

/-- The conclusion leaves nobody in charge. -/
theorem closed_of_concludes (apart : Function.Injective fun name => (self name).consumerName)
    (spared : ∀ name, (policy name).Spares jobId) {first second : Team ι}
    (step : Team.Step self policy first second) (orderly : Orderly self jobId messageId first) {name : ι}
    (concludes : (first.desk name).log.countP (Entry.concludes jobId) <
      (second.desk name).log.countP (Entry.concludes jobId))
    (final : Final (second.redis.status jobId).state) : Closed jobId second := by
  obtain ⟨mover, others, moved⟩ := moved_of_step spared step orderly
  -- only the desk that moves logs something
  have same : name = mover := by
    by_contra different
    rw [others name different] at concludes
    exact Nat.lt_irrefl _ concludes
  subst same
  cases moved with
  | calm _ _ _ log =>
      obtain ⟨events, log⟩ := log
      have none_ : (events.map Entry.env).countP (Entry.concludes jobId) = 0 := by
        apply List.countP_eq_zero.mpr
        intro entry member concludes
        obtain ⟨event, -, rfl⟩ := List.mem_map.mp member
        cases concludes
      rw [log, List.countP_append, none_] at concludes
      exact absurd concludes (Nat.lt_irrefl _)
  | @act role op outcome fate world next before performs after partakes log =>
      rw [log, List.countP_append, Nat.lt_add_right_iff_pos] at concludes
      obtain ⟨entry, member, concludes⟩ := List.countP_pos_iff.mp concludes
      have here : entry = .call role op outcome fate := by
        split at member
        · exact List.mem_singleton.mp member
        · cases member
      subst here
      obtain ⟨concludes, answered⟩ := Bool.and_eq_true_iff.mp concludes
      have used := partakes.concludes concludes answered
      have few := orderly.few name
      refine ⟨final, fun other => ?_⟩
      by_cases same : other = name
      · subst same
        omega
      · rw [others other same]
        apply Nat.eq_zero_of_not_pos
        intro busy
        exact same (orderly.unique apart busy (by omega))

/-! ### Before the report -/

/-- No result has been reported, and who is about to report has written the completed status. -/
structure Unreported (jobId : String) (team : Team ι) : Prop where
  silent : ∀ name, (team.desk name).log.countP (Entry.reports jobId) = 0
  written : ∀ name, (team.desk name).crew.Reporting jobId →
    (team.redis.status jobId).state = some .completed

/-- The result has been reported by this consumer, and the job is settled. -/
structure Reported (jobId : String) (team : Team ι) (name : ι) : Prop where
  once : (team.desk name).log.countP (Entry.reports jobId) = 1
  others : ∀ other, other ≠ name → (team.desk other).log.countP (Entry.reports jobId) = 0
  closed : Closed jobId team

theorem touches_of_reports {role : Role} {op : Op} {outcome : Except Exc op.Reply} {fate : Fate}
    (reports : (Entry.call role op outcome fate).reports jobId = true) :
    ∃ url payload, op = .sendResult url payload ∧ payload.jobId = jobId ∧ outcome.isOk = true := by
  cases op with
  | sendResult url payload =>
      obtain ⟨same, answered⟩ := Bool.and_eq_true_iff.mp reports
      exact ⟨url, payload, rfl, of_decide_eq_true same, answered⟩
  | _ => cases reports

theorem Reported.step (spared : ∀ name, (policy name).Spares jobId) {first second : Team ι} {name : ι}
    (step : Team.Step self policy first second) (orderly : Orderly self jobId messageId first)
    (reported : Reported jobId first name) : Reported jobId second name := by
  obtain ⟨closed, -, logs⟩ := reported.closed.step spared step orderly
  have kept (other : ι) : (second.desk other).log.countP (Entry.reports jobId) =
      (first.desk other).log.countP (Entry.reports jobId) := by
    obtain ⟨later, log, clean⟩ := logs other
    have none_ : later.countP (Entry.reports jobId) = 0 := by
      apply List.countP_eq_zero.mpr
      intro entry member reports
      have untouched := clean entry member
      cases entry with
      | env event => cases reports
      | call role op outcome fate =>
          obtain ⟨url, payload, rfl, same, -⟩ := touches_of_reports reports
          exact of_decide_eq_false untouched same
    rw [log, List.countP_append, none_, Nat.add_zero]
  exact ⟨(kept name).trans reported.once, fun other different => (kept other).trans (reported.others other different),
    closed⟩

/-- A step either reports nothing, or it reports the result and settles the job. -/
theorem Unreported.step (apart : Function.Injective fun name => (self name).consumerName)
    (spared : ∀ name, (policy name).Spares jobId)
    (steadfast : ∀ name mapping exception, ¬ (policy name).fault (.hset jobId mapping) exception)
    {first second : Team ι} (step : Team.Step self policy first second)
    (orderly : Orderly self jobId messageId first) (unreported : Unreported jobId first) :
    Unreported jobId second ∨ ∃ name, Reported jobId second name := by
  obtain ⟨name, others, moved⟩ := moved_of_step spared step orderly
  cases moved with
  | calm status _ reporting log =>
      left
      obtain ⟨events, log⟩ := log
      constructor
      · intro other
        by_cases same : other = name
        · rw [same, log, List.countP_append, unreported.silent, Nat.zero_add]
          apply List.countP_eq_zero.mpr
          intro entry member reports
          obtain ⟨event, -, rfl⟩ := List.mem_map.mp member
          cases reports
        · rw [others other same]
          exact unreported.silent other
      · intro other reports
        rw [status]
        by_cases same : other = name
        · rw [same] at reports
          exact unreported.written name (reporting reports)
        · rw [others other same] at reports
          exact unreported.written other reports
  | @act role op outcome fate world next before performs after partakes log =>
      by_cases reports : (Entry.call role op outcome fate).reports jobId = true
      · -- the result is reported
        right
        obtain ⟨url, payload, rfl, mine, answered⟩ := touches_of_reports reports
        have status : second.redis.status jobId = first.redis.status jobId := by
          rw [after, ← before, World.status_of_performs performs (by simp)]
        have completed := unreported.written name (partakes.sends url payload rfl mine)
        have concludes : (Entry.call role (.sendResult url payload) outcome fate).concludes jobId = true := by
          rw [Entry.concludes, answered, Bool.and_true]
          exact decide_eq_true mine
        have more : (first.desk name).log.countP (Entry.concludes jobId) <
            (second.desk name).log.countP (Entry.concludes jobId) := by
          rw [log, List.countP_append, Nat.lt_add_right_iff_pos]
          exact List.countP_pos_iff.mpr ⟨_, List.mem_singleton_self _, concludes⟩
        refine ⟨name, ?_, ?_, closed_of_concludes apart spared step orderly more ?_⟩
        · rw [log, List.countP_append, unreported.silent, Nat.zero_add]
          exact List.countP_singleton.trans (if_pos reports)
        · intro other different
          rw [others other different]
          exact unreported.silent other
        · rw [status]
          exact .inl completed
      · left
        constructor
        · intro other
          by_cases same : other = name
          · rw [same, log, List.countP_append, unreported.silent, Nat.zero_add]
            apply List.countP_eq_zero.mpr
            intro entry member
            split at member
            · rw [List.mem_singleton.mp member]
              exact reports
            · cases member
          · rw [others other same]
            exact unreported.silent other
        · intro other reporting
          rw [after]
          by_cases same : other = name
          · rw [same] at reporting
            rcases partakes.reports reporting with ⟨earlier, unwritten⟩ | ⟨mapping, rfl, completed⟩
            · rw [status_of_unwritten performs unwritten, before]
              exact unreported.written name earlier
            · exact status_of_written completed (steadfast name mapping) performs
          · rw [others other same] at reporting
            have untouched : op.touches jobId = false := by
              cases touches : op.touches jobId with
              | false => rfl
              | true => exact absurd (orderly.unique apart reporting.engaged (partakes.touches touches)) same
            rw [status_of_untouched performs untouched, before]
            exact unreported.written other reporting

theorem reported_reaches (apart : Function.Injective fun name => (self name).consumerName)
    (spared : ∀ name, (policy name).Spares jobId) (patient : ∀ name, (policy name).Patient)
    (steadfast : ∀ name mapping exception, ¬ (policy name).fault (.hset jobId mapping) exception)
    {first second : Team ι} (reaches : Team.Reaches self policy first second)
    (orderly : Orderly self jobId messageId first) (unreported : Unreported jobId first) :
    Unreported jobId second ∨ ∃ name, Reported jobId second name := by
  have both : Orderly self jobId messageId second ∧
      (Unreported jobId second ∨ ∃ name, Reported jobId second name) := by
    induction reaches with
    | refl => exact ⟨orderly, .inl unreported⟩
    | tail _ step inductionHypothesis =>
        obtain ⟨orderly', so_far⟩ := inductionHypothesis
        refine ⟨orderly_step patient step orderly', ?_⟩
        rcases so_far with unreported' | ⟨name, reported⟩
        · exact unreported'.step apart spared steadfast step orderly'
        · exact .inr ⟨name, reported.step spared step orderly'⟩
  exact both.2

end Teams

end Settlement

open Settlement in
/-- Any number of consumers with different names work on one group, with any failures but interrupted
waits for a delivery, crashes and restarts. One entry of the stream carries the job, and nobody else
writes its status. Then once its result webhook has been answered or its cancelled status has been
written, with a final status in Redis: whatever is redelivered later, no consumer executes the job again,
changes its status or sends another of its webhooks. -/
theorem settled_stays {ι : Type} [DecidableEq ι] (self : ι → Consumer) (policy : ι → Policy)
    (apart : Function.Injective fun name => (self name).consumerName)
    (patient : ∀ name, (policy name).Patient) {jobId messageId : String}
    (spared : ∀ name, (policy name).Spares jobId) {redis : Redis} (distinct : redis.Distinct)
    (once : redis.Once jobId messageId) {first second last : Cluster ι}
    (before : Cluster.Reaches self policy (.opening redis) first) (step : Cluster.Step self policy first second)
    {name : ι} (concludes : (first.site name).conclusions jobId < (second.site name).conclusions jobId)
    (final : Final (second.redis.status jobId).state)
    (after : Cluster.Reaches self policy second last) :
    last.redis.status jobId = second.redis.status jobId ∧
      ∀ other, ∃ later, (last.site other).log = (second.site other).log ++ later ∧
        ∀ entry ∈ later, entry.touches jobId = false := by
  obtain ⟨firstTeam, reached, stands⟩ := (Team.Stands.opening redis).reaches before
  obtain ⟨secondTeam, step', stands'⟩ := stands.step step
  obtain ⟨lastTeam, reached', stands''⟩ := stands'.reaches after
  have orderly : Orderly self jobId messageId firstTeam :=
    reached.preserves (orderly_step patient) (orderly_opening distinct once)
  rw [Site.conclusions, Site.conclusions, ← stands'.log name, ← stands.log name] at concludes
  rw [← stands'.redis] at final
  have closed : Closed jobId secondTeam := closed_of_concludes apart spared step' orderly concludes final
  obtain ⟨-, -, status, logs⟩ := closed.reaches spared patient reached' (orderly_step patient step' orderly)
  rw [stands''.redis, stands'.redis] at status
  refine ⟨status, fun other => ?_⟩
  obtain ⟨later, grown, clean⟩ := logs other
  rw [stands''.log other, stands'.log other] at grown
  exact ⟨later, grown, clean⟩

open Settlement in
/-- If the writes of its status do not fail, the result webhook of the job is answered at most once, over
all consumers, crashes and restarts. -/
theorem reported_once {ι : Type} [DecidableEq ι] (self : ι → Consumer) (policy : ι → Policy)
    (apart : Function.Injective fun name => (self name).consumerName)
    (patient : ∀ name, (policy name).Patient) {jobId messageId : String}
    (spared : ∀ name, (policy name).Spares jobId)
    (steadfast : ∀ name mapping exception, ¬ (policy name).fault (.hset jobId mapping) exception)
    {redis : Redis} (distinct : redis.Distinct) (once : redis.Once jobId messageId) {cluster : Cluster ι}
    (reaches : Cluster.Reaches self policy (.opening redis) cluster) :
    (∀ name, (cluster.site name).reports jobId ≤ 1) ∧
      ∀ name other, 0 < (cluster.site name).reports jobId → 0 < (cluster.site other).reports jobId →
        name = other := by
  obtain ⟨team, reached, stands⟩ := (Team.Stands.opening redis).reaches reaches
  have start : Unreported jobId (Team.opening redis : Team ι) :=
    ⟨fun _ => rfl, fun _ reports => by
      rcases reports with main | ⟨post, member, -⟩
      · exact main.elim
      · cases member⟩
  have counts (name : ι) : (cluster.site name).reports jobId =
      (team.desk name).log.countP (Entry.reports jobId) := by
    rw [Site.reports, stands.log name]
  have outcome := reported_reaches apart spared patient steadfast reached (orderly_opening distinct once) start
  rcases outcome with unreported | ⟨author, reported⟩
  · constructor
    · intro name
      rw [counts, unreported.silent]
      exact Nat.zero_le 1
    · intro name other here
      rw [counts, unreported.silent] at here
      cases here
  · have mine {name : ι} (here : 0 < (cluster.site name).reports jobId) : name = author := by
      by_contra different
      rw [counts, reported.others name different] at here
      cases here
    constructor
    · intro name
      rw [counts]
      by_cases same : name = author
      · rw [same]
        exact Nat.le_of_eq reported.once
      · rw [reported.others name same]
        exact Nat.zero_le 1
    · intro name other here there
      rw [mine here, mine there]

/-! ### A run of two consumers -/

namespace Settlement

open Ownership

/-- The connection is lost in every acknowledgement. -/
def losesAcks (_ : World) (op : Op) : Option Exc :=
  match op with
  | .xack _ => some ⟨.connectionError, "lost"⟩
  | _ => none

/-- Acknowledgements may fail, and nobody else writes a status. -/
def lossy (_ : Bool) : Policy where
  fault op exception := ∃ world, losesAcks world op = some exception
  env event := ∀ jobId state, event ≠ .statusWritten jobId state

/-- What the surroundings answer. -/
def answers : Surroundings := (Surroundings.plain Sample.result).failing losesAcks

/-- The first consumer has executed its job and is about to report it. -/
def atReport : Cluster Bool :=
  ((Cluster.opening waiting).launch workers true 3).play workers lossy answers true
    (List.replicate 21 (.task 0) ++ .env (.runFinished "a" (.ok Sample.result)) :: List.replicate 8 (.task 0))

/-- It has reported it. -/
def afterReport : Cluster Bool := atReport.play workers lossy answers true [.task 0]

/-- It has crashed without an acknowledgement. -/
def crashed : Cluster Bool :=
  (afterReport.play workers lossy answers true (List.replicate 4 (.task 0))).halt true

/-- It has been started again and has recovered the message. -/
def redelivered : Cluster Bool :=
  (crashed.launch workers true 3).play workers lossy answers true (List.replicate 12 (.task 0))

theorem answers_within (name : Bool) : answers.Within (lossy name) := by
  apply Surroundings.failing_within
  · exact Surroundings.plain_within fun _ _ _ _ => trivial
  · exact fun world op exception picked => ⟨world, picked⟩

theorem lossy_spares (jobId : String) (name : Bool) : (lossy name).Spares jobId :=
  fun state allowed => allowed jobId state rfl

theorem lossy_patient (name : Bool) : (lossy name).Patient := by
  rintro number exception ⟨world, picked⟩
  cases picked

theorem lossy_steadfast (jobId : String) (name : Bool) (mapping : StatusHash) (exception : Exc) :
    ¬ (lossy name).fault (.hset jobId mapping) exception := by
  rintro ⟨world, picked⟩
  cases picked

theorem workers_apart : Function.Injective fun name => (workers name).consumerName := by
  unfold Function.Injective
  decide

theorem waiting_once : waiting.Once "a" "1-0" := by
  have listed {message : StreamMessage} (member : message ∈ waiting.undelivered)
      (carries : message.carries "a" = true) : message.messageId = "1-0" := by
    rcases List.mem_cons.mp member with rfl | rest
    · rfl
    · rw [List.mem_singleton.mp rest] at carries
      exact absurd carries (by decide +kernel)
  rintro message (member | member) carries
  · exact listed member carries
  · exact listed member carries

theorem atReport_reaches : Cluster.Reaches workers lossy (.opening waiting) atReport := by
  apply Relation.ReflTransGen.head (.start true 3 rfl)
  apply Cluster.play_reaches (answers_within true)
  · intro event member jobId state same
    subst same
    simp at member
  · decide +kernel

theorem afterReport_step : Cluster.Step workers lossy atReport afterReport :=
  Cluster.play_step (answers_within true) (by decide +kernel)

theorem redelivered_reaches : Cluster.Reaches workers lossy afterReport redelivered := by
  have quiet {count : Nat} (event : EnvEvent) (member : Turn.env event ∈ List.replicate count (.task 0)) :
      (lossy true).env event := by
    cases List.eq_of_mem_replicate member
  have crash : Cluster.Reaches workers lossy afterReport crashed :=
    .tail (Cluster.play_reaches (answers_within true) quiet (by decide +kernel)) (.crash true)
  have again : Cluster.Reaches workers lossy (crashed.launch workers true 3) redelivered :=
    Cluster.play_reaches (answers_within true) quiet (by decide +kernel)
  exact crash.trans (.head (.start true 3 rfl) again)

end Settlement

open Settlement Ownership in
/-- The result, for that run: the message is still pending, and its job stays as it was. -/
theorem settled_stays_redelivered :
    ⟨"1-0", "worker-0"⟩ ∈ redelivered.redis.pending ∧
      redelivered.redis.status "a" = afterReport.redis.status "a" ∧
        ∀ other, ∃ later, (redelivered.site other).log = (afterReport.site other).log ++ later ∧
          ∀ entry ∈ later, entry.touches "a" = false :=
  ⟨by decide +kernel,
    settled_stays workers lossy workers_apart lossy_patient (lossy_spares "a")
      (by unfold Redis.Distinct; decide +kernel) waiting_once atReport_reaches afterReport_step
      (show (atReport.site true).conclusions "a" < (afterReport.site true).conclusions "a" by decide +kernel)
      (.inl (by decide +kernel)) redelivered_reaches⟩

open Settlement Ownership in
/-- And its result has been reported once. -/
theorem reported_once_redelivered :
    (redelivered.site true).reports "a" = 1 ∧
      (∀ name, (redelivered.site name).reports "a" ≤ 1) ∧
        ∀ name other, 0 < (redelivered.site name).reports "a" → 0 < (redelivered.site other).reports "a" →
          name = other :=
  ⟨by decide +kernel,
    reported_once workers lossy workers_apart lossy_patient (lossy_spares "a") (lossy_steadfast "a")
      (by unfold Redis.Distinct; decide +kernel) waiting_once
      ((atReport_reaches.tail afterReport_step).trans redelivered_reaches)⟩

end CodaNode
