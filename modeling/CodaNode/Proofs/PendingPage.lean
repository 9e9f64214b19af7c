/-
Module: CodaNode.Proofs.PendingPage
Layer: Proofs
Purpose: What recovery passes reach. A pass asks for the first hundred pending entries and leaves entries
  without a message as they are, so a hundred of them hide everything behind. What one pass does is stated
  once (`Pass`); that repeated passes reach every message follows by induction over the passes, with the
  number of entries left as the measure.
Imports: CodaNode.Protocol.Recovery, CodaNode.Server.Undisturbed, CodaNode.Server.Deeds
Main exports: Redis.Recovered, Redis.Unobstructed, Passes, recoverPending_complete_iff
-/
import CodaNode.Protocol.Recovery
import CodaNode.Server.Undisturbed
import CodaNode.Server.Deeds
import Mathlib.Algebra.BigOperators.Group.List.Basic

namespace CodaNode

open Coroutine

/-- The stream still has this message. -/
def Redis.live (redis : Redis) (messageId : String) : Bool :=
  redis.stream.any fun message => message.messageId = messageId

/-- No pending entry of this consumer has a message. -/
def Redis.Recovered (redis : Redis) (consumer : String) : Prop :=
  ∀ messageId ∈ redis.pendingOf consumer, redis.live messageId = false

/-- The pending entries a pass looks at. -/
def Redis.page (redis : Redis) (consumer : String) : List String :=
  (redis.pendingOf consumer).take pendingPageCount

/-- The pending entries of the consumer whose message exists. -/
def Redis.remaining (redis : Redis) (consumer : String) : List String :=
  (redis.pendingOf consumer).filter redis.live

/-- How many entries without a message lie in front of this one. -/
def Redis.trimmedBefore (redis : Redis) (consumer messageId : String) : Nat :=
  ((redis.pendingOf consumer).takeWhile (· ≠ messageId)).countP fun earlier => !redis.live earlier

/-- In front of every message that is left lie fewer entries without one than a page has. -/
def Redis.Unobstructed (redis : Redis) (consumer : String) : Prop :=
  ∀ messageId ∈ redis.remaining consumer, redis.trimmedBefore consumer messageId < pendingPageCount

/-- Between the two states the message of the entry has been handed to `_process_message`. -/
def Reprocessed (first second : World) (messageId : String) : Prop :=
  ∃ more, deeds none second.log = deeds none first.log ++ more ∧
    ∃ fields, .called ⟨messageId, fields⟩ ∈ more

/-- What was done before the second state was done before every later one. -/
theorem Reprocessed.grow {base world next : World} {messageId : String}
    (reprocessed : Reprocessed base world messageId)
    (grown : deeds none world.log <+: deeds none next.log) : Reprocessed base next messageId := by
  obtain ⟨more, whole, fields, inside⟩ := reprocessed
  obtain ⟨extra, later⟩ := grown
  exact ⟨more ++ extra, by rw [← later, whole, List.append_assoc], fields, List.mem_append_left _ inside⟩

/-- Passes that have returned one after another, each with its count and the state it left. The cloud may act
during them and in between. -/
inductive Passes (self : Consumer) : World → List (Nat × World) → World → Prop where
  | nil {world : World} : Passes self world [] world
  | pass {world next last : World} {count : Nat} {more : List (Nat × World)}
      (leads : Coro.Leads (machine self .healthy) Role.loop world (recoverPending self) next (.ret count))
      (later : Passes self next more last) : Passes self world ((count, next) :: more) last

namespace PendingPage

variable {self : Consumer} {base world next : World} {done rest : List String} {messageId : String}

/-! ### What has been dealt with -/

/-- The pending entries once these have been dealt with: those that have a message are gone. -/
def settle (redis : Redis) (done : List String) : List PendingEntry :=
  redis.pending.filter fun entry => !(decide (entry.messageId ∈ done) && redis.live entry.messageId)

/-- A pass that began at `base` has dealt with these entries. -/
structure Past (base : World) (done : List String) (world : World) : Prop where
  stream : world.redis.stream = base.redis.stream
  pending : world.redis.pending = settle base.redis done
  grown : deeds none base.log <+: deeds none world.log
  reprocessed : ∀ messageId ∈ done, base.redis.live messageId = true → Reprocessed base world messageId

/-- What leaves the entries alone leaves what has been dealt with. -/
theorem Past.grow (past : Past base done world) (stream : next.redis.stream = world.redis.stream)
    (pending : next.redis.pending = world.redis.pending)
    (grown : deeds none world.log <+: deeds none next.log) : Past base done next where
  stream := stream.trans past.stream
  pending := pending.trans past.pending
  grown := past.grown.trans grown
  reprocessed messageId inside live := (past.reprocessed messageId inside live).grow grown

theorem past_start : Past world [] world where
  stream := rfl
  pending := by
    refine (List.filter_eq_self.mpr ?_).symm
    simp
  grown := List.prefix_refl _
  reprocessed _ inside := by cases inside

/-- An entry without a message is left as it is. -/
theorem Past.trimmed (past : Past base done world) (gone : base.redis.live messageId = false) :
    Past base (done ++ [messageId]) world where
  stream := past.stream
  pending := by
    rw [past.pending]
    apply List.filter_congr
    intro entry _
    by_cases same : entry.messageId = messageId
    · simp [same, gone]
    · simp [same]
  grown := past.grown
  reprocessed other inside live := by
    rcases List.mem_append.mp inside with old | new
    · exact past.reprocessed other old live
    · rw [List.mem_singleton.mp new, gone] at live
      cases live

/-- An acknowledged entry is gone. -/
theorem Past.acked (past : Past base done world) (live : base.redis.live messageId = true)
    (reprocessed : Reprocessed base world messageId)
    (redis : next.redis = world.redis.acknowledge messageId)
    (grown : deeds none world.log <+: deeds none next.log) : Past base (done ++ [messageId]) next where
  stream := by
    rw [redis]
    exact past.stream
  pending := by
    rw [redis]
    change world.redis.pending.filter _ = _
    rw [past.pending, settle, List.filter_filter]
    apply List.filter_congr
    intro entry _
    by_cases same : entry.messageId = messageId
    · simp [same, live]
    · simp [same]
  grown := past.grown.trans grown
  reprocessed other inside alive := by
    rcases List.mem_append.mp inside with old | new
    · exact (past.reprocessed other old alive).grow grown
    · rw [List.mem_singleton.mp new]
      exact reprocessed.grow grown

/-! ### One message -/

/-- Where the call for an entry stands. -/
inductive Handling (base : World) (done : List String) (message : StreamMessage) : Stage → World → Prop where
  | start {world : World} (past : Past base done world) : Handling base done message .called world
  | begun {stage : Stage} {world : World} (inside : stage.phase ≠ .past) (begun : stage ≠ .called)
      (past : Past base done world) (reprocessed : Reprocessed base world message.messageId) :
      Handling base done message stage world
  | acked {stage : Stage} {world : World} (outside : stage.phase = .past)
      (past : Past base (done ++ [message.messageId]) world) : Handling base done message stage world
  | raised {exception : Exc} {world : World} : Handling base done message (.ended (.error exception)) world

section Steps

variable {message : StreamMessage} {stage later : Stage} {op : Op} {outcome : Except Exc op.Reply} {fate : Fate}

theorem healthy_calm : Policy.healthy.Calm := fun _ _ admitted => admitted

theorem grown_of_performs (performs : World.Performs .healthy world op outcome fate next) :
    deeds none world.log <+: deeds none (next.recordCall .loop op outcome fate).log := by
  rw [deeds_of_performs performs (show Role.loop.seat = none from rfl)]
  exact List.prefix_append _ _

/-- An operation of a pass that is no acknowledgement. -/
theorem Past.performs (past : Past base done world)
    (performs : World.Performs .healthy world op outcome fate next) (ofRecovery : op.ofRecovery = true)
    (other : ∀ id, op ≠ .xack id) : Past base done (next.recordCall .loop op outcome fate) := by
  obtain ⟨-, -, effect⟩ := World.answered_of_calm healthy_calm performs
  have reads : ∀ name count, op ≠ .xreadgroup name count := by
    rintro name count rfl
    cases ofRecovery
  refine past.grow ?_ ?_ (grown_of_performs performs)
  · rw [World.recordCall_redis]
    exact World.stream_of_performs performs
  · rw [World.recordCall_redis]
    exact (World.entries_of_effect effect reads other).1

theorem Past.occurs (past : Past base done world) {event : EnvEvent} (occurs : world.occur event = some next) :
    Past base done (next.record (.env event)) := by
  obtain ⟨stream, pending⟩ := World.entries_of_occur occurs
  refine past.grow ?_ ?_ ?_
  · rw [World.record_redis]
    exact stream
  · rw [World.record_redis]
    exact pending
  · exact (deeds_of_occur occurs).symm ▸ List.prefix_refl _

/-- The acknowledgement ends what there is to do about the entry. -/
theorem acked_performs (past : Past base done world) (live : base.redis.live message.messageId = true)
    (reprocessed : Reprocessed base world message.messageId) {outcome : Except Exc Unit}
    (performs : World.Performs .healthy world (.xack message.messageId) outcome fate next) :
    Past base (done ++ [message.messageId]) (next.recordCall .loop (.xack message.messageId) outcome fate) := by
  obtain ⟨rfl, -, rfl⟩ := World.xack_answered healthy_calm.undisturbed performs
  exact past.acked live reprocessed (World.recordCall_redis ..) (grown_of_performs performs)

/-- Every row of the call keeps its place. -/
theorem Handling.row (live : base.redis.live message.messageId = true)
    (row : Stage.Move self message message.job stage op outcome later)
    (performs : World.Performs .healthy world op outcome fate next)
    (handling : Handling base done message stage world) :
    Handling base done message later (next.recordCall .loop op outcome fate) := by
  have ofRecovery := Op.ofRecovery_of_ofMessage row.ofMessage
  cases handling with
  | start past =>
      cases row with
      | clock | assign => exact .start (past.performs performs ofRecovery (by simp))
      | called =>
          obtain ⟨value, rfl⟩ := World.feasible_of_performs performs rfl
          have begun : Stage.opening message ≠ .called := by
            unfold Stage.opening
            split <;> simp
          have reprocessed : Reprocessed base
              (next.recordCall .loop (.note (.processMessage message)) (.ok value) fate) message.messageId := by
            obtain ⟨more, whole⟩ := past.grown
            refine ⟨more ++ [.called message], ?_, message.fields, by simp⟩
            rw [deeds_of_performs performs (show Role.loop.seat = none from rfl), ← whole, List.append_assoc]
            rfl
          rcases Stage.opening_phase message with inside | ⟨exception, same⟩
          · refine .begun ?_ begun (past.performs performs ofRecovery (by simp)) reprocessed
            change (Stage.opening message).phase ≠ _
            rw [inside]
            decide
          · change Handling base done message (Stage.opening message) _
            rw [same]
            exact .raised
  | begun inside begun past reprocessed =>
      have kept (other : ∀ id, op ≠ .xack id) (stays : later.phase ≠ .past) :
          Handling base done message later (next.recordCall .loop op outcome fate) := by
        refine .begun stays ?_ (past.performs performs ofRecovery other)
          (reprocessed.grow (grown_of_performs performs))
        rintro rfl
        exact begun row.called_of.1
      have left (leaves : later.phase = .past) (acks : op = .xack message.messageId) :
          Handling base done message later (next.recordCall .loop op outcome fate) := by
        subst acks
        exact .acked leaves (acked_performs past live reprocessed performs)
      cases phase : stage.phase with
      | past => exact absurd phase inside
      | before =>
          rcases row.before phase begun with ⟨stays | ⟨exception, rfl⟩, other⟩ | ⟨leaves, acks⟩
          · exact kept other stays
          · exact .raised
          · exact left leaves acks
      | during =>
          rcases row.during phase with ⟨stays, other⟩ | ⟨leaves, acks⟩
          · exact kept other (by rw [stays]; decide)
          · exact left leaves acks
  | acked outside past =>
      cases row with
      | release | free => exact .acked rfl (past.performs performs ofRecovery (by simp))
      | clock inside | assign inside => exact absurd outside inside
      | _ => cases outside
  | raised => exact row.not_ended.elim

/-- A call that has returned has acknowledged its entry. -/
theorem Handling.returned (handling : Handling base done message (.ended (.ok ())) world) :
    Past base (done ++ [message.messageId]) world := by
  cases handling with
  | begun inside => exact absurd rfl inside
  | acked _ past => exact past

theorem Handling.occurs (handling : Handling base done message stage world) {event : EnvEvent}
    (occurs : world.occur event = some next) :
    Handling base done message stage (next.record (.env event)) := by
  cases handling with
  | start past => exact .start (past.occurs occurs)
  | begun inside begun past reprocessed =>
      refine .begun inside begun (past.occurs occurs) (reprocessed.grow ?_)
      exact (deeds_of_occur occurs).symm ▸ List.prefix_refl _
  | acked outside past => exact .acked outside (past.occurs occurs)
  | raised => exact .raised

end Steps

/-! ### One pass -/

/-- Whether this row begins a message. -/
def begins : RecoveryStage → RecoveryStage → Nat
  | .fetch _ _, .process _ _ _ => 1
  | _, _ => 0

/-- The rows of a pass that also counts the messages it has begun. -/
inductive Move (self : Consumer) :
    RecoveryStage × Nat → (op : Op) → Except Exc op.Reply → RecoveryStage × Nat → Prop where
  | row {stage later count op outcome} (row : RecoveryStage.Move self stage op outcome later) :
      Move self (stage, count) op outcome (later, count + begins stage later)

theorem begins_next (stage : RecoveryStage) (rest : List String) : begins stage (.next rest) = 0 := by
  cases stage <;> cases rest <;> rfl

theorem recoverEntry_follows (count : Nat) (messageId : String) (rest : List String) :
    Follows (Move self) (fun found later => later = (.next rest, count + found))
      (fun exception later => ∃ seen, later = (.ended (.error exception), seen))
      (recoverEntry self messageId) (.fetch messageId rest, count) := by
  refine Follows.call_bind (fun _ => .row .fetch) (fun messages => ?_) fun exception => ⟨_, rfl⟩
  cases messages with
  | nil =>
      change _ = _
      simp [afterCall, RecoveryStage.fetched, begins_next]
  | cons message others =>
      have rows : ∀ {stage op outcome next},
          Stage.Move self ⟨messageId, message.fields⟩ (StreamMessage.job ⟨messageId, message.fields⟩)
            stage op outcome next →
          Move self (.process ⟨messageId, message.fields⟩ stage rest, count + 1) op outcome
            (Stage.within (fun stage => (.process ⟨messageId, message.fields⟩ stage rest, count + 1))
              (.next rest, count + 1) (fun exception => (.ended (.error exception), count + 1)) next) := by
        intro stage op outcome next row
        have moved : Move self (.process ⟨messageId, message.fields⟩ stage rest, count + 1) op outcome _ :=
          .row (.process row)
        cases next with
        | ended ending =>
            cases ending with
            | ok value =>
                rw [show (Stage.within (RecoveryStage.process ⟨messageId, message.fields⟩ · rest)
                    (RecoveryStage.next rest) (fun exception => RecoveryStage.ended (.error exception))
                    (.ended (.ok value))) = RecoveryStage.next rest from rfl, begins_next] at moved
                exact moved
            | error exception => exact moved
        | _ => exact moved
      have processed := Stage.processEntry_follows
        (fun stage => (RecoveryStage.process ⟨messageId, message.fields⟩ stage rest, count + 1)) rows
      refine Coro.Tracks.bind (processed.imp (fun _ _ reached => reached) ?_) ?_
      · rintro exception later rfl
        exact ⟨count + 1, rfl⟩
      · rintro _ later rfl
        rfl

/-- A pass returns how many messages it has begun. -/
theorem pass_follows :
    Follows (Move self) (fun count later => later = (.ended (.ok ()), count))
      (fun exception later => ∃ seen, later = (.ended (.error exception), seen))
      (recoverPending self) (.query, 0) := by
  refine Follows.call_bind (fun _ => .row .query) (fun pending => ?_) fun exception => ⟨_, rfl⟩
  have rounds : Follows (Move self)
      (fun counts later => later = (.next [], ([] ++ counts).sum))
      (fun exception later => ∃ seen, later = (.ended (.error exception), seen))
      (Coro.collect pending (recoverEntry self)) (.next pending, 0) := by
    refine Coro.Tracks.collect (fun counts rest => (RecoveryStage.next rest, List.sum counts)) ?_ []
    intro counts messageId rest
    refine (recoverEntry_follows counts.sum messageId rest).imp ?_ fun _ _ raised => raised
    rintro count later rfl
    simp
  simp only [afterCall, begins_next, Nat.add_zero]
  refine rounds.bind ?_
  rintro counts later rfl
  rfl

/-- What holds while a pass that began at `base` goes on. -/
def Holds (self : Consumer) (base : World) : RecoveryStage × Nat → World → Prop
  | (.query, count), world => count = 0 ∧ Past base [] world
  | (.fetch messageId rest, count), world =>
      ∃ done, base.redis.page self.consumerName = done ++ messageId :: rest ∧
        count = done.countP base.redis.live ∧ Past base done world
  | (.process message stage rest, count), world =>
      ∃ done, base.redis.page self.consumerName = done ++ message.messageId :: rest ∧
        base.redis.live message.messageId = true ∧ count = done.countP base.redis.live + 1 ∧
          Handling base done message stage world
  | (.ended (.ok ()), count), world =>
      count = (base.redis.page self.consumerName).countP base.redis.live ∧
        Past base (base.redis.page self.consumerName) world
  | (.ended (.error _), _), _ => True

theorem holds_next {count : Nat} (page : base.redis.page self.consumerName = done ++ rest)
    (counted : count = done.countP base.redis.live) (past : Past base done world) :
    Holds self base (.next rest, count) world := by
  cases rest with
  | nil =>
      rw [List.append_nil] at page
      subst page
      exact ⟨counted, past⟩
  | cons messageId rest => exact ⟨done, page, counted, past⟩

theorem holds_occur {pass : RecoveryStage × Nat} {event : EnvEvent} (occurs : world.occur event = some next)
    (holds : Holds self base pass world) : Holds self base pass (next.record (.env event)) := by
  obtain ⟨stage, count⟩ := pass
  cases stage with
  | query => exact ⟨holds.1, holds.2.occurs occurs⟩
  | fetch messageId rest =>
      obtain ⟨done, page, counted, past⟩ := holds
      exact ⟨done, page, counted, past.occurs occurs⟩
  | process message stage rest =>
      obtain ⟨done, page, live, counted, handling⟩ := holds
      exact ⟨done, page, live, counted, handling.occurs occurs⟩
  | ended ending =>
      cases ending with
      | ok value => exact ⟨holds.1, holds.2.occurs occurs⟩
      | error exception => trivial

/-- What XRANGE finds. -/
theorem live_iff {redis : Redis} :
    redis.live messageId = true ↔ redis.stream.filter (fun message => message.messageId = messageId) ≠ [] := by
  rw [Redis.live, List.any_eq_true, ne_eq, List.filter_eq_nil_iff]
  simp

theorem holds_row {pass later : RecoveryStage × Nat} {op : Op} {outcome : Except Exc op.Reply} {fate : Fate}
    (row : Move self pass op outcome later) (performs : World.Performs .healthy world op outcome fate next)
    (holds : Holds self base pass world) :
    Holds self base later (next.recordCall .loop op outcome fate) := by
  cases row with
  | @row stage later count _ _ row =>
      cases row with
      | query =>
          obtain ⟨rfl, past⟩ := holds
          have kept := past.performs performs rfl (by simp)
          obtain ⟨rfl, -, rfl⟩ := World.xpendingRange_answered healthy_calm performs
          simp only [afterCall, begins_next]
          refine holds_next ?_ rfl kept
          rw [List.nil_append, Redis.page, Redis.pendingOf, Redis.pendingOf, past.pending, ← past_start.pending]
      | @fetch messageId rest =>
          obtain ⟨done, page, counted, past⟩ := holds
          have kept := past.performs performs rfl (by simp)
          obtain ⟨rfl, -, rfl⟩ := World.xrange_answered healthy_calm performs
          rw [past.stream] at kept ⊢
          have found := @live_iff messageId base.redis
          cases answer : base.redis.stream.filter (fun message => message.messageId = messageId) with
          | nil =>
              have gone : base.redis.live messageId = false := by
                rw [← Bool.not_eq_true, found, answer]
                simp
              rw [answer] at kept
              simp only [afterCall, RecoveryStage.fetched, begins_next, Nat.add_zero]
              refine holds_next (by rw [page, List.append_assoc]; rfl) ?_ (kept.trimmed gone)
              rw [counted, List.countP_append, List.countP_singleton, gone]
              rfl
          | cons message others =>
              have live : base.redis.live messageId = true := by
                rw [found, answer]
                exact List.cons_ne_nil _ _
              rw [answer] at kept
              exact ⟨done, page, live, by rw [counted]; rfl, .start kept⟩
      | @process message stage rest _ _ later row =>
          obtain ⟨done, page, live, counted, handling⟩ := holds
          have moved := handling.row live row performs
          refine Stage.within_cases
            (motive := fun after => Holds self base (after, count + begins (.process message stage rest) after)
              (next.recordCall .loop op outcome fate)) ?_ ?_ ?_
          · exact fun _ => ⟨done, page, live, counted, moved⟩
          · rintro rfl
            rw [begins_next]
            refine holds_next (by rw [page, List.append_assoc]; rfl) ?_ moved.returned
            rw [counted, List.countP_append, List.countP_singleton, live]
            rfl
          · exact fun _ _ => trivial

/-- What a pass that has returned has done. -/
theorem pass_of_leads {count : Nat}
    (leads : Coro.Leads (machine self .healthy) Role.loop base (recoverPending self) world (.ret count)) :
    count = (base.redis.page self.consumerName).countP base.redis.live ∧
      Past base (base.redis.page self.consumerName) world := by
  obtain ⟨_, rfl, holds⟩ := pass_follows.leads (Holds self base)
    (fun _ occurs holds => holds_occur occurs holds) (fun row performs holds => holds_row row performs holds)
    ⟨rfl, past_start⟩ leads
  exact holds

/-! ### What a pass leaves -/

section Left

variable {consumer : String}

/-- The entries that are still there when these have been dealt with. -/
def keeps (redis : Redis) (done : List String) (messageId : String) : Bool :=
  !(decide (messageId ∈ done) && redis.live messageId)

theorem Past.live (past : Past base done world) : world.redis.live = base.redis.live := by
  funext messageId
  rw [Redis.live, Redis.live, past.stream]

theorem Past.pendingOf (past : Past base done world) :
    world.redis.pendingOf consumer = (base.redis.pendingOf consumer).filter (keeps base.redis done) := by
  rw [Redis.pendingOf, Redis.pendingOf, past.pending, settle, List.filter_map, List.filter_filter,
    List.filter_filter]
  congr 1
  apply List.filter_congr
  intro entry _
  exact Bool.and_comm _ _

/-- What is left had a message before, and was not dealt with. -/
theorem Past.remaining (past : Past base done world) :
    world.redis.remaining consumer = (base.redis.remaining consumer).filter fun messageId => messageId ∉ done := by
  rw [Redis.remaining, Redis.remaining, past.live, past.pendingOf, List.filter_filter, List.filter_filter]
  apply List.filter_congr
  intro messageId _
  cases live : base.redis.live messageId <;> simp [keeps, live]

/-- A pass takes away as many entries as it counts, and perhaps more of the same names. -/
theorem Past.shrinks (past : Past base (base.redis.page consumer) world) :
    (world.redis.remaining consumer).length + (base.redis.page consumer).countP base.redis.live ≤
      (base.redis.remaining consumer).length := by
  have split : base.redis.pendingOf consumer =
      base.redis.page consumer ++ (base.redis.pendingOf consumer).drop pendingPageCount :=
    (List.take_append_drop _ _).symm
  have front : ((base.redis.page consumer).filter base.redis.live).filter
      (fun messageId => messageId ∉ base.redis.page consumer) = [] := by
    rw [List.filter_eq_nil_iff]
    intro messageId inside
    simp [(List.mem_filter.mp inside).1]
  have back := List.length_filter_le (fun messageId => decide (messageId ∉ base.redis.page consumer))
    (((base.redis.pendingOf consumer).drop pendingPageCount).filter base.redis.live)
  rw [past.remaining, Redis.remaining, List.countP_eq_length_filter]
  generalize base.redis.page consumer = page at *
  rw [split, List.filter_append, List.filter_append, front, List.nil_append, List.length_append]
  omega

theorem takeWhile_filter {keep : String → Bool} (kept : keep messageId = true) (ids : List String) :
    (ids.filter keep).takeWhile (· ≠ messageId) = (ids.takeWhile (· ≠ messageId)).filter keep := by
  induction ids with
  | nil => rfl
  | cons id rest ih =>
      by_cases same : id = messageId
      · subst same
        simp [kept]
      · by_cases stays : keep id = true
        · simp only [List.filter_cons_of_pos stays, List.takeWhile_cons, same, ne_eq, not_false_eq_true,
            decide_true, if_true]
          exact congrArg (id :: ·) ih
        · simp only [List.filter_cons_of_neg stays, List.takeWhile_cons, same, ne_eq, not_false_eq_true,
            decide_true, if_true]
          exact ih

/-- Entries without a message stay where they are, in front of whatever is left. -/
theorem Past.trimmedBefore (past : Past base done world) (left : messageId ∈ world.redis.remaining consumer) :
    world.redis.trimmedBefore consumer messageId = base.redis.trimmedBefore consumer messageId := by
  rw [past.remaining] at left
  have kept : keeps base.redis done messageId = true := by
    have outside := (List.mem_filter.mp left).2
    simp only [decide_eq_true_eq] at outside
    simp [keeps, outside]
  rw [Redis.trimmedBefore, Redis.trimmedBefore, past.live, past.pendingOf, takeWhile_filter kept,
    List.countP_filter]
  apply List.countP_congr
  intro earlier _
  cases live : base.redis.live earlier <;> simp [keeps, live]

theorem takeWhile_lt {ids : List String} {size : Nat} (inside : messageId ∈ ids.take size) :
    (ids.takeWhile (· ≠ messageId)).length < size := by
  induction ids generalizing size with
  | nil => simp at inside
  | cons id rest ih =>
      cases size with
      | zero => simp at inside
      | succ size =>
          by_cases same : id = messageId
          · simp [same]
          · rw [List.take_succ_cons, List.mem_cons] at inside
            rcases inside with rfl | behind
            · exact absurd rfl same
            · rw [List.takeWhile_cons_of_pos (by simp [same]), List.length_cons]
              exact Nat.succ_lt_succ (ih behind)

/-- What lies on the page has little in front of it. -/
theorem trimmedBefore_of_page {redis : Redis} (inside : messageId ∈ redis.page consumer) :
    redis.trimmedBefore consumer messageId < pendingPageCount :=
  Nat.lt_of_le_of_lt List.countP_le_length (takeWhile_lt inside)

/-- A pass keeps the way to the remaining messages as it is. -/
theorem Past.unobstructed_iff (past : Past base (base.redis.page consumer) world) :
    world.redis.Unobstructed consumer ↔ base.redis.Unobstructed consumer := by
  constructor
  · intro free messageId left
    by_cases inside : messageId ∈ base.redis.page consumer
    · exact trimmedBefore_of_page inside
    · have still : messageId ∈ world.redis.remaining consumer := by
        rw [past.remaining]
        exact List.mem_filter.mpr ⟨left, decide_eq_true inside⟩
      rw [← past.trimmedBefore still]
      exact free messageId still
  · intro free messageId left
    rw [past.trimmedBefore left]
    rw [past.remaining] at left
    exact free messageId (List.mem_of_mem_filter left)

/-- While the way is free, a page with no message means that there is none. -/
theorem remaining_of_unobstructed {redis : Redis} (free : redis.Unobstructed consumer)
    (none_ : (redis.page consumer).countP redis.live = 0) : redis.remaining consumer = [] := by
  by_contra some_
  obtain ⟨messageId, rest, found⟩ := List.exists_cons_of_ne_nil some_
  obtain ⟨front, back, whole, trimmed, live, -⟩ := List.filter_eq_cons_iff.mp found
  have outside : messageId ∉ front := fun inside => trimmed messageId inside live
  have before : (redis.pendingOf consumer).takeWhile (· ≠ messageId) = front := by
    rw [whole, List.takeWhile_append_of_pos]
    · simp
    · intro earlier inside
      simp only [ne_eq, decide_eq_true_eq]
      rintro rfl
      exact outside inside
  have short := free messageId (by rw [found]; exact List.mem_cons_self)
  have all : front.countP (fun earlier => !redis.live earlier) = front.length := by
    rw [List.countP_eq_length]
    intro earlier inside
    simpa using trimmed earlier inside
  rw [Redis.trimmedBefore, before, all] at short
  have listed : messageId ∈ redis.page consumer := by
    rw [Redis.page, whole, List.take_append, List.take_of_length_le (Nat.le_of_lt short)]
    obtain ⟨slack, enough⟩ := Nat.exists_eq_add_of_lt short
    rw [show pendingPageCount - front.length = slack + 1 by omega]
    simp
  exact absurd live (by simpa using List.countP_eq_zero.mp none_ messageId listed)

theorem recovered_iff {redis : Redis} : redis.Recovered consumer ↔ redis.remaining consumer = [] := by
  rw [Redis.Recovered, Redis.remaining, List.filter_eq_nil_iff]
  simp

end Left

/-! ### Repeated passes -/

/-- Repeated passes keep the way as it is, never bring back what is gone, and hand over what they take away. -/
structure Progress (consumer : Consumer) (base : World) (passes : List (Nat × World)) (world : World) : Prop where
  grown : deeds none base.log <+: deeds none world.log
  free : world.redis.Unobstructed consumer.consumerName ↔ base.redis.Unobstructed consumer.consumerName
  reprocessed : ∀ messageId ∈ base.redis.remaining consumer.consumerName,
    messageId ∈ world.redis.remaining consumer.consumerName ∨ Reprocessed base world messageId
  shrinks : (world.redis.remaining consumer.consumerName).length + (passes.map Prod.fst).sum ≤
    (base.redis.remaining consumer.consumerName).length
  zero : ∀ pass ∈ passes, pass.1 = 0 →
    ((pass.2.redis.Recovered consumer.consumerName ↔ base.redis.Unobstructed consumer.consumerName) ∧
      (pass.2.redis.remaining consumer.consumerName = [] → world.redis.remaining consumer.consumerName = []))

theorem progress_of_passes {passes : List (Nat × World)} (runs : Passes self base passes world) :
    Progress self base passes world := by
  induction runs with
  | nil =>
      exact ⟨List.prefix_refl _, Iff.rfl, fun _ inside => .inl inside, by simp, fun _ inside => by cases inside⟩
  | @pass base next world count more leads later ih =>
      obtain ⟨counted, past⟩ := pass_of_leads leads
      refine ⟨past.grown.trans ih.grown, ih.free.trans past.unobstructed_iff, ?_, ?_, ?_⟩
      · intro messageId left
        by_cases inside : messageId ∈ base.redis.page self.consumerName
        · have live := (List.mem_filter.mp left).2
          exact .inr ((past.reprocessed messageId inside live).grow ih.grown)
        · have still : messageId ∈ next.redis.remaining self.consumerName := by
            rw [past.remaining]
            exact List.mem_filter.mpr ⟨left, decide_eq_true inside⟩
          refine (ih.reprocessed messageId still).imp id ?_
          rintro ⟨much, whole, fields, called⟩
          obtain ⟨some_, grown⟩ := past.grown
          exact ⟨some_ ++ much, by rw [whole, ← grown, List.append_assoc], fields, List.mem_append_right _ called⟩
      · have first := past.shrinks
        have rest := ih.shrinks
        rw [← counted] at first
        rw [List.map_cons, List.sum_cons]
        omega
      · intro pass inside none_
        rcases List.mem_cons.mp inside with rfl | behind
        · have nothing : (base.redis.page self.consumerName).countP base.redis.live = 0 := by
            rw [← counted]
            exact none_
          refine ⟨⟨fun recovered => ?_, fun free => ?_⟩, fun empty => ?_⟩
          · refine past.unobstructed_iff.mp fun messageId left => ?_
            rw [recovered_iff.mp recovered] at left
            cases left
          · have empty := remaining_of_unobstructed free nothing
            rw [recovered_iff, past.remaining, empty]
            rfl
          · have length := ih.shrinks
            rw [empty, List.length_nil] at length
            exact List.length_eq_zero_iff.mp (by omega)
        · obtain ⟨same, stays⟩ := ih.zero pass behind none_
          exact ⟨same.trans past.unobstructed_iff, stays⟩

end PendingPage

open PendingPage in
/-- Whenever a pass returns 0, it has left no recoverable entry exactly if fewer than a page of entries without a
message lay in front of each that has one. Repeated passes, as many as there are messages left or up to one that
returns 0, have handed over and acknowledged every message exactly then. -/
theorem recoverPending_complete_iff (self : Consumer) {world world' : World} {passes : List (Nat × World)}
    (runs : Passes self world passes world') :
    (∀ pass ∈ passes, pass.1 = 0 →
      (pass.2.redis.Recovered self.consumerName ↔ world.redis.Unobstructed self.consumerName)) ∧
    (0 ∈ passes.map Prod.fst ∨ (world.redis.remaining self.consumerName).length ≤ passes.length →
      ((world'.redis.Recovered self.consumerName ∧
          ∀ messageId ∈ world.redis.remaining self.consumerName, Reprocessed world world' messageId) ↔
        world.redis.Unobstructed self.consumerName)) := by
  have progress := progress_of_passes runs
  refine ⟨fun pass inside none_ => (progress.zero pass inside none_).1, fun enough => ⟨?_, fun free => ?_⟩⟩
  · rintro ⟨recovered, -⟩
    refine progress.free.mp fun messageId left => ?_
    rw [recovered_iff.mp recovered] at left
    cases left
  · have empty : world'.redis.remaining self.consumerName = [] := by
      by_cases zero : 0 ∈ passes.map Prod.fst
      · obtain ⟨pass, inside, none_⟩ := List.mem_map.mp zero
        obtain ⟨same, stays⟩ := progress.zero pass inside none_
        exact stays (recovered_iff.mp (same.mpr free))
      · -- every pass has taken an entry away
        have each : ∀ count ∈ passes.map Prod.fst, 1 ≤ count := by
          intro count inside
          refine Nat.one_le_iff_ne_zero.mpr ?_
          rintro rfl
          exact zero inside
        have total := List.length_le_sum_of_one_le _ each
        have shrinks := progress.shrinks
        have long := enough.resolve_left zero
        rw [List.length_map] at total
        exact List.length_eq_zero_iff.mp (by omega)
    refine ⟨recovered_iff.mpr empty, fun messageId left => ?_⟩
    rcases progress.reprocessed messageId left with still | done
    · rw [empty] at still
      cases still
    · exact done

/-! ### A page of trimmed entries -/

namespace PendingPage

/-- The surroundings answer regularly. -/
abbrev answer (world : World) (op : Op) : Option (Except Exc op.Reply × World) :=
  world.serveAlone (Surroundings.plain Sample.result) op

/-- A pass that returns by itself is a run. -/
theorem leads_of_solo {world next : World} {count : Nat}
    (runs : (recoverPending Sample.consumer).solo answer world = some (.ok count, next)) :
    Coro.Leads (machine Sample.consumer .healthy) Role.loop world (recoverPending Sample.consumer) next
      (.ret count) := by
  have within : (Surroundings.plain Sample.result).Within .healthy :=
    Surroundings.plain_within fun _ _ _ _ => trivial
  have sound : ∀ {state op outcome next}, answer state op = some (outcome, next) →
      (machine Sample.consumer .healthy).perform Role.loop state op outcome next :=
    fun answered => (World.serveAlone_performs within answered).1
  exact Coro.solo_leads sound runs

/-- Entries without a message are passed over. -/
theorem collect_solo (ids : List String) (world : World)
    (trimmed : ∀ messageId ∈ ids, world.redis.live messageId = false) :
    ∃ log, (Coro.collect ids (recoverEntry Sample.consumer)).solo answer world =
      some (.ok (ids.map fun _ => 0), { world with log := log }) := by
  induction ids generalizing world with
  | nil => exact ⟨world.log, rfl⟩
  | cons messageId rest inductionHypothesis =>
      have gone := trimmed messageId List.mem_cons_self
      have empty : world.redis.stream.filter (fun message => message.messageId = messageId) = [] := by
        apply List.filter_eq_nil_iff.mpr
        intro message member
        exact List.any_eq_false.mp gone message member
      have answered : answer world (.xrange messageId) =
          some (.ok [], world.recordCall .loop (.xrange messageId) (.ok []) .answered) := by
        change (world.effect (.xrange messageId)
          (.ok (world.redis.stream.filter fun message => message.messageId = messageId))).map _ = _
        rw [empty]
        change (if [] = world.redis.stream.filter fun message => message.messageId = messageId then
          some world else none).map _ = _
        rw [if_pos empty.symm]
        rfl
      obtain ⟨log, later⟩ := inductionHypothesis
        (world.recordCall .loop (.xrange messageId) (.ok []) .answered)
        fun other member => trimmed other (List.mem_cons_of_mem _ member)
      refine ⟨log, ?_⟩
      have first : (recoverEntry Sample.consumer messageId).solo answer world =
          some (.ok 0, world.recordCall .loop (.xrange messageId) (.ok []) .answered) := by
        have asked : (call (.xrange messageId)).solo answer world =
            some (.ok [], world.recordCall .loop (.xrange messageId) (.ok []) .answered) := by
          simp only [call, Coro.perform, Coro.solo, answered]
        unfold recoverEntry
        rw [Coro.solo_bind asked]
        rfl
      unfold Coro.collect
      rw [Coro.solo_bind first, Coro.solo_bind later]
      rfl

/-- The state after the query. -/
def queried (redis : Redis) : World where
  redis := redis
  log := [.call .loop (.xpendingRange Sample.consumer.consumerName pendingPageCount)
    (.ok (redis.page Sample.consumer.consumerName)) .answered]

theorem query_solo (redis : Redis) :
    (call (.xpendingRange Sample.consumer.consumerName pendingPageCount)).solo answer
        { redis := redis } =
      some (.ok (redis.page Sample.consumer.consumerName), queried redis) := by
  have effect : World.effect { redis := redis }
      (.xpendingRange Sample.consumer.consumerName pendingPageCount)
      (.ok (redis.page Sample.consumer.consumerName)) = some { redis := redis } := by
    simp only [World.effect]
    exact if_pos rfl
  have served : answer { redis := redis }
      (.xpendingRange Sample.consumer.consumerName pendingPageCount) =
        some (.ok (redis.page Sample.consumer.consumerName), queried redis) := by
    change (World.effect { redis := redis }
      (.xpendingRange Sample.consumer.consumerName pendingPageCount)
      (.ok (redis.page Sample.consumer.consumerName))).map _ = _
    rw [effect]
    rfl
  simp only [call, Coro.perform, Coro.solo, served]

/-- A pass over a page of trimmed entries returns 0 and changes nothing. -/
theorem trimmed_leads (redis : Redis)
    (trimmed : ∀ messageId ∈ redis.page Sample.consumer.consumerName, redis.live messageId = false) :
    ∃ world' : World, world'.redis = redis ∧
      Coro.Leads (machine Sample.consumer .healthy) Role.loop { redis := redis }
        (recoverPending Sample.consumer) world' (.ret 0) := by
  obtain ⟨log, passed⟩ := collect_solo (redis.page Sample.consumer.consumerName) (queried redis) trimmed
  refine ⟨{ queried redis with log := log }, rfl, leads_of_solo ?_⟩
  unfold recoverPending
  rw [Coro.solo_bind (query_solo redis), Coro.solo_bind passed]
  have zero : ((redis.page Sample.consumer.consumerName).map fun _ => 0).sum = 0 := by simp
  rw [zero]
  rfl

/-- A hundred trimmed entries, and one with its message behind them. -/
def crowded : Redis where
  group := true
  stream := [Sample.message "100-0" "job"]
  pending := (List.range 101).map fun number => ⟨toString number ++ "-0", Sample.consumer.consumerName⟩

theorem crowded_leads : ∃ world' : World, world'.redis = crowded ∧
    Coro.Leads (machine Sample.consumer .healthy) Role.loop { redis := crowded }
      (recoverPending Sample.consumer) world' (.ret 0) :=
  trimmed_leads crowded (by decide +kernel)

/-- A trimmed entry, and a message without a job behind it. -/
def brief : Redis where
  group := true
  stream := [⟨"1-0", []⟩]
  pending := [⟨"0-0", Sample.consumer.consumerName⟩, ⟨"1-0", Sample.consumer.consumerName⟩]

/-- How a pass goes by itself. -/
def passed (world : World) : Option (Except Exc Nat × World) :=
  (recoverPending Sample.consumer).solo answer world

/-- The state a pass leaves. -/
def behind (world : World) : World := ((passed world).map Prod.snd).getD world

theorem passed_leads {world : World} {count : Nat} (returned : (passed world).map Prod.fst = some (.ok count)) :
    Coro.Leads (machine Sample.consumer .healthy) Role.loop world (recoverPending Sample.consumer)
      (behind world) (.ret count) := by
  obtain ⟨⟨outcome, next⟩, runs, same⟩ := Option.map_eq_some_iff.mp returned
  obtain rfl : outcome = .ok count := same
  rw [show behind world = next by rw [behind, runs]; rfl]
  exact leads_of_solo runs

/-- Two passes: the first takes the message away, the second finds none. -/
theorem brief_passes : Passes Sample.consumer { redis := brief }
    [(1, behind { redis := brief }), (0, behind (behind { redis := brief }))]
    (behind (behind { redis := brief })) :=
  .pass (passed_leads rfl) (.pass (passed_leads rfl) .nil)

end PendingPage

open PendingPage in
/-- The result, for a pass over the hundred trimmed entries and for the two passes. -/
theorem recoverPending_complete_iff_crowded :
    (∃ world' : World, Passes Sample.consumer { redis := crowded } [(0, world')] world' ∧
      (world'.redis.Recovered Sample.consumer.consumerName ↔
        crowded.Unobstructed Sample.consumer.consumerName)) ∧
    (((behind (behind { redis := brief })).redis.Recovered Sample.consumer.consumerName ∧
        ∀ messageId ∈ brief.remaining Sample.consumer.consumerName,
          Reprocessed { redis := brief } (behind (behind { redis := brief })) messageId) ↔
      brief.Unobstructed Sample.consumer.consumerName) := by
  constructor
  · obtain ⟨world', -, leads⟩ := crowded_leads
    have runs : Passes Sample.consumer { redis := crowded } [(0, world')] world' := .pass leads .nil
    exact ⟨world', runs,
      (recoverPending_complete_iff Sample.consumer runs).1 (0, world') (List.mem_singleton_self _) rfl⟩
  · exact (recoverPending_complete_iff Sample.consumer brief_passes).2 (.inl (by decide))

open PendingPage in
/-- A pass may return 0 and leave an entry whose message exists. -/
theorem not_recoverPending_complete :
    ¬ ∀ (self : Consumer) (world world' : World) (recovered : Nat),
      Coro.Leads (machine self .healthy) Role.loop world (recoverPending self) world'
        (.ret recovered) → recovered = 0 → world'.redis.Recovered self.consumerName := by
  intro claim
  obtain ⟨world', same, leads⟩ := crowded_leads
  have recovered := claim Sample.consumer _ world' 0 leads rfl
  rw [same] at recovered
  have left := recovered "100-0" (by decide +kernel)
  have live : crowded.live "100-0" = true := by decide +kernel
  rw [live] at left
  cases left

end CodaNode
