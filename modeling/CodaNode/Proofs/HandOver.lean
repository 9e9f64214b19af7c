/-
Module: CodaNode.Proofs.HandOver
Layer: Proofs
Purpose: What happens to the messages of a read. The loop awaits the delivery of the previous batch
  between the read and the dispatch. A delivery that has failed stays stored, so from then on every read
  claims messages and drops them.
Imports: CodaNode.Protocol.Backlog, CodaNode.Server.Log
Main exports: Entry.handsOver, Entry.failsDelivery, handsOver_iff
-/
import CodaNode.Protocol.Backlog
import CodaNode.Server.Log

namespace CodaNode

open Coroutine

/-- Every command sent to Redis may fail with any `Exception`. -/
def Policy.faulty : Policy where
  fault op exception := op.isRedis = true ∧ exception.isException = true
  env _ := True

theorem Policy.faulty_patient : Policy.faulty.Patient := fun _ _ admitted => by cases admitted.1

namespace Entry

/-- An operation of the loop other than its wait for a delivery. -/
def fromLoop : Entry → Bool
  | .call .loop (.awaitTask _) _ _ => false
  | .call .loop _ _ _ => true
  | _ => false

/-- The delivery of a batch ends with an exception. -/
def failsDelivery : Entry → Bool
  | .call (.task _ (.deliverBatch _ _)) (.taskDone _ (.error _)) _ _ => true
  | _ => false

/-- A read of the loop returns these messages. -/
def returns (messages : List StreamMessage) : Entry → Bool
  | .call .loop (.xreadgroup _ _) (.ok read) _ => read = messages
  | _ => false

/-- These messages are handed to `_process_batch` or, if there is one only, to `_process_message`. -/
def handsOver (messages : List StreamMessage) : Entry → Bool
  | .call .loop (.note (.processBatch handed)) _ _ => handed = messages
  | .call .loop (.note (.processMessage message)) _ _ => messages = [message]
  | _ => false

end Entry

namespace HandOver

open Backlog

/-- The messages that have been read and not dispatched so far. -/
def claim (held : List StreamMessage) : Entry → List StreamMessage
  | .call .loop (.xreadgroup _ _) (.ok messages) _ => messages
  | entry => if entry.fromLoop then [] else held

/-- These messages at the end of a log. -/
def claimed (log : List Entry) : List StreamMessage := log.foldl claim []

theorem claimed_snoc (log : List Entry) (entry : Entry) :
    claimed (log ++ [entry]) = claim (claimed log) entry := by
  unfold claimed
  rw [List.foldl_append]
  rfl

theorem claim_quiet {held : List StreamMessage} {entry : Entry} (quiet : entry.fromLoop = false) :
    claim held entry = held := by
  unfold claim
  split
  · cases quiet
  · rw [quiet, if_neg Bool.false_ne_true]

theorem claim_of_returns {held messages : List StreamMessage} {read : Entry}
    (returns : read.returns messages = true) : claim held read = messages := by
  unfold Entry.returns at returns
  split at returns
  · exact of_decide_eq_true returns
  · cases returns

theorem claimed_read {before middle : List Entry} {read : Entry} {messages : List StreamMessage}
    (returns : read.returns messages = true)
    (quiet : ∀ entry ∈ middle, entry.fromLoop = false) :
    claimed (before ++ read :: middle) = messages := by
  have kept : ∀ {middle : List Entry} {held : List StreamMessage},
      (∀ entry ∈ middle, entry.fromLoop = false) → middle.foldl claim held = held := by
    intro middle
    induction middle with
    | nil => exact fun _ => rfl
    | cons entry rest inductionHypothesis =>
        intro held quiet
        rw [List.foldl_cons, claim_quiet (quiet entry List.mem_cons_self)]
        exact inductionHypothesis fun other member => quiet other (List.mem_cons_of_mem _ member)
  unfold claimed
  rw [List.foldl_append, List.foldl_cons, claim_of_returns returns]
  exact kept quiet

/-- Every list of messages of a read was dispatched unless a delivery had failed. -/
def Dispatched (log : List Entry) : Prop :=
  ∀ before read messages middle first after, log = before ++ read :: middle ++ first :: after →
    read.returns messages = true → messages ≠ [] → (∀ entry ∈ middle, entry.fromLoop = false) →
    first.fromLoop = true →
    (first.handsOver messages = true ↔ ∀ entry ∈ before ++ middle, entry.failsDelivery = false)

/-- What a further record has to meet. -/
theorem dispatched_snoc {log : List Entry} {entry : Entry} (dispatched : Dispatched log)
    (last : entry.fromLoop = true → claimed log ≠ [] →
      (entry.handsOver (claimed log) = true ↔ log.any Entry.failsDelivery = false)) :
    Dispatched (log ++ [entry]) := by
  intro before read messages middle first after shape returns some_ quiet next
  rcases List.eq_nil_or_concat after with rfl | ⟨after, other, rfl⟩
  · obtain ⟨rfl, same⟩ := List.append_inj' shape rfl
    obtain rfl := (List.singleton_inj.mp same).symm
    have here := last next
    have read' : read.failsDelivery = false := by
      unfold Entry.returns at returns
      split at returns
      · rfl
      · cases returns
    rw [claimed_read returns quiet] at here
    rw [here some_]
    simp only [List.any_append, List.any_cons, read', Bool.false_or, Bool.or_eq_false_iff,
      List.any_eq_false, Bool.not_eq_true, List.forall_mem_append]
  · have split : log = before ++ read :: middle ++ first :: after := by
      have longer : log ++ [entry] = (before ++ read :: middle ++ first :: after) ++ [other] := by
        rw [shape]
        simp
      exact (List.append_inj' longer rfl).1
    exact dispatched _ _ _ _ _ _ split returns some_ quiet next

/-! ### Dispatch -/

/-- The messages that are read and not dispatched, stage by stage. -/
def Open (seen : List StreamMessage) (broken : Bool) : LoopStage → Prop
  | .healthy messages | .calm messages | .peek messages | .await _ messages | .forget messages =>
      seen = messages
  | .each message stage rest =>
      rest = [] ∧ ((stage = .called ∧ seen = [message]) ∨ (stage ≠ .called ∧ seen = []))
  | .batch messages stage => (stage = .called ∧ seen = messages) ∨ (stage ≠ .called ∧ seen = [])
  | .down | .count | .reread | .warn _ _ | .pause => seen ≠ [] → broken = true
  | .ended _ => True
  | _ => seen = []

/-- What every step of the crew preserves. -/
structure Holds (crew : Crew LoopStage) : Prop where
  roster : crew.Roster
  failures : crew.world.log.any Entry.failsDelivery = crew.posts.any failed
  held : Held crew.world.attrs crew.posts crew.main
  «open» : Open (claimed crew.world.log) (crew.world.log.any Entry.failsDelivery) crew.main
  dispatched : Dispatched crew.world.log

/-! ### The rows of the loop -/

section Rows

variable {self : Consumer} {world next : World} {op : Op} {outcome : Except Exc op.Reply} {fate : Fate}

/-- The messages that are not dispatched after an operation of the loop. -/
def leaves (seen : List StreamMessage) (op : Op) (outcome : Except Exc op.Reply) (fate : Fate) :
    List StreamMessage :=
  if op.logged then claim seen (.call .loop op outcome fate) else seen

theorem leaves_nil (inner : op.Inner) : leaves [] op outcome fate = [] := by
  unfold leaves
  split
  · cases op with
    | xreadgroup => exact inner.elim
    | _ => rfl
  · rfl

theorem leaves_logged {seen : List StreamMessage} (inner : op.Inner) (logged : op.logged = true) :
    leaves seen op outcome fate = [] := by
  unfold leaves
  rw [if_pos logged]
  cases op with
  | xreadgroup | awaitTask => exact inner.elim
  | _ => rfl

theorem open_caught {seen : List StreamMessage} {broken : Bool} (exception : Exc)
    (dropped : seen ≠ [] → broken = true) : Open seen broken (.caught exception) := by
  unfold LoopStage.caught
  split
  · exact dropped
  · split
    · exact dropped
    · trivial

theorem open_dispatching (batching : self.canBatch = true) {broken : Bool}
    (messages : List StreamMessage) : Open messages broken (.dispatching self messages) := by
  unfold LoopStage.dispatching
  cases messages with
  | nil => rfl
  | cons message rest =>
      cases rest with
      | nil => simp [Open, LoopStage.handling, batching]
      | cons other rest => simp [Open, batching]

theorem open_row (batching : self.canBatch = true) {stage later : LoopStage} {posts : List Post}
    {seen : List StreamMessage} {broken : Bool} (row : LoopStage.Move self stage op outcome later)
    (performs : World.Performs .faulty world op outcome fate next)
    (roster : Crew.Roster ⟨world, stage, posts⟩) (held : Held world.attrs posts stage)
    (failures : broken = posts.any failed) (opens : Open seen broken stage) :
    Open (leaves seen op outcome fate) broken later := by
  have dropped {seen : List StreamMessage} (empty : seen = []) : seen ≠ [] → broken = true :=
    fun some_ => absurd empty some_
  cases row with
  | @startUp stage _ _ later row =>
      obtain rfl : seen = [] := opens
      rw [leaves_nil row.inner]
      refine RecoveryStage.within_cases (motive := Open [] broken) ?_ ?_ ?_
      · exact fun _ => rfl
      · exact fun _ => rfl
      · exact fun _ _ => trivial
  | @recheck now stage _ _ later row =>
      obtain rfl : seen = [] := opens
      rw [leaves_nil row.inner]
      refine RecoveryStage.within_cases (motive := Open [] broken) ?_ ?_ ?_
      · exact fun _ => rfl
      · exact fun _ => rfl
      · exact fun exception _ => open_caught exception (dropped rfl)
  | @each message stage rest _ _ later row =>
      obtain ⟨rfl, progress⟩ := opens
      have moved : later ≠ .called → leaves seen op outcome fate = [] := by
        intro away
        rcases progress with ⟨rfl, -⟩ | ⟨-, rfl⟩
        · cases logged : op.logged with
          | true => exact leaves_logged row.inner logged
          | false =>
              cases row with
              | called => cases logged
              | clock | assign => exact absurd rfl away
        · exact leaves_nil row.inner
      refine Stage.within_cases (motive := Open (leaves seen op outcome fate) broken) ?_ ?_ ?_
      · intro _
        by_cases still : later = .called
        · subst still
          obtain ⟨rfl, unlogged⟩ := row.called_of
          rcases progress with ⟨-, rfl⟩ | ⟨away, -⟩
          · exact ⟨rfl, .inl ⟨rfl, by rw [leaves, unlogged, if_neg Bool.false_ne_true]⟩⟩
          · exact absurd rfl away
        · exact ⟨rfl, .inr ⟨still, moved still⟩⟩
      · rintro rfl
        exact moved (by simp)
      · rintro exception rfl
        exact open_caught exception (dropped (moved (by simp)))
  | @batch messages stage _ _ later row =>
      have moved : later ≠ .called → leaves seen op outcome fate = [] := by
        intro away
        rcases opens with ⟨rfl, -⟩ | ⟨-, rfl⟩
        · cases logged : op.logged with
          | true => exact leaves_logged row.inner logged
          | false =>
              cases row with
              | called => cases logged
              | clock => exact absurd rfl away
        · exact leaves_nil row.inner
      refine BatchStage.within_cases (motive := Open (leaves seen op outcome fate) broken) ?_ ?_ ?_
      · intro _
        by_cases still : later = .called
        · subst still
          obtain ⟨rfl, unlogged⟩ := row.called_of
          rcases opens with ⟨-, rfl⟩ | ⟨away, -⟩
          · exact .inl ⟨rfl, by rw [leaves, unlogged, if_neg Bool.false_ne_true]⟩
          · exact absurd rfl away
        · exact .inr ⟨still, moved still⟩
      · rintro delivery rfl
        cases delivery <;> exact moved (by simp)
      · rintro exception rfl
        exact open_caught exception (dropped (moved (by simp)))
  | hang => exact (World.feasible_of_performs performs rfl).elim fun never => by cases never
  | @read outcome =>
      cases outcome with
      | ok messages => rfl
      | error exception => exact open_caught exception (dropped rfl)
  | @peek messages attrs =>
      split
      · exact opens
      · obtain rfl : seen = messages := opens
        exact open_dispatching batching seen
  | @await number messages outcome =>
      obtain ⟨rfl, found⟩ := awaitTask_performs Policy.faulty_patient performs
      have kept : leaves seen (.awaitTask number) outcome fate = seen := by cases outcome <;> rfl
      rw [kept]
      cases outcome with
      | ok value => exact opens
      | error exception =>
          exact open_caught exception fun _ => failures.trans (held.2.failed roster found)
  | forget =>
      obtain rfl : seen = _ := opens
      exact open_dispatching batching seen
  | @setup outcome =>
      obtain rfl : seen = [] := opens
      rw [show leaves [] .xgroupCreate outcome fate = [] from leaves_nil trivial]
      unfold LoopStage.grouped
      split
      · rfl
      · split
        · rfl
        · trivial
  | @top attrs =>
      split
      · exact opens
      · trivial
  | @reread attrs =>
      unfold LoopStage.waiting
      split
      · exact opens
      · trivial
  | due => split <;> exact opens
  | @backOff _ outcome | @pause outcome =>
      cases outcome with
      | ok value => rfl
      | error exception => trivial
  | warn => rfl
  | _ => exact opens

/-- What the loop does with the messages of a read. -/
theorem handsOver_row {stage later : LoopStage} {posts : List Post}
    {seen : List StreamMessage} {broken : Bool} (row : LoopStage.Move self stage op outcome later)
    (held : Held world.attrs posts stage) (failures : broken = posts.any failed)
    (opens : Open seen broken stage) (logged : op.logged = true)
    (fromLoop : (Entry.call .loop op outcome fate).fromLoop = true) (some_ : seen ≠ []) :
    (Entry.call .loop op outcome fate).handsOver seen = true ↔ broken = false := by
  cases row with
  | @each message stage rest _ _ later row =>
      obtain ⟨rfl, ⟨rfl, rfl⟩ | ⟨-, empty⟩⟩ := opens
      · refine iff_of_true ?_ (failures.trans held.2.sound)
        cases row with
        | called => simp [Entry.handsOver]
        | clock | assign => cases logged
      · exact absurd empty some_
  | @batch messages stage _ _ later row =>
      obtain ⟨rfl, rfl⟩ | ⟨-, empty⟩ := opens
      · refine iff_of_true ?_ (failures.trans held.2.sound)
        cases row with
        | called => simp [Entry.handsOver]
        | clock => cases logged
      · exact absurd empty some_
  | warn | pause =>
      rw [opens some_]
      simp [Entry.handsOver]
  | startUp | recheck => exact absurd opens some_
  | setup | hang | read | backOff => exact absurd opens some_
  | await => cases fromLoop
  | _ => cases logged

end Rows

/-- A delivery fails when its end is recorded. -/
theorem failures_post {self : Consumer} {world next : World} {post later : Post} {op : Op}
    {outcome : Except Exc op.Reply} {fate : Fate} (row : Post.Move self post op outcome later)
    (performs : World.Performs .faulty world op outcome fate next) :
    (next.recordCall post.role op outcome fate).log.any Entry.failsDelivery =
      (world.log.any Entry.failsDelivery || failed later) := by
  have entry : (Entry.call post.role op outcome fate).failsDelivery = failed later := by
    cases row with
    | single row => cases row <;> rfl
    | @gather number parsed results stage _ _ later row =>
        cases row with
        | @finish ending => cases ending <;> rfl
        | @clock now =>
            unfold GatherStage.opening
            cases zipStrict parsed results now with
            | error exception => rfl
            | ok deliveries => cases deliveries <;> rfl
        | @spawn _ _ _ todo => cases todo <;> rfl
        | @gather _ _ outcome => cases outcome <;> rfl
        | _ => rfl
  have unlogged : op.logged = false → failed later = false := by
    intro unlogged
    rw [← entry]
    cases post with
    | gather | single =>
        cases op with
        | taskDone => cases unlogged
        | _ => rfl
  rw [World.recordCall_log_of_performs post.role performs]
  cases logged : op.logged with
  | true => simp [entry]
  | false => simp [unlogged logged]

theorem failed_of_move {self : Consumer} {post later : Post} {op : Op} {outcome : Except Exc op.Reply}
    (row : Post.Move self post op outcome later) : failed post = false := by
  have running := row.ending_eq.1
  cases post with
  | single => rfl
  | gather number parsed results stage =>
      cases stage with
      | past => cases running
      | _ => rfl

theorem failed_created {world : World} {op : Op} : (world.created op).any failed = false := by
  cases op with
  | createTask spec => cases spec <;> rfl
  | _ => rfl

theorem holds_step {self : Consumer} (batching : self.canBatch = true) {first second : Crew LoopStage}
    (step : Crew.Step self .faulty (LoopStage.Move self) first second) (holds : Holds first) :
    Holds second := by
  have roster := holds.roster.step LoopStage.Move.not_taskDone step
  have held := held_step Policy.faulty_patient step holds.roster holds.held
  cases step with
  | @env world next stage posts event _ occurs =>
      have log : (next.record (.env event)).log = world.log ++ [.env event] := by
        rw [World.record_log, World.log_of_occur occurs]
      have any : (next.record (.env event)).log.any Entry.failsDelivery =
          world.log.any Entry.failsDelivery := by
        rw [log, List.any_append]
        exact Bool.or_false _
      have seen : claimed (next.record (.env event)).log = claimed world.log := by
        rw [log, claimed_snoc]
        rfl
      constructor
      · exact roster
      · exact any.trans holds.failures
      · exact held
      · rw [seen, any]
        exact holds.open
      · rw [log]
        exact dispatched_snoc holds.dispatched fun never => by cases never
  | @main world next stage later posts op outcome fate row performs =>
      have any : (next.recordCall .loop op outcome fate).log.any Entry.failsDelivery =
          world.log.any Entry.failsDelivery := by
        rw [World.recordCall_log_of_performs .loop performs]
        split
        · rw [List.any_append]
          exact Bool.or_false _
        · rfl
      have seen : claimed (next.recordCall .loop op outcome fate).log =
          leaves (claimed world.log) op outcome fate := by
        rw [World.recordCall_log_of_performs .loop performs, leaves]
        split
        · exact claimed_snoc _ _
        · rfl
      constructor
      · exact roster
      · change _ = (posts ++ world.created op).any failed
        rw [any, holds.failures, List.any_append, failed_created, Bool.or_false]
      · exact held
      · rw [seen, any]
        exact open_row batching row performs holds.roster holds.held holds.failures holds.open
      · rw [World.recordCall_log_of_performs .loop performs]
        cases logged : op.logged with
        | true =>
            exact dispatched_snoc holds.dispatched
              (handsOver_row row holds.held holds.failures holds.open logged)
        | false => exact holds.dispatched
  | @post world next stage before after post later op outcome fate row performs =>
      have seen : claimed (next.recordCall post.role op outcome fate).log = claimed world.log := by
        rw [World.recordCall_log_of_performs post.role performs]
        split
        · rw [claimed_snoc]
          cases op <;> rfl
        · rfl
      constructor
      · exact roster
      · rw [failures_post row performs, holds.failures]
        simp [List.any_append, failed_created, failed_of_move row, Bool.or_comm, Bool.or_assoc]
      · exact held
      · rw [seen, failures_post row performs]
        have opens := holds.open
        cases stage with
        | down | count | reread | warn | pause =>
            intro some_
            rw [opens some_]
            rfl
        | _ => exact opens
      · rw [World.recordCall_log_of_performs post.role performs]
        split
        · exact dispatched_snoc holds.dispatched fun fromLoop => by cases fromLoop
        · exact holds.dispatched

end HandOver

open HandOver in
/-- In every run of a batching loop, whatever fails at Redis: the first thing the loop does with the
messages of a read is to hand them over exactly if no delivery has failed by then. -/
theorem handsOver_iff (self : Consumer) (batching : self.canBatch = true) (iterations : Nat)
    (redis : Redis) {system : System}
    (reaches : Pool.Reaches (machine self .faulty)
      (Pool.single { redis := redis } .loop (consumeLoop self iterations)) system)
    {before middle after : List Entry} {read first : Entry} {messages : List StreamMessage}
    (log : system.state.log = before ++ read :: middle ++ first :: after)
    (returns : read.returns messages = true) (some_ : messages ≠ []) (quiet : ∀ entry ∈ middle, entry.fromLoop = false)
    (next : first.fromLoop = true) :
    first.handsOver messages = true ↔ ∀ entry ∈ before ++ middle, entry.failsDelivery = false := by
  have start : Holds ⟨{ redis := redis }, .enter, []⟩ := by
    constructor
    · exact ⟨rfl, rfl⟩
    · rfl
    · exact ⟨rfl, (fun _ member => by cases member), (fun _ same => by cases same)⟩
    · rfl
    · intro before read messages middle first after shape
      simp at shape
  obtain ⟨crew, stands, holds⟩ :=
    (consumeLoop_follows iterations).reaches (holds_step batching) start reaches
  have dispatched := holds.dispatched
  rw [stands.1] at dispatched
  exact dispatched _ _ _ _ _ _ log returns some_ quiet next

/-! ### A run with a failing delivery -/

namespace HandOver

/-- The first read returns two messages and the second one the third; the flags of delivered jobs cannot
be read. -/
def brokenSurroundings : Surroundings := fun role world op =>
  match op with
  | .xreadgroup _ _ => some (.ok (world.redis.undelivered.take 2), .answered)
  | .getCancelled jobId =>
      if world.tasks.length = 3 then some (.error ⟨.connectionError, "Connection lost"⟩, .lost)
      else some (.ok (world.redis.cancelled jobId), .answered)
  | .gather _ => some (.error ⟨.connectionError, "Connection lost"⟩, .answered)
  | op => Surroundings.plain Sample.result role world op

theorem brokenSurroundings_within : brokenSurroundings.Within .faulty := by
  intro role world op outcome fate answered
  unfold brokenSurroundings at answered
  split at answered
  · cases answered
    trivial
  · split at answered
    · cases answered
      rintro exception ⟨⟩
      exact ⟨rfl, rfl⟩
    · cases answered
      trivial
  · cases answered
    trivial
  · have plain : (Surroundings.plain Sample.result).Within .faulty :=
      Surroundings.plain_within fun _ _ _ _ => trivial
    exact plain _ _ _ _ _ answered

/-- A run in which the third message is read and dropped. -/
def brokenRun : System :=
  System.play Sample.consumer .faulty brokenSurroundings
    (List.replicate 60 (.task 0) ++ List.replicate 5 (.task 1) ++ List.replicate 3 (.task 2) ++
      List.replicate 3 (.task 1) ++ List.replicate 5 (.task 0))
    (Pool.single { redis := Sample.waiting [Sample.message "1-0" "a", Sample.message "2-0" "b",
      Sample.message "3-0" "c"] } .loop (consumeLoop Sample.consumer 3))

theorem brokenRun_reaches :
    Pool.Reaches (machine Sample.consumer .faulty)
      (Pool.single { redis := Sample.waiting [Sample.message "1-0" "a", Sample.message "2-0" "b",
        Sample.message "3-0" "c"] } .loop (consumeLoop Sample.consumer 3)) brokenRun := by
  apply System.play_reaches brokenSurroundings_within
  exact fun _ _ => trivial

-- the run is evaluated by the kernel only
attribute [local irreducible] brokenRun

/-- That run up to what the loop does after the second read. -/
abbrev brokenPrefix : List Entry := brokenRun.state.log.take 22

theorem brokenRun_length : brokenRun.state.log.length = 23 := by decide +kernel

theorem brokenPrefix_length : brokenPrefix.length = 22 := by decide +kernel

/-- The second read, and what the loop does next. -/
theorem brokenRun_log : brokenRun.state.log =
    brokenPrefix.take 12 ++ brokenPrefix.get ⟨12, by rw [brokenPrefix_length]; decide⟩ ::
        brokenPrefix.drop 13 ++
      brokenRun.state.log.get ⟨22, by rw [brokenRun_length]; decide⟩ :: brokenRun.state.log.drop 23 :=
  (log_split brokenRun.state.log ⟨22, by rw [brokenRun_length]; decide⟩).trans
    (congrArg (· ++ _) (log_split brokenPrefix ⟨12, by rw [brokenPrefix_length]; decide⟩))

end HandOver

open HandOver in
/-- The result, for that read. -/
theorem handsOver_iff_brokenRun :
    (brokenRun.state.log.get ⟨22, by rw [brokenRun_length]; decide⟩).handsOver
        [Sample.message "3-0" "c"] = true ↔
      ∀ entry ∈ brokenPrefix.take 12 ++ brokenPrefix.drop 13, entry.failsDelivery = false :=
  handsOver_iff Sample.consumer rfl 3 _ brokenRun_reaches brokenRun_log (by decide +kernel)
    (by decide +kernel) (by decide +kernel) (by decide +kernel)

open HandOver in
/-- After a failed delivery a read claims a message, and the loop does not dispatch it. -/
theorem not_handsOver :
    ¬ ∀ (self : Consumer), self.canBatch = true → ∀ (iterations : Nat) (redis : Redis)
      (system : System), Pool.Reaches (machine self .faulty)
        (Pool.single { redis := redis } .loop (consumeLoop self iterations)) system →
      ∀ (before middle after : List Entry) (read first : Entry) (messages : List StreamMessage),
        system.state.log = before ++ read :: middle ++ first :: after →
        read.returns messages = true → messages ≠ [] →
        (∀ entry ∈ middle, entry.fromLoop = false) → first.fromLoop = true →
        first.handsOver messages = true := by
  intro claim
  have dispatched := claim Sample.consumer rfl 3 _ brokenRun brokenRun_reaches _ _ _ _ _
    [Sample.message "3-0" "c"] brokenRun_log (by decide +kernel) (by decide +kernel)
    (by decide +kernel) (by decide +kernel)
  have dropped : (brokenRun.state.log.get ⟨22, by rw [brokenRun_length]; decide⟩).handsOver
      [Sample.message "3-0" "c"] = false := by decide +kernel
  rw [dropped] at dispatched
  cases dispatched

end CodaNode
