/-
Module: CodaNode.Protocol.Involvement
Layer: Protocol
Purpose: How many parts of a whole consumer may still do something about one job: its loop and its
  deliveries together. A step of the crew does not raise the count while look-ups find the job settled,
  an operation on the job needs it to be positive, and a conclusion uses one up.
Imports: CodaNode.Protocol.Engagement
Main exports: LoopStage.engagement, Post.engagement, Crew.engagement, Crew.Step.parts
-/
import CodaNode.Protocol.Engagement

namespace CodaNode

open Coroutine

/-! ### The deliveries -/

/-- The task has nothing left to do for its job but to acknowledge the message. -/
def SingleStage.spent : SingleStage → Bool
  | .dismiss | .acknowledge | .finish _ | .past _ => true
  | _ => false

/-- The completed status has been written and the webhook has not been sent. -/
def SingleStage.reporting : SingleStage → Bool
  | .lastFlag | .report => true
  | _ => false

/-- How many of the deliveries are for this job. -/
def delivered (jobId : String) (deliveries : List Delivery) : Nat :=
  deliveries.countP fun delivery => delivery.jobId = jobId

/-- A batch and its deliveries are for the same jobs. -/
theorem delivered_of_zipStrict {parsed : List ParsedJob} {results : List ExecutionResult} {nowIso : String}
    {deliveries : List Delivery} (zipped : zipStrict parsed results nowIso = .ok deliveries)
    (jobId : String) : delivered jobId deliveries = accepted jobId parsed := by
  unfold zipStrict at zipped
  split at zipped
  · rename_i same
    cases zipped
    induction parsed generalizing results with
    | nil => rfl
    | cons job rest inductionHypothesis =>
        cases results with
        | nil => cases same
        | cons result others =>
            have tail := inductionHypothesis (Nat.succ.inj same)
            simp only [delivered, accepted] at tail
            simp only [delivered, accepted, List.zipWith_cons_cons, List.countP_cons, tail]
  · split at zipped <;> cases zipped

namespace Post

/-- How many parts of a background task may still do something about this job. -/
def engagement (jobId : String) : Post → Nat
  | .gather _ parsed _ .start | .gather _ parsed _ .clock => accepted jobId parsed
  | .gather _ _ _ (.spawn _ _ delivery todo) => delivered jobId (delivery :: todo)
  | .gather _ _ _ _ => 0
  | .single _ delivery stage => if delivery.jobId = jobId ∧ stage.spent = false then 1 else 0

/-- A delivery is about to report this job. -/
def Reporting (jobId : String) : Post → Prop
  | .single _ delivery stage => delivery.jobId = jobId ∧ stage.reporting = true
  | .gather _ _ _ _ => False

end Post

/-- How many parts of these tasks may still do something about this job. -/
def engaged (jobId : String) (posts : List Post) : Nat := (posts.map (Post.engagement jobId)).sum

theorem engaged_append (jobId : String) (front back : List Post) :
    engaged jobId (front ++ back) = engaged jobId front + engaged jobId back := by
  simp [engaged]

theorem engaged_cons (jobId : String) (post : Post) (posts : List Post) :
    engaged jobId (post :: posts) = post.engagement jobId + engaged jobId posts := by
  simp [engaged]

theorem engaged_nil (jobId : String) : engaged jobId [] = 0 := rfl

theorem Post.engagement_le {jobId : String} {post : Post} {posts : List Post} (member : post ∈ posts) :
    post.engagement jobId ≤ engaged jobId posts := by
  obtain ⟨before, after, rfl⟩ := List.append_of_mem member
  rw [engaged_append, engaged_cons]
  omega

section Rows

variable {self : Consumer} {op : Op} {outcome : Except Exc op.Reply} {jobId : String}

namespace SingleStage

variable {number : Nat} {delivery : Delivery} {stage later : SingleStage}

/-- Once the task has settled its job it does not take it up again. -/
theorem spent_row (row : Move self number delivery stage op outcome later) (spent : stage.spent = true) :
    later.spent = true := by
  cases row with
  | @dismiss outcome | @acknowledge outcome =>
      cases outcome with
      | ok value => rfl
      | error exception =>
          simp only [afterSafe]
          split <;> rfl
  | finish => rfl
  | _ => cases spent

theorem not_spent_of_touches (row : Move self number delivery stage op outcome later)
    (touches : op.touches jobId = true) : delivery.jobId = jobId ∧ stage.spent = false := by
  cases row with
  | mark | complete | report => exact ⟨of_decide_eq_true touches, rfl⟩
  | _ => cases touches

theorem spent_of_concludes (row : Move self number delivery stage op outcome later)
    (concludes : op.concludes jobId = true) (answered : outcome.isOk = true) : later.spent = true := by
  cases row with
  | @mark _ outcome | @report outcome =>
      cases outcome with
      | ok value => rfl
      | error exception => cases answered
  | complete => simp [Op.concludes] at concludes
  | _ => cases concludes

/-- The result webhook follows the completed status. -/
theorem reporting_row (row : Move self number delivery stage op outcome later)
    (reports : later.reporting = true) :
    stage.reporting = true ∧ (∀ id mapping, op ≠ .hset id mapping) ∨
      ∃ mapping, op = .hset delivery.jobId mapping ∧ mapping.state = some .completed := by
  cases row with
  | complete => exact .inr ⟨_, rfl, rfl⟩
  | lastFlag => exact .inl ⟨rfl, by simp⟩
  | start | clock | finish => cases reports
  | @firstFlag outcome =>
      cases outcome with
      | ok flag => cases flag <;> cases reports
      | error exception => cases reports
  | @mark _ outcome | @dismiss outcome | @report outcome | @acknowledge outcome =>
      cases outcome with
      | ok value => cases reports
      | error exception =>
          simp only [afterSafe, afterLogged] at reports
          split at reports <;> cases reports

end SingleStage

namespace Post

variable {post later : Post}

/-- A task passes on what it has to do to the tasks it creates, and takes nothing up. -/
theorem engagement_row (row : Move self post op outcome later) (world : World) :
    later.engagement jobId + engaged jobId (world.created op) ≤ post.engagement jobId := by
  cases row with
  | @single number delivery stage _ _ next row =>
      have alone : world.created op = [] := by
        cases row <;> rfl
      rw [alone, engaged_nil, Nat.add_zero]
      simp only [engagement]
      cases spent : stage.spent with
      | true => simp [SingleStage.spent_row row spent]
      | false => split <;> split <;> simp_all
  | @gather number parsed results stage _ _ next row =>
      cases row with
      | @clock now =>
          change engagement jobId (.gather number parsed results (.opening parsed results now)) + 0 ≤ _
          rw [Nat.add_zero, engagement, GatherStage.opening]
          cases zipped : zipStrict parsed results now with
          | error exception => exact Nat.zero_le _
          | ok deliveries =>
              rw [← delivered_of_zipStrict zipped jobId]
              cases deliveries <;> exact Nat.le_refl _
      | @spawn nowIso numbers delivery todo fresh =>
          have rest : engagement jobId
              (.gather number parsed results (.spawning nowIso (numbers ++ [fresh]) todo)) =
                delivered jobId todo := by
            cases todo <;> rfl
          have head : engaged jobId (world.created (.createTask (.deliverSingle delivery))) =
              if delivery.jobId = jobId then 1 else 0 := by
            simp [World.created, engaged, Post.fresh, engagement, SingleStage.spent]
          rw [rest, head, engagement, delivered, delivered, List.countP_cons]
          simp
      | start => exact Nat.le_refl _
      | @gather _ _ outcome => cases outcome <;> exact Nat.zero_le _
      | _ => exact Nat.zero_le _

theorem engagement_of_touches (row : Move self post op outcome later) (touches : op.touches jobId = true) :
    0 < post.engagement jobId := by
  cases row with
  | single row =>
      rw [engagement, if_pos (SingleStage.not_spent_of_touches row touches)]
      exact Nat.one_pos
  | gather row => cases row <;> cases touches

theorem engagement_of_concludes (row : Move self post op outcome later)
    (concludes : op.concludes jobId = true) (answered : outcome.isOk = true) :
    later.engagement jobId + 1 = post.engagement jobId := by
  have touches := Stage.touches_of_concludes concludes
  cases row with
  | single row =>
      rw [engagement, engagement, if_pos (SingleStage.not_spent_of_touches row touches), if_neg]
      rintro ⟨-, busy⟩
      rw [SingleStage.spent_of_concludes row concludes answered] at busy
      cases busy
  | gather row => cases row <;> cases touches

theorem Reporting.row (row : Move self post op outcome later) (reports : later.Reporting jobId) :
    post.Reporting jobId ∧ (∀ id mapping, op ≠ .hset id mapping) ∨
      ∃ mapping, op = .hset jobId mapping ∧ mapping.state = some .completed := by
  cases row with
  | single row =>
      obtain ⟨rfl, reports⟩ := reports
      rcases SingleStage.reporting_row row reports with ⟨before, other⟩ | written
      · exact .inl ⟨⟨rfl, before⟩, other⟩
      · exact .inr written
  | gather => exact reports.elim

theorem Reporting.engaged {post : Post} (reports : post.Reporting jobId) : 0 < post.engagement jobId := by
  cases post with
  | gather => exact reports.elim
  | single number delivery stage =>
      have busy : stage.spent = false := by
        obtain ⟨-, reporting⟩ := reports
        cases stage with
        | lastFlag | report => rfl
        | _ => cases reporting
      rw [engagement, if_pos ⟨reports.1, busy⟩]
      exact Nat.one_pos

theorem reporting_of_sends (row : Move self post op outcome later) {url : String} {payload : WebhookPayload}
    (same : op = .sendResult url payload) : post.Reporting payload.jobId := by
  cases row with
  | gather row => cases row <;> cases same
  | single row =>
      cases row with
      | report =>
          cases same
          exact ⟨rfl, rfl⟩
      | _ => cases same

end Post

/-! ### The loop -/

namespace LoopStage

/-- How many parts of the loop may still do something about this job. -/
def engagement (jobId : String) : LoopStage → Nat
  | .startUp stage | .recheck _ stage => stage.engagement jobId
  | .each message stage _ => stage.engagement jobId message
  | .batch _ stage => stage.engagement jobId
  | _ => 0

/-- The loop is about to report this job. -/
def Reporting (jobId : String) : LoopStage → Prop
  | .startUp stage | .recheck _ stage => stage.Reporting jobId
  | .each message stage _ => message.job.jobId = jobId ∧ stage.reporting = true
  | .batch _ stage => stage.Reporting jobId
  | _ => False

/-- The jobs a batch has still to mark are among the accepted ones. -/
def Marks : LoopStage → Prop
  | .batch _ stage => stage.Marks
  | _ => True

variable {stage later : LoopStage}

/-- A loop that is not in the middle of a message. -/
structure Uninvolved (jobId : String) (stage : LoopStage) : Prop where
  free : stage.engagement jobId = 0
  silent : ¬ stage.Reporting jobId

theorem uninvolved_caught (exception : Exc) : (caught exception).Uninvolved jobId := by
  unfold caught
  split
  · exact ⟨rfl, id⟩
  · split <;> exact ⟨rfl, id⟩

theorem uninvolved_handling (messages : List StreamMessage) : (handling messages).Uninvolved jobId := by
  cases messages with
  | nil => exact ⟨rfl, id⟩
  | cons message rest => exact ⟨Stage.engagement_spent rfl, fun reports => by cases reports.2⟩

theorem uninvolved_batched (delivery : Option Nat) : (batched delivery).Uninvolved jobId := by
  cases delivery <;> exact ⟨rfl, id⟩

theorem uninvolved_dispatching (messages : List StreamMessage) :
    (dispatching self messages).Uninvolved jobId := by
  unfold dispatching
  split
  · exact ⟨rfl, id⟩
  · split
    · exact ⟨rfl, id⟩
    · exact uninvolved_handling messages

end LoopStage

/-! ### What a row does -/

/-- What a row does to the parts that may do something about the job, and to the report of the job. -/
structure Partakes (jobId : String) (op : Op) (outcome : Except Exc op.Reply) (before after : Nat)
    (reporting reports : Prop) : Prop where
  settled : op.FindsFinal jobId outcome → after ≤ before
  touches : op.touches jobId = true → 0 < before
  concludes : op.concludes jobId = true → outcome.isOk = true → after + 1 ≤ before
  reports : reports → reporting ∧ (∀ mapping, op ≠ .hset jobId mapping) ∨
    ∃ mapping, op = .hset jobId mapping ∧ mapping.state = some .completed
  sends : ∀ url payload, op = .sendResult url payload → payload.jobId = jobId → reporting

namespace Partakes

variable {before after : Nat} {reporting reports : Prop}

theorem mono (partakes : Partakes jobId op outcome before after reporting reports) {after' : Nat}
    {reports' : Prop} (fewer : after' ≤ after) (weaker : reports' → reports) :
    Partakes jobId op outcome before after' reporting reports' where
  settled finds := Nat.le_trans fewer (partakes.settled finds)
  touches := partakes.touches
  concludes concludes answered :=
    Nat.le_trans (Nat.add_le_add_right fewer 1) (partakes.concludes concludes answered)
  reports here := partakes.reports (weaker here)
  sends := partakes.sends

theorem sooner (partakes : Partakes jobId op outcome before after reporting reports) {reporting' : Prop}
    (weaker : reporting → reporting') : Partakes jobId op outcome before after reporting' reports where
  settled := partakes.settled
  touches := partakes.touches
  concludes := partakes.concludes
  reports here := (partakes.reports here).imp_left fun found => ⟨weaker found.1, found.2⟩
  sends url payload same mine := weaker (partakes.sends url payload same mine)

/-- The other parts are left alone. -/
theorem frame (partakes : Partakes jobId op outcome before after reporting reports) {rest : Nat}
    {others : Prop} (busy : others → 0 < rest) (few : before + rest ≤ 1) :
    Partakes jobId op outcome (before + rest) (after + rest) (reporting ∨ others) (reports ∨ others) where
  settled finds := Nat.add_le_add_right (partakes.settled finds) rest
  touches touches := Nat.lt_of_lt_of_le (partakes.touches touches) (Nat.le_add_right before rest)
  concludes concludes answered := by
    have used := partakes.concludes concludes answered
    omega
  reports here := by
    rcases here with here | there
    · rcases partakes.reports here with ⟨before, other⟩ | written
      · exact .inl ⟨.inl before, other⟩
      · exact .inr written
    · refine .inl ⟨.inr there, ?_⟩
      rintro mapping rfl
      have active := partakes.touches (decide_eq_true rfl)
      have waiting := busy there
      omega
  sends url payload same mine := .inl (partakes.sends url payload same mine)

/-- An operation that is none of the job's. -/
theorem none (untouched : op.touches jobId = false) : Partakes jobId op outcome before 0 reporting False where
  settled _ := Nat.zero_le before
  touches touches := by
    rw [untouched] at touches
    cases touches
  concludes concludes _ := by
    have touches := Stage.touches_of_concludes concludes
    rw [untouched] at touches
    cases touches
  reports := False.elim
  sends url payload same mine := by
    subst same
    rw [Op.touches, decide_eq_false_iff_not] at untouched
    exact absurd mine untouched

theorem ofMessage {message : StreamMessage} {stage later : Stage}
    (row : Stage.Move self message message.job stage op outcome later) :
    Partakes jobId op outcome (stage.engagement jobId message) (later.engagement jobId message)
      (message.job.jobId = jobId ∧ stage.reporting = true)
      (message.job.jobId = jobId ∧ later.reporting = true) where
  settled := Stage.engagement_row row
  touches touches := by
    rw [Stage.engagement_of_touches row touches]
    exact Nat.one_pos
  concludes concludes answered := Nat.le_of_eq (Stage.engagement_of_concludes row concludes answered)
  reports := by
    rintro ⟨rfl, reports⟩
    rcases Stage.reporting_row row reports with ⟨before, other⟩ | written
    · exact .inl ⟨⟨rfl, before⟩, other _⟩
    · exact .inr written
  sends := by
    rintro url payload same rfl
    refine ⟨?_, Stage.reporting_of_concludes row same⟩
    cases row with
    | report =>
        cases same
        rfl
    | _ => cases same

theorem ofRecovery {stage later : RecoveryStage} (row : RecoveryStage.Move self stage op outcome later) :
    Partakes jobId op outcome (stage.engagement jobId) (later.engagement jobId) (stage.Reporting jobId)
      (later.Reporting jobId) where
  settled := RecoveryStage.engagement_row row
  touches touches := by
    rw [RecoveryStage.engagement_of_touches row touches]
    exact Nat.one_pos
  concludes concludes answered := Nat.le_of_eq (RecoveryStage.engagement_of_concludes row concludes answered)
  reports here := by
    rcases RecoveryStage.Reporting.row row here with ⟨before, other⟩ | written
    · exact .inl ⟨before, other _⟩
    · exact .inr written
  sends := by
    rintro url payload same rfl
    exact RecoveryStage.reporting_of_sends row same

theorem ofBatch {messages : List StreamMessage} {stage later : BatchStage}
    (row : BatchStage.Move self messages stage op outcome later) (marks : stage.Marks) (world : World) :
    Partakes jobId op outcome (stage.engagement jobId)
      (later.engagement jobId + engaged jobId (world.created op)) (stage.Reporting jobId)
      (later.Reporting jobId) := by
  have alone (other : ∀ spec, op ≠ .createTask spec) : engaged jobId (world.created op) = 0 := by
    rw [Backlog.created_eq_nil other, engaged_nil]
  refine ⟨?_, ?_, ?_, ?_, ?_⟩
  · intro finds
    by_cases spawns : ∃ spec, op = .createTask spec
    · obtain ⟨spec, rfl⟩ := spawns
      cases row with
      | spawn => exact Nat.le_of_eq (Nat.zero_add _)
      | process row => cases row.ofMessage
    · rw [alone fun spec same => spawns ⟨spec, same⟩, Nat.add_zero]
      exact BatchStage.engagement_row row finds
  · exact BatchStage.engagement_of_touches row marks
  · intro concludes answered
    rw [alone, Nat.add_zero]
    · exact Nat.le_of_eq (BatchStage.engagement_of_concludes row concludes answered)
    · rintro spec rfl
      cases concludes
  · intro here
    rcases BatchStage.Reporting.row row here with ⟨before, other⟩ | written
    · exact .inl ⟨before, other _⟩
    · exact .inr written
  · rintro url payload same rfl
    exact BatchStage.reporting_of_sends row same

theorem ofPost {post later : Post} (row : Post.Move self post op outcome later) (world : World) :
    Partakes jobId op outcome (post.engagement jobId)
      (later.engagement jobId + engaged jobId (world.created op)) (post.Reporting jobId)
      (later.Reporting jobId) where
  settled _ := Post.engagement_row row world
  touches := Post.engagement_of_touches row
  concludes concludes answered := by
    have alone : engaged jobId (world.created op) = 0 := by
      rw [Backlog.created_eq_nil, engaged_nil]
      rintro spec rfl
      cases concludes
    rw [alone, Nat.add_zero]
    exact Nat.le_of_eq (Post.engagement_of_concludes row concludes answered)
  reports here := by
    rcases Post.Reporting.row row here with ⟨before, other⟩ | written
    · exact .inl ⟨before, other _⟩
    · exact .inr written
  sends := by
    rintro url payload same rfl
    exact Post.reporting_of_sends row same

/-- The rows of the loop. -/
theorem ofLoop {stage later : LoopStage} (row : LoopStage.Move self stage op outcome later)
    (marks : stage.Marks) (world : World) :
    Partakes jobId op outcome (stage.engagement jobId)
      (later.engagement jobId + engaged jobId (world.created op)) (stage.Reporting jobId)
      (later.Reporting jobId) := by
  -- a row that handles no message touches no job and takes none up
  have elsewhere {op : Op} {outcome : Except Exc op.Reply} {stage later : LoopStage}
      (untouched : op.touches jobId = false) (other : ∀ spec, op ≠ .createTask spec)
      (free : later.Uninvolved jobId) :
      Partakes jobId op outcome (stage.engagement jobId)
        (later.engagement jobId + engaged jobId (world.created op)) (stage.Reporting jobId)
        (later.Reporting jobId) := by
    rw [Backlog.created_eq_nil other, engaged_nil, Nat.add_zero, free.free]
    exact (none untouched).mono (Nat.le_refl 0) free.silent
  have single {op : Op} (ofRecovery : op.ofRecovery = true) : engaged jobId (world.created op) = 0 := by
    rw [Backlog.created_eq_nil, engaged_nil]
    rintro spec rfl
    cases ofRecovery
  cases row with
  | startUp row =>
      rw [single row.ofRecovery, Nat.add_zero]
      apply RecoveryStage.within_cases
        (motive := fun later => Partakes _ _ _ _ (LoopStage.engagement jobId later) _ (later.Reporting jobId))
      · exact fun _ => ofRecovery row
      · exact fun _ => (ofRecovery row).mono (Nat.zero_le _) False.elim
      · exact fun _ _ => (ofRecovery row).mono (Nat.zero_le _) False.elim
  | recheck row =>
      rw [single row.ofRecovery, Nat.add_zero]
      apply RecoveryStage.within_cases
        (motive := fun later => Partakes _ _ _ _ (LoopStage.engagement jobId later) _ (later.Reporting jobId))
      · exact fun _ => ofRecovery row
      · exact fun _ => (ofRecovery row).mono (Nat.zero_le _) False.elim
      · intro exception _
        have free : (LoopStage.caught exception).Uninvolved jobId := LoopStage.uninvolved_caught exception
        rw [free.free]
        exact (ofRecovery row).mono (Nat.zero_le _) fun reports => (free.silent reports).elim
  | @each message stage rest _ _ later row =>
      rw [single (Op.ofRecovery_of_ofMessage row.ofMessage), Nat.add_zero]
      apply Stage.within_cases
        (motive := fun later => Partakes _ _ _ _ (LoopStage.engagement jobId later) _ (later.Reporting jobId))
      · exact fun _ => ofMessage row
      · intro _
        have free : (LoopStage.handling rest).Uninvolved jobId := LoopStage.uninvolved_handling rest
        rw [free.free]
        exact (ofMessage row).mono (Nat.zero_le _) fun reports => (free.silent reports).elim
      · intro exception _
        have free : (LoopStage.caught exception).Uninvolved jobId := LoopStage.uninvolved_caught exception
        rw [free.free]
        exact (ofMessage row).mono (Nat.zero_le _) fun reports => (free.silent reports).elim
  | batch row =>
      apply BatchStage.within_cases
        (motive := fun later => Partakes _ _ _ _ (LoopStage.engagement jobId later + _) _ (later.Reporting jobId))
      · exact fun _ => ofBatch row marks world
      · intro delivery _
        have free : (LoopStage.batched delivery).Uninvolved jobId := LoopStage.uninvolved_batched delivery
        rw [free.free]
        exact (ofBatch row marks world).mono (Nat.add_le_add_right (Nat.zero_le _) _)
          fun reports => (free.silent reports).elim
      · intro exception _
        have free : (LoopStage.caught exception).Uninvolved jobId := LoopStage.uninvolved_caught exception
        rw [free.free]
        exact (ofBatch row marks world).mono (Nat.add_le_add_right (Nat.zero_le _) _)
          fun reports => (free.silent reports).elim
  | @setup outcome =>
      apply elsewhere rfl (by simp)
      unfold LoopStage.grouped
      split
      · exact ⟨rfl, id⟩
      · split <;> exact ⟨rfl, id⟩
  | @top attrs | @due now attrs =>
      apply elsewhere rfl (by simp)
      split <;> exact ⟨rfl, id⟩
  | @hang outcome | @backOff _ outcome | @pause outcome =>
      apply elsewhere rfl (by simp)
      cases outcome <;> exact ⟨rfl, id⟩
  | @read outcome | @await _ _ outcome =>
      apply elsewhere rfl (by simp)
      cases outcome with
      | ok value => exact ⟨rfl, id⟩
      | error exception => exact LoopStage.uninvolved_caught exception
  | @peek messages attrs =>
      apply elsewhere rfl (by simp)
      cases attrs.pendingBatchDelivery with
      | some number => exact ⟨rfl, id⟩
      | none => exact LoopStage.uninvolved_dispatching messages
  | forget => exact elsewhere rfl (by simp) (LoopStage.uninvolved_dispatching _)
  | @reread attrs =>
      apply elsewhere rfl (by simp)
      unfold LoopStage.waiting
      split <;> exact ⟨rfl, id⟩
  | _ => exact elsewhere rfl (by simp) ⟨rfl, id⟩

end Partakes

end Rows

/-! ### The crew -/

theorem Stage.busy_of_reporting {stage : Stage} (reports : stage.reporting = true) : stage.spent = false := by
  cases stage with
  | lastFlag | report => rfl
  | _ => cases reports

theorem LoopStage.Reporting.engaged {stage : LoopStage} {jobId : String} (reports : stage.Reporting jobId) :
    0 < stage.engagement jobId := by
  have busy {message : StreamMessage} {inner : Stage}
      (here : message.job.jobId = jobId ∧ inner.reporting = true) : 0 < inner.engagement jobId message := by
    rw [Stage.engagement, if_pos ⟨here.1, Stage.busy_of_reporting here.2⟩]
    exact Nat.one_pos
  cases stage with
  | startUp inner | recheck _ inner =>
      cases inner with
      | process => exact busy reports
      | _ => exact reports.elim
  | each => exact busy reports
  | batch _ inner =>
      cases inner with
      | process => exact busy reports
      | _ => exact reports.elim
  | _ => exact reports.elim

namespace Crew

/-- How many parts of a consumer may still do something about this job. -/
def engagement (jobId : String) (crew : Crew LoopStage) : Nat :=
  crew.main.engagement jobId + engaged jobId crew.posts

/-- A consumer is about to report this job. -/
def Reporting (jobId : String) (crew : Crew LoopStage) : Prop :=
  crew.main.Reporting jobId ∨ ∃ post ∈ crew.posts, post.Reporting jobId

theorem Reporting.engaged {crew : Crew LoopStage} {jobId : String} (reports : crew.Reporting jobId) :
    0 < crew.engagement jobId := by
  unfold engagement
  rcases reports with main | ⟨post, member, reports⟩
  · exact Nat.add_pos_left main.engaged _
  · exact Nat.add_pos_right _ (Nat.lt_of_lt_of_le reports.engaged (Post.engagement_le member))

private theorem not_reporting_created {world : World} {op : Op} {post : Post} {jobId : String}
    (fresh : post ∈ world.created op) : ¬ post.Reporting jobId := by
  cases op with
  | createTask spec =>
      rw [List.mem_singleton.mp fresh]
      cases spec with
      | deliverBatch => exact id
      | deliverSingle => exact fun reports => by cases reports.2
  | _ => cases fresh

/-- A step of the crew is an event, or the operation of one part; the others stay as they are. -/
theorem Step.parts {self : Consumer} {policy : Policy} {first second : Crew LoopStage} {jobId : String}
    (step : Step self policy (LoopStage.Move self) first second) (marks : first.main.Marks)
    (few : first.engagement jobId ≤ 1) :
    (∃ event next, policy.env event ∧ first.world.occur event = some next ∧
        second = { first with world := next.record (.env event) }) ∨
      ∃ role op outcome fate next, World.Performs policy first.world op outcome fate next ∧
        second.world = next.recordCall role op outcome fate ∧
          Partakes jobId op outcome (first.engagement jobId) (second.engagement jobId) (first.Reporting jobId)
            (second.Reporting jobId) := by
  cases step with
  | env allowed occurs => exact .inl ⟨_, _, allowed, occurs, rfl⟩
  | @main world next stage later posts op outcome fate row performs =>
      refine .inr ⟨_, op, outcome, fate, next, performs, rfl, ?_⟩
      have busy : (∃ post ∈ posts, post.Reporting jobId) → 0 < engaged jobId posts := by
        rintro ⟨post, member, reports⟩
        exact Nat.lt_of_lt_of_le reports.engaged (Post.engagement_le member)
      have parts := (Partakes.ofLoop row marks world).frame busy few
      apply parts.mono
      · simp only [engagement, engaged_append]
        omega
      · rintro (main | ⟨post, member, reports⟩)
        · exact .inl main
        · rcases List.mem_append.mp member with old | new
          · exact .inr ⟨post, old, reports⟩
          · exact (not_reporting_created new reports).elim
  | @post world next stage before after post later op outcome fate row performs =>
      refine .inr ⟨_, op, outcome, fate, next, performs, rfl, ?_⟩
      let rest := stage.engagement jobId + engaged jobId before + engaged jobId after
      let others := stage.Reporting jobId ∨ ∃ post ∈ before ++ after, post.Reporting jobId
      have busy : others → 0 < rest := by
        rintro (main | ⟨other, member, reports⟩)
        · have := main.engaged
          omega
        · have here := Nat.lt_of_lt_of_le reports.engaged (Post.engagement_le member)
          rw [engaged_append] at here
          omega
      have total : (Crew.mk world stage (before ++ post :: after)).engagement jobId =
          post.engagement jobId + rest := by
        simp only [engagement, engaged_append, engaged_cons, rest]
        omega
      have parts := (Partakes.ofPost row world).frame busy (total ▸ few)
      rw [total]
      apply (parts.mono _ _).sooner
      · rintro (mine | main | ⟨other, member, reports⟩)
        · exact .inr ⟨post, List.mem_append_right _ List.mem_cons_self, mine⟩
        · exact .inl main
        · refine .inr ⟨other, ?_, reports⟩
          rcases List.mem_append.mp member with front | back
          · exact List.mem_append_left _ front
          · exact List.mem_append_right _ (List.mem_cons_of_mem _ back)
      · simp only [engagement, engaged_append, engaged_cons, rest]
        omega
      · rintro (main | ⟨other, member, reports⟩)
        · exact .inr (.inl main)
        · rcases List.mem_append.mp member with old | new
          · rcases List.mem_append.mp old with front | back
            · exact .inr (.inr ⟨other, List.mem_append_left _ front, reports⟩)
            · rcases List.mem_cons.mp back with rfl | behind
              · exact .inl reports
              · exact .inr (.inr ⟨other, List.mem_append_right _ behind, reports⟩)
          · exact (not_reporting_created new reports).elim

end Crew

end CodaNode
