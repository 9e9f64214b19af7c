/-
Module: CodaNode.Protocol.Hand
Layer: Protocol
Purpose: The messages a consumer has in hand and the parts that may do something about a job. A part takes
  a job up only with a message that carries it in hand, and the loop gets its messages from its reads and
  from the stream.
Imports: CodaNode.Protocol.Involvement, CodaNode.Protocol.Possession
Main exports: LoopStage.hand, Lone, Op.Brings, Lone.row, LoopStage.Fits, LoopStage.Fits.row,
  LoopStage.engagement_le
-/
import CodaNode.Protocol.Involvement
import CodaNode.Protocol.Possession

namespace CodaNode

open Coroutine

/-! ### What the stages know of their messages -/

/-- A stage past the reading of the message has read it. -/
def Stage.Legible (message : StreamMessage) : Stage → Prop
  | .called | .dismiss | .ended _ => True
  | _ => ∃ job, message.read = .ok (some job)

/-- The message a recovery processes has been read. -/
def RecoveryStage.Legible : RecoveryStage → Prop
  | .process message stage _ => stage.Legible message
  | _ => True

/-- A batch takes up no more than its messages carry. -/
def BatchStage.Fits (jobId : String) (messages : List StreamMessage) : BatchStage → Prop
  | .process message stage rest => stage.Legible message ∧ (message :: rest).Sublist messages
  | stage => stage.potential jobId ≤ carriers jobId messages

/-- The loop takes up no more than the messages in its hand carry. -/
def LoopStage.Fits (jobId : String) : LoopStage → Prop
  | .startUp stage | .recheck _ stage => stage.Legible
  | .each message stage _ => stage.Legible message
  | .batch messages stage => stage.Fits jobId messages ∧ stage.Marks
  | _ => True

/-- The message a recovery has in hand. -/
def RecoveryStage.hand : RecoveryStage → List StreamMessage
  | .process message _ _ => [message]
  | _ => []

/-- The messages the loop has in hand. -/
def LoopStage.hand : LoopStage → List StreamMessage
  | .startUp stage | .recheck _ stage => stage.hand
  | .healthy messages | .calm messages | .peek messages | .await _ messages | .forget messages
  | .batch messages _ => messages
  | .each message _ rest => message :: rest
  | _ => []

/-- At most one of the messages carries the job, and it has this id. -/
structure Lone (jobId messageId : String) (messages : List StreamMessage) : Prop where
  same : ∀ message ∈ messages, message.carries jobId = true → message.messageId = messageId
  few : carriers jobId messages ≤ 1

/-- What an operation fetches of this job is this message, once. -/
def Op.Brings (jobId messageId : String) : (op : Op) → Except Exc op.Reply → Prop
  | .xrange id, .ok messages => ∀ message ∈ messages, message.carries jobId = true → id = messageId
  | .xreadgroup _ _, .ok messages => Lone jobId messageId messages
  | _, _ => True

section Rows

variable {self : Consumer} {op : Op} {outcome : Except Exc op.Reply} {jobId messageId : String}

namespace Stage

variable {message : StreamMessage} {stage later : Stage}

theorem legible_of_read (read : ∃ job, message.read = .ok (some job)) (stage : Stage) :
    stage.Legible message := by
  cases stage <;> first | exact read | trivial

theorem Legible.row (row : Move self message message.job stage op outcome later)
    (legible : stage.Legible message) : later.Legible message := by
  cases row with
  | @called outcome =>
      cases outcome with
      | error exception => trivial
      | ok value =>
          simp only [afterCall, opening]
          split
          · trivial
          · trivial
          · rename_i job reading
            exact ⟨job, reading⟩
  | @dismiss outcome =>
      cases outcome with
      | ok value => trivial
      | error exception =>
          simp only [afterSafe]
          split <;> trivial
  | clock | assign => exact legible
  | _ => exact legible_of_read legible _

/-- A part that takes a job up has a message in hand that carries it. -/
theorem engagement_le (legible : stage.Legible message) :
    stage.engagement jobId message ≤ if message.carries jobId then 1 else 0 := by
  unfold engagement
  split
  · rename_i taken
    obtain ⟨same, busy⟩ := taken
    have read : ∃ job, message.read = .ok (some job) := by
      cases stage <;> first | exact legible | cases busy
    obtain ⟨job, reading⟩ := read
    have carried : message.carries jobId = true := by
      rw [StreamMessage.carries_of_read reading]
      exact decide_eq_true same
    exact Nat.le_of_eq (if_pos carried).symm
  · exact Nat.zero_le _

end Stage

namespace RecoveryStage

variable {stage later : RecoveryStage}

theorem legible_next (rest : List String) : (next rest).Legible := by
  cases rest <;> trivial

theorem Legible.row (row : Move self stage op outcome later) (legible : stage.Legible) : later.Legible := by
  cases row with
  | @query outcome =>
      cases outcome with
      | ok ids => exact legible_next ids
      | error exception => trivial
  | @fetch messageId rest outcome =>
      cases outcome with
      | error exception => trivial
      | ok messages =>
          cases messages with
          | nil => exact legible_next rest
          | cons message others => trivial
  | process row =>
      apply Stage.within_cases (motive := Legible)
      · exact fun _ => Stage.Legible.row row legible
      · exact fun _ => legible_next _
      · exact fun _ _ => trivial

theorem engagement_le (legible : stage.Legible) : stage.engagement jobId ≤ carriers jobId stage.hand := by
  cases stage with
  | process message stage rest =>
      rw [hand, carriers, List.countP_singleton]
      exact Stage.engagement_le legible
  | _ => exact Nat.zero_le _

end RecoveryStage

namespace BatchStage

variable {messages : List StreamMessage} {stage later : BatchStage}

theorem fits_each : (each messages).Fits jobId messages := by
  apply each_cases (motive := Fits jobId messages)
  · exact Nat.zero_le _
  · rintro message rest rfl
    exact ⟨trivial, List.Sublist.refl _⟩

theorem fits_parse {parsed : List ParsedJob} {todo : List StreamMessage}
    (bound : accepted jobId parsed + carriers jobId todo ≤ carriers jobId messages) :
    (parse parsed todo).Fits jobId messages := by
  have most : (parse parsed todo).potential jobId ≤ _ := potential_parse parsed todo
  revert most
  apply parse_cases (motive := fun stage => potential jobId stage ≤ _ → Fits jobId messages stage)
  all_goals
    intros
    exact Nat.le_trans ‹_› bound

theorem fits_marking {parsed todo : List ParsedJob} (bound : accepted jobId parsed ≤ carriers jobId messages) :
    (marking self messages parsed todo).Fits jobId messages := by
  apply marking_cases (motive := Fits jobId messages)
  · exact bound
  · exact fits_each
  · exact fun _ _ _ => bound

theorem Fits.row (row : Move self messages stage op outcome later) (fits : stage.Fits jobId messages) :
    later.Fits jobId messages := by
  rcases row.leads with leads | ⟨_, _, _, -, -, -, rfl⟩ | ⟨message, inner, rest, later, rfl, moved, rfl⟩
  · cases leads with
    | stayed => exact fits
    | failed => exact Nat.zero_le _
    | called =>
        exact fits_parse (Nat.le_of_eq (Nat.zero_add _))
    | @unsettled message parsed todo | @flagged message parsed todo => exact fits
    | @final message parsed todo | @dropped message parsed todo =>
        have bound : accepted jobId parsed + (if message.job.jobId = jobId then 1 else 0) +
          carriers jobId todo ≤ carriers jobId messages := fits
        change accepted jobId parsed + carriers jobId todo ≤ _
        omega
    | @accepted message parsed todo =>
        have bound : CodaNode.accepted jobId parsed + (if message.job.jobId = jobId then 1 else 0) +
          carriers jobId todo ≤ carriers jobId messages := fits
        unfold accept
        split
        · change CodaNode.accepted jobId parsed + carriers jobId todo ≤ _
          omega
        · apply fits_parse
          rw [accepted_snoc]
          exact bound
    | dismissed => exact fits_parse fits
    | busy | marked => exact fits_marking fits
    | ran => exact fits
    | fellBack => exact fits_each
  · exact Nat.zero_le _
  · obtain ⟨legible, inside⟩ := fits
    apply Stage.within_cases (motive := Fits jobId messages)
    · exact fun _ => ⟨Stage.Legible.row moved legible, inside⟩
    · intro _
      apply each_cases (motive := Fits jobId messages)
      · exact Nat.zero_le _
      · rintro message' rest' rfl
        exact ⟨trivial, (List.sublist_cons_self message _).trans inside⟩
    · exact fun _ _ => Nat.zero_le _

theorem engagement_le (fits : stage.Fits jobId messages) :
    stage.engagement jobId ≤ carriers jobId messages := by
  cases stage with
  | process message stage rest =>
      obtain ⟨legible, inside⟩ := fits
      have head : stage.engagement jobId message ≤ _ := Stage.engagement_le legible
      have whole : carriers jobId (message :: rest) ≤ carriers jobId messages := inside.countP_le
      rw [carriers, List.countP_cons] at whole
      exact Nat.le_trans head (Nat.le_trans (Nat.le_add_left _ _) whole)
  | _ => exact Nat.le_trans engagement_le_potential fits

end BatchStage

namespace LoopStage

variable {stage later : LoopStage}

theorem fits_caught (exception : Exc) : (caught exception).Fits jobId := by
  unfold caught
  split
  · trivial
  · split <;> trivial

theorem fits_handling (messages : List StreamMessage) : (handling messages).Fits jobId := by
  cases messages <;> trivial

theorem fits_dispatching (messages : List StreamMessage) : (dispatching self messages).Fits jobId := by
  unfold dispatching
  split
  · trivial
  · split
    · exact ⟨Nat.zero_le _, trivial⟩
    · exact fits_handling messages

theorem Fits.marks (fits : stage.Fits jobId) : stage.Marks := by
  cases stage with
  | batch => exact fits.2
  | _ => trivial

theorem Fits.row (row : Move self stage op outcome later) (fits : stage.Fits jobId) : later.Fits jobId := by
  cases row with
  | startUp row =>
      apply RecoveryStage.within_cases (motive := Fits jobId)
      · exact fun _ => RecoveryStage.Legible.row row fits
      · exact fun _ => trivial
      · exact fun _ _ => trivial
  | recheck row =>
      apply RecoveryStage.within_cases (motive := Fits jobId)
      · exact fun _ => RecoveryStage.Legible.row row fits
      · exact fun _ => trivial
      · exact fun exception _ => fits_caught exception
  | each row =>
      apply Stage.within_cases (motive := Fits jobId)
      · exact fun _ => Stage.Legible.row row fits
      · exact fun _ => fits_handling _
      · exact fun exception _ => fits_caught exception
  | batch row =>
      apply BatchStage.within_cases (motive := Fits jobId)
      · exact fun _ => ⟨fits.1.row row, fits.2.row row⟩
      · intro delivery _
        cases delivery <;> trivial
      · exact fun exception _ => fits_caught exception
  | @setup outcome =>
      unfold grouped
      split
      · trivial
      · split <;> trivial
  | @top attrs | @due now attrs => split <;> trivial
  | @hang outcome | @backOff _ outcome | @pause outcome => cases outcome <;> trivial
  | @read outcome | @await _ _ outcome =>
      cases outcome with
      | ok value => trivial
      | error exception => exact fits_caught exception
  | @peek messages attrs =>
      cases attrs.pendingBatchDelivery with
      | some number => trivial
      | none => exact fits_dispatching messages
  | forget => exact fits_dispatching _
  | @reread attrs =>
      unfold waiting
      split <;> trivial
  | _ => trivial

/-- The loop takes a job up only with a message in hand that carries it. -/
theorem engagement_le (fits : stage.Fits jobId) : stage.engagement jobId ≤ carriers jobId stage.hand := by
  cases stage with
  | startUp | recheck => exact RecoveryStage.engagement_le fits
  | each message stage rest =>
      have head : stage.engagement jobId message ≤ _ := Stage.engagement_le fits
      rw [hand, carriers, List.countP_cons]
      exact Nat.le_trans head (Nat.le_add_left _ _)
  | batch => exact BatchStage.engagement_le fits.1
  | _ => exact Nat.zero_le _

end LoopStage

/-! ### The hand -/

theorem Lone.nil : Lone jobId messageId [] where
  same _ member := by cases member
  few := Nat.zero_le 1

theorem Lone.sublist {messages others : List StreamMessage} (inside : others.Sublist messages)
    (lone : Lone jobId messageId messages) : Lone jobId messageId others where
  same message member := lone.same message (inside.subset member)
  few := Nat.le_trans inside.countP_le lone.few

/-- Whether a message carries a job does not depend on its id. -/
theorem StreamMessage.carries_fields (message : StreamMessage) (id : String) :
    StreamMessage.carries jobId ⟨id, message.fields⟩ = message.carries jobId := by
  unfold carries read
  cases decodeFields message.fields with
  | error exception => rfl
  | ok decoded =>
      simp only
      cases requiredFields decoded <;> rfl

theorem RecoveryStage.hand_next (rest : List String) : (next rest).hand = [] := by
  cases rest <;> rfl

theorem RecoveryStage.lone_row {stage later : RecoveryStage} (row : Move self stage op outcome later)
    (brings : op.Brings jobId messageId outcome) (lone : Lone jobId messageId stage.hand) :
    Lone jobId messageId later.hand := by
  cases row with
  | @query outcome =>
      cases outcome with
      | ok ids =>
          simp only [afterCall, hand_next]
          exact .nil
      | error exception => exact .nil
  | @fetch id rest outcome =>
      cases outcome with
      | error exception => exact .nil
      | ok messages =>
          cases messages with
          | nil =>
              simp only [afterCall, fetched, hand_next]
              exact .nil
          | cons message others =>
              constructor
              · intro other member carries
                rw [List.mem_singleton.mp member, StreamMessage.carries_fields] at carries
                rw [List.mem_singleton.mp member]
                exact brings message List.mem_cons_self carries
              · exact Nat.le_trans List.countP_le_length (Nat.le_refl 1)
  | process row =>
      apply Stage.within_cases (motive := fun later => Lone jobId messageId (RecoveryStage.hand later))
      · exact fun _ => lone
      · intro _
        rw [hand_next]
        exact .nil
      · exact fun _ _ => .nil

namespace LoopStage

variable {stage later : LoopStage}

theorem lone_caught (exception : Exc) : Lone jobId messageId (caught exception).hand := by
  unfold caught
  split
  · exact .nil
  · split <;> exact .nil

theorem hand_handling (messages : List StreamMessage) : (handling messages).hand = messages := by
  cases messages <;> rfl

theorem lone_dispatching {messages : List StreamMessage} (lone : Lone jobId messageId messages) :
    Lone jobId messageId (dispatching self messages).hand := by
  unfold dispatching
  split
  · exact .nil
  · split
    · exact lone
    · rw [hand_handling]
      exact lone

/-- At most one message in hand carries the job, if what is fetched does so. -/
theorem lone_row (row : Move self stage op outcome later) (brings : op.Brings jobId messageId outcome)
    (lone : Lone jobId messageId stage.hand) : Lone jobId messageId later.hand := by
  cases row with
  | startUp row =>
      apply RecoveryStage.within_cases (motive := fun later => Lone jobId messageId (hand later))
      · exact fun _ => RecoveryStage.lone_row row brings lone
      · exact fun _ => .nil
      · exact fun _ _ => .nil
  | recheck row =>
      apply RecoveryStage.within_cases (motive := fun later => Lone jobId messageId (hand later))
      · exact fun _ => RecoveryStage.lone_row row brings lone
      · exact fun _ => .nil
      · exact fun exception _ => lone_caught exception
  | @each message stage rest =>
      apply Stage.within_cases (motive := fun later => Lone jobId messageId (hand later))
      · exact fun _ => lone
      · intro _
        rw [hand_handling]
        exact lone.sublist (List.sublist_cons_self message rest)
      · exact fun exception _ => lone_caught exception
  | batch row =>
      apply BatchStage.within_cases (motive := fun later => Lone jobId messageId (hand later))
      · exact fun _ => lone
      · intro delivery _
        cases delivery <;> exact .nil
      · exact fun exception _ => lone_caught exception
  | @setup outcome =>
      unfold grouped
      split
      · exact .nil
      · split <;> exact .nil
  | @top attrs | @due now attrs => split <;> exact .nil
  | @hang outcome | @backOff _ outcome | @pause outcome => cases outcome <;> exact .nil
  | @read outcome =>
      cases outcome with
      | ok messages => exact brings
      | error exception => exact lone_caught exception
  | @await _ _ outcome =>
      cases outcome with
      | ok value => exact lone
      | error exception => exact lone_caught exception
  | @peek messages attrs =>
      cases attrs.pendingBatchDelivery with
      | some number => exact lone
      | none => exact lone_dispatching lone
  | forget => exact lone_dispatching lone
  | healthy | calm => exact lone
  | @reread attrs =>
      unfold waiting
      split <;> exact .nil
  | _ => exact .nil

/-- What is in hand is the consumer's own. -/
theorem owns_hand {own : String → Prop} (has : stage.Has own) : Owns own stage.hand := by
  have recovery {inner : RecoveryStage} (has : inner.Has own) : Owns own inner.hand := by
    cases inner with
    | process message _ _ =>
        intro other member
        rw [List.mem_singleton.mp member]
        exact has.1
    | _ => exact fun _ member => by cases member
  cases stage with
  | startUp | recheck => exact recovery has
  | batch => exact has.1
  | healthy | calm | peek | await | forget | each => exact has
  | _ => exact fun _ member => by cases member

/-- Who takes the job up has the message that carries it. -/
theorem own_of_engaged {own : String → Prop} (fits : stage.Fits jobId) (has : stage.Has own)
    (lone : Lone jobId messageId stage.hand) (engaged : 0 < stage.engagement jobId) : own messageId := by
  have some_ : 0 < carriers jobId stage.hand := Nat.lt_of_lt_of_le engaged (engagement_le fits)
  obtain ⟨message, member, carries⟩ := List.countP_pos_iff.mp some_
  rw [← lone.same message member carries]
  exact owns_hand has message member

end LoopStage

end Rows

end CodaNode
