/-
Module: CodaNode.Protocol.Engagement
Layer: Protocol
Purpose: How many parts of a consumer may still do something about one job: a call that has taken it up,
  the jobs a batch has accepted, the deliveries under way. The count grows only where a look-up finds the
  job unsettled, every operation on the job needs one, and a terminal report or a cancelled status uses
  one up.
Imports: CodaNode.Protocol.Backlog, CodaNode.Protocol.Reports
Main exports: Op.touches, Op.concludes, LoopStage.engagement, Post.engagement
-/
import CodaNode.Protocol.Backlog
import CodaNode.Protocol.Reports

namespace CodaNode

open Coroutine

/-- A state in which a job is not taken up. -/
def Final (state : Option JobState) : Prop := state = some .completed ∨ state = some .cancelled

/-- The message carries this job. -/
def StreamMessage.carries (jobId : String) (message : StreamMessage) : Bool :=
  match message.read with
  | .ok (some job) => job.jobId = jobId
  | _ => false

theorem StreamMessage.carries_of_read {message : StreamMessage} {job : JobMessage}
    (reading : message.read = .ok (some job)) (jobId : String) :
    message.carries jobId = decide (message.job.jobId = jobId) := by
  rw [carries, StreamMessage.job_of_read reading]
  simp only [reading]

/-- The operation executes this job, writes its status or sends one of its webhooks. -/
def Op.touches (jobId : String) : Op → Bool
  | .createRun id _ _ | .hset id _ | .sendError _ id _ => id = jobId
  | .batchRun jobs => jobs.any fun job => job.1 = jobId
  | .sendResult _ payload => payload.jobId = jobId
  | _ => false

/-- The operation reports the result of this job, or records that it is cancelled. -/
def Op.concludes (jobId : String) : Op → Bool
  | .hset id mapping => id = jobId ∧ mapping.state = some .cancelled
  | .sendResult _ payload => payload.jobId = jobId
  | _ => false

/-- A look-up of this job finds a final state. -/
def Op.FindsFinal (jobId : String) : (op : Op) → Except Exc op.Reply → Prop
  | .hgetState id, .ok state => id = jobId → Final state
  | _, _ => True

/-! ### One message -/

namespace Stage

/-- The call has not taken its job up, or has nothing left to do for it but to acknowledge. -/
def spent : Stage → Bool
  | .called | .lookUp | .dismiss | .cleanUp _ | .release _ | .free _ | .ended _ => true
  | _ => false

/-- Whether the call may still do something about this job. -/
def engagement (jobId : String) (message : StreamMessage) (stage : Stage) : Nat :=
  if message.job.jobId = jobId ∧ stage.spent = false then 1 else 0

/-- The completed status has been written and the webhook has not been sent. -/
def reporting : Stage → Bool
  | .lastFlag _ | .report _ => true
  | _ => false

variable {self : Consumer} {message : StreamMessage} {stage later : Stage} {op : Op}
variable {outcome : Except Exc op.Reply} {jobId : String}

theorem engagement_spent (spent : stage.spent = true) : stage.engagement jobId message = 0 :=
  if_neg fun ⟨_, busy⟩ => by rw [spent] at busy; cases busy

/-- A call takes a job up only after a look-up. -/
theorem spent_row (row : Move self message message.job stage op outcome later)
    (spent : stage.spent = true) (finds : op.FindsFinal message.job.jobId outcome) :
    later.spent = true := by
  cases row with
  | @called outcome =>
      cases outcome with
      | ok value =>
          simp only [afterCall, opening]
          split <;> rfl
      | error exception => rfl
  | @lookUp outcome =>
      cases outcome with
      | ok state =>
          have final : state = some .completed ∨ state = some .cancelled := finds rfl
          simp only [afterCall]
          rw [if_pos final]
          rfl
      | error exception => rfl
  | @dismiss outcome | @cleanUp _ outcome =>
      cases outcome with
      | ok value => rfl
      | error exception =>
          simp only [afterSafe]
          split <;> rfl
  | release | free => rfl
  | clock | assign => exact spent
  | _ => cases spent

/-- A call that has settled its job does not take it up again. -/
theorem engagement_row (row : Move self message message.job stage op outcome later)
    (finds : op.FindsFinal jobId outcome) :
    later.engagement jobId message ≤ stage.engagement jobId message := by
  cases spent : stage.spent with
  | false =>
      unfold engagement
      simp only [spent, and_true]
      split <;> split <;> first | omega | (rename_i taken other; exact absurd taken.1 other)
  | true =>
      by_cases same : message.job.jobId = jobId
      · subst same
        rw [engagement_spent (spent_row row spent finds)]
        exact Nat.zero_le _
      · rw [engagement, if_neg fun taken => same taken.1]
        exact Nat.zero_le _

/-- Only a call that has taken the job up touches it. -/
theorem engagement_of_touches (row : Move self message message.job stage op outcome later)
    (touches : op.touches jobId = true) : stage.engagement jobId message = 1 := by
  have engaged (same : message.job.jobId = jobId) (busy : stage.spent = false) :
      stage.engagement jobId message = 1 := if_pos ⟨same, busy⟩
  cases row with
  | drop | takeOn | launch | complete | report | mark | recordFailure | reportFailure =>
      exact engaged (of_decide_eq_true touches) rfl
  | _ => cases touches

/-- A conclusion is the last thing a call does about its job. -/
theorem spent_of_concludes (row : Move self message message.job stage op outcome later)
    (concludes : op.concludes jobId = true) (answered : outcome.isOk = true) : later.spent = true := by
  cases row with
  | @drop now outcome | @mark now outcome | @report result outcome =>
      cases outcome with
      | ok value => rfl
      | error exception => cases answered
  | takeOn | complete | recordFailure => simp [Op.concludes] at concludes
  | _ => cases concludes

theorem touches_of_concludes (concludes : op.concludes jobId = true) : op.touches jobId = true := by
  cases op with
  | hset id mapping =>
      simp only [Op.concludes, decide_eq_true_eq] at concludes
      exact decide_eq_true concludes.1
  | sendResult url payload => exact concludes
  | _ => cases concludes

theorem engagement_of_concludes (row : Move self message message.job stage op outcome later)
    (concludes : op.concludes jobId = true) (answered : outcome.isOk = true) :
    later.engagement jobId message + 1 = stage.engagement jobId message := by
  rw [engagement_spent (spent_of_concludes row concludes answered),
    engagement_of_touches row (touches_of_concludes concludes)]

theorem not_reporting_failing (exception : Exc) : (failing exception).reporting = false := by
  unfold failing
  split
  · rfl
  · split <;> rfl

/-- The result webhook follows the completed status. -/
theorem reporting_row (row : Move self message message.job stage op outcome later)
    (reports : later.reporting = true) :
    stage.reporting = true ∧ (∀ id mapping, op ≠ .hset id mapping) ∨
      ∃ mapping, op = .hset message.job.jobId mapping ∧ mapping.state = some .completed := by
  have never {other : Stage} (quiet : other.reporting = false) (here : other.reporting = true) : False := by
    rw [quiet] at here
    cases here
  have settled_ (ending : Except Exc ExecutionResult) : (settled ending).reporting = false := by
    cases ending with
    | ok result => rfl
    | error exception => exact not_reporting_failing exception
  cases row with
  | complete => exact .inr ⟨_, rfl, rfl⟩
  | lastFlag => exact .inl ⟨rfl, by simp⟩
  | clock | assign => exact .inl ⟨reports, by simp⟩
  | @called outcome =>
      refine (never ?_ reports).elim
      cases outcome with
      | ok value =>
          simp only [afterCall, opening]
          split <;> rfl
      | error exception => rfl
  | @takeOn now outcome =>
      refine (never ?_ reports).elim
      have opened : (started self message.job).reporting = false := by
        unfold started
        split
        · rfl
        · exact not_reporting_failing _
      cases outcome with
      | ok value => exact opened
      | error exception =>
          simp only [afterSafe]
          split
          · exact opened
          · rfl
  | @settle ending outcome | @abort ending outcome =>
      refine (never ?_ reports).elim
      cases outcome with
      | ok value =>
          simp only [afterCall]
          first | exact settled_ ending | (split <;> first | rfl | exact settled_ ending)
      | error exception => exact not_reporting_failing exception
  | drain | release | free => cases reports
  | _ =>
      rename_i outcome
      refine (never ?_ reports).elim
      cases outcome <;> simp only [afterCall, afterSafe, afterLogged] <;> (repeat' split) <;>
        first | rfl | exact not_reporting_failing _

/-- A call that is about to report writes no status. -/
theorem not_hset_of_reporting (row : Move self message message.job stage op outcome later)
    (reports : stage.reporting = true) : ∀ id mapping, op ≠ .hset id mapping := by
  cases row with
  | lastFlag | report | clock | assign => simp
  | _ => cases reports

/-- The webhook is sent where the completed status has been written. -/
theorem reporting_of_concludes (row : Move self message message.job stage op outcome later)
    {url : String} {payload : WebhookPayload} (same : op = .sendResult url payload) :
    stage.reporting = true := by
  cases row with
  | report => rfl
  | _ => cases same

end Stage

/-! ### A recovery -/

namespace RecoveryStage

/-- Whether a recovery may still do something about this job. -/
def engagement (jobId : String) : RecoveryStage → Nat
  | .process message stage _ => stage.engagement jobId message
  | _ => 0

/-- A recovery is about to report this job. -/
def Reporting (jobId : String) : RecoveryStage → Prop
  | .process message stage _ => message.job.jobId = jobId ∧ stage.reporting = true
  | _ => False

variable {self : Consumer} {stage later : RecoveryStage} {op : Op} {outcome : Except Exc op.Reply}
variable {jobId : String}

theorem engagement_next (rest : List String) : (next rest).engagement jobId = 0 := by
  cases rest <;> rfl

theorem engagement_row (row : Move self stage op outcome later) (finds : op.FindsFinal jobId outcome) :
    later.engagement jobId ≤ stage.engagement jobId := by
  cases row with
  | @query outcome =>
      cases outcome with
      | ok ids => exact Nat.le_of_eq (engagement_next ids)
      | error exception => exact Nat.le_refl 0
  | @fetch messageId rest outcome =>
      cases outcome with
      | ok messages =>
          cases messages with
          | nil => exact Nat.le_of_eq (engagement_next rest)
          | cons message others => exact Nat.le_of_eq (Stage.engagement_spent rfl)
      | error exception => exact Nat.le_refl 0
  | @process message stage rest _ _ later row =>
      have bound := Stage.engagement_row row finds
      refine Stage.within_cases (motive := fun later => engagement jobId later ≤ _) ?_ ?_ ?_
      · exact fun _ => bound
      · exact fun _ => Nat.le_trans (Nat.le_of_eq (engagement_next rest)) (Nat.zero_le _)
      · exact fun _ _ => Nat.zero_le _

theorem engagement_of_touches (row : Move self stage op outcome later) (touches : op.touches jobId = true) :
    stage.engagement jobId = 1 := by
  cases row with
  | process row => exact Stage.engagement_of_touches row touches
  | _ => cases touches

theorem engagement_of_concludes (row : Move self stage op outcome later)
    (concludes : op.concludes jobId = true) (answered : outcome.isOk = true) :
    later.engagement jobId + 1 = stage.engagement jobId := by
  cases row with
  | @process message stage rest _ _ later row =>
      have used := Stage.engagement_of_concludes row concludes answered
      refine Stage.within_cases (motive := fun later => engagement jobId later + 1 = _) ?_ ?_ ?_
      · exact fun _ => used
      · rintro rfl
        rw [engagement_next]
        rw [Stage.engagement_spent rfl] at used
        exact used
      · rintro exception rfl
        rw [Stage.engagement_spent rfl] at used
        exact used
  | _ => cases concludes

theorem Reporting.row (row : Move self stage op outcome later) (reports : later.Reporting jobId) :
    stage.Reporting jobId ∧ (∀ id mapping, op ≠ .hset id mapping) ∨
      ∃ mapping, op = .hset jobId mapping ∧ mapping.state = some .completed := by
  have none_ {rest : List String} : ¬ (next rest).Reporting jobId := by
    cases rest <;> exact id
  revert reports
  cases row with
  | @query outcome =>
      cases outcome with
      | ok ids => exact fun reports => (none_ reports).elim
      | error exception => exact False.elim
  | @fetch messageId rest outcome =>
      cases outcome with
      | ok messages =>
          cases messages with
          | nil => exact fun reports => (none_ reports).elim
          | cons message others => exact fun reports => by cases reports.2
      | error exception => exact False.elim
  | @process message stage rest _ _ later row =>
      refine Stage.within_cases (motive := fun later => Reporting jobId later → _) ?_ ?_ ?_
      · rintro _ ⟨rfl, reports⟩
        rcases Stage.reporting_row row reports with ⟨before, other⟩ | written
        · exact .inl ⟨⟨rfl, before⟩, other⟩
        · exact .inr written
      · exact fun _ reports => (none_ reports).elim
      · exact fun _ _ => False.elim

theorem reporting_of_sends (row : Move self stage op outcome later) {url : String} {payload : WebhookPayload}
    (same : op = .sendResult url payload) : stage.Reporting payload.jobId := by
  cases row with
  | process row =>
      refine ⟨?_, Stage.reporting_of_concludes row same⟩
      cases row with
      | report =>
          cases same
          rfl
      | _ => cases same
  | _ => cases same

end RecoveryStage

/-! ### A batch -/

/-- How many of the jobs are this one. -/
def accepted (jobId : String) (parsed : List ParsedJob) : Nat :=
  parsed.countP fun job => job.jobId = jobId

/-- How many of the messages carry this job. -/
def carriers (jobId : String) (messages : List StreamMessage) : Nat :=
  messages.countP (StreamMessage.carries jobId)

namespace BatchStage

/-- How many parts of a batch may still do something about this job. -/
def engagement (jobId : String) : BatchStage → Nat
  | .lookUp _ parsed _ | .dismiss _ parsed _ | .busy parsed | .mark _ _ parsed | .run parsed
  | .spawn parsed _ => accepted jobId parsed
  | .pickUpFlag message parsed _ | .drop message parsed _ =>
      accepted jobId parsed + if message.job.jobId = jobId then 1 else 0
  | .process message stage _ => stage.engagement jobId message
  | .called | .ended _ => 0

/-- How many parts of a batch may come to do something about this job. -/
def potential (jobId : String) : BatchStage → Nat
  | .lookUp message parsed todo | .pickUpFlag message parsed todo | .drop message parsed todo =>
      accepted jobId parsed + (if message.job.jobId = jobId then 1 else 0) + carriers jobId todo
  | .dismiss _ parsed todo => accepted jobId parsed + carriers jobId todo
  | stage => stage.engagement jobId

/-- The jobs still to be marked are among the accepted ones. -/
def Marks : BatchStage → Prop
  | .mark job todo parsed => ∀ other ∈ job :: todo, other ∈ parsed
  | _ => True

/-- The fallback of a batch is about to report this job. -/
def Reporting (jobId : String) : BatchStage → Prop
  | .process message stage _ => message.job.jobId = jobId ∧ stage.reporting = true
  | _ => False

variable {self : Consumer} {messages : List StreamMessage} {stage later : BatchStage} {op : Op}
variable {outcome : Except Exc op.Reply} {jobId : String}

theorem engagement_each {rest : List StreamMessage} : (each rest).engagement jobId = 0 := by
  apply each_cases (motive := fun stage => engagement jobId stage = 0)
  · rfl
  · exact fun _ _ _ => Stage.engagement_spent rfl

theorem engagement_parse (parsed : List ParsedJob) (todo : List StreamMessage) :
    (parse parsed todo).engagement jobId ≤ accepted jobId parsed := by
  apply parse_cases (motive := fun stage => engagement jobId stage ≤ accepted jobId parsed) <;> intros
  all_goals first | exact Nat.le_refl _ | exact Nat.zero_le _

theorem potential_parse (parsed : List ParsedJob) (todo : List StreamMessage) :
    (parse parsed todo).potential jobId ≤ accepted jobId parsed + carriers jobId todo := by
  apply parse_cases
    (motive := fun stage => potential jobId stage ≤ accepted jobId parsed + carriers jobId todo)
  · exact Nat.zero_le _
  · exact Nat.le_add_right _ _
  · exact fun _ => Nat.zero_le _
  · rintro message rest rfl -
    simp only [potential, carriers, List.countP_cons]
    omega
  · rintro message rest job rfl reading
    have same := StreamMessage.carries_of_read reading jobId
    simp only [potential, carriers, List.countP_cons, same, decide_eq_true_eq]
    omega

theorem engagement_marking (parsed todo : List ParsedJob) :
    (marking self messages parsed todo).engagement jobId ≤ accepted jobId parsed := by
  apply marking_cases (motive := fun stage => engagement jobId stage ≤ accepted jobId parsed)
  · exact Nat.le_refl _
  · rw [engagement_each]
    exact Nat.zero_le _
  · exact fun _ _ _ => Nat.le_refl _

theorem accepted_snoc (parsed : List ParsedJob) (job : ParsedJob) :
    accepted jobId (parsed ++ [job]) = accepted jobId parsed + if job.jobId = jobId then 1 else 0 := by
  simp [accepted, List.countP_append, List.countP_singleton]

theorem engagement_accept (message : StreamMessage) (parsed : List ParsedJob) (todo : List StreamMessage) :
    (accept self message parsed todo).engagement jobId ≤
      accepted jobId parsed + if message.job.jobId = jobId then 1 else 0 := by
  unfold accept
  split
  · exact Nat.le_add_right _ _
  · exact Nat.le_trans (engagement_parse _ todo) (Nat.le_of_eq (accepted_snoc parsed _))

theorem engagement_le_potential : stage.engagement jobId ≤ stage.potential jobId := by
  cases stage <;> simp only [engagement, potential] <;> omega

/-- A look-up that lets a message pass has not found its job settled. -/
theorem unsettled_of_row {message : StreamMessage} {parsed : List ParsedJob} {todo : List StreamMessage}
    (row : Move self messages (.lookUp message parsed todo) op outcome later)
    (target : later = .pickUpFlag message parsed todo) (finds : op.FindsFinal jobId outcome) :
    message.job.jobId ≠ jobId := by
  cases row with
  | clock => cases target
  | @lookUp _ _ _ outcome =>
      cases outcome with
      | error exception => cases target
      | ok state =>
          simp only [afterCall] at target
          split at target
          · cases target
          · rename_i unsettled
            exact fun same => unsettled (finds same)

/-- A batch takes a job up only after a look-up. -/
theorem engagement_row (row : Move self messages stage op outcome later)
    (finds : op.FindsFinal jobId outcome) : later.engagement jobId ≤ stage.engagement jobId := by
  rcases row.leads with leads | ⟨_, _, _, -, -, -, rfl⟩ | ⟨message, inner, rest, later, rfl, moved, rfl⟩
  · cases leads with
    | called => exact engagement_parse [] messages
    | unsettled => simp [engagement, unsettled_of_row row rfl finds]
    | accepted => exact engagement_accept _ _ _
    | dropped => exact Nat.le_add_right _ _
    | dismissed => exact engagement_parse _ _
    | busy | marked => exact engagement_marking _ _
    | fellBack =>
        rw [engagement_each]
        exact Nat.zero_le _
    | failed => exact Nat.zero_le _
    | final | flagged | ran | stayed => exact Nat.le_refl _
  · exact Nat.zero_le _
  · have bound := Stage.engagement_row moved finds
    refine Stage.within_cases (motive := fun later => engagement jobId later ≤ _) ?_ ?_ ?_
    · exact fun _ => bound
    · intro _
      rw [engagement_each]
      exact Nat.zero_le _
    · exact fun _ _ => Nat.zero_le _

theorem accepted_pos {parsed : List ParsedJob} {job : ParsedJob} (member : job ∈ parsed) :
    0 < accepted job.jobId parsed :=
  List.countP_pos_iff.mpr ⟨job, member, decide_eq_true rfl⟩

/-- Only a batch that has accepted the job, or is about to drop it, touches it. -/
theorem engagement_of_touches (row : Move self messages stage op outcome later) (marks : stage.Marks)
    (touches : op.touches jobId = true) : 0 < stage.engagement jobId := by
  cases row with
  | @drop message parsed todo =>
      obtain rfl : message.job.jobId = jobId := of_decide_eq_true touches
      simp [engagement]
  | @mark job todo parsed =>
      obtain rfl : job.jobId = jobId := of_decide_eq_true touches
      exact accepted_pos (marks job List.mem_cons_self)
  | @run parsed =>
      obtain ⟨entry, listed, same⟩ := List.any_eq_true.mp touches
      obtain ⟨job, member, rfl⟩ := List.mem_map.mp listed
      obtain rfl : job.jobId = jobId := of_decide_eq_true same
      exact accepted_pos member
  | process row =>
      rw [engagement, Stage.engagement_of_touches row touches]
      exact Nat.one_pos
  | _ => cases touches

theorem engagement_of_concludes (row : Move self messages stage op outcome later)
    (concludes : op.concludes jobId = true) (answered : outcome.isOk = true) :
    later.engagement jobId + 1 = stage.engagement jobId := by
  cases row with
  | @drop message parsed todo now outcome =>
      simp only [Op.concludes, decide_eq_true_eq] at concludes
      cases outcome with
      | ok value => simp [afterSafe, engagement, concludes.1]
      | error exception => cases answered
  | mark => simp [Op.concludes] at concludes
  | @process message stage rest _ _ later row =>
      have used := Stage.engagement_of_concludes row concludes answered
      refine Stage.within_cases (motive := fun later => engagement jobId later + 1 = _) ?_ ?_ ?_
      · exact fun _ => used
      · rintro rfl
        rw [engagement_each]
        rw [Stage.engagement_spent rfl] at used
        exact used
      · rintro exception rfl
        rw [Stage.engagement_spent rfl] at used
        exact used
  | _ => cases concludes

theorem marks_parse {parsed : List ParsedJob} {todo : List StreamMessage} : (parse parsed todo).Marks := by
  apply parse_cases (motive := Marks) <;> intros <;> trivial

theorem marks_each {rest : List StreamMessage} : (each rest).Marks := by
  apply each_cases (motive := Marks) <;> intros <;> trivial

theorem marks_marking {parsed todo : List ParsedJob} (within : ∀ job ∈ todo, job ∈ parsed) :
    (marking self messages parsed todo).Marks := by
  apply marking_cases (motive := Marks)
  · trivial
  · exact marks_each
  · rintro job rest rfl
    exact within

/-- The jobs still to be marked stay among the accepted ones. -/
theorem Marks.row (row : Move self messages stage op outcome later) (marks : stage.Marks) : later.Marks := by
  rcases row.leads with leads | ⟨_, _, _, -, -, -, rfl⟩ | ⟨message, inner, rest, later, rfl, -, rfl⟩
  · cases leads with
    | stayed => exact marks
    | called | dismissed => exact marks_parse
    | accepted =>
        unfold accept
        split
        · trivial
        · exact marks_parse
    | busy => exact marks_marking fun _ member => member
    | marked => exact marks_marking (List.forall_mem_cons.mp marks).2
    | fellBack => exact marks_each
    | _ => trivial
  · trivial
  · refine Stage.within_cases (motive := Marks) ?_ ?_ ?_
    · exact fun _ => trivial
    · exact fun _ => marks_each
    · exact fun _ _ => trivial

theorem not_reporting_parse {parsed : List ParsedJob} {todo : List StreamMessage} :
    ¬ (parse parsed todo).Reporting jobId := by
  apply parse_cases (motive := fun stage => ¬ stage.Reporting jobId) <;> intros <;> exact id

theorem not_reporting_each {rest : List StreamMessage} : ¬ (each rest).Reporting jobId := by
  apply each_cases (motive := fun stage => ¬ stage.Reporting jobId)
  · exact id
  · exact fun _ _ _ reports => by cases reports.2

theorem not_reporting_marking {parsed todo : List ParsedJob} :
    ¬ (marking self messages parsed todo).Reporting jobId := by
  apply marking_cases (motive := fun stage => ¬ stage.Reporting jobId)
  · exact id
  · exact not_reporting_each
  · exact fun _ _ _ => id

theorem not_hset_of_reporting (row : Move self messages stage op outcome later)
    (reports : stage.Reporting jobId) : ∀ id mapping, op ≠ .hset id mapping := by
  cases row with
  | process moved => exact Stage.not_hset_of_reporting moved reports.2
  | clock => simp
  | _ => exact reports.elim

theorem Reporting.row (row : Move self messages stage op outcome later) (reports : later.Reporting jobId) :
    stage.Reporting jobId ∧ (∀ id mapping, op ≠ .hset id mapping) ∨
      ∃ mapping, op = .hset jobId mapping ∧ mapping.state = some .completed := by
  rcases row.leads with leads | ⟨_, _, _, -, -, -, rfl⟩ | ⟨message, inner, rest, later, rfl, moved, rfl⟩
  · cases leads with
    | stayed => exact .inl ⟨reports, not_hset_of_reporting row reports⟩
    | called | dismissed => exact (not_reporting_parse reports).elim
    | accepted =>
        unfold accept at reports
        split at reports
        · exact reports.elim
        · exact (not_reporting_parse reports).elim
    | busy | marked => exact (not_reporting_marking reports).elim
    | fellBack => exact (not_reporting_each reports).elim
    | _ => exact reports.elim
  · exact reports.elim
  · revert reports
    refine Stage.within_cases (motive := fun later => Reporting jobId later → _) ?_ ?_ ?_
    · rintro _ ⟨rfl, reports⟩
      rcases Stage.reporting_row moved reports with ⟨before, other⟩ | written
      · exact .inl ⟨⟨rfl, before⟩, other⟩
      · exact .inr written
    · exact fun _ reports => (not_reporting_each reports).elim
    · exact fun _ _ => False.elim

theorem reporting_of_sends (row : Move self messages stage op outcome later) {url : String}
    {payload : WebhookPayload} (same : op = .sendResult url payload) : stage.Reporting payload.jobId := by
  cases row with
  | process row =>
      refine ⟨?_, Stage.reporting_of_concludes row same⟩
      cases row with
      | report =>
          cases same
          rfl
      | _ => cases same
  | _ => cases same

end BatchStage

end CodaNode
