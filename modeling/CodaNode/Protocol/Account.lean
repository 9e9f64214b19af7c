/-
Module: CodaNode.Protocol.Account
Layer: Protocol
Purpose: The account of a whole crew while only the fetching of messages can fail: the deeds of its main
  coroutine and of every background task, and what the tasks were created for. Every step keeps it, so it
  holds in every pool the coroutines reach.
Imports: CodaNode.Protocol.BatchCourse, CodaNode.Protocol.DeliveryCourse
Main exports: Crew.Account, Crew.Account.step, Crew.Account.reaches
-/
import CodaNode.Protocol.BatchCourse
import CodaNode.Protocol.DeliveryCourse

namespace CodaNode

open Coroutine

namespace Crew

variable {L : Type} {self : Consumer} {policy : Policy} {flags : String → Bool}
variable {move : L → (op : Op) → Except Exc op.Reply → L → Prop}

/-- What is known of a crew: `Sound` of the executor task at the stage of the main coroutine, `Course` of
its deeds. -/
structure Account (consumer : Consumer) (flags : String → Bool) (Sound : Option RunTask → L → Prop)
    (Course : L → List Deed → Prop) (crew : Crew L) : Prop where
  clears : ∀ job, crew.world.redis.cancelled job = false → flags job = false
  foreign : RunForeign crew.world.runTask
  sound : Sound crew.world.runTask crew.main
  staffed : crew.Staffed
  main : Course crew.main (deeds none crew.world.log)
  posts : ∀ post ∈ crew.posts,
    post.Course consumer crew.world.outcomeOf (deeds (some post.number) crew.world.log)
  fresh : ∀ number, crew.posts.length ≤ number → deeds (some number) crew.world.log = []
  hired : ∀ seat spec number, .created spec number ∈ deeds seat crew.world.log →
    crew.world.specs[number]? = some spec
  born : ∀ post ∈ crew.posts, Did crew.world.log (.created post.spec post.number)

/-- The rows of a main coroutine keep what is known of it. -/
structure Accountable (policy : Policy) (flags : String → Bool)
    (move : L → (op : Op) → Except Exc op.Reply → L → Prop)
    (Sound : Option RunTask → L → Prop) (Course : L → List Deed → Prop) : Prop where
  mains : ∀ {stage op outcome later}, move stage op outcome later →
    ∀ number ending, op ≠ .taskDone number ending
  occur : ∀ {stage world event next}, World.occur world event = some next →
    Sound world.runTask stage → Sound next.runTask stage
  sound : ∀ {stage op outcome later world fate next}, move stage op outcome later →
    World.Performs policy world op outcome fate next → Sound world.runTask stage →
      Sound next.runTask later
  course : ∀ {stage op outcome later world fate next here}, move stage op outcome later →
    World.Performs policy world op outcome fate next →
      (∀ job, world.redis.cancelled job = false → flags job = false) → RunForeign world.runTask →
      Sound world.runTask stage → Course stage here →
        Course later (here ++ (op.deed outcome).toList)

variable {Sound : Option RunTask → L → Prop} {Course : L → List Deed → Prop}

/-- A created task gets the number its creator records. -/
private theorem hired_of_performs {world next : World} {role : Role} {op : Op}
    {outcome : Except Exc op.Reply} {fate : Fate}
    (performs : World.Performs policy world op outcome fate next)
    (hired : ∀ seat spec number, .created spec number ∈ deeds seat world.log →
      world.specs[number]? = some spec) {seat : Option Nat} {spec : TaskSpec} {number : Nat}
    (member : .created spec number ∈ deeds seat (next.recordCall role op outcome fate).log) :
    (next.recordCall role op outcome fate).specs[number]? = some spec := by
  rw [World.specs, World.recordCall_tasks]
  change next.specs[number]? = some spec
  have old (member : .created spec number ∈ deeds seat world.log) : next.specs[number]? = some spec := by
    have found := hired seat spec number member
    obtain ⟨more, grown⟩ := World.specs_of_performs performs
    obtain ⟨bound, -⟩ := List.getElem?_eq_some_iff.mp found
    rw [grown, List.getElem?_append_left bound, found]
  by_cases here : role.seat = seat
  · rw [deeds_of_performs performs here] at member
    rcases List.mem_append.mp member with before | new
    · exact old before
    · have deed : op.deed outcome = some (.created spec number) := Option.mem_toList.mp new
      unfold Op.deed at deed
      split at deed <;> cases deed
      obtain ⟨same, -, rfl⟩ := World.createTask_performs performs
      cases same
      simp [World.specs]
  · rw [deeds_of_other performs here] at member
    exact old member

/-- Every task was created by some task. -/
private theorem born_of_performs {crew : Crew L} {next : World} {role : Role} {op : Op}
    {outcome : Except Exc op.Reply} {fate : Fate}
    (performs : World.Performs policy crew.world op outcome fate next)
    (born : ∀ post ∈ crew.posts, Did crew.world.log (.created post.spec post.number)) {post : Post}
    (member : post ∈ crew.posts ++ crew.world.created op) :
    Did (next.recordCall role op outcome fate).log (.created post.spec post.number) := by
  rcases List.mem_append.mp member with old | new
  · obtain ⟨seat, found⟩ := born post old
    refine ⟨seat, ?_⟩
    by_cases here : role.seat = seat
    · rw [deeds_of_performs performs here]
      exact List.mem_append_left _ found
    · rw [deeds_of_other performs here]
      exact found
  · cases op with
    | createTask spec =>
        obtain ⟨rfl, -, rfl⟩ := World.createTask_performs performs
        refine ⟨role.seat, ?_⟩
        rw [deeds_of_performs performs rfl, List.mem_singleton.mp new, Post.fresh_spec, Post.fresh_number]
        exact List.mem_append_right _ List.mem_cons_self
    | _ => cases new

/-- What a step of one task does to the rest of the account. -/
private theorem Account.others {first : Crew L} (account : Account self flags Sound Course first)
    {next : World} {role : Role} {op : Op} {outcome : Except Exc op.Reply} {fate : Fate}
    (performs : World.Performs policy first.world op outcome fate next)
    (running : ∀ number ending, op = .taskDone number ending → first.world.outcomeOf number = none)
    {post : Post} (member : post ∈ first.posts) (elsewhere : role.seat ≠ some post.number) :
    post.Course self next.outcomeOf
      (deeds (some post.number) (next.recordCall role op outcome fate).log) := by
  rw [deeds_of_other performs elsewhere]
  exact (account.posts post member).grow fun ended =>
    World.outcomeOf_of_performs performs running ended

private theorem Account.created {first : Crew L} (account : Account self flags Sound Course first)
    {next : World} {role : Role} {op : Op} {outcome : Except Exc op.Reply} {fate : Fate}
    (performs : World.Performs policy first.world op outcome fate next)
    (older : ∀ number, role.seat = some number → number < first.posts.length) {post : Post}
    (member : post ∈ first.world.created op) :
    post.Course self next.outcomeOf
      (deeds (some post.number) (next.recordCall role op outcome fate).log) := by
  cases op with
  | createTask spec =>
      rw [List.mem_singleton.mp member, Post.fresh_number]
      have size : first.world.tasks.length = first.posts.length := by
        rw [account.staffed.roster.records, List.length_map]
      rw [deeds_of_other performs, account.fresh _ (Nat.le_of_eq size.symm)]
      · exact Post.course_fresh ..
      · intro same
        have bound := older _ same
        omega
  | _ => cases member

private theorem Account.fresh_of_performs {first : Crew L} (account : Account self flags Sound Course first)
    {next : World} {role : Role} {op : Op} {outcome : Except Exc op.Reply} {fate : Fate}
    (performs : World.Performs policy first.world op outcome fate next)
    (older : ∀ number, role.seat = some number → number < first.posts.length) {number : Nat}
    (bound : first.posts.length ≤ number) :
    deeds (some number) (next.recordCall role op outcome fate).log = [] := by
  rw [deeds_of_other performs, account.fresh number bound]
  intro same
  have before := older number same
  omega

theorem Account.step (undisturbed : policy.Undisturbed)
    (accountable : Accountable policy flags move Sound Course) {first second : Crew L}
    (step : Step self policy move first second) (account : Account self flags Sound Course first) :
    Account self flags Sound Course second := by
  have staffed := account.staffed.step undisturbed accountable.mains step
  have sound := sound_step accountable.occur accountable.sound step account.sound
  cases step with
  | @env world next stage posts event _ occurs =>
      have same (seat : Option Nat) : deeds seat (next.record (.env event)).log = deeds seat world.log :=
        deeds_of_occur occurs
      refine ⟨?_, ?_, sound, staffed, ?_, ?_, ?_, ?_, ?_⟩
      · intro job clear
        apply account.clears
        exact World.unflagged_of_occur occurs clear
      · change RunForeign (next.record (.env event)).runTask
        rw [World.record_runTask]
        exact RunForeign.occur occurs account.foreign
      · change Course stage (deeds none (next.record (.env event)).log)
        rw [same]
        exact account.main
      · intro post member
        change post.Course self next.outcomeOf (deeds _ (next.record (.env event)).log)
        rw [World.outcomeOf_of_occur occurs, same]
        exact account.posts post member
      · intro number bound
        change deeds _ (next.record (.env event)).log = []
        rw [same]
        exact account.fresh number bound
      · intro seat spec number member
        change .created spec number ∈ deeds _ (next.record (.env event)).log at member
        rw [same] at member
        change (World.specs (next.record (.env event)))[number]? = some spec
        rw [World.specs, World.record_tasks, World.tasks_of_occur occurs]
        exact account.hired seat spec number member
      · intro post member
        obtain ⟨seat, found⟩ := account.born post member
        exact ⟨seat, (same seat).symm ▸ found⟩
  | @main world next stage later posts op outcome fate row performs =>
      have running : ∀ number ending, op = .taskDone number ending → world.outcomeOf number = none :=
        fun number ending same => absurd same (accountable.mains row number ending)
      have older : ∀ number, Role.seat .loop = some number → number < posts.length :=
        fun _ same => by cases same
      refine ⟨?_, ?_, sound, staffed, ?_, ?_, ?_, ?_, ?_⟩
      · change ∀ job, (World.recordCall _ _ _ _ _).redis.cancelled job = false → _
        rw [World.recordCall_redis, World.cancelled_of_performs performs]
        exact account.clears
      · change RunForeign (World.recordCall _ _ _ _ _).runTask
        rw [World.recordCall_runTask]
        exact account.foreign.performs performs
      · change Course later (deeds none (World.recordCall _ _ _ _ _).log)
        rw [deeds_of_performs performs (show Role.loop.seat = none from rfl)]
        exact accountable.course row performs account.clears account.foreign account.sound account.main
      · intro post member
        change post.Course self (World.recordCall _ _ _ _ _).outcomeOf _
        rw [show (next.recordCall .loop op outcome fate).outcomeOf = next.outcomeOf by
          funext number; rw [World.outcomeOf, World.outcomeOf, World.recordCall_tasks]]
        rcases List.mem_append.mp member with old | new
        · exact account.others performs running old fun same => by cases same
        · exact account.created performs older new
      · intro number bound
        have shorter : posts.length ≤ number := by
          simp only [List.length_append] at bound
          omega
        exact account.fresh_of_performs performs older shorter
      · intro seat spec number member
        exact hired_of_performs performs account.hired member
      · intro post member
        exact born_of_performs performs account.born member
  | @post world next stage before after post later op outcome fate row performs =>
      have number := account.staffed.roster.number_eq
      have inside : post ∈ before ++ post :: after := by simp
      have running := account.staffed.roster.running row
      have older : ∀ number, post.role.seat = some number →
          number < (before ++ post :: after).length := by
        intro other same
        cases same
        rw [number, List.length_append, List.length_cons]
        omega
      have outcomes : (next.recordCall post.role op outcome fate).outcomeOf = next.outcomeOf := by
        funext number
        rw [World.outcomeOf, World.outcomeOf, World.recordCall_tasks]
      refine ⟨?_, ?_, sound, staffed, ?_, ?_, ?_, ?_, ?_⟩
      · change ∀ job, (World.recordCall _ _ _ _ _).redis.cancelled job = false → _
        rw [World.recordCall_redis, World.cancelled_of_performs performs]
        exact account.clears
      · change RunForeign (World.recordCall _ _ _ _ _).runTask
        rw [World.recordCall_runTask]
        exact account.foreign.performs performs
      · change Course stage (deeds none (World.recordCall _ _ _ _ _).log)
        rw [deeds_of_other performs (show post.role.seat ≠ none from Option.some_ne_none _)]
        exact account.main
      · have others {other : Post} (member : other ∈ before ++ post :: after)
            (distinct : other.number ≠ post.number) :
            other.Course self next.outcomeOf
              (deeds (some other.number) (next.recordCall post.role op outcome fate).log) :=
          account.others performs running member fun same => distinct (Option.some.inj same).symm
        have apart {other : Post} (member : other ∈ before ++ post :: after)
            (elsewhere : other ∈ before ∨ other ∈ after) : other.number ≠ post.number := by
          intro same
          have numbers : ((before ++ post :: after).map Post.number).Nodup := by
            rw [account.staffed.roster.numbers]
            exact List.nodup_range
          rw [List.map_append, List.map_cons, List.nodup_middle, List.nodup_cons] at numbers
          apply numbers.1
          rw [← same, ← List.map_append]
          exact List.mem_map_of_mem (List.mem_append.mpr elsewhere)
        have moved : later.Course self next.outcomeOf
            (deeds (some later.number) (next.recordCall post.role op outcome fate).log) := by
          rw [row.number_eq, deeds_of_performs performs (show post.role.seat = some post.number from rfl)]
          have kept : later.Sound next.specs := by
            have last := staffed.posts later (by simp)
            change later.Sound (World.specs (World.recordCall _ _ _ _ _)) at last
            rw [World.specs, World.recordCall_tasks] at last
            exact last
          exact (account.posts post inside).row undisturbed row performs running
            (account.staffed.posts post inside) kept
        intro other member
        change other.Course self (World.recordCall _ _ _ _ _).outcomeOf _
        rw [outcomes]
        rcases List.mem_append.mp member with here | new
        · rcases List.mem_append.mp here with front | back
          · exact others (List.mem_append_left _ front) (apart (List.mem_append_left _ front) (.inl front))
          · rcases List.mem_cons.mp back with rfl | behind
            · exact moved
            · have member := List.mem_append_right before (List.mem_cons_of_mem post behind)
              exact others member (apart member (.inr behind))
        · exact account.created performs older new
      · intro number bound
        have shorter : (before ++ post :: after).length ≤ number := by
          simp only [List.length_append, List.length_cons] at bound ⊢
          omega
        exact account.fresh_of_performs performs older shorter
      · intro seat spec number member
        exact hired_of_performs performs account.hired member
      · intro other member
        have before_ : ∃ older ∈ (before ++ post :: after) ++ world.created op,
            older.spec = other.spec ∧ older.number = other.number := by
          rcases List.mem_append.mp member with here | new
          · rcases List.mem_append.mp here with front | back
            · exact ⟨other, by simp [front], rfl, rfl⟩
            · rcases List.mem_cons.mp back with rfl | behind
              · exact ⟨post, by simp, row.spec_eq.symm, row.number_eq.symm⟩
              · exact ⟨other, by simp [behind], rfl, rfl⟩
          · exact ⟨other, List.mem_append_right _ new, rfl, rfl⟩
        obtain ⟨older, member, spec, number⟩ := before_
        rw [← spec, ← number]
        exact born_of_performs performs account.born member

/-- The account of a crew that has not done anything. -/
theorem Account.start {redis : Redis} {start : L} (sound : Sound none start) (course : Course start []) :
    Account self redis.cancelled Sound Course ⟨{ redis := redis }, start, []⟩ where
  clears _ clear := clear
  foreign _ none := by cases none
  sound := sound
  staffed := ⟨⟨rfl, rfl⟩, fun _ member => by cases member⟩
  main := course
  posts _ member := by cases member
  fresh _ _ := rfl
  hired _ _ _ member := by cases member
  born _ member := by cases member

/-- What every step of a crew with an account keeps holds in every pool the coroutines reach. -/
theorem Account.reaches_with (undisturbed : policy.Undisturbed) {redis : Redis}
    (accountable : Accountable policy redis.cancelled move Sound Course)
    {past : Except Exc Unit → L → Prop} {start : L} {body : Task Unit}
    (follows : Follows move (fun _ => past (.ok ())) (fun exception => past (.error exception)) body start)
    (sound : Sound none start) (course : Course start []) {extra : Crew L → Prop}
    (kept : ∀ {first second}, Step self policy move first second →
      Account self redis.cancelled Sound Course first → extra first → extra second)
    (here : extra ⟨{ redis := redis }, start, []⟩) {system : System}
    (reaches : Pool.Reaches (machine self policy) (Pool.single { redis := redis } .loop body) system) :
    ∃ crew, Stands self policy move past start system crew ∧
      Account self redis.cancelled Sound Course crew ∧ extra crew := by
  exact follows.reaches
    (fun step held => ⟨held.1.step undisturbed accountable step, kept step held.1 held.2⟩)
    ⟨.start sound course, here⟩ reaches

/-- The account holds in every pool the coroutines reach. -/
theorem Account.reaches (undisturbed : policy.Undisturbed) {redis : Redis}
    (accountable : Accountable policy redis.cancelled move Sound Course)
    {past : Except Exc Unit → L → Prop} {start : L} {body : Task Unit}
    (follows : Follows move (fun _ => past (.ok ())) (fun exception => past (.error exception)) body start)
    (sound : Sound none start) (course : Course start []) {system : System}
    (reaches : Pool.Reaches (machine self policy) (Pool.single { redis := redis } .loop body) system) :
    ∃ crew, Stands self policy move past start system crew ∧
      Account self redis.cancelled Sound Course crew := by
  obtain ⟨crew, stands, account, -⟩ :=
    Account.reaches_with undisturbed accountable follows sound course
      (fun _ _ (here : True) => here) trivial reaches
  exact ⟨crew, stands, account⟩

/-! ### Deliveries that have ended -/

/-- A task of the table stands at its stage. -/
theorem Roster.post_of_spec {crew : Crew L} (roster : crew.Roster) {number : Nat} {spec : TaskSpec}
    (found : crew.world.specs[number]? = some spec) :
    ∃ post ∈ crew.posts, post.number = number ∧ post.spec = spec ∧
      crew.world.outcomeOf number = post.ending := by
  have here := found
  rw [World.specs, List.getElem?_map] at here
  obtain ⟨record, listed, rfl⟩ := Option.map_eq_some_iff.mp here
  obtain ⟨post, member, numbered, rfl⟩ := roster.post_of_record listed
  refine ⟨post, member, numbered, rfl, ?_⟩
  rw [World.outcomeOf, listed]
  rfl

/-- The task of a batch that has ended has waited for its deliveries, or the results did not match. -/
theorem Account.gathered {crew : Crew L} (account : Account self flags Sound Course crew)
    (ended : ∀ post ∈ crew.posts, post.ending.isSome = true) {parsed : List ParsedJob}
    {results : List ExecutionResult} {number : Nat} {seat : Option Nat}
    (handed : .created (.deliverBatch parsed results) number ∈ deeds seat crew.world.log) :
    (parsed.length = results.length ∧ ∃ nowIso deliveries numbers,
        zipStrict parsed results nowIso = .ok deliveries ∧
        Created deliveries numbers (deeds (some number) crew.world.log) ∧
        ∀ number ∈ numbers, crew.world.outcomeOf number = some (.ok ())) ∨
      (parsed.length ≠ results.length ∧ deeds (some number) crew.world.log = []) := by
  obtain ⟨post, member, numbered, spec, outcome⟩ :=
    account.staffed.roster.post_of_spec (account.hired seat _ number handed)
  have course := account.posts post member
  have sound := account.staffed.posts post member
  rw [numbered] at course
  cases post with
  | single => cases spec
  | gather _ _ _ stage =>
      cases spec
      cases stage with
      | past ending =>
          cases ending with
          | ok value =>
              obtain ⟨nowIso, deliveries, numbers, zipped, created, finished⟩ := course
              refine .inl ⟨?_, nowIso, deliveries, numbers, zipped, created, finished⟩
              by_contra different
              unfold zipStrict at zipped
              rw [if_neg different] at zipped
              split at zipped <;> cases zipped
          | error exception => exact .inr ⟨sound.1, course⟩
      | _ => cases ended _ member

/-- A task for one result that has ended has done its work. -/
theorem Account.delivered {crew : Crew L} (account : Account self flags Sound Course crew) {number : Nat}
    {delivery : Delivery} {seat : Option Nat}
    (handed : .created (.deliverSingle delivery) number ∈ deeds seat crew.world.log)
    (ended : crew.world.outcomeOf number = some (.ok ())) :
    Delivered self delivery (deeds (some number) crew.world.log) := by
  obtain ⟨post, member, numbered, spec, outcome⟩ :=
    account.staffed.roster.post_of_spec (account.hired seat _ number handed)
  have course := account.posts post member
  rw [numbered] at course
  rw [ended] at outcome
  cases post with
  | gather => cases spec
  | single _ _ stage =>
      cases spec
      cases stage with
      | past ending =>
          cases outcome
          cases course with
          | past delivered => exact delivered
      | _ => cases outcome

end Crew

theorem Created.mem {deliveries : List Delivery} {numbers : List Nat} {here : List Deed}
    (created : Created deliveries numbers here) {delivery : Delivery} (member : delivery ∈ deliveries) :
    ∃ number ∈ numbers, .created (.deliverSingle delivery) number ∈ here := by
  induction created with
  | nil => cases member
  | snoc last number _ inductionHypothesis =>
      rcases List.mem_append.mp member with old | new
      · obtain ⟨other, listed, found⟩ := inductionHypothesis old
        exact ⟨other, List.mem_append_left _ listed, List.mem_append_left _ found⟩
      · rw [List.mem_singleton.mp new]
        exact ⟨number, by simp, by simp⟩

/-- Every job gets a result. -/
theorem mem_of_zipStrict {parsed : List ParsedJob} {results : List ExecutionResult} {nowIso : String}
    {deliveries : List Delivery} (zipped : zipStrict parsed results nowIso = .ok deliveries)
    {job : ParsedJob} (member : job ∈ parsed) :
    ∃ result ∈ results, ⟨job.messageId, job.jobId, job.callbackUrl, result, nowIso⟩ ∈ deliveries := by
  unfold zipStrict at zipped
  split at zipped
  · rename_i same
    cases zipped
    obtain ⟨index, bound, rfl⟩ := List.mem_iff_getElem.mp member
    refine ⟨results[index], List.getElem_mem _, ?_⟩
    rw [List.mem_iff_getElem]
    refine ⟨index, ?_, ?_⟩
    · rw [List.length_zipWith]
      omega
    · rw [List.getElem_zipWith]
  · split at zipped <;> cases zipped

/-- Every delivery is for a job. -/
theorem job_of_zipStrict {parsed : List ParsedJob} {results : List ExecutionResult} {nowIso : String}
    {deliveries : List Delivery} (zipped : zipStrict parsed results nowIso = .ok deliveries)
    {delivery : Delivery} (member : delivery ∈ deliveries) :
    ∃ job ∈ parsed, ∃ result ∈ results,
      delivery = ⟨job.messageId, job.jobId, job.callbackUrl, result, nowIso⟩ := by
  unfold zipStrict at zipped
  split at zipped
  · cases zipped
    obtain ⟨index, bound, rfl⟩ := List.mem_iff_getElem.mp member
    rw [List.length_zipWith] at bound
    refine ⟨parsed[index], List.getElem_mem _, results[index], List.getElem_mem _, ?_⟩
    rw [List.getElem_zipWith]
  · split at zipped <;> cases zipped

theorem Created.delivery_of_mem {deliveries : List Delivery} {numbers : List Nat} {here : List Deed}
    (created : Created deliveries numbers here) {spec : TaskSpec} {number : Nat}
    (member : .created spec number ∈ here) : ∃ delivery ∈ deliveries, spec = .deliverSingle delivery := by
  induction created with
  | nil => cases member
  | snoc last other _ inductionHypothesis =>
      rcases List.mem_append.mp member with old | new
      · obtain ⟨delivery, listed, same⟩ := inductionHypothesis old
        exact ⟨delivery, List.mem_append_left _ listed, same⟩
      · cases List.mem_singleton.mp new
        exact ⟨last, by simp, rfl⟩

namespace Crew

variable {L : Type} {self : Consumer} {flags : String → Bool} {Sound : Option RunTask → L → Prop}
variable {Course : L → List Deed → Prop} {crew : Crew L}

/-- The background task that has done something. -/
theorem Account.post_of_deed (account : Account self flags Sound Course crew) {number : Nat} {deed : Deed}
    (member : deed ∈ deeds (some number) crew.world.log) : ∃ post ∈ crew.posts, post.number = number := by
  have bound : number < crew.posts.length := by
    by_contra large
    rw [account.fresh number (Nat.le_of_not_lt large)] at member
    cases member
  have listed : number ∈ crew.posts.map Post.number := by
    rw [account.staffed.roster.numbers]
    exact List.mem_range.mpr bound
  obtain ⟨post, inPosts, same⟩ := List.mem_map.mp listed
  exact ⟨post, inPosts, same⟩

/-- A background task creates tasks only if it is one for a batch, and they are for its deliveries. -/
theorem Account.created_by_task (account : Account self flags Sound Course crew) {creator number : Nat}
    {spec : TaskSpec} (member : .created spec number ∈ deeds (some creator) crew.world.log) :
    ∃ parsed results stage nowIso deliveries, .gather creator parsed results stage ∈ crew.posts ∧
      zipStrict parsed results nowIso = .ok deliveries ∧
        ∃ delivery ∈ deliveries, spec = .deliverSingle delivery := by
  obtain ⟨post, inPosts, rfl⟩ := account.post_of_deed member
  have course := account.posts post inPosts
  generalize deeds (some post.number) crew.world.log = here at member course
  cases post with
  | single number delivery stage =>
      exact absurd ((show SingleStage.Course self delivery stage here from course).ofDelivery _ member) id
  | gather number parsed results stage =>
      have made {nowIso : String} {done todo : List Delivery} {numbers : List Nat}
          (zipped : zipStrict parsed results nowIso = .ok (done ++ todo))
          (created : Created done numbers here) :
          ∃ parsed' results' stage' nowIso deliveries,
            Post.gather number parsed' results' stage' ∈ crew.posts ∧
            zipStrict parsed' results' nowIso = .ok deliveries ∧
              ∃ delivery ∈ deliveries, spec = .deliverSingle delivery := by
        obtain ⟨delivery, inDone, same⟩ := Created.delivery_of_mem created member
        exact ⟨parsed, results, stage, nowIso, _, inPosts, zipped, delivery,
          List.mem_append_left _ inDone, same⟩
      change stage.Course crew.world.outcomeOf parsed results here at course
      cases stage with
      | start | clock =>
          cases course
          cases member
      | spawn nowIso numbers delivery todo =>
          obtain ⟨done, zipped, created⟩ := course
          exact made zipped created
      | gather nowIso numbers =>
          obtain ⟨deliveries, zipped, created⟩ := course
          exact made ((List.append_nil deliveries).symm ▸ zipped) created
      | stamp =>
          obtain ⟨nowIso, deliveries, numbers, zipped, created, -⟩ := course
          exact made ((List.append_nil deliveries).symm ▸ zipped) created
      | release ending | finish ending | past ending =>
          cases ending with
          | error exception =>
              cases course
              cases member
          | ok value =>
              obtain ⟨nowIso, deliveries, numbers, zipped, created, -⟩ := course
              exact made ((List.append_nil deliveries).symm ▸ zipped) created

/-- The main coroutine has created every task for a batch. -/
theorem Account.gather_origin (account : Account self flags Sound Course crew) {number : Nat}
    {parsed : List ParsedJob} {results : List ExecutionResult} {stage : GatherStage}
    (member : .gather number parsed results stage ∈ crew.posts) :
    .created (.deliverBatch parsed results) number ∈ deeds none crew.world.log := by
  obtain ⟨seat, found⟩ := account.born _ member
  cases seat with
  | none => exact found
  | some creator =>
      obtain ⟨-, -, -, -, -, -, -, delivery, -, same⟩ := account.created_by_task found
      cases same

/-- A task for one result belongs to a batch the main coroutine has handed over, unless the main coroutine
has created it. -/
theorem Account.single_origin (account : Account self flags Sound Course crew) {number : Nat}
    {delivery : Delivery} {stage : SingleStage} (member : .single number delivery stage ∈ crew.posts)
    (apart : ∀ delivery number, .created (.deliverSingle delivery) number ∉ deeds none crew.world.log) :
    ∃ parsed results batch nowIso deliveries,
      .created (.deliverBatch parsed results) batch ∈ deeds none crew.world.log ∧
        zipStrict parsed results nowIso = .ok deliveries ∧ delivery ∈ deliveries := by
  obtain ⟨seat, found⟩ := account.born _ member
  cases seat with
  | none => exact absurd found (apart delivery number)
  | some creator =>
      obtain ⟨parsed, results, stage', nowIso, deliveries, gather, zipped, delivery', listed, same⟩ :=
        account.created_by_task found
      cases same
      exact ⟨parsed, results, creator, nowIso, deliveries, account.gather_origin gather, zipped, listed⟩

end Crew

/-- Once all tasks have ended, every job of a batch with as many results has been delivered. -/
theorem Crew.Account.job_delivered {L : Type} {self : Consumer} {flags : String → Bool} {Sound : Option RunTask → L → Prop}
    {Course : L → List Deed → Prop} {crew : Crew L} (account : Crew.Account self flags Sound Course crew)
    (ended : ∀ post ∈ crew.posts, post.ending.isSome = true) {parsed : List ParsedJob}
    {results : List ExecutionResult} {number : Nat} {seat : Option Nat}
    (handed : .created (.deliverBatch parsed results) number ∈ deeds seat crew.world.log)
    (fits : parsed.length = results.length) {job : ParsedJob} (member : job ∈ parsed) :
    ∃ result ∈ results, ∃ completedAt number,
      Delivered self ⟨job.messageId, job.jobId, job.callbackUrl, result, completedAt⟩
        (deeds (some number) crew.world.log) := by
  rcases account.gathered ended handed with ⟨-, nowIso, deliveries, numbers, zipped, created, finished⟩ |
      ⟨different, -⟩
  · obtain ⟨result, inResults, inDeliveries⟩ := mem_of_zipStrict zipped member
    obtain ⟨other, listed, found⟩ := created.mem inDeliveries
    exact ⟨result, inResults, nowIso, other, account.delivered found (finished other listed)⟩
  · exact absurd fits different

/-! ### The methods -/

section Accountable

variable {self : Consumer} {policy : Policy} {flags : String → Bool}

theorem Stage.accountable (undisturbed : policy.Undisturbed) (message : StreamMessage) :
    Crew.Accountable policy flags (Stage.Move self message message.job)
      (fun runTask stage => stage.Sound message runTask) (Stage.Course self flags message) where
  mains row number ending same := by
    subst same
    cases row.ofMessage
  occur := Stage.Sound.occur
  sound row performs sound := Stage.Sound.row undisturbed row performs sound
  course row performs clears foreign sound course :=
    Stage.Course.row undisturbed row performs clears foreign sound course

theorem BatchStage.accountable (undisturbed : policy.Undisturbed) (messages : List StreamMessage) :
    Crew.Accountable policy flags (BatchStage.Move self messages)
      (fun runTask stage => stage.Sound runTask) (BatchStage.Course self flags messages) where
  mains row number ending same := by
    subst same
    cases row.ofBatch
  occur := BatchStage.Sound.occur
  sound row performs sound := BatchStage.Sound.row undisturbed row performs sound
  course row performs clears foreign sound course :=
    BatchStage.Course.row undisturbed row performs clears foreign sound course

theorem RecoveryStage.accountable (calm : policy.Calm) :
    Crew.Accountable policy flags (RecoveryStage.Move self)
      (fun runTask stage => stage.Sound runTask) (RecoveryStage.Course self flags) where
  mains row number ending same := by
    subst same
    cases row.ofRecovery
  occur := RecoveryStage.Sound.occur
  sound row performs sound := RecoveryStage.Sound.row calm.undisturbed row performs sound
  course row performs clears foreign sound course := RecoveryStage.Course.row calm row performs clears foreign sound course

end Accountable

/-! ### The methods by themselves -/

theorem RunAtRest.none : RunAtRest Option.none := fun _ found => by cases found

section Alone

variable {self : Consumer} {policy : Policy} {redis : Redis} {system : System}

/-- How a call that returns nothing has ended. -/
def Stage.Over (outcome : Except Exc Unit) (stage : Stage) : Prop := stage = .ended outcome

/-- How a batch has ended. -/
def BatchStage.Over : Except Exc Unit → BatchStage → Prop
  | .ok (), stage => ∃ delivery, stage = .ended (.ok delivery)
  | .error exception, stage => stage = .ended (.error exception)

theorem BatchStage.Over.ended {outcome : Except Exc Unit} {stage : BatchStage}
    (past : BatchStage.Over outcome stage) : ∃ ending, stage = .ended ending := by
  cases outcome with
  | ok value =>
      obtain ⟨delivery, same⟩ := past
      exact ⟨_, same⟩
  | error exception => exact ⟨_, past⟩

/-- How a recovery has ended. -/
def RecoveryStage.Over (outcome : Except Exc Unit) (stage : RecoveryStage) : Prop :=
  stage = .ended outcome

/-- A call follows the rows of its message. -/
theorem Stage.follows {message : StreamMessage} :
    Follows (Stage.Move self message message.job) (fun _ => Stage.Over (.ok ()))
      (fun exception => Stage.Over (.error exception)) (processEntry self message) .called := by
  have fits : ∀ other, message.read = .ok (some other) → other = message.job :=
    fun other reading => (StreamMessage.job_of_read reading).symm
  exact Stage.processMessage_tracks fits

/-- A batch follows its rows. -/
theorem BatchStage.follows {messages : List StreamMessage} :
    Follows (BatchStage.Move self messages) (fun _ => BatchStage.Over (.ok ()))
      (fun exception => BatchStage.Over (.error exception)) (discard (processBatch self messages)) .called :=
  Coro.Tracks.bind processBatch_follows fun delivery _ reached => ⟨delivery, reached⟩

/-- A recovery follows its rows. -/
theorem RecoveryStage.follows :
    Follows (RecoveryStage.Move self) (fun _ => RecoveryStage.Over (.ok ()))
      (fun exception => RecoveryStage.Over (.error exception)) (discard (recoverPending self)) .query :=
  Coro.Tracks.bind recoverPending_follows fun _ _ reached => reached

theorem Stage.account (undisturbed : policy.Undisturbed) {message : StreamMessage}
    (reaches : Pool.Reaches (machine self policy)
      (Pool.single { redis := redis } .loop (processEntry self message)) system) :
    ∃ crew, Crew.Stands self policy (Stage.Move self message message.job) Stage.Over .called system crew ∧
      Crew.Account self redis.cancelled (fun runTask stage => stage.Sound message runTask)
        (Stage.Course self redis.cancelled message) crew :=
  Crew.Account.reaches undisturbed (Stage.accountable undisturbed message) Stage.follows
    RunAtRest.none .called reaches

theorem BatchStage.account (undisturbed : policy.Undisturbed) {messages : List StreamMessage}
    (reaches : Pool.Reaches (machine self policy)
      (Pool.single { redis := redis } .loop (discard (processBatch self messages))) system) :
    ∃ crew, Crew.Stands self policy (BatchStage.Move self messages) BatchStage.Over .called system crew ∧
      Crew.Account self redis.cancelled (fun runTask stage => stage.Sound runTask)
        (BatchStage.Course self redis.cancelled messages) crew :=
  Crew.Account.reaches undisturbed (BatchStage.accountable undisturbed messages) BatchStage.follows
    RunAtRest.none .called reaches

end Alone

/-! ### What a recovery finds -/

namespace RecoveryStage

/-- A recovery that started on this Redis has looked at its pending entries and found its messages. -/
structure Faithful (consumer : Consumer) (redis : Redis) (crew : Crew RecoveryStage) : Prop where
  alone : crew.posts = []
  stream : crew.world.redis.stream = redis.stream
  pending : crew.main = .query → crew.world.redis.pending = redis.pending
  queried : ∀ ids, .queried ids ∈ deeds none crew.world.log →
    ids = (redis.pendingOf consumer.consumerName).take pendingPageCount
  fetched : ∀ messageId messages, .fetched messageId messages ∈ deeds none crew.world.log →
    messages = redis.stream.filter fun message => message.messageId = messageId

variable {self : Consumer} {policy : Policy} {redis : Redis}

theorem Move.not_query {stage later : RecoveryStage} {op : Op} {outcome : Except Exc op.Reply}
    (row : Move self stage op outcome later) : later ≠ .query := by
  have next_ne (rest : List String) : RecoveryStage.next rest ≠ .query := by
    cases rest <;> simp [RecoveryStage.next]
  cases row with
  | @query outcome =>
      cases outcome with
      | ok ids => exact next_ne ids
      | error exception => exact fun same => by cases same
  | @fetch messageId rest outcome =>
      cases outcome with
      | ok messages =>
          cases messages with
          | nil => exact next_ne rest
          | cons message others => exact fun same => by cases same
      | error exception => exact fun same => by cases same
  | @process message stage rest _ _ later row =>
      refine Stage.within_cases (motive := (· ≠ RecoveryStage.query)) ?_ ?_ ?_
      · exact fun _ same => by cases same
      · exact fun _ => next_ne rest
      · exact fun _ _ same => by cases same

private theorem deed_of_ofMessage {op : Op} {outcome : Except Exc op.Reply} (ofMessage : op.ofMessage = true) :
    (∀ ids, op.deed outcome ≠ some (.queried ids)) ∧
      ∀ messageId messages, op.deed outcome ≠ some (.fetched messageId messages) := by
  constructor
  · intro ids deed
    unfold Op.deed at deed
    split at deed <;> cases deed
    cases ofMessage
  · intro messageId messages deed
    unfold Op.deed at deed
    split at deed <;> cases deed
    cases ofMessage

theorem Faithful.step (calm : policy.Calm) {first second : Crew RecoveryStage}
    (step : Crew.Step self policy (Move self) first second) (faithful : Faithful self redis first) :
    Faithful self redis second := by
  cases step with
  | @env world next stage posts event _ occurs =>
      obtain ⟨stream, pending⟩ := World.entries_of_occur occurs
      have same : deeds none (next.record (.env event)).log = deeds none world.log := deeds_of_occur occurs
      refine ⟨faithful.alone, stream.trans faithful.stream,
        fun here => pending.trans (faithful.pending here), ?_, ?_⟩
      · intro ids member
        exact faithful.queried ids (same ▸ member)
      · intro messageId messages member
        exact faithful.fetched messageId messages (same ▸ member)
  | @main world next stage later posts op outcome fate row performs =>
      have grown := deeds_of_performs performs (show Role.loop.seat = none from rfl)
      refine ⟨?_, ?_, fun here => absurd here row.not_query, ?_, ?_⟩
      · have none_ : world.created op = [] := by
          have ofRecovery := row.ofRecovery
          cases op with
          | createTask => cases ofRecovery
          | _ => rfl
        change posts ++ world.created op = []
        rw [none_, List.append_nil]
        exact faithful.alone
      · change (World.recordCall _ _ _ _ _).redis.stream = _
        rw [World.recordCall_redis, World.stream_of_performs performs]
        exact faithful.stream
      · intro ids member
        change _ ∈ deeds none (World.recordCall _ _ _ _ _).log at member
        rw [grown] at member
        rcases List.mem_append.mp member with old | new
        · exact faithful.queried ids old
        · have deed := Option.mem_toList.mp new
          cases row with
          | query =>
              obtain ⟨rfl, -, rfl⟩ := World.xpendingRange_answered calm performs
              cases deed
              rw [Redis.pendingOf, show next.redis.pending = _ from faithful.pending rfl]
              rfl
          | fetch =>
              obtain ⟨rfl, -, rfl⟩ := World.xrange_answered calm performs
              cases deed
          | process row => exact absurd deed ((deed_of_ofMessage row.ofMessage).1 ids)
      · intro messageId messages member
        change _ ∈ deeds none (World.recordCall _ _ _ _ _).log at member
        rw [grown] at member
        rcases List.mem_append.mp member with old | new
        · exact faithful.fetched messageId messages old
        · have deed := Option.mem_toList.mp new
          cases row with
          | query =>
              obtain ⟨rfl, -, rfl⟩ := World.xpendingRange_answered calm performs
              cases deed
          | fetch =>
              obtain ⟨rfl, -, rfl⟩ := World.xrange_answered calm performs
              cases deed
              rw [show next.redis.stream = _ from faithful.stream]
          | process row => exact absurd deed ((deed_of_ofMessage row.ofMessage).2 messageId messages)
  | @post world next stage before after post later op outcome fate row performs =>
      have alone := faithful.alone
      simp at alone

/-- The account of a recovery, and what it has found. -/
theorem account_faithful (calm : policy.Calm) {system : System}
    (reaches : Pool.Reaches (machine self policy)
      (Pool.single { redis := redis } .loop (discard (recoverPending self))) system) :
    ∃ crew, Crew.Stands self policy (Move self) Over .query system crew ∧
      Crew.Account self redis.cancelled (fun runTask stage => stage.Sound runTask)
        (Course self redis.cancelled) crew ∧
      Faithful self redis crew := by
  refine Crew.Account.reaches_with calm.undisturbed (accountable calm) follows RunAtRest.none .query
    (fun step _ faithful => faithful.step calm step) ?_ reaches
  exact
    { alone := rfl
      stream := rfl
      pending := fun _ => rfl
      queried := fun _ member => by cases member
      fetched := fun _ _ member => by cases member }

end RecoveryStage

end CodaNode
