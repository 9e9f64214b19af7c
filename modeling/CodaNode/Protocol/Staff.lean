/-
Module: CodaNode.Protocol.Staff
Layer: Protocol
Purpose: What the background tasks guarantee while only the fetching of messages can fail. The task for
  one result does not fail. The task for a batch waits for such tasks only, so it fails only if the
  results do not match the jobs.
Imports: CodaNode.Protocol.Sound
Main exports: Post.Sound, Crew.Staffed, Crew.Staffed.step
-/
import CodaNode.Protocol.Sound

namespace CodaNode

open Coroutine

/-- What the tasks were created for, by number. -/
def World.specs (world : World) : List TaskSpec := world.tasks.map TaskRecord.spec

section Specs

variable {policy : Policy} {world next : World} {op : Op} {outcome : Except Exc op.Reply} {fate : Fate}

/-- Tasks are only added. -/
theorem World.specs_of_performs (performs : World.Performs policy world op outcome fate next) :
    ∃ more, next.specs = world.specs ++ more := by
  by_cases creates : ∃ spec, op = .createTask spec
  · obtain ⟨spec, rfl⟩ := creates
    obtain ⟨-, -, rfl⟩ := World.createTask_performs performs
    exact ⟨[spec], by simp [World.specs]⟩
  · by_cases ends : ∃ number ending, op = .taskDone number ending
    · obtain ⟨number, ending, rfl⟩ := ends
      rw [World.taskDone_performs performs]
      refine ⟨[], ?_⟩
      apply List.ext_getElem?
      intro index
      simp only [World.specs, World.finish, List.append_nil, List.getElem?_map, List.getElem?_modify]
      split <;> cases world.tasks[index]? <;> rfl
    · refine ⟨[], ?_⟩
      rw [List.append_nil, World.specs, World.specs]
      rw [World.tasks_of_performs performs (fun spec same => creates ⟨spec, same⟩)
        fun number ending same => ends ⟨number, ending, same⟩]

end Specs

namespace Post

/-- What holds at a stage of a background task. -/
def Sound (specs : List TaskSpec) : Post → Prop
  | .single _ _ (.finish (.error _)) | .single _ _ (.past (.error _)) => False
  | .gather _ _ _ (.spawn _ numbers _ _) | .gather _ _ _ (.gather _ numbers) =>
      ∀ number ∈ numbers, ∃ delivery, specs[number]? = some (.deliverSingle delivery)
  | .gather _ parsed results (.release (.error exception))
  | .gather _ parsed results (.finish (.error exception))
  | .gather _ parsed results (.past (.error exception)) =>
      parsed.length ≠ results.length ∧ exception.kind = .valueError
  | _ => True

theorem Sound.grow {specs more : List TaskSpec} {post : Post} (sound : post.Sound specs) :
    post.Sound (specs ++ more) := by
  have later {number : Nat} {spec : TaskSpec} (found : specs[number]? = some spec) :
      (specs ++ more)[number]? = some spec := by
    obtain ⟨bound, -⟩ := List.getElem?_eq_some_iff.mp found
    rw [List.getElem?_append_left bound]
    exact found
  cases post with
  | single number delivery stage =>
      cases stage with
      | finish ending | past ending => cases ending <;> exact sound
      | _ => trivial
  | gather number parsed results stage =>
      cases stage with
      | spawn | gather =>
          intro number member
          obtain ⟨delivery, found⟩ := sound number member
          exact ⟨delivery, later found⟩
      | release ending | finish ending | past ending => cases ending <;> exact sound
      | _ => trivial

theorem sound_fresh (specs : List TaskSpec) (number : Nat) (spec : TaskSpec) :
    (fresh number spec).Sound specs := by
  cases spec <;> trivial

theorem sound_opening (specs : List TaskSpec) (number : Nat) (parsed : List ParsedJob)
    (results : List ExecutionResult) (nowIso : String) :
    (Post.gather number parsed results (.opening parsed results nowIso)).Sound specs := by
  unfold GatherStage.opening zipStrict
  split
  · rename_i exception failed
    split at failed
    · cases failed
    · rename_i different
      split at failed <;> cases failed <;> exact ⟨different, rfl⟩
  · rename_i deliveries found
    cases deliveries <;> exact fun _ member => by cases member

/-- Every row keeps it, if the tasks for one result have not failed so far. -/
theorem Sound.row {self : Consumer} {policy : Policy} (undisturbed : policy.Undisturbed)
    {post later : Post} {op : Op} {outcome : Except Exc op.Reply} {fate : Fate} {world next : World}
    (row : Move self post op outcome later) (performs : World.Performs policy world op outcome fate next)
    (singles : ∀ {number exception delivery}, world.outcomeOf number = some (.error exception) →
      world.specs[number]? ≠ some (.deliverSingle delivery))
    (sound : post.Sound world.specs) : later.Sound next.specs := by
  cases row with
  | single row =>
      cases row with
      | start | clock => trivial
      | @finish ending => cases ending <;> exact sound
      | firstFlag | lastFlag =>
          obtain ⟨rfl, -, -⟩ := World.getCancelled_answered undisturbed performs
          simp only [afterCall]
          split <;> trivial
      | mark | complete =>
          obtain ⟨rfl, -, -⟩ := World.hset_answered undisturbed performs
          trivial
      | dismiss | acknowledge =>
          obtain ⟨rfl, -, -⟩ := World.xack_answered undisturbed performs
          trivial
      | @report outcome =>
          obtain ⟨-, -, -, ordinary⟩ :=
            World.outward_answered undisturbed performs (.inr (.inr (.inl ⟨_, _, rfl⟩)))
          cases outcome with
          | ok value => trivial
          | error exception =>
              simp only [afterLogged, Exc.isException_of_isOrdinary (ordinary exception rfl), if_true]
              trivial
  | gather row =>
      cases row with
      | start | stamp => trivial
      | @release ending | @finish ending => cases ending <;> exact sound
      | clock => exact sound_opening ..
      | @spawn nowIso numbers delivery todo fresh =>
          obtain ⟨same, -, rfl⟩ := World.createTask_performs performs
          have last : fresh = world.specs.length := by
            rw [Except.ok.inj same, World.specs, List.length_map]
          have specs : World.specs { world with tasks := world.tasks ++ [⟨.deliverSingle delivery, none⟩] } =
              world.specs ++ [.deliverSingle delivery] := by
            simp [World.specs]
          rw [specs]
          have created : ∀ number ∈ numbers ++ [fresh], ∃ delivery',
              (world.specs ++ [.deliverSingle delivery])[number]? = some (.deliverSingle delivery') := by
            intro number member
            rcases List.mem_append.mp member with old | new
            · obtain ⟨delivery', found⟩ := sound number old
              obtain ⟨bound, -⟩ := List.getElem?_eq_some_iff.mp found
              exact ⟨delivery', by rw [List.getElem?_append_left bound, found]⟩
            · rw [List.mem_singleton.mp new, last]
              exact ⟨delivery, List.getElem?_concat_length⟩
          cases todo <;> exact created
      | @gather nowIso numbers outcome =>
          obtain ⟨rfl, -, answered⟩ := World.gather_answered undisturbed performs
          rcases answered with ⟨rfl, -⟩ | ⟨exception, rfl, number, member, failed⟩
          · trivial
          · obtain ⟨delivery, found⟩ := sound number member
            exact (singles failed found).elim

end Post

namespace Crew

variable {L : Type} {self : Consumer} {policy : Policy}
variable {move : L → (op : Op) → Except Exc op.Reply → L → Prop}

/-- The tasks are numbered in order, and each is sound. -/
structure Staffed (crew : Crew L) : Prop where
  roster : crew.Roster
  posts : ∀ post ∈ crew.posts, post.Sound crew.world.specs

/-- What the awaited task of a batch raises. -/
theorem Staffed.failure {crew : Crew L} (staffed : crew.Staffed) {number : Nat} {exception : Exc}
    (failed : crew.world.outcomeOf number = some (.error exception)) :
    (∀ delivery, crew.world.specs[number]? ≠ some (.deliverSingle delivery)) ∧
      exception.kind = .valueError := by
  obtain ⟨post, member, -, ended, record⟩ := staffed.roster.post_of_outcome failed
  have sound := staffed.posts post member
  have spec : crew.world.specs[number]? = some post.spec := by
    rw [World.specs, List.getElem?_map, record]
    rfl
  cases post with
  | single _ _ stage =>
      cases stage with
      | past ending =>
          cases ended
          exact sound.elim
      | _ => cases ended
  | gather _ _ _ stage =>
      cases stage with
      | past ending =>
          cases ended
          refine ⟨fun delivery same => ?_, sound.2⟩
          rw [spec] at same
          cases same
      | _ => cases ended

theorem Staffed.step (undisturbed : policy.Undisturbed) {first second : Crew L}
    (mains : ∀ {stage op outcome later},
      move stage op outcome later → ∀ number ending, op ≠ .taskDone number ending)
    (step : Step self policy move first second) (staffed : Staffed first) : Staffed second := by
  refine ⟨staffed.roster.step mains step, ?_⟩
  have kept {world next : World} {op : Op} {outcome : Except Exc op.Reply} {fate : Fate} {post : Post}
      (performs : World.Performs policy world op outcome fate next)
      (sound : post.Sound world.specs) : post.Sound next.specs := by
    obtain ⟨more, grown⟩ := World.specs_of_performs performs
    rw [grown]
    exact sound.grow
  have created {world next : World} {op : Op} {post : Post} (fresh : post ∈ world.created op) :
      post.Sound next.specs := by
    cases op with
    | createTask spec =>
        rw [List.mem_singleton.mp fresh]
        exact Post.sound_fresh ..
    | _ => cases fresh
  cases step with
  | env _ occurs =>
      intro post member
      change post.Sound (World.specs (World.record _ _))
      rw [World.specs, World.record_tasks, World.tasks_of_occur occurs]
      exact staffed.posts post member
  | main _ performs =>
      intro post member
      change post.Sound (World.specs (World.recordCall _ _ _ _ _))
      rw [World.specs, World.recordCall_tasks]
      rcases List.mem_append.mp member with old | new
      · exact kept performs (staffed.posts post old)
      · exact created new
  | @post world next stage before after post later op outcome fate row performs =>
      intro other member
      change other.Sound (World.specs (World.recordCall _ _ _ _ _))
      rw [World.specs, World.recordCall_tasks]
      have old : ∀ {other}, other ∈ before ++ post :: after → other.Sound next.specs :=
        fun member => kept performs (staffed.posts _ member)
      have moved : later.Sound next.specs := by
        refine (staffed.posts post (by simp)).row undisturbed row performs ?_
        intro number exception delivery failed
        exact (staffed.failure failed).1 delivery
      rcases List.mem_append.mp member with here | new
      · rcases List.mem_append.mp here with front | back
        · exact old (List.mem_append_left _ front)
        · rcases List.mem_cons.mp back with rfl | behind
          · exact moved
          · exact old (List.mem_append_right _ (List.mem_cons_of_mem _ behind))
      · exact created new

end Crew

end CodaNode
