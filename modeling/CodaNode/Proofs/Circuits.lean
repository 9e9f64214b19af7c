/-
Module: CodaNode.Proofs.Circuits
Layer: Proofs
Purpose: The circuits the consumer hands to the executor. Whatever a message or a batch holds and however
  its run goes, they were read from one of its messages and hardware of their target can execute them; and
  no typed circuit that hardware can execute is refused.
Imports: CodaNode.Protocol.Account, CodaNode.Server.Circuit
Main exports: Entry.hands, StreamMessage.Holds, handed_circuits_executable
-/
import CodaNode.Protocol.Account
import CodaNode.Server.Circuit

namespace CodaNode

open Coroutine

/-- The circuits an operation hands to the executor. -/
def Op.circuits : Op → List NativeGateIR
  | .createRun _ ir _ => [ir]
  | .batchRun jobs => jobs.map fun job => job.2.1
  | _ => []

/-- The record is a call that hands this circuit to the executor. -/
def Entry.hands (ir : NativeGateIR) : Entry → Bool
  | .call _ op _ _ => ir ∈ op.circuits
  | .env _ => false

/-- The circuit was read from this message. -/
def StreamMessage.Holds (self : Consumer) (message : StreamMessage) (ir : NativeGateIR) : Prop :=
  ∃ text shots, lookupField message.job.decoded "ir_json" = .ok text ∧
    NativeGateIR.fromJson self.readFields text = .ok ir ∧
    parseCircuit self message.job.decoded = .ok (ir, shots)

namespace NativeGateIR

/-- A circuit can be executed because it was validated. -/
theorem executable (ir : NativeGateIR) : ir.toIRFields.Executable := (IRFields.validate_iff.mp ir.valid).2

/-- The reader of circuit texts returns the typed values it finds when they can be executed. -/
theorem fromJson_of_executable {readFields : String → Except String IRFields} {text : String}
    {fields : IRFields} (read : readFields text = .ok fields) (typed : fields.Typed)
    (executable : fields.Executable) :
    ∃ ir, NativeGateIR.fromJson readFields text = .ok ir ∧ ir.toIRFields = fields := by
  have accepted : fields.validate = .ok () := IRFields.validate_iff.mpr ⟨typed, executable⟩
  refine ⟨⟨fields, accepted⟩, ?_, rfl⟩
  unfold NativeGateIR.fromJson
  rw [read]
  dsimp only
  split
  · rfl
  · next refused =>
    rw [accepted] at refused
    cases refused

end NativeGateIR

namespace Circuits

variable {self : Consumer} {policy : Policy} {op : Op} {outcome : Except Exc op.Reply}

/-- What `parseCircuit` returns was read from the message. -/
theorem holds_of_parsed {message : StreamMessage} {ir : NativeGateIR} {shots : Int}
    (parsed : parseCircuit self message.job.decoded = .ok (ir, shots)) : message.Holds self ir := by
  have whole := parsed
  unfold parseCircuit at parsed
  cases field : lookupField message.job.decoded "ir_json" with
  | error exception =>
      rw [field] at parsed
      cases parsed
  | ok text =>
      rw [field] at parsed
      cases read : NativeGateIR.fromJson self.readFields text with
      | error refused =>
          simp [read, bind, Except.bind, Except.mapError] at parsed
      | ok found =>
          simp only [read, bind, Except.bind, Except.mapError] at parsed
          split at parsed
          · cases parsed
          · split at parsed
            · cases parsed
              exact ⟨text, shots, field, read, whole⟩
            · cases parsed

/-! ### What the stages carry -/

/-- The circuit a message is launched with was read from it. -/
def CarriesOwn (self : Consumer) (message : StreamMessage) (stage : Stage) : Prop :=
  ∀ ir shots, stage = .launch ir shots → message.Holds self ir

/-- The accepted jobs of a batch have circuits that were read from its messages. -/
def ReadFrom (self : Consumer) (messages : List StreamMessage) (parsed : List ParsedJob) : Prop :=
  ∀ job ∈ parsed, ∃ message ∈ messages, message.Holds self job.ir

/-- The messages a batch has still to look at are its own, and so are the circuits it has accepted. -/
def BatchCarries (self : Consumer) (messages : List StreamMessage) : BatchStage → Prop
  | .lookUp message parsed todo | .pickUpFlag message parsed todo | .drop message parsed todo
  | .dismiss message parsed todo =>
      message ∈ messages ∧ (∀ other ∈ todo, other ∈ messages) ∧ ReadFrom self messages parsed
  | .busy parsed | .mark _ _ parsed | .run parsed => ReadFrom self messages parsed
  | .process message stage rest =>
      message ∈ messages ∧ CarriesOwn self message stage ∧ ∀ other ∈ rest, other ∈ messages
  | _ => True

theorem settled_ne_launch {ending : Except Exc ExecutionResult} {ir : NativeGateIR} {shots : Int} :
    Stage.settled ending ≠ .launch ir shots := by
  cases ending with
  | ok result => exact fun same => by cases same
  | error exception =>
      simp only [Stage.settled, Stage.failing]
      split
      · exact fun same => by cases same
      · split <;> exact fun same => by cases same

theorem carriesOwn_row {message : StreamMessage} {stage later : Stage}
    (row : Stage.Move self message message.job stage op outcome later)
    (carries : CarriesOwn self message stage) : CarriesOwn self message later := by
  intro ir shots target
  cases row with
  | @takeOn now outcome =>
      have here : Stage.started self message.job = .launch ir shots := by
        cases outcome with
        | ok value => exact target
        | error exception =>
            simp only [afterSafe] at target
            split at target
            · exact target
            · cases target
      unfold Stage.started at here
      split at here
      · next parsed =>
        cases here
        exact holds_of_parsed parsed
      · unfold Stage.failing at here
        grind
  | clock | assign => exact carries ir shots target
  | drain | release | free => cases target
  | _ =>
      rename_i outcome
      cases outcome <;> simp only [afterCall, afterSafe, afterLogged] at target <;>
        grind [Stage.failing, Stage.opening, settled_ne_launch]

theorem batchCarries_parse {messages : List StreamMessage} {parsed : List ParsedJob}
    {todo : List StreamMessage} (own : ∀ other ∈ todo, other ∈ messages)
    (read : ReadFrom self messages parsed) : BatchCarries self messages (.parse parsed todo) := by
  apply BatchStage.parse_cases (motive := BatchCarries self messages)
  · trivial
  · exact read
  · exact fun _ => trivial
  · rintro message rest rfl -
    obtain ⟨here, others⟩ := List.forall_mem_cons.mp own
    exact ⟨here, others, read⟩
  · rintro message rest job rfl -
    obtain ⟨here, others⟩ := List.forall_mem_cons.mp own
    exact ⟨here, others, read⟩

theorem batchCarries_each {messages todo : List StreamMessage} (own : ∀ other ∈ todo, other ∈ messages) :
    BatchCarries self messages (.each todo) := by
  apply BatchStage.each_cases (motive := BatchCarries self messages)
  · trivial
  · rintro message rest rfl
    obtain ⟨here, others⟩ := List.forall_mem_cons.mp own
    exact ⟨here, fun _ _ target => (by cases target), others⟩

theorem batchCarries_marking {messages : List StreamMessage} {parsed todo : List ParsedJob}
    (read : ReadFrom self messages parsed) :
    BatchCarries self messages (.marking self messages parsed todo) := by
  apply BatchStage.marking_cases (motive := BatchCarries self messages)
  · exact read
  · exact batchCarries_each fun _ inside => inside
  · exact fun _ _ _ => read

theorem batchCarries_accept {messages : List StreamMessage} {message : StreamMessage}
    {parsed : List ParsedJob} {todo : List StreamMessage} (here : message ∈ messages)
    (own : ∀ other ∈ todo, other ∈ messages) (read : ReadFrom self messages parsed) :
    BatchCarries self messages (.accept self message parsed todo) := by
  unfold BatchStage.accept
  split
  · exact ⟨here, own, read⟩
  · next circuit =>
    apply batchCarries_parse own
    intro job inside
    rcases List.mem_append.mp inside with old | new
    · exact read job old
    · rw [List.mem_singleton.mp new]
      exact ⟨message, here, holds_of_parsed circuit⟩

theorem batchCarries_row {messages : List StreamMessage} {stage later : BatchStage}
    (row : BatchStage.Move self messages stage op outcome later)
    (carries : BatchCarries self messages stage) : BatchCarries self messages later := by
  rcases row.leads with leads | ⟨_, _, _, -, -, -, rfl⟩ | ⟨message, inner, rest, next, rfl, here, rfl⟩
  · cases leads with
    | stayed => exact carries
    | called => exact batchCarries_parse (fun _ inside => inside) fun _ inside => (by cases inside)
    | dismissed => exact batchCarries_parse carries.2.1 carries.2.2
    | accepted => exact batchCarries_accept carries.1 carries.2.1 carries.2.2
    | busy | marked => exact batchCarries_marking carries
    | fellBack => exact batchCarries_each fun _ inside => inside
    | final | unsettled | flagged | dropped => exact carries
    | _ => trivial
  · trivial
  · refine Stage.within_cases (motive := BatchCarries self messages) ?_ ?_ ?_
    · exact fun _ => ⟨carries.1, carriesOwn_row here carries.2.1, carries.2.2⟩
    · exact fun _ => batchCarries_each carries.2.2
    · exact fun _ _ => trivial

/-! ### What the calls hand over -/

theorem holds_of_message {message : StreamMessage} {stage later : Stage}
    (row : Stage.Move self message message.job stage op outcome later)
    (carries : CarriesOwn self message stage) {ir : NativeGateIR} (handed : ir ∈ op.circuits) :
    message.Holds self ir := by
  cases row with
  | launch =>
      rw [List.mem_singleton.mp handed]
      exact carries _ _ rfl
  | _ => cases handed

theorem holds_of_batch {messages : List StreamMessage} {stage later : BatchStage}
    (row : BatchStage.Move self messages stage op outcome later)
    (carries : BatchCarries self messages stage) {ir : NativeGateIR} (handed : ir ∈ op.circuits) :
    ∃ message ∈ messages, message.Holds self ir := by
  cases row with
  | run =>
      obtain ⟨job, inside, rfl⟩ := List.mem_map.mp handed
      obtain ⟨accepted, member, rfl⟩ := List.mem_map.mp inside
      exact carries accepted member
  | process row => exact ⟨_, carries.1, holds_of_message row carries.2.1 handed⟩
  | _ => cases handed

theorem post_hands_nothing {post later : Post} (row : Post.Move self post op outcome later) :
    op.circuits = [] := by
  cases row with
  | gather row => cases row <;> rfl
  | single row => cases row <;> rfl

/-- What the rows of the main coroutine hand over is all that a run hands over. -/
theorem handed_of_reaches {L : Type} {move : L → (op : Op) → Except Exc op.Reply → L → Prop}
    {past : Except Exc Unit → L → Prop} {start : L} {body : Task Unit} (carries : L → Prop)
    (source : NativeGateIR → Prop)
    (follows : Follows move (fun _ => past (.ok ())) (fun exception => past (.error exception)) body start)
    (kept : ∀ {stage op outcome later}, move stage op outcome later → carries stage → carries later)
    (hands : ∀ {stage op outcome later}, move stage op outcome later → carries stage →
      ∀ ir ∈ op.circuits, source ir)
    (here : carries start) {redis : Redis} {system : System}
    (reaches : Pool.Reaches (machine self policy) (Pool.single { redis := redis } .loop body) system) :
    ∀ entry ∈ system.state.log, ∀ ir, entry.hands ir = true → source ir := by
  let holds (crew : Crew L) : Prop :=
    carries crew.main ∧ ∀ entry ∈ crew.world.log, ∀ ir, entry.hands ir = true → source ir
  have preserved : ∀ {first second}, Crew.Step self policy move first second → holds first →
      holds second := by
    rintro first second step ⟨inside, sources⟩
    cases step with
    | env allowed occurs =>
        refine ⟨inside, ?_⟩
        change ∀ entry ∈ (World.record _ _).log, _
        rw [World.record_log, World.log_of_occur occurs]
        exact forall_snoc sources fun _ handed => (by cases handed)
    | main row performs =>
        refine ⟨kept row inside, ?_⟩
        change ∀ entry ∈ (World.recordCall _ _ _ _ _).log, _
        rw [World.recordCall_log_of_performs _ performs]
        split
        · exact forall_snoc sources fun ir handed => hands row inside ir (of_decide_eq_true handed)
        · simpa using sources
    | post row performs =>
        refine ⟨inside, ?_⟩
        change ∀ entry ∈ (World.recordCall _ _ _ _ _).log, _
        rw [World.recordCall_log_of_performs _ performs]
        split
        · apply forall_snoc sources
          intro ir handed
          have nothing := of_decide_eq_true handed
          rw [post_hands_nothing row] at nothing
          cases nothing
        · simpa using sources
  obtain ⟨crew, stands, -, sources⟩ :=
    follows.reaches preserved ⟨here, fun _ member => by cases member⟩ reaches
  rw [← stands.1]
  exact sources

end Circuits

open Circuits in
/-- Whatever a message or a batch holds and however its run goes, the executor gets only circuits that
were read from one of the messages and that hardware can execute; and the reader of circuit texts refuses
no typed circuit that hardware can execute. -/
theorem handed_circuits_executable (self : Consumer) (policy : Policy) (redis : Redis) (system : System) :
    (∀ message, Pool.Reaches (machine self policy)
        (Pool.single { redis := redis } .loop (processEntry self message)) system →
      ∀ entry ∈ system.state.log, ∀ ir, entry.hands ir = true →
        message.Holds self ir ∧ ir.toIRFields.Executable) ∧
    (∀ messages, Pool.Reaches (machine self policy)
        (Pool.single { redis := redis } .loop (discard (processBatch self messages))) system →
      ∀ entry ∈ system.state.log, ∀ ir, entry.hands ir = true →
        (∃ message ∈ messages, message.Holds self ir) ∧ ir.toIRFields.Executable) ∧
    ∀ text fields, self.readFields text = .ok fields → fields.Typed → fields.Executable →
      ∃ ir, NativeGateIR.fromJson self.readFields text = .ok ir ∧ ir.toIRFields = fields := by
  refine ⟨fun message reaches => ?_, fun messages reaches => ?_, ?_⟩
  · intro entry inLog ir handed
    refine ⟨?_, ir.executable⟩
    exact handed_of_reaches (CarriesOwn self message) (message.Holds self) Stage.follows carriesOwn_row
      (fun row carries ir => holds_of_message row carries) (fun _ _ target => by cases target) reaches
      entry inLog ir handed
  · intro entry inLog ir handed
    refine ⟨?_, ir.executable⟩
    exact handed_of_reaches (BatchCarries self messages)
      (fun ir => ∃ message ∈ messages, message.Holds self ir) BatchStage.follows batchCarries_row
      (fun row carries ir => holds_of_batch row carries) trivial reaches entry inLog ir handed
  · intro text fields read typed executable
    exact NativeGateIR.fromJson_of_executable read typed executable

namespace Circuits

def single : StreamMessage := Sample.message "1-0" "first"

def pair : List StreamMessage := [single, Sample.message "2-0" "second"]

/-- The run of one message, and that of a batch. -/
def playFrom (body : Task Unit) : System :=
  System.play Sample.consumer .healthy (Surroundings.plain Sample.result) (List.replicate 20 (.task 0))
    (Pool.single { redis := Sample.delivered pair } .loop body)

theorem playFrom_reaches (body : Task Unit) :
    Pool.Reaches (machine Sample.consumer .healthy)
      (Pool.single { redis := Sample.delivered pair } .loop body) (playFrom body) :=
  System.play_reaches (Surroundings.plain_within fun _ _ _ _ => trivial) _ _ (by simp)

/-- The circuit of the sample messages. -/
def accepted : NativeGateIR := ⟨Sample.circuit, by decide +kernel⟩

end Circuits

open Circuits in
/-- The result, for a message, for a batch of two, and for the circuit they carry. -/
theorem handed_circuits_executable_sample :
    accepted.toIRFields.Executable ∧
      (∃ message ∈ pair, message.Holds Sample.consumer accepted) ∧
      ∃ ir, NativeGateIR.fromJson Sample.consumer.readFields "circuit" = .ok ir ∧
        ir.toIRFields = Sample.circuit := by
  obtain ⟨alone, -, reads⟩ := handed_circuits_executable Sample.consumer .healthy
    (Sample.delivered pair) (playFrom (processEntry Sample.consumer single))
  obtain ⟨-, batched, -⟩ := handed_circuits_executable Sample.consumer .healthy (Sample.delivered pair)
    (playFrom (discard (processBatch Sample.consumer pair)))
  obtain ⟨entry, inLog, handed⟩ := List.any_eq_true.mp
    (show (playFrom (processEntry Sample.consumer single)).state.log.any (Entry.hands accepted) = true by
      decide +kernel)
  obtain ⟨other, inOther, handed'⟩ := List.any_eq_true.mp
    (show (playFrom (discard (processBatch Sample.consumer pair))).state.log.any
        (Entry.hands accepted) = true by decide +kernel)
  have executable := (alone single (playFrom_reaches _) entry inLog accepted handed).2
  exact ⟨executable, (batched pair (playFrom_reaches _) other inOther accepted handed').1,
    reads "circuit" Sample.circuit rfl ⟨rfl, by decide, by decide⟩ executable⟩

end CodaNode
