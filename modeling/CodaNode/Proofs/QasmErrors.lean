/-
Module: CodaNode.Proofs.QasmErrors
Layer: Proofs
Purpose: Which exceptions `openqasm_to_ir` lets escape. The lines are read until one is rejected; only the
  last validation is wrapped, so a number that cannot be read or a gate of the wrong shape in front of the
  first rejected line raises something else than a `QASMConversionError`.
Imports: CodaNode.Server.Qasm
Main exports: Breaks, Rejected, openqasmToIr_converts_iff, openqasmToIr_escapes
-/
import CodaNode.Server.Qasm

namespace CodaNode.Qasm

open Python

variable (language : Language) (target : String)

/-- The line starts with the statement. -/
def Says (raw : List Char) (statement : Statement) : Prop :=
  isSkipped (strip raw) = false ∧ ∃ rest, statementAt language (strip raw) = some (statement, rest)

/-- The statement declares the qubits. -/
def Statement.declares : Statement → Bool
  | .qubits _ => true
  | _ => false

/-- The line declares the qubits. -/
def declares (raw : List Char) : Bool :=
  !isSkipped (strip raw) && (statementAt language (strip raw)).any fun found => found.1.declares

/-- The parameters a table entry keeps. -/
def kept (params : List PyFloat) (entry : NativeGate × Bool) : NativeGate × List PyFloat :=
  if entry.1 = .id then (.id, [.finite 0]) else (entry.1, if entry.2 then params else [])

/-- The gate that stands for a gate statement, and the parameters it is built with. -/
def represented (name : String) (params : List PyFloat) : Option (NativeGate × List PyFloat) :=
  if target = "cz" then (czGates.lookup name).map (kept params)
  else if target = "cnot" then
    match cnotGates.lookup name with
    | some entry => some (kept params entry)
    | none =>
        match params with
        | [angle] => if name = "ry" ∧ language.isCloseToMinusHalfPi angle then some (.yMinus90, []) else none
        | _ => none
  else none

/-- The parameters of a gate statement cannot be read: one of them is no float. -/
def Unreadable (params : Option (List Char)) : Prop :=
  ∃ text, params = some text ∧ text ≠ [] ∧
    ∃ param ∈ text.splitOn ',', language.readFloat (String.ofList (strip param)) = none

/-- The number has more digits than `int` reads. -/
def Long (digits : List Char) : Prop := int (String.ofList digits) = none

/-- A statement, read behind a declaration or not, that `openqasm_to_ir` cannot turn into values: a number has
too many digits, a parameter is no float, or a gate has the wrong number of operands or parameters. -/
def Statement.Breaks (declared : Bool) : Statement → Prop
  | .header | .includes | .bits => False
  | .qubits count => declared = false ∧ Long count
  | .measure _ qubit => Long qubit
  | .gate name params operands =>
      Unreadable language params ∨ (∃ index ∈ operandIndices language operands, Long index) ∨
        ∃ values qubits gate given, readParams language params = .ok values ∧
          readQubits language operands = .ok qubits ∧
          represented language target (String.ofList name) values = some (gate, given) ∧
          (qubits.length ≠ (gateSpecs gate).qubits ∨ given.length ≠ (gateSpecs gate).params)

/-- A statement that `openqasm_to_ir` rejects: the qubits are declared already, or the target has no gate for
it. -/
def Statement.Rejected (declared : Bool) : Statement → Prop
  | .header | .includes | .bits | .measure _ _ => False
  | .qubits _ => declared = true
  | .gate name params operands =>
      ∃ values qubits, readParams language params = .ok values ∧ readQubits language operands = .ok qubits ∧
        represented language target (String.ofList name) values = none

/-- The line starts with a statement that cannot be turned into values. -/
def Breaks (declared : Bool) (raw : List Char) : Prop :=
  ∃ statement, Says language raw statement ∧ statement.Breaks language target declared

/-- The line is rejected: no pattern matches, or its statement is rejected. -/
def Rejected (declared : Bool) (raw : List Char) : Prop :=
  isSkipped (strip raw) = false ∧ statementAt language (strip raw) = none ∨
    ∃ statement, Says language raw statement ∧ statement.Rejected language target declared

/-- Every line that breaks stands behind a line that is rejected. -/
def Shielded (declared : Bool) (lines : List (List Char)) : Prop :=
  ∀ before line after, lines = before ++ line :: after →
    Breaks language target (declared || before.any (declares language)) line →
      ∃ front rejected behind, before = front ++ rejected :: behind ∧
        Rejected language target (declared || front.any (declares language)) rejected

variable {language target}

namespace QasmErrors

/-- A result that is no exception, or a `QASMConversionError`. -/
def Tame {α : Type} (result : Except Failure α) : Prop :=
  ∀ failure, result = .error failure → ∃ message, failure = .conversion message

/-! ### One gate -/

theorem newGateOp_ok {gate : NativeGate} {qubits : List Int} {params : List PyFloat} {op : GateOp}
    (built : newGateOp gate qubits params = .ok op) :
    qubits.length = (gateSpecs gate).qubits ∧ params.length = (gateSpecs gate).params := by
  unfold newGateOp GateOp.validateGateShape at built
  grind

theorem newGateOp_error {gate : NativeGate} {qubits : List Int} {params : List PyFloat} {failure : Failure}
    (refused : newGateOp gate qubits params = .error failure) :
    (∃ message, failure = .validation message) ∧
      (qubits.length ≠ (gateSpecs gate).qubits ∨ params.length ≠ (gateSpecs gate).params) := by
  unfold newGateOp GateOp.validateGateShape at refused
  grind

theorem fromEntry_eq (entry : NativeGate × Bool) (qubits : List Int) (params : List PyFloat) :
    fromEntry entry qubits params = newGateOp (kept params entry).1 qubits (kept params entry).2 := by
  obtain ⟨gate, keeps⟩ := entry
  unfold fromEntry kept
  by_cases identity : gate = .id
  · subst identity
    rfl
  · dsimp only
    rw [if_neg identity, if_neg identity]

/-- A gate statement is built from its representation, or rejected. -/
theorem openqasmGateToIr_eq (language : Language) (name : String) (params : List PyFloat) (qubits : List Int)
    (target : String) :
    (∃ gate given, represented language target name params = some (gate, given) ∧
        openqasmGateToIr language name params qubits target = newGateOp gate qubits given) ∨
      represented language target name params = none ∧
        ∃ message, openqasmGateToIr language name params qubits target = .error (.conversion message) := by
  unfold represented openqasmGateToIr openqasmGateToIrCz openqasmGateToIrCnot
  split
  · cases czGates.lookup name with
    | none => exact .inr ⟨rfl, _, rfl⟩
    | some entry => exact .inl ⟨_, _, rfl, fromEntry_eq entry qubits params⟩
  · split
    · cases cnotGates.lookup name with
      | some entry => exact .inl ⟨_, _, rfl, fromEntry_eq entry qubits params⟩
      | none =>
          cases params with
          | nil => exact .inr ⟨rfl, _, rfl⟩
          | cons angle others =>
              cases others with
              | cons other others => exact .inr ⟨rfl, _, rfl⟩
              | nil =>
                  dsimp only
                  by_cases named : name = "ry"
                  · rw [if_pos named]
                    cases close : language.isCloseToMinusHalfPi angle with
                    | true => exact .inl ⟨.yMinus90, [], by simp [named], by simp⟩
                    | false => exact .inr ⟨by simp, _, if_neg (by simp)⟩
                  · rw [if_neg named]
                    exact .inr ⟨by simp [named], _, rfl⟩
    · exact .inr ⟨rfl, _, rfl⟩

/-! ### One statement -/

variable {reading after : Reading} {statement : Statement} {raw : List Char} {failure : Failure}

theorem readIndex_error {digits : List Char} (refused : readIndex digits = .error failure) :
    (∃ message, failure = .value message) ∧ Long digits := by
  unfold readIndex at refused
  split at refused
  · cases refused
  · next long =>
    cases refused
    exact ⟨⟨_, rfl⟩, long⟩

theorem mapM_error {α β : Type} {read : α → Except Failure β} {items : List α}
    (refused : items.mapM read = .error failure) : ∃ item ∈ items, read item = .error failure := by
  induction items with
  | nil => cases refused
  | cons item items ih =>
      rw [List.mapM_cons] at refused
      cases first : read item with
      | error raised =>
          rw [first] at refused
          cases refused
          exact ⟨item, List.mem_cons_self, first⟩
      | ok value =>
          rw [first] at refused
          cases rest : items.mapM read with
          | error raised =>
              rw [rest] at refused
              cases refused
              obtain ⟨other, inside, same⟩ := ih rest
              exact ⟨other, List.mem_cons_of_mem _ inside, same⟩
          | ok values =>
              rw [rest] at refused
              cases refused

theorem readParams_error {params : Option (List Char)} (refused : readParams language params = .error failure) :
    (∃ message, failure = .value message) ∧ Unreadable language params := by
  cases params with
  | none => cases refused
  | some text =>
      unfold readParams at refused
      dsimp only at refused
      split at refused
      · cases refused
      · next given =>
        obtain ⟨param, inside, unread⟩ := mapM_error refused
        unfold readFloat at unread
        split at unread
        · cases unread
        · next missing =>
          cases unread
          exact ⟨⟨_, rfl⟩, text, rfl, given, param, inside, missing⟩

theorem readQubits_error {operands : List Char} (refused : readQubits language operands = .error failure) :
    (∃ message, failure = .value message) ∧
      ∃ index ∈ operandIndices language operands, Long index := by
  obtain ⟨index, inside, unread⟩ := mapM_error refused
  obtain ⟨value, long⟩ := readIndex_error unread
  exact ⟨value, index, inside, long⟩

theorem mapM_ok {α β : Type} {read : α → Except Failure β} {items : List α} {values : List β}
    (done : items.mapM read = .ok values) : ∀ item ∈ items, ∃ value, read item = .ok value := by
  induction items generalizing values with
  | nil =>
      intro item inside
      cases inside
  | cons item items ih =>
      rw [List.mapM_cons] at done
      cases first : read item with
      | error raised =>
          rw [first] at done
          cases done
      | ok value =>
          rw [first] at done
          cases rest : items.mapM read with
          | error raised =>
              rw [rest] at done
              cases done
          | ok values => exact List.forall_mem_cons.mpr ⟨⟨value, first⟩, ih rest⟩

theorem readIndex_long {digits : List Char} (long : Long digits) {value : Int} : readIndex digits ≠ .ok value := by
  rw [readIndex, long]
  simp

theorem readable_of_ok {params : Option (List Char)} {values : List PyFloat}
    (done : readParams language params = .ok values) : ¬ Unreadable language params := by
  rintro ⟨text, rfl, given, param, inside, unread⟩
  unfold readParams at done
  dsimp only at done
  rw [if_neg given] at done
  obtain ⟨value, read⟩ := mapM_ok done param inside
  rw [readFloat, unread] at read
  cases read

theorem short_of_ok {operands : List Char} {qubits : List Int} (done : readQubits language operands = .ok qubits) :
    ¬ ∃ index ∈ operandIndices language operands, Long index := by
  rintro ⟨index, inside, long⟩
  obtain ⟨value, read⟩ := mapM_ok done index inside
  exact readIndex_long long read

/-- What a statement does: it is read, it is rejected, or it breaks. -/
inductive Effect (broken rejected : Prop) (declared : Bool) : Except Failure Reading → Prop where
  | read {after : Reading} (goes : after.numQubits.isSome = declared) (whole : ¬ broken) (fine : ¬ rejected) :
      Effect broken rejected declared (.ok after)
  | rejects {message : String} (refused : rejected) (whole : ¬ broken) :
      Effect broken rejected declared (.error (.conversion message))
  | breaks {failure : Failure} (breaks : broken) (other : ∀ message, failure ≠ .conversion message) :
      Effect broken rejected declared (.error failure)

variable {broken rejected : Prop} {declared : Bool}

theorem Effect.value {message : String} (breaks : broken) :
    Effect broken rejected declared (.error (.value message)) :=
  .breaks breaks (by simp)

theorem Effect.validation {message : String} (breaks : broken) :
    Effect broken rejected declared (.error (.validation message)) :=
  .breaks breaks (by simp)

theorem qubits_effect (reading : Reading) (count : List Char) :
    Effect (Statement.Breaks language target reading.numQubits.isSome (.qubits count))
      (Statement.Rejected language target reading.numQubits.isSome (.qubits count)) true
      (readStatement language target reading (.qubits count)) := by
  unfold readStatement
  cases declared : reading.numQubits.isSome with
  | true =>
      refine .rejects rfl ?_
      rintro ⟨first, -⟩
      cases first
  | false =>
      dsimp only [Bool.false_eq_true, if_false]
      rw [if_neg Bool.false_ne_true]
      cases number : readIndex count with
      | ok value =>
          refine .read rfl ?_ Bool.false_ne_true
          rintro ⟨-, long⟩
          exact readIndex_long long number
      | error failure =>
          obtain ⟨⟨message, rfl⟩, long⟩ := readIndex_error number
          exact .value ⟨rfl, long⟩

theorem measure_effect (reading : Reading) (bit qubit : List Char) :
    Effect (Long qubit) False reading.numQubits.isSome
      (readStatement language target reading (.measure bit qubit)) := by
  unfold readStatement
  dsimp only
  cases number : readIndex qubit with
  | ok value => exact .read rfl (fun long => readIndex_long long number) id
  | error failure =>
      obtain ⟨⟨message, rfl⟩, long⟩ := readIndex_error number
      exact .value long

theorem gate_effect (reading : Reading) (name operands : List Char) (params : Option (List Char)) :
    Effect (Statement.Breaks language target reading.numQubits.isSome (.gate name params operands))
      (Statement.Rejected language target reading.numQubits.isSome (.gate name params operands))
      reading.numQubits.isSome (readStatement language target reading (.gate name params operands)) := by
  unfold readStatement
  dsimp only
  cases values : readParams language params with
  | error failure =>
      obtain ⟨⟨message, rfl⟩, unreadable⟩ := readParams_error values
      exact .value (.inl unreadable)
  | ok values' =>
      cases qubits : readQubits language operands with
      | error failure =>
          obtain ⟨⟨message, rfl⟩, long⟩ := readQubits_error qubits
          exact .value (.inr (.inl long))
      | ok qubits' =>
          have readable := readable_of_ok values
          have short := short_of_ok qubits
          have built := openqasmGateToIr_eq language (String.ofList name) values' qubits' target
          change Effect _ _ _ (do
            let op ← openqasmGateToIr language (String.ofList name) values' qubits' target
            return { reading with gates := reading.gates ++ [op] })
          rcases built with ⟨gate, given, entry, same⟩ | ⟨missing, message, same⟩
          · rw [same]
            have fine : ¬ Statement.Rejected language target reading.numQubits.isSome
                (.gate name params operands) := by
              rintro ⟨others, indices, read, -, missing⟩
              cases values.symm.trans read
              rw [entry] at missing
              cases missing
            cases made : newGateOp gate qubits' given with
            | ok op =>
                refine .read rfl ?_ fine
                rintro (unreadable | long | ⟨others, indices, gate', given', read, counted, entry', wrong⟩)
                · exact readable unreadable
                · exact short long
                · cases values.symm.trans read
                  cases qubits.symm.trans counted
                  cases entry.symm.trans entry'
                  obtain ⟨operands, parameters⟩ := newGateOp_ok made
                  exact wrong.elim (fun wrong => wrong operands) fun wrong => wrong parameters
            | error failure =>
                obtain ⟨⟨message, rfl⟩, wrong⟩ := newGateOp_error made
                exact .validation (.inr (.inr ⟨_, _, gate, given, values, qubits, entry, wrong⟩))
          · rw [same]
            refine .rejects ⟨_, _, values, qubits, missing⟩ ?_
            rintro (unreadable | long | ⟨others, indices, gate, given, read, -, entry, -⟩)
            · exact readable unreadable
            · exact short long
            · cases values.symm.trans read
              rw [missing] at entry
              cases entry

theorem readStatement_effect (reading : Reading) (statement : Statement) :
    Effect (statement.Breaks language target reading.numQubits.isSome)
      (statement.Rejected language target reading.numQubits.isSome)
      (reading.numQubits.isSome || statement.declares) (readStatement language target reading statement) := by
  cases statement with
  | header | includes | bits => exact .read (Bool.or_false _).symm id id
  | qubits count =>
      change Effect _ _ (_ || true) _
      rw [Bool.or_true]
      exact qubits_effect reading count
  | measure bit qubit =>
      change Effect _ _ (_ || false) _
      rw [Bool.or_false]
      exact measure_effect reading bit qubit
  | gate name params operands =>
      change Effect _ _ (_ || false) _
      rw [Bool.or_false]
      exact gate_effect reading name operands params

theorem Effect.imp {broken' rejected' : Prop} {result : Except Failure Reading}
    (effect : Effect broken rejected declared result) (breaks : broken' ↔ broken) (rejects : rejected' ↔ rejected) :
    Effect broken' rejected' declared result := by
  rw [breaks, rejects]
  exact effect

/-- What a line does. -/
theorem readLine_effect (reading : Reading) (raw : List Char) :
    Effect (Breaks language target reading.numQubits.isSome raw)
      (Rejected language target reading.numQubits.isSome raw)
      (reading.numQubits.isSome || declares language raw) (readLine language target reading raw) := by
  unfold readLine Breaks Rejected declares Says
  dsimp only
  cases skipped : isSkipped (strip raw) with
  | true => exact .read (by simp) (by simp) (by simp)
  | false =>
      cases matched : statementAt language (strip raw) with
      | none => exact .rejects (by simp) (by simp)
      | some found =>
          obtain ⟨statement, rest⟩ := found
          exact (readStatement_effect reading statement).imp (by simp) (by simp)

/-! ### All lines -/

variable {lines : List (List Char)}

theorem shielded_nil : Shielded language target declared [] := by
  intro before line after same
  cases before <;> cases same

theorem shielded_cons {line : List Char} : Shielded language target declared (line :: lines) ↔
    ¬ Breaks language target declared line ∧
      (Rejected language target declared line ∨ Shielded language target (declared || declares language line) lines) := by
  constructor
  · intro shielded
    constructor
    · intro breaks
      obtain ⟨front, rejected, behind, same, -⟩ := shielded [] line lines rfl (by simpa using breaks)
      cases front <;> cases same
    · by_cases rejected : Rejected language target declared line
      · exact .inl rejected
      · right
        rintro before broken after rfl breaks
        obtain ⟨front, refused, behind, same, refusal⟩ := shielded (line :: before) broken after rfl (by
          simpa [Bool.or_assoc] using breaks)
        cases front with
        | nil =>
            cases same
            exact absurd (by simpa using refusal) rejected
        | cons first front =>
            cases same
            exact ⟨front, refused, behind, rfl, by simpa [Bool.or_assoc] using refusal⟩
  · rintro ⟨whole, shield⟩ before broken after same breaks
    cases before with
    | nil =>
        cases same
        exact absurd (by simpa using breaks) whole
    | cons first before =>
        cases same
        rcases shield with rejected | shielded
        · exact ⟨[], line, before, rfl, by simpa using rejected⟩
        · obtain ⟨front, refused, behind, rfl, refusal⟩ := shielded before broken after rfl (by
            simpa [Bool.or_assoc] using breaks)
          exact ⟨line :: front, refused, behind, rfl, by simpa [Bool.or_assoc] using refusal⟩

/-- The lines are read without another exception exactly when they are shielded. -/
theorem foldlM_tame (reading : Reading) :
    Tame (lines.foldlM (readLine language target) reading) ↔
      Shielded language target reading.numQubits.isSome lines := by
  induction lines generalizing reading with
  | nil =>
      refine iff_of_true ?_ shielded_nil
      intro failure refused
      cases refused
  | cons line lines ih =>
      rw [shielded_cons, List.foldlM_cons]
      have effect : Effect (Breaks language target reading.numQubits.isSome line)
          (Rejected language target reading.numQubits.isSome line)
          (reading.numQubits.isSome || declares language line) (readLine language target reading line) :=
        readLine_effect reading line
      generalize readLine language target reading line = result at effect
      cases effect with
      | @read after goes whole fine =>
          change Tame (lines.foldlM (readLine language target) after) ↔ _
          rw [ih after, goes]
          exact ⟨fun shielded => ⟨whole, .inr shielded⟩, fun shield => shield.2.resolve_left fine⟩
      | @rejects message refused whole =>
          refine iff_of_true ?_ ⟨whole, .inl refused⟩
          intro failure same
          cases same
          exact ⟨message, rfl⟩
      | @breaks failure breaks other =>
          refine iff_of_false ?_ fun shield => shield.1 breaks
          intro tame
          obtain ⟨message, same⟩ := tame failure rfl
          exact other message same

/-- Behind the lines only a `QASMConversionError` can be raised. -/
theorem openqasmToIr_tame {now qasm : String} {metadata : Option IRMetadata} :
    Tame (openqasmToIr language now qasm target metadata) ↔
      Tame ((linesOf qasm).foldlM (readLine language target) {}) := by
  unfold openqasmToIr
  cases (linesOf qasm).foldlM (readLine language target) {} with
  | error failure =>
      constructor
      · intro tame raised same
        cases same
        exact tame failure rfl
      · intro tame raised same
        cases same
        exact tame failure rfl
  | ok reading =>
      refine iff_of_true ?_ ?_
      · intro failure raised
        dsimp only [bind, Except.bind] at raised
        split at raised
        · cases raised
          exact ⟨_, rfl⟩
        · split at raised
          · cases raised
          · cases raised
            exact ⟨_, rfl⟩
      · intro failure raised
        cases raised

end QasmErrors

/-- `openqasm_to_ir` returns a circuit that the validators accept, or raises a `QASMConversionError`, exactly
when every line that cannot be turned into values stands behind a line that is rejected. -/
theorem openqasmToIr_converts_iff (language : Language) (now qasm target : String) (metadata : Option IRMetadata) :
    ((∃ ir : NativeGateIR, openqasmToIr language now qasm target metadata = .ok ir ∧
          ir.toIRFields.validate = .ok ()) ∨
        ∃ message, openqasmToIr language now qasm target metadata = .error (.conversion message)) ↔
      Shielded language target false (linesOf qasm) := by
  have tame : QasmErrors.Tame (openqasmToIr language now qasm target metadata) ↔
      Shielded language target false (linesOf qasm) :=
    QasmErrors.openqasmToIr_tame.trans (QasmErrors.foldlM_tame {})
  rw [← tame]
  constructor
  · rintro (⟨ir, same, -⟩ | ⟨message, same⟩) failure raised
    · rw [same] at raised
      cases raised
    · rw [same] at raised
      cases raised
      exact ⟨message, rfl⟩
  · intro tame
    cases outcome : openqasmToIr language now qasm target metadata with
    | ok ir => exact .inl ⟨ir, rfl, ir.valid⟩
    | error failure =>
        obtain ⟨message, rfl⟩ := tame failure outcome
        exact .inr ⟨message, rfl⟩

namespace QasmErrors

/-- No letters beyond ASCII, and the two floats of the texts below. -/
def plain : Language where
  alphanumeric _ := false
  repr := String.ofList
  readFloat text := if text = "0.5" then some (.finite (1 / 2)) else none
  showFloat _ := "0.5"
  formatFloat _ := "0.5"
  minusHalfPi := .finite (-(3 / 2))
  isCloseToMinusHalfPi _ := false

/-- The text raises a `ValueError`. -/
def raisesValue (qasm : String) : Bool :=
  match openqasmToIr plain "" qasm "cz" none with
  | .error (.value _) => true
  | _ => false

/-- The text raises a `ValidationError`. -/
def raisesValidation (qasm : String) : Bool :=
  match openqasmToIr plain "" qasm "cz" none with
  | .error (.validation _) => true
  | _ => false

end QasmErrors

/-- A symbolic angle raises a `ValueError`, and a gate with one operand too few a `ValidationError`. -/
theorem openqasmToIr_escapes :
    (∃ failure, openqasmToIr QasmErrors.plain "" "qubit[2] q;\nrx(pi/2) q[0];" "cz" none = .error failure ∧
        ∀ message, failure ≠ .conversion message) ∧
      ∃ failure, openqasmToIr QasmErrors.plain "" "qubit[2] q;\ncz q[0];" "cz" none = .error failure ∧
        ∀ message, failure ≠ .conversion message := by
  have value : QasmErrors.raisesValue "qubit[2] q;\nrx(pi/2) q[0];" = true := by decide +kernel
  have validation : QasmErrors.raisesValidation "qubit[2] q;\ncz q[0];" = true := by decide +kernel
  unfold QasmErrors.raisesValue at value
  unfold QasmErrors.raisesValidation at validation
  constructor
  · split at value
    · next message raised => exact ⟨_, raised, by simp⟩
    · cases value
  · split at validation
    · next message raised => exact ⟨_, raised, by simp⟩
    · cases validation

end CodaNode.Qasm
