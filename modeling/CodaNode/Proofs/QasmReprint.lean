/-
Module: CodaNode.Proofs.QasmReprint
Layer: Proofs
Purpose: What `openqasm_to_ir` makes of a text it accepts, and what is left of the text where the circuit is printed
  again. The gates and the measurements are those of the statements at the starts of the lines, in order. A second
  program exists and is read as the same circuit; the bits of the measurements are renumbered, and all measurements
  stand behind all gates.
Imports: CodaNode.Proofs.QasmRoundTrip
Main exports: Statement.gateOp, Statement.measured, Statement.count, ReadAs, openqasmToIr_reprint
-/
import CodaNode.Proofs.QasmRoundTrip

namespace CodaNode.Qasm

open Python

/-- What becomes of a gate statement. -/
def Statement.gateOp (language : Language) (target : String) : Statement → Option (Except Failure GateOp)
  | .gate name params operands => some do
      let params ← readParams language params
      let qubits ← readQubits language operands
      openqasmGateToIr language (String.ofList name) params qubits target
  | _ => none

/-- The qubit of a measurement. -/
def Statement.measured : Statement → Option (Option Int)
  | .measure _ qubit => some (int (String.ofList qubit))
  | _ => none

/-- The number of qubits of a declaration. -/
def Statement.count : Statement → Option (Option Int)
  | .qubits count => some (int (String.ofList count))
  | _ => none

/-- The circuit is that of the text: every line that is not skipped starts with a statement, one statement declares
the qubits, the gates are those of the gate statements, and the measurements those of the measurement statements. -/
structure ReadAs (language : Language) (target qasm : String) (ir : IRFields) : Prop where
  lines : ∀ raw ∈ linesOf qasm, isSkipped (strip raw) = true ∨ (statementOf language raw).isSome
  aim : ir.target = target
  declared : (statementsOf language qasm).filterMap Statement.count = [some ir.numQubits]
  gates : (statementsOf language qasm).filterMap (Statement.gateOp language target) = ir.gates.map .ok
  measurements : (statementsOf language qasm).filterMap Statement.measured = ir.measurements.map some

namespace QasmReprint

variable {language : Language} {target : String} {reading after : Reading} {statement : Statement}

/-- The statements account for what has been read between two points. -/
structure Accounts (language : Language) (target : String) (statements : List Statement) (reading after : Reading) :
    Prop where
  declared : reading.numQubits.toList.map some ++ statements.filterMap Statement.count =
    after.numQubits.toList.map some
  gates : reading.gates.map .ok ++ statements.filterMap (Statement.gateOp language target) = after.gates.map .ok
  measurements : reading.measurements.map some ++ statements.filterMap Statement.measured =
    after.measurements.map some

theorem Accounts.refl (reading : Reading) : Accounts language target [] reading reading :=
  ⟨List.append_nil _, List.append_nil _, List.append_nil _⟩

theorem Accounts.trans {first second : List Statement} {middle : Reading}
    (earlier : Accounts language target first reading middle) (later : Accounts language target second middle after) :
    Accounts language target (first ++ second) reading after := by
  constructor
  · rw [List.filterMap_append, ← List.append_assoc, earlier.declared, later.declared]
  · rw [List.filterMap_append, ← List.append_assoc, earlier.gates, later.gates]
  · rw [List.filterMap_append, ← List.append_assoc, earlier.measurements, later.measurements]

theorem readIndex_ok {digits : List Char} {number : Int} (read : readIndex digits = .ok number) :
    int (String.ofList digits) = some number := by
  unfold readIndex at read
  split at read
  · next value same =>
    cases read
    exact same
  · cases read

/-- One statement. -/
theorem readStatement_accounts (read : readStatement language target reading statement = .ok after) :
    Accounts language target [statement] reading after := by
  cases statement with
  | header | includes | bits =>
      cases read
      exact ⟨List.append_nil _, List.append_nil _, List.append_nil _⟩
  | qubits count =>
      rw [readStatement] at read
      split at read
      · cases read
      · next fresh =>
        cases number : readIndex count with
        | error failure =>
            rw [number] at read
            cases read
        | ok value =>
            rw [number] at read
            cases read
            have none : reading.numQubits = none := by simpa using fresh
            refine ⟨?_, List.append_nil _, List.append_nil _⟩
            simp [none, Statement.count, readIndex_ok number]
  | measure bit qubit =>
      rw [readStatement] at read
      cases number : readIndex qubit with
      | error failure =>
          rw [number] at read
          cases read
      | ok value =>
          rw [number] at read
          cases read
          refine ⟨List.append_nil _, List.append_nil _, ?_⟩
          simp [Statement.measured, readIndex_ok number]
  | gate name params operands =>
      have same : readStatement language target reading (.gate name params operands) = do
          let op ← (do
            let params ← readParams language params
            let qubits ← readQubits language operands
            openqasmGateToIr language (String.ofList name) params qubits target)
          return { reading with gates := reading.gates ++ [op] } := by
        simp only [readStatement, bind_assoc]
      rw [same] at read
      cases built : (do
          let params ← readParams language params
          let qubits ← readQubits language operands
          openqasmGateToIr language (String.ofList name) params qubits target : Except Failure GateOp) with
      | error failure =>
          rw [built] at read
          cases read
      | ok op =>
          rw [built] at read
          cases read
          refine ⟨List.append_nil _, ?_, List.append_nil _⟩
          simp [Statement.gateOp, built]

/-- All lines. -/
theorem foldlM_accounts {lines : List (List Char)} (read : lines.foldlM (readLine language target) reading = .ok after) :
    (∀ raw ∈ lines, isSkipped (strip raw) = true ∨ (statementOf language raw).isSome) ∧
      Accounts language target (lines.filterMap (statementOf language)) reading after := by
  induction lines generalizing reading with
  | nil =>
      cases read
      exact ⟨by simp, .refl _⟩
  | cons raw lines ih =>
      rw [List.foldlM_cons] at read
      cases first : readLine language target reading raw with
      | error failure =>
          rw [first] at read
          cases read
      | ok middle =>
          rw [first] at read
          obtain ⟨others, rest⟩ := ih read
          unfold readLine at first
          dsimp only at first
          split at first
          · next skipped =>
            cases first
            have here : statementOf language raw = none := if_pos skipped
            rw [List.filterMap_cons_none here]
            exact ⟨List.forall_mem_cons.mpr ⟨.inl skipped, others⟩, rest⟩
          · next unskipped =>
            split at first
            · next statement behind stated =>
              have here : statementOf language raw = some statement := by
                rw [statementOf, if_neg unskipped, stated]
                rfl
              rw [List.filterMap_cons_some here]
              exact ⟨List.forall_mem_cons.mpr ⟨.inr (by simp [here]), others⟩,
                (readStatement_accounts first).trans rest⟩
            · cases first

theorem newNativeGateIR_fields {fields : IRFields} {ir : NativeGateIR} (made : newNativeGateIR fields = .ok ir) :
    ir.toIRFields = fields := by
  unfold newNativeGateIR at made
  split at made
  · cases made
    rfl
  · cases made

/-- What is accepted is read as the text says. -/
theorem readAs_of_accepted {now qasm : String} {metadata : Option IRMetadata} {ir : NativeGateIR}
    (accepted : openqasmToIr language now qasm target metadata = .ok ir) :
    ReadAs language target qasm ir.toIRFields := by
  unfold openqasmToIr at accepted
  cases read : (linesOf qasm).foldlM (readLine language target) {} with
  | error failure =>
      rw [read] at accepted
      cases accepted
  | ok reading =>
      obtain ⟨lines, accounts⟩ := foldlM_accounts read
      rw [read] at accepted
      dsimp only [bind, Except.bind] at accepted
      split at accepted
      · cases accepted
      · next count declared =>
        split at accepted
        · next built made =>
          cases accepted
          rw [newNativeGateIR_fields made]
          refine ⟨lines, rfl, ?_, accounts.gates, accounts.measurements⟩
          have same := accounts.declared
          rw [declared] at same
          exact same
        · cases accepted

theorem newGateOp_gate {gate : NativeGate} {qubits : List Int} {params : List PyFloat} {op : GateOp}
    (built : newGateOp gate qubits params = .ok op) : op.gate = gate := by
  unfold newGateOp at built
  split at built
  · cases built
    rfl
  · cases built

/-- No rotation is read for the target `cnot`. -/
theorem gate_of_cnot {name : String} {params : List PyFloat} {qubits : List Int} {op : GateOp}
    (built : openqasmGateToIrCnot language name params qubits = .ok op) : op.gate ∉ [NativeGate.rx, .ry, .rz] := by
  have entries : ∀ entry ∈ cnotGates.map Prod.snd, entry.1 ∉ [NativeGate.rx, .ry, .rz] := by decide
  unfold openqasmGateToIrCnot at built
  cases found : cnotGates.lookup name with
  | some entry =>
      rw [found] at built
      dsimp only at built
      obtain ⟨before, behind, split, -⟩ := List.lookup_eq_some_iff.mp found
      have gate : op.gate = entry.1 := by
        unfold fromEntry at built
        split at built
        · exact newGateOp_gate built
        · exact newGateOp_gate built
      rw [gate]
      apply entries
      rw [split]
      simp
  | none =>
      rw [found] at built
      dsimp only at built
      split at built
      · split at built
        · split at built
          · rw [newGateOp_gate built]
            decide
          · cases built
        · cases built
      · cases built

/-- A gate that is read has a program. -/
theorem printable_of_gateOp {op : GateOp} (read : statement.gateOp language target = some (.ok op)) :
    Printable target op := by
  cases statement with
  | gate name params operands =>
      have built := Option.some.inj read
      cases values : readParams language params with
      | error failure =>
          rw [values] at built
          cases built
      | ok values' =>
          rw [values] at built
          dsimp only [bind, Except.bind] at built
          split at built
          · cases built
          · unfold openqasmGateToIr at built
            split at built
            · next cz => exact .inl cz
            · split at built
              · next cnot => exact .inr ⟨cnot, gate_of_cnot built⟩
              · cases built
  | _ => cases read

end QasmReprint

/-- An accepted text is read statement by statement. Its circuit has a program, which is read as the same circuit with
the angles as they are printed; there the measurements go to the bits 0, 1, 2, …, behind all gates. -/
theorem openqasmToIr_reprint (language : Language) (prints : language.Prints) (now later qasm target : String)
    (metadata : Option IRMetadata) (ir : NativeGateIR)
    (accepted : openqasmToIr language now qasm target metadata = .ok ir) :
    ReadAs language target qasm ir.toIRFields ∧ ∃ reprint, ProgramOf language later ir reprint := by
  have readAs := QasmReprint.readAs_of_accepted accepted
  refine ⟨readAs, QasmRoundTrip.programOf_printable prints later ir ?_⟩
  intro op inside
  have member : Except.ok op ∈ (statementsOf language qasm).filterMap (Statement.gateOp language target) := by
    rw [readAs.gates]
    exact List.mem_map_of_mem inside
  obtain ⟨statement, -, read⟩ := List.mem_filterMap.mp member
  rw [readAs.aim]
  exact QasmReprint.printable_of_gateOp read

namespace QasmReprint

/-- A measurement in front of a gate on its qubit. -/
def early : String := "qubit[2] q;\nc[1] = measure q[1];\nrx(0.5) q[1];"

/-- The circuit that is read. -/
def reads (qasm : String) (gates : List GateOp) (measurements : List Int) : Bool :=
  match openqasmToIr QasmRoundTrip.plain "" qasm "cz" none with
  | .ok ir => ir.gates = gates ∧ ir.measurements = measurements
  | .error _ => false

end QasmReprint

/-- In the second program the measurement goes to another bit, and stands behind the gate. -/
theorem openqasmToIr_reprint_early :
    ∃ ir reprint front, openqasmToIr QasmRoundTrip.plain "" QasmReprint.early "cz" none = .ok ir ∧
      irToOpenqasm QasmRoundTrip.plain ir = .ok reprint ∧
      statementsOf QasmRoundTrip.plain reprint = front ++ [.measure ['0'] ['1']] ∧
      ∀ statement ∈ front, statement.isMeasure = false := by
  have computed : QasmReprint.reads QasmReprint.early [⟨.rx, [1], [.finite (1 / 2)]⟩] [1] = true := by decide +kernel
  unfold QasmReprint.reads at computed
  split at computed
  · next ir accepted =>
    obtain ⟨-, reprint, program⟩ := openqasmToIr_reprint QasmRoundTrip.plain QasmRoundTrip.plain_prints "" ""
      QasmReprint.early "cz" none ir accepted
    obtain ⟨front, statements, plain⟩ := program.measures
    rw [(of_decide_eq_true computed).2] at statements
    exact ⟨ir, reprint, front, accepted, program.printed, statements, plain⟩
  · cases computed

end CodaNode.Qasm
