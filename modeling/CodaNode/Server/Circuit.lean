/-
Module: CodaNode.Server.Circuit
Layer: Server
Purpose: What the validators of a circuit accept, said without them: the target is known, the number of
  qubits is admitted, every gate is legal for the target and has the operands of its kind, and every
  qubit index is in range. The two agree on all typed field values.
Imports: CodaNode.Server.Ir
Main exports: IRFields.Typed, IRFields.Executable, IRFields.validate_iff
-/
import CodaNode.Server.Ir

namespace CodaNode

/-- The gate has the operand counts of its kind. -/
structure GateOp.Shaped (op : GateOp) : Prop where
  qubits : op.qubits.length = (gateSpecs op.gate).qubits
  params : op.params.length = (gateSpecs op.gate).params

namespace IRFields

/-- The constraints that belong to the types of the fields: the literal version and the range of the
optimization level. -/
structure Typed (ir : IRFields) : Prop where
  version : ir.version = "1.0"
  level : 0 ≤ ir.metadata.optimizationLevel ∧ ir.metadata.optimizationLevel ≤ 3

/-- The index denotes a qubit of the circuit. -/
def InRange (ir : IRFields) (qubit : Int) : Prop := 0 ≤ qubit ∧ qubit < ir.numQubits

/-- A circuit that hardware of its target can execute. -/
structure Executable (ir : IRFields) : Prop where
  target : ∃ legal, legalGates.lookup ir.target = some legal ∧ ∀ op ∈ ir.gates, op.gate ∈ legal
  size : 1 ≤ ir.numQubits ∧ ir.numQubits ≤ 50
  shaped : ∀ op ∈ ir.gates, op.Shaped
  operands : ∀ op ∈ ir.gates, ∀ qubit ∈ op.qubits, ir.InRange qubit
  measured : ∀ qubit ∈ ir.measurements, ir.InRange qubit

end IRFields

/-! ### One check at a time -/

/-- Two checks in sequence accept what both accept. -/
theorem checks_iff {first second : Except String Unit} :
    (first >>= fun _ => second) = .ok () ↔ first = .ok () ∧ second = .ok () := by
  cases first with
  | error message => simp [bind, Except.bind]
  | ok => simp [bind, Except.bind]

/-- A check that has passed leaves the checks behind it. -/
theorem guard_iff {bad : Prop} [Decidable bad] {message : String} {rest : Except String Unit} :
    (if bad then .error message else rest) = .ok () ↔ ¬ bad ∧ rest = .ok () := by
  by_cases refused : bad <;> simp [refused]

/-- A check made on every item of a list. -/
theorem forM_ok_iff {α : Type} {check : α → Except String Unit} {items : List α} :
    items.forM check = .ok () ↔ ∀ item ∈ items, check item = .ok () := by
  induction items with
  | nil => simp [pure, Except.pure]
  | cons item rest ih =>
      rw [List.forall_mem_cons, ← ih, ← checks_iff]
      rfl

theorem GateOp.validateGateShape_iff {op : GateOp} : op.validateGateShape = .ok () ↔ op.Shaped := by
  simp only [validateGateShape, guard_iff, ne_eq, Decidable.not_not, and_true]
  constructor
  · intro ⟨qubits, params⟩
    exact ⟨qubits, params⟩
  · intro shaped
    exact ⟨shaped.qubits, shaped.params⟩

namespace IRFields

variable {ir : IRFields}

theorem outOfRange_iff {qubits : List Int} :
    ir.outOfRange qubits = none ↔ ∀ qubit ∈ qubits, ir.InRange qubit := by
  simp only [outOfRange, List.find?_eq_none, Bool.or_eq_true, decide_eq_true_eq, not_or, Int.not_lt,
    Int.not_le, InRange]

theorem checkBounds_iff :
    ir.checkBounds = .ok () ↔ ir.Typed ∧ 1 ≤ ir.numQubits ∧ ir.numQubits ≤ 50 := by
  simp only [checkBounds, guard_iff, ne_eq, Decidable.not_not, and_true, Int.not_lt]
  constructor
  · intro ⟨version, least, most, low, high⟩
    exact ⟨⟨version, low, high⟩, least, most⟩
  · intro ⟨typed, least, most⟩
    exact ⟨typed.version, least, most, typed.level⟩

theorem validateTarget_iff :
    ir.validateTarget = .ok () ↔ ∃ legal, legalGates.lookup ir.target = some legal := by
  unfold validateTarget
  cases legalGates.lookup ir.target <;> simp

/-- The gate loop accepts the rest of the list when every gate in it is legal and in range. -/
theorem checkGates_iff {legal : List NativeGate} {gates : List GateOp} {index : Nat} :
    ir.checkGates legal index gates = .ok () ↔
      ∀ op ∈ gates, op.gate ∈ legal ∧ ∀ qubit ∈ op.qubits, ir.InRange qubit := by
  induction gates generalizing index with
  | nil => simp [checkGates]
  | cons op rest ih =>
      rw [List.forall_mem_cons, ← outOfRange_iff, checkGates, guard_iff, Decidable.not_not]
      cases ir.outOfRange op.qubits <;> simp [ih]

theorem validateConsistency_iff :
    ir.validateConsistency = .ok () ↔
      (∀ op ∈ ir.gates, op.gate ∈ (legalGates.lookup ir.target).getD [] ∧
        ∀ qubit ∈ op.qubits, ir.InRange qubit) ∧ ∀ qubit ∈ ir.measurements, ir.InRange qubit := by
  unfold validateConsistency
  rw [checks_iff, checkGates_iff, ← outOfRange_iff]
  cases ir.outOfRange ir.measurements <;> simp

/-- The validators accept exactly the typed values that hardware of the target can execute. -/
theorem validate_iff : ir.validate = .ok () ↔ ir.Typed ∧ ir.Executable := by
  unfold validate
  rw [checks_iff, checks_iff, checks_iff, forM_ok_iff, checkBounds_iff, validateTarget_iff,
    validateConsistency_iff]
  constructor
  · rintro ⟨shapes, ⟨typed, size⟩, ⟨legal, target⟩, gates, measured⟩
    rw [target, Option.getD_some] at gates
    exact ⟨typed, ⟨legal, target, fun op inside => (gates op inside).1⟩, size,
      fun op inside => GateOp.validateGateShape_iff.mp (shapes op inside),
      fun op inside => (gates op inside).2, measured⟩
  · rintro ⟨typed, executable⟩
    obtain ⟨legal, target, known⟩ := executable.target
    rw [target, Option.getD_some]
    exact ⟨fun op inside => GateOp.validateGateShape_iff.mpr (executable.shaped op inside),
      ⟨typed, executable.size⟩, ⟨legal, rfl⟩,
      fun op inside => ⟨known op inside, executable.operands op inside⟩, executable.measured⟩

end IRFields

end CodaNode
