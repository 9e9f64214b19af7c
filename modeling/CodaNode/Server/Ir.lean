/-
Module: CodaNode.Server.Ir
Layer: Server
Purpose: The native-gate intermediate representation and its validators. The typed field values are
  one structure, `IRFields`; a `NativeGateIR` carries the proof that the validators accepted them, so
  an invalid circuit is not a value of that type. The reader of the JSON text belongs to pydantic and
  is a parameter of `NativeGateIR.fromJson`.
Imports: none
Main exports: NativeGate, GateOp, IRFields, IRFields.validate, NativeGateIR, NativeGateIR.fromJson
-/

namespace CodaNode

/-- A Python float as far as this program looks at it: an exact value, or one of the others. -/
inductive PyFloat where
  | finite (value : Rat)
  | infinite (negative : Bool)
  | nan
deriving Repr, DecidableEq

/-- The gate identifiers. [SRC ir.py:41-54] -/
inductive NativeGate where
  | rx
  | ry
  | rz
  | cz
  | iswap
  | cp
  | id
  | x90
  | yMinus90
  | virtualZ
  | cnot
deriving Repr, DecidableEq

/-- The text of a gate identifier. -/
def NativeGate.value : NativeGate → String
  | .rx => "rx"
  | .ry => "ry"
  | .rz => "rz"
  | .cz => "cz"
  | .iswap => "iswap"
  | .cp => "cp"
  | .id => "id"
  | .x90 => "x90"
  | .yMinus90 => "y_minus_90"
  | .virtualZ => "virtual_z"
  | .cnot => "cnot"

/-- The operand counts of one gate. -/
structure GateSpec where
  qubits : Nat
  params : Nat
deriving Repr, DecidableEq

/-- `GATE_SPECS`. [SRC ir.py:57-69] -/
def gateSpecs : NativeGate → GateSpec
  | .rx => ⟨1, 1⟩
  | .ry => ⟨1, 1⟩
  | .rz => ⟨1, 1⟩
  | .cz => ⟨2, 0⟩
  | .iswap => ⟨2, 0⟩
  | .cp => ⟨2, 1⟩
  | .id => ⟨1, 1⟩
  | .x90 => ⟨1, 0⟩
  | .yMinus90 => ⟨1, 0⟩
  | .virtualZ => ⟨1, 1⟩
  | .cnot => ⟨2, 0⟩

/-- `LEGAL_GATES`. [SRC ir.py:71-85] -/
def legalGates : List (String × List NativeGate) :=
  [("cz", [.rx, .ry, .rz, .cz, .id]),
    ("iswap", [.rx, .ry, .rz, .iswap, .id]),
    ("pcz", [.rx, .ry, .rz, .cp, .id]),
    ("cnot", [.rx, .ry, .rz, .x90, .yMinus90, .virtualZ, .cnot, .id])]

/-- One gate with its operands. -/
structure GateOp where
  gate : NativeGate
  qubits : List Int
  params : List PyFloat
deriving Repr, DecidableEq

/-- [SRC ir.py:95-111] -/
def GateOp.validateGateShape (op : GateOp) : Except String Unit :=
  let spec := gateSpecs op.gate
  if op.qubits.length ≠ spec.qubits then
    .error s!"Gate {op.gate.value} requires {spec.qubits} qubit(s), got {op.qubits.length}"
  else if op.params.length ≠ spec.params then
    .error s!"Gate {op.gate.value} requires {spec.params} param(s), got {op.params.length}"
  else .ok ()

/-- Provenance of a compiled circuit. [SRC ir.py:114-120] -/
structure IRMetadata where
  sourceHash : String
  compiledAt : String
  compilerVersion : String := "0.1.0"
  optimizationLevel : Int := 2
deriving Repr, DecidableEq

/-- The typed fields of a circuit before the validators have run. [SRC ir.py:123-136] -/
structure IRFields where
  version : String := "1.0"
  target : String
  numQubits : Int
  gates : List GateOp
  measurements : List Int
  metadata : IRMetadata
deriving Repr, DecidableEq

namespace IRFields

/-- The constraints declared with the fields: the literal version and the two ranges. -/
def checkBounds (ir : IRFields) : Except String Unit :=
  if ir.version ≠ "1.0" then .error "Input should be '1.0'"
  else if ir.numQubits < 1 then .error "Input should be greater than or equal to 1"
  else if 50 < ir.numQubits then .error "Input should be less than or equal to 50"
  else if ir.metadata.optimizationLevel < 0 then .error "Input should be greater than or equal to 0"
  else if 3 < ir.metadata.optimizationLevel then .error "Input should be less than or equal to 3"
  else .ok ()

/-- [SRC ir.py:138-146] -/
def validateTarget (ir : IRFields) : Except String Unit :=
  match legalGates.lookup ir.target with
  | some _ => .ok ()
  | none => .error s!"Unknown target '{ir.target}'. Valid: ['cz', 'iswap', 'pcz', 'cnot']"

/-- The first qubit index outside `[0, num_qubits)`. -/
def outOfRange (ir : IRFields) (qubits : List Int) : Option Int :=
  qubits.find? fun qubit => qubit < 0 || ir.numQubits ≤ qubit

/-- The gate loop of `validate_consistency`. -/
def checkGates (ir : IRFields) (legal : List NativeGate) : Nat → List GateOp → Except String Unit
  | _, [] => .ok ()
  | index, op :: rest =>
      if op.gate ∉ legal then
        .error s!"Gate '{op.gate.value}' not legal for target '{ir.target}' at index {index}"
      else
        match ir.outOfRange op.qubits with
        | some qubit =>
            .error s!"Qubit {qubit} out of range [0, {ir.numQubits}) at gate index {index}"
        | none => checkGates ir legal (index + 1) rest

/-- [SRC ir.py:148-168] -/
def validateConsistency (ir : IRFields) : Except String Unit := do
  ir.checkGates ((legalGates.lookup ir.target).getD []) 0 ir.gates
  match ir.outOfRange ir.measurements with
  | some qubit => .error s!"Measurement qubit {qubit} out of range [0, {ir.numQubits})"
  | none => .ok ()

/-- All checks pydantic runs on typed field values. -/
def validate (ir : IRFields) : Except String Unit := do
  ir.gates.forM GateOp.validateGateShape
  ir.checkBounds
  ir.validateTarget
  ir.validateConsistency

end IRFields

/-- A circuit the validators have accepted. -/
structure NativeGateIR extends IRFields where
  valid : toIRFields.validate = .ok ()
deriving DecidableEq

/-- `NativeGateIR.from_json` over a reader of typed fields. [SRC ir.py:170-178] -/
def NativeGateIR.fromJson (readFields : String → Except String IRFields) (text : String) :
    Except String NativeGateIR :=
  match readFields text with
  | .error message => .error message
  | .ok ir =>
      match checked : ir.validate with
      | .ok () => .ok ⟨ir, checked⟩
      | .error message => .error message

end CodaNode
