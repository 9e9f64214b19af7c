/-
Module: CodaNode.Server.IrJson
Layer: Server
Purpose: A circuit as a JSON value and back. The texts belong to pydantic, and so do the readers of the
  single field values: they are a parameter, `Pydantic`, with what its documentation promises. Which
  keys are written, which are read and which have defaults is this program's.
Imports: CodaNode.Server.Ir, CodaNode.Python.Json
Main exports: Pydantic, Pydantic.Documented, NativeGateIR.modelDump, NativeGateIR.toJson,
  Pydantic.readFields
-/
import CodaNode.Server.Ir
import CodaNode.Python.Json

namespace CodaNode

open Python (Json)

/-- Neither an infinity nor a NaN. -/
def PyFloat.isFinite : PyFloat → Bool
  | .finite _ => true
  | .infinite _ | .nan => false

/-- The gate identifier a text names. -/
def NativeGate.ofValue (text : String) : Option NativeGate :=
  [NativeGate.rx, .ry, .rz, .cz, .iswap, .cp, .id, .x90, .yMinus90, .virtualZ, .cnot].find?
    fun gate => gate.value = text

mutual

/-- A value as it stands in the text: a float that is not finite is written as null. -/
def asWritten : Json PyFloat → Json PyFloat
  | .float value => if value.isFinite then .float value else .null
  | .list items => .list (asWrittenItems items)
  | .dict entries => .dict (asWrittenEntries entries)
  | .null => .null
  | .bool value => .bool value
  | .int value => .int value
  | .str value => .str value

def asWrittenItems : List (Json PyFloat) → List (Json PyFloat)
  | [] => []
  | item :: items => asWritten item :: asWrittenItems items

def asWrittenEntries : List (String × Json PyFloat) → List (String × Json PyFloat)
  | [] => []
  | (key, item) :: entries => (key, asWritten item) :: asWrittenEntries entries

end

/-- The writer and the reader of JSON texts, and the readers of single values. -/
structure Pydantic where
  write : Json PyFloat → String
  read : String → Except String (Json PyFloat)
  readInt : Json PyFloat → Except String Int
  readFloat : Json PyFloat → Except String PyFloat
  readStr : Json PyFloat → Except String String

namespace Pydantic

/-- Values of the type of their field read back unchanged, and null is no float. -/
structure Documented (pydantic : Pydantic) : Prop where
  int : ∀ value, pydantic.readInt (.int value) = .ok value
  float : ∀ value, pydantic.readFloat (.float (.finite value)) = .ok (.finite value)
  str : ∀ value, pydantic.readStr (.str value) = .ok value
  null : ∀ value, pydantic.readFloat .null ≠ .ok value

/-- The text of the value reads back as it was written. -/
def Carries (pydantic : Pydantic) (tree : Json PyFloat) : Prop :=
  pydantic.read (pydantic.write tree) = .ok (asWritten tree)

/-- The entries of an object. -/
def readDict : Json PyFloat → Except String (List (String × Json PyFloat))
  | .dict entries => .ok entries
  | _ => .error "Input should be an object"

/-- The items of an array, each read. -/
def readList {α : Type} (readItem : Json PyFloat → Except String α) :
    Json PyFloat → Except String (List α)
  | .list items => items.mapM readItem
  | _ => .error "Input should be a valid array"

/-- A field without a default. -/
def required {α : Type} (entries : List (String × Json PyFloat)) (key : String)
    (readValue : Json PyFloat → Except String α) : Except String α :=
  match Json.get entries key with
  | some value => readValue value
  | none => .error "Field required"

/-- A field with a default. -/
def optional {α : Type} (entries : List (String × Json PyFloat)) (key : String)
    (readValue : Json PyFloat → Except String α) (default : α) : Except String α :=
  match Json.get entries key with
  | some value => readValue value
  | none => .ok default

variable (pydantic : Pydantic)

/-- The enumeration is read by its values. -/
def readGate (tree : Json PyFloat) : Except String NativeGate := do
  let text ← pydantic.readStr tree
  match NativeGate.ofValue text with
  | some gate => .ok gate
  | none =>
      .error ("Input should be 'rx', 'ry', 'rz', 'cz', 'iswap', 'cp', 'id', 'x90', 'y_minus_90', " ++
        "'virtual_z' or 'cnot'")

/-- [SRC ir.py:88-93] -/
def readOp (tree : Json PyFloat) : Except String GateOp := do
  let entries ← readDict tree
  let gate ← required entries "gate" pydantic.readGate
  let qubits ← required entries "qubits" (readList pydantic.readInt)
  let params ← optional entries "params" (readList pydantic.readFloat) []
  pure ⟨gate, qubits, params⟩

/-- [SRC ir.py:114-120] -/
def readMetadata (tree : Json PyFloat) : Except String IRMetadata := do
  let entries ← readDict tree
  let sourceHash ← required entries "source_hash" pydantic.readStr
  let compiledAt ← required entries "compiled_at" pydantic.readStr
  let compilerVersion ← optional entries "compiler_version" pydantic.readStr "0.1.0"
  let optimizationLevel ← optional entries "optimization_level" pydantic.readInt 2
  pure ⟨sourceHash, compiledAt, compilerVersion, optimizationLevel⟩

/-- [SRC ir.py:131-136] -/
def readIR (tree : Json PyFloat) : Except String IRFields := do
  let entries ← readDict tree
  let version ← optional entries "version" pydantic.readStr "1.0"
  let target ← required entries "target" pydantic.readStr
  let numQubits ← required entries "num_qubits" pydantic.readInt
  let gates ← required entries "gates" (readList pydantic.readOp)
  let measurements ← required entries "measurements" (readList pydantic.readInt)
  let metadata ← required entries "metadata" pydantic.readMetadata
  pure ⟨version, target, numQubits, gates, measurements, metadata⟩

/-- The typed fields a text carries. -/
def readFields (text : String) : Except String IRFields := do
  let tree ← pydantic.read text
  pydantic.readIR tree

end Pydantic

/-- [SRC ir.py:88-93] -/
def GateOp.modelDump (op : GateOp) : Json PyFloat :=
  .dict [("gate", .str op.gate.value), ("qubits", .list (op.qubits.map .int)),
    ("params", .list (op.params.map .float))]

/-- [SRC ir.py:114-120] -/
def IRMetadata.modelDump (metadata : IRMetadata) : Json PyFloat :=
  .dict [("source_hash", .str metadata.sourceHash), ("compiled_at", .str metadata.compiledAt),
    ("compiler_version", .str metadata.compilerVersion),
    ("optimization_level", .int metadata.optimizationLevel)]

/-- [SRC ir.py:131-136] -/
def NativeGateIR.modelDump (ir : NativeGateIR) : Json PyFloat :=
  .dict [("version", .str ir.version), ("target", .str ir.target), ("num_qubits", .int ir.numQubits),
    ("gates", .list (ir.gates.map GateOp.modelDump)), ("measurements", .list (ir.measurements.map .int)),
    ("metadata", ir.metadata.modelDump)]

/-- `NativeGateIR.to_json`. [SRC ir.py:180-182] -/
def NativeGateIR.toJson (pydantic : Pydantic) (ir : NativeGateIR) : String :=
  pydantic.write ir.modelDump

end CodaNode
