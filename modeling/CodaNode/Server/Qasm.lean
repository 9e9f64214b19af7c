/-
Module: CodaNode.Server.Qasm
Layer: Server
Purpose: `openqasm_to_ir` and `ir_to_openqasm`. A line is read by the patterns in their order; what follows
  the statement at its start is not looked at. The gates and the measurements are collected apart.
Imports: CodaNode.Python.Lines, CodaNode.Python.Regex, CodaNode.Server.Ir
Main exports: Language, Statement, statementAt, readLine, openqasmToIr, irToOpenqasm
-/
import CodaNode.Python.Lines
import CodaNode.Python.Regex
import CodaNode.Server.Ir

namespace CodaNode.Qasm

open Python

/-- What the language provides: the letters and numbers beyond ASCII, `repr`, and floats as texts. -/
structure Language where
  alphanumeric : Char → Bool
  repr : List Char → String
  readFloat : String → Option PyFloat
  showFloat : PyFloat → String
  formatFloat : PyFloat → String
  minusHalfPi : PyFloat
  isCloseToMinusHalfPi : PyFloat → Bool

/-- The exceptions: a `QASMConversionError`, the `ValueError` of a number that cannot be read, the
`ValidationError` of a gate, and an index that is not there. -/
inductive Failure where
  | conversion (message : String)
  | value (message : String)
  | validation (message : String)
  | index
deriving DecidableEq, Repr

/-! ### The patterns -/

/-- `\d` -/
def isDigit (char : Char) : Bool := (decimalValue char).isSome

/-- `\w` -/
def isWord (language : Language) (char : Char) : Bool :=
  char.isAlphanum || char = '_' || isDigit char || (128 ≤ char.toNat && !isSpace char && language.alphanumeric char)

section

variable (language : Language)

/-- A word. -/
def text (word : String) : Regex := .literal word.toList

/-- `_HEADER_RE` -/
def headerRe : Regex :=
  .all [text "OPENQASM", .plus isSpace, .plus fun char => isDigit char || char = '.', .many isSpace, text ";"]

/-- `_INCLUDE_RE` -/
def includeRe : Regex :=
  .all [text "include", .plus isSpace, text "\"", .plus (· ≠ '"'), text "\"", .many isSpace, text ";"]

/-- A declaration of a register. -/
def declarationRe (keyword : String) : Regex :=
  .all [text keyword, text "[", .group (.plus isDigit), text "]", .plus isSpace, .plus (isWord language),
    .many isSpace, text ";"]

/-- `_QUBIT_DECL_RE` -/
def qubitDeclRe : Regex := declarationRe language "qubit"

/-- `_BIT_DECL_RE` -/
def bitDeclRe : Regex := declarationRe language "bit"

/-- `_MEASURE_RE` -/
def measureRe : Regex :=
  .all [.plus (isWord language), text "[", .group (.plus isDigit), text "]", .many isSpace, text "=",
    .many isSpace, text "measure", .plus isSpace, .plus (isWord language), text "[", .group (.plus isDigit),
    text "]", .many isSpace, text ";"]

/-- `\w+\[\d+]` -/
def operandRe : Regex := .all [.plus (isWord language), text "[", .plus isDigit, text "]"]

/-- `_GATE_RE` -/
def gateRe : Regex :=
  .all [.group (.plus (isWord language)),
    .optional (.all [text "(", .group (.many (· ≠ ')')), text ")"]),
    .plus isSpace,
    .group (.all [operandRe language,
      .star (.all [.many isSpace, text ",", .many isSpace, operandRe language])]),
    .many isSpace, text ";"]

/-- `_QUBIT_REF_RE` -/
def qubitRefRe : Regex := .all [.plus (isWord language), text "[", .group (.plus isDigit), text "]"]

/-- What a line starts with. -/
inductive Statement where
  | header
  | includes
  | bits
  | qubits (count : List Char)
  | measure (bit qubit : List Char)
  | gate (name : List Char) (params : Option (List Char)) (operands : List Char)
deriving DecidableEq, Repr

/-- The statement at the start of a line, and the text behind it. -/
def statementAt (line : List Char) : Option (Statement × List Char) :=
  match headerRe.matchAt line with
  | some (_, rest) => some (.header, rest)
  | none =>
  match includeRe.matchAt line with
  | some (_, rest) => some (.includes, rest)
  | none =>
  match (bitDeclRe language).matchAt line with
  | some (_, rest) => some (.bits, rest)
  | none =>
  match (qubitDeclRe language).matchAt line with
  | some ([some count], rest) => some (.qubits count, rest)
  | _ =>
  match (measureRe language).matchAt line with
  | some ([some bit, some qubit], rest) => some (.measure bit qubit, rest)
  | _ =>
  match (gateRe language).matchAt line with
  | some ([some name, params, some operands], rest) => some (.gate name params operands, rest)
  | _ => none

end

/-! ### The gate tables -/

/-- `_openqasm_gate_to_ir_cz`: the gate, and whether its parameters are kept. [SRC qasm.py:246-252] -/
def czGates : List (String × NativeGate × Bool) :=
  [("rx", .rx, true), ("ry", .ry, true), ("rz", .rz, true), ("cz", .cz, false), ("id", .id, false)]

/-- `_openqasm_gate_to_ir_cnot` [SRC qasm.py:277-282] -/
def cnotGates : List (String × NativeGate × Bool) :=
  [("sx", .x90, false), ("rz", .virtualZ, true), ("cx", .cnot, false), ("id", .id, false)]

/-- `GateOp(gate=gate, qubits=qubits, params=params)` -/
def newGateOp (gate : NativeGate) (qubits : List Int) (params : List PyFloat) : Except Failure GateOp :=
  match (GateOp.mk gate qubits params).validateGateShape with
  | .ok () => .ok ⟨gate, qubits, params⟩
  | .error message => .error (.validation message)

/-- The operation of a table entry: an identity gate has no duration here. -/
def fromEntry (entry : NativeGate × Bool) (qubits : List Int) (params : List PyFloat) : Except Failure GateOp :=
  if entry.1 = .id then newGateOp entry.1 qubits [.finite 0]
  else newGateOp entry.1 qubits (if entry.2 then params else [])

/-- `_openqasm_gate_to_ir_cz` [SRC qasm.py:230-257] -/
def openqasmGateToIrCz (name : String) (params : List PyFloat) (qubits : List Int) : Except Failure GateOp :=
  match czGates.lookup name with
  | some entry => fromEntry entry qubits params
  | none => .error (.conversion s!"Gate '{name}' not supported for cz")

/-- `_openqasm_gate_to_ir_cnot` [SRC qasm.py:260-297] -/
def openqasmGateToIrCnot (language : Language) (name : String) (params : List PyFloat) (qubits : List Int) :
    Except Failure GateOp :=
  match cnotGates.lookup name with
  | some entry => fromEntry entry qubits params
  | none =>
      match params with
      | [angle] =>
          if name = "ry" then
            if language.isCloseToMinusHalfPi angle then newGateOp .yMinus90 qubits []
            else .error (.conversion (s!"ry({language.showFloat angle}) not representable in cnot " ++
              "(only ry(-π/2) maps to y_minus_90)"))
          else .error (.conversion s!"Gate '{name}' not supported for cnot")
      | _ => .error (.conversion s!"Gate '{name}' not supported for cnot")

/-- `_openqasm_gate_to_ir` [SRC qasm.py:206-227] -/
def openqasmGateToIr (language : Language) (name : String) (params : List PyFloat) (qubits : List Int)
    (target : String) : Except Failure GateOp :=
  if target = "cz" then openqasmGateToIrCz name params qubits
  else if target = "cnot" then openqasmGateToIrCnot language name params qubits
  else .error (.conversion s!"Unsupported target: {target}")

/-! ### The reader -/

/-- `int(digits)` -/
def readIndex (digits : List Char) : Except Failure Int :=
  match int (String.ofList digits) with
  | some number => .ok number
  | none => .error (.value "Exceeds the limit (4300 digits) for integer string conversion")

/-- `float(text)` -/
def readFloat (language : Language) (text : List Char) : Except Failure PyFloat :=
  match language.readFloat (String.ofList text) with
  | some value => .ok value
  | none => .error (.value s!"could not convert string to float: {language.repr text}")

/-- The parameters of a gate statement: `if m_g.group(2)`. -/
def readParams (language : Language) : Option (List Char) → Except Failure (List PyFloat)
  | none => .ok []
  | some text =>
      if text = [] then .ok []
      else (text.splitOn ',').mapM fun param => readFloat language (strip param)

/-- The indices in the operands of a gate statement. -/
def operandIndices (language : Language) (operands : List Char) : List (List Char) :=
  ((qubitRefRe language).findall operands).filterMap fun captured => captured.head?.join

/-- The qubits of a gate statement. -/
def readQubits (language : Language) (operands : List Char) : Except Failure (List Int) :=
  (operandIndices language operands).mapM readIndex

/-- What has been read so far. -/
structure Reading where
  numQubits : Option Int := none
  gates : List GateOp := []
  measurements : List Int := []

/-- A statement. [SRC qasm.py:110-136] -/
def readStatement (language : Language) (target : String) (reading : Reading) :
    Statement → Except Failure Reading
  | .header | .includes | .bits => .ok reading
  | .qubits count =>
      if reading.numQubits.isSome then
        .error (.conversion "Multiple qubit register declarations are not supported")
      else do
        let number ← readIndex count
        return { reading with numQubits := some number }
  | .measure _ qubit => do
      let number ← readIndex qubit
      return { reading with measurements := reading.measurements ++ [number] }
  | .gate name params operands => do
      let params ← readParams language params
      let qubits ← readQubits language operands
      let op ← openqasmGateToIr language (String.ofList name) params qubits target
      return { reading with gates := reading.gates ++ [op] }

/-- The line is empty or a comment. -/
def isSkipped (line : List Char) : Bool := line.isEmpty || "//".toList.isPrefixOf line

/-- One line, without the white space around it. [SRC qasm.py:104-138] -/
def readLine (language : Language) (target : String) (reading : Reading) (raw : List Char) :
    Except Failure Reading :=
  let line := strip raw
  if isSkipped line then .ok reading
  else
    match statementAt language line with
    | some (statement, _) => readStatement language target reading statement
    | none => .error (.conversion s!"Unsupported QASM line: {language.repr line}")

/-- The lines of a text. -/
def linesOf (qasm : String) : List (List Char) := splitlines (strip qasm.toList)

/-- The metadata of a circuit that brings none. -/
def placeholder (now : String) : IRMetadata where
  sourceHash := "sha256:from-qasm"
  compiledAt := now

/-- `NativeGateIR(…)` -/
def newNativeGateIR (fields : IRFields) : Except String NativeGateIR :=
  match checked : fields.validate with
  | .ok () => .ok ⟨fields, checked⟩
  | .error message => .error message

/-- `openqasm_to_ir` [SRC qasm.py:71-158] -/
def openqasmToIr (language : Language) (now : String) (qasm : String) (target : String)
    (metadata : Option IRMetadata) : Except Failure NativeGateIR := do
  let reading ← (linesOf qasm).foldlM (readLine language target) {}
  match reading.numQubits with
  | none => .error (.conversion "No qubit register declaration found")
  | some numQubits =>
      match newNativeGateIR ⟨"1.0", target, numQubits, reading.gates, reading.measurements,
        metadata.getD (placeholder now)⟩ with
      | .ok ir => .ok ir
      | .error message => .error (.conversion message)

/-! ### The writer -/

/-- `", ".join(f"q[{q}]" for q in op.qubits)` -/
def qubitsText (qubits : List Int) : String := ", ".intercalate (qubits.map fun qubit => s!"q[{qubit}]")

/-- `_ir_gate_to_openqasm_cz` [SRC qasm.py:324-350] -/
def irGateToOpenqasmCz (language : Language) (op : GateOp) : Except Failure String :=
  let name := op.gate.value
  let qubits := qubitsText op.qubits
  match op.gate with
  | .rx | .ry | .rz =>
      let params := ", ".intercalate (op.params.map language.formatFloat)
      .ok s!"{name}({params}) {qubits};"
  | .virtualZ =>
      match op.params with
      | [] => .error (.conversion "IR gate 'virtual_z' requires exactly one parameter")
      | angle :: _ => .ok s!"rz({language.formatFloat angle}) {qubits};"
  | .cz | .id => .ok s!"{name} {qubits};"
  | _ => .error (.conversion s!"IR gate '{name}' has no OpenQASM mapping for cz")

/-- `_ir_gate_to_openqasm_cnot` [SRC qasm.py:353-377] -/
def irGateToOpenqasmCnot (language : Language) (op : GateOp) : Except Failure String :=
  let name := op.gate.value
  let qubits := qubitsText op.qubits
  match op.gate with
  | .x90 => .ok s!"sx {qubits};"
  | .yMinus90 => .ok s!"ry({language.formatFloat language.minusHalfPi}) {qubits};"
  | .virtualZ =>
      match op.params with
      | [] => .error .index
      | angle :: _ => .ok s!"rz({language.formatFloat angle}) {qubits};"
  | .cnot => .ok s!"cx {qubits};"
  | .id => .ok s!"id {qubits};"
  | _ => .error (.conversion s!"IR gate '{name}' has no OpenQASM mapping for cnot")

/-- `_ir_gate_to_openqasm` [SRC qasm.py:300-321] -/
def irGateToOpenqasm (language : Language) (target : String) (op : GateOp) : Except Failure String :=
  if target = "cz" then irGateToOpenqasmCz language op
  else if target = "cnot" then irGateToOpenqasmCnot language op
  else .error (.conversion s!"Unsupported target: {target}")

/-- The lines of a program in front of its gates. -/
def prologue (ir : NativeGateIR) : List String :=
  ["OPENQASM 3.0;", "include \"stdgates.inc\";", s!"qubit[{ir.numQubits}] q;"] ++
    if ir.measurements = [] then [] else [s!"bit[{ir.measurements.length}] c;"]

/-- The measurements, each into the bit of its position. -/
def measureLines (measurements : List Int) : List String :=
  measurements.zipIdx.map fun (qubit, index) => s!"c[{index}] = measure q[{qubit}];"

/-- `ir_to_openqasm` [SRC qasm.py:166-198] -/
def irToOpenqasm (language : Language) (ir : NativeGateIR) : Except Failure String := do
  let gates ← ir.gates.mapM (irGateToOpenqasm language ir.target)
  return "\n".intercalate (prologue ir ++ gates ++ measureLines ir.measurements) ++ "\n"

end CodaNode.Qasm
