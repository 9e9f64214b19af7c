/-
Module: CodaNode.Proofs.QasmRoundTrip
Layer: Proofs
Purpose: A circuit that `ir_to_openqasm` prints is read back by `openqasm_to_ir`: the same circuit, with each angle
  as its printed text is read and without the durations of the identity gates. It is not printed exactly when its
  target has no program for one of its gates, and then a `QASMConversionError` is raised.
Imports: CodaNode.Server.Circuit, CodaNode.Server.QasmText
Main exports: Language.Prints, reread, Unprintable, irToOpenqasm_roundTrip
-/
import CodaNode.Server.Circuit
import CodaNode.Server.QasmText
import Mathlib.Data.List.Forall2

namespace CodaNode.Qasm

open Python Regex

/-- What is documented of the texts of floats: a text of 15 digits holds no comma, no parenthesis and no white space,
`float` reads it, and what it reads of the text of -π/2 is close to that angle. -/
structure Language.Prints (language : Language) : Prop where
  present : ∀ value, language.formatFloat value ≠ ""
  plain : ∀ value, ∀ char ∈ (language.formatFloat value).toList, char ≠ ',' ∧ char ≠ ')' ∧ isSpace char = false
  readable : ∀ value, (language.readFloat (language.formatFloat value)).isSome
  close : ∀ value, language.readFloat (language.formatFloat language.minusHalfPi) = some value →
    language.isCloseToMinusHalfPi value = true

/-- `float(format(value, '.15g'))` -/
def Language.printed (language : Language) (value : PyFloat) : PyFloat :=
  (language.readFloat (language.formatFloat value)).getD value

/-- The operation that is read where this one is printed. -/
def reread (language : Language) (op : GateOp) : GateOp :=
  ⟨op.gate, op.qubits, if op.gate = .id then [.finite 0] else op.params.map language.printed⟩

/-- The circuit that is read where this one is printed. -/
def rereadCircuit (language : Language) (ir : IRFields) : IRFields :=
  { ir with gates := ir.gates.map (reread language) }

/-- The operation has a program for the target. -/
def Printable (target : String) (op : GateOp) : Prop :=
  target = "cz" ∨ target = "cnot" ∧ op.gate ∉ [NativeGate.rx, .ry, .rz]

/-- Some operation of the circuit has no program. -/
def Unprintable (ir : IRFields) : Prop :=
  ir.target = "cnot" ∧ (∃ op ∈ ir.gates, op.gate ∈ [NativeGate.rx, .ry, .rz]) ∨
    (ir.target = "iswap" ∨ ir.target = "pcz") ∧ ir.gates ≠ []

/-- The statement of a line, if there is one. -/
def statementOf (language : Language) (raw : List Char) : Option Statement :=
  if isSkipped (strip raw) then none else (statementAt language (strip raw)).map Prod.fst

/-- The statements of a text. -/
def statementsOf (language : Language) (qasm : String) : List Statement :=
  (linesOf qasm).filterMap (statementOf language)

/-- The statement is a measurement. -/
def Statement.isMeasure : Statement → Bool
  | .measure _ _ => true
  | _ => false

/-- The measurements of a printed circuit, each into the bit of its position. -/
def measureStatements (measurements : List Int) : List Statement :=
  measurements.zipIdx.map fun (qubit, bit) => .measure (digits bit) (digits qubit)

/-- The text is the program of the circuit: it is read as the circuit with the angles as they are printed and no
durations, and its measurements stand behind everything else. -/
structure ProgramOf (language : Language) (now : String) (ir : NativeGateIR) (qasm : String) : Prop where
  printed : irToOpenqasm language ir = .ok qasm
  reads : ∃ back, openqasmToIr language now qasm ir.target (some ir.metadata) = .ok back ∧
    back.toIRFields = rereadCircuit language ir.toIRFields
  measures : ∃ front, statementsOf language qasm = front ++ measureStatements ir.measurements ∧
    ∀ statement ∈ front, statement.isMeasure = false

namespace QasmRoundTrip

variable {language : Language} {target : String} {reading : Reading} {op : GateOp} {line : List Char}

/-! ### Lines -/

/-- The line is read as the statement. -/
structure Line (language : Language) (line : List Char) (statement : Statement) : Prop where
  framed : Framed line
  whole : OneLine line
  unskipped : isSkipped line = false
  stated : statementAt language line = some (statement, [])

theorem Line.reads {statement : Statement} (stands : Line language line statement) :
    readLine language target reading line = readStatement language target reading statement := by
  unfold readLine
  dsimp only
  rw [strip_eq stands.framed, stands.unskipped, if_neg Bool.false_ne_true, stands.stated]

theorem Line.statementOf_eq {statement : Statement} (stands : Line language line statement) :
    statementOf language line = some statement := by
  rw [statementOf, strip_eq stands.framed, stands.unskipped, if_neg Bool.false_ne_true, stands.stated]
  rfl

theorem foldlM_ok {α : Type} {step : Reading → α → Except Failure Reading} {item : α} {items : List α}
    {after : Reading} (read : step reading item = .ok after) :
    (item :: items).foldlM step reading = items.foldlM step after := by
  rw [List.foldlM_cons, read]
  rfl

/-- Lines are read as their statements. -/
theorem foldlM_lines {lines : List (List Char)} {statements : List Statement}
    (stand : List.Forall₂ (Line language) lines statements) :
    lines.foldlM (readLine language target) reading = statements.foldlM (readStatement language target) reading := by
  induction stand generalizing reading with
  | nil => rfl
  | cons stands _ ih =>
      rw [List.foldlM_cons, List.foldlM_cons, stands.reads]
      congr 1
      funext after
      exact ih

theorem filterMap_lines {lines : List (List Char)} {statements : List Statement}
    (stand : List.Forall₂ (Line language) lines statements) : lines.filterMap (statementOf language) = statements := by
  induction stand with
  | nil => rfl
  | cons stands _ ih =>
      rw [List.filterMap_cons_some stands.statementOf_eq, ih]

theorem digits_oneLine {number : Int} (positive : 0 ≤ number) : OneLine (digits number) := by
  apply OneLine.of_solid
  intro char inside
  have graphic := isSpace_isDigit (isDigit_of_mem_digits positive char inside)
  rwa [Bool.not_eq_true] at graphic

theorem operandText_oneLine {number : Int} (positive : 0 ≤ number) : OneLine (operandText number) := by
  apply OneLine.cons (by decide)
  apply OneLine.cons (by decide)
  exact (digits_oneLine positive).append (by decide)

theorem operandsText_oneLine {numbers : List Int} (positive : ∀ number ∈ numbers, 0 ≤ number) :
    OneLine (operandsText numbers) := by
  cases numbers with
  | nil =>
      intro char inside
      cases inside
  | cons number numbers =>
      obtain ⟨first, positive⟩ := List.forall_mem_cons.mp positive
      apply OneLine.append (operandText_oneLine first)
      intro char inside
      obtain ⟨other, member, part⟩ := List.mem_flatMap.mp inside
      have next : OneLine (',' :: ' ' :: operandText other) :=
        OneLine.cons (by decide) (OneLine.cons (by decide) (operandText_oneLine (positive other member)))
      exact next char part

theorem header_line : Line language "OPENQASM 3.0;".toList .header := by
  have framed : Framed "OPENQASM 3.0;".toList := @Framed.of_ends _ "PENQASM 3.0".toList 'O' ';' (by decide) (by decide) rfl
  exact ⟨framed, by decide, by decide, statementAt_header⟩

theorem includes_line : Line language "include \"stdgates.inc\";".toList .includes := by
  have framed : Framed "include \"stdgates.inc\";".toList :=
    @Framed.of_ends _ "nclude \"stdgates.inc\"".toList 'i' ';' (by decide) (by decide) rfl
  exact ⟨framed, by decide, by decide, statementAt_includes⟩

/-- The part of a declaration behind its keyword. -/
theorem declared_oneLine {number : Int} (positive : 0 ≤ number) {register : Char}
    (solid : isLineBreak register = false) : OneLine ('[' :: (digits number ++ [']', ' ', register, ';'])) := by
  apply OneLine.cons (by decide)
  apply (digits_oneLine positive).append
  exact OneLine.cons (by decide) (OneLine.cons (by decide) (OneLine.cons solid (by decide)))

theorem bits_line {number : Int} (positive : 0 ≤ number) :
    Line language (declarationText "bit" number 'c') .bits := by
  have shape : declarationText "bit" number 'c' = 'b' :: (("it[".toList ++ digits number ++ "] c".toList) ++ [';']) := by
    simp [declarationText]
  have whole : OneLine "bit".toList := by decide
  exact ⟨Framed.of_ends (by decide) (by decide) shape, whole.append (declared_oneLine positive (by decide)), rfl,
    statementAt_bits positive⟩

theorem qubits_line {number : Int} (positive : 0 ≤ number) :
    Line language (declarationText "qubit" number 'q') (.qubits (digits number)) := by
  have shape : declarationText "qubit" number 'q' =
      'q' :: (("ubit[".toList ++ digits number ++ "] q".toList) ++ [';']) := by
    simp [declarationText]
  have whole : OneLine "qubit".toList := by decide
  exact ⟨Framed.of_ends (by decide) (by decide) shape, whole.append (declared_oneLine positive (by decide)), rfl,
    statementAt_qubits positive⟩

theorem measure_line {bit qubit : Int} (bitPositive : 0 ≤ bit) (positive : 0 ≤ qubit) :
    Line language (measureText bit qubit) (.measure (digits bit) (digits qubit)) := by
  have shape : measureText bit qubit =
      'c' :: (('[' :: (digits bit ++ "] = measure ".toList ++ operandText qubit)) ++ [';']) := by
    simp [measureText]
  have middle : OneLine "] = measure ".toList := by decide
  have back : OneLine (operandText qubit ++ [';']) := (operandText_oneLine positive).append (by decide)
  have whole : OneLine (measureText bit qubit) :=
    OneLine.cons (by decide) (OneLine.cons (by decide) (((digits_oneLine bitPositive).append middle).append back))
  exact ⟨Framed.of_ends (by decide) (by decide) shape, whole, rfl, statementAt_measure bitPositive positive⟩

/-- The parameter of a line is a text of a float. -/
def SolidParam (param : Option (List Char)) : Prop :=
  ∀ text, param = some text → text ≠ [] ∧ ∀ char ∈ text, char ≠ ',' ∧ char ≠ ')' ∧ isSpace char = false

theorem paramText_oneLine {param : Option (List Char)} (solid : SolidParam param) : OneLine (paramText param) := by
  cases param with
  | none => decide
  | some text =>
      have inner : OneLine text := OneLine.of_solid fun char inside => ((solid text rfl).2 char inside).2.2
      exact (OneLine.cons (by decide) inner).append (by decide)

theorem gate_line {gate : String} {param : Option (List Char)} {qubits : List Int} (known : gate ∈ gateNames)
    (solid : SolidParam param) (present : qubits ≠ []) (positive : ∀ qubit ∈ qubits, 0 ≤ qubit) :
    Line language (gateText gate.toList param qubits) (.gate gate.toList param (operandsText qubits)) := by
  have enclosed : Enclosed param := fun text given char inside => ((solid text given).2 char inside).2.1
  have words : ∀ gate ∈ gateNames, OneLine gate.toList ∧
      gate.toList.head?.any (fun first => !isSpace first && first ≠ '/') = true := by
    decide
  obtain ⟨word, starts⟩ := words gate known
  cases letters : gate.toList with
  | nil =>
      rw [letters] at starts
      cases starts
  | cons first more =>
      rw [letters] at starts word
      simp only [List.head?_cons, Option.any_some, Bool.and_eq_true, Bool.not_eq_true', decide_eq_true_eq] at starts
      have shape : gateText (first :: more) param qubits =
          first :: ((more ++ (paramText param ++ ' ' :: operandsText qubits)) ++ [';']) := by
        simp [gateText]
      have back : OneLine (' ' :: (operandsText qubits ++ [';'])) :=
        OneLine.cons (by decide) ((operandsText_oneLine positive).append (by decide))
      have unskipped : isSkipped (gateText (first :: more) param qubits) = false := by
        rw [shape, isSkipped, show "//".toList = ['/', '/'] from rfl, List.isPrefixOf_cons_cons,
          beq_false_of_ne starts.2.symm]
        rfl
      have stated : statementAt language (gateText gate.toList param qubits) = _ :=
        statementAt_gate known enclosed present positive
      rw [letters] at stated
      exact ⟨Framed.of_ends starts.1 (by decide) shape, word.append ((paramText_oneLine solid).append back), unskipped,
        stated⟩

/-! ### Values -/

theorem readIndex_digits {number : Int} (positive : 0 ≤ number) (small : number ≤ 50) :
    readIndex (digits number) = .ok number := by
  have few : ∀ count ≤ 50, (Nat.toDigits 10 count).length ≤ maxStrDigits := by decide
  have short := few number.toNat (by omega)
  have read : int (String.ofList (digits number)) = some number := by
    rw [digits_of_nonneg positive]
    exact (int_toDigits short).trans (congrArg some (Int.toNat_of_nonneg positive))
  rw [readIndex, read]

theorem mapM_all {α β : Type} {read : α → Except Failure β} {value : α → β} {items : List α}
    (each : ∀ item ∈ items, read item = .ok (value item)) : items.mapM read = .ok (items.map value) := by
  induction items with
  | nil => rfl
  | cons item items ih =>
      obtain ⟨first, others⟩ := List.forall_mem_cons.mp each
      rw [List.mapM_cons, first, ih others]
      rfl

theorem readQubits_text {numbers : List Int} (bounded : ∀ number ∈ numbers, 0 ≤ number ∧ number ≤ 50) :
    readQubits language (operandsText numbers) = .ok numbers := by
  have positive : ∀ number ∈ numbers, 0 ≤ number := fun number inside => (bounded number inside).1
  rw [readQubits, operandIndices_text positive, List.mapM_map]
  have read : numbers.mapM (readIndex ∘ digits) = .ok (numbers.map id) := by
    apply mapM_all
    intro number inside
    exact readIndex_digits (bounded number inside).1 (bounded number inside).2
  rw [List.map_id] at read
  exact read

theorem readParams_text (prints : language.Prints) (value : PyFloat) :
    readParams language (some (language.formatFloat value).toList) = .ok [language.printed value] := by
  have present : (language.formatFloat value).toList ≠ [] := by
    intro empty
    exact prints.present value (String.toList_eq_nil_iff.mp empty)
  have solid : ∀ char ∈ (language.formatFloat value).toList, ¬ isSpace char := fun char inside => by
    simp [(prints.plain value char inside).2.2]
  have single : (language.formatFloat value).toList.splitOn ',' = [(language.formatFloat value).toList] :=
    List.splitOn_eq_singleton fun inside => (prints.plain value ',' inside).1 rfl
  have stripped : strip ((language.formatFloat value).toList ++ []) = (language.formatFloat value).toList :=
    strip_solid solid present (by simp)
  rw [List.append_nil] at stripped
  obtain ⟨read, same⟩ := Option.isSome_iff_exists.mp (prints.readable value)
  rw [readParams, if_neg present, single, List.mapM_cons, stripped, readFloat, String.ofList_toList, same, Language.printed, same]
  rfl

theorem newGateOp_of_shaped (shaped : op.Shaped) : newGateOp op.gate op.qubits op.params = .ok op := by
  rw [newGateOp, GateOp.validateGateShape_iff.mpr shaped]

theorem reread_shaped (shaped : op.Shaped) : (reread language op).Shaped := by
  refine ⟨shaped.qubits, ?_⟩
  unfold reread
  split
  · next identity =>
    rw [identity]
    rfl
  · rw [List.length_map]
    exact shaped.params

/-! ### Gates -/

/-- The line is a gate statement that is read as the operation. -/
structure Stands (language : Language) (target : String) (op : GateOp) (line : List Char) (statement : Statement) :
    Prop where
  line : Line language line statement
  gate : statement.isMeasure = false
  reads : ∀ reading, readStatement language target reading statement =
    .ok { reading with gates := reading.gates ++ [reread language op] }

/-- A printed operation. -/
theorem stands_of_shape {gate : String} {param : Option (List Char)} {values : List PyFloat} (shaped : op.Shaped)
    (bounded : ∀ qubit ∈ op.qubits, 0 ≤ qubit ∧ qubit ≤ 50) (known : gate ∈ gateNames) (solid : SolidParam param)
    (given : readParams language param = .ok values)
    (built : openqasmGateToIr language gate values op.qubits target =
      newGateOp op.gate op.qubits (reread language op).params) :
    Stands language target op (gateText gate.toList param op.qubits)
      (.gate gate.toList param (operandsText op.qubits)) := by
  have present : op.qubits ≠ [] := by
    intro empty
    have count := shaped.qubits
    rw [empty] at count
    cases op with
    | mk kind qubits params => cases kind <;> cases count
  refine ⟨gate_line known solid present fun qubit inside => (bounded qubit inside).1, rfl, ?_⟩
  intro reading
  rw [readStatement, given]
  dsimp only [bind, Except.bind]
  rw [readQubits_text bounded]
  dsimp only
  have made : newGateOp op.gate op.qubits (reread language op).params = .ok (reread language op) :=
    newGateOp_of_shaped (reread_shaped shaped)
  rw [String.ofList_toList, built, made]
  rfl

/-- Texts that are put together. -/
theorem toList_text (text : String) : (toString text).toList = text.toList := rfl

/-- Joined texts: the first one, and each other one behind a separator. -/
theorem intercalate_cons {separator : List Char} (first : List Char) (texts : List (List Char)) :
    separator.intercalate (first :: texts) = first ++ texts.flatMap fun text => separator ++ text := by
  induction texts generalizing first with
  | nil => simp
  | cons text texts ih => rw [List.intercalate_cons_cons, ih, List.flatMap_cons, List.append_assoc, List.append_assoc]

theorem qubitsText_toList (qubits : List Int) : (qubitsText qubits).toList = operandsText qubits := by
  have operand (number : Int) : (s!"q[{number}]").toList = operandText number := by
    simp only [String.toList_append, toList_text]
    rfl
  cases qubits with
  | nil => rfl
  | cons first qubits =>
      rw [qubitsText, String.toList_intercalate, List.map_map, List.map_cons, intercalate_cons, List.flatMap_map]
      simp only [Function.comp_apply, operand]
      rfl

/-- A gate without a parameter. -/
theorem toList_plain (name : String) (qubits : List Int) :
    (s!"{name} {qubitsText qubits};").toList = gateText name.toList none qubits := by
  simp only [String.toList_append, toList_text, qubitsText_toList]
  simp [gateText, paramText]

/-- A gate with a parameter. -/
theorem toList_angle (name angle : String) (qubits : List Int) :
    (s!"{name}({angle}) {qubitsText qubits};").toList = gateText name.toList (some angle.toList) qubits := by
  simp only [String.toList_append, toList_text, qubitsText_toList]
  simp [gateText, paramText]

theorem solid_none : SolidParam none := by
  intro text given
  cases given

theorem solid_angle (prints : language.Prints) (value : PyFloat) :
    SolidParam (some (language.formatFloat value).toList) := by
  intro text given
  cases given
  refine ⟨?_, prints.plain value⟩
  intro empty
  exact prints.present value (String.toList_eq_nil_iff.mp empty)

/-- The operation is printed as a line that stands for it. -/
def Prints (language : Language) (target : String) (op : GateOp) : Prop :=
  ∃ line statement, irGateToOpenqasm language target op = .ok line ∧
    Stands language target op line.toList statement

theorem prints_plain (name : String) (shaped : op.Shaped) (bounded : ∀ qubit ∈ op.qubits, 0 ≤ qubit ∧ qubit ≤ 50)
    (known : name ∈ gateNames) (printed : irGateToOpenqasm language target op = .ok s!"{name} {qubitsText op.qubits};")
    (built : openqasmGateToIr language name [] op.qubits target =
      newGateOp op.gate op.qubits (reread language op).params) : Prints language target op := by
  refine ⟨_, .gate name.toList none (operandsText op.qubits), printed, ?_⟩
  rw [toList_plain]
  exact stands_of_shape shaped bounded known solid_none rfl built

theorem prints_angle (prints : language.Prints) (name : String) (value : PyFloat) (shaped : op.Shaped)
    (bounded : ∀ qubit ∈ op.qubits, 0 ≤ qubit ∧ qubit ≤ 50) (known : name ∈ gateNames)
    (printed : irGateToOpenqasm language target op =
      .ok s!"{name}({language.formatFloat value}) {qubitsText op.qubits};")
    (built : openqasmGateToIr language name [language.printed value] op.qubits target =
      newGateOp op.gate op.qubits (reread language op).params) : Prints language target op := by
  refine ⟨_, .gate name.toList (some (language.formatFloat value).toList) (operandsText op.qubits), printed, ?_⟩
  rw [toList_angle]
  exact stands_of_shape shaped bounded known (solid_angle prints value) (readParams_text prints value) built

/-- A legal operation for the target `cz` is printed. -/
theorem prints_cz (prints : language.Prints) (shaped : op.Shaped)
    (bounded : ∀ qubit ∈ op.qubits, 0 ≤ qubit ∧ qubit ≤ 50) (legal : op.gate ∈ [NativeGate.rx, .ry, .rz, .cz, .id]) :
    Prints language "cz" op := by
  obtain ⟨gate, qubits, params⟩ := op
  simp only [List.mem_cons, List.not_mem_nil, or_false] at legal
  have count := shaped.params
  rcases legal with rfl | rfl | rfl | rfl | rfl
  · obtain ⟨angle, rfl⟩ := List.length_eq_one_iff.mp count
    exact prints_angle prints "rx" angle shaped bounded (by decide) rfl rfl
  · obtain ⟨angle, rfl⟩ := List.length_eq_one_iff.mp count
    exact prints_angle prints "ry" angle shaped bounded (by decide) rfl rfl
  · obtain ⟨angle, rfl⟩ := List.length_eq_one_iff.mp count
    exact prints_angle prints "rz" angle shaped bounded (by decide) rfl rfl
  · obtain rfl := List.length_eq_zero_iff.mp count
    exact prints_plain "cz" shaped bounded (by decide) rfl rfl
  · exact prints_plain "id" shaped bounded (by decide) rfl rfl

/-- A legal operation for the target `cnot` that is no rotation is printed. -/
theorem prints_cnot (prints : language.Prints) (shaped : op.Shaped)
    (bounded : ∀ qubit ∈ op.qubits, 0 ≤ qubit ∧ qubit ≤ 50)
    (legal : op.gate ∈ [NativeGate.rx, .ry, .rz, .x90, .yMinus90, .virtualZ, .cnot, .id])
    (other : op.gate ∉ [NativeGate.rx, .ry, .rz]) : Prints language "cnot" op := by
  obtain ⟨gate, qubits, params⟩ := op
  have remaining : gate ∈ [NativeGate.x90, .yMinus90, .virtualZ, .cnot, .id] :=
    (List.mem_append (s := [NativeGate.rx, .ry, .rz]).mp legal).resolve_left other
  simp only [List.mem_cons, List.not_mem_nil, or_false] at remaining
  have count := shaped.params
  rcases remaining with rfl | rfl | rfl | rfl | rfl
  · obtain rfl := List.length_eq_zero_iff.mp count
    exact prints_plain "sx" shaped bounded (by decide) rfl rfl
  · obtain rfl := List.length_eq_zero_iff.mp count
    obtain ⟨value, read⟩ := Option.isSome_iff_exists.mp (prints.readable language.minusHalfPi)
    apply prints_angle prints "ry" language.minusHalfPi shaped bounded (by decide) rfl
    have close : language.isCloseToMinusHalfPi (language.printed language.minusHalfPi) = true := by
      rw [Language.printed, read]
      exact prints.close value read
    exact if_pos close
  · obtain ⟨angle, rfl⟩ := List.length_eq_one_iff.mp count
    exact prints_angle prints "rz" angle shaped bounded (by decide) rfl rfl
  · obtain rfl := List.length_eq_zero_iff.mp count
    exact prints_plain "cx" shaped bounded (by decide) rfl rfl
  · exact prints_plain "id" shaped bounded (by decide) rfl rfl

/-! ### Programs -/

/-- The measurements of a program. -/
theorem measureLines_stand {measurements : List Int} (bounded : ∀ qubit ∈ measurements, 0 ≤ qubit ∧ qubit ≤ 50) :
    List.Forall₂ (Line language) ((measureLines measurements).map String.toList) (measureStatements measurements) ∧
      ∀ reading, (measureStatements measurements).foldlM (readStatement language target) reading =
        .ok { reading with measurements := reading.measurements ++ measurements } := by
  have text (bit : Nat) (qubit : Int) : (s!"c[{bit}] = measure q[{qubit}];").toList = measureText bit qubit := by
    have digits : (toString bit).toList = digits bit := rfl
    simp only [String.toList_append, toList_text, digits]
    simp [measureText, operandText, Qasm.digits]
  unfold measureLines measureStatements
  -- The lines from any position on.
  generalize 0 = start
  induction measurements generalizing start with
  | nil => exact ⟨.nil, fun reading => by simp [pure, Except.pure]⟩
  | cons qubit measurements ih =>
      obtain ⟨first, others⟩ := List.forall_mem_cons.mp bounded
      obtain ⟨stand, reads⟩ := ih others (start + 1)
      rw [List.zipIdx_cons, List.map_cons, List.map_cons, List.map_cons, text]
      refine ⟨.cons (measure_line (Int.natCast_nonneg start) first.1) stand, ?_⟩
      intro reading
      have read : readStatement language target reading (.measure (digits start) (digits qubit)) =
          .ok { reading with measurements := reading.measurements ++ [qubit] } := by
        rw [readStatement, readIndex_digits first.1 first.2]
        rfl
      rw [foldlM_ok read, reads, List.append_assoc, List.singleton_append]

/-- The operations of a program. -/
theorem gates_stand {ops : List GateOp} (printed : ∀ op ∈ ops, Prints language target op) :
    ∃ lines statements, ops.mapM (irGateToOpenqasm language target) = .ok lines ∧
      List.Forall₂ (Line language) (lines.map String.toList) statements ∧
      (∀ statement ∈ statements, statement.isMeasure = false) ∧
      ∀ reading, statements.foldlM (readStatement language target) reading =
        .ok { reading with gates := reading.gates ++ ops.map (reread language) } := by
  induction ops with
  | nil => exact ⟨[], [], rfl, .nil, by simp, fun reading => by simp [pure, Except.pure]⟩
  | cons op ops ih =>
      obtain ⟨⟨line, statement, first, stands⟩, others⟩ := List.forall_mem_cons.mp printed
      obtain ⟨lines, statements, rest, stand, plain, reads⟩ := ih others
      refine ⟨line :: lines, statement :: statements, ?_, .cons stands.line stand,
        List.forall_mem_cons.mpr ⟨stands.gate, plain⟩, ?_⟩
      · rw [List.mapM_cons, first, rest]
        rfl
      · intro reading
        rw [foldlM_ok (stands.reads reading), reads, List.map_cons, List.append_assoc, List.singleton_append]

/-- What stands in front of the gates of a program. -/
theorem prologue_stand (ir : NativeGateIR) (size : 0 ≤ ir.numQubits ∧ ir.numQubits ≤ 50) :
    ∃ statements, List.Forall₂ (Line language) ((prologue ir).map String.toList) statements ∧
      (∀ statement ∈ statements, statement.isMeasure = false) ∧
      statements.foldlM (readStatement language target) {} = .ok { numQubits := some ir.numQubits } := by
  have qubits : (s!"qubit[{ir.numQubits}] q;").toList = declarationText "qubit" ir.numQubits 'q' := by
    simp only [String.toList_append, toList_text]
    simp [declarationText, digits]
  have bits : (s!"bit[{ir.measurements.length}] c;").toList = declarationText "bit" ir.measurements.length 'c' := by
    have same : (toString ir.measurements.length).toList = digits ir.measurements.length := rfl
    simp only [String.toList_append, toList_text, same]
    simp [declarationText, digits]
  have read : readStatement language target {} (.qubits (digits ir.numQubits)) =
      .ok { numQubits := some ir.numQubits } := by
    rw [readStatement, readIndex_digits size.1 size.2]
    rfl
  have header : readStatement language target {} .header = .ok {} := rfl
  have includes : readStatement language target {} .includes = .ok {} := rfl
  by_cases measured : ir.measurements = []
  · refine ⟨[.header, .includes, .qubits (digits ir.numQubits)], ?_, by simp [Statement.isMeasure], ?_⟩
    · rw [prologue, if_pos measured, List.append_nil, List.map_cons, List.map_cons, List.map_cons, List.map_nil, qubits]
      exact .cons header_line (.cons includes_line (.cons (qubits_line size.1) .nil))
    · rw [foldlM_ok header, foldlM_ok includes, foldlM_ok read]
      rfl
  · refine ⟨[.header, .includes, .qubits (digits ir.numQubits), .bits], ?_, by simp [Statement.isMeasure], ?_⟩
    · rw [prologue, if_neg measured, List.map_append, List.map_cons, List.map_cons, List.map_cons, List.map_nil,
        List.map_cons, List.map_nil, qubits, bits]
      exact .cons header_line (.cons includes_line (.cons (qubits_line size.1)
        (.cons (bits_line (Int.natCast_nonneg _)) .nil)))
    · rw [foldlM_ok header, foldlM_ok includes, foldlM_ok read]
      rfl

theorem line_of_mem {lines : List (List Char)} {statements : List Statement}
    (stand : List.Forall₂ (Line language) lines statements) : ∀ line ∈ lines, ∃ statement, Line language line statement := by
  induction stand with
  | nil =>
      intro line inside
      cases inside
  | cons stands _ ih => exact List.forall_mem_cons.mpr ⟨⟨_, stands⟩, ih⟩

/-- The lines of a text that is joined of lines. -/
theorem linesOf_joined {lines : List String} {statements : List Statement} (present : lines ≠ [])
    (stand : List.Forall₂ (Line language) (lines.map String.toList) statements) :
    linesOf ("\n".intercalate lines ++ "\n") = lines.map String.toList := by
  have each : ∀ line ∈ lines.map String.toList, Framed line ∧ OneLine line := by
    intro line inside
    obtain ⟨statement, stands⟩ := line_of_mem stand line inside
    exact ⟨stands.framed, stands.whole⟩
  have framed : Framed (['\n'].intercalate (lines.map String.toList)) := by
    apply framed_joined
    · simpa using present
    · intro line inside
      exact (each line inside).1
  have white : ∀ char ∈ ['\n'], isSpace char = true := List.forall_mem_singleton.mpr rfl
  rw [linesOf, String.toList_append, String.toList_intercalate]
  change splitlines (strip (['\n'].intercalate (lines.map String.toList) ++ ['\n'])) = _
  rw [strip_framed framed white]
  apply splitlines_joined
  · intro line inside
    exact (each line inside).2
  · intro line inside
    exact (each line inside).1

theorem newNativeGateIR_of_valid {fields : IRFields} (valid : fields.validate = .ok ()) :
    newNativeGateIR fields = .ok ⟨fields, valid⟩ := by
  unfold newNativeGateIR
  split
  · rfl
  · next message refused =>
    rw [valid] at refused
    cases refused

theorem reread_executable {ir : IRFields} (typed : ir.Typed) (executable : ir.Executable) :
    (rereadCircuit language ir).validate = .ok () := by
  apply IRFields.validate_iff.mpr
  refine ⟨⟨typed.version, typed.level⟩, ?_, executable.size, ?_, ?_, executable.measured⟩
  · obtain ⟨legal, found, known⟩ := executable.target
    refine ⟨legal, found, ?_⟩
    intro op inside
    obtain ⟨printed, member, rfl⟩ := List.mem_map.mp inside
    exact known printed member
  · intro op inside
    obtain ⟨printed, member, rfl⟩ := List.mem_map.mp inside
    exact reread_shaped (executable.shaped printed member)
  · intro op inside
    obtain ⟨printed, member, rfl⟩ := List.mem_map.mp inside
    exact executable.operands printed member

/-- A circuit whose operations are all printed has a program. -/
theorem programOf_prints (now : String) (ir : NativeGateIR) (printed : ∀ op ∈ ir.gates, Prints language ir.target op) :
    ∃ qasm, ProgramOf language now ir qasm := by
  obtain ⟨typed, executable⟩ := IRFields.validate_iff.mp ir.valid
  have size : 0 ≤ ir.numQubits ∧ ir.numQubits ≤ 50 := ⟨by have := executable.size; omega, executable.size.2⟩
  have measured : ∀ qubit ∈ ir.measurements, 0 ≤ qubit ∧ qubit ≤ 50 := by
    intro qubit inside
    have range := executable.measured qubit inside
    unfold IRFields.InRange at range
    omega
  obtain ⟨before, prologueStands, prologuePlain, prologueReads⟩ := @prologue_stand language ir.target ir size
  obtain ⟨lines, middle, printedLines, gatesStand, gatesPlain, gatesRead⟩ := gates_stand printed
  obtain ⟨measuresStand, measuresRead⟩ := @measureLines_stand language ir.target _ measured
  have stand : List.Forall₂ (Line language)
      ((prologue ir ++ lines ++ measureLines ir.measurements).map String.toList)
        (before ++ middle ++ measureStatements ir.measurements) := by
    rw [List.map_append, List.map_append]
    exact List.rel_append (List.rel_append prologueStands gatesStand) measuresStand
  have present : prologue ir ++ lines ++ measureLines ir.measurements ≠ [] := by
    rw [prologue, List.append_assoc, List.append_assoc, List.cons_append]
    exact List.cons_ne_nil _ _
  have reads : (linesOf ("\n".intercalate (prologue ir ++ lines ++ measureLines ir.measurements) ++ "\n")).foldlM
      (readLine language ir.target) {} =
      .ok { numQubits := some ir.numQubits, gates := ir.gates.map (reread language), measurements := ir.measurements } := by
    rw [linesOf_joined present stand, foldlM_lines stand, List.foldlM_append, List.foldlM_append, prologueReads]
    change (do
      let reading ← middle.foldlM (readStatement language ir.target) { numQubits := some ir.numQubits }
      (measureStatements ir.measurements).foldlM (readStatement language ir.target) reading) = _
    rw [gatesRead]
    exact measuresRead _
  have valid : (rereadCircuit language ir.toIRFields).validate = .ok () := reread_executable typed executable
  have printedAll : irToOpenqasm language ir =
      .ok ("\n".intercalate (prologue ir ++ lines ++ measureLines ir.measurements) ++ "\n") := by
    rw [irToOpenqasm, printedLines]
    rfl
  refine ⟨_, printedAll, ⟨⟨rereadCircuit language ir.toIRFields, valid⟩, ?_, rfl⟩, before ++ middle, ?_, ?_⟩
  · have fields : IRFields.mk "1.0" ir.target ir.numQubits (ir.gates.map (reread language)) ir.measurements
        ir.metadata = rereadCircuit language ir.toIRFields := by
      rw [rereadCircuit, ← typed.version]
    rw [openqasmToIr, reads]
    dsimp only [bind, Except.bind, Option.getD_some]
    rw [fields, newNativeGateIR_of_valid valid]
  · rw [statementsOf, linesOf_joined present stand, filterMap_lines stand]
  · exact List.forall_mem_append.mpr ⟨prologuePlain, gatesPlain⟩

/-! ### Operations without a program -/

/-- The operation is refused with a `QASMConversionError`. -/
def Refused (language : Language) (target : String) (op : GateOp) : Prop :=
  ∃ message, irGateToOpenqasm language target op = .error (.conversion message)

/-- The first operation that is not printed is refused, and so is the circuit. -/
theorem mapM_refused {ops : List GateOp} (each : ∀ op ∈ ops, Prints language target op ∨ Refused language target op)
    (refused : ∃ op ∈ ops, Refused language target op) :
    ∃ message, ops.mapM (irGateToOpenqasm language target) = .error (.conversion message) := by
  induction ops with
  | nil =>
      obtain ⟨op, inside, -⟩ := refused
      cases inside
  | cons op ops ih =>
      obtain ⟨here, others⟩ := List.forall_mem_cons.mp each
      rw [List.mapM_cons]
      rcases here with ⟨line, statement, printed, -⟩ | ⟨message, failed⟩
      · have later : ∃ op ∈ ops, Refused language target op := by
          obtain ⟨other, inside, message, failed⟩ := refused
          rcases List.mem_cons.mp inside with rfl | behind
          · rw [printed] at failed
            cases failed
          · exact ⟨other, behind, message, failed⟩
        obtain ⟨message, failed⟩ := ih others later
        rw [printed, failed]
        exact ⟨message, rfl⟩
      · rw [failed]
        exact ⟨message, rfl⟩

theorem refused_rotation (rotation : op.gate ∈ [NativeGate.rx, .ry, .rz]) : Refused language "cnot" op := by
  obtain ⟨gate, qubits, params⟩ := op
  simp only [List.mem_cons, List.not_mem_nil, or_false] at rotation
  rcases rotation with rfl | rfl | rfl
  · exact ⟨_, rfl⟩
  · exact ⟨_, rfl⟩
  · exact ⟨_, rfl⟩

theorem refused_target (cz : target ≠ "cz") (cnot : target ≠ "cnot") : Refused language target op := by
  refine ⟨s!"Unsupported target: {target}", ?_⟩
  rw [irGateToOpenqasm, if_neg cz, if_neg cnot]

/-- A circuit with such operations is refused. -/
theorem irToOpenqasm_refused {ir : NativeGateIR}
    (each : ∀ op ∈ ir.gates, Prints language ir.target op ∨ Refused language ir.target op)
    (refused : ∃ op ∈ ir.gates, Refused language ir.target op) :
    ∃ message, irToOpenqasm language ir = .error (.conversion message) := by
  obtain ⟨message, failed⟩ := mapM_refused each refused
  refine ⟨message, ?_⟩
  rw [irToOpenqasm, failed]
  rfl

/-- The targets and their gates. -/
theorem legal_cases {legal : List NativeGate} (found : legalGates.lookup target = some legal) :
    (target = "cz" ∧ legal = [.rx, .ry, .rz, .cz, .id]) ∨
      (target = "cnot" ∧ legal = [.rx, .ry, .rz, .x90, .yMinus90, .virtualZ, .cnot, .id]) ∨
      target = "iswap" ∨ target = "pcz" := by
  unfold legalGates at found
  simp only [List.lookup_cons] at found
  split at found
  · next same => exact .inl ⟨eq_of_beq same, (Option.some.inj found).symm⟩
  · split at found
    · next same => exact .inr (.inr (.inl (eq_of_beq same)))
    · split at found
      · next same => exact .inr (.inr (.inr (eq_of_beq same)))
      · split at found
        · next same => exact .inr (.inl ⟨eq_of_beq same, (Option.some.inj found).symm⟩)
        · cases found

/-- An operation of a circuit is printed or refused. -/
theorem prints_or_refused (prints : language.Prints) {ir : IRFields} (executable : ir.Executable) (inside : op ∈ ir.gates) :
    Printable ir.target op ∧ Prints language ir.target op ∨ ¬ Printable ir.target op ∧ Refused language ir.target op := by
  obtain ⟨legal, found, known⟩ := executable.target
  have shaped := executable.shaped op inside
  have bounded : ∀ qubit ∈ op.qubits, 0 ≤ qubit ∧ qubit ≤ 50 := by
    intro qubit member
    have range := executable.operands op inside qubit member
    have size := executable.size
    unfold IRFields.InRange at range
    omega
  rcases legal_cases found with ⟨cz, rfl⟩ | ⟨cnot, rfl⟩ | other
  · left
    refine ⟨.inl cz, ?_⟩
    rw [cz]
    exact prints_cz prints shaped bounded (known op inside)
  · have different : "cnot" ≠ "cz" := by decide
    rw [cnot]
    by_cases rotation : op.gate ∈ [NativeGate.rx, .ry, .rz]
    · right
      refine ⟨?_, refused_rotation rotation⟩
      rintro (cz | ⟨-, allowed⟩)
      · exact different cz
      · exact allowed rotation
    · left
      exact ⟨.inr ⟨rfl, rotation⟩, prints_cnot prints shaped bounded (known op inside) rotation⟩
  · right
    have cz : ir.target ≠ "cz" := by
      rcases other with same | same <;> rw [same] <;> decide
    have cnot : ir.target ≠ "cnot" := by
      rcases other with same | same <;> rw [same] <;> decide
    refine ⟨?_, refused_target cz cnot⟩
    rintro (same | ⟨same, -⟩)
    · exact cz same
    · exact cnot same

theorem programOf_printable (prints : language.Prints) (now : String) (ir : NativeGateIR)
    (printable : ∀ op ∈ ir.gates, Printable ir.target op) : ∃ qasm, ProgramOf language now ir qasm := by
  obtain ⟨-, executable⟩ := IRFields.validate_iff.mp ir.valid
  apply programOf_prints
  intro op inside
  rcases prints_or_refused prints executable inside with ⟨-, printed⟩ | ⟨unprintable, -⟩
  · exact printed
  · exact absurd (printable op inside) unprintable

theorem unprintable_iff {ir : IRFields} (executable : ir.Executable) :
    Unprintable ir ↔ ∃ op ∈ ir.gates, ¬ Printable ir.target op := by
  obtain ⟨legal, found, -⟩ := executable.target
  have present : ir.gates ≠ [] ↔ ∃ op, op ∈ ir.gates :=
    ⟨List.exists_mem_of_ne_nil _, fun ⟨_, inside⟩ => List.ne_nil_of_mem inside⟩
  unfold Unprintable Printable
  rcases legal_cases found with ⟨same, -⟩ | ⟨same, -⟩ | same | same
  · rw [same]
    simp
  · rw [same]
    simp [or_iff_not_imp_left]
  · rw [same, present]
    simp
  · rw [same, present]
    simp

end QasmRoundTrip

/-- Either some operation of the circuit has no program and a `QASMConversionError` is raised, or the circuit is
printed and its program is read as the same circuit, with the angles as they are printed and no durations. -/
theorem irToOpenqasm_roundTrip (language : Language) (prints : language.Prints) (now : String) (ir : NativeGateIR) :
    (Unprintable ir.toIRFields ∧ ∃ message, irToOpenqasm language ir = .error (.conversion message)) ∨
      (¬ Unprintable ir.toIRFields ∧ ∃ qasm back, irToOpenqasm language ir = .ok qasm ∧
        openqasmToIr language now qasm ir.target (some ir.metadata) = .ok back ∧
        back.toIRFields = rereadCircuit language ir.toIRFields) := by
  obtain ⟨-, executable⟩ := IRFields.validate_iff.mp ir.valid
  have each {op : GateOp} (inside : op ∈ ir.gates) := QasmRoundTrip.prints_or_refused prints executable inside
  rw [QasmRoundTrip.unprintable_iff executable]
  by_cases refused : ∃ op ∈ ir.gates, ¬ Printable ir.target op
  · left
    refine ⟨refused, QasmRoundTrip.irToOpenqasm_refused ?_ ?_⟩
    · intro op inside
      exact (each inside).imp And.right And.right
    · obtain ⟨op, inside, unprintable⟩ := refused
      rcases each inside with ⟨printable, -⟩ | ⟨-, failed⟩
      · exact absurd printable unprintable
      · exact ⟨op, inside, failed⟩
  · right
    obtain ⟨qasm, program⟩ := QasmRoundTrip.programOf_printable prints now ir fun op inside =>
      Classical.byContradiction fun unprintable => refused ⟨op, inside, unprintable⟩
    obtain ⟨back, read, same⟩ := program.reads
    exact ⟨refused, qasm, back, program.printed, read, same⟩

namespace QasmRoundTrip

/-- The float that is nearest to -π/2. -/
def quarter : PyFloat := .finite (-884279719003555 / 562949953421312)

/-- A few floats and their texts. -/
def texts : List (PyFloat × String) :=
  [(.finite (1 / 2), "0.5"), (quarter, "-1.5707963267949"), (.infinite false, "inf"), (.infinite true, "-inf")]

/-- No letters beyond ASCII, and these floats; the others are not used. -/
def plain : Language where
  alphanumeric _ := false
  repr := String.ofList
  readFloat text :=
    if text = "nan" then some .nan else (texts.find? fun entry => entry.2 = text).map Prod.fst
  showFloat value := (texts.lookup value).getD "nan"
  formatFloat value := (texts.lookup value).getD "nan"
  minusHalfPi := quarter
  isCloseToMinusHalfPi value := value = quarter

theorem formatFloat_mem (value : PyFloat) : plain.formatFloat value ∈ "nan" :: texts.map Prod.snd := by
  change (texts.lookup value).getD "nan" ∈ _
  cases found : texts.lookup value with
  | none => exact List.mem_cons_self
  | some text =>
      obtain ⟨before, behind, split, -⟩ := List.lookup_eq_some_iff.mp found
      rw [split]
      simp

theorem plain_prints : plain.Prints := by
  have each : ∀ text ∈ "nan" :: texts.map Prod.snd, text ≠ "" ∧ (plain.readFloat text).isSome ∧
      text.toList.all (fun char => char ≠ ',' ∧ char ≠ ')' ∧ isSpace char = false) = true := by
    decide +kernel
  refine ⟨?_, ?_, ?_, ?_⟩
  · intro value
    exact (each _ (formatFloat_mem value)).1
  · intro value char inside
    exact of_decide_eq_true (List.all_eq_true.mp (each _ (formatFloat_mem value)).2.2 char inside)
  · intro value
    exact (each _ (formatFloat_mem value)).2.1
  · intro value read
    have same : plain.readFloat (plain.formatFloat quarter) = some quarter := by decide +kernel
    cases same.symm.trans read
    exact decide_eq_true rfl

/-- A rotation, a gate on two qubits and a pause, and both qubits measured. -/
def circuit : NativeGateIR where
  target := "cz"
  numQubits := 2
  gates := [⟨.rx, [0], [.finite (1 / 2)]⟩, ⟨.cz, [0, 1], []⟩, ⟨.id, [1], [.finite 20]⟩]
  measurements := [1, 0]
  metadata := ⟨"sha256:0", "now", "0.1.0", 2⟩
  valid := by decide +kernel

end QasmRoundTrip

/-- The circuit comes back without the duration. -/
theorem irToOpenqasm_roundTrip_circuit :
    ∃ qasm back, irToOpenqasm QasmRoundTrip.plain QasmRoundTrip.circuit = .ok qasm ∧
      openqasmToIr QasmRoundTrip.plain "" qasm "cz" (some QasmRoundTrip.circuit.metadata) = .ok back ∧
      back.gates = [⟨.rx, [0], [.finite (1 / 2)]⟩, ⟨.cz, [0, 1], []⟩, ⟨.id, [1], [.finite 0]⟩] ∧
      back.measurements = [1, 0] := by
  have printable : ¬ Unprintable QasmRoundTrip.circuit.toIRFields := by
    unfold Unprintable
    decide +kernel
  have trip := irToOpenqasm_roundTrip QasmRoundTrip.plain QasmRoundTrip.plain_prints "" QasmRoundTrip.circuit
  obtain ⟨-, qasm, back, printed, read, same⟩ := trip.resolve_left fun refused => printable refused.1
  have gates : (rereadCircuit QasmRoundTrip.plain QasmRoundTrip.circuit.toIRFields).gates =
      [⟨.rx, [0], [.finite (1 / 2)]⟩, ⟨.cz, [0, 1], []⟩, ⟨.id, [1], [.finite 0]⟩] := by
    decide +kernel
  exact ⟨qasm, back, printed, read, by rw [same, gates], by rw [same]; rfl⟩

end CodaNode.Qasm
