/-
Module: CodaNode.Proofs.IrRoundTrip
Layer: Proofs
Purpose: When a circuit survives `to_json` and `from_json`. The reader takes back everything the writer
  has written of a valid circuit except an angle that is not finite: the validators admit it, and the
  text carries null in its place.
Imports: CodaNode.Server.IrJson, CodaNode.Server.Circuit
Main exports: NativeGateIR.fromJson_toJson_iff
-/
import CodaNode.Server.IrJson
import CodaNode.Server.Circuit

namespace CodaNode

open Python (Json)

/-! ### What is written -/

theorem asWrittenItems_eq (items : List (Json PyFloat)) : asWrittenItems items = items.map asWritten := by
  induction items with
  | nil => rfl
  | cons item items ih => rw [asWrittenItems, ih, List.map_cons]

theorem asWritten_list (items : List (Json PyFloat)) :
    asWritten (.list items) = .list (items.map asWritten) := by
  rw [asWritten, asWrittenItems_eq]

/-- Integers stand in the text as they are. -/
theorem asWritten_ints (values : List Int) : asWritten (.list (values.map .int)) = .list (values.map .int) := by
  rw [asWritten_list, List.map_map]
  exact congrArg Json.list (List.map_congr_left fun value _ => asWritten.eq_6 value)

/-- A gate as it stands in the text. -/
def GateOp.written (op : GateOp) : Json PyFloat :=
  .dict [("gate", .str op.gate.value), ("qubits", .list (op.qubits.map .int)),
    ("params", .list (op.params.map fun param => asWritten (.float param)))]

theorem GateOp.asWritten_modelDump (op : GateOp) : asWritten op.modelDump = op.written := by
  rw [modelDump, asWritten, asWrittenEntries, asWrittenEntries, asWrittenEntries, asWrittenEntries,
    asWritten_ints, asWritten_list, List.map_map, asWritten, written]
  rfl

theorem IRMetadata.asWritten_modelDump (metadata : IRMetadata) :
    asWritten metadata.modelDump = metadata.modelDump := by
  simp only [modelDump, asWritten, asWrittenEntries]

/-- A circuit as it stands in the text. -/
def NativeGateIR.written (ir : NativeGateIR) : Json PyFloat :=
  .dict [("version", .str ir.version), ("target", .str ir.target), ("num_qubits", .int ir.numQubits),
    ("gates", .list (ir.gates.map GateOp.written)), ("measurements", .list (ir.measurements.map .int)),
    ("metadata", ir.metadata.modelDump)]

theorem NativeGateIR.asWritten_modelDump (ir : NativeGateIR) : asWritten ir.modelDump = ir.written := by
  have gates : (ir.gates.map GateOp.modelDump).map asWritten = ir.gates.map GateOp.written := by
    rw [List.map_map]
    exact List.map_congr_left fun op _ => op.asWritten_modelDump
  simp only [modelDump, asWritten, asWrittenEntries, asWrittenItems_eq, gates,
    IRMetadata.asWritten_modelDump, written]
  rw [← asWritten_list, asWritten_ints]

/-! ### What is read -/

namespace Pydantic

variable {pydantic : Pydantic}

/-- Reading a list item by item gives the list when every item is read as its own value. -/
theorem mapM_map_iff {α : Type} {readItem : Json PyFloat → Except String α} {item : α → Json PyFloat}
    {values : List α} :
    (values.map item).mapM readItem = .ok values ↔ ∀ value ∈ values, readItem (item value) = .ok value := by
  induction values with
  | nil => simp [pure, Except.pure]
  | cons value values ih =>
      rw [List.map_cons, List.mapM_cons, List.forall_mem_cons, ← ih]
      cases readItem (item value) with
      | error message => simp [bind, Except.bind]
      | ok read =>
          cases (values.map item).mapM readItem with
          | error message => simp [bind, Except.bind]
          | ok rest => simp [bind, Except.bind, pure, Except.pure]

theorem readList_ints (documented : pydantic.Documented) (values : List Int) :
    readList pydantic.readInt (.list (values.map .int)) = .ok values :=
  mapM_map_iff.mpr fun value _ => documented.int value

theorem readFloat_asWritten_iff (documented : pydantic.Documented) {param : PyFloat} :
    pydantic.readFloat (asWritten (.float param)) = .ok param ↔ param.isFinite := by
  cases param with
  | finite value => simpa [asWritten, PyFloat.isFinite] using documented.float value
  | infinite negative => simpa [asWritten, PyFloat.isFinite] using documented.null _
  | nan => simpa [asWritten, PyFloat.isFinite] using documented.null _

theorem readGate_value (documented : pydantic.Documented) (gate : NativeGate) :
    pydantic.readGate (.str gate.value) = .ok gate := by
  have named : NativeGate.ofValue gate.value = some gate := by cases gate <;> decide
  simp [readGate, documented.str, bind, Except.bind, named]

/-- A gate is read back exactly when its angles are finite. -/
theorem readOp_written_iff (documented : pydantic.Documented) {op : GateOp} :
    pydantic.readOp op.written = .ok op ↔ ∀ param ∈ op.params, param.isFinite := by
  have params : readList pydantic.readFloat (.list (op.params.map fun param => asWritten (.float param)))
      = .ok op.params ↔ ∀ param ∈ op.params, param.isFinite := by
    simp only [readList, mapM_map_iff, readFloat_asWritten_iff documented]
  rw [← params]
  simp only [readOp, GateOp.written, readDict, required, optional, Json.get, List.reverse_cons,
    List.reverse_nil, List.nil_append, List.cons_append, List.lookup_cons, String.reduceBEq, beq_self_eq_true,
    readGate_value documented, readList_ints documented, bind, Except.bind]
  cases readList pydantic.readFloat (.list (op.params.map fun param => asWritten (.float param))) with
  | error message => simp
  | ok read =>
      simp only [pure, Except.pure, Except.ok.injEq]
      constructor
      · intro same
        exact congrArg GateOp.params same
      · intro same
        rw [same]

theorem readMetadata_modelDump (documented : pydantic.Documented) (metadata : IRMetadata) :
    pydantic.readMetadata metadata.modelDump = .ok metadata := by
  simp [readMetadata, IRMetadata.modelDump, readDict, required, optional, Json.get, List.lookup_cons,
    documented.str, documented.int, bind, Except.bind, pure, Except.pure]

/-- A circuit is read back exactly when all its angles are finite. -/
theorem readIR_written_iff (documented : pydantic.Documented) {ir : NativeGateIR} :
    pydantic.readIR ir.written = .ok ir.toIRFields ↔
      ∀ op ∈ ir.gates, ∀ param ∈ op.params, param.isFinite := by
  have gates : readList pydantic.readOp (.list (ir.gates.map GateOp.written)) = .ok ir.gates ↔
      ∀ op ∈ ir.gates, ∀ param ∈ op.params, param.isFinite := by
    simp only [readList, mapM_map_iff, readOp_written_iff documented]
  rw [← gates]
  simp only [readIR, NativeGateIR.written, readDict, required, optional, Json.get, List.reverse_cons,
    List.reverse_nil, List.nil_append, List.cons_append, List.lookup_cons, String.reduceBEq, beq_self_eq_true,
    documented.str, documented.int, readList_ints documented, readMetadata_modelDump documented, bind,
    Except.bind]
  cases readList pydantic.readOp (.list (ir.gates.map GateOp.written)) with
  | error message => simp
  | ok read =>
      simp only [pure, Except.pure, Except.ok.injEq]
      constructor
      · intro same
        exact congrArg IRFields.gates same
      · intro same
        rw [same]

end Pydantic

/-! ### The round trip -/

/-- `from_json` returns a circuit exactly when its typed fields are read: they are valid. -/
theorem NativeGateIR.fromJson_iff {readFields : String → Except String IRFields} {text : String}
    {ir : NativeGateIR} :
    NativeGateIR.fromJson readFields text = .ok ir ↔ readFields text = .ok ir.toIRFields := by
  unfold fromJson
  cases readFields text with
  | error message => simp
  | ok fields =>
      dsimp only
      constructor
      · intro read
        split at read
        · cases read
          rfl
        · cases read
      · intro same
        cases same
        split
        · rfl
        · next refused => cases ir.valid.symm.trans refused

/-- What is read is what was written. -/
theorem NativeGateIR.readFields_toJson {pydantic : Pydantic} (ir : NativeGateIR)
    (carries : pydantic.Carries ir.modelDump) :
    pydantic.readFields (ir.toJson pydantic) = pydantic.readIR ir.written := by
  simp only [Pydantic.readFields, toJson]
  rw [carries, ir.asWritten_modelDump]
  rfl

/-- `from_json(to_json)` gives a valid circuit back exactly when none of its angles and durations is an
infinity or a NaN. -/
theorem NativeGateIR.fromJson_toJson_iff (pydantic : Pydantic) (documented : pydantic.Documented)
    (ir : NativeGateIR) (carries : pydantic.Carries ir.modelDump) :
    NativeGateIR.fromJson pydantic.readFields (ir.toJson pydantic) = .ok ir ↔
      ∀ op ∈ ir.gates, ∀ param ∈ op.params, param.isFinite := by
  rw [← Pydantic.readIR_written_iff documented, ← ir.readFields_toJson carries, fromJson_iff]

/-- A circuit with one rotation. -/
def rotated (angle : PyFloat) : NativeGateIR where
  target := "cz"
  numQubits := 1
  gates := [⟨.rz, [0], [angle]⟩]
  measurements := [0]
  metadata := ⟨"abc123", "2026-01-01T00:00:00Z", "0.1.0", 2⟩
  valid := rfl

namespace IrRoundTrip

/-- A reader and a writer for texts whose only finite float is 1.5. -/
def pydantic : Pydantic where
  write tree := Json.dumps (fun _ => ['1', '.', '5']) (asWritten tree)
  read text :=
    match Json.loads (fun _ => PyFloat.finite (3 / 2)) text with
    | some tree => .ok tree
    | none => .error "Invalid JSON"
  readInt
    | .int value => .ok value
    | _ => .error "Input should be a valid integer"
  readFloat
    | .float value => .ok value
    | .int value => .ok (.finite value)
    | _ => .error "Input should be a valid number"
  readStr
    | .str value => .ok value
    | _ => .error "Input should be a valid string"

theorem pydantic_documented : pydantic.Documented :=
  ⟨fun _ => rfl, fun _ => rfl, fun _ => rfl, fun _ => by simp [pydantic]⟩

/-- The text reads back when the decoder takes its characters. -/
theorem carries_of_value {tree : Json PyFloat} {chars : List Char} {length : Nat}
    (written : Json.dump (fun _ => ['1', '.', '5']) 0 (asWritten tree) = chars) (long : chars.length = length)
    (read : Json.value (fun _ => PyFloat.finite (3 / 2)) (length + 1) (Json.skip chars) =
      some (asWritten tree, [])) :
    pydantic.Carries tree := by
  have loaded : Json.loads (fun _ => PyFloat.finite (3 / 2)) (String.ofList chars) = some (asWritten tree) := by
    rw [Json.loads, String.toList_ofList, long, read]
    rfl
  have text : pydantic.write tree = String.ofList chars := by
    rw [← written]
    rfl
  unfold Pydantic.Carries
  rw [text]
  dsimp only [pydantic]
  rw [loaded]

theorem carries_finite : pydantic.Carries (rotated (.finite (3 / 2))).modelDump := by
  have long : (Json.dump (fun _ => ['1', '.', '5']) 0 (asWritten (rotated (.finite (3 / 2))).modelDump)).length
      = 369 := by decide +kernel
  exact carries_of_value rfl long (by decide +kernel)

theorem carries_nan : pydantic.Carries (rotated .nan).modelDump := by
  have long : (Json.dump (fun _ => ['1', '.', '5']) 0 (asWritten (rotated .nan).modelDump)).length
      = 370 := by decide +kernel
  exact carries_of_value rfl long (by decide +kernel)

end IrRoundTrip

/-- A finite angle comes back. -/
theorem NativeGateIR.fromJson_toJson_finite :
    NativeGateIR.fromJson IrRoundTrip.pydantic.readFields
        ((rotated (.finite (3 / 2))).toJson IrRoundTrip.pydantic) = .ok (rotated (.finite (3 / 2))) :=
  (NativeGateIR.fromJson_toJson_iff IrRoundTrip.pydantic IrRoundTrip.pydantic_documented _
    IrRoundTrip.carries_finite).mpr (by simp [rotated, PyFloat.isFinite])

/-- A circuit with the angle NaN is valid, and its text is refused. -/
theorem NativeGateIR.fromJson_toJson_nan :
    ∃ pydantic : Pydantic, pydantic.Documented ∧ pydantic.Carries (rotated .nan).modelDump ∧
      ∀ ir, NativeGateIR.fromJson pydantic.readFields ((rotated .nan).toJson pydantic) ≠ .ok ir := by
  refine ⟨IrRoundTrip.pydantic, IrRoundTrip.pydantic_documented, IrRoundTrip.carries_nan, ?_⟩
  intro ir read
  rw [NativeGateIR.fromJson_iff] at read
  have refused : (IrRoundTrip.pydantic.readIR (rotated .nan).written).toOption = none := by decide +kernel
  rw [← (rotated .nan).readFields_toJson IrRoundTrip.carries_nan, read] at refused
  cases refused

end CodaNode
