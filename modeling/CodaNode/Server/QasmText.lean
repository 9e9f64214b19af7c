/-
Module: CodaNode.Server.QasmText
Layer: Server
Purpose: The lines that `ir_to_openqasm` prints, read by the patterns of `openqasm_to_ir`. Every line misses the
  patterns that are tried first and matches the one it is printed for, and its captured texts are read back.
Imports: CodaNode.Python.Decimal, CodaNode.Python.Joined, CodaNode.Python.Reads, CodaNode.Server.Qasm
Main exports: digits, operandsText, gateText, statementAt_qubits, statementAt_measure, statementAt_gate, readQubits_text
-/
import CodaNode.Python.Decimal
import CodaNode.Python.Joined
import CodaNode.Python.Reads
import CodaNode.Server.Qasm

namespace CodaNode.Qasm

open Python Regex

/-- `str(number)` -/
def digits (number : Int) : List Char := (toString number).toList

/-- `q[number]` -/
def operandText (number : Int) : List Char := 'q' :: '[' :: digits number ++ [']']

/-- The operands of a gate. -/
def operandsText : List Int → List Char
  | [] => []
  | number :: numbers => operandText number ++ numbers.flatMap fun other => ',' :: ' ' :: operandText other

/-- The parameter of a gate, in parentheses. -/
def paramText : Option (List Char) → List Char
  | none => []
  | some param => '(' :: param ++ [')']

/-- The line of a gate. -/
def gateText (name : List Char) (param : Option (List Char)) (qubits : List Int) : List Char :=
  name ++ (paramText param ++ ' ' :: (operandsText qubits ++ [';']))

/-- The line of a declaration. -/
def declarationText (keyword : String) (count : Int) (register : Char) : List Char :=
  keyword.toList ++ '[' :: (digits count ++ [']', ' ', register, ';'])

/-- The line of a measurement. -/
def measureText (bit qubit : Int) : List Char :=
  'c' :: '[' :: (digits bit ++ "] = measure ".toList ++ (operandText qubit ++ [';']))

variable {language : Language} {number : Int} {rest : List Char}

/-! ### Digits and letters -/

theorem digits_ofNat (number : Nat) : digits number = Nat.toDigits 10 number := by
  rw [digits]
  change (Nat.repr number).toList = Nat.toDigits 10 number
  rw [Nat.repr, String.toList_ofList]

theorem digits_of_nonneg (positive : 0 ≤ number) : digits number = Nat.toDigits 10 number.toNat := by
  rw [← digits_ofNat, Int.toNat_of_nonneg positive]

theorem isDigit_of_mem_digits (positive : 0 ≤ number) : ∀ char ∈ digits number, char.isDigit = true := by
  rw [digits_of_nonneg positive]
  intro char inside
  exact Nat.isDigit_of_mem_toDigits (by decide) (by decide) inside

theorem isDigit_digits (positive : 0 ≤ number) : ∀ char ∈ digits number, isDigit char = true := by
  intro char inside
  rw [isDigit, decimalValue_isDigit (isDigit_of_mem_digits positive char inside)]
  rfl

theorem digits_ne_nil (positive : 0 ≤ number) : digits number ≠ [] := by
  rw [digits_of_nonneg positive]
  exact Nat.toDigits_ne_nil

theorem isWord_of_isAlphanum {char : Char} (letter : char.isAlphanum = true) : isWord language char = true := by
  simp [isWord, letter]

theorem isDigit_mark {char : Char} (low : char.toNat < 128) (mark : char.isDigit = false) : isDigit char = false := by
  rw [isDigit, decimalValue_mark low mark]
  rfl

/-- A character of the first script that is no letter, no digit and no underscore. -/
theorem isWord_mark {char : Char} (mark : (char.isAlphanum || char = '_' || 128 ≤ char.toNat) = false) :
    isWord language char = false := by
  simp only [Bool.or_eq_false_iff, decide_eq_false_iff_not] at mark
  obtain ⟨⟨letter, underscore⟩, low⟩ := mark
  have plain := letter
  rw [Char.isAlphanum, Bool.or_eq_false_iff] at plain
  have digit : isDigit char = false := isDigit_mark (Nat.lt_of_not_le low) plain.2
  simp [isWord, letter, underscore, digit, low]

theorem stops_bracket : Stops isDigit (']' :: rest) := by
  intro char same
  cases same
  exact isDigit_mark (by decide) (by decide)

theorem stops_isWord {char : Char}
    (mark : (char.isAlphanum || char = '_' || 128 ≤ char.toNat) = false) :
    Stops (isWord language) (char :: rest) := by
  intro other same
  cases same
  exact isWord_mark mark

theorem stops_isSpace {char : Char} (solid : isSpace char = false) : Stops isSpace (char :: rest) := by
  intro other same
  cases same
  exact solid

/-- One space. -/
theorem blank_reads (solid : Stops isSpace rest) : Reads (.many isSpace) (' ' :: rest) [] rest := by
  have space : ∀ char ∈ [' '], isSpace char = true := List.forall_mem_singleton.mpr rfl
  exact Reads.many space solid

theorem space_reads (solid : Stops isSpace rest) : Reads (.plus isSpace) (' ' :: rest) [] rest := by
  have space : ∀ char ∈ [' '], isSpace char = true := List.forall_mem_singleton.mpr rfl
  exact Reads.plus space (List.cons_ne_nil _ _) solid

/-- The end of a statement. -/
theorem ending_reads : Reads (.all [.many isSpace, text ";"]) [';'] [] [] :=
  (Reads.many_nil (stops_isSpace (by decide))).seq ((Reads.word ";".toList []).seq (Reads.empty []))

/-! ### Operands -/

/-- A register of one letter. -/
theorem letter_reads {letter : Char} (known : letter.isAlphanum = true) (stops : Stops (isWord language) rest) :
    Reads (.plus (isWord language)) (letter :: rest) [] rest := by
  have inside : ∀ char ∈ [letter], isWord language char = true :=
    List.forall_mem_singleton.mpr (isWord_of_isAlphanum known)
  exact Reads.plus inside (List.cons_ne_nil _ _) stops

theorem operandText_append : operandText number ++ rest = 'q' :: '[' :: (digits number ++ ']' :: rest) := by
  simp [operandText]

/-- The register of an operand. -/
theorem register_reads : Reads (.plus (isWord language)) (operandText number ++ rest) []
    ('[' :: (digits number ++ ']' :: rest)) := by
  rw [operandText_append]
  exact letter_reads (by decide) (stops_isWord (by decide))

theorem digits_reads (positive : 0 ≤ number) :
    Reads (.plus isDigit) (digits number ++ ']' :: rest) [] (']' :: rest) :=
  Reads.plus (isDigit_digits positive) (digits_ne_nil positive) stops_bracket

theorem operandRe_reads (positive : 0 ≤ number) : Reads (operandRe language) (operandText number ++ rest) [] rest := by
  have bracket : Reads (.all [text "]"]) (']' :: rest) [] rest := (Reads.word "]".toList rest).seq (Reads.empty rest)
  exact register_reads.seq ((Reads.word "[".toList _).seq ((digits_reads positive).seq bracket))

theorem qubitRefRe_reads (positive : 0 ≤ number) :
    Reads (qubitRefRe language) (operandText number ++ rest) [some (digits number)] rest := by
  have bracket : Reads (.all [text "]"]) (']' :: rest) [] rest := (Reads.word "]".toList rest).seq (Reads.empty rest)
  exact register_reads.seq ((Reads.word "[".toList _).seq ((digits_reads positive).group.seq bracket))

/-- One more operand. -/
theorem nextOperand_reads (positive : 0 ≤ number) :
    Reads (.all [.many isSpace, text ",", .many isSpace, operandRe language])
      (',' :: ' ' :: (operandText number ++ rest)) [] rest := by
  have white : Reads (.many isSpace) (' ' :: (operandText number ++ rest)) [] (operandText number ++ rest) :=
    blank_reads (stops_isSpace (by decide))
  have operand : Reads (.all [operandRe language]) (operandText number ++ rest) [] rest :=
    (operandRe_reads positive).seq (Reads.empty rest)
  exact (Reads.many_nil (stops_isSpace (by decide))).seq ((Reads.word ",".toList _).seq (white.seq operand))

/-- The operands behind the first one, in front of the end of the statement. -/
theorem moreOperands_reads {numbers : List Int} (positive : ∀ number ∈ numbers, 0 ≤ number) :
    Reads (.star (.all [.many isSpace, text ",", .many isSpace, operandRe language]))
      (numbers.flatMap (fun other => ',' :: ' ' :: operandText other) ++ ';' :: rest) [] (';' :: rest) := by
  induction numbers with
  | nil =>
      apply Reads.star_nil
      apply Fails.seq_right
      intro found inside
      obtain ⟨-, front, split, all⟩ := mem_run_star inside
      apply Fails.seq_left
      apply Fails.word
      cases front with
      | nil =>
          rw [← show ';' :: rest = found.2 from split]
          rfl
      | cons char front =>
          cases split
          exact absurd (all ';' List.mem_cons_self) (by decide)
  | cons number numbers ih =>
      obtain ⟨first, positive⟩ := List.forall_mem_cons.mp positive
      rw [List.flatMap_cons, List.append_assoc]
      apply Reads.star_cons (nextOperand_reads first) _ (ih positive)
      simp
      omega

theorem operands_read {numbers : List Int} (present : numbers ≠ []) (positive : ∀ number ∈ numbers, 0 ≤ number) :
    Reads (.all [operandRe language,
      .star (.all [.many isSpace, text ",", .many isSpace, operandRe language])])
      (operandsText numbers ++ ';' :: rest) [] (';' :: rest) := by
  cases numbers with
  | nil => exact absurd rfl present
  | cons number numbers =>
      obtain ⟨first, positive⟩ := List.forall_mem_cons.mp positive
      rw [operandsText, List.append_assoc]
      exact (operandRe_reads first).seq ((moreOperands_reads positive).seq (Reads.empty _))

theorem operandText_longer : rest.length < (operandText number ++ rest).length := by
  rw [operandText, List.length_append, List.length_append, List.length_cons]
  omega

/-- The indices of the operands are found one behind the other. -/
theorem findall_operands {numbers : List Int} (positive : ∀ number ∈ numbers, 0 ≤ number) :
    (qubitRefRe language).findall (operandsText numbers) = numbers.map fun number => [some (digits number)] := by
  have consumes : Fails (qubitRefRe language) [] := rfl
  have more (numbers : List Int) (positive : ∀ number ∈ numbers, 0 ≤ number) :
      (qubitRefRe language).findall (numbers.flatMap fun other => ',' :: ' ' :: operandText other) =
        numbers.map fun number => [some (digits number)] := by
    induction numbers with
    | nil => exact findall_nil consumes
    | cons number numbers ih =>
        obtain ⟨first, positive⟩ := List.forall_mem_cons.mp positive
        rw [List.flatMap_cons, List.cons_append, List.cons_append, findall_skip consumes, findall_skip consumes,
          findall_reads consumes (qubitRefRe_reads first) operandText_longer, ih positive, List.map_cons]
        · exact Fails.seq_left (Fails.plus (stops_isWord (by decide)))
        · exact Fails.seq_left (Fails.plus (stops_isWord (by decide)))
  cases numbers with
  | nil => exact findall_nil consumes
  | cons number numbers =>
      obtain ⟨first, positive⟩ := List.forall_mem_cons.mp positive
      rw [operandsText, findall_reads consumes (qubitRefRe_reads first) operandText_longer, more numbers positive,
        List.map_cons]

theorem operandIndices_text {numbers : List Int} (positive : ∀ number ∈ numbers, 0 ≤ number) :
    operandIndices language (operandsText numbers) = numbers.map digits := by
  rw [operandIndices, findall_operands positive, List.filterMap_map]
  exact congrFun List.filterMap_eq_map' numbers

/-! ### Statements -/

variable {name : List Char} {param : Option (List Char)} {qubits : List Int} {bit : Int}

/-- The parameter fits between parentheses. -/
def Enclosed (param : Option (List Char)) : Prop := ∀ text, param = some text → ∀ char ∈ text, char ≠ ')'

theorem params_read (enclosed : Enclosed param) :
    Reads (.optional (.all [text "(", .group (.many (· ≠ ')')), text ")"])) (paramText param ++ ' ' :: rest) [param]
      (' ' :: rest) := by
  cases param with
  | none => exact Reads.absent rfl
  | some param =>
      have inner : Reads (.group (.many (· ≠ ')'))) (param ++ ')' :: ' ' :: rest) [some param] (')' :: ' ' :: rest) := by
        apply Reads.group
        apply Reads.many
        · intro char inside
          exact decide_eq_true (enclosed param rfl char inside)
        · intro char same
          cases same
          rfl
      have closing : Reads (.all [text ")"]) (')' :: ' ' :: rest) [] (' ' :: rest) :=
        (Reads.word ")".toList _).seq (Reads.empty _)
      apply Reads.optional
      rw [paramText, List.cons_append, List.cons_append, List.append_assoc]
      exact (Reads.word "(".toList _).seq (inner.seq closing)

/-- What stands behind the name of a gate. -/
theorem stops_name (mark : Char → Bool) (parenthesis : mark '(' = false) (space : mark ' ' = false) :
    Stops mark (paramText param ++ ' ' :: rest) := by
  intro char same
  cases param <;> cases same <;> assumption

theorem isWord_parenthesis : isWord language '(' = false := isWord_mark (by decide)

theorem isWord_space : isWord language ' ' = false := isWord_mark (by decide)

theorem gateRe_reads (letters : ∀ char ∈ name, char.isAlphanum = true) (named : name ≠ []) (enclosed : Enclosed param)
    (present : qubits ≠ []) (positive : ∀ qubit ∈ qubits, 0 ≤ qubit) :
    Reads (gateRe language) (gateText name param qubits) [some name, param, some (operandsText qubits)] [] := by
  have word : Reads (.group (.plus (isWord language))) (gateText name param qubits) [some name]
      (paramText param ++ ' ' :: (operandsText qubits ++ [';'])) := by
    apply Reads.group
    apply Reads.plus _ named (stops_name _ isWord_parenthesis isWord_space)
    intro char inside
    exact isWord_of_isAlphanum (letters char inside)
  have white : Reads (.plus isSpace) (' ' :: (operandsText qubits ++ [';'])) [] (operandsText qubits ++ [';']) := by
    apply space_reads
    intro char same
    cases qubits with
    | nil => exact absurd rfl present
    | cons qubit qubits =>
        cases same
        rfl
  exact word.seq ((params_read enclosed).seq (white.seq ((operands_read present positive).group.seq ending_reads)))

/-- The index of a declaration or a measurement. -/
theorem index_reads (positive : 0 ≤ number) :
    Reads (.group (.plus isDigit)) (digits number ++ ']' :: rest) [some (digits number)] (']' :: rest) :=
  (digits_reads positive).group

theorem measureRe_reads (bitPositive : 0 ≤ bit) (positive : 0 ≤ number) :
    Reads (measureRe language) (measureText bit number) [some (digits bit), some (digits number)] [] := by
  have left : measureText bit number =
      'c' :: '[' :: (digits bit ++ ']' :: ' ' :: '=' :: ' ' :: ("measure".toList ++ ' ' :: (operandText number ++ [';']))) := by
    simp [measureText]
  have qubit : Reads (.all [.plus (isWord language), text "[", .group (.plus isDigit), text "]", .many isSpace, text ";"])
      (operandText number ++ [';']) [some (digits number)] [] :=
    register_reads.seq ((Reads.word "[".toList _).seq ((index_reads positive).seq
      ((Reads.word "]".toList [';']).seq ending_reads)))
  have source : Reads (.all [text "measure", .plus isSpace, .plus (isWord language), text "[", .group (.plus isDigit),
      text "]", .many isSpace, text ";"]) ("measure".toList ++ ' ' :: (operandText number ++ [';']))
      [some (digits number)] [] :=
    (Reads.word "measure".toList _).seq ((space_reads (stops_isSpace (by decide))).seq qubit)
  rw [left]
  exact (letter_reads (by decide) (stops_isWord (by decide))).seq ((Reads.word "[".toList _).seq
    ((index_reads bitPositive).seq ((Reads.word "]".toList _).seq ((blank_reads (stops_isSpace (by decide))).seq
      ((Reads.word "=".toList _).seq ((blank_reads (stops_isSpace (by decide))).seq source))))))

theorem declarationRe_reads {keyword : String} {register : Char} (known : register.isAlphanum = true)
    (solid : isSpace register = false) (positive : 0 ≤ number) :
    Reads (declarationRe language keyword) (declarationText keyword number register) [some (digits number)] [] := by
  have word : Reads (.all [.plus (isWord language), .many isSpace, text ";"]) [register, ';'] [] [] :=
    (letter_reads known (stops_isWord (by decide))).seq ending_reads
  exact (Reads.word keyword.toList _).seq ((Reads.word "[".toList _).seq ((index_reads positive).seq
    ((Reads.word "]".toList _).seq ((space_reads (stops_isSpace solid)).seq word))))

/-! ### The patterns that are tried first -/

theorem statementAt_header : statementAt language "OPENQASM 3.0;".toList = some (.header, []) := by
  have read : headerRe.matchAt "OPENQASM 3.0;".toList = some ([], []) := by decide +kernel
  simp only [statementAt, read]

theorem statementAt_includes : statementAt language "include \"stdgates.inc\";".toList = some (.includes, []) := by
  have header : Fails headerRe "include \"stdgates.inc\";".toList := Fails.seq_left (Fails.word rfl)
  have read : includeRe.matchAt "include \"stdgates.inc\";".toList = some ([], []) := by decide +kernel
  simp only [statementAt, header.matchAt_eq, read]

theorem statementAt_bits (positive : 0 ≤ number) :
    statementAt language (declarationText "bit" number 'c') = some (.bits, []) := by
  have header : Fails headerRe (declarationText "bit" number 'c') := Fails.seq_left (Fails.word rfl)
  have includes : Fails includeRe (declarationText "bit" number 'c') := Fails.seq_left (Fails.word rfl)
  have read : Reads (bitDeclRe language) (declarationText "bit" number 'c') [some (digits number)] [] :=
    declarationRe_reads (by decide) (by decide) positive
  rw [Reads] at read
  simp only [statementAt, header.matchAt_eq, includes.matchAt_eq, read]

theorem statementAt_qubits (positive : 0 ≤ number) :
    statementAt language (declarationText "qubit" number 'q') = some (.qubits (digits number), []) := by
  have header : Fails headerRe (declarationText "qubit" number 'q') := Fails.seq_left (Fails.word rfl)
  have includes : Fails includeRe (declarationText "qubit" number 'q') := Fails.seq_left (Fails.word rfl)
  have bits : Fails (bitDeclRe language) (declarationText "qubit" number 'q') := Fails.seq_left (Fails.word rfl)
  have read : Reads (qubitDeclRe language) (declarationText "qubit" number 'q') [some (digits number)] [] :=
    declarationRe_reads (by decide) (by decide) positive
  rw [Reads] at read
  simp only [statementAt, header.matchAt_eq, includes.matchAt_eq, bits.matchAt_eq, read]

theorem statementAt_measure (bitPositive : 0 ≤ bit) (positive : 0 ≤ number) :
    statementAt language (measureText bit number) = some (.measure (digits bit) (digits number), []) := by
  have header : Fails headerRe (measureText bit number) := Fails.seq_left (Fails.word rfl)
  have includes : Fails includeRe (measureText bit number) := Fails.seq_left (Fails.word rfl)
  have bits : Fails (bitDeclRe language) (measureText bit number) := Fails.seq_left (Fails.word rfl)
  have qubits : Fails (qubitDeclRe language) (measureText bit number) := Fails.seq_left (Fails.word rfl)
  have read : Reads (measureRe language) (measureText bit number) [some (digits bit), some (digits number)] [] :=
    measureRe_reads bitPositive positive
  rw [Reads] at read
  simp only [statementAt, header.matchAt_eq, includes.matchAt_eq, bits.matchAt_eq, qubits.matchAt_eq, read]

/-- The names of the gates in a program. -/
def gateNames : List String := ["rx", "ry", "rz", "cz", "id", "sx", "cx"]

theorem statementAt_gate {gate : String} (known : gate ∈ gateNames) (enclosed : Enclosed param) (present : qubits ≠ [])
    (positive : ∀ qubit ∈ qubits, 0 ≤ qubit) :
    statementAt language (gateText gate.toList param qubits) =
      some (.gate gate.toList param (operandsText qubits), []) := by
  have words : ∀ gate ∈ gateNames, gate.toList ≠ [] ∧ gate.toList.all Char.isAlphanum = true := by decide
  obtain ⟨named, all⟩ := words gate known
  have letters : ∀ char ∈ gate.toList, char.isAlphanum = true := List.all_eq_true.mp all
  have literal {word : String} (keyword : word ∈ ["OPENQASM", "include", "bit", "qubit"]) (right : Regex) :
      Fails (.seq (text word) right) (gateText gate.toList param qubits) := by
    apply Fails.seq_left
    apply Fails.word
    simp only [gateNames, List.mem_cons, List.not_mem_nil, or_false] at known keyword
    rcases known with rfl | rfl | rfl | rfl | rfl | rfl | rfl <;> rcases keyword with rfl | rfl | rfl | rfl <;> rfl
  have header : Fails headerRe (gateText gate.toList param qubits) := literal (by decide) _
  have includes : Fails includeRe (gateText gate.toList param qubits) := literal (by decide) _
  have bits : Fails (bitDeclRe language) (gateText gate.toList param qubits) := literal (by decide) _
  have declared : Fails (qubitDeclRe language) (gateText gate.toList param qubits) := literal (by decide) _
  have behind : (paramText param ++ ' ' :: (operandsText qubits ++ [';'])).head? ≠ some '[' := by
    cases param <;> simp [paramText]
  have solid : ∀ char ∈ gate.toList, isWord language char = true := fun char inside =>
    isWord_of_isAlphanum (letters char inside)
  have measure : Fails (measureRe language) (gateText gate.toList param qubits) :=
    Fails.plus_mark solid (stops_name _ isWord_parenthesis isWord_space) (isWord_mark (by decide)) behind _
  have read : Reads (gateRe language) (gateText gate.toList param qubits)
      [some gate.toList, param, some (operandsText qubits)] [] :=
    gateRe_reads letters named enclosed present positive
  rw [Reads] at read
  simp only [statementAt, header.matchAt_eq, includes.matchAt_eq, bits.matchAt_eq, declared.matchAt_eq,
    measure.matchAt_eq, read]

end CodaNode.Qasm
