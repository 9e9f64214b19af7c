/-
Module: CodaNode.Python.Decimal
Layer: Python (library)
Purpose: `int` reads back what `str` writes for a number that is not negative, with white space around it.
Imports: CodaNode.Python.Lines
Main exports: digitRun_digits, magnitude_toDigits, strip_solid, int_toDigits
-/
import CodaNode.Python.Lines

namespace Python

/-- A digit of the western script has its own value. -/
theorem decimalValue_isDigit {char : Char} (digit : char.isDigit) :
    decimalValue char = some (char.toNat - '0'.toNat) := by
  have range : 0x30 ≤ char.toNat ∧ char.toNat < 0x30 + 10 := by
    simp only [Char.isDigit, ge_iff_le, Bool.and_eq_true, decide_eq_true_eq, UInt32.le_iff_toNat_le] at digit
    have low : 48 ≤ char.toNat := digit.1
    have high : char.toNat ≤ 57 := digit.2
    omega
  simp only [decimalValue, decimalZeros, List.find?_cons, decide_eq_true range.1, decide_eq_true range.2,
    Bool.and_self, Option.map_some]
  rfl

/-- The digits of the other scripts lie beyond ASCII. -/
theorem decimalValue_mark {char : Char} (low : char.toNat < 128) (mark : char.isDigit = false) :
    decimalValue char = none := by
  have far : ∀ first ∈ decimalZeros, first = 0x30 ∨ 128 ≤ first := by decide
  rw [decimalValue, Option.map_eq_none_iff, List.find?_eq_none]
  intro first inside holds
  simp only [Bool.and_eq_true, decide_eq_true_eq] at holds
  rcases far first inside with rfl | beyond
  · simp only [Char.isDigit, ge_iff_le, Bool.and_eq_false_iff, decide_eq_false_iff_not,
      UInt32.le_iff_toNat_le] at mark
    rcases mark with below | above
    · exact below holds.1
    · have high : ¬ char.toNat ≤ 57 := above
      omega
  · omega

theorem digitRun_digits {chars : List Char} (digits : ∀ char ∈ chars, char.isDigit) (present : chars ≠ []) :
    digitRun chars = some (chars.map fun char => char.toNat - '0'.toNat) := by
  induction chars with
  | nil => exact absurd rfl present
  | cons char rest ih =>
      have first := decimalValue_isDigit (digits char List.mem_cons_self)
      cases rest with
      | nil => simp only [digitRun, first, Option.map_some, List.map_cons, List.map_nil]
      | cons next others =>
          have mark : next ≠ '_' := by
            rintro rfl
            exact absurd (digits '_' (List.mem_cons_of_mem _ List.mem_cons_self)) (by decide)
          have behind := ih (fun other inside => digits other (List.mem_cons_of_mem _ inside)) (by simp)
          rw [digitRun, first, behind]
          · rfl
          · exact mark

theorem magnitude_toDigits {number : Nat} (short : (Nat.toDigits 10 number).length ≤ maxStrDigits) :
    magnitude (Nat.toDigits 10 number) = some number := by
  have digits : ∀ char ∈ Nat.toDigits 10 number, char.isDigit := fun char inside =>
    Nat.isDigit_of_mem_toDigits (by decide) (by decide) inside
  have value : ((Nat.toDigits 10 number).map fun char => char.toNat - '0'.toNat).foldl
      (fun total digit => 10 * total + digit) 0 = number := by
    rw [List.foldl_map, ← Nat.ofDigitChars_eq_foldl, Nat.ofDigitChars_ten_toDigits]
  rw [magnitude, digitRun_digits digits Nat.toDigits_ne_nil]
  simp only [Option.bind_eq_bind, Option.bind_some, List.length_map, if_pos short, value, Option.pure_def]

section

variable {isWhite : Char → Bool} {word blank : List Char}

/-- White characters around solid text are cut. -/
theorem trim_solid (solid : ∀ char ∈ word, ¬ isWhite char) (present : word ≠ [])
    (white : ∀ char ∈ blank, isWhite char) : trim isWhite (word ++ blank) = word := by
  have front : (word ++ blank).dropWhile isWhite = word ++ blank := by
    cases word with
    | nil => exact absurd rfl present
    | cons char word => rw [List.cons_append, List.dropWhile_cons_of_neg (solid char List.mem_cons_self)]
  rw [trim, front, List.reverse_append, List.dropWhile_append_of_pos, dropWhile_reverse solid, List.reverse_reverse]
  intro char inside
  exact white char (List.mem_reverse.mp inside)

/-- White space around solid text is cut. -/
theorem strip_solid (solid : ∀ char ∈ word, ¬ isSpace char) (present : word ≠ [])
    (white : ∀ char ∈ blank, isSpace char) : strip (word ++ blank) = word :=
  trim_solid solid present white

end

theorem isSpace_isDigit {char : Char} (digit : char.isDigit) : ¬ isSpace char := by
  have range : 48 ≤ char.toNat ∧ char.toNat ≤ 57 := by
    simp only [Char.isDigit, ge_iff_le, Bool.and_eq_true, decide_eq_true_eq, UInt32.le_iff_toNat_le] at digit
    exact digit
  simp only [isSpace, Bool.or_eq_true, Bool.and_eq_true, decide_eq_true_eq, beq_iff_eq]
  omega

theorem isIntSpace_isDigit {char : Char} (digit : char.isDigit) : ¬ isIntSpace char := by
  have solid := isSpace_isDigit digit
  simp only [isIntSpace, Bool.and_eq_true, not_and]
  intro white
  exact absurd white solid

theorem strip_toDigits (number : Nat) {blank : List Char} (white : ∀ char ∈ blank, isSpace char) :
    strip (Nat.toDigits 10 number ++ blank) = Nat.toDigits 10 number := by
  apply strip_solid _ Nat.toDigits_ne_nil white
  intro char inside
  exact isSpace_isDigit (Nat.isDigit_of_mem_toDigits (by decide) (by decide) inside)

/-- `int(str(number))`. -/
theorem int_toDigits {number : Nat} (short : (Nat.toDigits 10 number).length ≤ maxStrDigits) :
    int (String.ofList (Nat.toDigits 10 number)) = some number := by
  have digits : ∀ char ∈ Nat.toDigits 10 number, char.isDigit := fun char inside =>
    Nat.isDigit_of_mem_toDigits (by decide) (by decide) inside
  have same : trim isIntSpace (Nat.toDigits 10 number ++ []) = Nat.toDigits 10 number :=
    trim_solid (fun char inside => isIntSpace_isDigit (digits char inside)) Nat.toDigits_ne_nil (by simp)
  rw [List.append_nil] at same
  have read := magnitude_toDigits short
  rw [int, String.toList_ofList, same]
  cases shape : Nat.toDigits 10 number with
  | nil => exact absurd shape Nat.toDigits_ne_nil
  | cons first rest =>
      rw [shape] at read digits
      have digit := digits first List.mem_cons_self
      split
      · rename_i chars minus
        cases minus
        exact absurd digit (by decide)
      · rename_i chars plus
        cases plus
        exact absurd digit (by decide)
      · rw [read]
        rfl

end Python
