/-
Module: CodaNode.Python.JsonRoundTrip
Layer: Python (library)
Purpose: The decoder reads back what the encoder has written: every value without floats whose integers
  have no more digits than a decimal text may have.
Imports: CodaNode.Python.JsonCut
Main exports: Python.Json.writable, Python.Json.return_not_mem_dump, Python.Json.loads_dumps
-/
import CodaNode.Python.JsonCut

namespace Python.Json

variable {F : Type} {readFloat : List Char → F} {writeFloat : F → List Char}

mutual

/-- The value has no floats, and its integers are within the limit on decimal texts. -/
def writable : Json F → Bool
  | .float _ => false
  | .int value => (Nat.toDigits 10 value.natAbs).length ≤ maxStrDigits
  | .list items => writableItems items
  | .dict entries => writableEntries entries
  | .null | .bool _ | .str _ => true

def writableItems : List (Json F) → Bool
  | [] => true
  | item :: items => writable item && writableItems items

def writableEntries : List (String × Json F) → Bool
  | [] => true
  | (_, item) :: entries => writable item && writableEntries entries

end

mutual

/-- `dumps` does not raise: its integers are within the limit on decimal texts. -/
def dumpable : Json F → Bool
  | .int value => (Nat.toDigits 10 value.natAbs).length ≤ maxStrDigits
  | .list items => dumpableItems items
  | .dict entries => dumpableEntries entries
  | .null | .bool _ | .float _ | .str _ => true

def dumpableItems : List (Json F) → Bool
  | [] => true
  | item :: items => dumpable item && dumpableItems items

def dumpableEntries : List (String × Json F) → Bool
  | [] => true
  | (_, item) :: entries => dumpable item && dumpableEntries entries

end

mutual

/-- The fuel a value takes. -/
def cost : Json F → Nat
  | .list items => 1 + costItems items
  | .dict entries => 1 + costEntries entries
  | _ => 1

def costItems : List (Json F) → Nat
  | [] => 0
  | item :: items => 1 + cost item + costItems items

def costEntries : List (String × Json F) → Nat
  | [] => 0
  | (_, item) :: entries => 1 + cost item + costEntries entries

end

/-! ### Strings -/

theorem hexValue_hexDigit {value : Nat} (digit : value < 16) : hexValue (hexDigit value) = some value := by
  have all : ∀ value < 16, hexValue (hexDigit value) = some value := by decide
  exact all value digit

theorem hexCode_hexDigit {code : Nat} (small : code < 65536) :
    hexCode (hexDigit (code / 4096 % 16)) (hexDigit (code / 256 % 16)) (hexDigit (code / 16 % 16))
      (hexDigit (code % 16)) = some code := by
  have digit (number : Nat) : number % 16 < 16 := Nat.mod_lt _ (by decide)
  simp only [hexCode, hexValue_hexDigit (digit _), bind, Option.bind, pure, Option.some.injEq]
  omega

theorem string_unicode {high high' : Option Nat} {code : Nat} {chars rest : List Char} (small : code < 65536)
    (unit : codeUnit high code = some (high', chars)) :
    string high (unicodeEscape code ++ rest) = (string high' rest).map (prepend chars) := by
  rw [string.eq_def]
  simp only [unicodeEscape, List.cons_append, List.nil_append, if_true, hexCode_hexDigit small,
    Option.bind_some, unit]

/-- A code point that is a character is no surrogate. -/
theorem codeUnit_char {char : Char} (basic : char.toNat < 65536) :
    codeUnit none char.toNat = some (none, [char]) := by
  have valid : char.toNat < 55296 ∨ 57343 < char.toNat := by
    rcases char.valid with low | ⟨high, -⟩
    · exact .inl low
    · exact .inr high
  rw [codeUnit, if_neg (by omega), if_neg (by omega), Char.ofNat_toNat]

/-- The second half of a surrogate pair completes it. -/
theorem codeUnit_pair {char : Char} (beyond : ¬ char.toNat < 65536) :
    codeUnit (some (55296 + (char.toNat - 65536) / 1024)) (56320 + (char.toNat - 65536) % 1024) =
      some (none, [char]) := by
  have valid : char.toNat < 1114112 := by
    rcases char.valid with low | ⟨-, most⟩
    · have : char.toNat < 55296 := low
      omega
    · exact most
  have whole : 65536 + 1024 * (55296 + (char.toNat - 65536) / 1024 - 55296) +
      (56320 + (char.toNat - 65536) % 1024 - 56320) = char.toNat := by omega
  rw [codeUnit, if_pos (by omega), whole, Char.ofNat_toNat]

theorem string_simple {kind char : Char} (rest : List Char) (other : kind ≠ 'u')
    (meaning : unescape kind = some char) :
    string none ('\\' :: kind :: rest) = (string none rest).map (prepend [char]) := by
  rw [string.eq_def]
  simp only [if_true, if_neg other, meaning]

theorem string_plain {char : Char} (rest : List Char) (slash : char ≠ '\\') (quote : char ≠ '"')
    (visible : 32 ≤ char.toNat) :
    string none (char :: rest) = (string none rest).map (prepend [char]) := by
  have regular : ¬ ((none : Option Nat) ≠ none ∨ char.toNat < 32) := by
    rintro (half | control)
    · exact half rfl
    · omega
  rw [string.eq_def]
  simp only [if_neg slash, if_neg quote, if_neg regular]

theorem string_escape (char : Char) (rest : List Char) :
    string none (escape char ++ rest) = (string none rest).map (prepend [char]) := by
  unfold escape
  split
  · next here =>
    subst here
    exact string_simple rest (by decide) (by decide)
  split
  · next here =>
    subst here
    exact string_simple rest (by decide) (by decide)
  split
  · next here =>
    subst here
    exact string_simple rest (by decide) (by decide)
  split
  · next here =>
    subst here
    exact string_simple rest (by decide) (by decide)
  split
  · next here =>
    subst here
    exact string_simple rest (by decide) (by decide)
  split
  · next here =>
    have same : char = Char.ofNat 12 := by rw [← here, Char.ofNat_toNat]
    exact same ▸ string_simple rest (by decide) (by decide)
  split
  · next here =>
    have same : char = Char.ofNat 8 := by rw [← here, Char.ofNat_toNat]
    exact same ▸ string_simple rest (by decide) (by decide)
  split
  · next visible => exact string_plain rest ‹_› ‹_› visible.1
  split
  · next basic => exact string_unicode basic (codeUnit_char basic)
  · next beyond =>
    have valid : char.toNat < 1114112 := by
      rcases char.valid with low | ⟨-, most⟩
      · have : char.toNat < 55296 := low
        omega
      · exact most
    have first : codeUnit none (55296 + (char.toNat - 65536) / 1024) =
        some (some (55296 + (char.toNat - 65536) / 1024), []) := by
      rw [codeUnit, if_pos (by omega)]
    rw [List.append_assoc, string_unicode (by omega) first,
      string_unicode (by omega) (codeUnit_pair beyond), Option.map_map]
    cases string none rest <;> rfl

theorem string_quoted (text rest : List Char) :
    string none (text.flatMap escape ++ '"' :: rest) = some (text, rest) := by
  induction text with
  | nil =>
      rw [List.flatMap_nil, List.nil_append, string.eq_def]
      simp
  | cons char text ih =>
      rw [List.flatMap_cons, List.append_assoc, string_escape, ih]
      rfl

/-! ### Numbers -/

/-- The text is at its end, or goes on with a character that ends a number. -/
def Bounded (chars : List Char) : Prop := chars = [] ∨ Stops chars

/-- The decimal text of a positive number does not start with zero. -/
theorem toDigits_head_ne_zero {number : Nat} (positive : 0 < number) {digit : Char} {rest : List Char}
    (shape : Nat.toDigits 10 number = digit :: rest) : digit ≠ '0' := by
  induction number using Nat.strongRecOn generalizing digit rest with
  | ind number ih =>
      by_cases small : number < 10
      · have nonzero : ∀ value < 10, 0 < value → Nat.digitChar value ≠ '0' := by decide
        rw [Nat.toDigits_of_lt_base small] at shape
        exact (List.cons.inj shape).1 ▸ nonzero number small positive
      · rw [Nat.toDigits_of_base_le (by decide) (Nat.le_of_not_lt small)] at shape
        cases front : Nat.toDigits 10 (number / 10) with
        | nil => exact absurd front Nat.toDigits_ne_nil
        | cons first others =>
            rw [front] at shape
            have leading := ih (number / 10) (by omega) (by omega) front
            exact (List.cons.inj shape).1 ▸ leading

theorem isDigit_stop {char : Char} (stop : isStop char = true) : char.isDigit = false := by
  simp only [isStop, isBlank, Bool.or_eq_true, decide_eq_true_eq] at stop
  rcases stop with (((((rfl | rfl) | rfl) | rfl) | rfl) | rfl) | rfl
  all_goals decide

/-- A run of digits ends where the text is bounded. -/
theorem span_digits {run rest : List Char} (digits : ∀ char ∈ run, char.isDigit = true)
    (bounded : Bounded rest) :
    (run ++ rest).takeWhile Char.isDigit = run ∧ (run ++ rest).dropWhile Char.isDigit = rest := by
  have ends : rest.takeWhile Char.isDigit = [] ∧ rest.dropWhile Char.isDigit = rest := by
    rcases bounded with rfl | stops
    · exact ⟨rfl, rfl⟩
    · cases rest with
      | nil => exact stops.elim
      | cons char rest =>
          have other := isDigit_stop (show isStop char = true from stops)
          simp [other]
  rw [List.takeWhile_append_of_pos digits, List.dropWhile_append_of_pos digits, ends.1, ends.2,
    List.append_nil]
  exact ⟨rfl, rfl⟩

theorem digits_run {digit : Char} {run rest : List Char} (first : digit.isDigit = true)
    (all : ∀ char ∈ run, char.isDigit = true) (bounded : Bounded rest) :
    digits (digit :: run ++ rest) = some (digit :: run, rest) := by
  obtain ⟨taken, dropped⟩ := span_digits all bounded
  simp only [digits, List.cons_append, first, if_true, taken, dropped]

theorem fractionPart_bounded {rest : List Char} (bounded : Bounded rest) : fractionPart rest = ([], rest) := by
  cases rest with
  | nil => rfl
  | cons char rest =>
      have point : char ≠ '.' := (bounded.resolve_left (by simp)).continues
      simp only [fractionPart, if_neg point]

theorem exponentPart_bounded {rest : List Char} (bounded : Bounded rest) : exponentPart rest = ([], rest) := by
  cases rest with
  | nil => rfl
  | cons char rest =>
      have stop : isStop char = true := bounded.resolve_left (by simp)
      have mark : ¬ (char = 'e' ∨ char = 'E') := by
        rintro (rfl | rfl)
        · exact absurd stop (by decide)
        · exact absurd stop (by decide)
      simp only [exponentPart, if_neg mark]

theorem unsigned_toDigits {negative : Bool} {number : Nat} {rest : List Char}
    (short : (Nat.toDigits 10 number).length ≤ maxStrDigits) (bounded : Bounded rest) :
    unsigned readFloat negative (Nat.toDigits 10 number ++ rest) =
      some (.int (if negative then -number else number), rest) := by
  have whole : integerPart (Nat.toDigits 10 number ++ rest) = some (Nat.toDigits 10 number, rest) := by
    rcases Nat.eq_zero_or_pos number with rfl | positive
    · rw [Nat.toDigits_zero]
      rfl
    · cases shape : Nat.toDigits 10 number with
      | nil => exact absurd shape Nat.toDigits_ne_nil
      | cons digit run =>
          have all : ∀ char ∈ digit :: run, char.isDigit = true := fun char inside =>
            Nat.isDigit_of_mem_toDigits (by decide) (by decide) (shape ▸ inside)
          obtain ⟨first, others⟩ := List.forall_mem_cons.mp all
          simp only [integerPart, List.cons_append, if_neg (toDigits_head_ne_zero positive shape)]
          exact digits_run first others bounded
  simp only [unsigned, whole, fractionPart_bounded bounded, exponentPart_bounded bounded, and_self,
    if_true, if_pos short, Nat.ofDigitChars_ten_toDigits]

theorem signed_dump {value : Int} {rest : List Char}
    (short : (Nat.toDigits 10 value.natAbs).length ≤ maxStrDigits) (bounded : Bounded rest) :
    signed readFloat (((if value < 0 then ['-'] else []) ++ Nat.toDigits 10 value.natAbs) ++ rest) =
      some (.int value, rest) := by
  by_cases negative : value < 0
  · have same : -(value.natAbs : Int) = value := by omega
    rw [if_pos negative]
    simp only [List.cons_append, List.nil_append, signed, if_true, unsigned_toDigits short bounded, same]
  · have same : (value.natAbs : Int) = value := by omega
    have read : unsigned readFloat false (Nat.toDigits 10 value.natAbs ++ rest) = some (.int value, rest) := by
      rw [unsigned_toDigits short bounded]
      simp [same]
    rw [if_neg negative, List.nil_append]
    cases shape : Nat.toDigits 10 value.natAbs with
    | nil => exact absurd shape Nat.toDigits_ne_nil
    | cons digit run =>
        have minus : digit ≠ '-' := by
          rintro rfl
          have digit : '-'.isDigit = true :=
            Nat.isDigit_of_mem_toDigits (by decide) (by decide) (shape ▸ List.mem_cons_self)
          exact absurd digit (by decide)
        rw [shape] at read
        rw [List.cons_append] at read ⊢
        simp only [signed, if_neg minus, read]

/-! ### Values -/

theorem newline_skip (level : Nat) (chars : List Char) : skip (newline level ++ chars) = skip chars := by
  apply skip_append_of_skip
  have spaces (count : Nat) : (List.replicate count ' ').dropWhile isBlank = [] := by
    induction count with
    | zero => rfl
    | succ count ih =>
        rw [List.replicate_succ, List.dropWhile_cons_of_pos (by decide), ih]
  simp only [newline, skip, show isBlank '\n' = true by decide, List.dropWhile_cons_of_pos, spaces]

/-- The first character of a written value. -/
theorem dump_head (writeFloat : F → List Char) (level : Nat) {item : Json F} (plain : item.writable = true) :
    ∃ char rest, dump writeFloat level item = char :: rest ∧ isBlank char = false ∧ char ≠ ']' ∧
      char ≠ '}' := by
  cases item with
  | null => exact ⟨'n', _, rfl, by decide, by decide, by decide⟩
  | bool value =>
      cases value with
      | true => exact ⟨'t', _, rfl, by decide, by decide, by decide⟩
      | false => exact ⟨'f', _, rfl, by decide, by decide, by decide⟩
  | int value =>
      by_cases negative : value < 0
      · refine ⟨'-', Nat.toDigits 10 value.natAbs, ?_, by decide, by decide, by decide⟩
        simp only [dump, if_pos negative, List.cons_append, List.nil_append]
      · cases shape : Nat.toDigits 10 value.natAbs with
        | nil => exact absurd shape Nat.toDigits_ne_nil
        | cons digit run =>
            have isDigit : digit.isDigit = true :=
              Nat.isDigit_of_mem_toDigits (by decide) (by decide) (shape ▸ List.mem_cons_self)
            have solid : isStop digit = false := by
              cases stop : isStop digit with
              | false => rfl
              | true =>
                  rw [isDigit_stop stop] at isDigit
                  cases isDigit
            simp only [isStop, Bool.or_eq_false_iff, decide_eq_false_iff_not] at solid
            refine ⟨digit, run, ?_, solid.1.1.1, solid.1.2, solid.2⟩
            simp only [dump, if_neg negative, List.nil_append, shape]
  | float value => cases plain
  | str value => exact ⟨'"', _, rfl, by decide, by decide, by decide⟩
  | list items =>
      cases items with
      | nil => exact ⟨'[', _, rfl, by decide, by decide, by decide⟩
      | cons item items => exact ⟨'[', _, rfl, by decide, by decide, by decide⟩
  | dict entries =>
      cases entries with
      | nil => exact ⟨'{', _, rfl, by decide, by decide, by decide⟩
      | cons entry entries => exact ⟨'{', _, rfl, by decide, by decide, by decide⟩

theorem stops_newline (level : Nat) (chars : List Char) : Stops (newline level ++ chars) := by
  change isStop '\n' = true
  decide

theorem skip_newline_token {level : Nat} {token : Char} {rest : List Char} (solid : isBlank token = false) :
    skip (newline level ++ token :: rest) = token :: rest := by
  rw [newline_skip, skip_of_blank solid]

theorem skip_dump {level : Nat} {item : Json F} (plain : item.writable = true) (rest : List Char) :
    skip (dump writeFloat level item ++ rest) = dump writeFloat level item ++ rest := by
  obtain ⟨char, chars, shape, solid, -⟩ := dump_head writeFloat level plain
  rw [shape, List.cons_append, skip_of_blank solid]

theorem expect_dump {level : Nat} {item : Json F} (plain : item.writable = true) (rest : List Char) :
    expect [']'] (dump writeFloat level item ++ rest) = none := by
  obtain ⟨char, chars, shape, -, other, -⟩ := dump_head writeFloat level plain
  rw [shape, List.cons_append]
  simp only [expect, if_neg other.symm]

/-- The value is read back at this level, and what is left is what followed it. -/
def ReadsBack (readFloat : List Char → F) (writeFloat : F → List Char) (level : Nat) (item : Json F) :
    Prop :=
  ∀ {fuel rest}, item.cost ≤ fuel → Bounded rest →
    value readFloat fuel (dump writeFloat level item ++ rest) = some (item, rest)

/-- The end of a list, behind an item that is read back. -/
theorem elements_last {level outer fuel : Nat} {item : Json F} {rest : List Char}
    (head : ReadsBack readFloat writeFloat level item) (enough : item.cost ≤ fuel) :
    elements readFloat (fuel + 1) (dump writeFloat level item ++ (newline outer ++ ']' :: rest)) =
      some ([item], rest) := by
  have read := head enough (.inr (stops_newline outer (']' :: rest)))
  simp only [elements, read, skip_newline_token (show isBlank ']' = false by decide), expect, if_true]

/-- An item that is read back, and the items behind it. -/
theorem elements_next {level fuel : Nat} {item : Json F} {items : List (Json F)} {chars rest : List Char}
    (head : ReadsBack readFloat writeFloat level item) (enough : item.cost ≤ fuel)
    (tail : elements readFloat fuel (skip chars) = some (items, rest)) :
    elements readFloat (fuel + 1) (dump writeFloat level item ++ ',' :: chars) =
      some (item :: items, rest) := by
  have stops : Stops (',' :: chars) := show isStop ',' = true by decide
  simp only [elements, head enough (.inr stops), skip_of_blank (show isBlank ',' = false by decide), expect]
  simp [tail]

theorem skip_space (chars : List Char) : skip (' ' :: chars) = skip chars := rfl

/-- A quoted key is read back. -/
theorem string_key (key : String) (chars : List Char) :
    (expect ['"'] (quoted key ++ chars)).bind (string none) = some (key.toList, chars) := by
  simp only [quoted, List.cons_append, List.append_assoc, List.nil_append, expect, if_true, Option.bind_some,
    string_quoted]

/-- Behind a key stand a colon and a blank. -/
theorem expect_colon {chars : List Char} : expect [':'] (skip (':' :: ' ' :: chars)) = some (' ' :: chars) := by
  simp only [skip_of_blank (show isBlank ':' = false by decide), expect, if_true]

/-- The end of an object, behind an entry whose value is read back. -/
theorem members_last {level outer fuel : Nat} {key : String} {item : Json F} {rest : List Char}
    (head : ReadsBack readFloat writeFloat level item) (plain : item.writable = true)
    (enough : item.cost ≤ fuel) :
    members readFloat (fuel + 1)
        (quoted key ++ ':' :: ' ' :: (dump writeFloat level item ++ (newline outer ++ '}' :: rest))) =
      some ([(key, item)], rest) := by
  have read := head enough (.inr (stops_newline outer ('}' :: rest)))
  simp only [members, string_key, expect_colon, skip_space, skip_dump plain, read,
    skip_newline_token (show isBlank '}' = false by decide), expect, if_true, String.ofList_toList]

/-- An entry whose value is read back, and the entries behind it. -/
theorem members_next {level fuel : Nat} {key : String} {item : Json F} {entries : List (String × Json F)}
    {chars rest : List Char} (head : ReadsBack readFloat writeFloat level item)
    (plain : item.writable = true) (enough : item.cost ≤ fuel)
    (tail : members readFloat fuel (skip chars) = some (entries, rest)) :
    members readFloat (fuel + 1)
        (quoted key ++ ':' :: ' ' :: (dump writeFloat level item ++ ',' :: chars)) =
      some ((key, item) :: entries, rest) := by
  have stops : Stops (',' :: chars) := show isStop ',' = true by decide
  have read := head enough (.inr stops)
  simp only [members, string_key, expect_colon, skip_space, skip_dump plain, read,
    skip_of_blank (show isBlank ',' = false by decide), expect, String.ofList_toList]
  simp [tail]

theorem starts_of_signed {char : Char} {chars : List Char} {found : Json F × List Char}
    (read : signed readFloat (char :: chars) = some found) : char = '-' ∨ char.isDigit = true := by
  by_cases minus : char = '-'
  · exact .inl minus
  · right
    simp only [signed, if_neg minus, unsigned, integerPart, digits] at read
    by_cases zero : char = '0'
    · subst zero
      decide
    · cases digit : char.isDigit with
      | true => rfl
      | false => simp [zero, digit] at read

theorem value_of_signed (fuel : Nat) {chars rest : List Char} {number : Int}
    (read : signed readFloat chars = some (.int number, rest)) :
    value readFloat (fuel + 1) chars = some (.int number, rest) := by
  cases chars with
  | nil => cases read
  | cons char chars =>
      have starts := starts_of_signed read
      have other (token : Char) (no : token ≠ '-') (letter : token.isDigit = false) : char ≠ token := by
        rintro rfl
        rcases starts with same | digit
        · exact no same
        · rw [letter] at digit
          cases digit
      simp only [value, if_neg (other '"' (by decide) (by decide)), if_neg (other '{' (by decide) (by decide)),
        if_neg (other '[' (by decide) (by decide)), if_neg (other 'n' (by decide) (by decide)),
        if_neg (other 't' (by decide) (by decide)), if_neg (other 'f' (by decide) (by decide)), read,
        Option.some_or]

mutual

/-- A value is read back. -/
theorem value_dump : ∀ (item : Json F) (level : Nat), item.writable = true →
    ReadsBack readFloat writeFloat level item
  | .null, _, _, fuel + 1, _, _, _ => by simp [dump, value, expect]
  | .bool true, _, _, fuel + 1, _, _, _ => by simp [dump, value, expect]
  | .bool false, _, _, fuel + 1, _, _, _ => by simp [dump, value, expect]
  | .int number, level, plain, fuel + 1, rest, _, bounded => by
      have short : (Nat.toDigits 10 number.natAbs).length ≤ maxStrDigits := by
        simpa [writable] using plain
      exact value_of_signed fuel (signed_dump short bounded)
  | .str text, level, _, fuel + 1, rest, _, _ => by simp [dump, value, quoted, string_quoted]
  | .list [], level, _, fuel + 1, rest, _, _ => by simp [dump, value, expect, skip, isBlank]
  | .list (item :: items), level, plain, fuel + 1, rest, enough, _ => by
      have both : item.writable = true ∧ writableItems items = true := by
        simpa [writable, writableItems] using plain
      have fits : 1 + item.cost + costItems items ≤ fuel := by
        simp only [cost, costItems] at enough
        omega
      have inside := elements_dump items (level + 1) level item both.1 both.2
        (value_dump item (level + 1) both.1) rest fits
      simp only [dump, value, List.cons_append, List.append_assoc, List.nil_append, newline_skip,
        skip_dump both.1, expect_dump both.1, inside]
      simp
  | .dict [], level, _, fuel + 1, rest, _, _ => by simp [dump, value, expect, skip, isBlank]
  | .dict ((key, item) :: entries), level, plain, fuel + 1, rest, enough, _ => by
      have both : item.writable = true ∧ writableEntries entries = true := by
        simpa [writable, writableEntries] using plain
      have fits : 1 + item.cost + costEntries entries ≤ fuel := by
        simp only [cost, costEntries] at enough
        omega
      have inside := members_dump entries (level + 1) level key item both.1 both.2
        (value_dump item (level + 1) both.1) rest fits
      have solid : isBlank '"' = false := by decide
      simp only [quoted, List.cons_append, List.append_assoc, List.nil_append] at inside
      simp only [dump, value, quoted, List.cons_append, List.append_assoc, List.nil_append, newline_skip,
        skip_of_blank solid, expect, inside]
      simp
  | .float _, _, plain, _, _, _, _ => by cases plain
  | item, _, _, 0, _, enough, _ => by
      exfalso
      cases item <;> simp [cost] at enough

theorem elements_dump : ∀ (items : List (Json F)) (level outer : Nat) (item : Json F),
    item.writable = true → writableItems items = true → ReadsBack readFloat writeFloat level item →
      ∀ {fuel : Nat} (rest : List Char), 1 + item.cost + costItems items ≤ fuel →
        elements readFloat fuel
          (dump writeFloat level item ++
            (dumpItems writeFloat level items ++ (newline outer ++ ']' :: rest))) =
          some (item :: items, rest)
  | [], _, _, _, _, _, head, _ + 1, _, enough => elements_last head (by omega)
  | next :: items, level, outer, _, _, others, head, fuel + 1, rest, enough => by
      have both : next.writable = true ∧ writableItems items = true := by
        simpa [writableItems] using others
      have fits : 1 + next.cost + costItems items ≤ fuel := by
        simp only [costItems] at enough
        omega
      have inside := elements_dump items level outer next both.1 both.2 (value_dump next level both.1)
        rest fits
      simp only [dumpItems, List.cons_append, List.append_assoc]
      apply elements_next head (by omega)
      rw [newline_skip, skip_dump both.1]
      exact inside
  | _, _, _, _, _, _, _, 0, _, enough => by omega

theorem members_dump : ∀ (entries : List (String × Json F)) (level outer : Nat) (key : String)
    (item : Json F), item.writable = true → writableEntries entries = true →
      ReadsBack readFloat writeFloat level item →
      ∀ {fuel : Nat} (rest : List Char), 1 + item.cost + costEntries entries ≤ fuel →
        members readFloat fuel
          (quoted key ++ ':' :: ' ' :: (dump writeFloat level item ++
            (dumpEntries writeFloat level entries ++ (newline outer ++ '}' :: rest)))) =
          some ((key, item) :: entries, rest)
  | [], _, _, _, _, plain, _, head, _ + 1, _, enough => members_last head plain (by omega)
  | (key', next) :: entries, level, outer, _, _, plain, others, head, fuel + 1, rest, enough => by
      have both : next.writable = true ∧ writableEntries entries = true := by
        simpa [writableEntries] using others
      have fits : 1 + next.cost + costEntries entries ≤ fuel := by
        simp only [costEntries] at enough
        omega
      have inside := members_dump entries level outer key' next both.1 both.2 (value_dump next level both.1)
        rest fits
      simp only [dumpEntries, List.cons_append, List.append_assoc, List.nil_append]
      apply members_next head plain (by omega)
      rw [newline_skip]
      exact inside
  | _, _, _, _, _, _, _, _, 0, _, enough => by omega

end

/-! ### Line ends -/

theorem hexDigit_ne_return (code : Nat) : hexDigit (code % 16) ≠ '\r' := by
  have all : ∀ value < 16, hexDigit value ≠ '\r' := by decide
  exact all _ (Nat.mod_lt _ (by decide))

theorem return_not_mem_unicodeEscape (code : Nat) : '\r' ∉ unicodeEscape code := by
  simp [unicodeEscape, (hexDigit_ne_return _).symm]

theorem return_not_mem_escape (char : Char) : '\r' ∉ escape char := by
  unfold escape
  repeat' split
  all_goals first
    | decide
    | exact return_not_mem_unicodeEscape _
    | skip
  · next visible =>
    intro same
    rw [← List.mem_singleton.mp same] at visible
    exact absurd visible.1 (by decide)
  · rw [List.mem_append, not_or]
    exact ⟨return_not_mem_unicodeEscape _, return_not_mem_unicodeEscape _⟩

theorem return_not_mem_quoted (text : String) : '\r' ∉ quoted text := by
  simp [quoted, return_not_mem_escape]

theorem return_not_mem_newline (level : Nat) : '\r' ∉ newline level := by
  simp [newline, List.mem_replicate]

mutual

/-- A value is written without a carriage return. -/
theorem return_not_mem_dump : ∀ (item : Json F) (level : Nat), item.writable = true →
    '\r' ∉ dump writeFloat level item
  | .null, _, _ | .bool true, _, _ | .bool false, _, _ | .list [], _, _ | .dict [], _, _ => by
      simp [dump]
  | .int number, _, _ => by
      rw [dump, List.mem_append, not_or]
      refine ⟨?_, return_not_mem_digits _⟩
      split <;> decide
  | .str text, _, _ => return_not_mem_quoted text
  | .list (item :: items), level, plain => by
      have both : item.writable = true ∧ writableItems items = true := by
        simpa [writable, writableItems] using plain
      simp [dump, return_not_mem_newline, return_not_mem_dump item _ both.1,
        return_not_mem_dumpItems items _ both.2]
  | .dict ((key, item) :: entries), level, plain => by
      have both : item.writable = true ∧ writableEntries entries = true := by
        simpa [writable, writableEntries] using plain
      simp [dump, return_not_mem_newline, return_not_mem_quoted, return_not_mem_dump item _ both.1,
        return_not_mem_dumpEntries entries _ both.2]
  | .float _, _, plain => by cases plain

theorem return_not_mem_dumpItems : ∀ (items : List (Json F)) (level : Nat), writableItems items = true →
    '\r' ∉ dumpItems writeFloat level items
  | [], _, _ => List.not_mem_nil
  | item :: items, level, plain => by
      have both : item.writable = true ∧ writableItems items = true := by
        simpa [writableItems] using plain
      simp [dumpItems, return_not_mem_newline, return_not_mem_dump item _ both.1,
        return_not_mem_dumpItems items _ both.2]

theorem return_not_mem_dumpEntries : ∀ (entries : List (String × Json F)) (level : Nat),
    writableEntries entries = true → '\r' ∉ dumpEntries writeFloat level entries
  | [], _, _ => List.not_mem_nil
  | (key, item) :: entries, level, plain => by
      have both : item.writable = true ∧ writableEntries entries = true := by
        simpa [writableEntries] using plain
      simp [dumpEntries, return_not_mem_newline, return_not_mem_quoted, return_not_mem_dump item _ both.1,
        return_not_mem_dumpEntries entries _ both.2]

end

/-! ### The fuel of `loads` -/

theorem length_newline (level : Nat) : 1 ≤ (newline level).length := by
  simp [newline]

mutual

/-- A text is at least as long as the fuel its value takes. -/
theorem cost_le_length : ∀ (item : Json F) (level : Nat), item.writable = true →
    item.cost ≤ (dump writeFloat level item).length
  | .null, _, _ | .bool true, _, _ | .bool false, _, _ | .list [], _, _ | .dict [], _, _ => by
      simp [dump, cost, costItems, costEntries]
  | .int number, _, _ => by
      have some_ : 0 < (Nat.toDigits 10 number.natAbs).length := Nat.length_toDigits_pos
      simp only [dump, cost, List.length_append]
      omega
  | .str text, _, _ => by simp [dump, cost, quoted]
  | .list (item :: items), level, plain => by
      have both : item.writable = true ∧ writableItems items = true := by
        simpa [writable, writableItems] using plain
      have head := cost_le_length item (level + 1) both.1
      have tail := costItems_le_length items (level + 1) both.2
      have lines := length_newline (level + 1)
      simp only [dump, cost, costItems, List.length_cons, List.length_append]
      omega
  | .dict ((key, item) :: entries), level, plain => by
      have both : item.writable = true ∧ writableEntries entries = true := by
        simpa [writable, writableEntries] using plain
      have head := cost_le_length item (level + 1) both.1
      have tail := costEntries_le_length entries (level + 1) both.2
      have lines := length_newline (level + 1)
      simp only [dump, cost, costEntries, List.length_cons, List.length_append]
      omega
  | .float _, _, plain => by cases plain

theorem costItems_le_length : ∀ (items : List (Json F)) (level : Nat), writableItems items = true →
    costItems items ≤ (dumpItems writeFloat level items).length
  | [], _, _ => Nat.le_refl _
  | item :: items, level, plain => by
      have both : item.writable = true ∧ writableItems items = true := by
        simpa [writableItems] using plain
      have head := cost_le_length item level both.1
      have tail := costItems_le_length items level both.2
      simp only [dumpItems, costItems, List.length_cons, List.length_append]
      omega

theorem costEntries_le_length : ∀ (entries : List (String × Json F)) (level : Nat),
    writableEntries entries = true → costEntries entries ≤ (dumpEntries writeFloat level entries).length
  | [], _, _ => Nat.le_refl _
  | (key, item) :: entries, level, plain => by
      have both : item.writable = true ∧ writableEntries entries = true := by
        simpa [writableEntries] using plain
      have head := cost_le_length item level both.1
      have tail := costEntries_le_length entries level both.2
      simp only [dumpEntries, costEntries, List.length_cons, List.length_append]
      omega

end

/-- What was written is read back, also with white space behind it. -/
theorem loads_dumps {item : Json F} (plain : item.writable = true) {blank : List Char}
    (bounded : Bounded blank) (white : skip blank = []) :
    loads readFloat (String.ofList (dump writeFloat 0 item ++ blank)) = some item := by
  have enough : item.cost ≤ (dump writeFloat 0 item ++ blank).length + 1 := by
    have le : item.cost ≤ (dump writeFloat 0 item).length := cost_le_length item 0 plain
    rw [List.length_append]
    omega
  simp only [loads, String.toList_ofList, skip_dump plain,
    value_dump item 0 plain enough bounded, white, if_true]

end Python.Json
