/-
Module: CodaNode.Node.OpenVpn
Layer: Node
Purpose: How OpenVPN takes the directive of a line of its configuration file. It skips white space,
  honours quotes and backslashes, drops two leading hyphens from the first word and ignores a byte
  order mark at the start of the file. What a backslash makes of the character behind it is a
  parameter: nothing below depends on it.
Imports: CodaNode.Python.Lines
Main exports: OpenVpn.lines, OpenVpn.directive, OpenVpn.Bare, OpenVpn.Disguised, OpenVpn.directive_iff
-/
import CodaNode.Python.Lines

namespace CodaNode.OpenVpn

open Python (attach)

/-- `isspace` of the C locale. -/
def isBlank (char : Char) : Bool :=
  char.toNat == 32 || (9 ≤ char.toNat && char.toNat ≤ 13)

/-- The characters up to the first one that ends the word, with the escapes resolved, and the rest.
There is no word when an escape is refused. -/
def body (escape : Char → Option Char) (stop : Char → Bool) : List Char → Option (List Char × List Char)
  | [] => some ([], [])
  | char :: rest =>
      if char = '\\' then
        match rest with
        | [] => none
        | next :: rest => do
            let meant ← escape next
            let (word, rest) ← body escape stop rest
            some (meant :: word, rest)
      else if stop char then some ([], char :: rest)
      else do
        let (word, rest) ← body escape stop rest
        some (char :: word, rest)

/-- The first word of a line. A quote opens a quoted word, which has to be closed. -/
def firstWord (escape : Char → Option Char) (line : List Char) : Option (List Char) :=
  match line.dropWhile isBlank with
  | [] => none
  | char :: rest =>
      if char = '"' then
        match body escape (· == '"') rest with
        | some (word, _ :: _) => some word
        | _ => none
      else if char = '\'' then
        if '\'' ∈ rest then some (rest.takeWhile (· != '\'')) else none
      else (body escape isBlank (char :: rest)).map Prod.fst

/-- Two leading hyphens are dropped. -/
def bypassDoubledash (word : List Char) : List Char :=
  match word with
  | '-' :: '-' :: char :: rest => char :: rest
  | _ => word

/-- The directive of a line. -/
def directive (escape : Char → Option Char) (line : List Char) : Option (List Char) :=
  (firstWord escape line).map bypassDoubledash

/-- The lines of a text: each ends at a line feed. -/
def textLines : List Char → List (List Char)
  | [] => [[]]
  | char :: rest => if char = '\n' then [] :: textLines rest else attach char (textLines rest)

/-- The byte order mark. -/
def mark : Char := Char.ofNat 0xfeff

/-- The lines of a file. -/
def lines (text : String) : List (List Char) :=
  match text.toList with
  | [] => textLines []
  | char :: rest => if char = mark then textLines rest else textLines (char :: rest)

/-! ### How a directive can be written -/

/-- Nothing, or a character that ends the word first. -/
def Ends (stop : Char → Bool) (rest : List Char) : Prop := ∀ char, rest.head? = some char → stop char

/-- The characters stand for the word. -/
inductive Spells (escape : Char → Option Char) (stop : Char → Bool) : List Char → List Char → Prop where
  | nil : Spells escape stop [] []
  | plain {char : Char} {written word : List Char} (backslash : char ≠ '\\') (inside : ¬ stop char)
      (rest : Spells escape stop written word) : Spells escape stop (char :: written) (char :: word)
  | escaped {char meant : Char} {written word : List Char} (means : escape char = some meant)
      (rest : Spells escape stop written word) :
      Spells escape stop ('\\' :: char :: written) (meant :: word)

/-- The word names the directive, with or without two hyphens. -/
def Names (name word : List Char) : Prop := word = name ∨ word = '-' :: '-' :: name

/-- The line starts with the bare name of the directive. -/
def Bare (name line : List Char) : Prop :=
  ∃ white rest, line = white ++ (name ++ rest) ∧ (∀ char ∈ white, isBlank char) ∧ Ends isBlank rest

/-- The line starts with the directive in another form: with hyphens or escapes, or in quotes. -/
inductive Disguised (escape : Char → Option Char) (name : List Char) : List Char → Prop where
  | unquoted {white written word rest : List Char} (blank : ∀ char ∈ white, isBlank char)
      (spells : Spells escape isBlank written word) (names : Names name word) (other : written ≠ name)
      (ends : Ends isBlank rest) : Disguised escape name (white ++ (written ++ rest))
  | doubleQuoted {white written word rest : List Char} (blank : ∀ char ∈ white, isBlank char)
      (spells : Spells escape (· == '"') written word) (names : Names name word) :
      Disguised escape name (white ++ '"' :: (written ++ '"' :: rest))
  | singleQuoted {white word rest : List Char} (blank : ∀ char ∈ white, isBlank char)
      (names : Names name word) : Disguised escape name (white ++ '\'' :: (word ++ '\'' :: rest))

/-! ### The reader takes exactly these forms -/

section

variable {escape : Char → Option Char} {stop : Char → Bool}

theorem body_plain {char : Char} {rest : List Char} (backslash : char ≠ '\\') (inside : ¬ stop char) :
    body escape stop (char :: rest) =
      (body escape stop rest).map fun read => (char :: read.1, read.2) := by
  rw [body.eq_def]
  dsimp only
  rw [if_neg backslash, if_neg inside]
  cases body escape stop rest <;> rfl

theorem body_escaped {char : Char} {rest : List Char} :
    body escape stop ('\\' :: char :: rest) =
      (escape char).bind fun meant => (body escape stop rest).map fun read => (meant :: read.1, read.2) := by
  rw [body, if_pos rfl]
  cases escape char with
  | none => rfl
  | some meant => cases body escape stop rest <;> rfl

theorem body_ends {rest : List Char} (backslash : ¬ stop '\\') (ends : Ends stop rest) :
    body escape stop rest = some ([], rest) := by
  cases rest with
  | nil => rfl
  | cons char rest =>
      have stopped : stop char := ends char rfl
      have plain : char ≠ '\\' := fun same => backslash (same ▸ stopped)
      rw [body.eq_def]
      dsimp only
      rw [if_neg plain, if_pos stopped]

theorem body_of_spells {written word rest : List Char} (backslash : ¬ stop '\\')
    (spells : Spells escape stop written word) (ends : Ends stop rest) :
    body escape stop (written ++ rest) = some (word, rest) := by
  induction spells with
  | nil => exact body_ends backslash ends
  | plain other inside _ ih => rw [List.cons_append, body_plain other inside, ih, Option.map_some]
  | escaped means _ ih =>
      rw [List.cons_append, List.cons_append, body_escaped, means, Option.bind_some, ih, Option.map_some]

theorem spells_of_body {chars word rest : List Char} (read : body escape stop chars = some (word, rest)) :
    ∃ written, chars = written ++ rest ∧ Spells escape stop written word ∧ Ends stop rest := by
  induction chars using body.induct stop generalizing word rest with
  | case1 =>
      cases read
      exact ⟨[], rfl, .nil, by simp [Ends]⟩
  | case2 => cases read
  | case3 char others ih =>
      rw [body_escaped] at read
      obtain ⟨meant, means, read⟩ := Option.bind_eq_some_iff.mp read
      obtain ⟨⟨inner, behind⟩, later, same⟩ := Option.map_eq_some_iff.mp read
      cases same
      obtain ⟨written, rfl, spells, ends⟩ := ih later
      exact ⟨'\\' :: char :: written, rfl, .escaped means spells, ends⟩
  | case4 char others backslash stopped =>
      rw [body.eq_def] at read
      dsimp only at read
      rw [if_neg backslash, if_pos stopped] at read
      cases read
      refine ⟨[], rfl, .nil, ?_⟩
      intro first same
      cases same
      exact stopped
  | case5 char others backslash inside ih =>
      rw [body_plain backslash inside] at read
      obtain ⟨⟨inner, behind⟩, later, same⟩ := Option.map_eq_some_iff.mp read
      cases same
      obtain ⟨written, rfl, spells, ends⟩ := ih later
      exact ⟨char :: written, rfl, .plain backslash inside spells, ends⟩

end

/-! ### From words to directives -/

/-- The name of a directive: it starts with a lower-case letter, and has lower-case letters and hyphens. -/
structure Simple (name : List Char) : Prop where
  letter : ∃ char rest, name = char :: rest ∧ char ≠ '-'
  plain : ∀ char ∈ name, char.toNat = 45 ∨ 97 ≤ char.toNat ∧ char.toNat ≤ 122

/-- The forms of a first word, at its first character. -/
inductive Opens (escape : Char → Option Char) (word : List Char) : List Char → Prop where
  | unquoted {written rest : List Char} (bare : ∀ char, written.head? = some char → char ≠ '"' ∧ char ≠ '\'')
      (spells : Spells escape isBlank written word) (ends : Ends isBlank rest) :
      Opens escape word (written ++ rest)
  | doubleQuoted {written rest : List Char} (spells : Spells escape (· == '"') written word) :
      Opens escape word ('"' :: (written ++ '"' :: rest))
  | singleQuoted {rest : List Char} (inside : '\'' ∉ word) : Opens escape word ('\'' :: (word ++ '\'' :: rest))

section

variable {escape : Char → Option Char} {name word : List Char}

theorem doubleQuoted_iff {chars : List Char} :
    (∃ char rest, body escape (· == '"') chars = some (word, char :: rest)) ↔
      ∃ written rest, chars = written ++ '"' :: rest ∧ Spells escape (· == '"') written word := by
  have backslash : ¬ ('\\' == '"') = true := by decide
  constructor
  · rintro ⟨char, rest, read⟩
    obtain ⟨written, same, spells, ends⟩ := spells_of_body read
    have quote : char = '"' := by simpa using ends char rfl
    exact ⟨written, rest, quote ▸ same, spells⟩
  · rintro ⟨written, rest, rfl, spells⟩
    exact ⟨'"', rest, body_of_spells backslash spells (by simp [Ends])⟩

theorem singleQuoted_iff {chars : List Char} :
    ('\'' ∈ chars ∧ chars.takeWhile (· != '\'') = word) ↔
      ∃ rest, chars = word ++ '\'' :: rest ∧ '\'' ∉ word := by
  constructor
  · rintro ⟨closed, rfl⟩
    have cut := List.takeWhile_append_dropWhile (p := (· != '\'')) (l := chars)
    have absent : '\'' ∉ chars.takeWhile (· != '\'') := by
      intro inside
      simpa using List.all_eq_true.mp List.all_takeWhile _ inside
    cases tail : chars.dropWhile (· != '\'') with
    | nil =>
        rw [tail, List.append_nil] at cut
        exact absurd (cut.symm ▸ closed) absent
    | cons char rest =>
        have quote : char = '\'' := by
          have stopped := List.head?_dropWhile_not (· != '\'') chars
          rw [tail] at stopped
          simpa using stopped
        rw [tail, quote] at cut
        exact ⟨rest, cut.symm, absent⟩
  · rintro ⟨rest, rfl, absent⟩
    have inside : ∀ char ∈ word, (char != '\'') = true := by
      intro char inside
      exact bne_iff_ne.mpr fun same => absent (same ▸ inside)
    refine ⟨by simp, ?_⟩
    rw [List.takeWhile_append_of_pos inside]
    simp

/-- A word that is not empty is written with its first character in front. -/
theorem bare_of_head {written rest chars : List Char} {first : Char} (present : word ≠ [])
    (bare : ∀ char, written.head? = some char → char ≠ '"' ∧ char ≠ '\'')
    (spells : Spells escape isBlank written word) (same : written ++ rest = first :: chars) :
    first ≠ '"' ∧ first ≠ '\'' := by
  cases written with
  | nil =>
      cases spells
      exact absurd rfl present
  | cons char written =>
      cases same
      exact bare first rfl

theorem opens_double_iff {rest : List Char} (present : word ≠ []) :
    Opens escape word ('"' :: rest) ↔
      ∃ char after, body escape (· == '"') rest = some (word, char :: after) := by
  rw [doubleQuoted_iff]
  constructor
  · intro opens
    generalize same : '"' :: rest = chars at opens
    cases opens with
    | unquoted bare spells ends =>
        exact absurd rfl (bare_of_head present bare spells same.symm).1
    | doubleQuoted spells =>
        cases same
        exact ⟨_, _, rfl, spells⟩
    | singleQuoted inside => cases same
  · rintro ⟨written, after, rfl, spells⟩
    exact .doubleQuoted spells

theorem opens_single_iff {rest : List Char} (present : word ≠ []) :
    Opens escape word ('\'' :: rest) ↔ '\'' ∈ rest ∧ rest.takeWhile (· != '\'') = word := by
  rw [singleQuoted_iff]
  constructor
  · intro opens
    generalize same : '\'' :: rest = chars at opens
    cases opens with
    | unquoted bare spells ends =>
        exact absurd rfl (bare_of_head present bare spells same.symm).2
    | doubleQuoted spells => cases same
    | singleQuoted inside =>
        cases same
        exact ⟨_, rfl, inside⟩
  · rintro ⟨after, rfl, absent⟩
    exact .singleQuoted absent

theorem opens_unquoted_iff {char : Char} {rest : List Char} (double : char ≠ '"') (single : char ≠ '\'') :
    Opens escape word (char :: rest) ↔ ∃ after, body escape isBlank (char :: rest) = some (word, after) := by
  have backslash : ¬ isBlank '\\' := by decide
  constructor
  · intro opens
    generalize same : char :: rest = chars at opens
    cases opens with
    | unquoted bare spells ends => exact ⟨_, body_of_spells backslash spells ends⟩
    | doubleQuoted spells => exact absurd (List.cons.inj same).1 double
    | singleQuoted inside => exact absurd (List.cons.inj same).1 single
  · rintro ⟨after, read⟩
    obtain ⟨written, same, spells, ends⟩ := spells_of_body read
    rw [same]
    refine .unquoted ?_ spells ends
    intro first head
    cases written with
    | nil => cases head
    | cons next written =>
        cases head
        rw [← (List.cons.inj same).1]
        exact ⟨double, single⟩

/-- The reader takes a word that is not empty exactly from these forms. -/
theorem firstWord_iff {line : List Char} (present : word ≠ []) :
    firstWord escape line = some word ↔ Opens escape word (line.dropWhile isBlank) := by
  unfold firstWord
  cases line.dropWhile isBlank with
  | nil =>
      constructor
      · intro read
        cases read
      · intro opens
        generalize empty : ([] : List Char) = chars at opens
        cases opens with
        | unquoted bare spells ends =>
            obtain ⟨rfl, -⟩ := List.append_eq_nil_iff.mp empty.symm
            cases spells
            exact absurd rfl present
        | doubleQuoted spells => cases empty
        | singleQuoted inside => cases empty
  | cons char rest =>
      dsimp only
      by_cases double : char = '"'
      · rw [if_pos double, double, opens_double_iff present]
        cases body escape (· == '"') rest with
        | none => simp
        | some read =>
            obtain ⟨read, after⟩ := read
            cases after <;> simp
      · rw [if_neg double]
        by_cases single : char = '\''
        · rw [if_pos single, single, opens_single_iff present]
          by_cases closed : '\'' ∈ rest <;> simp [closed]
        · rw [if_neg single, opens_unquoted_iff double single]
          simp

theorem bypassDoubledash_iff (simple : Simple name) : bypassDoubledash word = name ↔ Names name word := by
  obtain ⟨letter, others, rfl, notHyphen⟩ := simple.letter
  unfold bypassDoubledash Names
  constructor
  · intro same
    split at same
    · next char rest => exact .inr (by rw [same])
    · exact .inl same
  · rintro (rfl | rfl)
    · split
      · next same => exact absurd (List.cons.inj same).1 notHyphen
      · rfl
    · rfl

/-- The first character of a form is not blank. -/
theorem Opens.solid {chars : List Char} (present : word ≠ []) (opens : Opens escape word chars) :
    ∀ char, chars.head? = some char → ¬ isBlank char := by
  intro char head
  cases opens with
  | unquoted bare spells ends =>
      cases spells with
      | nil => exact absurd rfl present
      | plain backslash inside rest =>
          cases head
          exact inside
      | escaped means rest =>
          cases head
          decide
  | doubleQuoted spells =>
      cases head
      decide
  | singleQuoted inside =>
      cases head
      decide

/-- A line starts with a word behind its white space. -/
theorem opens_dropWhile_iff {line : List Char} (present : word ≠ []) :
    Opens escape word (line.dropWhile isBlank) ↔
      ∃ white tail, line = white ++ tail ∧ (∀ char ∈ white, isBlank char) ∧ Opens escape word tail := by
  constructor
  · intro opens
    refine ⟨line.takeWhile isBlank, _, List.takeWhile_append_dropWhile.symm, ?_, opens⟩
    exact List.all_eq_true.mp List.all_takeWhile
  · rintro ⟨white, tail, rfl, blank, opens⟩
    rw [List.dropWhile_append_of_pos blank]
    cases tail with
    | nil => exact opens
    | cons char tail => rwa [List.dropWhile_cons_of_neg (opens.solid present char rfl)]

theorem Simple.ne_nil (simple : Simple name) : name ≠ [] := by
  obtain ⟨char, rest, rfl, -⟩ := simple.letter
  simp

/-- The characters of a word that names a directive. -/
theorem Simple.named (simple : Simple name) (names : Names name word) :
    word ≠ [] ∧ ∀ char ∈ word, char ≠ '"' ∧ char ≠ '\'' ∧ char ≠ '\\' ∧ ¬ isBlank char := by
  have harmless : ∀ char : Char, char.toNat = 45 ∨ 97 ≤ char.toNat ∧ char.toNat ≤ 122 →
      char ≠ '"' ∧ char ≠ '\'' ∧ char ≠ '\\' ∧ ¬ isBlank char := by
    intro char range
    refine ⟨?_, ?_, ?_, ?_⟩
    · rintro rfl
      exact absurd range (by decide)
    · rintro rfl
      exact absurd range (by decide)
    · rintro rfl
      exact absurd range (by decide)
    · simp only [isBlank, Bool.or_eq_true, Bool.and_eq_true, decide_eq_true_eq, beq_iff_eq]
      omega
  rcases names with rfl | rfl
  · exact ⟨simple.ne_nil, fun char inside => harmless char (simple.plain char inside)⟩
  · refine ⟨by simp, ?_⟩
    intro char inside
    rcases List.mem_cons.mp inside with rfl | inside
    · decide
    · rcases List.mem_cons.mp inside with rfl | inside
      · decide
      · exact harmless char (simple.plain char inside)

/-- Characters that are neither stops nor backslashes spell themselves. -/
theorem spells_self {stop : Char → Bool} {chars : List Char}
    (plain : ∀ char ∈ chars, char ≠ '\\' ∧ ¬ stop char) : Spells escape stop chars chars := by
  induction chars with
  | nil => exact .nil
  | cons char chars ih =>
      obtain ⟨backslash, inside⟩ := plain char List.mem_cons_self
      exact .plain backslash inside (ih fun char inside => plain char (List.mem_cons_of_mem _ inside))

/-- What spells a word without quotes does not start with one. -/
theorem Spells.head_ne {stop : Char → Bool} {written : List Char} (spells : Spells escape stop written word)
    (plain : ∀ char ∈ word, char ≠ '"' ∧ char ≠ '\'') :
    ∀ char, written.head? = some char → char ≠ '"' ∧ char ≠ '\'' := by
  intro char head
  cases spells with
  | nil => cases head
  | plain backslash inside rest =>
      cases head
      exact plain char List.mem_cons_self
  | escaped means rest =>
      cases head
      decide

/-- OpenVPN reads a line as a directive exactly when the line starts with its bare name or with one of
the other forms. -/
theorem directive_iff {line : List Char} (simple : Simple name) :
    directive escape line = some name ↔ Bare name line ∨ Disguised escape name line := by
  have reads : directive escape line = some name ↔ ∃ word, Names name word ∧
      firstWord escape line = some word := by
    simp only [directive, Option.map_eq_some_iff, bypassDoubledash_iff simple]
    exact exists_congr fun word => and_comm
  rw [reads]
  constructor
  · rintro ⟨word, names, first⟩
    have present := (simple.named names).1
    rw [firstWord_iff present, opens_dropWhile_iff present] at first
    obtain ⟨white, tail, rfl, blank, opens⟩ := first
    cases opens with
    | @unquoted written rest bare spells ends =>
        by_cases same : written = name
        · exact .inl ⟨white, rest, by rw [same], blank, ends⟩
        · exact .inr (.unquoted blank spells names same ends)
    | doubleQuoted spells => exact .inr (.doubleQuoted blank spells names)
    | singleQuoted inside => exact .inr (.singleQuoted blank names)
  · have read {white tail word : List Char} (names : Names name word) (blank : ∀ char ∈ white, isBlank char)
        (opens : Opens escape word tail) : ∃ word, Names name word ∧
          firstWord escape (white ++ tail) = some word := by
      have present := (simple.named names).1
      refine ⟨word, names, ?_⟩
      rw [firstWord_iff present, opens_dropWhile_iff present]
      exact ⟨white, tail, rfl, blank, opens⟩
    have plain {word : List Char} (names : Names name word) : ∀ char ∈ word, char ≠ '"' ∧ char ≠ '\'' :=
      fun char inside => ⟨((simple.named names).2 char inside).1, ((simple.named names).2 char inside).2.1⟩
    rintro (⟨white, rest, rfl, blank, ends⟩ | disguised)
    · have spells : Spells escape isBlank name name :=
        spells_self fun char inside => ((simple.named (.inl rfl)).2 char inside).2.2
      exact read (.inl rfl) blank (.unquoted (spells.head_ne (plain (.inl rfl))) spells ends)
    · cases disguised with
      | unquoted blank spells names other ends =>
          exact read names blank (.unquoted (spells.head_ne (plain names)) spells ends)
      | doubleQuoted blank spells names => exact read names blank (.doubleQuoted spells)
      | singleQuoted blank names =>
          exact read names blank (.singleQuoted fun inside => (plain names '\'' inside).2 rfl)

end

end CodaNode.OpenVpn
