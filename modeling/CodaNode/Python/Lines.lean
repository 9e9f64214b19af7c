/-
Module: CodaNode.Python.Lines
Layer: Python (library)
Purpose: `str.splitlines`, `str.split` without arguments and `str.lower`, over characters. A line also
  ends at the separators that only Unicode knows; a word is what stands between two runs of white space.
Imports: CodaNode.Python.Text
Main exports: Python.splitlines, Python.split, Python.lower, Python.splitlines_append_newline,
  Python.splitlines_universalNewlines, Python.split_strip_head
-/
import CodaNode.Python.Text

namespace Python

/-- The code points at which `splitlines` ends a line. -/
def isLineBreak (char : Char) : Bool :=
  let code := char.toNat
  (0xa ≤ code && code ≤ 0xd) || (0x1c ≤ code && code ≤ 0x1e) || code == 0x85 || code == 0x2028 ||
    code == 0x2029

/-- A character in front of the first line. -/
def attach (char : Char) : List (List Char) → List (List Char)
  | [] => [[char]]
  | line :: lines => (char :: line) :: lines

/-- `text.splitlines()` -/
def splitlines : List Char → List (List Char)
  | [] => []
  | '\r' :: '\n' :: rest => [] :: splitlines rest
  | char :: rest => if isLineBreak char then [] :: splitlines rest else attach char (splitlines rest)

/-- `text.split()` -/
def split : List Char → List (List Char)
  | [] => []
  | char :: rest =>
      if isSpace char then split rest
      else if (rest.head?.map isSpace).getD true then [char] :: split rest
      else attach char (split rest)

/-- `text.rstrip()` -/
def rstrip (text : String) : String := String.ofList (text.toList.reverse.dropWhile isSpace).reverse

/-- `text.lower()` of one character, where the result is ASCII: the Latin capitals and the Kelvin sign.
No other character has an ASCII lower case. -/
def lowerChar (char : Char) : Char :=
  if char.toNat = 0x212a then 'k' else char.toLower

/-- `text.lower()`, up to the characters that are not ASCII. -/
def lower (text : String) : String := String.ofList (text.toList.map lowerChar)

/-! ### Lines -/

theorem splitlines_cons {char : Char} {rest : List Char} (pair : char = '\r' → rest.head? ≠ some '\n') :
    splitlines (char :: rest) =
      if isLineBreak char then [] :: splitlines rest else attach char (splitlines rest) := by
  rw [splitlines.eq_def]
  split
  · next same => cases same
  · next rest' same =>
    cases same
    exact absurd rfl (pair rfl)
  · next same =>
    cases same
    rfl

/-- The rest of a text behind a carriage return that no line feed follows. -/
theorem head_ne_of_pair {rest after : List Char} (pair : ∀ rest', rest = '\n' :: rest' → False)
    (more : rest ≠ []) : (rest ++ after).head? ≠ some '\n' := by
  cases rest with
  | nil => exact absurd rfl more
  | cons char rest =>
      intro same
      cases same
      exact pair rest rfl

/-- A line feed ends its line, whatever stands before it and behind it. -/
theorem splitlines_append_newline (before after : List Char) :
    ∃ lines, lines ≠ [] ∧ splitlines (before ++ '\n' :: after) = lines ++ splitlines after := by
  induction before using splitlines.induct with
  | case1 => exact ⟨[[]], by simp, rfl⟩
  | case2 rest ih =>
      obtain ⟨lines, -, split⟩ := ih
      exact ⟨[] :: lines, by simp, by
        rw [List.cons_append, List.cons_append, splitlines, split, List.cons_append]⟩
  | case3 char rest pair ends ih =>
      by_cases last : char = '\r' ∧ rest = []
      · obtain ⟨rfl, rfl⟩ := last
        exact ⟨[[]], by simp, rfl⟩
      · obtain ⟨lines, -, split⟩ := ih
        refine ⟨[] :: lines, by simp, ?_⟩
        rw [List.cons_append, splitlines_cons, if_pos ends, split, List.cons_append]
        intro carriage
        exact head_ne_of_pair (fun rest' => pair rest' carriage) fun empty => last ⟨carriage, empty⟩
  | case4 char rest pair inside ih =>
      obtain ⟨lines, present, split⟩ := ih
      obtain ⟨line, lines, rfl⟩ := List.exists_cons_of_ne_nil present
      refine ⟨(char :: line) :: lines, by simp, ?_⟩
      rw [List.cons_append, splitlines_cons, if_neg inside, split]
      · rfl
      · intro carriage
        rw [carriage] at inside
        exact absurd rfl inside

/-- The lines of a text are those the text mode reads. -/
theorem splitlines_universalNewlines (text : List Char) :
    splitlines (universalNewlines text) = splitlines text := by
  induction text using universalNewlines.induct with
  | case1 => rfl
  | case2 rest ih =>
      rw [universalNewlines, splitlines_cons fun same => absurd same (by decide), ih]
      rfl
  | case3 char rest pair ih =>
      have front : splitlines (char :: rest) =
          if isLineBreak char then [] :: splitlines rest else attach char (splitlines rest) := by
        apply splitlines_cons
        rintro carriage feed
        obtain ⟨more, rfl⟩ := List.head?_eq_some_iff.mp feed
        exact pair more carriage rfl
      rw [universalNewlines, front]
      · by_cases carriage : char = '\r'
        · rw [if_pos carriage, splitlines_cons fun same => absurd same (by decide), ih, carriage]
          rfl
        · rw [if_neg carriage, splitlines_cons fun same => absurd same carriage, ih]
      · exact pair

/-- What one more character in front makes of the lines. -/
theorem splitlines_cons_cases (char : Char) (rest : List Char) :
    splitlines (char :: rest) = [] :: splitlines rest ∨
      splitlines (char :: rest) = attach char (splitlines rest) ∨
      splitlines (char :: rest) = splitlines rest := by
  by_cases pair : char = '\r' ∧ rest.head? = some '\n'
  · obtain ⟨rfl, feed⟩ := pair
    cases rest with
    | nil => cases feed
    | cons char rest =>
        cases feed
        exact .inr (.inr rfl)
  · rw [splitlines_cons fun carriage feed => pair ⟨carriage, feed⟩]
    by_cases ends : isLineBreak char
    · rw [if_pos ends]
      exact .inl rfl
    · rw [if_neg ends]
      exact .inr (.inl rfl)

/-! ### The first word of a line -/

/-- Nothing, or white space first. -/
def Parted (chars : List Char) : Prop := ∀ char, chars.head? = some char → isSpace char

/-- The line starts with the word, behind white space. -/
def FirstWord (word line : List Char) : Prop :=
  ∃ white tail, line = white ++ (word ++ tail) ∧ (∀ char ∈ white, isSpace char) ∧ Parted tail

theorem isSpace_of_isLineBreak {char : Char} (ends : isLineBreak char) : isSpace char := by
  simp only [isLineBreak, isSpace, Bool.or_eq_true, Bool.and_eq_true, decide_eq_true_eq, beq_iff_eq] at *
  omega

/-- The first line behind a word is parted from it. -/
theorem splitlines_parted {rest : List Char} (parted : Parted rest) :
    splitlines rest = [] ∨ ∃ tail lines, splitlines rest = tail :: lines ∧ Parted tail := by
  cases rest with
  | nil => exact .inl rfl
  | cons char rest =>
      have blank : isSpace char := parted char rfl
      right
      by_cases pair : char = '\r' ∧ rest.head? = some '\n'
      · obtain ⟨rfl, feed⟩ := pair
        cases rest with
        | nil => cases feed
        | cons char rest =>
            cases feed
            exact ⟨[], _, rfl, by simp [Parted]⟩
      · rw [splitlines_cons fun carriage feed => pair ⟨carriage, feed⟩]
        by_cases ends : isLineBreak char
        · rw [if_pos ends]
          exact ⟨[], _, rfl, by simp [Parted]⟩
        · rw [if_neg ends]
          cases splitlines rest with
          | nil => exact ⟨[char], [], rfl, by simpa [Parted] using blank⟩
          | cons line lines => exact ⟨char :: line, lines, rfl, by simpa [Parted] using blank⟩

/-- A word stays together. -/
theorem splitlines_word {word rest : List Char} (solid : ∀ char ∈ word, ¬ isSpace char) (present : word ≠ [])
    (parted : Parted rest) :
    ∃ tail lines, splitlines (word ++ rest) = (word ++ tail) :: lines ∧ Parted tail := by
  induction word with
  | nil => exact absurd rfl present
  | cons char word ih =>
      have inside : ¬ isLineBreak char := fun ends =>
        solid char List.mem_cons_self (isSpace_of_isLineBreak ends)
      rw [List.cons_append, splitlines_cons, if_neg inside]
      · cases word with
        | nil =>
            rcases splitlines_parted parted with empty | ⟨tail, lines, split, parted⟩
            · exact ⟨[], [], by rw [List.nil_append, empty]; rfl, by simp [Parted]⟩
            · exact ⟨tail, lines, by rw [List.nil_append, split]; rfl, parted⟩
        | cons next word =>
            obtain ⟨tail, lines, split, parted⟩ :=
              ih (fun char inside => solid char (List.mem_cons_of_mem _ inside)) (by simp)
            exact ⟨tail, lines, by rw [split]; rfl, parted⟩
      · intro carriage
        rw [carriage] at inside
        exact absurd rfl inside

/-- A word that stands behind white space is the first word of a line. -/
theorem exists_firstWord {white word rest : List Char} (blank : ∀ char ∈ white, isSpace char)
    (solid : ∀ char ∈ word, ¬ isSpace char) (present : word ≠ []) (parted : Parted rest) :
    ∃ line ∈ splitlines (white ++ (word ++ rest)), FirstWord word line := by
  induction white with
  | nil =>
      obtain ⟨tail, lines, split, parted⟩ := splitlines_word solid present parted
      exact ⟨word ++ tail, by simp [split], [], tail, rfl, by simp, parted⟩
  | cons char white ih =>
      obtain ⟨line, inside, first⟩ := ih fun char inside => blank char (List.mem_cons_of_mem _ inside)
      rw [List.cons_append]
      rcases splitlines_cons_cases char (white ++ (word ++ rest)) with split | split | split
      · exact ⟨line, by simp [split, inside], first⟩
      · cases lines : splitlines (white ++ (word ++ rest)) with
        | nil => simp [lines] at inside
        | cons head tail =>
            rw [split, lines, attach]
            rw [lines] at inside
            rcases List.mem_cons.mp inside with rfl | inside
            · obtain ⟨before, after, rfl, spaces, parted⟩ := first
              refine ⟨_, List.mem_cons_self, char :: before, after, rfl, ?_, parted⟩
              exact List.forall_mem_cons.mpr ⟨blank char List.mem_cons_self, spaces⟩
            · exact ⟨line, List.mem_cons_of_mem _ inside, first⟩
      · exact ⟨line, by simpa [split] using inside, first⟩

/-- `split` starts with the first word. -/
theorem split_append {word rest : List Char} (solid : ∀ char ∈ word, ¬ isSpace char) (present : word ≠ [])
    (parted : Parted rest) : (split (word ++ rest)).head? = some word := by
  induction word with
  | nil => exact absurd rfl present
  | cons char word ih =>
      have graphic : ¬ isSpace char := solid char List.mem_cons_self
      rw [List.cons_append, split, if_neg graphic]
      cases word with
      | nil =>
          have ends : (rest.head?.map isSpace).getD true := by
            cases rest with
            | nil => rfl
            | cons next rest => exact parted next rfl
          rw [List.nil_append, if_pos ends, List.head?_cons]
      | cons next word =>
          have inner : ∀ char ∈ next :: word, ¬ isSpace char := fun char inside =>
            solid char (List.mem_cons_of_mem _ inside)
          have goes : ¬ (((next :: word) ++ rest).head?.map isSpace).getD true :=
            inner next List.mem_cons_self
          have first := ih inner (by simp)
          rw [if_neg goes]
          obtain ⟨words, same⟩ := List.head?_eq_some_iff.mp first
          rw [same, attach, List.head?_cons]

/-- Solid text is not cut at its end. -/
theorem dropWhile_reverse {isWhite : Char → Bool} {word : List Char} (solid : ∀ char ∈ word, ¬ isWhite char) :
    word.reverse.dropWhile isWhite = word.reverse := by
  cases reversed : word.reverse with
  | nil => rfl
  | cons char others =>
      have inside : char ∈ word := List.mem_reverse.mp (reversed ▸ List.mem_cons_self)
      rw [List.dropWhile_cons_of_neg (solid char inside)]

/-- `strip` keeps the first word and cuts only white space behind it. -/
theorem strip_append {white word rest : List Char} (blank : ∀ char ∈ white, isSpace char)
    (solid : ∀ char ∈ word, ¬ isSpace char) (present : word ≠ []) :
    ∃ kept, kept <+: rest ∧ strip (white ++ (word ++ rest)) = word ++ kept := by
  have front : (white ++ (word ++ rest)).dropWhile isSpace = word ++ rest := by
    rw [List.dropWhile_append_of_pos blank]
    cases word with
    | nil => exact absurd rfl present
    | cons char word =>
        rw [List.cons_append, List.dropWhile_cons_of_neg (solid char List.mem_cons_self)]
  refine ⟨(rest.reverse.dropWhile isSpace).reverse, ?_, ?_⟩
  · rw [← List.reverse_suffix, List.reverse_reverse]
    exact List.dropWhile_suffix isSpace
  · rw [strip, trim, front, List.reverse_append, List.dropWhile_append]
    cases trimmed : rest.reverse.dropWhile isSpace with
    | nil => simp [dropWhile_reverse solid]
    | cons char others => simp

/-- The first word of a line is what `line.strip().split()` starts with. -/
theorem split_strip_head {word line : List Char} (solid : ∀ char ∈ word, ¬ isSpace char)
    (present : word ≠ []) (first : FirstWord word line) : (split (strip line)).head? = some word := by
  obtain ⟨white, tail, rfl, blank, parted⟩ := first
  obtain ⟨kept, cut, stripped⟩ : ∃ kept, kept <+: tail ∧
      strip (white ++ (word ++ tail)) = word ++ kept := strip_append blank solid present
  have partedKept : Parted kept := by
    intro char head
    obtain ⟨others, rfl⟩ := cut
    cases kept with
    | nil => cases head
    | cons next kept => exact parted char head
  rw [stripped]
  exact split_append solid present partedKept

end Python
