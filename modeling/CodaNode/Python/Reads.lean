/-
Module: CodaNode.Python.Reads
Layer: Python (library)
Purpose: What a pattern reads at the start of a text, and when it does not match there, put together from its parts.
  So a match is read off a text from left to right, without the ways that are tried later.
Imports: CodaNode.Python.Regex, Mathlib.Data.List.Basic
Main exports: Regex.Reads, Regex.Fails, Regex.Stops, Regex.Reads.star_cons, Regex.findall_reads
-/
import CodaNode.Python.Regex
import Mathlib.Data.List.Basic

namespace Python

namespace Regex

/-- The match of the pattern at the start of the text: what it captures, and the rest. -/
def Reads (regex : Regex) (text : List Char) (captured : List (Option (List Char))) (rest : List Char) : Prop :=
  regex.matchAt text = some (captured, rest)

/-- The pattern does not match at the start of the text. -/
def Fails (regex : Regex) (text : List Char) : Prop := regex.run text = []

/-- The text does not go on with the class. -/
def Stops (accepts : Char → Bool) (text : List Char) : Prop := ∀ char, text.head? = some char → accepts char = false

variable {left right item regex : Regex} {captured more : List (Option (List Char))}
variable {accepts : Char → Bool} {text front middle rest : List Char}

theorem Reads.ways (reads : Reads regex text captured rest) :
    ∃ others, regex.run text = (captured, rest) :: others :=
  List.head?_eq_some_iff.mp reads

theorem Reads.of_ways {others : List Match} (ways : regex.run text = (captured, rest) :: others) :
    Reads regex text captured rest := by
  rw [Reads, matchAt, ways, List.head?_cons]

theorem Fails.matchAt_eq (fails : Fails regex text) : regex.matchAt text = none := by
  rw [matchAt, fails, List.head?_nil]

/-! ### Words and sequences -/

theorem Reads.word (word rest : List Char) : Reads (.literal word) (word ++ rest) [] rest := by
  have same : word.isPrefixOf (word ++ rest) = true := List.isPrefixOf_iff_prefix.mpr (List.prefix_append word rest)
  rw [Reads, matchAt, run, if_pos same, List.drop_left, List.head?_cons]

theorem Fails.word {word : List Char} (differs : word.isPrefixOf text = false) : Fails (.literal word) text := by
  rw [Fails, run, differs]
  rfl

theorem Reads.empty (text : List Char) : Reads .empty text [] text := rfl

/-- The second pattern reads what the first one leaves. -/
theorem Reads.seq (reads : Reads left text captured middle) (next : Reads right middle more rest) :
    Reads (.seq left right) text (captured ++ more) rest := by
  obtain ⟨others, ways⟩ := reads.ways
  obtain ⟨later, behind⟩ := next.ways
  rw [Reads, matchAt, run, ways, List.flatMap_cons, behind, List.map_cons]
  rfl

theorem Fails.seq_left (fails : Fails left text) : Fails (.seq left right) text := by
  rw [Fails, run, fails, List.flatMap_nil]

/-- However the first pattern matches, the second one fails behind it. -/
theorem Fails.seq_right (fails : ∀ found ∈ left.run text, Fails right found.2) : Fails (.seq left right) text := by
  rw [Fails, run, List.flatMap_eq_nil_iff]
  intro found inside
  rw [fails found inside, List.map_nil]

/-! ### Classes -/

theorem Reads.one {char : Char} (accepted : accepts char = true) : Reads (.one accepts) (char :: rest) [] rest := by
  rw [Reads, matchAt, run, if_pos accepted, List.head?_cons]

theorem dropWhile_of_stops (all : ∀ char ∈ front, accepts char = true) (stops : Stops accepts rest) :
    (front ++ rest).dropWhile accepts = rest := by
  rw [List.dropWhile_append_of_pos all]
  cases rest with
  | nil => rfl
  | cons char rest => rw [List.dropWhile_cons_of_neg (by simp [stops char rfl])]

/-- A class repeated takes all characters of the class. -/
theorem Reads.many (all : ∀ char ∈ front, accepts char = true) (stops : Stops accepts rest) :
    Reads (Regex.many accepts) (front ++ rest) [] rest := by
  obtain ⟨others, ways⟩ := run_star accepts (front ++ rest)
  rw [dropWhile_of_stops all stops] at ways
  exact Reads.of_ways ways

theorem Reads.many_nil (stops : Stops accepts rest) : Reads (Regex.many accepts) rest [] rest := by
  have nothing : ∀ char ∈ [], accepts char = true := by simp
  exact Reads.many nothing stops

theorem Reads.plus (all : ∀ char ∈ front, accepts char = true) (present : front ≠ []) (stops : Stops accepts rest) :
    Reads (Regex.plus accepts) (front ++ rest) [] rest := by
  cases front with
  | nil => exact absurd rfl present
  | cons char front =>
      obtain ⟨accepted, all⟩ := List.forall_mem_cons.mp all
      exact (Reads.one accepted).seq (Reads.many all stops)

/-- A class needs a character. -/
theorem Fails.plus (stops : Stops accepts text) : Fails (Regex.plus accepts) text := by
  apply Fails.seq_left
  cases text with
  | nil => rfl
  | cons char rest =>
      rw [Fails, run, stops char rfl]
      rfl

theorem mem_run_plus {found : Match} (member : found ∈ (Regex.plus accepts).run text) :
    ∃ front, text = front ++ found.2 ∧ ∀ char ∈ front, accepts char = true := by
  obtain ⟨once, first, later⟩ := List.mem_flatMap.mp member
  cases text with
  | nil => cases first
  | cons char rest =>
      rw [run] at first
      split at first
      · next accepted =>
        rw [List.mem_singleton.mp first] at later
        obtain ⟨inner, inside, rfl⟩ := List.mem_map.mp later
        obtain ⟨-, front, split, all⟩ := mem_run_star inside
        refine ⟨char :: front, ?_, List.forall_mem_cons.mpr ⟨accepted, all⟩⟩
        rw [List.cons_append]
        exact congrArg (char :: ·) split
      · cases first

/-- Where a class may let go there stands no `mark`, when the class ends in front of something else. -/
theorem Fails.plus_mark {mark : Char} (all : ∀ char ∈ front, accepts char = true) (stops : Stops accepts rest)
    (outside : accepts mark = false) (other : rest.head? ≠ some mark) (right : Regex) :
    Fails (.seq (Regex.plus accepts) (.seq (.literal [mark]) right)) (front ++ rest) := by
  apply Fails.seq_right
  intro found inside
  apply Fails.seq_left
  apply Fails.word
  obtain ⟨taken, split, accepted⟩ := mem_run_plus inside
  cases tail : found.2 with
  | nil => rfl
  | cons char behind =>
      have apart : mark ≠ char := by
        rintro rfl
        rw [tail] at split
        rcases List.append_eq_append_iff.mp split with ⟨more, rfl, same⟩ | ⟨more, rfl, same⟩
        · cases more with
          | nil =>
              rw [same] at other
              exact other rfl
          | cons next more =>
              rw [same] at stops
              have refused := stops next rfl
              rw [accepted next (by simp)] at refused
              cases refused
        · cases more with
          | nil =>
              rw [← List.nil_append rest, ← same] at other
              exact other rfl
          | cons next more =>
              cases same
              rw [all mark (by simp)] at outside
              cases outside
      rw [List.isPrefixOf_cons_cons, beq_false_of_ne apart, Bool.false_and]

/-! ### Groups and options -/

/-- A group captures what its pattern reads. -/
theorem Reads.group (reads : Reads item (front ++ rest) captured rest) :
    Reads (.group item) (front ++ rest) (some front :: captured) rest := by
  obtain ⟨others, ways⟩ := reads.ways
  rw [Reads, matchAt, run, ways, List.map_cons, List.head?_cons]
  simp

theorem Reads.optional (reads : Reads item text captured rest) : Reads (.optional item) text captured rest := by
  obtain ⟨others, ways⟩ := reads.ways
  rw [Reads, matchAt, run, ways, List.cons_append, List.head?_cons]

theorem Reads.absent (fails : Fails item text) :
    Reads (.optional item) text (List.replicate item.groups none) text := by
  rw [Reads, matchAt, run, fails, List.nil_append, List.head?_cons]

/-! ### A pattern repeated -/

/-- The fuel does not matter when there is as much as text. -/
theorem repeats_fuel {once : List Char → List Match} {fuel other : Nat} (enough : text.length ≤ fuel)
    (enough' : text.length ≤ other) : repeats once fuel text = repeats once other text := by
  induction fuel generalizing text other with
  | zero =>
      rw [List.length_eq_zero_iff.mp (Nat.le_zero.mp enough)]
      cases other with
      | zero => rfl
      | succ other => simp [repeats]
  | succ fuel inductionHypothesis =>
      cases other with
      | zero =>
          rw [List.length_eq_zero_iff.mp (Nat.le_zero.mp enough')]
          simp [repeats]
      | succ other =>
          have same : ∀ found ∈ once text,
              (if found.2.length < text.length then (repeats once fuel found.2).map (behind found.1) else []) =
                if found.2.length < text.length then (repeats once other found.2).map (behind found.1) else [] := by
            intro found _
            split
            · next shorter =>
              have fits : found.2.length ≤ fuel := by omega
              have fits' : found.2.length ≤ other := by omega
              rw [inductionHypothesis fits fits']
            · rfl
          rw [repeats, repeats, List.flatMap_congr same]

theorem Reads.star_nil (fails : Fails item text) : Reads (.star item) text [] text := by
  rw [Reads, matchAt, run]
  cases text.length with
  | zero => rfl
  | succ fuel => rw [repeats, fails, List.flatMap_nil, List.nil_append, List.head?_cons]

/-- Once more, when that consumes something. -/
theorem Reads.star_cons (reads : Reads item text captured middle) (shorter : middle.length < text.length)
    (next : Reads (.star item) middle more rest) : Reads (.star item) text (captured ++ more) rest := by
  obtain ⟨others, ways⟩ := reads.ways
  obtain ⟨later, goes⟩ := next.ways
  obtain ⟨fuel, size⟩ : ∃ fuel, text.length = fuel + 1 := Nat.exists_eq_add_one.mpr (by omega)
  have enough : middle.length ≤ fuel := by omega
  rw [run, ← repeats_fuel enough (Nat.le_refl _)] at goes
  rw [Reads, matchAt, run, size, repeats, ways, List.flatMap_cons]
  dsimp only
  rw [if_pos shorter, goes, List.map_cons]
  rfl

/-! ### All matches -/

/-- The fuel does not matter when there is more than text, for a pattern that does not match the empty text. -/
theorem findFrom_fuel {fuel other : Nat} (consumes : Fails regex []) (enough : text.length < fuel)
    (enough' : text.length < other) : findFrom regex fuel text = findFrom regex other text := by
  induction fuel generalizing text other with
  | zero => exact absurd enough (Nat.not_lt_zero _)
  | succ fuel inductionHypothesis =>
      obtain ⟨other, rfl⟩ : ∃ less, other = less + 1 := Nat.exists_eq_add_one.mpr (by omega)
      cases text with
      | nil =>
          rw [findFrom.eq_def, findFrom.eq_def]
          simp only [consumes.matchAt_eq]
      | cons char rest =>
          rw [List.length_cons] at enough enough'
          rw [findFrom.eq_def, findFrom.eq_def]
          dsimp only
          cases matched : regex.matchAt (char :: rest) with
          | none => exact inductionHypothesis (by omega) (by omega)
          | some found =>
              dsimp only
              congr 1
              split
              · next shorter =>
                rw [List.length_cons] at shorter
                exact inductionHypothesis (by omega) (by omega)
              · exact inductionHypothesis (by simpa using by omega) (by simpa using by omega)

theorem findall_nil (fails : Fails regex []) : findall regex [] = [] := by
  rw [findall, findFrom.eq_def]
  simp only [fails.matchAt_eq]

theorem findall_reads (consumes : Fails regex []) (reads : Reads regex text captured rest)
    (shorter : rest.length < text.length) : findall regex text = captured :: findall regex rest := by
  rw [Reads] at reads
  rw [findall, findFrom.eq_def]
  simp only [reads]
  rw [if_pos shorter, findall, findFrom_fuel consumes shorter (Nat.lt_succ_self _)]

theorem findall_skip {char : Char} (consumes : Fails regex []) (fails : Fails regex (char :: rest)) :
    findall regex (char :: rest) = findall regex rest := by
  rw [findall, findFrom.eq_def]
  simp only [fails.matchAt_eq]
  exact findFrom_fuel consumes (Nat.lt_succ_self _) (Nat.lt_succ_self _)

end Regex

end Python
