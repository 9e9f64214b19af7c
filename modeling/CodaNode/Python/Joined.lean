/-
Module: CodaNode.Python.Joined
Layer: Python (library)
Purpose: Lines that are joined by line feeds are read back: a text without white space at its ends is not cut by
  `strip`, and `splitlines` takes joined lines apart again.
Imports: CodaNode.Python.Lines
Main exports: Framed, OneLine, strip_framed, splitlines_joined, framed_joined
-/
import CodaNode.Python.Lines

namespace Python

/-- The text starts and ends with a character that is no white space. -/
structure Framed (chars : List Char) : Prop where
  first : ∃ char, chars.head? = some char ∧ isSpace char = false
  last : ∃ char, chars.getLast? = some char ∧ isSpace char = false

/-- The text holds no line break. -/
def OneLine (chars : List Char) : Prop := ∀ char ∈ chars, isLineBreak char = false

instance (chars : List Char) : Decidable (OneLine chars) :=
  List.decidableBAll (fun char => isLineBreak char = false) chars

variable {chars rest line blank left right : List Char} {lines : List (List Char)}

theorem Framed.ne_nil (framed : Framed chars) : chars ≠ [] := by
  rintro rfl
  obtain ⟨char, first, -⟩ := framed.first
  cases first

theorem Framed.of_ends {first last : Char} (starts : isSpace first = false) (ends : isSpace last = false)
    (same : chars = first :: (left ++ [last])) : Framed chars := by
  refine ⟨⟨first, by rw [same, List.head?_cons], starts⟩, last, ?_, ends⟩
  rw [same, ← List.cons_append, List.getLast?_concat]

theorem OneLine.of_solid (solid : ∀ char ∈ chars, isSpace char = false) : OneLine chars := by
  intro char inside
  have graphic := solid char inside
  cases ends : isLineBreak char with
  | false => rfl
  | true =>
      rw [isSpace_of_isLineBreak ends] at graphic
      cases graphic

theorem OneLine.append (first : OneLine left) (second : OneLine right) : OneLine (left ++ right) :=
  List.forall_mem_append.mpr ⟨first, second⟩

theorem OneLine.cons {char : Char} (first : isLineBreak char = false) (second : OneLine rest) :
    OneLine (char :: rest) :=
  List.forall_mem_cons.mpr ⟨first, second⟩

/-- White space behind a framed text is cut, and nothing else. -/
theorem strip_framed (framed : Framed chars) (white : ∀ char ∈ blank, isSpace char = true) :
    strip (chars ++ blank) = chars := by
  obtain ⟨⟨first, starts, solid⟩, ⟨last, ends, solid'⟩⟩ := framed
  have front : (chars ++ blank).dropWhile isSpace = chars ++ blank := by
    obtain ⟨others, rfl⟩ := List.head?_eq_some_iff.mp starts
    rw [List.cons_append, List.dropWhile_cons_of_neg (by simp [solid])]
  have back : chars.reverse.dropWhile isSpace = chars.reverse := by
    obtain ⟨others, rfl⟩ := List.getLast?_eq_some_iff.mp ends
    rw [List.reverse_append, List.reverse_singleton, List.singleton_append,
      List.dropWhile_cons_of_neg (by simp [solid'])]
  rw [strip, trim, front, List.reverse_append, List.dropWhile_append_of_pos, back, List.reverse_reverse]
  intro char inside
  exact white char (List.mem_reverse.mp inside)

theorem strip_eq (framed : Framed chars) : strip chars = chars := by
  have nothing : ∀ char ∈ [], isSpace char = true := by simp
  have same := strip_framed framed nothing
  rwa [List.append_nil] at same

/-- A line ends at the first line feed. -/
theorem splitlines_line (whole : OneLine line) : splitlines (line ++ '\n' :: rest) = line :: splitlines rest := by
  induction line with
  | nil =>
      rw [List.nil_append, splitlines_cons]
      · rfl
      · intro feed
        cases feed
  | cons char line ih =>
      obtain ⟨inside, whole⟩ := List.forall_mem_cons.mp whole
      rw [List.cons_append, splitlines_cons, inside, if_neg Bool.false_ne_true, ih whole]
      · rfl
      · rintro rfl
        cases inside

theorem splitlines_last (whole : OneLine line) (present : line ≠ []) : splitlines line = [line] := by
  induction line with
  | nil => exact absurd rfl present
  | cons char line ih =>
      obtain ⟨inside, whole⟩ := List.forall_mem_cons.mp whole
      rw [splitlines_cons, inside, if_neg Bool.false_ne_true]
      · cases line with
        | nil => rfl
        | cons next line =>
            rw [ih whole (List.cons_ne_nil _ _)]
            rfl
      · rintro rfl
        cases inside

/-- Joined lines are taken apart. -/
theorem splitlines_joined (whole : ∀ line ∈ lines, OneLine line) (framed : ∀ line ∈ lines, Framed line) :
    splitlines (['\n'].intercalate lines) = lines := by
  induction lines with
  | nil => rfl
  | cons line lines ih =>
      obtain ⟨here, whole⟩ := List.forall_mem_cons.mp whole
      obtain ⟨first, framed⟩ := List.forall_mem_cons.mp framed
      cases lines with
      | nil =>
          rw [List.intercalate_singleton]
          exact splitlines_last here first.ne_nil
      | cons next lines =>
          rw [List.intercalate_cons_cons, List.append_assoc, List.singleton_append, splitlines_line here,
            ih whole framed]

theorem framed_joined (present : lines ≠ []) (framed : ∀ line ∈ lines, Framed line) :
    Framed (['\n'].intercalate lines) := by
  induction lines with
  | nil => exact absurd rfl present
  | cons line lines ih =>
      obtain ⟨first, framed⟩ := List.forall_mem_cons.mp framed
      cases lines with
      | nil =>
          rw [List.intercalate_singleton]
          exact first
      | cons next lines =>
          have rest := ih (List.cons_ne_nil _ _) framed
          rw [List.intercalate_cons_cons, List.append_assoc]
          constructor
          · obtain ⟨char, starts, solid⟩ := first.first
            obtain ⟨others, rfl⟩ := List.head?_eq_some_iff.mp starts
            exact ⟨char, rfl, solid⟩
          · obtain ⟨char, ends, solid⟩ := rest.last
            refine ⟨char, ?_, solid⟩
            rw [List.getLast?_append, List.getLast?_append, ends]
            rfl

end Python
