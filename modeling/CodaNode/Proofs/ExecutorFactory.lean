/-
Module: CodaNode.Proofs.ExecutorFactory
Layer: Proofs
Purpose: The executor factory of a device config. The value the model reads from a line is the group of the regular
  expression; a value in quotes is read whole, whatever it holds and whatever comment stands behind it.
Imports: CodaNode.Node.Config, CodaNode.Python.LazyMatch
Main exports: executorFactoryRe_first, loadExecutorFactory_quoted
-/
import CodaNode.Node.Config
import CodaNode.Python.LazyMatch
import Mathlib.Data.List.TakeWhile

namespace CodaNode.Node

open Python (isSpace isLineBreak strip splitlines splitlines_universalNewlines attach Matcher Regex)

/-! ### The regular expression -/

/-- `executor_factory` -/
def factoryKey : List Char := "executor_factory".toList

/-- `\s*(.+?)\s*$` -/
def factoryValueRe : Matcher :=
  .andThen (Regex.star (.one isSpace)).run
    (.andThen (.capture (.lazyPlus (· ≠ '\n'))) (.andThen (Regex.star (.one isSpace)).run .atEnd))

/-- `_EXECUTOR_FACTORY_RE`: `^executor_factory\s*:\s*(.+?)\s*$` [SRC config.py:33] -/
def executorFactoryRe : Matcher :=
  .andThen (Regex.literal factoryKey).run
    (.andThen (Regex.star (.one isSpace)).run (.andThen (Regex.one (· = ':')).run factoryValueRe))

namespace ExecutorFactory

/-- `text.rstrip()` -/
def trimEnd (text : List Char) : List Char := (text.reverse.dropWhile isSpace).reverse

theorem trimEnd_blank {text : List Char} (blank : ∀ char ∈ text, isSpace char = true) : trimEnd text = [] := by
  unfold trimEnd
  rw [List.dropWhile_eq_nil_iff.mpr fun char member => blank char (List.mem_reverse.mp member)]
  rfl

theorem trimEnd_append {char : Char} (solid : ¬ isSpace char = true) (front back : List Char) :
    trimEnd (front ++ char :: back) = front ++ char :: trimEnd back := by
  unfold trimEnd
  rw [List.reverse_append, List.reverse_cons, List.append_assoc, List.dropWhile_append]
  cases tail : back.reverse.dropWhile isSpace with
  | nil => simp [solid]
  | cons last others => simp

theorem strip_eq_trimEnd (char : Char) (solid : ¬ isSpace char = true) (rest : List Char) :
    strip (char :: rest) = trimEnd (char :: rest) := by
  unfold strip Python.trim trimEnd
  rw [List.dropWhile_cons_of_neg solid]

/-- A text that is not empty and has no white space at its end ends in a character that is none. -/
theorem solid_last {text : List Char} (trimmed : trimEnd text = text) (present : text ≠ []) :
    ∃ last, text.getLast? = some last ∧ ¬ isSpace last = true := by
  obtain ⟨last, ends⟩ := Option.ne_none_iff_exists'.mp (mt List.getLast?_eq_none_iff.mp present)
  refine ⟨last, ends, fun blank => ?_⟩
  obtain ⟨front, rfl⟩ := List.getLast?_eq_some_iff.mp ends
  unfold trimEnd at trimmed
  rw [List.reverse_append, List.reverse_singleton, List.singleton_append, List.dropWhile_cons_of_pos blank] at trimmed
  have shorter := congrArg List.length trimmed
  have bounded := (List.dropWhile_suffix isSpace (l := front.reverse)).length_le
  simp only [List.length_reverse, List.length_append, List.length_cons, List.length_nil] at shorter bounded
  omega

/-- Cutting white space off the front leaves the end alone. -/
theorem getLast?_dropWhile {text : List Char} {last : Char} (ends : text.getLast? = some last)
    (solid : ¬ isSpace last = true) : (text.dropWhile isSpace).getLast? = some last := by
  obtain ⟨front, rfl⟩ := List.getLast?_eq_some_iff.mp ends
  rw [List.dropWhile_append]
  cases front.dropWhile isSpace with
  | nil => simp [solid]
  | cons char rest => exact List.getLast?_concat

/-- The value behind the colon: what is left of the white space in front of it. -/
theorem factoryValueRe_first {text : List Char} (trimmed : trimEnd text = text) (single : '\n' ∉ text) :
    factoryValueRe.first text =
      if text.dropWhile isSpace = [] then none else some ([some (text.dropWhile isSpace)], []) := by
  by_cases present : text = []
  · subst present
    rfl
  · obtain ⟨last, ends, solid⟩ := solid_last trimmed present
    have ends' := getLast?_dropWhile ends solid
    have some_ : text.dropWhile isSpace ≠ [] := by
      intro empty
      rw [empty] at ends'
      cases ends'
    rw [if_neg some_]
    apply Matcher.first_of_greedy
    apply Matcher.first_of_lazy rfl _ ends' solid
    intro char member
    apply decide_eq_true
    rintro rfl
    exact single ((List.dropWhile_suffix isSpace).subset member)

end ExecutorFactory

open ExecutorFactory

/-- The model reads from a line what the group of the regular expression matches. -/
theorem executorFactoryRe_first {line : List Char} (stripped : strip line = line) (single : '\n' ∉ line) :
    executorFactoryRe.first line = (executorFactoryValue line).map fun value => ([some value], []) := by
  have exclusive : ∀ char rest, isSpace char = true →
      Matcher.andThen (Regex.one (· = ':')).run factoryValueRe (char :: rest) = [] := by
    intro char rest blank
    have other : char ≠ ':' := by
      rintro rfl
      cases blank
    apply List.head?_eq_none_iff.mp
    exact Matcher.first_of_one.trans (if_neg (by simpa using other))
  unfold executorFactoryRe executorFactoryValue
  rw [Matcher.first_of_literal]
  change (if factoryKey.isPrefixOf line then _ else none) =
    (if factoryKey.isPrefixOf line then _ else none : Option (List Char)).map _
  split
  · rename_i key
    obtain ⟨rest, rfl⟩ := List.isPrefixOf_iff_prefix.mp key
    have trimmed : trimEnd (factoryKey ++ rest) = factoryKey ++ rest :=
      (strip_eq_trimEnd 'e' (by decide) _).symm.trans stripped
    rw [Matcher.first_of_exclusive exclusive]
    rw [show "executor_factory".length = factoryKey.length from rfl, List.drop_left]
    have split := List.takeWhile_append_dropWhile (p := isSpace) (l := rest)
    cases behind : rest.dropWhile isSpace with
    | nil => rfl
    | cons char tail =>
        by_cases colon : char = ':'
        · subst colon
          rw [behind] at split
          rw [← split, ← List.append_assoc] at trimmed single
          have tailTrimmed : trimEnd tail = tail := by
            rw [trimEnd_append (by decide)] at trimmed
            exact (List.cons.inj (List.append_cancel_left trimmed)).2
          have tailSingle : '\n' ∉ tail := fun member =>
            single (List.mem_append_right _ (List.mem_cons_of_mem _ member))
          rw [Matcher.first_of_one, if_pos (decide_eq_true rfl), factoryValueRe_first tailTrimmed tailSingle]
          by_cases empty : tail.dropWhile isSpace = [] <;> simp [empty]
        · rw [Matcher.first_of_one, if_neg (by simpa using colon)]
          simp [colon]
  · rfl

/-! ### A quoted value -/

/-- What stands behind the closing quote. -/
def remark (white : List Char) : Option (List Char) → List Char
  | none => white
  | some comment => white ++ '#' :: comment

/-- `executor_factory: 'value'`, white space and perhaps a comment. -/
def factoryLine (quote : Char) (value white : List Char) (comment : Option (List Char)) : List Char :=
  factoryKey ++ ':' :: ' ' :: quote :: (value ++ quote :: remark white comment)

namespace ExecutorFactory

variable {quote : Char} {value white : List Char} {comment : Option (List Char)}

/-- The text up to the end of a line. -/
theorem splitlines_line {line rest : List Char} (whole : ∀ char ∈ line, ¬ isLineBreak char = true) :
    splitlines (line ++ '\n' :: rest) = line :: splitlines rest := by
  induction line with
  | nil =>
      rw [List.nil_append, Python.splitlines_cons (by simp)]
      rfl
  | cons char line inductionHypothesis =>
      obtain ⟨inside, others⟩ := List.forall_mem_cons.mp whole
      have pair : char = '\r' → (line ++ '\n' :: rest).head? ≠ some '\n' := by
        rintro rfl
        exact absurd rfl inside
      rw [List.cons_append, Python.splitlines_cons pair, if_neg inside, inductionHypothesis others]
      rfl

theorem splitlines_last {line : List Char} (whole : ∀ char ∈ line, ¬ isLineBreak char = true) (present : line ≠ []) :
    splitlines line = [line] := by
  induction line with
  | nil => exact absurd rfl present
  | cons char line inductionHypothesis =>
      obtain ⟨inside, others⟩ := List.forall_mem_cons.mp whole
      have pair : char = '\r' → line.head? ≠ some '\n' := by
        rintro rfl
        exact absurd rfl inside
      rw [Python.splitlines_cons pair, if_neg inside]
      cases line with
      | nil => rfl
      | cons next line =>
          rw [inductionHypothesis others (List.cons_ne_nil _ _)]
          rfl

theorem splitlines_lines {preceding : List (List Char)} {rest : List Char}
    (whole : ∀ line ∈ preceding, ∀ char ∈ line, ¬ isLineBreak char = true) :
    splitlines (preceding.flatMap (fun line => line ++ ['\n']) ++ rest) = preceding ++ splitlines rest := by
  induction preceding with
  | nil => rfl
  | cons line preceding inductionHypothesis =>
      obtain ⟨first, others⟩ := List.forall_mem_cons.mp whole
      rw [List.flatMap_cons, List.append_assoc, List.append_assoc, List.singleton_append, splitlines_line first,
        inductionHypothesis others]
      rfl

/-- The lines in front that do not name the factory are passed over. -/
theorem executorFactoryOf_append {preceding lines : List (List Char)}
    (other : ∀ line ∈ preceding, line.head? = some ' ' ∨ line.head? = some '\t' ∨ ¬ factoryKey <+: strip line) :
    executorFactoryOf (preceding ++ lines) = executorFactoryOf lines := by
  induction preceding with
  | nil => rfl
  | cons line preceding inductionHypothesis =>
      obtain ⟨first, others⟩ := List.forall_mem_cons.mp other
      rw [List.cons_append, executorFactoryOf]
      split
      · exact inductionHypothesis others
      · rename_i unindented
        have unnamed : ¬ factoryKey <+: strip line := by
          rcases first with space | tab | unnamed
          · exact absurd (.inl space) unindented
          · exact absurd (.inr tab) unindented
          · exact unnamed
        have none_ : executorFactoryValue (strip line) = none := by
          unfold executorFactoryValue
          exact if_neg fun key => unnamed (List.isPrefixOf_iff_prefix.mp key)
        rw [none_]
        exact inductionHypothesis others

/-- The state of the scanner behind an opening quote. -/
def within (quote : Char) : Quotes := ⟨quote = '\'', quote = '"'⟩

/-- Inside the quotes the scanner only looks for the closing one. -/
theorem beforeHash_within (quoted : quote = '\'' ∨ quote = '"') (plain : ∀ char ∈ value, char ≠ quote)
    (rest : List Char) :
    beforeHash (within quote) (value ++ quote :: rest) =
      (beforeHash ⟨false, false⟩ rest).map fun start => value ++ quote :: start := by
  induction value with
  | nil => rcases quoted with rfl | rfl <;> rfl
  | cons char value inductionHypothesis =>
      obtain ⟨other, others⟩ := List.forall_mem_cons.mp plain
      have goes : beforeHash (within quote) (char :: (value ++ quote :: rest)) =
          (beforeHash (within quote) (value ++ quote :: rest)).map (char :: ·) := by
        rw [beforeHash]
        rcases quoted with rfl | rfl <;> simp [within, other]
      rw [List.cons_append, goes, inductionHypothesis others, Option.map_map]
      rfl

theorem beforeHash_quoted (quoted : quote = '\'' ∨ quote = '"') (plain : ∀ char ∈ value, char ≠ quote)
    (rest : List Char) :
    beforeHash ⟨false, false⟩ (quote :: (value ++ quote :: rest)) =
      (beforeHash ⟨false, false⟩ rest).map fun start => quote :: (value ++ quote :: start) := by
  have opens : beforeHash ⟨false, false⟩ (quote :: (value ++ quote :: rest)) =
      (beforeHash (within quote) (value ++ quote :: rest)).map (quote :: ·) := by
    rw [beforeHash]
    rcases quoted with rfl | rfl <;> rfl
  rw [opens, beforeHash_within quoted plain, Option.map_map]
  rfl

/-- White space in front of a comment is scanned; without a comment there is no hash sign. -/
theorem beforeHash_remark (blank : ∀ char ∈ white, isSpace char = true) :
    beforeHash ⟨false, false⟩ (remark white comment) = comment.map fun _ => white := by
  induction white with
  | nil => cases comment <;> rfl
  | cons char white inductionHypothesis =>
      obtain ⟨space, others⟩ := List.forall_mem_cons.mp blank
      have single : char ≠ '\'' := by
        rintro rfl
        cases space
      have double : char ≠ '"' := by
        rintro rfl
        cases space
      have hash : char ≠ '#' := by
        rintro rfl
        cases space
      have shape : remark (char :: white) comment = char :: remark white comment := by cases comment <;> rfl
      rw [shape, beforeHash, if_neg (fun same => single same.1), if_neg (fun same => double same.1),
        if_neg (fun same => hash same.1), inductionHypothesis others]
      cases comment <;> rfl

theorem solid_quote (quoted : quote = '\'' ∨ quote = '"') : ¬ isSpace quote = true := by
  rcases quoted with rfl | rfl <;> decide

/-- The line without the white space around it. -/
theorem strip_factoryLine (quoted : quote = '\'' ∨ quote = '"') :
    strip (factoryLine quote value white comment) =
      factoryKey ++ ':' :: ' ' :: quote :: (value ++ quote :: trimEnd (remark white comment)) := by
  have shape (rest : List Char) : factoryKey ++ ':' :: ' ' :: quote :: (value ++ quote :: rest) =
      (factoryKey ++ ':' :: ' ' :: quote :: value) ++ quote :: rest := by simp
  unfold factoryLine
  rw [shape, shape, ← trimEnd_append (solid_quote quoted)]
  exact strip_eq_trimEnd 'e' (by decide) _

/-- A comment stays one when the line loses the white space at its end; white space alone goes. -/
theorem trimEnd_remark (blank : ∀ char ∈ white, isSpace char = true) :
    trimEnd (remark white comment) = comment.elim [] fun text => remark white (some (trimEnd text)) := by
  cases comment with
  | none => exact trimEnd_blank blank
  | some text => exact trimEnd_append (by decide) white text

theorem executorFactoryValue_line (quoted : quote = '\'' ∨ quote = '"') (rest : List Char) :
    executorFactoryValue (factoryKey ++ ':' :: ' ' :: quote :: rest) = some (quote :: rest) := by
  have key : "executor_factory".toList.isPrefixOf (factoryKey ++ ':' :: ' ' :: quote :: rest) = true :=
    List.isPrefixOf_iff_prefix.mpr (List.prefix_append factoryKey _)
  unfold executorFactoryValue
  rw [if_pos key, show "executor_factory".length = factoryKey.length from rfl, List.drop_left]
  have spaced : (' ' :: quote :: rest).dropWhile isSpace = quote :: rest := by
    rw [List.dropWhile_cons_of_pos (by decide), List.dropWhile_cons_of_neg (solid_quote quoted)]
  change (if (' ' :: quote :: rest).dropWhile isSpace = [] then none
    else some ((' ' :: quote :: rest).dropWhile isSpace)) = _
  rw [spaced]
  rfl

/-- What the scanner leaves of the value, the white space behind it and the comment. -/
theorem stripInlineYamlComment_quoted (quoted : quote = '\'' ∨ quote = '"') (plain : ∀ char ∈ value, char ≠ quote)
    (blank : ∀ char ∈ white, isSpace char = true) :
    stripInlineYamlComment (quote :: (value ++ quote :: trimEnd (remark white comment))) =
      quote :: (value ++ [quote]) := by
  have solid := solid_quote quoted
  unfold stripInlineYamlComment
  rw [beforeHash_quoted quoted plain, trimEnd_remark blank]
  cases comment with
  | none =>
      change strip (quote :: (value ++ [quote])) = _
      rw [strip_eq_trimEnd _ solid]
      exact trimEnd_append solid (quote :: value) []
  | some text =>
      rw [Option.elim_some, beforeHash_remark blank]
      change trimEnd ((quote :: value) ++ quote :: white) = _
      rw [trimEnd_append solid, trimEnd_blank blank]
      rfl

theorem unquoted_quoted (quoted : quote = '\'' ∨ quote = '"') : unquoted (quote :: (value ++ [quote])) = value := by
  rcases quoted with rfl | rfl <;> simp [unquoted]

/-- The value of the line. -/
theorem executorFactoryOf_line (quoted : quote = '\'' ∨ quote = '"') (plain : ∀ char ∈ value, char ≠ quote)
    (blank : ∀ char ∈ white, isSpace char = true) (lines : List (List Char)) :
    executorFactoryOf (factoryLine quote value white comment :: lines) = String.ofList (strip value) := by
  have unindented : ¬ ((factoryLine quote value white comment).head? = some ' ' ∨
      (factoryLine quote value white comment).head? = some '\t') := by
    change ¬ (some 'e' = some ' ' ∨ some 'e' = some '\t')
    decide
  rw [executorFactoryOf, if_neg unindented, strip_factoryLine quoted, executorFactoryValue_line quoted]
  simp only [stripInlineYamlComment_quoted quoted plain blank, unquoted_quoted quoted]

theorem whole_of_all {text : List Char} (all : text.all (fun char => !isLineBreak char) = true) :
    ∀ char ∈ text, ¬ isLineBreak char = true := by
  intro char member ends
  have inside := List.all_eq_true.mp all char member
  rw [ends] at inside
  cases inside

/-- The line is one. -/
theorem factoryLine_whole (quoted : quote = '\'' ∨ quote = '"')
    (plain : ∀ char ∈ value, ¬ isLineBreak char = true ∧ char ≠ quote)
    (blank : ∀ char ∈ white, isSpace char = true ∧ ¬ isLineBreak char = true)
    (single : ∀ text, comment = some text → ∀ char ∈ text, ¬ isLineBreak char = true) :
    ∀ char ∈ factoryLine quote value white comment, ¬ isLineBreak char = true := by
  have letters : ∀ char ∈ factoryKey ++ [':', ' '], ¬ isLineBreak char = true := whole_of_all rfl
  have quoteWhole : ¬ isLineBreak quote = true := by rcases quoted with rfl | rfl <;> decide
  have tail : ∀ char ∈ remark white comment, ¬ isLineBreak char = true := by
    cases comment with
    | none => exact fun char member => (blank char member).2
    | some text =>
        intro char member
        rcases List.mem_append.mp member with space | rest
        · exact (blank char space).2
        · rcases List.mem_cons.mp rest with rfl | inside
          · decide
          · exact single text rfl char inside
  have shape : factoryLine quote value white comment =
      (factoryKey ++ [':', ' ']) ++ quote :: (value ++ quote :: remark white comment) := by
    simp [factoryLine]
  have value_ : ∀ char ∈ value ++ quote :: remark white comment, ¬ isLineBreak char = true := by
    rw [List.forall_mem_append, List.forall_mem_cons]
    exact ⟨fun char member => (plain char member).1, quoteWhole, tail⟩
  rw [shape]
  intro char member
  rcases List.mem_append.mp member with front | rest
  · exact letters char front
  · rcases List.mem_cons.mp rest with rfl | inside
    · exact quoteWhole
    · exact value_ char inside

end ExecutorFactory

open ExecutorFactory

/-- A value in quotes is read whole from the first line that names the factory, whatever stands in it, in the lines in
front, behind the closing quote and in a comment. -/
theorem loadExecutorFactory_quoted (files : Files) (path : String) (file : File) (preceding : List (List Char))
    (quote : Char) (value white : List Char) (comment : Option (List Char)) (following : List Char)
    (present : files path = some file)
    (content : file.text = some (String.ofList
      (preceding.flatMap (fun line => line ++ ['\n']) ++ (factoryLine quote value white comment ++ following))))
    (ends : following = [] ∨ following.head? = some '\n')
    (lines : ∀ line ∈ preceding, ∀ char ∈ line, ¬ isLineBreak char = true)
    (other : ∀ line ∈ preceding, line.head? = some ' ' ∨ line.head? = some '\t' ∨ ¬ factoryKey <+: strip line)
    (quoted : quote = '\'' ∨ quote = '"') (plain : ∀ char ∈ value, ¬ isLineBreak char = true ∧ char ≠ quote)
    (blank : ∀ char ∈ white, isSpace char = true ∧ ¬ isLineBreak char = true)
    (single : ∀ text, comment = some text → ∀ char ∈ text, ¬ isLineBreak char = true) :
    loadExecutorFactory files path = .ok (String.ofList (strip value)) := by
  have whole := factoryLine_whole quoted plain blank single
  have split : ∃ rest, splitlines (factoryLine quote value white comment ++ following) =
      factoryLine quote value white comment :: rest := by
    rcases ends with rfl | head
    · rw [List.append_nil]
      exact ⟨[], splitlines_last whole (by simp [factoryLine])⟩
    · obtain ⟨rest, rfl⟩ := List.head?_eq_some_iff.mp head
      exact ⟨splitlines rest, splitlines_line whole⟩
  obtain ⟨rest, first⟩ := split
  unfold loadExecutorFactory
  simp only [present, File.readText, content]
  change Except.ok _ = _
  rw [String.toList_ofList, splitlines_universalNewlines, String.toList_ofList, splitlines_lines lines, first,
    executorFactoryOf_append other, executorFactoryOf_line quoted (fun char member => (plain char member).2)
      fun char member => (blank char member).1]

namespace ExecutorFactory

/-- A device config whose value holds a hash sign and the other quote. -/
def sampleFile : File where
  text := some "target: test\nexecutor_factory: \"pkg:'make # it\"  # \"old\""
  mode := 0o644

end ExecutorFactory

/-- The result, for that config. -/
theorem loadExecutorFactory_quoted_sample :
    loadExecutorFactory (fun _ => some sampleFile) "site/device.yaml" = .ok "pkg:'make # it" := by
  have value : ∀ char ∈ "pkg:'make # it".toList, ¬ isLineBreak char = true ∧ char ≠ '"' := by
    intro char member
    refine ⟨whole_of_all rfl char member, ?_⟩
    rintro rfl
    exact absurd (List.contains_iff_mem.mpr member) (by decide)
  have blank : ∀ char ∈ [' ', ' '], isSpace char = true ∧ ¬ isLineBreak char = true := by
    intro char member
    exact ⟨List.all_eq_true.mp (show [' ', ' '].all isSpace = true from rfl) char member,
      whole_of_all rfl char member⟩
  apply loadExecutorFactory_quoted (fun _ => some sampleFile) "site/device.yaml" sampleFile ["target: test".toList] '"'
    "pkg:'make # it".toList [' ', ' '] (some " \"old\"".toList) [] rfl rfl (.inl rfl) _ _ (.inr rfl) value blank
  · intro text same
    cases same
    exact whole_of_all rfl
  · intro line member
    rw [List.mem_singleton.mp member]
    exact whole_of_all rfl
  · intro line member
    rw [List.mem_singleton.mp member]
    exact .inr (.inr fun key => absurd (List.isPrefixOf_iff_prefix.mpr key) (by decide))

end CodaNode.Node
