/-
Module: CodaNode.Python.LazyMatch
Layer: Python (library)
Purpose: Matchers behind one another. A matcher lists the ways to match a front of a text in the order in which they
  are tried; regular expressions are matchers, and so are a class repeated as rarely as possible and the end of the
  text. The rules read the first match off from left to right.
Imports: CodaNode.Python.Regex
Main exports: Matcher, Matcher.lazyPlus, Matcher.atEnd, Matcher.first_of_greedy, Matcher.first_of_exclusive,
  Matcher.first_of_lazy
-/
import CodaNode.Python.Regex

namespace Python

/-- The ways to match a front of a text. -/
abbrev Matcher := List Char → List Match

namespace Matcher

/-- One matcher behind another. -/
def andThen (first second : Matcher) : Matcher := fun text =>
  (first text).flatMap fun found => (second found.2).map (Regex.behind found.1)

/-- A group. -/
def capture (item : Matcher) : Matcher := fun text =>
  (item text).map fun found => (some (text.take (text.length - found.2.length)) :: found.1, found.2)

/-- `+?` behind a class: one or more characters, as few as possible. -/
def lazyPlus (accepts : Char → Bool) : Matcher
  | [] => []
  | char :: rest => if accepts char then ([], rest) :: lazyPlus accepts rest else []

/-- `$`: the end of the text, or the line feed in front of it. -/
def atEnd : Matcher := fun text => if text = [] ∨ text = ['\n'] then [([], text)] else []

/-- The match that is found. -/
def first (matcher : Matcher) (text : List Char) : Option Match := (matcher text).head?

/-! ### The first match -/

variable {item next : Matcher} {text rest : List Char}

theorem first_andThen {found : Match} {others : List Match} (ways : item text = found :: others) {later : Match}
    (goes : next.first found.2 = some later) : (andThen item next).first text = some (Regex.behind found.1 later) := by
  unfold first andThen
  rw [ways, List.flatMap_cons]
  obtain ⟨tail, same⟩ := List.head?_eq_some_iff.mp goes
  rw [same]
  rfl

/-- A greedy repetition takes all it can if the rest matches then. -/
theorem first_of_greedy {accepts : Char → Bool} {later : Match}
    (goes : next.first (text.dropWhile accepts) = some later) :
    (andThen (Regex.star (.one accepts)).run next).first text = some later := by
  obtain ⟨others, ways⟩ := Regex.run_star accepts text
  exact first_andThen ways goes

/-- A greedy repetition takes all it can if nothing else can be behind it. -/
theorem first_of_exclusive {accepts : Char → Bool}
    (exclusive : ∀ char rest, accepts char = true → next (char :: rest) = []) :
    (andThen (Regex.star (.one accepts)).run next).first text = next.first (text.dropWhile accepts) := by
  cases goes : next.first (text.dropWhile accepts) with
  | some later => exact first_of_greedy goes
  | none =>
      apply List.head?_eq_none_iff.mpr
      apply List.flatMap_eq_nil_iff.mpr
      intro found member
      obtain ⟨-, front, split, all⟩ := Regex.mem_run_star member
      have fails : next found.2 = [] := by
        cases tail : found.2 with
        | nil =>
            rw [split, tail, List.dropWhile_append_of_pos all] at goes
            exact List.head?_eq_none_iff.mp goes
        | cons char rest =>
            by_cases accepted : accepts char = true
            · exact exclusive char rest accepted
            · rw [split, tail, List.dropWhile_append_of_pos all, List.dropWhile_cons_of_neg accepted] at goes
              exact List.head?_eq_none_iff.mp goes
      rw [fails]
      rfl

/-- A word is matched where it stands, and nowhere else. -/
theorem first_of_literal {word : List Char} :
    (andThen (Regex.literal word).run next).first text =
      if word.isPrefixOf text then next.first (text.drop word.length) else none := by
  unfold first andThen
  rw [Regex.run]
  split
  · rw [List.flatMap_singleton]
    exact congrArg List.head? (List.map_id _)
  · rfl

/-- A class is matched by the first character. -/
theorem first_of_one {accepts : Char → Bool} {char : Char} :
    (andThen (Regex.one accepts).run next).first (char :: rest) = if accepts char then next.first rest else none := by
  unfold first andThen
  rw [Regex.run]
  split
  · rw [List.flatMap_singleton]
    exact congrArg List.head? (List.map_id _)
  · rfl

/-- White space up to the end is not found in front of a character that is none. -/
theorem not_atEnd {accepts : Char → Bool} (feed : accepts '\n' = true) {last : Char}
    (ends : text.getLast? = some last) (solid : ¬ accepts last = true) :
    andThen (Regex.star (.one accepts)).run atEnd text = [] := by
  apply List.flatMap_eq_nil_iff.mpr
  intro found member
  obtain ⟨-, front, rfl, all⟩ := Regex.mem_run_star member
  have behind : found.2 ≠ [] := by
    intro empty
    rw [empty, List.append_nil] at ends
    exact solid (all last (List.mem_of_getLast? ends))
  have other : found.2 ≠ ['\n'] := by
    intro single
    rw [single, List.getLast?_append] at ends
    cases ends
    exact solid feed
  simp [atEnd, behind, other]

theorem atEnd_nil {accepts : Char → Bool} :
    (andThen (Regex.star (.one accepts)).run atEnd).first [] = some ([], []) :=
  first_of_greedy rfl

/-- A lazy repetition is tried with the whole text at last. -/
theorem lazyPlus_ways {accepts : Char → Bool} (all : ∀ char ∈ text, accepts char = true) (present : text ≠ []) :
    ∃ before, lazyPlus accepts text = before ++ [([], [])] ∧
      ∀ found ∈ before, found.1 = [] ∧ found.2 ≠ [] ∧ found.2 <:+ text := by
  induction text with
  | nil => exact absurd rfl present
  | cons char rest inductionHypothesis =>
      obtain ⟨accepted, others⟩ := List.forall_mem_cons.mp all
      rw [lazyPlus, if_pos accepted]
      cases rest with
      | nil => exact ⟨[], rfl, by simp⟩
      | cons next rest =>
          obtain ⟨before, ways, fewer⟩ := inductionHypothesis others (List.cons_ne_nil _ _)
          refine ⟨([], next :: rest) :: before, by rw [ways]; rfl, List.forall_mem_cons.mpr ⟨?_, ?_⟩⟩
          · exact ⟨rfl, List.cons_ne_nil _ _, List.suffix_cons char _⟩
          · intro found member
            obtain ⟨uncaptured, some_, suffix⟩ := fewer found member
            exact ⟨uncaptured, some_, suffix.trans (List.suffix_cons char _)⟩

/-- The ways that lead nowhere are passed over. -/
theorem first_of_last {before : List Match} {found : Match} (ways : item text = before ++ [found])
    (failed : ∀ way ∈ before, next way.2 = []) :
    (andThen item next).first text = (next.first found.2).map (Regex.behind found.1) := by
  have none_ : before.flatMap (fun way => (next way.2).map (Regex.behind way.1)) = [] := by
    apply List.flatMap_eq_nil_iff.mpr
    intro way member
    rw [failed way member]
    rfl
  unfold first andThen
  rw [ways, List.flatMap_append, none_, List.nil_append, List.flatMap_singleton, List.head?_map]

/-- A lazy group in front of white space and the end takes a text that does not end in white space. -/
theorem first_of_lazy {accepts blank : Char → Bool} (feed : blank '\n' = true)
    (all : ∀ char ∈ text, accepts char = true) {last : Char} (ends : text.getLast? = some last)
    (solid : ¬ blank last = true) :
    (andThen (capture (lazyPlus accepts)) (andThen (Regex.star (.one blank)).run atEnd)).first text =
      some ([some text], []) := by
  have present : text ≠ [] := by
    intro empty
    rw [empty] at ends
    cases ends
  obtain ⟨before, ways, fewer⟩ := lazyPlus_ways all present
  have captured : capture (lazyPlus accepts) text =
      (before.map fun found => (some (text.take (text.length - found.2.length)) :: found.1, found.2)) ++
        [([some text], [])] := by
    unfold capture
    rw [ways, List.map_append]
    simp
  rw [first_of_last captured, atEnd_nil]
  · rfl
  · intro way member
    obtain ⟨found, inside, rfl⟩ := List.mem_map.mp member
    obtain ⟨-, some_, front, split⟩ := fewer found inside
    apply not_atEnd feed _ solid
    obtain ⟨final, same⟩ := Option.ne_none_iff_exists'.mp (mt List.getLast?_eq_none_iff.mp some_)
    rw [← split, List.getLast?_append, same] at ends
    exact same.trans ends

end Matcher

end Python
