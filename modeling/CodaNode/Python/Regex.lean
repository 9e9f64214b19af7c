/-
Module: CodaNode.Python.Regex
Layer: Python (library)
Purpose: Regular expressions as the language matches them: backtracking, greedy, with captured groups. A
  match is the first of all ways to match, in the order in which they are tried. The rules say when there
  is only one way, so that a match can be read off a text from left to right.
Imports: none
Main exports: Regex, Regex.run, Regex.matchAt, Regex.findall, Regex.run_star, Regex.mem_run_star
-/

namespace Python

/-- A regular expression. A group does not stand inside a repetition. -/
inductive Regex where
  | one (accepts : Char → Bool)
  | literal (word : List Char)
  | empty
  | seq (first second : Regex)
  | star (item : Regex)
  | optional (item : Regex)
  | group (item : Regex)

/-- The captured groups, and the text behind a match. -/
abbrev Match := List (Option (List Char)) × List Char

namespace Regex

/-- One or more characters of a class. -/
def plus (accepts : Char → Bool) : Regex := .seq (.one accepts) (.star (.one accepts))

/-- A class repeated. -/
def many (accepts : Char → Bool) : Regex := .star (.one accepts)

/-- A sequence. -/
def all : List Regex → Regex
  | [] => .empty
  | first :: rest => .seq first (all rest)

/-- The number of groups. -/
def groups : Regex → Nat
  | .one _ | .literal _ | .empty => 0
  | .seq first second => first.groups + second.groups
  | .star item | .optional item => item.groups
  | .group item => item.groups + 1

/-- A match behind captured groups. -/
def behind (captured : List (Option (List Char))) (found : Match) : Match := (captured ++ found.1, found.2)

/-- The ways to repeat: once more first, while that consumes something. -/
def repeats (once : List Char → List Match) : Nat → List Char → List Match
  | 0, text => [([], text)]
  | fuel + 1, text =>
      ((once text).flatMap fun found =>
        if found.2.length < text.length then (repeats once fuel found.2).map (behind found.1) else []) ++
        [([], text)]

/-- The ways to match a front of the text, in the order in which they are tried. -/
def run : Regex → List Char → List Match
  | .one _, [] => []
  | .one accepts, char :: rest => if accepts char then [([], rest)] else []
  | .literal word, text => if word.isPrefixOf text then [([], text.drop word.length)] else []
  | .empty, text => [([], text)]
  | .seq first second, text => (first.run text).flatMap fun found => (second.run found.2).map (behind found.1)
  | .star item, text => repeats item.run text.length text
  | .optional item, text => item.run text ++ [(List.replicate item.groups none, text)]
  | .group item, text =>
      (item.run text).map fun found => (some (text.take (text.length - found.2.length)) :: found.1, found.2)

/-- `regex.match(text)` -/
def matchAt (regex : Regex) (text : List Char) : Option Match := (regex.run text).head?

/-- The search for all matches, one behind the other. -/
def findFrom (regex : Regex) : Nat → List Char → List (List (Option (List Char)))
  | 0, _ => []
  | fuel + 1, text =>
      match regex.matchAt text with
      | some found => found.1 :: findFrom regex fuel (if found.2.length < text.length then found.2 else text.drop 1)
      | none =>
          match text with
          | [] => []
          | _ :: rest => findFrom regex fuel rest

/-- `regex.findall(text)` -/
def findall (regex : Regex) (text : List Char) : List (List (Option (List Char))) :=
  findFrom regex (text.length + 1) text

/-! ### A class repeated -/

variable {accepts : Char → Bool} {text : List Char} {found : Match}

theorem behind_nil : behind [] = id := rfl

/-- The longest repetition is tried first. -/
theorem repeats_one {fuel : Nat} (enough : text.length ≤ fuel) :
    ∃ others, repeats (one accepts).run fuel text = ([], text.dropWhile accepts) :: others := by
  induction fuel generalizing text with
  | zero =>
      rw [List.length_eq_zero_iff.mp (Nat.le_zero.mp enough)]
      exact ⟨[], rfl⟩
  | succ fuel inductionHypothesis =>
      cases text with
      | nil => exact ⟨[], rfl⟩
      | cons char rest =>
          by_cases accepted : accepts char = true
          · obtain ⟨others, ways⟩ := inductionHypothesis (Nat.le_of_succ_le_succ enough)
            refine ⟨others ++ [([], char :: rest)], ?_⟩
            rw [repeats, run, if_pos accepted, List.flatMap_singleton,
              if_pos (show rest.length < (char :: rest).length from Nat.lt_succ_self rest.length), ways,
              List.dropWhile_cons_of_pos accepted]
            simp [behind_nil]
          · refine ⟨[], ?_⟩
            rw [repeats, run, if_neg accepted, List.dropWhile_cons_of_neg accepted]
            rfl

theorem run_star (accepts : Char → Bool) (text : List Char) :
    ∃ others, (star (one accepts)).run text = ([], text.dropWhile accepts) :: others :=
  repeats_one (Nat.le_refl _)

/-- Every repetition takes a front of the text. -/
theorem mem_repeats_one {fuel : Nat} (member : found ∈ repeats (one accepts).run fuel text) :
    found.1 = [] ∧ ∃ front, text = front ++ found.2 ∧ ∀ char ∈ front, accepts char = true := by
  induction fuel generalizing text with
  | zero =>
      rw [List.mem_singleton.mp member]
      exact ⟨rfl, [], rfl, by simp⟩
  | succ fuel inductionHypothesis =>
      rcases List.mem_append.mp member with more | none
      · obtain ⟨once, first, later⟩ := List.mem_flatMap.mp more
        cases text with
        | nil => cases first
        | cons char rest =>
            rw [run] at first
            split at first
            · rename_i accepted
              rw [List.mem_singleton.mp first,
                if_pos (show rest.length < (char :: rest).length from Nat.lt_succ_self rest.length)] at later
              obtain ⟨inner, inside, same⟩ := List.mem_map.mp later
              obtain rfl : inner = found := same
              obtain ⟨uncaptured, front, split, all⟩ := inductionHypothesis inside
              refine ⟨uncaptured, char :: front, ?_, List.forall_mem_cons.mpr ⟨accepted, all⟩⟩
              rw [List.cons_append, ← split]
            · cases first
      · rw [List.mem_singleton.mp none]
        exact ⟨rfl, [], rfl, by simp⟩

theorem mem_run_star (member : found ∈ (star (one accepts)).run text) :
    found.1 = [] ∧ ∃ front, text = front ++ found.2 ∧ ∀ char ∈ front, accepts char = true :=
  mem_repeats_one member

end Regex

end Python
