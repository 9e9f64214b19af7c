/-
Module: CodaNode.Python.JsonCut
Layer: Python (library)
Purpose: The decoder and the parts of a text. A reader that has found the end of a value does not look at
  what follows (`Extends`), so when a part of a text is an object, the text is that object and white
  space, or it is refused.
Imports: CodaNode.Python.Json
Main exports: Python.Json.Stops, Python.Json.loads_cut
-/
import CodaNode.Python.Json

namespace Python.Json

variable {F : Type} {readFloat : List Char → F}

/-! ### More text behind a value -/

/-- The character ends a number. -/
def isStop (char : Char) : Bool := isBlank char || char = ',' || char = ']' || char = '}'

/-- The text goes on with a character that ends a number. -/
def Stops : List Char → Prop
  | [] => False
  | char :: _ => isStop char = true

/-- The value ends with its last character, as a number does not. -/
def Closed : Json F → Prop
  | .int _ | .float _ => False
  | _ => True

theorem map_prepend {chars text rest : List Char} {read : Option (List Char × List Char)} :
    read.map (prepend chars) = some (text, rest) ↔
      ∃ tail, read = some (tail, rest) ∧ chars ++ tail = text := by
  cases read with
  | none => simp
  | some found =>
      obtain ⟨front, back⟩ := found
      simp only [Option.map_some, prepend, Option.some.injEq, Prod.mk.injEq]
      constructor
      · rintro ⟨rfl, rfl⟩
        exact ⟨front, ⟨rfl, rfl⟩, rfl⟩
      · rintro ⟨tail, ⟨rfl, rfl⟩, rfl⟩
        exact ⟨rfl, rfl⟩

/-- The end of a string is where its first quote is, whatever follows. -/
theorem string_extends {high : Option Nat} {chars text rest : List Char} (more : List Char)
    (read : string high chars = some (text, rest)) :
    string high (chars ++ more) = some (text, rest ++ more) := by
  induction high, chars using string.induct generalizing text rest with
  | case1 => cases read
  | case2 =>
      rw [string.eq_def] at read
      cases read
  | case3 high a b c d rest' high' chars unit ih =>
      rw [string.eq_def] at read ⊢
      simp only [List.cons_append, if_true, unit, map_prepend] at read ⊢
      obtain ⟨tail, read, rfl⟩ := read
      exact ⟨tail, ih read, rfl⟩
  | case5 high rest' short =>
      rw [string.eq_def] at read
      simp only [if_true] at read
      cases read
  | case6 kind rest' other char found ih =>
      rw [string.eq_def] at read ⊢
      simp only [List.cons_append, if_true, if_neg other, found, map_prepend] at read ⊢
      obtain ⟨tail, read, rfl⟩ := read
      exact ⟨tail, ih read, rfl⟩
  | case10 high rest' other regular =>
      rw [string.eq_def] at read ⊢
      simp only [List.cons_append, if_neg other, if_neg regular, if_true] at read ⊢
      cases read
      rfl
  | case11 high kind rest' other regular inside ih =>
      rw [string.eq_def] at read ⊢
      simp only [List.cons_append, if_neg other, if_neg regular, if_neg inside, map_prepend]
        at read ⊢
      obtain ⟨tail, read, rfl⟩ := read
      exact ⟨tail, ih read, rfl⟩
  -- the other cases refuse the text
  | case4 high a b c d rest' refused =>
      rw [string.eq_def] at read
      simp [refused] at read
  | case7 high kind rest' other char found half =>
      rw [string.eq_def] at read
      simp [other, found, half] at read
  | case8 high kind rest' other refused =>
      rw [string.eq_def] at read
      simp [other, refused] at read
  | case9 high kind rest' other refused =>
      rw [string.eq_def] at read
      simp only [if_neg other, if_pos refused] at read
      cases read

theorem span_extends {p : Char → Bool} {chars : List Char} (more : List Char)
    (left : chars.dropWhile p ≠ []) :
    (chars ++ more).takeWhile p = chars.takeWhile p ∧
      (chars ++ more).dropWhile p = chars.dropWhile p ++ more := by
  induction chars with
  | nil => exact absurd rfl left
  | cons char rest ih =>
      cases matching : p char with
      | true =>
          simp only [List.dropWhile_cons, matching, if_true] at left
          obtain ⟨taken, dropped⟩ := ih left
          simp [matching, taken, dropped]
      | false => simp [matching]

theorem Stops.ne_nil {chars : List Char} (stops : Stops chars) : chars ≠ [] := by
  rintro rfl
  exact stops

theorem skip_extends {chars : List Char} (more : List Char) (left : skip chars ≠ []) :
    skip (chars ++ more) = skip chars ++ more := (span_extends more left).2

/-! ### The parts of a number -/

theorem digits_extends {chars read rest : List Char} (more : List Char)
    (found : digits chars = some (read, rest)) (left : rest ≠ []) :
    digits (chars ++ more) = some (read, rest ++ more) := by
  cases chars with
  | nil => cases found
  | cons char chars =>
      simp only [digits, List.cons_append] at found ⊢
      split at found
      · next digit =>
        cases found
        obtain ⟨taken, dropped⟩ := span_extends more left
        rw [if_pos digit, taken, dropped]
      · cases found

theorem integerPart_extends {chars whole rest : List Char} (more : List Char)
    (read : integerPart chars = some (whole, rest)) (left : rest ≠ []) :
    integerPart (chars ++ more) = some (whole, rest ++ more) := by
  cases chars with
  | nil => cases read
  | cons char chars =>
      simp only [integerPart, List.cons_append] at read ⊢
      split at read
      · next zero =>
        cases read
        rw [if_pos zero]
      · next other =>
        rw [if_neg other]
        exact digits_extends more read left

theorem exponentDigits_extends {chars read rest : List Char} (more : List Char)
    (found : exponentDigits chars = some (read, rest)) (left : rest ≠ []) :
    exponentDigits (chars ++ more) = some (read, rest ++ more) := by
  cases chars with
  | nil => cases found
  | cons char chars =>
      simp only [exponentDigits, List.cons_append] at found ⊢
      split at found
      · next sign =>
        obtain ⟨⟨exponent, tail⟩, inner, same⟩ := Option.map_eq_some_iff.mp found
        cases same
        rw [if_pos sign, digits_extends more inner left]
        rfl
      · next other =>
        rw [if_neg other]
        exact digits_extends more found left

/-- What follows the fraction of a number that has stopped. -/
def Continues : List Char → Prop
  | [] => False
  | char :: _ => char ≠ '.'

theorem Stops.continues {chars : List Char} (stops : Stops chars) : Continues chars := by
  cases chars with
  | nil => exact stops
  | cons char rest =>
      rintro rfl
      exact absurd (show isStop '.' = true from stops) (by decide)

theorem exponentPart_extends {chars exponent rest : List Char} (more : List Char)
    (read : exponentPart chars = (exponent, rest)) (stops : Stops rest) :
    exponentPart (chars ++ more) = (exponent, rest ++ more) ∧ Continues chars := by
  cases chars with
  | nil =>
      cases read
      exact stops.elim
  | cons char chars =>
      simp only [exponentPart, List.cons_append] at read ⊢
      split at read
      · next mark =>
        have point : char ≠ '.' := by
          rintro rfl
          revert mark
          decide
        split at read
        · next found =>
          cases read
          rw [if_pos mark, exponentDigits_extends more found stops.ne_nil]
          exact ⟨rfl, point⟩
        · -- a mark without digits does not end a number
          cases read
          rcases mark with rfl | rfl
          · exact absurd (show isStop 'e' = true from stops) (by decide)
          · exact absurd (show isStop 'E' = true from stops) (by decide)
      · next other =>
        cases read
        rw [if_neg other]
        exact ⟨rfl, stops.continues⟩

theorem fractionPart_extends {chars fraction rest : List Char} (more : List Char)
    (read : fractionPart chars = (fraction, rest)) (continues : Continues rest) :
    fractionPart (chars ++ more) = (fraction, rest ++ more) ∧ chars ≠ [] := by
  cases chars with
  | nil =>
      cases read
      exact continues.elim
  | cons char chars =>
      simp only [fractionPart, List.cons_append] at read ⊢
      refine ⟨?_, fun same => by cases same⟩
      split at read
      · next point =>
        split at read
        · next found =>
          cases read
          have left : rest ≠ [] := by
            rintro rfl
            exact continues
          rw [if_pos point, digits_extends more found left]
        · cases read
          exact absurd point continues
      · next other =>
        cases read
        rw [if_neg other]
        rfl

theorem unsigned_extends {negative : Bool} {chars rest : List Char} {result : Json F} (more : List Char)
    (read : unsigned readFloat negative chars = some (result, rest)) (stops : Stops rest) :
    unsigned readFloat negative (chars ++ more) = some (result, rest ++ more) := by
  unfold unsigned at read ⊢
  cases whole : integerPart chars with
  | none =>
      rw [whole] at read
      cases read
  | some found =>
      obtain ⟨number, behind⟩ := found
      rw [whole] at read
      cases fraction : fractionPart behind with
      | mk digits tail =>
          cases exponent : exponentPart tail with
          | mk power last =>
              have here : last = rest := by
                simp only [fraction, exponent] at read
                grind
              subst here
              obtain ⟨extended, continues⟩ := exponentPart_extends more exponent stops
              obtain ⟨extended', left⟩ := fractionPart_extends more fraction continues
              rw [integerPart_extends more whole left]
              simp only [fraction, exponent, extended', extended] at read ⊢
              grind

theorem signed_extends {chars rest : List Char} {result : Json F} (more : List Char)
    (read : signed readFloat chars = some (result, rest)) (stops : Stops rest) :
    signed readFloat (chars ++ more) = some (result, rest ++ more) := by
  cases chars with
  | nil => cases read
  | cons char chars =>
      simp only [signed, List.cons_append] at read ⊢
      split at read
      · next minus =>
        rw [if_pos minus]
        exact unsigned_extends more read stops
      · next other =>
        rw [if_neg other]
        exact unsigned_extends more read stops

/-! ### Tokens -/

theorem expect_extends {tokens chars rest : List Char} (more : List Char)
    (found : expect tokens chars = some rest) : expect tokens (chars ++ more) = some (rest ++ more) := by
  induction tokens generalizing chars with
  | nil =>
      cases found
      rfl
  | cons token tokens ih =>
      cases chars with
      | nil => cases found
      | cons char chars =>
          simp only [expect, List.cons_append] at found ⊢
          split at found
          · next same =>
            rw [if_pos same]
            exact ih found
          · cases found

theorem expect_none_extends {token : Char} {chars : List Char} (more : List Char)
    (missing : expect [token] chars = none) (left : chars ≠ []) :
    expect [token] (chars ++ more) = none := by
  cases chars with
  | nil => exact absurd rfl left
  | cons char chars =>
      simp only [expect, List.cons_append] at missing ⊢
      split at missing
      · cases missing
      · next other => rw [if_neg other]

/-- A token comes behind a value that has stopped. -/
theorem stops_of_expect {token : Char} {chars rest : List Char} (stop : isStop token = true)
    (found : expect [token] (skip chars) = some rest) : Stops chars ∧ skip chars ≠ [] := by
  cases chars with
  | nil => cases found
  | cons char chars =>
      cases blank : isBlank char with
      | true =>
          constructor
          · exact Bool.or_eq_true_iff.mpr (.inl (by simp [blank]))
          · intro empty
            rw [empty] at found
            cases found
      | false =>
          have here : skip (char :: chars) = char :: chars := by simp [skip, blank]
          rw [here] at found ⊢
          simp only [expect] at found
          split at found
          · next same => exact ⟨same ▸ stop, fun empty => by cases empty⟩
          · cases found

/-- What has the same value whatever the text behind its tokens is. -/
theorem literal_extends {tokens chars rest : List Char} {item result : Json F} (more : List Char)
    (read : (expect tokens chars).map (fun rest => (item, rest)) = some (result, rest)) :
    (expect tokens (chars ++ more)).map (fun rest => (item, rest)) = some (result, rest ++ more) := by
  obtain ⟨tail, found, same⟩ := Option.map_eq_some_iff.mp read
  cases same
  rw [expect_extends more found]
  rfl

theorem constant_extends {chars rest : List Char} {result : Json F} (more : List Char)
    (read : constant readFloat chars = some (result, rest)) :
    constant readFloat (chars ++ more) = some (result, rest ++ more) := by
  cases chars with
  | nil => cases read
  | cons char chars =>
      simp only [constant, List.cons_append] at read ⊢
      split at read
      · next here =>
        rw [if_pos here]
        exact literal_extends more read
      · next notNaN =>
        rw [if_neg notNaN]
        split at read
        · next here =>
          rw [if_pos here]
          exact literal_extends more read
        · next notInfinity =>
          rw [if_neg notInfinity]
          split at read
          · next here =>
            rw [if_pos here]
            exact literal_extends more read
          · cases read

theorem signed_eq_none {chars : List Char} (char : Char) (letter : char.isDigit = false) (zero : char ≠ '0')
    (minus : char ≠ '-') : signed readFloat (char :: chars) = none := by
  simp [signed, unsigned, integerPart, digits, letter, zero, minus]

/-- A text that begins as a constant does is no number. -/
theorem signed_of_constant {chars rest : List Char} {result : Json F}
    (read : constant readFloat chars = some (result, rest)) : signed readFloat chars = none := by
  cases chars with
  | nil => cases read
  | cons char chars =>
      simp only [constant] at read
      split at read
      · next here =>
        subst here
        exact signed_eq_none 'N' (by decide) (by decide) (by decide)
      · split at read
        · next here =>
          subst here
          exact signed_eq_none 'I' (by decide) (by decide) (by decide)
        · split at read
          · next here =>
            subst here
            obtain ⟨tail, found, -⟩ := Option.map_eq_some_iff.mp read
            cases chars with
            | nil => cases found
            | cons next chars =>
                simp only [expect] at found
                split at found
                · next same =>
                  subst same
                  simp [signed, unsigned, integerPart, digits]
                · cases found
          · cases read

/-! ### Values -/

theorem or_extends {chars rest : List Char} {result : Json F} (more : List Char)
    (read : (signed readFloat chars).or (constant readFloat chars) = some (result, rest))
    (stops : Stops rest) :
    (signed readFloat (chars ++ more)).or (constant readFloat (chars ++ more)) =
      some (result, rest ++ more) := by
  cases found : signed readFloat chars with
  | some pair =>
      rw [found, Option.some_or] at read
      cases read
      rw [signed_extends more found stops, Option.some_or]
  | none =>
      rw [found, Option.none_or] at read
      have extended := constant_extends more read
      rw [signed_of_constant extended, Option.none_or, extended]

theorem value_nil {fuel : Nat} : value readFloat fuel [] = none := by
  cases fuel <;> rfl

theorem elements_nil {fuel : Nat} : elements readFloat fuel [] = none := by
  cases fuel with
  | zero => rfl
  | succ fuel => simp only [elements, value_nil]

theorem members_nil {fuel : Nat} : members readFloat fuel [] = none := by
  cases fuel with
  | zero => rfl
  | succ fuel => simp only [members, expect, Option.bind_none]

/-- With more text behind it and more fuel, a value is read alike, and so are the items of a list and the
entries of an object. -/
structure Extends (readFloat : List Char → F) (fuel fuel' : Nat) : Prop where
  value : ∀ {chars rest result} more, value readFloat fuel chars = some (result, rest) →
    Closed result ∨ Stops rest → Json.value readFloat fuel' (chars ++ more) = some (result, rest ++ more)
  elements : ∀ {chars rest result} more, elements readFloat fuel chars = some (result, rest) →
    Json.elements readFloat fuel' (chars ++ more) = some (result, rest ++ more)
  members : ∀ {chars rest result} more, members readFloat fuel chars = some (result, rest) →
    Json.members readFloat fuel' (chars ++ more) = some (result, rest ++ more)

theorem elements_extends {fuel fuel' : Nat} (less : Extends readFloat fuel fuel') {chars rest : List Char}
    {result : List (Json F)} (more : List Char)
    (read : elements readFloat (fuel + 1) chars = some (result, rest)) :
    elements readFloat (fuel' + 1) (chars ++ more) = some (result, rest ++ more) := by
  simp only [elements] at read ⊢
  split at read
  · cases read
  · next item behind found =>
    split at read
    · next closed =>
      cases read
      obtain ⟨stops, left⟩ := stops_of_expect (by decide) closed
      simp only [less.value more found (.inr stops), skip_extends more left, expect_extends more closed]
    · next unclosed =>
      split at read
      · next next comma =>
        obtain ⟨stops, left⟩ := stops_of_expect (by decide) comma
        obtain ⟨⟨items, tail⟩, inner, same⟩ := Option.map_eq_some_iff.mp read
        cases same
        have items_left : skip next ≠ [] := fun empty => by
          rw [empty, elements_nil] at inner
          cases inner
        simp only [less.value more found (.inr stops), skip_extends more left,
          expect_none_extends more unclosed left, expect_extends more comma,
          skip_extends more items_left, less.elements more inner, Option.map_some]
      · cases read

theorem members_extends {fuel fuel' : Nat} (less : Extends readFloat fuel fuel') {chars rest : List Char}
    {result : List (String × Json F)} (more : List Char)
    (read : members readFloat (fuel + 1) chars = some (result, rest)) :
    members readFloat (fuel' + 1) (chars ++ more) = some (result, rest ++ more) := by
  simp only [members] at read ⊢
  split at read
  · cases read
  · next key behind quoted =>
    obtain ⟨inside, quote, text⟩ := Option.bind_eq_some_iff.mp quoted
    simp only [expect_extends more quote, Option.bind_some, string_extends more text]
    split at read
    · cases read
    · next start colon =>
      have colon_left : skip behind ≠ [] := fun empty => by
        rw [empty] at colon
        cases colon
      simp only [skip_extends more colon_left, expect_extends more colon]
      split at read
      · cases read
      · next item after found =>
        have value_left : skip start ≠ [] := fun empty => by
          rw [empty, value_nil] at found
          cases found
        split at read
        · next closed =>
          cases read
          obtain ⟨stops, left⟩ := stops_of_expect (by decide) closed
          simp only [skip_extends more value_left, less.value more found (.inr stops),
            skip_extends more left, expect_extends more closed]
        · next unclosed =>
          split at read
          · next next comma =>
            obtain ⟨stops, left⟩ := stops_of_expect (by decide) comma
            obtain ⟨⟨entries, tail⟩, inner, same⟩ := Option.map_eq_some_iff.mp read
            cases same
            have entries_left : skip next ≠ [] := fun empty => by
              rw [empty, members_nil] at inner
              cases inner
            simp only [skip_extends more value_left, less.value more found (.inr stops),
              skip_extends more left, expect_none_extends more unclosed left,
              expect_extends more comma, skip_extends more entries_left, less.members more inner,
              Option.map_some]
          · cases read

/-- The inside of a list or an object, after its opening token. -/
theorem enclosed_extends {α : Type} {token : Char} {empty_ result : Json F}
    {reader reader' : List Char → Option (α × List Char)} {make : α → Json F} {chars rest : List Char}
    (more : List Char) (nothing : reader [] = none)
    (inside : ∀ {chars rest found}, reader chars = some (found, rest) →
      reader' (chars ++ more) = some (found, rest ++ more))
    (read : (match expect [token] (skip chars) with
      | some rest => some (empty_, rest)
      | none => (reader (skip chars)).map fun (found, rest) => (make found, rest)) = some (result, rest)) :
    (match expect [token] (skip (chars ++ more)) with
      | some rest => some (empty_, rest)
      | none => (reader' (skip (chars ++ more))).map fun (found, rest) => (make found, rest)) =
      some (result, rest ++ more) := by
  split at read
  · next closed =>
    cases read
    have left : skip chars ≠ [] := fun empty => by
      rw [empty] at closed
      cases closed
    simp only [skip_extends more left, expect_extends more closed]
  · next unclosed =>
    obtain ⟨⟨found, tail⟩, inner, same⟩ := Option.map_eq_some_iff.mp read
    cases same
    have left : skip chars ≠ [] := fun empty => by
      rw [empty, nothing] at inner
      cases inner
    simp only [skip_extends more left, expect_none_extends more unclosed left, inside inner,
      Option.map_some]

theorem not_closed_of_unsigned {negative : Bool} {chars rest : List Char} {result : Json F}
    (read : unsigned readFloat negative chars = some (result, rest)) : ¬ Closed result := by
  simp only [unsigned] at read
  split at read
  · cases read
  · split at read
    · split at read
      · cases read
        exact id
      · cases read
    · cases read
      exact id

theorem not_closed_of_number {chars rest : List Char} {result : Json F}
    (read : (signed readFloat chars).or (constant readFloat chars) = some (result, rest)) :
    ¬ Closed result := by
  rcases Option.or_eq_some_iff.mp read with found | ⟨-, found⟩
  · cases chars with
    | nil => cases found
    | cons char chars =>
        simp only [signed] at found
        split at found
        · exact not_closed_of_unsigned found
        · exact not_closed_of_unsigned found
  · cases chars with
    | nil => cases found
    | cons char chars =>
        simp only [constant] at found
        split at found
        · obtain ⟨tail, -, same⟩ := Option.map_eq_some_iff.mp found
          cases same
          exact id
        · split at found
          · obtain ⟨tail, -, same⟩ := Option.map_eq_some_iff.mp found
            cases same
            exact id
          · split at found
            · obtain ⟨tail, -, same⟩ := Option.map_eq_some_iff.mp found
              cases same
              exact id
            · cases found

theorem value_extends {fuel fuel' : Nat} (less : Extends readFloat fuel fuel') {chars rest : List Char}
    {result : Json F} (more : List Char)
    (read : value readFloat (fuel + 1) chars = some (result, rest)) (ends : Closed result ∨ Stops rest) :
    value readFloat (fuel' + 1) (chars ++ more) = some (result, rest ++ more) := by
  cases chars with
  | nil => cases read
  | cons char chars =>
      simp only [value, List.cons_append] at read ⊢
      split at read
      · next here =>
        obtain ⟨⟨text, tail⟩, inner, same⟩ := Option.map_eq_some_iff.mp read
        cases same
        rw [if_pos here, string_extends more inner]
        rfl
      rw [if_neg ‹_›]
      split at read
      · next here =>
        rw [if_pos here]
        exact enclosed_extends more members_nil (less.members more) read
      rw [if_neg ‹_›]
      split at read
      · next here =>
        rw [if_pos here]
        exact enclosed_extends more elements_nil (less.elements more) read
      rw [if_neg ‹_›]
      split at read
      · next here =>
        rw [if_pos here]
        exact literal_extends more read
      rw [if_neg ‹_›]
      split at read
      · next here =>
        rw [if_pos here]
        exact literal_extends more read
      rw [if_neg ‹_›]
      split at read
      · next here =>
        rw [if_pos here]
        exact literal_extends more read
      rw [if_neg ‹_›]
      exact or_extends more read (ends.resolve_left (not_closed_of_number read))

theorem extends_of_le {fuel fuel' : Nat} (le : fuel ≤ fuel') : Extends readFloat fuel fuel' := by
  induction fuel generalizing fuel' with
  | zero =>
      refine ⟨fun _ read => ?_, fun _ read => ?_, fun _ read => ?_⟩
      · simp only [value] at read
        cases read
      · simp only [elements] at read
        cases read
      · simp only [members] at read
        cases read
  | succ fuel ih =>
      obtain ⟨fuel', rfl⟩ : ∃ less, fuel' = less + 1 := ⟨fuel' - 1, by omega⟩
      have less : Extends readFloat fuel fuel' := ih (by omega)
      exact ⟨fun more => value_extends less more, fun more => elements_extends less more,
        fun more => members_extends less more⟩

/-! ### Parts of a text -/

theorem skip_of_blank {char : Char} {chars : List Char} (solid : isBlank char = false) :
    skip (char :: chars) = char :: chars := by
  simp [skip, solid]

theorem skip_append_of_skip {chars : List Char} (more : List Char) (blank : skip chars = []) :
    skip (chars ++ more) = skip more := by
  induction chars with
  | nil => rfl
  | cons char chars ih =>
      simp only [skip, List.dropWhile_cons] at blank
      split at blank
      · next here =>
        simp only [skip, List.cons_append, List.dropWhile_cons, here, if_true]
        exact ih blank
      · cases blank

/-- What starts as an object and is read is an object. -/
theorem closed_of_brace {fuel : Nat} {chars rest : List Char} {result : Json F}
    (read : value readFloat fuel ('{' :: chars) = some (result, rest)) : Closed result := by
  cases fuel with
  | zero => cases read
  | succ fuel =>
      simp only [value, show ('{' = '"') = False by simp, if_false, if_true] at read
      split at read
      · cases read
        trivial
      · obtain ⟨pair, -, same⟩ := Option.map_eq_some_iff.mp read
        cases same
        trivial

/-- When a part of a text is an object, the text is that object or nothing but white space may follow. -/
theorem loads_cut {chars more : List Char} {result : Json F}
    (read : loads readFloat (String.ofList ('{' :: chars)) = some result) :
    loads readFloat (String.ofList ('{' :: chars ++ more)) =
      if skip more = [] then some result else none := by
  simp only [loads, String.toList_ofList] at read ⊢
  rw [skip_of_blank (by decide)] at read
  rw [List.cons_append, skip_of_blank (by decide)]
  split at read
  · next found =>
    split at read
    · next blank =>
      cases read
      have le : ('{' :: chars).length + 1 ≤ ('{' :: (chars ++ more)).length + 1 := by simp
      have extended := (extends_of_le le).value more found (.inl (closed_of_brace found))
      rw [List.cons_append] at extended
      rw [extended]
      simp only [skip_append_of_skip more blank]
    · cases read
  · cases read

end Python.Json
