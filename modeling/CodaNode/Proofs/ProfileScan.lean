/-
Module: CodaNode.Proofs.ProfileScan
Layer: Proofs
Purpose: What the scan of a VPN profile misses. The scan sees every directive that a line of the profile
  starts with in its bare form, also where it and OpenVPN disagree on white space and on line breaks. It
  misses exactly the other forms: hyphens, quotes and escapes, and a bare name behind a byte order mark.
Imports: CodaNode.Node.Profile, CodaNode.Node.OpenVpn
Main exports: Undisguised, validateVpnProfile_sound_iff
-/
import CodaNode.Node.Profile
import CodaNode.Node.OpenVpn

namespace CodaNode

open Python

/-- No line of the profile is a directive of the list in a form other than its bare name, and a first
line behind a byte order mark is not a bare name either. -/
structure Undisguised (escape : Char → Option Char) (profile : String) : Prop where
  forms : ∀ line ∈ OpenVpn.lines profile, ∀ name ∈ dangerousOvpnDirectives,
    ¬ OpenVpn.Disguised escape name.toList line
  marked : profile.toList.head? = some OpenVpn.mark → ∀ line, (OpenVpn.lines profile).head? = some line →
    ∀ name ∈ dangerousOvpnDirectives, ¬ OpenVpn.Bare name.toList line

namespace ProfileScan

/-! ### The names of the list -/

theorem simple_of_check {name : List Char} (starts : name.head?.any (· != '-'))
    (plain : name.all fun char => char.toNat = 45 || (97 ≤ char.toNat && char.toNat ≤ 122)) :
    OpenVpn.Simple name := by
  constructor
  · cases name with
    | nil => cases starts
    | cons char rest => exact ⟨char, rest, rfl, by simpa using starts⟩
  · intro char inside
    simpa using List.all_eq_true.mp plain char inside

theorem simple {name : String} (dangerous : name ∈ dangerousOvpnDirectives) :
    OpenVpn.Simple name.toList := by
  have check : ∀ name ∈ dangerousOvpnDirectives, name.toList.head?.any (· != '-') ∧
      name.toList.all fun char => char.toNat = 45 || (97 ≤ char.toNat && char.toNat ≤ 122) := by decide +kernel
  exact simple_of_check (check name dangerous).1 (check name dangerous).2

theorem solid {name : String} (dangerous : name ∈ dangerousOvpnDirectives) :
    ∀ char ∈ name.toList, ¬ isSpace char := by
  have check : ∀ name ∈ dangerousOvpnDirectives, name.toList.all fun char => !isSpace char := by
    decide +kernel
  simpa using check name dangerous

theorem lower_eq {name : String} (dangerous : name ∈ dangerousOvpnDirectives) : lower name = name := by
  have check : ∀ name ∈ dangerousOvpnDirectives, lower name = name := by decide +kernel
  exact check name dangerous

/-! ### The two ways to cut a text into lines -/

theorem isSpace_of_isBlank {char : Char} (blank : OpenVpn.isBlank char) : isSpace char := by
  simp only [OpenVpn.isBlank, isSpace, Bool.or_eq_true, Bool.and_eq_true, decide_eq_true_eq,
    beq_iff_eq] at *
  omega

/-- What stands behind a line: nothing, or the line feed that ends it. -/
def Closed (after : List Char) : Prop := after = [] ∨ ∃ rest, after = '\n' :: rest

/-- The first line starts the text, and a line feed stands in front of every other. -/
theorem textLines_cases (text : List Char) :
    ∃ first others, OpenVpn.textLines text = first :: others ∧
      (∃ after, text = first ++ after ∧ Closed after) ∧
      ∀ line ∈ others, ∃ before after, text = before ++ '\n' :: (line ++ after) ∧ Closed after := by
  induction text with
  | nil => exact ⟨[], [], rfl, ⟨[], rfl, .inl rfl⟩, by simp⟩
  | cons char rest ih =>
      obtain ⟨first, others, split, ⟨after, start, closed⟩, later⟩ := ih
      have shifted : ∀ line ∈ others, ∃ before after,
          char :: rest = before ++ '\n' :: (line ++ after) ∧ Closed after := by
        intro line inside
        obtain ⟨before, after, same, closed⟩ := later line inside
        exact ⟨char :: before, after, by rw [same, List.cons_append], closed⟩
      by_cases feed : char = '\n'
      · refine ⟨[], first :: others, by rw [OpenVpn.textLines, if_pos feed, split], ?_, ?_⟩
        · exact ⟨char :: rest, rfl, .inr ⟨rest, by rw [feed]⟩⟩
        · intro line inside
          rcases List.mem_cons.mp inside with rfl | inside
          · exact ⟨[], after, by rw [feed, start, List.nil_append], closed⟩
          · exact shifted line inside
      · refine ⟨char :: first, others, by rw [OpenVpn.textLines, if_neg feed, split, attach], ?_, shifted⟩
        exact ⟨after, by rw [start, List.cons_append], closed⟩

/-- A bare name at the start of the text is the first word of a line for the scan. -/
theorem exists_firstWord_of_bare {name : String} {line after : List Char}
    (dangerous : name ∈ dangerousOvpnDirectives) (bare : OpenVpn.Bare name.toList line)
    (closed : Closed after) : ∃ scanned ∈ splitlines (line ++ after), FirstWord name.toList scanned := by
  obtain ⟨white, rest, rfl, blank, ends⟩ := bare
  rw [List.append_assoc, List.append_assoc]
  apply exists_firstWord (fun char inside => isSpace_of_isBlank (blank char inside)) (solid dangerous)
    (simple dangerous).ne_nil
  intro char head
  cases rest with
  | nil =>
      rcases closed with rfl | ⟨rest, rfl⟩
      · cases head
      · cases head
        decide
  | cons first rest => exact isSpace_of_isBlank (ends char head)

/-- The scan refuses a text with a line that starts with a bare name of the list. -/
theorem profileDirective_of_firstWord {name : String} {scanned : List Char}
    (dangerous : name ∈ dangerousOvpnDirectives) (first : FirstWord name.toList scanned) :
    profileDirective scanned = name := by
  obtain ⟨words, split⟩ := List.head?_eq_some_iff.mp
    (split_strip_head (solid dangerous) (simple dangerous).ne_nil first)
  rw [profileDirective, split]
  dsimp only
  rw [String.ofList_toList, lower_eq dangerous]

theorem not_bare {profile name : String} (accepted : validateVpnProfile profile = .ok ())
    (dangerous : name ∈ dangerousOvpnDirectives) :
    ∀ line ∈ OpenVpn.textLines profile.toList, ¬ OpenVpn.Bare name.toList line := by
  intro line inside bare
  obtain ⟨first, others, split, ⟨after, start, closed⟩, later⟩ := textLines_cases profile.toList
  have seen : ∃ scanned ∈ splitlines profile.toList, FirstWord name.toList scanned := by
    rw [split] at inside
    rcases List.mem_cons.mp inside with rfl | inside
    · rw [start]
      exact exists_firstWord_of_bare dangerous bare closed
    · obtain ⟨before, after, same, closed⟩ := later line inside
      obtain ⟨scanned, among, first⟩ := exists_firstWord_of_bare dangerous bare closed
      obtain ⟨lines, -, cut⟩ := splitlines_append_newline before (line ++ after)
      exact ⟨scanned, by rw [same, cut]; exact List.mem_append_right _ among, first⟩
  obtain ⟨scanned, among, first⟩ := seen
  apply validateVpnProfile_iff.mp accepted scanned among
  rwa [profileDirective_of_firstWord dangerous first]

/-- Only the first line of a text with a byte order mark can hide a bare name. -/
theorem marked_of_bare {profile name : String} (accepted : validateVpnProfile profile = .ok ())
    (dangerous : name ∈ dangerousOvpnDirectives) {line : List Char} (inside : line ∈ OpenVpn.lines profile)
    (bare : OpenVpn.Bare name.toList line) :
    profile.toList.head? = some OpenVpn.mark ∧ (OpenVpn.lines profile).head? = some line := by
  have bareless := not_bare accepted dangerous
  unfold OpenVpn.lines at inside ⊢
  cases chars : profile.toList with
  | nil =>
      rw [chars] at inside bareless
      exact absurd bare (bareless line inside)
  | cons char rest =>
      rw [chars] at inside bareless
      dsimp only at inside ⊢
      by_cases marked : char = OpenVpn.mark
      · rw [if_pos marked] at inside ⊢
        obtain ⟨first, others, split, -, -⟩ := textLines_cases rest
        have notFeed : char ≠ '\n' := by
          rw [marked]
          decide
        rw [OpenVpn.textLines, if_neg notFeed, split, attach] at bareless
        rw [split] at inside ⊢
        rcases List.mem_cons.mp inside with rfl | inside
        · exact ⟨by rw [marked]; rfl, rfl⟩
        · exact absurd bare (bareless line (List.mem_cons_of_mem _ inside))
      · rw [if_neg marked] at inside
        exact absurd bare (bareless line inside)

end ProfileScan

/-- OpenVPN reads no line of an accepted profile as a directive of the list exactly when no line of it is
such a directive in disguise. -/
theorem validateVpnProfile_sound_iff (escape : Char → Option Char) (profile : String)
    (accepted : validateVpnProfile profile = .ok ()) :
    (∀ line ∈ OpenVpn.lines profile, ∀ name ∈ dangerousOvpnDirectives,
        OpenVpn.directive escape line ≠ some name.toList) ↔ Undisguised escape profile := by
  constructor
  · intro safe
    constructor
    · intro line inside name dangerous disguised
      exact safe line inside name dangerous
        ((OpenVpn.directive_iff (ProfileScan.simple dangerous)).mpr (.inr disguised))
    · intro _ line first name dangerous bare
      exact safe line (List.mem_of_head? first) name dangerous
        ((OpenVpn.directive_iff (ProfileScan.simple dangerous)).mpr (.inl bare))
  · intro undisguised line inside name dangerous read
    rcases (OpenVpn.directive_iff (ProfileScan.simple dangerous)).mp read with bare | disguised
    · obtain ⟨marked, first⟩ := ProfileScan.marked_of_bare accepted dangerous inside bare
      exact undisguised.marked marked line first name dangerous bare
    · exact undisguised.forms line inside name dangerous disguised

/-- The escapes OpenVPN documents. -/
def OpenVpn.escapes (char : Char) : Option Char :=
  if char = '\\' ∨ char = '"' ∨ OpenVpn.isBlank char then some char else none

theorem validateVpnProfile_sound_client :
    Undisguised OpenVpn.escapes "client\nremote vpn.example 1194\n" :=
  (validateVpnProfile_sound_iff OpenVpn.escapes "client\nremote vpn.example 1194\n"
    (validateVpnProfile_iff.mpr (by decide +kernel))).mp (by decide +kernel)

/-- Two hyphens in front of the directive pass the scan, and OpenVPN runs the script. -/
theorem validateVpnProfile_hyphens :
    validateVpnProfile "client\n--up /tmp/run.sh\n" = .ok () ∧
      ∃ line ∈ OpenVpn.lines "client\n--up /tmp/run.sh\n",
        OpenVpn.directive OpenVpn.escapes line = some "up".toList := by
  constructor
  · exact validateVpnProfile_iff.mpr (by decide +kernel)
  · exact ⟨"--up /tmp/run.sh".toList, by decide +kernel, by decide +kernel⟩

end CodaNode
