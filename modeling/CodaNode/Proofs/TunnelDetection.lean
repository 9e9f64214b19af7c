/-
Module: CodaNode.Proofs.TunnelDetection
Layer: Proofs
Purpose: What a detected tunnel interface is. The listing is read back to the name of its first link, and
  every link that exists passes the test for a hint, since the word `group` contains the letters looked
  for. So the answer is an interface that is up exactly when the link that was asked about is.
Imports: CodaNode.Node.Tunnel, Mathlib.Data.List.Nodup
Main exports: detectTunInterface_eq, detectTunInterface_up_iff, detectTunInterface_down
-/
import CodaNode.Node.Tunnel
import Mathlib.Data.List.Nodup

namespace CodaNode.Node

open Python

namespace TunnelDetection

/-! ### The text of a link -/

/-- A part of a text is found. -/
theorem isInfix_append (before part after : List Char) : isInfix part (before ++ (part ++ after)) = true := by
  induction before with
  | nil =>
      cases part with
      | nil => cases after <;> rfl
      | cons char part =>
          rw [List.nil_append, List.cons_append, isInfix, Bool.or_eq_true]
          left
          rw [List.isPrefixOf_iff_prefix]
          exact List.prefix_append _ _
  | cons char before ih =>
      rw [List.cons_append, isInfix, ih, Bool.or_true]

/-- The attributes name the group of the link. -/
theorem shown_up (link : Link) : contains link.shown "up" = true := by
  have split : ∃ before after, link.shown.toList = before ++ ("up".toList ++ after) := by
    refine ⟨(toString link.index ++ ": " ++ link.name ++ ": " ++ "<" ++ ",".intercalate link.flags ++ "> mtu " ++
      toString link.mtu ++ " qdisc " ++ link.qdisc ++ " state " ++ link.state ++ " mode " ++ link.mode ++
      " gro").toList, (" " ++ link.group ++ link.rest ++ "\n    link/" ++ link.address ++ "\n").toList, ?_⟩
    simp [Link.shown, Link.line, Link.attributes, String.toList_append]
  obtain ⟨before, after, same⟩ := split
  rw [contains, same]
  exact isInfix_append before _ after

/-- The first line of a text that starts inside a line. -/
theorem splitlines_front {front rest : List Char} (inside : ∀ char ∈ front, ¬ isLineBreak char)
    (present : front ≠ []) : ∃ tail lines, splitlines (front ++ rest) = (front ++ tail) :: lines := by
  induction front with
  | nil => exact absurd rfl present
  | cons char front ih =>
      have here : ¬ isLineBreak char := inside char List.mem_cons_self
      have attached : splitlines (char :: (front ++ rest)) = attach char (splitlines (front ++ rest)) := by
        rw [splitlines_cons, if_neg here]
        rintro rfl
        exact absurd rfl here
      rw [List.cons_append, attached]
      cases front with
      | nil =>
          rw [List.nil_append]
          cases splitlines rest with
          | nil => exact ⟨[], [], rfl⟩
          | cons line lines => exact ⟨line, lines, rfl⟩
      | cons next front =>
          obtain ⟨tail, lines, same⟩ := ih (fun char later => inside char (List.mem_cons_of_mem _ later)) (by simp)
          rw [same]
          exact ⟨tail, lines, rfl⟩

theorem strip_blank {name : List Char} (solid : ∀ char ∈ name, ¬ isSpace char) (named : name ≠ []) :
    strip (' ' :: name) = name := by
  have blank : ∀ char ∈ [' '], isSpace char := by
    intro char inside
    rw [List.mem_singleton.mp inside]
    rfl
  obtain ⟨kept, front, stripped⟩ := @strip_append [' '] name [] blank solid named
  rw [List.prefix_nil.mp front, List.append_nil] at stripped
  simpa using stripped

theorem digits_plain {number : Nat} {char : Char} (inside : char ∈ (toString number).toList) :
    (char == ':') = false ∧ ¬ isLineBreak char := by
  have digit : char.isDigit := by
    apply Nat.isDigit_of_mem_toDigits (b := 10) (by decide) (by decide)
    simpa using inside
  have range : 48 ≤ char.toNat ∧ char.toNat ≤ 57 := by
    simp only [Char.isDigit, ge_iff_le, Bool.and_eq_true, decide_eq_true_eq, UInt32.le_iff_toNat_le] at digit
    exact digit
  constructor
  · rw [beq_eq_false_iff_ne]
    rintro rfl
    exact absurd range.2 (by decide)
  · intro ends
    simp only [isLineBreak, Bool.or_eq_true, Bool.and_eq_true, decide_eq_true_eq, beq_iff_eq] at ends
    omega

/-- What stands in front of the attributes. -/
def front (link : Link) : List Char := (toString link.index).toList ++ (':' :: ((' ' :: link.name.toList) ++ [':']))

theorem front_line (link : Link) : link.line.toList = front link ++ (" " ++ link.attributes).toList := by
  simp [Link.line, front, String.toList_append]

theorem front_inside (link : Link) : ∀ char ∈ front link, ¬ isLineBreak char := by
  intro char inside
  simp only [front, List.mem_append, List.mem_cons, List.not_mem_nil, or_false] at inside
  rcases inside with digit | rfl | (rfl | letter) | rfl
  · exact (digits_plain digit).2
  · decide
  · decide
  · exact fun ends => (link.solid char letter).1 (isSpace_of_isLineBreak ends)
  · decide

/-- The first field of a listing behind the index. -/
theorem firstInterface_line (link : Link) (rest : List Char) :
    firstInterface (splitlines (link.line.toList ++ rest)) = some link.name := by
  have present : front link ≠ [] := by simp [front]
  obtain ⟨tail, lines, first⟩ :=
    @splitlines_front (front link) ((" " ++ link.attributes).toList ++ rest) (front_inside link) present
  have digits : ∀ char ∈ (toString link.index).toList, (char == ':') = false :=
    fun char inside => (digits_plain inside).1
  have letters : ∀ char ∈ ' ' :: link.name.toList, (char == ':') = false := by
    intro char inside
    rcases List.mem_cons.mp inside with rfl | letter
    · rfl
    · exact beq_eq_false_iff_ne.mpr (link.solid char letter).2
  have fields : (front link ++ tail).splitOn ':' =
      (toString link.index).toList :: (' ' :: link.name.toList) :: tail.splitOn ':' := by
    rw [front, List.append_assoc, List.cons_append, List.append_assoc, List.singleton_append,
      List.splitOn_eq_splitOnP, List.splitOnP_append_cons_of_forall_mem digits _ rfl,
      List.splitOnP_append_cons_of_forall_mem letters _ rfl, List.splitOn_eq_splitOnP]
  have name : String.ofList (strip (' ' :: link.name.toList)) = link.name := by
    rw [strip_blank (fun char inside => (link.solid char inside).1)]
    · exact String.ofList_toList
    · simpa using link.named
  rw [front_line, List.append_assoc, first, firstInterface, fields]
  exact congrArg some name

/-- The first tunnel link of a listing. -/
theorem firstInterface_listing (network : Network) :
    firstInterface (splitlines network.listing.toList) = (network.links.find? Link.tunnel).map Link.name := by
  rw [Network.listing, ← List.head?_filter]
  cases network.links.filter Link.tunnel with
  | nil => rfl
  | cons link links =>
      have same : (String.join ((link :: links).map Link.listed)).toList = link.line.toList ++
          ("\\    link/" ++ link.address ++ "\n" ++ String.join (links.map Link.listed)).toList := by
        simp [Link.listed, String.toList_append]
      rw [same]
      exact firstInterface_line link _

end TunnelDetection

/-- What a detection answers: the name of the link it is about, whether that is up or not. -/
theorem detectTunInterface_eq (network : Network) (hint : Option String) :
    detectTunInterface network.run hint =
      match network.raises (detectionCommand hint) with
      | some error => orNone (.error error)
      | none => .ok ((network.asked hint).map Link.name) := by
  unfold detectTunInterface detectionCommand Network.asked Network.run
  cases givenHint hint with
  | none =>
      dsimp only
      cases network.raises .linkShowTun with
      | some error => rfl
      | none =>
          change orNone (.ok (firstInterface (splitlines network.listing.toList))) = _
          rw [TunnelDetection.firstInterface_listing]
          rfl
  | some name =>
      dsimp only
      cases network.raises (.linkShow name) with
      | some error => rfl
      | none =>
          dsimp only [Network.prints]
          cases found : network.links.find? fun link => link.name = name with
          | none => rfl
          | some link =>
              have same : link.name = name := by simpa using List.find?_some found
              have passed : (0 : Int) = 0 ∧ (contains link.shown "UP" || contains link.shown "up") = true :=
                ⟨rfl, by rw [TunnelDetection.shown_up, Bool.or_true]⟩
              dsimp only [bind, Except.bind]
              rw [if_pos passed, Option.map_some, same]
              rfl

/-- A detected interface is up exactly when the link the detection is about is: the hinted one, or the first
tunnel link. -/
theorem detectTunInterface_up_iff (network : Network) (hint : Option String) :
    (∀ name, detectTunInterface network.run hint = .ok (some name) →
        ∃ link ∈ network.links, link.name = name ∧ "UP" ∈ link.flags) ↔
      ∀ link, network.asked hint = some link → network.raises (detectionCommand hint) = none →
        "UP" ∈ link.flags := by
  rw [detectTunInterface_eq]
  have inside {link : Link} (asked : network.asked hint = some link) : link ∈ network.links := by
    unfold Network.asked at asked
    split at asked <;> exact List.mem_of_find?_eq_some asked
  constructor
  · intro trusted link asked runs
    rw [runs, asked] at trusted
    obtain ⟨other, present, same, up⟩ := trusted link.name rfl
    have unique := List.inj_on_of_nodup_map network.unique present (inside asked) same
    rwa [unique] at up
  · intro up name detected
    cases runs : network.raises (detectionCommand hint) with
    | some error =>
        rw [runs] at detected
        cases error <;> cases detected
    | none =>
        rw [runs] at detected
        cases asked : network.asked hint with
        | none =>
            rw [asked] at detected
            cases detected
        | some link =>
            rw [asked] at detected
            cases detected
            exact ⟨link, inside asked, rfl, up link asked runs⟩

namespace TunnelDetection

theorem tun0_solid : ∀ char ∈ "tun0".toList, ¬ isSpace char ∧ char ≠ ':' := by
  have test : "tun0".toList.all (fun char => !isSpace char && char ≠ ':') = true := rfl
  simpa using test

/-- A tunnel link that is down. -/
def down : Link where
  index := 5
  name := "tun0"
  flags := ["POINTOPOINT", "MULTICAST", "NOARP"]
  mtu := 1500
  qdisc := "noop"
  state := "DOWN"
  mode := "DEFAULT"
  group := "default"
  rest := " qlen 500"
  address := "none"
  tunnel := true
  solid := tun0_solid
  named := by decide

/-- A host with this link alone. -/
def network : Network where
  links := [down]
  unique := by simp
  raises _ := none

end TunnelDetection

/-- A tunnel link that is down is detected, with its name as the hint and without one. -/
theorem detectTunInterface_down :
    ∃ network : Network, ∃ link ∈ network.links, "UP" ∉ link.flags ∧
      (∀ other ∈ network.links, other = link) ∧
      detectTunInterface network.run (some link.name) = .ok (some link.name) ∧
      detectTunInterface network.run none = .ok (some link.name) := by
  refine ⟨TunnelDetection.network, TunnelDetection.down, by simp [TunnelDetection.network], by decide, ?_, ?_, ?_⟩
  · intro other inside
    simpa [TunnelDetection.network] using inside
  · rw [detectTunInterface_eq]
    rfl
  · rw [detectTunInterface_eq]
    rfl

end CodaNode.Node
