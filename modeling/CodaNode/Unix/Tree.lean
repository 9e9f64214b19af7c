/-
Module: CodaNode.Unix.Tree
Layer: Unix (library)
Purpose: A tree of files, and where a path leads in it. A walk goes through directories, climbs at two dots and
  follows symbolic links up to a limit. Removing an entry makes a walk end at something missing, or does not
  change it; writing a regular file changes only the walks that end there.
Imports: none
Main exports: Inode, Tree, Rules, Spot, Rules.spot, Tree.without, Tree.put, Rules.spot_below, Rules.spot_without,
  Rules.spot_put, Rules.spot_entry
-/
namespace Unix

/-- A name in a directory, in bytes. -/
abbrev Name := List Nat

/-- Where an entry stands: the names on the way from the root. -/
abbrev Place := List Name

/-- What an entry is. A special file is a pipe, a socket or a device. -/
inductive Inode (κ : Type) where
  | regular (content : κ) (owner : Nat)
  | special (content : κ) (owner : Nat)
  | directory
  | link (target : List Nat) (owner : Nat)
deriving DecidableEq

/-- The entries by their places. -/
abbrev Tree (κ : Type) := Place → Option (Inode κ)

/-- What the system fixes: the directories that may be searched, the limits, and the working directory. -/
structure Rules where
  searchable : Place → Bool
  nameMax : Nat
  pathMax : Nat
  linkMax : Nat
  working : Place

/-- Where a path leads: to an entry that is no directory, to a directory, to an entry that is missing, beyond one
that is, through a file or through too many links; or it may not be walked, or is too long. -/
inductive Spot where
  | entry (place : Place)
  | directory
  | vacant (place : Place)
  | lost
  | twisted
  | barred
  | overlong
deriving DecidableEq

/-- An entry on the way is missing. -/
def Spot.missing : Spot → Bool
  | .vacant _ | .lost => true
  | _ => false

/-- The walk up to the next link: it has ended, or it goes on from another directory. -/
inductive Hop where
  | stop (spot : Spot)
  | jump (start : Place) (names : List Name)

/-- The names of a path. Behind a last slash only a directory is meant. -/
def names (path : List Nat) : List Name :=
  (path.splitOn 47).filter (· ≠ []) ++ if path.getLast? = some 47 then [[46]] else []

variable {κ : Type} (rules : Rules) (tree : Tree κ) (follow : Bool)

namespace Rules

/-- Where a path starts. -/
def start (dir : Place) (path : List Nat) : Place := if path.head? = some 47 then [] else dir

/-- The names of a path from a directory on, up to a link that has to be followed. -/
def hop (dir : Place) : List Name → Hop
  | [] => .stop .directory
  | name :: rest =>
      if rules.searchable dir = false then .stop .barred
      else if name = [46] then hop dir rest
      else if name = [46, 46] then hop dir.dropLast rest
      else if rules.nameMax < name.length then .stop .overlong
      else
        match tree (dir ++ [name]) with
        | none => .stop (if rest = [] then .vacant (dir ++ [name]) else .lost)
        | some .directory => hop (dir ++ [name]) rest
        | some (.link target _) =>
            if rest = [] ∧ follow = false then .stop (.entry (dir ++ [name]))
            else .jump (start dir target) (names target ++ rest)
        | some (.regular _ _) | some (.special _ _) =>
            .stop (if rest = [] then .entry (dir ++ [name]) else .twisted)

/-- The walk along some names, with the number of links that may still be followed. -/
def walk : Nat → Place → List Name → Spot
  | 0, dir, names =>
      match rules.hop tree follow dir names with
      | .stop spot => spot
      | .jump _ _ => .twisted
  | links + 1, dir, names =>
      match rules.hop tree follow dir names with
      | .stop spot => spot
      | .jump start names => walk links start names

/-- Where a path leads; the last link is followed or not. -/
def spot (path : List Nat) : Spot :=
  if rules.pathMax ≤ path.length then .overlong
  else rules.walk tree follow rules.linkMax (start rules.working path) (names path)

end Rules

/-- The tree without one entry. -/
def Tree.without (tree : Tree κ) (place : Place) : Tree κ := fun other => if other = place then none else tree other

/-- The tree with a regular file. -/
def Tree.put (tree : Tree κ) (place : Place) (content : κ) (owner : Nat) : Tree κ :=
  fun other => if other = place then some (.regular content owner) else tree other

@[simp] theorem Tree.without_self (place : Place) : tree.without place place = none := if_pos rfl

@[simp] theorem Tree.put_self (place : Place) (content : κ) (owner : Nat) :
    tree.put place content owner place = some (.regular content owner) := if_pos rfl

/-- The first tree has no entries but those of the second one. -/
def Below (smaller larger : Tree κ) : Prop := ∀ place inode, smaller place = some inode → larger place = some inode

theorem Below.trans {first second third : Tree κ} (lower : Below first second) (upper : Below second third) :
    Below first third := fun place inode found => upper place inode (lower place inode found)

variable {tree} in
theorem Tree.without_below (place : Place) : Below (tree.without place) tree := by
  intro other inode found
  unfold Tree.without at found
  split at found
  · cases found
  · exact found

variable {rules} {tree} {follow} {larger : Tree κ} {dir : Place} {links : Nat} {along : List Name}

namespace Rules

/-! ### Fewer entries -/

theorem hop_below (below : Below tree larger) (dir : Place) (names : List Name) :
    rules.hop tree follow dir names = rules.hop larger follow dir names ∨
      ∃ spot : Spot, rules.hop tree follow dir names = .stop spot ∧ spot.missing := by
  induction names generalizing dir with
  | nil => exact .inl rfl
  | cons name rest ih =>
      unfold hop
      split
      · exact .inl rfl
      split
      · exact ih dir
      split
      · exact ih dir.dropLast
      split
      · exact .inl rfl
      cases found : tree (dir ++ [name]) with
      | none =>
          right
          refine ⟨_, rfl, ?_⟩
          split <;> rfl
      | some inode =>
          rw [below _ _ found]
          cases inode with
          | directory => exact ih (dir ++ [name])
          | _ => exact .inl rfl

/-- In a smaller tree a walk ends at something missing, or as in the larger one. -/
theorem walk_below (below : Below tree larger) (links : Nat) (dir : Place) (names : List Name) :
    rules.walk tree follow links dir names = rules.walk larger follow links dir names ∨
      (rules.walk tree follow links dir names).missing := by
  induction links generalizing dir names with
  | zero =>
      unfold walk
      rcases hop_below below dir names with same | ⟨spot, ends, missing⟩
      · rw [same]
        exact .inl rfl
      · rw [ends]
        exact .inr missing
  | succ links ih =>
      unfold walk
      rcases hop_below below dir names with same | ⟨spot, ends, missing⟩
      · rw [same]
        cases rules.hop larger follow dir names with
        | stop spot => exact .inl rfl
        | jump start names => exact ih start names
      · rw [ends]
        exact .inr missing

theorem spot_below (below : Below tree larger) (path : List Nat) :
    rules.spot tree follow path = rules.spot larger follow path ∨ (rules.spot tree follow path).missing := by
  unfold spot
  split
  · exact .inl rfl
  · exact walk_below below _ _ _

/-! ### Where a walk ends -/

/-- What a walk may end at: an entry is there and no directory, and a vacant place is empty. -/
def Ends (tree : Tree κ) (follow : Bool) : Spot → Prop
  | .entry place =>
      (∃ content owner, tree place = some (.regular content owner) ∨ tree place = some (.special content owner)) ∨
        follow = false ∧ ∃ target owner, tree place = some (.link target owner)
  | .vacant place => tree place = none
  | _ => True

theorem hop_ends {spot : Spot} (stops : rules.hop tree follow dir along = .stop spot) : Ends tree follow spot := by
  induction along generalizing dir with
  | nil =>
      cases stops
      trivial
  | cons name rest ih =>
      unfold hop at stops
      split at stops
      · cases stops
        trivial
      split at stops
      · exact ih stops
      split at stops
      · exact ih stops
      split at stops
      · cases stops
        trivial
      split at stops
      · next found =>
        cases stops
        split
        · exact found
        · trivial
      · exact ih stops
      · next target owner found =>
        split at stops
        · next last =>
          cases stops
          exact .inr ⟨last.2, target, owner, found⟩
        · cases stops
      · next content owner found =>
        cases stops
        split
        · exact .inl ⟨content, owner, .inl found⟩
        · trivial
      · next content owner found =>
        cases stops
        split
        · exact .inl ⟨content, owner, .inr found⟩
        · trivial

theorem walk_ends (links : Nat) (dir : Place) (names : List Name) :
    Ends tree follow (rules.walk tree follow links dir names) := by
  induction links generalizing dir names with
  | zero =>
      unfold walk
      split
      · next stops => exact hop_ends stops
      · trivial
  | succ links ih =>
      unfold walk
      split
      · next stops => exact hop_ends stops
      · exact ih _ _

theorem spot_ends (path : List Nat) : Ends tree follow (rules.spot tree follow path) := by
  unfold spot
  split
  · trivial
  · exact walk_ends _ _ _

/-- An entry at the end of a walk is there. -/
theorem spot_entry {path : List Nat} {place : Place} (leads : rules.spot tree follow path = .entry place) :
    tree place ≠ none := by
  have ends := @spot_ends κ rules tree follow path
  rw [leads] at ends
  rcases ends with ⟨content, owner, found | found⟩ | ⟨-, target, owner, found⟩ <;> rw [found] <;> simp

/-! ### Links -/

theorem hop_follow (dir : Place) (names : List Name) :
    rules.hop tree true dir names = rules.hop tree false dir names ∨
      ∃ place, rules.hop tree false dir names = .stop (.entry place) := by
  induction names generalizing dir with
  | nil => exact .inl rfl
  | cons name rest ih =>
      unfold hop
      split
      · exact .inl rfl
      split
      · exact ih dir
      split
      · exact ih dir.dropLast
      split
      · exact .inl rfl
      cases found : tree (dir ++ [name]) with
      | none => exact .inl rfl
      | some inode =>
          cases inode with
          | directory => exact ih (dir ++ [name])
          | link target owner =>
              by_cases last : rest = []
              · exact .inr ⟨dir ++ [name], if_pos ⟨last, rfl⟩⟩
              · simp [last]
          | _ => exact .inl rfl

/-- Following the last link matters only where the path names an entry. -/
theorem spot_follow (path : List Nat) :
    rules.spot tree true path = rules.spot tree false path ∨ ∃ place, rules.spot tree false path = .entry place := by
  have walks (links : Nat) (dir : Place) (names : List Name) :
      rules.walk tree true links dir names = rules.walk tree false links dir names ∨
        ∃ place, rules.walk tree false links dir names = .entry place := by
    induction links generalizing dir names with
    | zero =>
        unfold walk
        rcases @hop_follow κ rules tree dir names with same | ⟨place, stops⟩
        · rw [same]
          exact .inl rfl
        · rw [stops]
          exact .inr ⟨place, rfl⟩
    | succ links ih =>
        unfold walk
        rcases @hop_follow κ rules tree dir names with same | ⟨place, stops⟩
        · rw [same]
          cases rules.hop tree false dir names with
          | stop spot => exact .inl rfl
          | jump start names => exact ih start names
        · rw [stops]
          exact .inr ⟨place, rfl⟩
  unfold spot
  split
  · exact .inl rfl
  · exact walks _ _ _

/-- When the entry that a path names is removed, the path leads to something missing. -/
theorem spot_without {path : List Nat} {place : Place} (leads : rules.spot tree false path = .entry place) :
    (rules.spot (tree.without place) follow path).missing := by
  have named : (rules.spot (tree.without place) false path).missing := by
    rcases spot_below (tree.without_below place) path with same | missing
    · rw [leads] at same
      exact absurd (tree.without_self place) (spot_entry same)
    · exact missing
  cases follow with
  | false => exact named
  | true =>
      rcases @spot_follow κ rules (tree.without place) path with same | ⟨other, entry⟩
      · rw [same]
        exact named
      · rw [entry] at named
        cases named

/-! ### A regular file more, or with another text -/

/-- Nothing stands at a place, or a regular file. -/
def Plain (tree : Tree κ) (place : Place) : Prop :=
  tree place = none ∨ ∃ content owner, tree place = some (.regular content owner)

theorem hop_put {place : Place} (plain : Plain tree place) (content : κ) (owner : Nat) (dir : Place)
    (names : List Name) :
    rules.hop (tree.put place content owner) follow dir names = rules.hop tree follow dir names ∨
      (rules.hop tree follow dir names = .stop (.vacant place) ∧
        rules.hop (tree.put place content owner) follow dir names = .stop (.entry place)) ∨
      rules.hop tree follow dir names = .stop .lost ∧
        rules.hop (tree.put place content owner) follow dir names = .stop .twisted := by
  induction names generalizing dir with
  | nil => exact .inl rfl
  | cons name rest ih =>
      unfold hop
      split
      · exact .inl rfl
      split
      · exact ih dir
      split
      · exact ih dir.dropLast
      split
      · exact .inl rfl
      by_cases here : dir ++ [name] = place
      · rw [here, Tree.put_self]
        rcases plain with absent | ⟨older, owner', present⟩
        · rw [absent]
          by_cases last : rest = []
          · simp [last]
          · simp [last]
        · rw [present]
          exact .inl rfl
      · have other : tree.put place content owner (dir ++ [name]) = tree (dir ++ [name]) := if_neg here
        rw [other]
        cases tree (dir ++ [name]) with
        | none => exact .inl rfl
        | some inode =>
            cases inode with
            | directory => exact ih (dir ++ [name])
            | _ => exact .inl rfl

/-- A walk in the tree with the file ends as before, or at the file where its place was vacant, or at the file
in front of the end of the path. -/
theorem spot_put {place : Place} (plain : Plain tree place) (content : κ) (owner : Nat) (path : List Nat) :
    rules.spot (tree.put place content owner) follow path = rules.spot tree follow path ∨
      (rules.spot tree follow path = .vacant place ∧
        rules.spot (tree.put place content owner) follow path = .entry place) ∨
      rules.spot tree follow path = .lost ∧ rules.spot (tree.put place content owner) follow path = .twisted := by
  have walks (links : Nat) (dir : Place) (names : List Name) :
      rules.walk (tree.put place content owner) follow links dir names = rules.walk tree follow links dir names ∨
        (rules.walk tree follow links dir names = .vacant place ∧
          rules.walk (tree.put place content owner) follow links dir names = .entry place) ∨
        rules.walk tree follow links dir names = .lost ∧
          rules.walk (tree.put place content owner) follow links dir names = .twisted := by
    induction links generalizing dir names with
    | zero =>
        unfold walk
        rcases hop_put plain content owner dir names with same | ⟨before, after⟩ | ⟨before, after⟩
        · rw [same]
          exact .inl rfl
        · rw [before, after]
          exact .inr (.inl ⟨rfl, rfl⟩)
        · rw [before, after]
          exact .inr (.inr ⟨rfl, rfl⟩)
    | succ links ih =>
        unfold walk
        rcases hop_put plain content owner dir names with same | ⟨before, after⟩ | ⟨before, after⟩
        · rw [same]
          cases rules.hop tree follow dir names with
          | stop spot => exact .inl rfl
          | jump start names => exact ih start names
        · rw [before, after]
          exact .inr (.inl ⟨rfl, rfl⟩)
        · rw [before, after]
          exact .inr (.inr ⟨rfl, rfl⟩)
  unfold spot
  split
  · exact .inl rfl
  · exact walks _ _ _

end Rules

end Unix
