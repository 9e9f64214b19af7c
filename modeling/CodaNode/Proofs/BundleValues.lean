/-
Module: CodaNode.Proofs.BundleValues
Layer: Proofs
Purpose: Which settings of a bundle survive `apply_node_bundle` on a reconnect. Every assignment puts the
  persisted values back into the unset fields, so a display name or an interface hint that the bundle
  leaves empty comes back from the disk when another assignment follows. An empty path, credential or list
  of probe targets is never assigned. Everything else a bundle specifies holds in the end.
Imports: CodaNode.Node.BundleRun, CodaNode.Node.Quiet
Main exports: specifiedBy, Unrestored, applyNodeBundle_values_iff
-/
import CodaNode.Node.BundleRun
import CodaNode.Node.Quiet

namespace CodaNode.Node

open Coroutine Coro
open Python (Json)

/-- The VPN block of a bundle. -/
def vpnBlock (bundle : List (String × Value)) : Option (List (String × Value)) :=
  match entry bundle "vpn" with
  | .dict vpn => some vpn
  | _ => none

/-- A text of the bundle, which may be empty. -/
def givenText (bundle : List (String × Value)) (key : String) : Option Value :=
  match Json.get bundle key with
  | some (.str text) => some (.str text)
  | _ => none

/-- The value a bundle specifies for a setting. A path or a credential that is no text, and an entry of the VPN
block of another type, specifies none; an empty text does. -/
def specifiedBy (bundle : List (String × Value)) : Field → Option Value
  | .qpuId => Json.get bundle "qpu_id"
  | .qpuDisplayName =>
      if (Json.get bundle "qpu_display_name").isSome ∨ (Json.get bundle "qpu_label").isSome then
        some (displayName bundle)
      else none
  | .nativeGateSet => Json.get bundle "native_gate_set"
  | .numQubits => (Json.get bundle "num_qubits").map number
  | .jwtPrivateKey => givenText bundle "jwt_private_key"
  | .jwtKeyId => givenText bundle "jwt_key_id"
  | .redisUrl => Json.get bundle "redis_url"
  | .webappUrl => Json.get bundle (webappKey bundle)
  | .connectPath => givenText bundle "connect_path"
  | .heartbeatPath => givenText bundle "heartbeat_path"
  | .webhookPath => givenText bundle "webhook_path"
  | .vpnRequired => (vpnBlock bundle).bind requiredEntry
  | .vpnInterfaceHint =>
      (vpnBlock bundle).bind fun vpn => if (Json.get vpn "interface_hint").isSome then hintEntry vpn else none
  | .vpnCheckIntervalSec => (vpnBlock bundle).bind fun vpn => (intervalEntry vpn).map number
  | .vpnProbeTargets => (vpnBlock bundle).bind fun vpn => (targetsEntry vpn).map .list
  | _ => none

/-- The same of any value. -/
def specified : Value → Field → Option Value
  | .dict bundle => specifiedBy bundle
  | _ => fun _ => none

/-- The VPN block has an entry behind the interface hint that is assigned. -/
def hintFollowed (bundle : Value) : Prop :=
  (specified bundle .vpnCheckIntervalSec).isSome ∨
    ∃ item items, specified bundle .vpnProbeTargets = some (.list (item :: items))

/-- The settings whose text a bundle may leave out. -/
def optionalTexts : List Field := [.jwtPrivateKey, .jwtKeyId, .connectPath, .heartbeatPath, .webhookPath]

/-- No setting of the bundle gives way to an older one: an unset display name, an unset hint with an assignment
behind it, an empty list of probe targets and an empty optional text find no other value. -/
structure Unrestored (bundle : Value) (settings : Settings) (persisted : Data) : Prop where
  displayName : ∀ value, specified bundle .qpuDisplayName = some value → isUnset value →
    ∀ older, persisted .qpuDisplayName = some older → older = value
  hint : ∀ value, specified bundle .vpnInterfaceHint = some value → isUnset value → hintFollowed bundle →
    ∀ older, persisted .vpnInterfaceHint = some older → older = value
  targets : specified bundle .vpnProbeTargets = some (.list []) →
    refill persisted .vpnProbeTargets (settings .vpnProbeTargets) = .list []
  texts : ∀ field ∈ optionalTexts, specified bundle field = some (.str "") →
    refill persisted field (settings field) = .str ""

namespace BundleValues

variable {bundle : List (String × Value)} {numQubits : Value} {persisted : Data} {field : Field}
  {value : Value}

/-! ### Where a value comes from -/

theorem mem_textAssignments {own : Field} :
    (field, value) ∈ textAssignments bundle own ↔
      ∃ text, textEntry bundle own.name = some text ∧ field = own ∧ value = .str text := by
  unfold textAssignments
  cases textEntry bundle own.name <;> simp

theorem mem_someAssignments {own : Field} {given : Option Value} :
    (field, value) ∈ someAssignments own given ↔ field = own ∧ given = some value := by
  cases given with
  | none => simp [someAssignments]
  | some found =>
      simp only [someAssignments, List.mem_singleton, Prod.mk.injEq, Option.some.injEq]
      exact and_congr_right fun _ => eq_comm

theorem mem_vpnAssignments {vpn : List (String × Value)} :
    (field, value) ∈ vpnAssignments vpn ↔
      (field = .vpnRequired ∧ requiredEntry vpn = some value) ∨
        (field = .vpnInterfaceHint ∧ hintEntry vpn = some value) ∨
          (field = .vpnCheckIntervalSec ∧ (intervalEntry vpn).map number = some value) ∨
            (field = .vpnProbeTargets ∧
              ∃ item items, targetsEntry vpn = some (item :: items) ∧ value = .list (item :: items)) := by
  unfold vpnAssignments
  rw [List.mem_append, List.mem_append, List.mem_append, mem_someAssignments, mem_someAssignments,
    mem_someAssignments]
  have targets : (field, value) ∈ targetsAssignments vpn ↔ field = .vpnProbeTargets ∧
      ∃ item items, targetsEntry vpn = some (item :: items) ∧ value = .list (item :: items) := by
    unfold targetsAssignments
    cases targetsEntry vpn with
    | none => simp
    | some items => cases items <;> simp
  rw [targets]

theorem mem_vpnBlockAssignments :
    (field, value) ∈ vpnBlockAssignments bundle ↔
      ∃ vpn, vpnBlock bundle = some vpn ∧ (field, value) ∈ vpnAssignments vpn := by
  unfold vpnBlockAssignments vpnBlock
  cases entry bundle "vpn" <;> simp

theorem entry_of_get {key : String} (given : Json.get bundle key = some value) : entry bundle key = value := by
  rw [entry, given, Option.getD_some]

theorem isUnset_text {key text : String} (found : textEntry bundle key = some text) :
    isUnset (.str text) = false := by
  unfold textEntry at found
  split at found
  · split at found
    · cases found
    · next some =>
      cases found
      simpa [isUnset] using some
  · cases found

/-- A text that is given is empty, or it is the entry the program takes. -/
theorem text_of_given {key : String} (given : givenText bundle key = some value) :
    (value = .str "" ∧ textEntry bundle key = none) ∨
      ∃ text, textEntry bundle key = some text ∧ value = .str text := by
  unfold givenText at given
  split at given
  · next text found =>
    cases given
    have same := entry_of_get found
    by_cases empty : text = ""
    · exact .inl ⟨by rw [empty], by rw [textEntry, same]; simp [empty]⟩
    · exact .inr ⟨text, by rw [textEntry, same]; simp [empty], rfl⟩
  · cases given

theorem isUnset_required {vpn : List (String × Value)} (found : requiredEntry vpn = some value) :
    isUnset value = false := by
  unfold requiredEntry at found
  split at found <;> cases found
  rfl

/-- The values that can be unset in a bundle. -/
def Delicate (field : Field) (value : Value) : Prop :=
  field = .qpuDisplayName ∨ field = .vpnInterfaceHint ∨ field = .vpnProbeTargets ∨
    (field ∈ optionalTexts ∧ value = .str "")

theorem given_of_specified (inside : field ∈ optionalTexts) (given : specifiedBy bundle field = some value) :
    givenText bundle field.name = some value := by
  simp only [optionalTexts, List.mem_cons, List.not_mem_nil, or_false] at inside
  rcases inside with rfl | rfl | rfl | rfl | rfl <;> exact given

/-- Every other setting of a bundle is assigned, to a value that is set, and to no other. -/
theorem specified_assigned (brings : Brings bundle numQubits) (robust : ¬ Delicate field value)
    (given : specifiedBy bundle field = some value) :
    isUnset value = false ∧ (field, value) ∈ bundleAssignments bundle numQubits ∧
      ∀ other, (field, other) ∈ bundleAssignments bundle numQubits → other = value := by
  have taken (inside : field ∈ optionalTexts) :
      ∃ text, textEntry bundle field.name = some text ∧ value = .str text := by
    rcases text_of_given (given_of_specified inside given) with ⟨empty, -⟩ | found
    · exact absurd (.inr (.inr (.inr ⟨inside, empty⟩))) robust
    · exact found
  simp only [bundleAssignments, identityAssignments, List.mem_append, List.mem_cons, Prod.mk.injEq,
    mem_textAssignments, mem_vpnBlockAssignments, mem_vpnAssignments, List.not_mem_nil, or_false]
  cases field with
  | qpuId =>
      rw [← entry_of_get given]
      exact ⟨brings.qpuId, by simp, by simp⟩
  | nativeGateSet =>
      rw [← entry_of_get given]
      exact ⟨brings.nativeGateSet, by simp, by simp⟩
  | redisUrl =>
      rw [← entry_of_get given]
      exact ⟨brings.redisUrl, by simp, by simp⟩
  | webappUrl =>
      rw [← entry_of_get given]
      exact ⟨brings.webappUrl, by simp, by simp⟩
  | numQubits =>
      obtain ⟨found, same, rfl⟩ := Option.map_eq_some_iff.mp given
      rw [← brings.given found same]
      exact ⟨brings.counted, by simp, by simp⟩
  | jwtPrivateKey =>
      obtain ⟨text, found, rfl⟩ := taken (show Field.jwtPrivateKey ∈ optionalTexts by decide)
      exact ⟨isUnset_text found, by simp [found], by simp [found]⟩
  | jwtKeyId =>
      obtain ⟨text, found, rfl⟩ := taken (show Field.jwtKeyId ∈ optionalTexts by decide)
      exact ⟨isUnset_text found, by simp [found], by simp [found]⟩
  | connectPath =>
      obtain ⟨text, found, rfl⟩ := taken (show Field.connectPath ∈ optionalTexts by decide)
      exact ⟨isUnset_text found, by simp [found], by simp [found]⟩
  | heartbeatPath =>
      obtain ⟨text, found, rfl⟩ := taken (show Field.heartbeatPath ∈ optionalTexts by decide)
      exact ⟨isUnset_text found, by simp [found], by simp [found]⟩
  | webhookPath =>
      obtain ⟨text, found, rfl⟩ := taken (show Field.webhookPath ∈ optionalTexts by decide)
      exact ⟨isUnset_text found, by simp [found], by simp [found]⟩
  | vpnRequired =>
      obtain ⟨vpn, block, found⟩ := Option.bind_eq_some_iff.mp given
      exact ⟨isUnset_required found, by simp [block, found], by simp [block, found]⟩
  | vpnCheckIntervalSec =>
      obtain ⟨vpn, block, mapped⟩ := Option.bind_eq_some_iff.mp given
      obtain ⟨interval, found, rfl⟩ := Option.map_eq_some_iff.mp mapped
      exact ⟨isUnset_number (intervalEntry_number found), by simp [block, found], by simp [block, found]⟩
  | qpuDisplayName => exact absurd (.inl rfl) robust
  | vpnInterfaceHint => exact absurd (.inr (.inl rfl)) robust
  | vpnProbeTargets => exact absurd (.inr (.inr (.inl rfl))) robust
  | _ => cases given

/-- A field with one value that is set has it in the end. -/
theorem valueAfter_of_mem {current : Value} {assignments : List (Field × Value)} (set : isUnset value = false)
    (unique : ∀ other, (field, other) ∈ assignments → other = value)
    (present : current = value ∨ (field, value) ∈ assignments) :
    valueAfter persisted field current assignments = value := by
  induction assignments generalizing current with
  | nil => simpa [valueAfter] using present
  | cons assignment rest ih =>
      obtain ⟨assigned, result⟩ := assignment
      rw [valueAfter]
      apply ih fun other inside => unique other (List.mem_cons_of_mem _ inside)
      by_cases same : field = assigned
      · rw [if_pos same]
        exact .inl (unique result (by rw [same]; exact List.mem_cons_self))
      · rw [if_neg same]
        rcases present with rfl | inside
        · exact .inl (refill_of_set set)
        · rcases List.mem_cons.mp inside with first | later
          · exact absurd (congrArg Prod.fst first) same
          · exact .inr later

/-! ### The fields whose value can be unset -/

theorem refill_eq_iff :
    refill persisted field value = value ↔
      (isUnset value → ∀ older, persisted field = some older → older = value) := by
  unfold refill
  cases persisted field with
  | none => simp
  | some older => by_cases unset : isUnset value = true <;> simp [unset]

theorem displayName_final {current : Value} :
    valueAfter persisted .qpuDisplayName current (bundleAssignments bundle numQubits) =
      refill persisted .qpuDisplayName (displayName bundle) := by
  have absent : ∀ assignment ∈ (Field.nativeGateSet, entry bundle "native_gate_set") ::
      (Field.numQubits, numQubits) :: (textAssignments bundle .jwtPrivateKey ++
        (textAssignments bundle .jwtKeyId ++
          ([(.redisUrl, entry bundle "redis_url"), (.webappUrl, entry bundle (webappKey bundle))] ++
            (textAssignments bundle .connectPath ++
              (textAssignments bundle .heartbeatPath ++ textAssignments bundle .webhookPath))))) ++
        vpnBlockAssignments bundle, assignment.1 ≠ .qpuDisplayName := by
    rintro ⟨assigned, result⟩ inside rfl
    simp [mem_textAssignments, mem_vpnBlockAssignments, mem_vpnAssignments] at inside
  have final := @valueAfter_of_absent _ (displayName bundle) persisted _ absent
  rw [if_neg (by simp)] at final
  exact final

/-- The assignments behind the hint. -/
def behindHint (vpn : List (String × Value)) : List (Field × Value) :=
  someAssignments .vpnCheckIntervalSec ((intervalEntry vpn).map number) ++ targetsAssignments vpn

theorem hint_final {current : Value} {vpn : List (String × Value)} (block : vpnBlock bundle = some vpn)
    (found : hintEntry vpn = some value) :
    valueAfter persisted .vpnInterfaceHint current (bundleAssignments bundle numQubits) =
      if behindHint vpn = [] then value else refill persisted .vpnInterfaceHint value := by
  have parts : bundleAssignments bundle numQubits =
      (identityAssignments bundle numQubits ++ someAssignments .vpnRequired (requiredEntry vpn)) ++
        (.vpnInterfaceHint, value) :: behindHint vpn := by
    have same : vpnBlockAssignments bundle = vpnAssignments vpn := by
      unfold vpnBlock at block
      unfold vpnBlockAssignments
      cases shape : entry bundle "vpn" with
      | dict inner =>
          rw [shape] at block
          cases block
          rfl
      | _ =>
          rw [shape] at block
          cases block
    rw [bundleAssignments, same, vpnAssignments, found]
    simp [someAssignments, behindHint]
  have absent : ∀ assignment ∈ behindHint vpn, assignment.1 ≠ .vpnInterfaceHint := by
    rintro ⟨assigned, result⟩ inside rfl
    have inner : (Field.vpnInterfaceHint, result) ∈ targetsAssignments vpn := by
      simpa [behindHint, mem_someAssignments] using inside
    unfold targetsAssignments at inner
    split at inner <;> simp at inner
  rw [parts, valueAfter_append, valueAfter, if_pos rfl, valueAfter_of_absent absent]

theorem behindHint_iff {vpn : List (String × Value)} (block : vpnBlock bundle = some vpn) :
    behindHint vpn ≠ [] ↔ hintFollowed (.dict bundle) := by
  have interval : specified (.dict bundle) .vpnCheckIntervalSec = (intervalEntry vpn).map number := by
    change (vpnBlock bundle).bind _ = _
    rw [block, Option.bind_some]
  have targets : specified (.dict bundle) .vpnProbeTargets = (targetsEntry vpn).map .list := by
    change (vpnBlock bundle).bind _ = _
    rw [block, Option.bind_some]
  unfold behindHint hintFollowed someAssignments targetsAssignments
  rw [interval, targets]
  cases intervalEntry vpn with
  | some interval => simp
  | none =>
      cases targetsEntry vpn with
      | none => simp
      | some items => cases items <;> simp

theorem targets_final {current : Value} {vpn : List (String × Value)} (block : vpnBlock bundle = some vpn)
    {items : List Value} (found : targetsEntry vpn = some items) :
    valueAfter persisted .vpnProbeTargets current (bundleAssignments bundle numQubits) =
      if items = [] then refill persisted .vpnProbeTargets current else .list items := by
  cases items with
  | nil =>
      have absent : ∀ assignment ∈ bundleAssignments bundle numQubits, assignment.1 ≠ .vpnProbeTargets := by
        rintro ⟨assigned, result⟩ inside rfl
        simp [bundleAssignments, identityAssignments, mem_textAssignments, mem_vpnBlockAssignments,
          mem_vpnAssignments, block, found] at inside
      rw [valueAfter_of_absent absent, if_neg (by simp [bundleAssignments, identityAssignments]), if_pos rfl]
  | cons item items =>
      rw [if_neg (by simp)]
      apply valueAfter_of_mem rfl
      · intro other inside
        simpa [bundleAssignments, identityAssignments, mem_textAssignments, mem_vpnBlockAssignments,
          mem_vpnAssignments, block, found] using inside
      · right
        simp [bundleAssignments, identityAssignments, mem_textAssignments, mem_vpnBlockAssignments,
          mem_vpnAssignments, block, found]

/-- An optional text that the program does not take is only merged. -/
theorem text_final {current : Value} (inside : field ∈ optionalTexts)
    (absent : textEntry bundle field.name = none) :
    valueAfter persisted field current (bundleAssignments bundle numQubits) =
      refill persisted field current := by
  have unassigned : ∀ assignment ∈ bundleAssignments bundle numQubits, assignment.1 ≠ field := by
    rintro ⟨assigned, result⟩ listed rfl
    simp only [optionalTexts, List.mem_cons, List.not_mem_nil, or_false] at inside
    rcases inside with rfl | rfl | rfl | rfl | rfl <;>
      simp [bundleAssignments, identityAssignments, mem_textAssignments, mem_vpnBlockAssignments,
        mem_vpnAssignments, absent] at listed
  rw [valueAfter_of_absent unassigned, if_neg (by simp [bundleAssignments, identityAssignments])]

/-- On a reconnect the settings of a bundle hold in the end exactly when none of them is restored. -/
theorem values_iff {files : Files} {settings after : Settings} (brings : Brings bundle numQubits)
    (run : Run files persisted settings (bundleAssignments bundle numQubits) after) :
    (∀ field value, specifiedBy bundle field = some value → after field = value) ↔
      Unrestored (.dict bundle) settings persisted := by
  have final {field : Field} (tracked : field.Tracked) :
      after field = valueAfter persisted field (settings field) (bundleAssignments bundle numQubits) :=
    run.assigns.final tracked
  have tracked {field : Field} {value : Value} (given : specifiedBy bundle field = some value) :
      field.Tracked := by
    constructor <;> rintro rfl <;> cases given
  constructor
  · intro holds
    constructor
    · intro value given
      have same := holds .qpuDisplayName value given
      rw [final (by decide), displayName_final] at same
      have named : displayName bundle = value := by
        change (if _ then some (displayName bundle) else none) = some value at given
        split at given <;> cases given
        rfl
      rw [named] at same
      exact refill_eq_iff.mp same
    · intro value given unset followed
      have same := holds .vpnInterfaceHint value given
      obtain ⟨vpn, block, found⟩ := Option.bind_eq_some_iff.mp given
      have hint : hintEntry vpn = some value := by
        split at found
        · exact found
        · cases found
      rw [final (by decide), hint_final block hint, if_neg ((behindHint_iff block).mpr followed)] at same
      exact refill_eq_iff.mp same unset
    · intro given
      have same := holds .vpnProbeTargets (.list []) given
      obtain ⟨vpn, block, mapped⟩ := Option.bind_eq_some_iff.mp given
      obtain ⟨items, found, empty⟩ := Option.map_eq_some_iff.mp mapped
      cases empty
      rw [final (by decide), targets_final block found, if_pos rfl] at same
      exact same
    · intro field inside given
      have same := holds field (.str "") given
      rcases text_of_given (given_of_specified inside given) with ⟨-, absent⟩ | ⟨text, found, empty⟩
      · rw [final (tracked given), text_final inside absent] at same
        exact same
      · cases empty
        cases isUnset_text found
  · intro unrestored field value given
    rw [final (tracked given)]
    by_cases delicate : Delicate field value
    · rcases delicate with rfl | rfl | rfl | ⟨optional, rfl⟩
      · have named : displayName bundle = value := by
          change (if _ then some (displayName bundle) else none) = some value at given
          split at given <;> cases given
          rfl
        rw [displayName_final, named]
        exact refill_eq_iff.mpr (unrestored.displayName value given)
      · obtain ⟨vpn, block, found⟩ := Option.bind_eq_some_iff.mp given
        have hint : hintEntry vpn = some value := by
          split at found
          · exact found
          · cases found
        rw [hint_final block hint]
        split
        · rfl
        · next behind =>
          apply refill_eq_iff.mpr
          intro unset
          exact unrestored.hint value given unset ((behindHint_iff block).mp behind)
      · obtain ⟨vpn, block, mapped⟩ := Option.bind_eq_some_iff.mp given
        obtain ⟨items, found, rfl⟩ := Option.map_eq_some_iff.mp mapped
        rw [targets_final block found]
        split
        · next empty =>
          subst empty
          exact unrestored.targets given
        · rfl
      · rcases text_of_given (given_of_specified optional given) with ⟨-, absent⟩ | ⟨text, found, empty⟩
        · rw [text_final optional absent]
          exact unrestored.texts field optional given
        · cases empty
          cases isUnset_text found
    · obtain ⟨set, inside, unique⟩ := specified_assigned brings delicate given
      exact valueAfter_of_mem set unique (.inr inside)

end BundleValues

/-- The settings of the bundle hold, and the config that is persisted of them records them. -/
structure Honoured (bundle : Value) (settings : Settings) : Prop where
  held : ∀ field value, specified bundle field = some value → settings field = value
  recorded : ∀ field ∈ Field.persisted, ∀ value, specified bundle field = some value →
    Json.get (persistedEntries settings) field.name = some value

theorem honoured_iff {bundle : Value} {settings : Settings} :
    Honoured bundle settings ↔ ∀ field value, specified bundle field = some value → settings field = value := by
  constructor
  · intro honoured
    exact honoured.held
  · intro held
    refine ⟨held, ?_⟩
    intro field inside value given
    rw [get_persistedEntries settings field inside, held field value given]

/-- `apply_node_bundle` has assigned the fields of the bundle. -/
def Applied (runtime : Runtime) (bundle : Value) (persisted : Data) (before after : Settings) : Prop :=
  ∃ files profile, loadPersistedRuntimeConfig runtime files = .ok persisted ∧
    applyFields runtime files bundle before = .ok profile after

section

variable {site : Site} {bundle : Value} {persisted : Data} {before : Settings}

/-- In front of the assignments. -/
def Unapplied (site : Site) (persisted : Data) (before : Settings) (world : World) : Prop :=
  world.settings = before ∧ loadPersistedRuntimeConfig site.runtime world.files = .ok persisted

theorem unapplied_keeps : (nodeMachine site).Keeps (Unapplied site persisted before) := by
  intro world after move here
  exact ⟨move.settings.trans here.1, move.loaded.trans here.2⟩

theorem applyNodeBundle_applied (fuel : Nat) :
    Triple (nodeMachine site) () (fun _ => True) (Unapplied site persisted before) (applyNodeBundle fuel bundle)
      (fun _ world => Applied site.runtime bundle persisted before world.settings) (fun _ _ => True) := by
  apply (applyFields_triple unapplied_keeps bundle).bind
  intro profile world last rest applied leads
  obtain ⟨start, ⟨rfl, loaded⟩, applied⟩ := applied
  exact installProfile_triple fuel profile (Applied site.runtime bundle persisted start.settings)
    ⟨start.files, profile, loaded, applied⟩ leads

end

/-- After a reconnect on which a bundle was applied, its settings hold exactly when none of them gives way
to an older one. -/
theorem applyNodeBundle_values_iff (site : Site) (documented : site.runtime.Documented) (fuel : Nat)
    (bundle : Value) (world last : World) (persisted : Data)
    (reconnect : truthy (world.settings .nodeToken) = false)
    (loaded : loadPersistedRuntimeConfig site.runtime world.files = .ok persisted)
    (succeeds : Leads (nodeMachine site) () world (applyNodeBundle fuel bundle) last (.ret ())) :
    Honoured bundle last.settings ↔ Unrestored bundle world.settings persisted := by
  have applied : Applied site.runtime bundle persisted world.settings last.settings :=
    (applyNodeBundle_applied fuel ⟨rfl, loaded⟩ succeeds).2.1 () rfl
  obtain ⟨files, profile, loaded, runs⟩ := applied
  rw [honoured_iff]
  cases bundle with
  | dict bundle =>
      obtain ⟨numQubits, brings, run⟩ := applyFields_run documented loaded reconnect runs
      exact BundleValues.values_iff brings run
  | _ => cases runs

namespace BundleValues

/-- A persisted config with an interface hint. -/
def files : Files :=
  Files.put (fun _ => none) persistedConfigPath ⟨some "\x7b\"vpn_interface_hint\": \"tun9\"\x7d", ownerOnly⟩

/-- A node with credentials and without a token. -/
def settings : Settings :=
  Settings.set (Settings.set Field.default .jwtPrivateKey (.str "key")) .jwtKeyId (.str "id")

/-- A bundle in HTTPS mode with the hint given. -/
def bundle (hint : Value) : Value :=
  .dict [("qpu_id", .str "qpu"), ("qpu_display_name", .str "QPU"), ("native_gate_set", .str "cz"),
    ("num_qubits", .int 5), ("redis_url", .str "redis://host"), ("webapp_url", .str "https://host"),
    ("vpn", .dict [("required", .bool false), ("interface_hint", hint), ("check_interval_sec", .int 10)])]

def site : Site where
  runtime := .strict
  machineFingerprint := "machine"

def world : World := { settings := settings, files := files }

/-- The settings behind the assignments. -/
def applied (hint : Value) : Except Failure (Option String) × World :=
  world.run fun files => applyFields site.runtime files (bundle hint)

theorem applied_leads {hint : Value} (installs : (applied hint).1 = .ok none) (fuel : Nat) :
    Leads (nodeMachine site) () world (applyNodeBundle fuel (bundle hint)) (applied hint).2 (.ret ()) := by
  have performed : (nodeMachine site).perform () world (.applyFields (bundle hint)) (.ok none)
      (applied hint).2 := Performs.applied installs
  have start : Leads (nodeMachine site) () world (applyNodeBundle fuel (bundle hint)) world
      (applyNodeBundle fuel (bundle hint)) := .refl
  exact .call start performed

/-- What is on the disk. -/
def persisted : Data := ((loadPersistedRuntimeConfig site.runtime world.files).toOption).getD fun _ => none

theorem loaded : loadPersistedRuntimeConfig site.runtime world.files = .ok persisted := by
  have some : (loadPersistedRuntimeConfig site.runtime world.files).toOption.isSome := by decide +kernel
  unfold persisted
  cases read : loadPersistedRuntimeConfig site.runtime world.files with
  | ok data => rfl
  | error failure =>
      rw [read] at some
      cases some

/-- The outcome of the assignments, as far as the hint goes. -/
def installed (hint : Value) : Option Value :=
  match applied hint with
  | (.ok none, world) => some (world.settings .vpnInterfaceHint)
  | _ => none

theorem installs_of_installed {hint value : Value} (found : installed hint = some value) :
    (applied hint).1 = .ok none ∧ (applied hint).2.settings .vpnInterfaceHint = value := by
  unfold installed at found
  split at found
  · next same =>
    cases found
    rw [same]
    exact ⟨rfl, rfl⟩
  · cases found

end BundleValues

/-- A hint that is set holds. -/
theorem applyNodeBundle_values_set :
    Honoured (BundleValues.bundle (.str "tun0")) (BundleValues.applied (.str "tun0")).2.settings ↔
      Unrestored (BundleValues.bundle (.str "tun0")) BundleValues.world.settings BundleValues.persisted := by
  have installs : (BundleValues.applied (.str "tun0")).1 = .ok none :=
    (BundleValues.installs_of_installed
      (show BundleValues.installed (.str "tun0") = some (.str "tun0") by decide +kernel)).1
  exact applyNodeBundle_values_iff BundleValues.site Runtime.strict_documented 0 _ BundleValues.world _
    BundleValues.persisted (by decide) BundleValues.loaded (BundleValues.applied_leads installs 0)

/-- The bundle says that there is no hint, and the old hint is back when the check interval is assigned. -/
theorem applyNodeBundle_restores :
    ∃ (site : Site) (fuel : Nat) (bundle : Value) (world last : World) (persisted : Data),
      site.runtime.Documented ∧ truthy (world.settings .nodeToken) = false ∧
      loadPersistedRuntimeConfig site.runtime world.files = .ok persisted ∧
      Leads (nodeMachine site) () world (applyNodeBundle fuel bundle) last (.ret ()) ∧
      specified bundle .vpnInterfaceHint = some .null ∧ last.settings .vpnInterfaceHint = .str "tun9" ∧
      ¬ Honoured bundle last.settings := by
  obtain ⟨installs, hint⟩ := BundleValues.installs_of_installed
    (show BundleValues.installed .null = some (.str "tun9") by decide +kernel)
  have given : specified (BundleValues.bundle .null) .vpnInterfaceHint = some .null := by decide +kernel
  refine ⟨BundleValues.site, 0, BundleValues.bundle .null, BundleValues.world, _, BundleValues.persisted,
    Runtime.strict_documented, by decide, BundleValues.loaded, BundleValues.applied_leads installs 0, given,
    hint, ?_⟩
  intro honoured
  have same := honoured.held .vpnInterfaceHint .null given
  rw [hint] at same
  cases same

end CodaNode.Node
