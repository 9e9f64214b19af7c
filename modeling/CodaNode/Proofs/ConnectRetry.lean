/-
Module: CodaNode.Proofs.ConnectRetry
Layer: Proofs
Purpose: How a connect request ends. It does what its description promises unless the first answer that counts is a 2xx
  one whose body is no JSON object, or a wait between two attempts is no double.
Imports: CodaNode.Node.PostConnect
Main exports: ConnectSettled, postConnect_settled_iff
-/
import CodaNode.Node.PostConnect
import Mathlib.Order.Basic

namespace CodaNode.Node

open Python (Json)

/-- The attempts with these answers, from the first one on. -/
def attemptsOf (answers : Nat → ConnectAnswer) (number : Nat) : List Attempt :=
  (List.range' 1 number).map fun attempt => (answers attempt).attempt

/-- Before the attempt behind `index` others, every attempt got a 5xx answer or none. -/
def Repeated (answers : Nat → ConnectAnswer) (index : Nat) : Prop :=
  ∀ attempt, 1 ≤ attempt → attempt ≤ index → (answers attempt).transient = true

/-- A request returns the JSON object of the first 2xx answer, or raises `NodeError`: at once for another status below
500, and otherwise when all attempts have been made. -/
inductive ConnectSettled (answers : Nat → ConnectAnswer) (maxRetries : Int) :
    List Attempt × Except Failure Value → Prop where
  | returned {index status : Nat} {text message : String} {entries : List (String × Value)}
      (allowed : index < maxRetries.toNat) (repeated : Repeated answers index)
      (answer : answers (index + 1) = .response status text message (.ok (.dict entries)))
      (success : 200 ≤ status ∧ status ≤ 299) :
      ConnectSettled answers maxRetries (attemptsOf answers (index + 1), .ok (.dict entries))
  | refused {index status : Nat} {text message error : String} {body : Except String Value}
      (allowed : index < maxRetries.toNat) (repeated : Repeated answers index)
      (answer : answers (index + 1) = .response status text message body)
      (failure : ¬ (200 ≤ status ∧ status ≤ 299) ∧ status < 500) :
      ConnectSettled answers maxRetries (attemptsOf answers (index + 1), .error (.connectFailed error))
  | exhausted {error : String} (repeated : Repeated answers maxRetries.toNat) :
      ConnectSettled answers maxRetries (attemptsOf answers maxRetries.toNat, .error (.connectFailed error))

namespace ConnectRetry

variable {answers : Nat → ConnectAnswer} {maxRetries : Int}

/-- The attempts from this one on. -/
abbrev attemptsFrom (answers : Nat → ConnectAnswer) (maxRetries : Int) (left attempt : Nat) (last : String) :
    List Attempt × Except Failure Value :=
  attempts (fun number => (answers number).attempt) maxRetries left attempt last

theorem connectDelay_ok {attempt : Nat} (bounded : attempt ≤ 1024) :
    ∃ delay, connectDelay attempt = .ok delay := by
  have small : attempt - 1 < 1024 := by omega
  unfold connectDelay
  rw [if_pos ((Nat.pow_lt_pow_iff_right (by decide)).mpr small)]
  exact ⟨_, rfl⟩

theorem connectDelay_error {attempt : Nat} (large : ¬ attempt ≤ 1024) :
    ∃ message, connectDelay attempt = .error (.other message) := by
  have big : ¬ attempt - 1 < 1024 := by omega
  unfold connectDelay
  rw [if_neg fun less => big ((Nat.pow_lt_pow_iff_right (by decide)).mp less)]
  exact ⟨_, rfl⟩

/-- An answer after which the request is repeated. -/
theorem attemptsFrom_transient {attempt : Nat} (left : Nat) (last : String) (transient : (answers attempt).transient = true) :
    ∃ message, attemptsFrom answers maxRetries (left + 1) attempt last =
      pauseConnect maxRetries attempt (answers attempt).attempt
        (attemptsFrom answers maxRetries left (attempt + 1) message) := by
  unfold attemptsFrom
  rw [attempts]
  cases answer : answers attempt with
  | transport message => exact ⟨message, rfl⟩
  | response status text message body =>
      rw [answer] at transient
      have large : 500 ≤ status := of_decide_eq_true transient
      have other : ¬ (200 ≤ status ∧ status ≤ 299) := by omega
      refine ⟨message, ?_⟩
      simp only [ConnectAnswer.attempt, if_neg other, if_neg (Nat.not_lt.mpr large)]

/-- A repeated attempt whose wait can be computed, or which is the last one. -/
theorem pause_ok {attempt : Nat} {made : Attempt} {later : List Attempt × Except Failure Value}
    (bounded : attempt ≤ 1024 ∨ maxRetries ≤ attempt) :
    pauseConnect maxRetries attempt made later = (made :: later.1, later.2) := by
  unfold pauseConnect
  split
  · rename_i more
    obtain ⟨delay, computed⟩ := connectDelay_ok (show attempt ≤ 1024 by omega)
    rw [computed]
  · rfl

/-- A repeated attempt whose wait cannot be computed. -/
theorem pause_error {attempt : Nat} {made : Attempt} {later : List Attempt × Except Failure Value}
    (large : ¬ attempt ≤ 1024) (more : attempt < maxRetries) :
    ∃ message, (pauseConnect maxRetries attempt made later).2 = .error (.other message) := by
  obtain ⟨message, failed⟩ := connectDelay_error large
  refine ⟨message, ?_⟩
  unfold pauseConnect
  rw [if_pos more, failed]

/-- The loop behind repeated attempts. -/
theorem attemptsFrom_repeated (number : Nat) :
    ∀ {left attempt : Nat} {last : String},
      (∀ later, attempt ≤ later → later < attempt + number →
        (answers later).transient = true ∧ (later ≤ 1024 ∨ maxRetries ≤ later)) →
      ∃ message, attemptsFrom answers maxRetries (number + left) attempt last =
        ((List.range' attempt number).map (fun later => (answers later).attempt) ++
            (attemptsFrom answers maxRetries left (attempt + number) message).1,
          (attemptsFrom answers maxRetries left (attempt + number) message).2) := by
  induction number with
  | zero =>
      intro left attempt last _
      exact ⟨last, by simp⟩
  | succ number inductionHypothesis =>
      intro left attempt last repeated
      obtain ⟨transient, bounded⟩ := repeated attempt (Nat.le_refl _) (by omega)
      obtain ⟨message, first⟩ := @attemptsFrom_transient answers maxRetries attempt (number + left) last transient
      obtain ⟨message', rest⟩ := @inductionHypothesis left (attempt + 1) message
        fun later behind before => repeated later (by omega) (by omega)
      refine ⟨message', ?_⟩
      rw [Nat.add_right_comm, first, pause_ok bounded, rest, List.range'_succ, Nat.add_assoc, Nat.add_comm 1]
      rfl

/-- The whole loop, up to the attempt behind `index` repeated ones. -/
theorem postConnectWith_repeated {index left : Nat} (enough : maxRetries.toNat = index + left)
    (repeated : Repeated answers index) (bounded : index ≤ 1024 ∨ left = 0 ∧ index ≤ 1025) :
    ∃ message, postConnectWith (fun number => (answers number).attempt) maxRetries =
      (attemptsOf answers index ++ (attemptsFrom answers maxRetries left (index + 1) message).1,
        (attemptsFrom answers maxRetries left (index + 1) message).2) := by
  unfold postConnectWith
  rw [enough, Nat.add_comm index 1]
  apply attemptsFrom_repeated index
  intro later behind before
  exact ⟨repeated later behind (by omega), by omega⟩

/-- When the wait behind the attempt 1025 is needed, its exception leaves the loop. -/
theorem postConnectWith_overflow (more : 1025 < maxRetries) (repeated : Repeated answers 1025) :
    ∃ message, (postConnectWith (fun number => (answers number).attempt) maxRetries).2 =
      .error (.other message) := by
  obtain ⟨left, enough⟩ : ∃ left, maxRetries.toNat = 1024 + (left + 1) := ⟨maxRetries.toNat - 1025, by omega⟩
  obtain ⟨last, run⟩ := postConnectWith_repeated enough
    (fun attempt first before => repeated attempt first (by omega)) (.inl (Nat.le_refl _))
  obtain ⟨message, next⟩ := @attemptsFrom_transient answers maxRetries 1025 left last
    (repeated 1025 (by decide) (Nat.le_refl _))
  rw [run, next]
  exact pause_error (by decide) more

theorem attemptsOf_succ (index : Nat) :
    attemptsOf answers index ++ [(answers (index + 1)).attempt] = attemptsOf answers (index + 1) := by
  unfold attemptsOf
  rw [List.range'_1_concat, List.map_append, Nat.add_comm 1]
  rfl

/-- The first answer that is not repeated. -/
theorem exists_first {number : Nat} (varied : ¬ Repeated answers number) :
    ∃ index < number, Repeated answers index ∧ (answers (index + 1)).transient = false := by
  induction number with
  | zero => exact absurd (fun attempt first before => by omega) varied
  | succ number inductionHypothesis =>
      by_cases repeated : Repeated answers number
      · refine ⟨number, Nat.lt_succ_self number, repeated, ?_⟩
        apply Bool.eq_false_iff.mpr
        intro transient
        apply varied
        intro attempt first before
        by_cases last : attempt = number + 1
        · rw [last]
          exact transient
        · exact repeated attempt first (by omega)
      · obtain ⟨index, less, before, final⟩ := inductionHypothesis repeated
        exact ⟨index, Nat.lt_succ_of_lt less, before, final⟩

/-- There is only one such answer. -/
theorem first_unique {index other : Nat} (repeated : Repeated answers index)
    (final : (answers (index + 1)).transient = false) (repeated' : Repeated answers other)
    (final' : (answers (other + 1)).transient = false) : index = other := by
  apply Nat.le_antisymm
  · apply Nat.not_lt.mp
    intro less
    rw [repeated (other + 1) (by omega) (by omega)] at final'
    cases final'
  · apply Nat.not_lt.mp
    intro less
    rw [repeated' (index + 1) (by omega) (by omega)] at final
    cases final

theorem not_transient {status : Nat} {text message : String} {body : Except String Value}
    (success : 200 ≤ status ∧ status ≤ 299) :
    (ConnectAnswer.response status text message body).transient = false := by
  apply decide_eq_false
  omega

/-- What becomes of a request whose first answer that is not repeated comes behind `index` others. -/
theorem postConnectWith_final {index : Nat} (allowed : index < maxRetries.toNat) (bounded : index ≤ 1024)
    (repeated : Repeated answers index) (final : (answers (index + 1)).transient = false) :
    ∃ status text message body, answers (index + 1) = .response status text message body ∧ status < 500 ∧
      postConnectWith (fun attempt => (answers attempt).attempt) maxRetries =
        (attemptsOf answers (index + 1),
          if 200 ≤ status ∧ status ≤ 299 then body.mapError Failure.other
          else .error (.connectFailed s!"Node request failed ({status}): {Python.take text 400}")) := by
  obtain ⟨left, enough⟩ : ∃ left, maxRetries.toNat = index + (left + 1) := ⟨maxRetries.toNat - index - 1, by omega⟩
  obtain ⟨last, run⟩ := postConnectWith_repeated enough repeated (.inl bounded)
  rw [run, ← attemptsOf_succ]
  unfold attemptsFrom
  rw [attempts]
  cases answer : answers (index + 1) with
  | transport message =>
      rw [answer] at final
      cases final
  | response status text message body =>
      rw [answer] at final
      have small : status < 500 := Nat.not_le.mp (of_decide_eq_false final)
      refine ⟨status, text, message, body, rfl, small, ?_⟩
      by_cases success : 200 ≤ status ∧ status ≤ 299
      · cases body with
        | ok value => simp only [ConnectAnswer.attempt, if_pos success, Except.mapError]
        | error message => simp only [ConnectAnswer.attempt, if_pos success, Except.mapError]
      · simp only [ConnectAnswer.attempt, if_neg success, if_pos small]

end ConnectRetry

open ConnectRetry

/-- A connect request does what it promises exactly if the first answer that is neither 5xx nor missing is, when it is
a 2xx one, a JSON object, and no more than 1025 attempts in a row are repeated. -/
theorem postConnect_settled_iff (answers : Nat → ConnectAnswer) (maxRetries : Int) :
    ConnectSettled answers maxRetries (postConnectWith (fun attempt => (answers attempt).attempt) maxRetries) ↔
      (maxRetries ≤ 1025 ∨ ¬ Repeated answers 1025) ∧
        ∀ index status text message body, index < maxRetries.toNat → Repeated answers index →
          answers (index + 1) = .response status text message body → 200 ≤ status ∧ status ≤ 299 →
            ∃ entries, body = .ok (.dict entries) := by
  by_cases overflows : 1025 < maxRetries ∧ Repeated answers 1025
  · obtain ⟨more, repeated⟩ := overflows
    obtain ⟨message, raised⟩ := postConnectWith_overflow more repeated
    refine iff_of_false (fun settled => ?_) fun condition => ?_
    · generalize postConnectWith (fun attempt => (answers attempt).attempt) maxRetries = run at raised settled
      cases settled <;> cases raised
    · rcases condition.1 with few | varied
      · omega
      · exact varied repeated
  · have computable : maxRetries ≤ 1025 ∨ ¬ Repeated answers 1025 := by
      by_cases few : maxRetries ≤ 1025
      · exact .inl few
      · exact .inr fun repeated => overflows ⟨by omega, repeated⟩
    rw [and_iff_right computable]
    by_cases all : Repeated answers maxRetries.toNat
    · have few : maxRetries.toNat ≤ 1025 := by
        apply Nat.not_lt.mp
        intro more
        rcases computable with small | varied
        · omega
        · exact varied fun attempt first before => all attempt first (by omega)
      obtain ⟨message, run⟩ := postConnectWith_repeated (Nat.add_zero _).symm all (.inr ⟨rfl, few⟩)
      refine iff_of_true ?_ ?_
      · rw [run]
        unfold attemptsFrom
        rw [attempts, List.append_nil]
        exact .exhausted all
      · intro index status text message body allowed _ answer success
        have transient := all (index + 1) (by omega) (by omega)
        rw [answer, not_transient success] at transient
        cases transient
    · obtain ⟨index, allowed, repeated, final⟩ := exists_first all
      have bounded : index ≤ 1024 := by
        apply Nat.not_lt.mp
        intro more
        rcases computable with small | varied
        · omega
        · exact varied fun attempt first before => repeated attempt first (by omega)
      obtain ⟨status, text, message, body, answer, small, run⟩ :=
        postConnectWith_final allowed bounded repeated final
      rw [run]
      by_cases success : 200 ≤ status ∧ status ≤ 299
      · rw [if_pos success]
        constructor
        · intro settled
          have object : ∃ entries, body = .ok (.dict entries) := by
            generalize same : (attemptsOf answers (index + 1), body.mapError Failure.other) = run' at settled
            cases body with
            | error message => cases settled <;> cases (Prod.mk.inj same).2
            | ok value =>
                cases settled with
                | returned =>
                    cases (Prod.mk.inj same).2
                    exact ⟨_, rfl⟩
                | refused => cases (Prod.mk.inj same).2
                | exhausted => cases (Prod.mk.inj same).2
          intro other status' text' message' body' _ repeated' answer' success'
          have final' : (answers (other + 1)).transient = false := by
            rw [answer']
            exact not_transient success'
          cases first_unique repeated final repeated' final'
          rw [answer] at answer'
          cases answer'
          exact object
        · intro objects
          obtain ⟨entries, rfl⟩ := objects index status text message body allowed repeated answer success
          exact .returned allowed repeated answer success
      · rw [if_neg success]
        refine iff_of_true (.refused allowed repeated answer ⟨success, small⟩) ?_
        intro other status' text' message' body' _ repeated' answer' success'
        have final' : (answers (other + 1)).transient = false := by
          rw [answer']
          exact not_transient success'
        cases first_unique repeated final repeated' final'
        rw [answer] at answer'
        cases answer'
        exact absurd success' success

/-- An endpoint that answers with a list: it is returned. -/
theorem postConnect_not_settled :
    ¬ ∀ (answers : Nat → ConnectAnswer) (maxRetries : Int),
      ConnectSettled answers maxRetries
        (postConnectWith (fun attempt => (answers attempt).attempt) maxRetries) := by
  intro claim
  have settled := claim (fun _ => .response 200 "[]" "" (.ok (.list []))) 3
  have run : postConnectWith (fun _ => ConnectAnswer.attempt (.response 200 "[]" "" (.ok (.list [])))) 3 =
      ([.answer (.list [])], .ok (.list [])) := rfl
  rw [run] at settled
  generalize same : ([Attempt.answer (.list [])], (.ok (.list []) : Except Failure Value)) = run' at settled
  cases settled <;> cases (Prod.mk.inj same).2

end CodaNode.Node
