/-
Module: CodaNode.Proofs.Redelivery
Layer: Proofs
Purpose: What a return of `_post_with_retry` proves, which POSTs it makes, and what it raises. Without any
  attempt it returns although nothing was delivered, and the wait behind the attempt 1025 is no double.
Imports: CodaNode.Server.Webhook
Main exports: FaithfulDelivery, postWithRetry_faithful_iff
-/
import CodaNode.Server.Webhook

namespace CodaNode

/-- The answers to the POSTs, in their order. -/
def posted (sendings : List Sending) : List Answer :=
  sendings.filterMap fun sending =>
    match sending with
    | .post _ _ answer => some answer
    | .sleep _ => none

/-- The call returns exactly when a POST got a 2xx answer. It makes at most the configured number of POSTs, all but
the last of which failed in a way that is repeated; it makes fewer only behind another answer; and it raises what
the last one did. -/
structure FaithfulDelivery (maxRetries : Nat) (answers : Nat → Answer) (run : List Sending × Except Exc Unit) :
    Prop where
  returns : run.2 = .ok () ↔ ∃ answer ∈ posted run.1, answer.raised = none
  bounded : (posted run.1).length ≤ maxRetries
  ordered : posted run.1 = (List.range' 1 (posted run.1).length).map answers
  repeated : ∀ answer ∈ (posted run.1).dropLast, answer.retried = true
  stopped : (posted run.1).length < maxRetries →
    ∃ answer, (posted run.1).getLast? = some answer ∧ answer.retried = false
  raises : ∀ exception, run.2 = .error exception →
    ∃ answer, (posted run.1).getLast? = some answer ∧ answer.raised = some exception

namespace Redelivery

variable {callbackUrl : String} {payload : WebhookPayload} {answers : Nat → Answer}

/-- The attempts that are made. -/
def made (answers : Nat → Answer) : (attempt remaining : Nat) → List Answer
  | _, 0 => []
  | attempt, remaining + 1 =>
      if (answers attempt).retried then answers attempt :: made answers (attempt + 1) remaining
      else [answers attempt]

/-! ### The attempts by themselves -/

theorem made_length (attempt remaining : Nat) : (made answers attempt remaining).length ≤ remaining := by
  induction remaining generalizing attempt with
  | zero => exact Nat.le_refl 0
  | succ remaining inductionHypothesis =>
      unfold made
      split
      · exact Nat.succ_le_succ (inductionHypothesis (attempt + 1))
      · simp

theorem made_ordered (attempt remaining : Nat) :
    made answers attempt remaining =
      (List.range' attempt (made answers attempt remaining).length).map answers := by
  induction remaining generalizing attempt with
  | zero => rfl
  | succ remaining inductionHypothesis =>
      unfold made
      split
      · rw [List.length_cons, List.range'_succ, List.map_cons, ← inductionHypothesis]
      · rfl

theorem made_ne_nil (attempt remaining : Nat) : made answers attempt (remaining + 1) ≠ [] := by
  unfold made
  split <;> exact List.cons_ne_nil _ _

theorem made_repeated (attempt remaining : Nat) :
    ∀ answer ∈ (made answers attempt remaining).dropLast, answer.retried = true := by
  induction remaining generalizing attempt with
  | zero => exact fun answer member => by cases member
  | succ remaining inductionHypothesis =>
      intro answer member
      unfold made at member
      split at member
      · rename_i retried
        cases later : made answers (attempt + 1) remaining with
        | nil =>
            rw [later] at member
            cases member
        | cons next rest =>
            rw [later, List.dropLast_cons_cons] at member
            rcases List.mem_cons.mp member with rfl | inside
            · exact retried
            · apply inductionHypothesis (attempt + 1) answer
              rw [later]
              exact inside
      · cases member

theorem made_stopped (attempt remaining : Nat) (fewer : (made answers attempt remaining).length < remaining) :
    ∃ answer, (made answers attempt remaining).getLast? = some answer ∧ answer.retried = false := by
  induction remaining generalizing attempt with
  | zero => exact absurd fewer (Nat.not_lt_zero _)
  | succ remaining inductionHypothesis =>
      unfold made at fewer ⊢
      split
      · rename_i retried
        rw [if_pos retried] at fewer
        obtain ⟨answer, last, final⟩ := inductionHypothesis (attempt + 1) (Nat.lt_of_succ_lt_succ fewer)
        refine ⟨answer, ?_, final⟩
        rw [List.getLast?_cons, last]
        rfl
      · rename_i final
        exact ⟨answers attempt, rfl, Bool.eq_false_iff.mpr final⟩

/-! ### The loop makes these attempts -/

/-- Only attempts with a status or without a connection. -/
def Plain (answers : Nat → Answer) : Prop := ∀ attempt exception, answers attempt ≠ .failure exception

/-- Every wait that is needed can be computed. -/
def Computable (answers : Nat → Answer) (attempt remaining : Nat) : Prop :=
  attempt + remaining ≤ 1025 ∨ ∃ later, attempt ≤ later ∧ later ≤ 1025 ∧ (answers later).retried = false

theorem Computable.next {attempt remaining : Nat} (computable : Computable answers attempt (remaining + 1))
    (retried : (answers attempt).retried = true) :
    attempt ≤ 1024 ∧ Computable answers (attempt + 1) remaining := by
  rcases computable with small | ⟨later, behind, bounded, final⟩
  · exact ⟨by omega, .inl (by omega)⟩
  · have other : later ≠ attempt := by
      rintro rfl
      rw [retried] at final
      cases final
    exact ⟨by omega, .inr ⟨later, by omega, bounded, final⟩⟩

theorem posted_request (plain : Plain answers) (attempt : Nat) :
    posted ((answers attempt).request callbackUrl payload) = [answers attempt] := by
  cases answer : answers attempt with
  | failure exception => exact absurd answer (plain attempt exception)
  | response status => rfl
  | transportError processed => rfl

theorem raised_of_retried {answer : Answer} (retried : answer.retried = true) :
    ∃ exception, answer.raised = some exception := by
  cases answer with
  | failure exception => exact ⟨exception, rfl⟩
  | transportError => exact ⟨_, rfl⟩
  | response status =>
      have large : 500 ≤ status := of_decide_eq_true retried
      have other : isSuccess status = false := by
        simp only [isSuccess, Bool.and_eq_false_iff, decide_eq_false_iff_not]
        omega
      refine ⟨httpStatusError status, ?_⟩
      simp only [Answer.raised, other, Bool.false_eq_true, if_false]

/-- A delivery ends as its last attempt did. -/
def ended (lastExc : Option Exc) (attempts : List Answer) : Except Exc Unit :=
  match (attempts.getLast?.map Answer.raised).getD lastExc with
  | none => .ok ()
  | some exception => .error exception

theorem postFrom_eq (plain : Plain answers) (remaining : Nat) :
    ∀ (attempt : Nat) (lastExc : Option Exc), Computable answers attempt remaining →
      posted (WebhookClient.postFrom callbackUrl payload answers attempt remaining lastExc).1 =
          made answers attempt remaining ∧
        (WebhookClient.postFrom callbackUrl payload answers attempt remaining lastExc).2 =
          ended lastExc (made answers attempt remaining) := by
  induction remaining with
  | zero =>
      intro attempt lastExc _
      cases lastExc <;> exact ⟨rfl, rfl⟩
  | succ remaining inductionHypothesis =>
      intro attempt lastExc computable
      unfold WebhookClient.postFrom made
      cases retried : (answers attempt).retried with
      | false =>
          simp only [Bool.false_eq_true, if_false]
          cases raised : (answers attempt).raised <;>
            exact ⟨posted_request plain attempt, by simp [ended, raised]⟩
      | true =>
          obtain ⟨exception, raised⟩ := raised_of_retried retried
          obtain ⟨bounded, later⟩ := computable.next retried
          obtain ⟨delay, computed⟩ := WebhookClient.retryDelay_ok bounded
          obtain ⟨posts, outcome⟩ := inductionHypothesis (attempt + 1) (some exception) later
          simp only [raised, if_true, WebhookClient.retry, computed]
          constructor
          · rw [posted, List.filterMap_append]
            change posted _ ++ posted (WebhookClient.postFrom callbackUrl payload answers _ _ _).1 = _
            rw [posted_request plain, posts]
            rfl
          · rw [outcome]
            unfold ended
            rw [List.getLast?_cons]
            cases (made answers (attempt + 1) remaining).getLast? with
            | none => simp [raised]
            | some last => rfl

/-- When a wait cannot be computed, its exception leaves the loop. -/
theorem postFrom_overflow (remaining : Nat) :
    ∀ (attempt : Nat) (lastExc : Option Exc), attempt ≤ 1025 → ¬ Computable answers attempt remaining →
      ∃ exception,
        (WebhookClient.postFrom callbackUrl payload answers attempt remaining lastExc).2 = .error exception ∧
          exception.kind = .overflowError := by
  induction remaining with
  | zero =>
      intro attempt lastExc bounded overflows
      exact absurd (.inl bounded) overflows
  | succ remaining inductionHypothesis =>
      intro attempt lastExc bounded overflows
      have retried : (answers attempt).retried = true := by
        apply Bool.not_eq_false _ |>.mp
        exact fun final => overflows (.inr ⟨attempt, Nat.le_refl _, bounded, final⟩)
      obtain ⟨exception, raised⟩ := raised_of_retried retried
      unfold WebhookClient.postFrom
      simp only [raised, retried, if_true]
      by_cases last : attempt = 1025
      · obtain ⟨overflow, failed, kind⟩ := WebhookClient.retryDelay_error (show ¬ attempt ≤ 1024 by omega)
        exact ⟨overflow, by rw [WebhookClient.retry, failed], kind⟩
      · have later : ¬ Computable answers (attempt + 1) remaining := by
          rintro (small | ⟨later, behind, few, final⟩)
          · exact overflows (.inl (by omega))
          · exact overflows (.inr ⟨later, by omega, few, final⟩)
        obtain ⟨overflow, outcome, kind⟩ :=
          inductionHypothesis (attempt + 1) (some exception) (by omega) later
        obtain ⟨delay, computed⟩ := WebhookClient.retryDelay_ok (show attempt ≤ 1024 by omega)
        exact ⟨overflow, by rw [WebhookClient.retry, computed]; exact outcome, kind⟩

/-- What an answer raises is never the overflow. -/
theorem kind_of_raised (plain : Plain answers) {attempt : Nat} {exception : Exc}
    (raised : (answers attempt).raised = some exception) : exception.kind ≠ .overflowError := by
  cases answer : answers attempt with
  | failure exception => exact absurd answer (plain attempt exception)
  | transportError =>
      rw [answer] at raised
      cases raised
      exact fun impossible => by cases impossible
  | response status =>
      rw [answer] at raised
      simp only [Answer.raised] at raised
      split at raised
      · cases raised
      · cases raised
        exact fun impossible => by cases impossible

/-- Only the last answer can be a success. -/
theorem ended_ok_iff {attempts : List Answer} (some_ : attempts ≠ [])
    (repeated : ∀ answer ∈ attempts.dropLast, answer.retried = true) :
    ended none attempts = .ok () ↔ ∃ answer ∈ attempts, answer.raised = none := by
  obtain ⟨last, same⟩ := Option.ne_none_iff_exists'.mp (mt List.getLast?_eq_none_iff.mp some_)
  have split := List.dropLast_append_getLast? last same
  have unsuccessful {answer : Answer} (inside : answer ∈ attempts.dropLast) : answer.raised ≠ none := by
    obtain ⟨exception, raised⟩ := raised_of_retried (repeated answer inside)
    rw [raised]
    exact Option.some_ne_none exception
  unfold ended
  rw [same]
  constructor
  · intro outcome
    refine ⟨last, List.mem_of_getLast? same, ?_⟩
    cases raised : last.raised with
    | none => rfl
    | some exception => simp [raised] at outcome
  · rintro ⟨answer, member, success⟩
    rw [← split] at member
    rcases List.mem_append.mp member with inside | final
    · exact absurd success (unsuccessful inside)
    · rw [← List.mem_singleton.mp final, Option.map_some, Option.getD_some, success]

end Redelivery

open Redelivery

/-- A webhook call is faithful exactly if the client makes an attempt at all, and no more than 1024 attempts in a row
fail in a way that is repeated. -/
theorem postWithRetry_faithful_iff (client : WebhookClient) (callbackUrl : String) (payload : WebhookPayload)
    (answers : Nat → Answer) (plain : ∀ attempt exception, answers attempt ≠ .failure exception) :
    FaithfulDelivery client.maxRetries answers (client.postWithRetry callbackUrl payload answers) ↔
      client.maxRetries ≠ 0 ∧
        (client.maxRetries ≤ 1024 ∨
          ∃ attempt, 1 ≤ attempt ∧ attempt ≤ 1025 ∧ (answers attempt).retried = false) := by
  have computable : Computable answers 1 client.maxRetries ↔
      (client.maxRetries ≤ 1024 ∨ ∃ attempt, 1 ≤ attempt ∧ attempt ≤ 1025 ∧ (answers attempt).retried = false) := by
    apply or_congr_left
    omega
  rw [← computable]
  unfold WebhookClient.postWithRetry
  constructor
  · intro faithful
    constructor
    · intro none
      rw [none] at faithful
      obtain ⟨answer, member, -⟩ := faithful.returns.mp rfl
      cases member
    · apply Classical.byContradiction
      intro overflows
      obtain ⟨exception, outcome, kind⟩ := postFrom_overflow client.maxRetries 1 none (by omega) overflows
      obtain ⟨answer, last, raised⟩ := faithful.raises exception outcome
      have member := List.mem_of_getLast? last
      rw [faithful.ordered] at member
      obtain ⟨attempt, -, rfl⟩ := List.mem_map.mp member
      exact kind_of_raised plain raised kind
  · rintro ⟨some_, computable⟩
    obtain ⟨posts, outcome⟩ := postFrom_eq plain client.maxRetries 1 none computable
    have present : made answers 1 client.maxRetries ≠ [] := by
      obtain ⟨retries, same⟩ := Nat.exists_eq_succ_of_ne_zero some_
      rw [same]
      exact made_ne_nil 1 retries
    constructor
    · rw [posts, outcome]
      exact ended_ok_iff present (made_repeated 1 client.maxRetries)
    · rw [posts]
      exact made_length 1 client.maxRetries
    · rw [posts]
      exact made_ordered 1 client.maxRetries
    · rw [posts]
      exact made_repeated 1 client.maxRetries
    · rw [posts]
      exact made_stopped 1 client.maxRetries
    · intro exception raised
      rw [posts]
      rw [outcome] at raised
      obtain ⟨last, same⟩ := Option.ne_none_iff_exists'.mp (mt List.getLast?_eq_none_iff.mp present)
      refine ⟨last, same, ?_⟩
      unfold ended at raised
      rw [same, Option.map_some, Option.getD_some] at raised
      cases failed : last.raised with
      | none =>
          rw [failed] at raised
          cases raised
      | some exception' =>
          rw [failed] at raised
          cases raised
          rfl

/-- The result, for a call that succeeds at its second attempt. -/
theorem postWithRetry_faithful_second :
    FaithfulDelivery 3 (fun attempt => .response (if attempt = 1 then 503 else 200))
      (WebhookClient.postWithRetry {} "url" (.ofError "job" "error")
        fun attempt => .response (if attempt = 1 then 503 else 200)) :=
  (postWithRetry_faithful_iff {} "url" (.ofError "job" "error") _ fun _ _ same => by cases same).mpr
    ⟨by decide, .inl (by decide)⟩

/-- A client without attempts returns and has delivered nothing. -/
theorem postWithRetry_unfaithful :
    ¬ ∀ (client : WebhookClient) (callbackUrl : String) (payload : WebhookPayload) (answers : Nat → Answer),
      (∀ attempt exception, answers attempt ≠ .failure exception) →
        FaithfulDelivery client.maxRetries answers (client.postWithRetry callbackUrl payload answers) := by
  intro claim
  have faithful := claim { maxRetries := 0 } "url" (.ofError "job" "error") (fun _ => .response 200)
    fun _ _ same => by cases same
  obtain ⟨answer, member, -⟩ := faithful.returns.mp rfl
  cases member

end CodaNode
