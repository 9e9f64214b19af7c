/-
Module: CodaNode.Server.Webhook
Layer: Server
Purpose: `WebhookClient`, the attempts of one delivery. What the cloud answers to each attempt is given; the
  model says which requests are sent, how long the client waits between them, and whether the call returns
  or raises. `Transmitted` lays the requests of all webhook calls of a run out in their order.
Imports: CodaNode.Server.Ledger
Main exports: WebhookClient, WebhookClient.sendResult, WebhookClient.sendError, Transmitted
-/
import CodaNode.Server.Ledger

namespace CodaNode

/-- The part of a `WebhookClient` that its retry loop reads. -/
structure WebhookClient where
  /-- `_max_retries`, `_MAX_RETRIES` by default. -/
  maxRetries : Nat := 3

/-- What an attempt comes to. -/
inductive Answer where
  /-- A response with this status code. -/
  | response (status : Nat)
  /-- `httpx.TransportError`: the cloud may or may not have processed the request. -/
  | transportError (processed : Bool)
  /-- Any other exception, from signing the token or from building the request. -/
  | failure (exception : Exc)
deriving DecidableEq

/-- One action of the client: a POST with the answer to it, or a wait. -/
inductive Sending where
  | post (callbackUrl : String) (payload : WebhookPayload) (answer : Answer)
  | sleep (seconds : Nat)
deriving DecidableEq

/-! ### One attempt -/

/-- `raise_for_status` accepts these. -/
def isSuccess (status : Nat) : Bool := 200 ≤ status && status ≤ 299

/-- `httpx.HTTPStatusError` -/
def httpStatusError (status : Nat) : Exc := ⟨.other, s!"HTTP status {status}"⟩

/-- `httpx.TransportError` -/
def transportFailure : Exc := ⟨.other, "transport error"⟩

namespace Answer

/-- What the attempt raises, if it does. -/
def raised : Answer → Option Exc
  | .response status => if isSuccess status then none else some (httpStatusError status)
  | .transportError _ => some transportFailure
  | .failure exception => some exception

/-- Whether the `except` clause goes on to the next attempt. [SRC webhook.py:119-125] -/
def retried : Answer → Bool
  | .response status => 500 ≤ status
  | .transportError _ => true
  | .failure _ => false

/-- The request, unless the attempt failed before it was sent. -/
def request (callbackUrl : String) (payload : WebhookPayload) : Answer → List Sending
  | .failure _ => []
  | answer => [.post callbackUrl payload answer]

end Answer

namespace WebhookClient

/-- `_BACKOFF_BASE` of the webhook client, in seconds. [SRC webhook.py:30] -/
def backoffBase : Nat := 1

/-- `_BACKOFF_FACTOR` of the webhook client. [SRC webhook.py:31] -/
def backoffFactor : Nat := 2

/-- `_BACKOFF_BASE * (_BACKOFF_FACTOR ** (attempt - 1))`. [SRC webhook.py:126] -/
@[irreducible] def retryDelay (attempt : Nat) : Except Exc Nat := do
  let power ← floatPow backoffFactor (attempt - 1)
  return backoffBase * power

/-- A failed attempt with the wait after it and what `later` attempts come to. [SRC webhook.py:126-134] -/
def retry (attempt : Nat) (request : List Sending) (later : List Sending × Except Exc Unit) :
    List Sending × Except Exc Unit :=
  match retryDelay attempt with
  | .error overflow => (request, .error overflow)
  | .ok delay => (request ++ .sleep delay :: later.1, later.2)

/-- The loop of `_post_with_retry` from this attempt on. [SRC webhook.py:102-137] -/
def postFrom (callbackUrl : String) (payload : WebhookPayload) (answers : Nat → Answer) :
    (attempt remaining : Nat) → (lastExc : Option Exc) → List Sending × Except Exc Unit
  | _, 0, none => ([], .ok ())
  | _, 0, some lastExc => ([], .error lastExc)
  | attempt, remaining + 1, _ =>
      let request := (answers attempt).request callbackUrl payload
      match (answers attempt).raised with
      | none => (request, .ok ())
      | some exception =>
          if (answers attempt).retried then
            retry attempt request
              (postFrom callbackUrl payload answers (attempt + 1) remaining (some exception))
          else (request, .error exception)

/-- `_post_with_retry`. [SRC webhook.py:98-137] -/
def postWithRetry (client : WebhookClient) (callbackUrl : String) (payload : WebhookPayload)
    (answers : Nat → Answer) : List Sending × Except Exc Unit :=
  postFrom callbackUrl payload answers 1 client.maxRetries none

/-- `send_result`. [SRC webhook.py:139-150] -/
def sendResult (client : WebhookClient) (callbackUrl : String) (payload : WebhookPayload)
    (answers : Nat → Answer) : List Sending × Except Exc Unit :=
  client.postWithRetry callbackUrl payload answers

/-- `send_error`. [SRC webhook.py:152-157] -/
def sendError (client : WebhookClient) (callbackUrl jobId error : String) (answers : Nat → Answer) :
    List Sending × Except Exc Unit :=
  client.sendResult callbackUrl (.ofError jobId error) answers

/-! ### Which deliveries get through -/

variable {callbackUrl : String} {payload : WebhookPayload} {answers : Nat → Answer}

/-- The wait can be computed as long as the power is a double. -/
theorem retryDelay_ok {attempt : Nat} (bounded : attempt ≤ 1024) :
    ∃ delay, retryDelay attempt = .ok delay := by
  have small : 2 ^ (attempt - 1) < 2 ^ 1024 := Nat.pow_lt_pow_right (by decide) (by omega)
  unfold retryDelay floatPow
  rw [show backoffFactor = 2 from rfl, if_pos small]
  exact ⟨_, rfl⟩

theorem retryDelay_error {attempt : Nat} (large : ¬ attempt ≤ 1024) :
    ∃ exception, retryDelay attempt = .error exception ∧ exception.kind = .overflowError := by
  have big : ¬ 2 ^ (attempt - 1) < 2 ^ 1024 := by
    apply Nat.not_lt.mpr
    exact Nat.pow_le_pow_right (by decide) (by omega)
  unfold retryDelay floatPow
  rw [show backoffFactor = 2 from rfl, if_neg big]
  exact ⟨_, rfl, rfl⟩

theorem retry_of_bounded {attempt : Nat} (bounded : attempt ≤ 1024) {request : List Sending}
    {later : List Sending × Except Exc Unit} : (retry attempt request later).2 = later.2 := by
  obtain ⟨delay, computed⟩ := retryDelay_ok bounded
  rw [retry, computed]

theorem retry_of_large {attempt : Nat} (large : ¬ attempt ≤ 1024) {request : List Sending}
    {later : List Sending × Except Exc Unit} : (retry attempt request later).2 ≠ .ok () := by
  obtain ⟨overflow, failed, -⟩ := retryDelay_error large
  rw [retry, failed]
  exact fun same => by cases same

/-- The loop gets to an attempt that raises nothing: every attempt before it may be repeated, and the wait
after it can be computed. -/
def Reaches (answers : Nat → Answer) (attempt remaining : Nat) : Prop :=
  ∃ tries < remaining, (answers (attempt + tries)).raised = none ∧
    ∀ earlier < tries, (answers (attempt + earlier)).retried = true ∧ attempt + earlier ≤ 1024

/-- A webhook with these answers gets through. Without any attempt the client returns as well. -/
def Delivers (client : WebhookClient) (answers : Nat → Answer) : Prop :=
  client.maxRetries = 0 ∨ Reaches answers 1 client.maxRetries

theorem reaches_zero {attempt : Nat} : ¬ Reaches answers attempt 0 := by
  rintro ⟨tries, few, -⟩
  omega

theorem reaches_succ {attempt remaining : Nat} :
    Reaches answers attempt (remaining + 1) ↔
      (answers attempt).raised = none ∨
        ((answers attempt).retried = true ∧ attempt ≤ 1024) ∧ Reaches answers (attempt + 1) remaining := by
  constructor
  · rintro ⟨tries, few, accepted, before⟩
    cases tries with
    | zero => exact .inl accepted
    | succ tries =>
        refine .inr ⟨before 0 (by omega), tries, by omega, ?_, fun earlier less => ?_⟩
        · rw [Nat.add_assoc, Nat.add_comm 1]
          exact accepted
        · rw [Nat.add_assoc, Nat.add_comm 1]
          exact before (earlier + 1) (by omega)
  · rintro (accepted | ⟨first, tries, few, accepted, before⟩)
    · exact ⟨0, by omega, accepted, fun earlier less => absurd less (Nat.not_lt_zero earlier)⟩
    · refine ⟨tries + 1, by omega, ?_, fun earlier less => ?_⟩
      · rw [Nat.add_comm tries, ← Nat.add_assoc]
        exact accepted
      · cases earlier with
        | zero => exact first
        | succ earlier =>
            rw [Nat.add_comm earlier, ← Nat.add_assoc]
            exact before earlier (by omega)

/-- The attempts that are left decide about the call. -/
theorem postFrom_ok_iff {remaining : Nat} :
    ∀ {attempt : Nat} {lastExc : Option Exc}, remaining ≠ 0 ∨ lastExc ≠ none →
      ((postFrom callbackUrl payload answers attempt remaining lastExc).2 = .ok () ↔
        Reaches answers attempt remaining) := by
  induction remaining with
  | zero =>
      intro attempt lastExc started
      cases lastExc with
      | none => simp at started
      | some exception =>
          refine iff_of_false (fun same => ?_) reaches_zero
          cases same
  | succ remaining inductionHypothesis =>
      intro attempt lastExc _
      rw [reaches_succ]
      unfold postFrom
      cases raised : (answers attempt).raised with
      | none => simp
      | some exception =>
          cases retried : (answers attempt).retried with
          | false => simp
          | true =>
              simp only [if_true, true_and, reduceCtorEq, false_or]
              by_cases bounded : attempt ≤ 1024
              · rw [retry_of_bounded bounded]
                simp only [bounded, true_and]
                exact inductionHypothesis (.inr (Option.some_ne_none exception))
              · exact iff_of_false (retry_of_large bounded) fun reaches => bounded reaches.1

/-- A call returns exactly when the webhook gets through. -/
theorem sendResult_ok_iff (client : WebhookClient) :
    (client.sendResult callbackUrl payload answers).2 = .ok () ↔ client.Delivers answers := by
  unfold sendResult postWithRetry Delivers
  by_cases some_ : client.maxRetries = 0
  · rw [some_]
    exact iff_of_true rfl (.inl rfl)
  · rw [postFrom_ok_iff (.inl some_)]
    exact ⟨.inr, fun delivers => delivers.resolve_left some_⟩

theorem payload_of_request {answer other : Answer} {url : String} {sent : WebhookPayload}
    (member : .post url sent other ∈ answer.request callbackUrl payload) :
    url = callbackUrl ∧ sent = payload := by
  cases answer with
  | failure => cases member
  | response | transportError =>
      cases List.mem_singleton.mp member
      exact ⟨rfl, rfl⟩

theorem post_of_retry {attempt : Nat} {request : List Sending} {later : List Sending × Except Exc Unit}
    {url : String} {sent : WebhookPayload} {answer : Answer}
    (member : .post url sent answer ∈ (retry attempt request later).1) :
    .post url sent answer ∈ request ∨ .post url sent answer ∈ later.1 := by
  unfold retry at member
  split at member
  · exact .inl member
  · rcases List.mem_append.mp member with first | rest
    · exact .inl first
    · exact .inr ((List.mem_cons.mp rest).resolve_left fun same => by cases same)

/-- All attempts send the same request. -/
theorem payload_of_postFrom {remaining : Nat} :
    ∀ {attempt : Nat} {lastExc : Option Exc} {url : String} {sent : WebhookPayload} {answer : Answer},
      .post url sent answer ∈ (postFrom callbackUrl payload answers attempt remaining lastExc).1 →
        url = callbackUrl ∧ sent = payload := by
  induction remaining with
  | zero =>
      intro attempt lastExc url sent answer member
      cases lastExc <;> cases member
  | succ remaining inductionHypothesis =>
      intro attempt lastExc url sent answer member
      unfold postFrom at member
      simp only at member
      split at member
      · exact payload_of_request member
      · split at member
        · rcases post_of_retry member with first | rest
          · exact payload_of_request first
          · exact inductionHypothesis rest
        · exact payload_of_request member

theorem payload_of_sendResult (client : WebhookClient) {url : String} {sent : WebhookPayload} {answer : Answer}
    (member : .post url sent answer ∈ (client.sendResult callbackUrl payload answers).1) :
    url = callbackUrl ∧ sent = payload := payload_of_postFrom member

end WebhookClient

/-- These are the actions behind the webhook calls of a log. -/
inductive Transmitted (client : WebhookClient) : List Entry → List Sending → Prop where
  | nil : Transmitted client [] []
  | result {log : List Entry} {sent : List Sending} {role : Role} {callbackUrl : String}
      {payload : WebhookPayload} {outcome : Except Exc Unit} {fate : Fate} {answers : Nat → Answer}
      (before : Transmitted client log sent)
      (called : (client.sendResult callbackUrl payload answers).2 = outcome) :
      Transmitted client (log ++ [.call role (.sendResult callbackUrl payload) outcome fate])
        (sent ++ (client.sendResult callbackUrl payload answers).1)
  | failure {log : List Entry} {sent : List Sending} {role : Role} {callbackUrl jobId error : String}
      {outcome : Except Exc Unit} {fate : Fate} {answers : Nat → Answer}
      (before : Transmitted client log sent)
      (called : (client.sendError callbackUrl jobId error answers).2 = outcome) :
      Transmitted client (log ++ [.call role (.sendError callbackUrl jobId error) outcome fate])
        (sent ++ (client.sendError callbackUrl jobId error answers).1)
  | other {log : List Entry} {sent : List Sending} {entry : Entry} (before : Transmitted client log sent)
      (silent : ∀ jobId, entry.attempts jobId = false) : Transmitted client (log ++ [entry]) sent

/-- A request that reports a failure belongs to a call that does. -/
theorem Transmitted.failure_of_post {client : WebhookClient} {log : List Entry} {sent : List Sending}
    (transmitted : Transmitted client log sent) {url : String} {payload : WebhookPayload} {answer : Answer}
    (member : .post url payload answer ∈ sent) (failed : payload.status = .failed)
    (results : ∀ role callbackUrl payload outcome fate,
      .call role (.sendResult callbackUrl payload) outcome fate ∈ log → payload.status = .completed) :
    ∃ role jobId error outcome fate, .call role (.sendError url jobId error) outcome fate ∈ log ∧
      payload = .ofError jobId error := by
  induction transmitted with
  | nil => cases member
  | @result log sent role callbackUrl payload' outcome fate answers before called inductionHypothesis =>
      rcases List.mem_append.mp member with old | new
      · obtain ⟨role, jobId, error, outcome, fate, inLog, same⟩ :=
          inductionHypothesis old fun _ _ _ _ _ inside => results _ _ _ _ _ (List.mem_append_left _ inside)
        exact ⟨role, jobId, error, outcome, fate, List.mem_append_left _ inLog, same⟩
      · obtain ⟨rfl, rfl⟩ := client.payload_of_sendResult new
        rw [results role url payload outcome fate (by simp)] at failed
        cases failed
  | @failure log sent role callbackUrl jobId error outcome fate answers before called inductionHypothesis =>
      rcases List.mem_append.mp member with old | new
      · obtain ⟨role, jobId, error, outcome, fate, inLog, same⟩ :=
          inductionHypothesis old fun _ _ _ _ _ inside => results _ _ _ _ _ (List.mem_append_left _ inside)
        exact ⟨role, jobId, error, outcome, fate, List.mem_append_left _ inLog, same⟩
      · obtain ⟨rfl, rfl⟩ := client.payload_of_sendResult new
        exact ⟨role, jobId, error, outcome, fate, by simp, rfl⟩
  | other before silent inductionHypothesis =>
      obtain ⟨role, jobId, error, outcome, fate, inLog, same⟩ :=
        inductionHypothesis member fun _ _ _ _ _ inside => results _ _ _ _ _ (List.mem_append_left _ inside)
      exact ⟨role, jobId, error, outcome, fate, List.mem_append_left _ inLog, same⟩

end CodaNode
