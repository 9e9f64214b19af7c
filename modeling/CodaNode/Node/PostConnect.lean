/-
Module: CodaNode.Node.PostConnect
Layer: Node
Purpose: `_post_connect`, the attempts of one connect request. What the endpoint answers is given; the model says which
  POSTs are made and whether the call returns a value or raises.
Imports: CodaNode.Node.Config, Mathlib.Algebra.GroupWithZero.Nat
Main exports: ConnectAnswer, Attempt, attempts, postConnect
-/
import CodaNode.Node.Config
import Mathlib.Algebra.GroupWithZero.Nat

namespace CodaNode.Node

open Python (Json)

/-- The outcome of one attempt: an answer, a status that counts as an error, a failure of the transport,
or another exception. -/
inductive Attempt where
  | answer (bundle : Value)
  | status (code : Nat) (text message : String)
  | transport (message : String)
  | other (message : String)

/-- What the endpoint answers to a POST: a response with its status, its text, the message of the exception that
`raise_for_status` makes of it and what `json()` makes of its body; or `httpx.TransportError`. -/
inductive ConnectAnswer where
  | response (status : Nat) (text message : String) (body : Except String Value)
  | transport (message : String)

namespace ConnectAnswer

/-- `raise_for_status` and `json()`. [SRC service.py:332-338] -/
def attempt : ConnectAnswer → Attempt
  | .response status text message body =>
      if 200 ≤ status ∧ status ≤ 299 then
        match body with
        | .ok value => .answer value
        | .error message => .other message
      else .status status text message
  | .transport message => .transport message

/-- The next attempt may succeed: a 5xx answer, or none. -/
def transient : ConnectAnswer → Bool
  | .response status _ _ _ => 500 ≤ status
  | .transport _ => true

end ConnectAnswer

/-- `1.0 * (2.0 ** (attempt - 1))` [SRC service.py:349] -/
def connectDelay (attempt : Nat) : Except Failure Nat :=
  if 2 ^ (attempt - 1) < 2 ^ 1024 then .ok (2 ^ (attempt - 1))
  else .error (.other "(34, 'Numerical result out of range')")

/-- A failed attempt, with the wait after it unless it was the last one, and what the later attempts come to.
[SRC service.py:348-358] -/
def pauseConnect (maxRetries : Int) (attempt : Nat) (made : Attempt) (later : List Attempt × Except Failure Value) :
    List Attempt × Except Failure Value :=
  if attempt < maxRetries then
    match connectDelay attempt with
    | .ok _ => (made :: later.1, later.2)
    | .error overflow => ([made], .error overflow)
  else (made :: later.1, later.2)

/-- The attempts that are left, given the message of the last error: those that are made, and the outcome.
[SRC service.py:323-363] -/
def attempts (exchange : Nat → Attempt) (maxRetries : Int) :
    (left attempt : Nat) → String → List Attempt × Except Failure Value
  | 0, _, last => ([], .error (.connectFailed s!"Node connect failed after {maxRetries} attempts: {last}"))
  | left + 1, attempt, _ =>
      match exchange attempt with
      | .answer bundle => ([.answer bundle], .ok bundle)
      | .status code text message =>
          if code < 500 then
            ([.status code text message],
              .error (.connectFailed s!"Node request failed ({code}): {Python.take text 400}"))
          else
            pauseConnect maxRetries attempt (.status code text message)
              (attempts exchange maxRetries left (attempt + 1) message)
      | .transport message =>
          pauseConnect maxRetries attempt (.transport message)
            (attempts exchange maxRetries left (attempt + 1) message)
      | .other message => ([.other message], .error (.other message))

/-- `_post_connect` with this bound on the attempts. [SRC service.py:298-363] -/
def postConnectWith (exchange : Nat → Attempt) (maxRetries : Int) : List Attempt × Except Failure Value :=
  attempts exchange maxRetries maxRetries.toNat 1 "None"

end CodaNode.Node
