/-
Module: CodaNode.Server.Redis
Layer: Server
Purpose: The part of Redis the consumer uses: one stream with one consumer group, the status hashes of
  the jobs, and the cancellation flags. The stream is a list in the order of its ids. An entry is
  undelivered until a consumer of the group reads it, then pending for that consumer until it is
  acknowledged.
Imports: none
Main exports: FieldText, StreamMessage, JobState, StatusHash, Redis
-/

namespace CodaNode

/-- Byte strings are equal if their bytes are. -/
instance bytesDecidableEq : DecidableEq ByteArray
  | ⟨left⟩, ⟨right⟩ => decidable_of_iff (left = right) (by rw [ByteArray.mk.injEq])

/-- A field name or value of a stream entry: text when the client decodes responses, bytes when it
does not. -/
inductive FieldText where
  | str (text : String)
  | bytes (raw : ByteArray)
deriving DecidableEq

/-- The fields of a stream entry. -/
abbrev Fields := List (FieldText × FieldText)

/-- One entry of the stream `qpu:<qpu_id>:jobs`. -/
structure StreamMessage where
  messageId : String
  fields : Fields
deriving DecidableEq

/-- The `state` field of a status hash. The consumer writes the first four values; `other` is any
text another program has written. -/
inductive JobState where
  | executing
  | completed
  | cancelled
  | failed
  | other (text : String)
deriving Repr, DecidableEq

/-- The states `_process_message` leaves a job in: it writes `executing` first and one of these three last.
The consumer's documentation calls none of them final; the reading rests on those writes alone. -/
def JobState.terminal : JobState → Bool
  | .completed | .cancelled | .failed => true
  | .executing | .other _ => false

/-- A status hash `qpu:job:<job_id>:status`, and also a mapping written to one: a field that is `none`
is absent. -/
structure StatusHash where
  state : Option JobState := none
  startedAt : Option String := none
  completedAt : Option String := none
  cancelledAt : Option String := none
  failedAt : Option String := none
  error : Option String := none
  messageId : Option String := none
  qpuId : Option String := none
deriving Repr, DecidableEq

/-- HSET: the fields of the mapping replace those of the hash. -/
def StatusHash.merge (hash mapping : StatusHash) : StatusHash where
  state := mapping.state.or hash.state
  startedAt := mapping.startedAt.or hash.startedAt
  completedAt := mapping.completedAt.or hash.completedAt
  cancelledAt := mapping.cancelledAt.or hash.cancelledAt
  failedAt := mapping.failedAt.or hash.failedAt
  error := mapping.error.or hash.error
  messageId := mapping.messageId.or hash.messageId
  qpuId := mapping.qpuId.or hash.qpuId

/-- A delivered entry that has not been acknowledged. -/
structure PendingEntry where
  messageId : String
  consumer : String
deriving Repr, DecidableEq

/-- The keys of one QPU. -/
structure Redis where
  /-- The consumer group exists. -/
  group : Bool := false
  /-- The entries XRANGE finds. -/
  stream : List StreamMessage := []
  /-- The entries the group has not handed out, including those still to arrive. -/
  undelivered : List StreamMessage := []
  /-- The pending entries list of the group, in the order of the ids. -/
  pending : List PendingEntry := []
  /-- The hash `qpu:job:<job_id>:status`. -/
  status : String → StatusHash := fun _ => {}
  /-- The key `qpu:job:cancelled:<job_id>` exists. -/
  cancelled : String → Bool := fun _ => false

namespace Redis

/-- The pending entries of one consumer. -/
def pendingOf (redis : Redis) (consumer : String) : List String :=
  (redis.pending.filter fun entry => entry.consumer = consumer).map PendingEntry.messageId

/-- XREADGROUP: the next `count` undelivered entries become pending for the consumer. -/
def deliver (redis : Redis) (consumer : String) (count : Nat) : Redis :=
  { redis with
    undelivered := redis.undelivered.drop count
    pending := redis.pending ++
      (redis.undelivered.take count).map fun message => ⟨message.messageId, consumer⟩ }

/-- XACK. -/
def acknowledge (redis : Redis) (messageId : String) : Redis :=
  { redis with pending := redis.pending.filter fun entry => entry.messageId ≠ messageId }

/-- HSET on a status hash. -/
def writeStatus (redis : Redis) (jobId : String) (mapping : StatusHash) : Redis :=
  { redis with
    status := fun job => if job = jobId then (redis.status job).merge mapping else redis.status job }

/-- The cloud sets a cancellation flag. -/
def requestCancel (redis : Redis) (jobId : String) : Redis :=
  { redis with cancelled := fun job => if job = jobId then true else redis.cancelled job }

@[simp] theorem acknowledge_status (redis : Redis) (messageId : String) :
    (redis.acknowledge messageId).status = redis.status := rfl

@[simp] theorem acknowledge_cancelled (redis : Redis) (messageId : String) :
    (redis.acknowledge messageId).cancelled = redis.cancelled := rfl

@[simp] theorem deliver_status (redis : Redis) (consumer : String) (count : Nat) :
    (redis.deliver consumer count).status = redis.status := rfl

@[simp] theorem deliver_cancelled (redis : Redis) (consumer : String) (count : Nat) :
    (redis.deliver consumer count).cancelled = redis.cancelled := rfl

@[simp] theorem writeStatus_cancelled (redis : Redis) (jobId : String) (mapping : StatusHash) :
    (redis.writeStatus jobId mapping).cancelled = redis.cancelled := rfl

@[simp] theorem writeStatus_pending (redis : Redis) (jobId : String) (mapping : StatusHash) :
    (redis.writeStatus jobId mapping).pending = redis.pending := rfl

@[simp] theorem writeStatus_undelivered (redis : Redis) (jobId : String) (mapping : StatusHash) :
    (redis.writeStatus jobId mapping).undelivered = redis.undelivered := rfl

theorem writeStatus_same (redis : Redis) (jobId : String) (mapping : StatusHash) :
    (redis.writeStatus jobId mapping).status jobId = (redis.status jobId).merge mapping := by
  simp [writeStatus]

theorem writeStatus_other (redis : Redis) {jobId other : String} (mapping : StatusHash)
    (distinct : other ≠ jobId) :
    (redis.writeStatus jobId mapping).status other = redis.status other := by
  simp [writeStatus, distinct]

end Redis

end CodaNode
