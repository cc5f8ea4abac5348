import AutomationHub.Foundation.Queues
import AutomationHub.Model.Basic
import Mathlib.Data.String.Basic

/-!
The live dispatch layer as Redis keeps it: lists of serialized entries under
text keys, and one delayed set per queue.

The two JSON readers are not the same program: the promotion script reads its
members with `cjson.decode`, a worker reads what it pops with `json.loads`.
-/

set_option autoImplicit false

namespace AutomationHub.Jobs.RedisQueue

open Foundation Foundation.Queues Model

/-- A decoded JSON value; a number keeps its text. -/
inductive Json where
  | null
  | boolean (value : Bool)
  | number (text : String)
  | string (text : String)
  | array (items : List Json)
  | object (fields : List (String × Json))

/-- The last of several fields of one name counts. -/
def fieldOf (name : String) (fields : List (String × Json)) : Option Json :=
  (fields.reverse.find? fun field => field.1 = name).map Prod.snd

def priorities : List JobPriority := [.high, .normal, .low]

/-- A character that JSON writes as it is: printable, no quotation mark, no backslash. -/
def plain (character : Char) : Bool :=
  32 ≤ character.toNat && character.toNat < 127 && character.toNat != 34 && character.toNat != 92

/-- The text of a `jobs.id`. -/
structure JobId where
  text : String
  isPlain : text.toList.all plain

/-- `json.dumps({"job_id": job_id, "priority": priority.value})`. -/
def envelope (jobId : JobId) (priority : JobPriority) : String :=
  "\x7b\"job_id\": \"" ++ jobId.text ++ "\", \"priority\": \"" ++ priority.value ++ "\"\x7d"

/-- What an envelope says. -/
def described (jobId : String) (priority : JobPriority) : Json :=
  .object [("job_id", .string jobId), ("priority", .string (priority.value))]

/-- What Redis, Lua and Python make of texts and times. -/
structure Codec (σ : Type) where
  timestamp : Datetime → σ
  cjsonDecode : String → Option Json
  jsonLoads : String → Option Json
  luaNumber : String → String
  str : Json → String
  decodes : ∀ jobId priority, cjsonDecode (envelope jobId priority) = some (described jobId.text priority)
  loads : ∀ jobId priority, jsonLoads (envelope jobId priority) = some (described jobId.text priority)
  str_string : ∀ text, str (.string text) = text

def readyKeyPrefix (queueName : String) : String := "eah:jobs:ready:" ++ queueName ++ ":"

def readyKey (queueName : String) (priority : JobPriority) : String := readyKeyPrefix queueName ++ priority.value

def delayedKey (queueName : String) : String := "eah:jobs:delayed:" ++ queueName

/-- The ready lists, newest entry first, and the delayed sets, under their keys. -/
structure RedisStore (σ : Type) where
  ready : String → List String
  delayed : String → ScoredSet String σ

/-- `decoded.priority`: only a string, an array or an object may be indexed, and a string has no such field. -/
def luaPriority : Json → Option (Option Json)
  | .object fields => some (fieldOf "priority" fields)
  | .string _ | .array _ => some none
  | .null | .boolean _ | .number _ => none

/-- What the promotion script makes of one member. -/
inductive Verdict where
  | skipped
  | pushed (suffix : String)
  | raised
deriving DecidableEq

namespace Codec

variable {σ : Type} (codec : Codec σ)

/-- Only the decoding is guarded: indexing and concatenating may raise. -/
def verdict (member : String) : Verdict :=
  match codec.cjsonDecode member with
  | none => .skipped
  | some decoded =>
      match luaPriority decoded with
      | none => .raised
      | some none => .skipped
      | some (some (.boolean false)) => .skipped
      | some (some (.string text)) => .pushed text
      | some (some (.number text)) => .pushed (codec.luaNumber text)
      | some (some _) => .raised

/-- The tier of a well-formed member. -/
def tierOf (member : String) : Option JobPriority :=
  match codec.cjsonDecode member with
  | some (.object fields) =>
      match fieldOf "job_id" fields, fieldOf "priority" fields with
      | some (.string _), some (.string text) => priorities.find? fun priority => priority.value = text
      | _, _ => none
  | _ => none

/-- `str(json.loads(raw)["job_id"])`, where it does not raise. -/
def jobIdOf (raw : String) : Option String :=
  match codec.jsonLoads raw with
  | some (.object fields) => (fieldOf "job_id" fields).map codec.str
  | _ => none

end Codec

/-- What a dequeue ends in. -/
inductive DequeueReply where
  | nothing
  | returned (jobId : String)
  | raised
deriving DecidableEq

/-- The keys that `BRPOP` is given, in its order. -/
def dequeueKeys (queueNames : List String) (priorityOrder : List JobPriority) : List String :=
  priorityOrder.flatMap fun priority => queueNames.map fun queueName => readyKey queueName priority

namespace RedisStore

variable {σ : Type} [LinearOrder σ] (codec : Codec σ)

/-- `LPUSH`. -/
def lpush (store : RedisStore σ) (key raw : String) : RedisStore σ :=
  { store with ready := Function.update store.ready key (raw :: store.ready key) }

/-- `ZREM`. -/
def zrem (store : RedisStore σ) (key member : String) : RedisStore σ :=
  { store with delayed := Function.update store.delayed key ((store.delayed key).discard [member]) }

/-- `ZADD`. -/
def zadd (store : RedisStore σ) (key member : String) (score : σ) : RedisStore σ :=
  { store with delayed := Function.update store.delayed key ((store.delayed key).add member score) }

def pushReady (store : RedisStore σ) (queueName : String) (priority : JobPriority) (jobId : JobId) : RedisStore σ :=
  store.lpush (readyKey queueName priority) (envelope jobId priority)

def pushDelayed (store : RedisStore σ) (queueName : String) (priority : JobPriority) (jobId : JobId)
    (readyAt : Datetime) : RedisStore σ :=
  store.zadd (delayedKey queueName) (envelope jobId priority) (codec.timestamp readyAt)

/-- The loop of the promotion script; what it has done stays done when it raises. -/
def promoteEach (key readyPrefix : String) : List String → RedisStore σ → Option Nat × RedisStore σ
  | [], store => (some 0, store)
  | member :: rest, store =>
      match codec.verdict member with
      | .skipped => promoteEach key readyPrefix rest store
      | .pushed suffix =>
          let (promoted, final) := promoteEach key readyPrefix rest ((store.lpush (readyPrefix ++ suffix) member).zrem key member)
          (promoted.map (· + 1), final)
      | .raised => (none, store)

/-- `ZRANGEBYSCORE` up to the present. -/
def due (store : RedisStore σ) (queueName : String) (now : Datetime) : List String :=
  (store.delayed (delayedKey queueName)).upTo (codec.timestamp now)

def promoteDue (store : RedisStore σ) (queueName : String) (now : Datetime) : Option Nat × RedisStore σ :=
  promoteEach codec (delayedKey queueName) (readyKeyPrefix queueName) (store.due codec queueName now) store

/-- `BRPOP`: the last entry of the first listed key that has one. -/
def brpop (store : RedisStore σ) (keys : List String) : Option (String × String) :=
  keys.findSome? fun key => (store.ready key).getLast?.map fun raw => (key, raw)

/-- `dequeue` at the instant at which its `BRPOP` takes effect. -/
def dequeue (store : RedisStore σ) (queueNames : List String) (priorityOrder : List JobPriority) :
    DequeueReply × RedisStore σ :=
  match store.brpop (dequeueKeys queueNames priorityOrder) with
  | none => (.nothing, store)
  | some (key, raw) =>
      let popped := { store with ready := Function.update store.ready key (store.ready key).dropLast }
      match codec.jobIdOf raw with
      | some jobId => (.returned jobId, popped)
      | none => (.raised, popped)

end RedisStore

/-- A call of a producer, a worker or a promoter. -/
inductive QueueCall where
  | pushReady (queueName : String) (priority : JobPriority) (jobId : JobId)
  | pushDelayed (queueName : String) (priority : JobPriority) (jobId : JobId) (readyAt : Datetime)
  | promoteDue (queueName : String) (now : Datetime)
  | dequeue (queueNames : List String) (priorityOrder : List JobPriority)

section Runs

variable {σ : Type} [LinearOrder σ] (codec : Codec σ)

def apply (store : RedisStore σ) : QueueCall → RedisStore σ
  | .pushReady queueName priority jobId => store.pushReady queueName priority jobId
  | .pushDelayed queueName priority jobId readyAt => store.pushDelayed codec queueName priority jobId readyAt
  | .promoteDue queueName now => (store.promoteDue codec queueName now).2
  | .dequeue queueNames priorityOrder => (store.dequeue codec queueNames priorityOrder).2

/-- The store after a run of calls, whoever makes them. -/
def after (store : RedisStore σ) (calls : List QueueCall) : RedisStore σ :=
  calls.foldl (apply codec) store

/-- The calls of a run, each with the store it finds. -/
def visited (store : RedisStore σ) : List QueueCall → List (RedisStore σ × QueueCall)
  | [] => []
  | call :: rest => (store, call) :: visited (apply codec store call) rest

end Runs

end AutomationHub.Jobs.RedisQueue
