import AutomationHub.Foundation.Pool
import Mathlib.Algebra.Order.Ring.Rat

/-!
The two response caches: entries in the process's own memory, and pickled entries on a
Redis server that expire there.
-/

set_option autoImplicit false

namespace AutomationHub.Caching

open Foundation Program

/-- What a computation, `pickle` or a library may raise; `own` are the exceptions of the application. -/
inductive PyException (E : Type) where
  | redisError
  | pickleError
  | valueError
  | eofError
  | attributeError
  | importError
  | typeError
  | own (error : E)
deriving DecidableEq

/-- A command that the server or the connection fails. -/
inductive RedisError where
  | redisError
deriving DecidableEq

/-- What the caches ask of their surroundings, and what a computation asks of its own; the last two only note what a
computation and a call have come to. -/
inductive CacheCall (Key Value E Query : Type) where
  | monotonic
  | storeGet (key : Key)
  | storeSet (key : Key) (expiresAt : ℚ) (value : Value)
  | redisGet (redisKey : String)
  | redisSetex (redisKey : String) (seconds : ℕ) (serialized : String)
  | external (query : Query)
  | computed (result : Except (PyException E) Value)
  | returned (result : Except (PyException E) Value)

section Caches

variable {Key Value Query E : Type}

def CacheCall.Reply (Answer : Query → Type) : CacheCall Key Value E Query → Type
  | .monotonic => ℚ
  | .storeGet _ => Option (ℚ × Value)
  | .storeSet .. => Unit
  | .redisGet _ => Except RedisError (Option String)
  | .redisSetex .. => Except RedisError Unit
  | .external query => Answer query
  | .computed _ => Unit
  | .returned _ => Unit

abbrev cacheSignature (Key Value E Query : Type) (Answer : Query → Type) : Signature :=
  ⟨CacheCall Key Value E Query, CacheCall.Reply Answer⟩

variable {Answer : Query → Type}

abbrev Cached (Key Value E Query : Type) (Answer : Query → Type) (α : Type) :=
  Program (cacheSignature Key Value E Query Answer) (PyException E) α

def monotonic : Cached Key Value E Query Answer ℚ :=
  .call .monotonic .done

structure TTLCache where
  ttlSeconds : ℚ

namespace TTLCache

def read (key : Key) : Cached Key Value E Query Answer (Option (ℚ × Value)) :=
  .call (.storeGet key) fun entry =>
    match entry with
    | some entry => do
        let now ← monotonic
        if now < entry.1 then return some entry
        return none
    | none => return none

def getOrCompute (cache : TTLCache) (key : Key) (compute : Cached Key Value E Query Answer Value) :
    Cached Key Value E Query Answer Value := do
  if cache.ttlSeconds ≤ 0 then compute
  else match ← read key with
    | some hit => return hit.2
    | none =>
        -- another thread may have stored the entry while this one waited for the key's lock
        match ← read key with
        | some hit => return hit.2
        | none =>
            let value ← compute
            let now ← monotonic
            .call (.storeSet key (now + cache.ttlSeconds) value) fun _ => return value

end TTLCache

/-- The texts are those of `pickle.dumps(value).hex()`, and `loads` is `pickle.loads(bytes.fromhex(text))`. -/
structure RedisCache (Key Value E : Type) where
  keyNamespace : String
  ttlSeconds : ℚ
  repr : Key → String
  sha256 : String → String
  dumps : Value → Except (PyException E) String
  loads : String → Except (PyException E) Value

namespace RedisCache

/-- What is relied on: keys are told apart by their digests, and what is pickled is unpickled again. -/
structure Documented (cache : RedisCache Key Value E) : Prop where
  repr_injective : Function.Injective cache.repr
  sha256_injective : Function.Injective cache.sha256
  round_trip : ∀ {value serialized}, cache.dumps value = .ok serialized → cache.loads serialized = .ok value

def redisKey (cache : RedisCache Key Value E) (key : Key) : String :=
  "cache:" ++ cache.keyNamespace ++ ":" ++ cache.sha256 (cache.repr key)

/-- `int(ttl_seconds) or 1`. -/
def seconds (cache : RedisCache Key Value E) : ℕ :=
  match cache.ttlSeconds.floor.toNat with
  | 0 => 1
  | seconds => seconds

/-- The exceptions of `pickle.loads` that are taken for a miss. -/
def isMiss : PyException E → Bool
  | .pickleError => true
  | .valueError => true
  | _ => false

def computeAndStore (cache : RedisCache Key Value E) (key : Key) (compute : Cached Key Value E Query Answer Value) :
    Cached Key Value E Query Answer Value := do
  let value ← compute
  match cache.dumps value with
  | .ok serialized => .call (.redisSetex (cache.redisKey key) cache.seconds serialized) fun _ => return value
  | .error .redisError => return value
  | .error error => throw error

def getOrCompute (cache : RedisCache Key Value E) (key : Key) (compute : Cached Key Value E Query Answer Value) :
    Cached Key Value E Query Answer Value :=
  if cache.ttlSeconds ≤ 0 then compute
  else .call (.redisGet (cache.redisKey key)) fun cached =>
    match cached with
    | .error _ => compute
    | .ok none => cache.computeAndStore key compute
    | .ok (some text) =>
        match cache.loads text with
        | .ok value => return value
        | .error error => if isMiss error then cache.computeAndStore key compute else throw error

end RedisCache

/-- Either of the two caches. -/
inductive ResponseCache (Key Value E : Type) where
  | memory (cache : TTLCache)
  | redis (cache : RedisCache Key Value E)

namespace ResponseCache

def ttlSeconds : ResponseCache Key Value E → ℚ
  | .memory cache => cache.ttlSeconds
  | .redis cache => cache.ttlSeconds

def getOrCompute (cache : ResponseCache Key Value E) (key : Key) (compute : Cached Key Value E Query Answer Value) :
    Cached Key Value E Query Answer Value :=
  match cache with
  | .memory cache => cache.getOrCompute key compute
  | .redis cache => cache.getOrCompute key compute

end ResponseCache

theorem RedisCache.Documented.redisKey_injective {cache : RedisCache Key Value E} (documented : cache.Documented) :
    Function.Injective cache.redisKey := by
  intro first second same
  have digests := (String.append_right_inj ..).mp same
  exact documented.repr_injective (documented.sha256_injective digests)

end Caches

end AutomationHub.Caching
