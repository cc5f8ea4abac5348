import AutomationHub.Foundation.SlidingWindow
import AutomationHub.Model.Basic
import Mathlib.Algebra.Order.Floor.Ring
import Mathlib.Data.Rat.Floor

/-!
The two rate limiters: hits in the process's own memory, and hits in a sorted set on
a Redis server, which one script prunes, counts and extends.
-/

set_option autoImplicit false

namespace AutomationHub.RateLimiting

open Foundation Model

/-- A call of `check`, with what the clock reads and `uuid4` returns in it. -/
structure RateCall where
  key : String
  now : ℚ
  identifier : UUID
deriving DecidableEq

structure RateLimitExceededError where
  retryAfterSeconds : ℚ
deriving DecidableEq

abbrev RateLimiter := Limiter RateCall RateLimitExceededError

def minRetryAfterSeconds : ℚ := 1

/-- How long to wait, with the hits in the window given oldest first. -/
def retryAfter (windowSeconds now : ℚ) : Option ℚ → ℚ
  | some oldest => oldest + windowSeconds - now
  | none => windowSeconds

/-- `InMemoryRateLimiter`. -/
def inMemoryRateLimiter (limit : ℕ) (windowSeconds : ℚ) : RateLimiter where
  State := String → List ℚ
  initial := fun _ => []
  check := fun hits call =>
    let cutoff := call.now - windowSeconds
    let kept := (hits call.key).dropWhile fun hit => hit < cutoff
    if limit ≤ kept.length then
      (.error ⟨max (retryAfter windowSeconds call.now kept.head?) minRetryAfterSeconds⟩,
        Function.update hits call.key kept)
    else (.ok (), Function.update hits call.key (kept ++ [call.now]))

/-- The text of a hit's time and identifier. -/
structure HitMember where
  now : ℚ
  identifier : UUID
deriving DecidableEq

structure ScoredMember where
  score : ℚ
  member : HitMember

/-- The members in the order of their scores. -/
structure SortedSet where
  entries : List ScoredMember
  sorted : entries.Pairwise fun first second => first.score ≤ second.score

namespace SortedSet

def empty : SortedSet := ⟨[], List.Pairwise.nil⟩

def scores (set : SortedSet) : List ℚ := set.entries.map ScoredMember.score

def removeUpTo (set : SortedSet) (highest : ℚ) : SortedSet where
  entries := set.entries.filter fun entry => highest < entry.score
  sorted := set.sorted.filter _

/-- A member that is there already gets the new score. -/
def add (set : SortedSet) (score : ℚ) (member : HitMember) : SortedSet where
  entries :=
    let others := set.entries.filter fun entry => entry.member ≠ member
    (others.filter fun entry => entry.score ≤ score) ++ ⟨score, member⟩ :: others.filter fun entry => score < entry.score
  sorted := by
    have others := set.sorted.filter fun entry => decide (entry.member ≠ member)
    refine List.pairwise_append.mpr ⟨others.filter _, List.pairwise_cons.mpr ⟨?_, others.filter _⟩, ?_⟩
    · intro entry after
      exact le_of_lt (by simpa using (List.mem_filter.mp after).2)
    · intro first before second after
      have low : first.score ≤ score := by simpa using (List.mem_filter.mp before).2
      rcases List.mem_cons.mp after with rfl | after
      · exact low
      · have high : score < second.score := by simpa using (List.mem_filter.mp after).2
        exact low.trans high.le

end SortedSet

structure RedisKey where
  set : SortedSet
  expiresAt : Option ℚ

abbrev RedisServer := String → Option RedisKey

namespace RedisServer

/-- A key whose time has passed is gone. -/
def lookup (server : RedisServer) (now : ℚ) (key : String) : Option RedisKey :=
  (server key).filter fun stored => stored.expiresAt.all fun expiry => now ≤ expiry

def contents (server : RedisServer) (now : ℚ) (key : String) : SortedSet :=
  match server.lookup now key with
  | some stored => stored.set
  | none => SortedSet.empty

/-- A set that loses its last member goes with its key. -/
def zremrangebyscore (server : RedisServer) (now : ℚ) (key : String) (highest : ℚ) : RedisServer :=
  Function.update server key
    ((server.lookup now key).bind fun stored =>
      let remaining := stored.set.removeUpTo highest
      if remaining.entries = [] then none else some { stored with set := remaining })

def zcard (server : RedisServer) (now : ℚ) (key : String) : ℕ := (server.contents now key).entries.length

/-- `ZRANGE key 0 0 WITHSCORES`, of which only the score is used. -/
def zrangeFirst (server : RedisServer) (now : ℚ) (key : String) : Option ℚ := (server.contents now key).scores.head?

def zadd (server : RedisServer) (now : ℚ) (key : String) (score : ℚ) (member : HitMember) : RedisServer :=
  Function.update server key
    (some { set := (server.contents now key).add score member, expiresAt := (server.lookup now key).bind RedisKey.expiresAt })

def expire (server : RedisServer) (now : ℚ) (key : String) (seconds : ℤ) : RedisServer :=
  Function.update server key
    ((server.lookup now key).map fun stored => { stored with expiresAt := some (now + seconds) })

end RedisServer

/-- `_CHECK_SCRIPT`. -/
def checkScript (server : RedisServer) (key : String) (now window : ℚ) (limit : ℕ) (member : HitMember) :
    ℚ × RedisServer :=
  let cutoff := now - window
  let pruned := server.zremrangebyscore now key cutoff
  if limit ≤ pruned.zcard now key then (retryAfter window now (pruned.zrangeFirst now key), pruned)
  else (-1, (pruned.zadd now key now member).expire now key ⌈window⌉)

def bucketKey (category key : String) : String := "rate_limit:" ++ category ++ ":" ++ key

/-- `RedisRateLimiter`. -/
def redisRateLimiter (category : String) (limit : ℕ) (windowSeconds : ℚ) : RateLimiter where
  State := RedisServer
  initial := fun _ => none
  check := fun server call =>
    let (result, after) :=
      checkScript server (bucketKey category call.key) call.now windowSeconds limit ⟨call.now, call.identifier⟩
    if 0 ≤ result then (.error ⟨max result minRetryAfterSeconds⟩, after) else (.ok (), after)

end AutomationHub.RateLimiting
