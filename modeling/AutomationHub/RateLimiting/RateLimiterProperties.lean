import AutomationHub.RateLimiting.RateLimiter

/-!
Both rate limiters are sliding windows over the accepted calls of a key: the one in
memory counts a hit that is just as old as the window is long, the one on Redis does not.
-/

set_option autoImplicit false

namespace AutomationHub.RateLimiting

open Foundation Model Limiter

def closedWindow (windowSeconds now hit : ℚ) : Bool := now - windowSeconds ≤ hit

def halfOpenWindow (windowSeconds now hit : ℚ) : Bool := now - windowSeconds < hit

def refusal (windowSeconds now : ℚ) (recent : List ℚ) : RateLimitExceededError :=
  ⟨max (retryAfter windowSeconds now recent.head?) minRetryAfterSeconds⟩

/-- The calls that both limiters are compared on: in the order of the clock, no identifier drawn twice. -/
def Admissible (calls : List RateCall) : Prop :=
  Ordered RateCall.now calls ∧ (calls.map RateCall.identifier).Nodup

abbrev windowOf (counts : ℚ → ℚ → Bool) (limit : ℕ) (windowSeconds : ℚ) : RateLimiter :=
  slidingWindow RateCall.key RateCall.now counts limit (refusal windowSeconds)

section Windows

variable {windowSeconds : ℚ}

theorem closedWindow_iff {now hit : ℚ} : closedWindow windowSeconds now hit = true ↔ now - windowSeconds ≤ hit := by
  simp [closedWindow]

theorem halfOpenWindow_iff {now hit : ℚ} : halfOpenWindow windowSeconds now hit = true ↔ now - windowSeconds < hit := by
  simp [halfOpenWindow]

theorem sliding_closedWindow : Sliding (closedWindow windowSeconds) := by
  intro hit earlier now _ before counted
  rw [closedWindow_iff] at *
  linarith

theorem sliding_halfOpenWindow : Sliding (halfOpenWindow windowSeconds) := by
  intro hit earlier now _ before counted
  rw [halfOpenWindow_iff] at *
  linarith

theorem filter_dropped {counts : ℚ → ℚ → Bool} {now later : ℚ} (hits : List ℚ)
    (kept : ∀ hit, counts later hit = true → counts now hit = true) :
    (hits.filter (counts now)).filter (counts later) = hits.filter (counts later) := by
  rw [List.filter_filter]
  refine List.filter_congr ?_
  intro hit _
  cases counted : counts later hit with
  | false => simp
  | true => simp [kept hit counted]

theorem hitsOf_own {call : RateCall} {added : List RateCall} (own : ∀ hit ∈ added, hit = call) :
    hitsOf RateCall.key RateCall.now added call.key = added.map RateCall.now := by
  have all : (added.filter fun hit => hit.key = call.key) = added :=
    List.filter_eq_self.mpr fun hit member => by simp [own hit member]
  rw [hitsOf, all]

theorem hitsOf_other {call : RateCall} {added : List RateCall} (own : ∀ hit ∈ added, hit = call) {key : String}
    (other : key ≠ call.key) : hitsOf RateCall.key RateCall.now added key = [] := by
  have absent : (added.filter fun hit => hit.key = key) = [] :=
    List.filter_eq_nil_iff.mpr fun hit member => by simp [own hit member, Ne.symm other]
  rw [hitsOf, absent, List.map_nil]

end Windows

section Memory

theorem dropWhile_eq_filter {hits : List ℚ} (sorted : hits.Pairwise (· ≤ ·)) (cutoff : ℚ) :
    (hits.dropWhile fun hit => hit < cutoff) = hits.filter fun hit => cutoff ≤ hit := by
  induction hits with
  | nil => rfl
  | cons oldest rest ih =>
      obtain ⟨least, ordered⟩ := List.pairwise_cons.mp sorted
      by_cases stale : oldest < cutoff
      · rw [List.dropWhile_cons_of_pos (by simpa using stale), List.filter_cons_of_neg (by simpa using stale), ih ordered]
      · rw [List.dropWhile_cons_of_neg (by simpa using stale)]
        have all : ∀ hit ∈ oldest :: rest, cutoff ≤ hit := by
          intro hit member
          rcases List.mem_cons.mp member with rfl | member
          · exact not_lt.mp stale
          · exact (not_lt.mp stale).trans (least hit member)
        exact (List.filter_eq_self.mpr (by simpa using all)).symm

/-- The hits in memory stand for the accepted calls, as far as any window counts them from now on. -/
structure Remembers (windowSeconds : ℚ) (before : List RateCall) (hits : String → List ℚ) (log : List RateCall) : Prop where
  agrees : ∀ key later, (∀ call ∈ before, call.now ≤ later) →
    (hits key).filter (closedWindow windowSeconds later) =
      (hitsOf RateCall.key RateCall.now log key).filter (closedWindow windowSeconds later)
  sorted : ∀ key, (hits key).Pairwise (· ≤ ·)
  known : ∀ key, ∀ hit ∈ hits key, ∃ call ∈ before, call.now = hit

theorem check_inMemory (limit : ℕ) (windowSeconds : ℚ) {hits : String → List ℚ} {call : RateCall} {kept : List ℚ}
    (pruned : ((hits call.key).dropWhile fun hit => hit < call.now - windowSeconds) = kept) :
    (inMemoryRateLimiter limit windowSeconds).check hits call =
      if kept.length < limit then (.ok (), Function.update hits call.key (kept ++ [call.now]))
      else (.error (refusal windowSeconds call.now kept), Function.update hits call.key kept) := by
  simp only [inMemoryRateLimiter, pruned]
  by_cases room : kept.length < limit
  · rw [if_neg (by omega), if_pos room]
  · rw [if_pos (by omega), if_neg room]
    rfl

/-- The hits that a call leaves are those that were kept, and its own if it was accepted. -/
theorem remembers_update {windowSeconds : ℚ} {before : List RateCall} {call : RateCall} {hits : String → List ℚ}
    {log added : List RateCall} (ordered : Ordered RateCall.now (before ++ [call]))
    (remembers : Remembers windowSeconds before hits log) (own : ∀ hit ∈ added, hit = call) :
    Remembers windowSeconds (before ++ [call])
      (Function.update hits call.key
        ((hits call.key).filter (closedWindow windowSeconds call.now) ++ added.map RateCall.now)) (log ++ added) := by
  have past : ∀ key, ∀ hit ∈ hits key, hit ≤ call.now := by
    intro key hit member
    obtain ⟨earlier, present, rfl⟩ := remembers.known key hit member
    exact ordered.le_last present
  constructor
  · intro key later since
    have earlier := remembers.agrees key later fun hit member => since hit (by simp [member])
    have reached : call.now ≤ later := since call (by simp)
    rw [hitsOf_append, List.filter_append, ← earlier]
    by_cases same : key = call.key
    · subst same
      rw [Function.update_self, List.filter_append, hitsOf_own own, filter_dropped]
      intro hit counted
      rw [closedWindow_iff] at *
      linarith
    · rw [Function.update_of_ne same, hitsOf_other own same]
      simp
  · intro key
    by_cases same : key = call.key
    · subst same
      rw [Function.update_self]
      refine List.pairwise_append.mpr ⟨(remembers.sorted _).filter _, ?_, ?_⟩
      · refine List.pairwise_map.mpr (List.Pairwise.imp_of_mem ?_ (List.pairwise_of_forall fun _ _ => True.intro))
        intro first second present also _
        rw [own _ present, own _ also]
      · intro hit member new added
        obtain ⟨_, present, rfl⟩ := List.mem_map.mp added
        rw [own _ present]
        exact past _ hit (List.mem_filter.mp member).1
    · rw [Function.update_of_ne same]
      exact remembers.sorted key
  · intro key hit member
    by_cases same : key = call.key
    · subst same
      rw [Function.update_self] at member
      rcases List.mem_append.mp member with member | new
      · obtain ⟨earlier, present, rfl⟩ := remembers.known _ hit (List.mem_filter.mp member).1
        exact ⟨earlier, by simp [present], rfl⟩
      · obtain ⟨added, present, rfl⟩ := List.mem_map.mp new
        exact ⟨call, by simp, by rw [own _ present]⟩
    · rw [Function.update_of_ne same] at member
      obtain ⟨earlier, present, rfl⟩ := remembers.known key hit member
      exact ⟨earlier, by simp [present], rfl⟩

theorem remembers_step {limit : ℕ} {windowSeconds : ℚ} {before : List RateCall} {call : RateCall}
    {hits : String → List ℚ} {log : List RateCall} (ordered : Ordered RateCall.now (before ++ [call]))
    (remembers : Remembers windowSeconds before hits log) :
    ((inMemoryRateLimiter limit windowSeconds).check hits call).1 =
        ((windowOf (closedWindow windowSeconds) limit windowSeconds).check log call).1 ∧
      Remembers windowSeconds (before ++ [call]) ((inMemoryRateLimiter limit windowSeconds).check hits call).2
        ((windowOf (closedWindow windowSeconds) limit windowSeconds).check log call).2 := by
  have pruned : ((hits call.key).dropWhile fun hit => hit < call.now - windowSeconds) =
      (hits call.key).filter (closedWindow windowSeconds call.now) := dropWhile_eq_filter (remembers.sorted call.key) _
  have agreed := remembers.agrees call.key call.now fun earlier member => ordered.le_last member
  have checked := check_inMemory limit windowSeconds pruned
  have judged := @slidingWindow_check _ _ _ _ _ RateCall.key RateCall.now (closedWindow windowSeconds) limit
    (refusal windowSeconds) log call _ agreed.symm
  by_cases room : ((hits call.key).filter (closedWindow windowSeconds call.now)).length < limit
  · have own : ∀ hit ∈ [call], hit = call := by simp
    rw [checked, if_pos room, judged, if_pos room]
    exact ⟨rfl, remembers_update ordered remembers own⟩
  · have own : ∀ hit ∈ ([] : List RateCall), hit = call := by simp
    have kept := remembers_update ordered remembers own
    rw [List.map_nil, List.append_nil, List.append_nil] at kept
    rw [checked, if_neg room, judged, if_neg room]
    exact ⟨rfl, kept⟩

theorem inMemory_eq_window {limit : ℕ} {windowSeconds : ℚ} {calls : List RateCall} (ordered : Ordered RateCall.now calls) :
    (inMemoryRateLimiter limit windowSeconds).verdicts calls =
        (windowOf (closedWindow windowSeconds) limit windowSeconds).verdicts calls ∧
      Remembers windowSeconds calls ((inMemoryRateLimiter limit windowSeconds).after calls)
        ((windowOf (closedWindow windowSeconds) limit windowSeconds).accepted calls) := by
  rw [← slidingWindow_after]
  have start : Remembers windowSeconds [] (fun _ => []) [] :=
    ⟨fun _ _ _ => rfl, fun _ => List.Pairwise.nil, fun _ _ member => nomatch member⟩
  exact @verdicts_eq_of_lockstep _ _ (inMemoryRateLimiter limit windowSeconds)
    (windowOf (closedWindow windowSeconds) limit windowSeconds) (Ordered RateCall.now) (Remembers windowSeconds)
    (fun _ _ ordered => ordered.before) start (fun _ _ _ _ ordered remembers => remembers_step ordered remembers) calls
    ordered

end Memory

section Redis

open RedisServer SortedSet

variable {server : RedisServer} {now window : ℚ} {key : String} {limit : ℕ} {member : HitMember}

theorem bucketKey_injective (category : String) : Function.Injective (bucketKey category) := by
  intro first second same
  have texts := congrArg String.toList same
  simp only [bucketKey, String.toList_append, List.append_cancel_left_eq] at texts
  exact String.toList_injective texts

theorem lookup_some {stored : RedisKey} (found : server.lookup now key = some stored) :
    server key = some stored ∧ (stored.expiresAt.all fun expiry => now ≤ expiry) = true :=
  Option.filter_eq_some_iff.mp found

theorem lookup_update {stored : RedisKey} (alive : (stored.expiresAt.all fun expiry => now ≤ expiry) = true) :
    RedisServer.lookup (Function.update server key (some stored)) now key = some stored := by
  simp only [RedisServer.lookup, Function.update_self, Option.filter_some, alive, if_true]

theorem removeUpTo_empty (highest : ℚ) : SortedSet.empty.removeUpTo highest = SortedSet.empty := rfl

theorem contents_zremrangebyscore (server : RedisServer) (now : ℚ) (key : String) (highest : ℚ) :
    (server.zremrangebyscore now key highest).contents now key = (server.contents now key).removeUpTo highest := by
  unfold RedisServer.contents RedisServer.zremrangebyscore
  cases found : server.lookup now key with
  | none => simp [RedisServer.lookup, removeUpTo_empty]
  | some stored =>
      obtain ⟨-, alive⟩ := lookup_some found
      by_cases bare : (stored.set.removeUpTo highest).entries = []
      · have emptied : stored.set.removeUpTo highest = SortedSet.empty := by
          cases kept : stored.set.removeUpTo highest with
          | mk entries sorted =>
              rw [kept] at bare
              subst bare
              rfl
        rw [Option.bind_some]
        dsimp only
        rw [if_pos bare, emptied]
        simp [RedisServer.lookup]
      · have still := @lookup_update server now key { stored with set := stored.set.removeUpTo highest } alive
        rw [Option.bind_some]
        dsimp only
        rw [if_neg bare, still]

theorem checkScript_refuses {kept : SortedSet} (pruned : (server.contents now key).removeUpTo (now - window) = kept)
    (full : limit ≤ kept.entries.length) :
    checkScript server key now window limit member =
      (retryAfter window now kept.scores.head?, server.zremrangebyscore now key (now - window)) := by
  simp only [checkScript, RedisServer.zcard, RedisServer.zrangeFirst, contents_zremrangebyscore, pruned, if_pos full]

theorem checkScript_accepts {kept : SortedSet} (pruned : (server.contents now key).removeUpTo (now - window) = kept)
    (room : ¬ limit ≤ kept.entries.length) :
    checkScript server key now window limit member =
      (-1, Function.update server key (some ⟨kept.add now member, some (now + ⌈window⌉)⟩)) := by
  simp only [checkScript, RedisServer.zcard, contents_zremrangebyscore, pruned, if_neg room]
  have alive : (((server.zremrangebyscore now key (now - window)).lookup now key).bind RedisKey.expiresAt).all
      (fun expiry => decide (now ≤ expiry)) = true := by
    cases found : (server.zremrangebyscore now key (now - window)).lookup now key with
    | none => rfl
    | some stored => exact (lookup_some found).2
  have added : (server.zremrangebyscore now key (now - window)).zadd now key now member =
      Function.update server key (some ⟨kept.add now member,
        ((server.zremrangebyscore now key (now - window)).lookup now key).bind RedisKey.expiresAt⟩) := by
    unfold RedisServer.zadd
    rw [contents_zremrangebyscore, pruned]
    exact Function.update_idem ..
  rw [added, RedisServer.expire, lookup_update alive, Function.update_idem]
  rfl

theorem scores_removeUpTo (set : SortedSet) (highest : ℚ) :
    (set.removeUpTo highest).scores = set.scores.filter fun score => highest < score := by
  simp only [SortedSet.scores, SortedSet.removeUpTo, List.filter_map]
  rfl

theorem scores_add {set : SortedSet} {score : ℚ} (fresh : ∀ entry ∈ set.entries, entry.member ≠ member)
    (highest : ∀ entry ∈ set.entries, entry.score ≤ score) : (set.add score member).scores = set.scores ++ [score] := by
  have others : (set.entries.filter fun entry => entry.member ≠ member) = set.entries :=
    List.filter_eq_self.mpr fun entry present => by simpa using fresh entry present
  have low : (set.entries.filter fun entry => entry.score ≤ score) = set.entries :=
    List.filter_eq_self.mpr fun entry present => by simpa using highest entry present
  have high : (set.entries.filter fun entry => score < entry.score) = [] :=
    List.filter_eq_nil_iff.mpr fun entry present => by simpa using highest entry present
  simp only [SortedSet.scores, SortedSet.add, others, low, high, List.map_append, List.map_cons, List.map_nil]

def RedisServer.scores (server : RedisServer) (key : String) : List ℚ :=
  match server key with
  | some stored => stored.set.scores
  | none => []

theorem zremrangebyscore_some {highest : ℚ} {stored : RedisKey}
    (found : server.zremrangebyscore now key highest key = some stored) :
    ∃ held, server key = some held ∧ stored.expiresAt = held.expiresAt ∧ stored.set = held.set.removeUpTo highest := by
  simp only [RedisServer.zremrangebyscore, Function.update_self, Option.bind_eq_some_iff] at found
  obtain ⟨held, present, remaining⟩ := found
  split at remaining
  · cases remaining
  · cases remaining
    exact ⟨held, (lookup_some present).1, rfl, rfl⟩

theorem scores_zremrangebyscore (server : RedisServer) (now : ℚ) (key : String) (highest : ℚ) :
    (server.zremrangebyscore now key highest).scores key = ((server.contents now key).removeUpTo highest).scores := by
  rw [← contents_zremrangebyscore]
  unfold RedisServer.contents RedisServer.scores
  cases stored : server.zremrangebyscore now key highest key with
  | none => simp [RedisServer.lookup, stored, SortedSet.scores, SortedSet.empty]
  | some held =>
      have alive : (held.expiresAt.all fun expiry => decide (now ≤ expiry)) = true := by
        simp only [RedisServer.zremrangebyscore, Function.update_self, Option.bind_eq_some_iff] at stored
        obtain ⟨original, present, remaining⟩ := stored
        split at remaining
        · cases remaining
        · cases remaining
          exact (lookup_some present).2
      have found : (server.zremrangebyscore now key highest).lookup now key = some held := by
        rw [RedisServer.lookup, stored, Option.filter_some, if_pos alive]
      rw [found]

theorem mem_contents {entry : ScoredMember} (present : entry ∈ (server.contents now key).entries) :
    ∃ stored, server key = some stored ∧ entry ∈ stored.set.entries := by
  unfold RedisServer.contents at present
  cases found : server.lookup now key with
  | none =>
      rw [found] at present
      cases present
  | some stored =>
      rw [found] at present
      exact ⟨stored, (lookup_some found).1, present⟩

theorem check_redis_refuses {category : String} {call : RateCall} {kept : SortedSet} (positive : 0 < window)
    (pruned : (server.contents call.now (bucketKey category call.key)).removeUpTo (call.now - window) = kept)
    (full : limit ≤ kept.entries.length) :
    (redisRateLimiter category limit window).check server call =
      (.error (refusal window call.now kept.scores),
        server.zremrangebyscore call.now (bucketKey category call.key) (call.now - window)) := by
  have waits : 0 ≤ retryAfter window call.now kept.scores.head? := by
    cases oldest : kept.scores.head? with
    | none => exact positive.le
    | some score =>
        have present := List.mem_of_mem_head? (Option.mem_def.mpr oldest)
        rw [← pruned, scores_removeUpTo] at present
        have recent : call.now - window < score := by simpa using (List.mem_filter.mp present).2
        simp only [retryAfter]
        linarith
  simp only [redisRateLimiter, checkScript_refuses pruned full, if_pos waits]
  rfl

theorem check_redis_accepts {category : String} {call : RateCall} {kept : SortedSet}
    (pruned : (server.contents call.now (bucketKey category call.key)).removeUpTo (call.now - window) = kept)
    (room : ¬ limit ≤ kept.entries.length) :
    (redisRateLimiter category limit window).check server call =
      (.ok (), Function.update server (bucketKey category call.key)
        (some ⟨kept.add call.now ⟨call.now, call.identifier⟩, some (call.now + ⌈window⌉)⟩)) := by
  have negative : ¬ (0 : ℚ) ≤ -1 := by norm_num
  simp only [redisRateLimiter, checkScript_accepts pruned room, if_neg negative]

/-- The sets on the server stand for the accepted calls, as far as any window counts them from now on; a key lasts as long
as its members do. -/
structure Mirrors (category : String) (window : ℚ) (before : List RateCall) (server : RedisServer) (log : List RateCall) :
    Prop where
  agrees : ∀ key later, (∀ call ∈ before, call.now ≤ later) →
    (server.scores (bucketKey category key)).filter (halfOpenWindow window later) =
      (hitsOf RateCall.key RateCall.now log key).filter (halfOpenWindow window later)
  lasting : ∀ key stored, server (bucketKey category key) = some stored →
    ∃ expiry, stored.expiresAt = some expiry ∧ ∀ score ∈ stored.set.scores, score + window ≤ expiry
  known : ∀ key stored, server (bucketKey category key) = some stored → ∀ entry ∈ stored.set.entries,
    ∃ call ∈ before, call.now = entry.score ∧ call.identifier = entry.member.identifier

section Mirrored

variable {category : String} {before : List RateCall} {call : RateCall} {log added : List RateCall}

theorem mirrors_pruned (ordered : Ordered RateCall.now (before ++ [call])) (mirrors : Mirrors category window before server log) :
    ((server.contents call.now (bucketKey category call.key)).removeUpTo (call.now - window)).scores =
      (hitsOf RateCall.key RateCall.now log call.key).filter (halfOpenWindow window call.now) := by
  have agreed := mirrors.agrees call.key call.now fun earlier present => ordered.le_last present
  rw [scores_removeUpTo, ← agreed]
  unfold RedisServer.contents RedisServer.scores
  cases stored : server (bucketKey category call.key) with
  | none => simp [RedisServer.lookup, stored, SortedSet.scores, SortedSet.empty]
  | some held =>
      obtain ⟨expiry, expires, lasting⟩ := mirrors.lasting call.key held stored
      by_cases alive : call.now ≤ expiry
      · have found : server.lookup call.now (bucketKey category call.key) = some held := by
          simp [RedisServer.lookup, stored, expires, alive]
        rw [found]
        rfl
      · have gone : server.lookup call.now (bucketKey category call.key) = none := by
          simp [RedisServer.lookup, stored, expires, alive]
        have stale : held.set.scores.filter (halfOpenWindow window call.now) = [] := by
          refine List.filter_eq_nil_iff.mpr ?_
          intro score present
          have outlasted := lasting score present
          rw [halfOpenWindow_iff]
          linarith
        rw [gone, stale]
        rfl

/-- The server after a call whose key holds the counted calls, and the call itself if it was accepted. -/
theorem mirrors_update (mirrors : Mirrors category window before server log)
    (own : ∀ hit ∈ added, hit = call) {left : RedisServer}
    (others : ∀ other, other ≠ bucketKey category call.key → left other = server other)
    (scores : left.scores (bucketKey category call.key) =
      (hitsOf RateCall.key RateCall.now log call.key).filter (halfOpenWindow window call.now) ++ added.map RateCall.now)
    (lasting : ∀ stored, left (bucketKey category call.key) = some stored →
      ∃ expiry, stored.expiresAt = some expiry ∧ ∀ score ∈ stored.set.scores, score + window ≤ expiry)
    (known : ∀ stored, left (bucketKey category call.key) = some stored → ∀ entry ∈ stored.set.entries,
      ∃ earlier ∈ before ++ [call], earlier.now = entry.score ∧ earlier.identifier = entry.member.identifier) :
    Mirrors category window (before ++ [call]) left (log ++ added) := by
  have apart : ∀ key, key ≠ call.key → left (bucketKey category key) = server (bucketKey category key) :=
    fun key other => others _ fun same => other (bucketKey_injective category same)
  constructor
  · intro key later since
    have earlier := mirrors.agrees key later fun hit present => since hit (by simp [present])
    have reached : call.now ≤ later := since call (by simp)
    rw [hitsOf_append, List.filter_append]
    by_cases same : key = call.key
    · subst same
      rw [scores, hitsOf_own own, List.filter_append, filter_dropped]
      intro hit counted
      rw [halfOpenWindow_iff] at *
      linarith
    · rw [hitsOf_other own same, ← earlier, RedisServer.scores, RedisServer.scores, apart key same]
      simp
  · intro key stored found
    by_cases same : key = call.key
    · subst same
      exact lasting stored found
    · exact mirrors.lasting key stored (apart key same ▸ found)
  · intro key stored found
    by_cases same : key = call.key
    · subst same
      exact known stored found
    · intro entry present
      obtain ⟨earlier, member, rest⟩ := mirrors.known key stored (apart key same ▸ found) entry present
      exact ⟨earlier, by simp [member], rest⟩

theorem mirrors_step (positive : 0 < window) (admissible : Admissible (before ++ [call]))
    (mirrors : Mirrors category window before server log) :
    ((redisRateLimiter category limit window).check server call).1 =
        ((windowOf (halfOpenWindow window) limit window).check log call).1 ∧
      Mirrors category window (before ++ [call]) ((redisRateLimiter category limit window).check server call).2
        ((windowOf (halfOpenWindow window) limit window).check log call).2 := by
  obtain ⟨ordered, distinct⟩ := admissible
  have counted := mirrors_pruned ordered mirrors
  have judged := @slidingWindow_check _ _ _ _ _ RateCall.key RateCall.now (halfOpenWindow window) limit
    (refusal window) log call _ counted.symm
  generalize pruned : (server.contents call.now (bucketKey category call.key)).removeUpTo (call.now - window) = kept
    at counted judged
  have length : kept.scores.length = kept.entries.length := List.length_map ..
  have known : ∀ entry ∈ kept.entries,
      ∃ earlier ∈ before, earlier.now = entry.score ∧ earlier.identifier = entry.member.identifier := by
    intro entry present
    rw [← pruned] at present
    obtain ⟨stored, found, member⟩ := mem_contents (List.mem_filter.mp present).1
    exact mirrors.known call.key stored found entry member
  by_cases full : limit ≤ kept.entries.length
  · rw [check_redis_refuses positive pruned full, judged, if_neg (by omega)]
    have own : ∀ hit ∈ ([] : List RateCall), hit = call := by simp
    have onward : Mirrors category window (before ++ [call])
        (server.zremrangebyscore call.now (bucketKey category call.key) (call.now - window)) (log ++ []) := by
      apply mirrors_update mirrors own
      · exact fun other apart => Function.update_of_ne apart ..
      · rw [scores_zremrangebyscore, pruned, counted, List.map_nil, List.append_nil]
      · intro stored found
        obtain ⟨held, present, expires, remaining⟩ := zremrangebyscore_some found
        obtain ⟨expiry, expiring, lasting⟩ := mirrors.lasting call.key held present
        refine ⟨expiry, expires.trans expiring, ?_⟩
        intro score member
        rw [remaining, scores_removeUpTo] at member
        exact lasting score (List.mem_filter.mp member).1
      · intro stored found entry member
        obtain ⟨held, present, -, remaining⟩ := zremrangebyscore_some found
        rw [remaining] at member
        obtain ⟨earlier, heard, rest⟩ := mirrors.known call.key held present entry (List.mem_filter.mp member).1
        exact ⟨earlier, by simp [heard], rest⟩
    rw [List.append_nil] at onward
    exact ⟨rfl, onward⟩
  · rw [check_redis_accepts pruned full, judged, if_pos (by omega)]
    have own : ∀ hit ∈ [call], hit = call := by simp
    have fresh : ∀ entry ∈ kept.entries, entry.member ≠ ⟨call.now, call.identifier⟩ := by
      intro entry present same
      obtain ⟨earlier, member, -, identified⟩ := known entry present
      rw [same] at identified
      rw [List.map_append, List.map_singleton] at distinct
      exact (List.nodup_append.mp distinct).2.2 _ (List.mem_map_of_mem member) _ (List.mem_singleton_self _) identified
    have highest : ∀ entry ∈ kept.entries, entry.score ≤ call.now := by
      intro entry present
      obtain ⟨earlier, member, instant, -⟩ := known entry present
      exact instant ▸ ordered.le_last member
    have added := scores_add fresh highest
    have onward : Mirrors category window (before ++ [call]) (Function.update server (bucketKey category call.key)
        (some ⟨kept.add call.now ⟨call.now, call.identifier⟩, some (call.now + ⌈window⌉)⟩)) (log ++ [call]) := by
      apply mirrors_update mirrors own
      · exact fun other apart => Function.update_of_ne apart ..
      · simp only [RedisServer.scores, Function.update_self, added, counted, List.map_cons, List.map_nil]
      · intro stored found
        rw [Function.update_self] at found
        cases found
        refine ⟨_, rfl, ?_⟩
        intro score member
        rw [added] at member
        have instant : score ≤ call.now := by
          rcases List.mem_append.mp member with member | last
          · obtain ⟨entry, present, rfl⟩ := List.mem_map.mp member
            exact highest entry present
          · exact (List.mem_singleton.mp last).le
        have rounded := Int.le_ceil window
        linarith
      · intro stored found entry member
        rw [Function.update_self] at found
        cases found
        simp only [SortedSet.add, List.mem_append, List.mem_cons, List.mem_filter] at member
        rcases member with ⟨⟨present, -⟩, -⟩ | rfl | ⟨⟨present, -⟩, -⟩
        · obtain ⟨earlier, heard, rest⟩ := known entry present
          exact ⟨earlier, by simp [heard], rest⟩
        · exact ⟨call, by simp, rfl, rfl⟩
        · obtain ⟨earlier, heard, rest⟩ := known entry present
          exact ⟨earlier, by simp [heard], rest⟩
    exact ⟨rfl, onward⟩

theorem Admissible.earlier (admissible : Admissible (before ++ [call])) : Admissible before := by
  refine ⟨admissible.1.before, ?_⟩
  have distinct := admissible.2
  rw [List.map_append] at distinct
  exact (List.nodup_append.mp distinct).1

theorem redis_eq_window (category : String) {limit : ℕ} {window : ℚ} (positive : 0 < window) {calls : List RateCall}
    (admissible : Admissible calls) :
    (redisRateLimiter category limit window).verdicts calls =
      (windowOf (halfOpenWindow window) limit window).verdicts calls := by
  have start : Mirrors category window [] (fun _ => none) [] :=
    ⟨fun _ _ _ => rfl, fun _ _ found => (nomatch found), fun _ _ found => (nomatch found)⟩
  exact (@verdicts_eq_of_lockstep _ _ (redisRateLimiter category limit window)
    (windowOf (halfOpenWindow window) limit window) Admissible (Mirrors category window)
    (fun _ _ admissible => admissible.earlier) start
    (fun _ _ _ _ admissible mirrors => mirrors_step positive admissible mirrors) calls admissible).1

end Mirrored

end Redis

end AutomationHub.RateLimiting
