import AutomationHub.Caching.CacheRuns

/-!
What calls of `get_or_compute` return, whichever order their lookups, computations and
stores come in.
-/

set_option autoImplicit false

namespace AutomationHub.Caching

open Foundation Program

section Laws

variable {Key Value E ι : Type} (keys : ι → Key) (calls : ι → CallRecord Value E ι)

/-- The computation of a call for the key returned the value, and the value was stored at the instant. -/
def Vouched (stores : List (ι × ℚ)) (key : Key) (value : Value) (instant : ℚ) : Prop :=
  ∃ thread, (thread, instant) ∈ stores ∧ keys thread = key ∧ (calls thread).computed = some (.ok value)

/-- Nothing was stored for the key after the instant. -/
def Latest (stores : List (ι × ℚ)) (key : Key) (instant : ℚ) : Prop :=
  ∀ thread other, (thread, other) ∈ stores → keys thread = key → other ≤ instant

/-- What the call returned is what its own computation came to, or a value that was computed for its key and stored at
most the lifetime before its lookup. -/
def Fresh (cache : ResponseCache Key Value E) (thread : ι) : Prop :=
  ∀ result, (calls thread).returned = some result →
    (calls thread).computed = some result ∨
      ∃ value instant, result = .ok value ∧ Vouched keys calls (calls thread).seen (keys thread) value instant ∧
        (calls thread).instant ≤ instant + cache.ttlSeconds

variable {keys calls} {stores : List (ι × ℚ)}

theorem Vouched.grow {later : ι → CallRecord Value E ι} {key : Key} {value : Value} {instant : ℚ}
    (vouched : Vouched keys calls stores key value instant)
    (kept : ∀ thread result, (calls thread).computed = some result → (later thread).computed = some result) :
    Vouched keys later stores key value instant := by
  obtain ⟨thread, member, same, computed⟩ := vouched
  exact ⟨thread, member, same, kept thread _ computed⟩

theorem Vouched.append {key : Key} {value : Value} {instant : ℚ} (vouched : Vouched keys calls stores key value instant)
    (more : List (ι × ℚ)) : Vouched keys calls (stores ++ more) key value instant := by
  obtain ⟨thread, member, same, computed⟩ := vouched
  exact ⟨thread, List.mem_append_left more member, same, computed⟩

end Laws

section Steps

variable {Key Value E Query ι : Type} {Answer : Query → Type} [DecidableEq Key] [DecidableEq ι]
  {cache : ResponseCache Key Value E} {keys : ι → Key} {thread : ι} {before state after : CacheState Key Value E ι}
  {request : CacheCall Key Value E Query} {reply : CacheCall.Reply Answer request}

theorem calls_others (acted : Acts thread state request reply after) {other : ι} (apart : other ≠ thread) :
    after.calls other = state.calls other := by
  cases request with
  | monotonic => rw [acted.2]; exact Function.update_of_ne apart ..
  | storeGet key => rw [acted.2]; exact Function.update_of_ne apart ..
  | storeSet key expiresAt value => rw [acted]
  | redisGet redisKey =>
      obtain ⟨found, -, -, same⟩ := acted
      rw [same]
      exact Function.update_of_ne apart ..
  | redisSetex redisKey seconds serialized =>
      rcases acted with ⟨-, same⟩ | same <;> rw [same]
  | external query => rw [acted]
  | computed result => rw [acted]; exact Function.update_of_ne apart ..
  | returned result => rw [acted]; exact Function.update_of_ne apart ..

theorem foreseen_of_acts (acted : Acts thread state request reply after) :
    Foreseen (state.calls thread) request reply (after.calls thread) := by
  cases request with
  | monotonic => rw [acted.1, acted.2]; exact Function.update_self ..
  | storeGet key => rw [acted.1, acted.2]; exact ⟨state.stores, Function.update_self ..⟩
  | storeSet key expiresAt value => rw [acted]; rfl
  | redisGet redisKey =>
      obtain ⟨found, -, replied, same⟩ := acted
      rw [same]
      exact ⟨found, state.stores, state.clock, replied, Function.update_self ..⟩
  | redisSetex redisKey seconds serialized =>
      rcases acted with ⟨-, same⟩ | same <;> rw [same] <;> rfl
  | external query => rw [acted]; rfl
  | computed result => rw [acted]; exact Function.update_self ..
  | returned result => rw [acted]; exact Function.update_self ..

theorem computed_kept (acted : Acts thread state request reply after)
    (permitted : (state.calls thread).returned = none ∧ cache.Permits (keys thread) (state.calls thread) request) :
    ∀ other result, (state.calls other).computed = some result → (after.calls other).computed = some result := by
  intro other result computed
  by_cases apart : other = thread
  · subst apart
    have noted := foreseen_of_acts acted
    cases request with
    | monotonic => rw [noted]; exact computed
    | storeGet key => obtain ⟨seen, same⟩ := noted; rw [same]; exact computed
    | storeSet key expiresAt value => rw [noted]; exact computed
    | redisGet redisKey => obtain ⟨found, seen, instant, -, same⟩ := noted; rw [same]; exact computed
    | redisSetex redisKey seconds serialized => rw [noted]; exact computed
    | external query => rw [noted]; exact computed
    | computed outcome =>
        have unset : (state.calls other).computed = none := by
          cases cache <;> exact permitted.2
        rw [unset] at computed
        cases computed
    | returned outcome => rw [noted]; exact computed
  · rw [calls_others acted apart]
    exact computed

/-- Only values that were computed are stored, and every result follows from what its call met. -/
structure Accounted (cache : ResponseCache Key Value E) (state : CacheState Key Value E ι) : Prop where
  stores : ∀ thread instant, (thread, instant) ∈ state.stores →
    instant ≤ state.clock ∧ ∃ value, (state.calls thread).computed = some (.ok value)
  returned : ∀ thread result, (state.calls thread).returned = some result → cache.Explains (state.calls thread) result

omit [DecidableEq Key] [DecidableEq ι] in
theorem Accounted.drift (accounted : Accounted cache before) (drifts : Drifts cache before state) :
    Accounted cache state := by
  constructor
  · intro thread instant member
    rw [drifts.stores] at member
    rw [drifts.calls]
    obtain ⟨earlier, computed⟩ := accounted.stores thread instant member
    exact ⟨earlier.trans drifts.clock, computed⟩
  · rw [drifts.calls]
    exact accounted.returned

theorem stores_of_acts (acted : Acts thread state request reply after)
    (permitted : (state.calls thread).returned = none ∧ cache.Permits (keys thread) (state.calls thread) request) :
    after.clock = state.clock ∧ (after.stores = state.stores ∨ after.stores = state.stores ++ [(thread, state.clock)] ∧
      after.calls = state.calls ∧ ∃ value, (state.calls thread).computed = some (.ok value)) := by
  cases request with
  | monotonic => rw [acted.2]; exact ⟨rfl, .inl rfl⟩
  | storeGet key => rw [acted.2]; exact ⟨rfl, .inl rfl⟩
  | storeSet key expiresAt value =>
      cases cache with
      | memory cache => rw [acted]; exact ⟨rfl, .inr ⟨rfl, rfl, value, permitted.2.2.1⟩⟩
      | redis cache => exact permitted.2.elim
  | redisGet redisKey => obtain ⟨found, -, -, same⟩ := acted; rw [same]; exact ⟨rfl, .inl rfl⟩
  | redisSetex redisKey seconds serialized =>
      cases cache with
      | memory cache => exact permitted.2.elim
      | redis cache =>
          obtain ⟨-, -, value, computed, -⟩ := permitted.2
          rcases acted with ⟨-, same⟩ | same
          · rw [same]; exact ⟨rfl, .inl rfl⟩
          · rw [same]; exact ⟨rfl, .inr ⟨rfl, rfl, value, computed⟩⟩
  | external query => rw [acted]; exact ⟨rfl, .inl rfl⟩
  | computed result => rw [acted]; exact ⟨rfl, .inl rfl⟩
  | returned result => rw [acted]; exact ⟨rfl, .inl rfl⟩

theorem Accounted.act (accounted : Accounted cache state) (acted : Acts thread state request reply after)
    (permitted : (state.calls thread).returned = none ∧ cache.Permits (keys thread) (state.calls thread) request) :
    Accounted cache after := by
  obtain ⟨clock, stores⟩ := stores_of_acts acted permitted
  have kept := computed_kept acted permitted
  constructor
  · intro other instant member
    rw [clock]
    have old : (other, instant) ∈ state.stores →
        instant ≤ state.clock ∧ ∃ value, (after.calls other).computed = some (.ok value) := by
      intro member
      obtain ⟨earlier, value, computed⟩ := accounted.stores other instant member
      exact ⟨earlier, value, kept other _ computed⟩
    rcases stores with same | ⟨same, -, value, computed⟩
    · exact old (same ▸ member)
    · rw [same] at member
      rcases List.mem_append.mp member with earlier | added
      · exact old earlier
      · obtain ⟨rfl, rfl⟩ := Prod.mk.injEq .. ▸ List.mem_singleton.mp added
        exact ⟨le_rfl, value, kept other _ computed⟩
  · intro other result returned
    by_cases apart : other = thread
    · subst apart
      have noted := foreseen_of_acts acted
      cases request with
      | returned outcome =>
          rw [noted] at returned ⊢
          cases returned
          cases cache <;> exact permitted.2
      | monotonic => rw [noted] at returned; rw [permitted.1] at returned; cases returned
      | storeGet key => obtain ⟨seen, same⟩ := noted; rw [same, permitted.1] at returned; cases returned
      | storeSet key expiresAt value => rw [noted, permitted.1] at returned; cases returned
      | redisGet redisKey =>
          obtain ⟨found, seen, instant, -, same⟩ := noted
          rw [same, permitted.1] at returned
          cases returned
      | redisSetex redisKey seconds serialized => rw [noted, permitted.1] at returned; cases returned
      | external query => rw [noted, permitted.1] at returned; cases returned
      | computed outcome => rw [noted, permitted.1] at returned; cases returned
    · rw [calls_others acted apart] at returned ⊢
      exact accounted.returned other result returned

/-- The entries of the process's memory, and those that the calls found in it, are values that were computed for their
keys and expire in time. -/
structure MemoryCoherent (cache : TTLCache) (keys : ι → Key) (state : CacheState Key Value E ι) : Prop where
  instants : ∀ thread, (state.calls thread).instant ≤ state.clock
  memory : ∀ key expiresAt value, state.memory key = some (expiresAt, value) →
    ∃ instant, Vouched keys state.calls state.stores key value instant ∧ expiresAt ≤ instant + cache.ttlSeconds
  looked : ∀ thread expiresAt value, (state.calls thread).looked = some (expiresAt, value) →
    ∃ instant, Vouched keys state.calls (state.calls thread).seen (keys thread) value instant ∧
      expiresAt ≤ instant + cache.ttlSeconds

section Memory

variable {ttl : TTLCache}

omit [DecidableEq Key] [DecidableEq ι] in
theorem MemoryCoherent.drift (coherent : MemoryCoherent ttl keys before) (drifts : Drifts cache before state) :
    MemoryCoherent ttl keys state := by
  constructor
  · intro thread
    rw [drifts.calls]
    exact (coherent.instants thread).trans drifts.clock
  · rw [drifts.memory, drifts.calls, drifts.stores]
    exact coherent.memory
  · rw [drifts.calls]
    exact coherent.looked

theorem instants_act (instants : ∀ thread, (state.calls thread).instant ≤ state.clock)
    (acted : Acts thread state request reply after) (same : after.clock = state.clock) :
    ∀ other, (after.calls other).instant ≤ after.clock := by
  intro other
  rw [same]
  by_cases apart : other = thread
  · subst apart
    cases request with
    | monotonic => rw [acted.2, CacheState.record_self]
    | storeGet key => rw [acted.2, CacheState.record_self]; exact instants other
    | storeSet key expiresAt value => rw [acted]; exact instants other
    | redisGet redisKey => obtain ⟨found, -, -, same⟩ := acted; rw [same, CacheState.record_self]
    | redisSetex redisKey seconds serialized =>
        rcases acted with ⟨-, same⟩ | same <;> rw [same] <;> exact instants other
    | external query => rw [acted]; exact instants other
    | computed result => rw [acted, CacheState.record_self]; exact instants other
    | returned result => rw [acted, CacheState.record_self]; exact instants other
  · rw [calls_others acted apart]
    exact instants other

omit [DecidableEq Key] [DecidableEq ι] in
/-- A call that changes neither the memory nor what its thread has found keeps the entries coherent. -/
theorem MemoryCoherent.keep (coherent : MemoryCoherent ttl keys state)
    (memory : after.memory = state.memory) (stores : after.stores = state.stores)
    (instants : ∀ other, (after.calls other).instant ≤ after.clock)
    (found : ∀ other, (after.calls other).looked = (state.calls other).looked ∧
      (after.calls other).seen = (state.calls other).seen)
    (kept : ∀ other result, (state.calls other).computed = some result → (after.calls other).computed = some result) :
    MemoryCoherent ttl keys after := by
  constructor
  · exact instants
  · intro key expiresAt value entry
    rw [memory] at entry
    obtain ⟨instant, vouched, expiry⟩ := coherent.memory key expiresAt value entry
    rw [stores]
    exact ⟨instant, vouched.grow kept, expiry⟩
  · intro other expiresAt value looked
    rw [(found other).1] at looked
    obtain ⟨instant, vouched, expiry⟩ := coherent.looked other expiresAt value looked
    rw [(found other).2]
    exact ⟨instant, vouched.grow kept, expiry⟩

theorem MemoryCoherent.act (coherent : MemoryCoherent ttl keys state)
    (acted : Acts thread state request reply after)
    (permitted : (state.calls thread).returned = none ∧
      (ResponseCache.memory ttl).Permits (keys thread) (state.calls thread) request) : MemoryCoherent ttl keys after := by
  have clock := (stores_of_acts acted permitted).1
  have kept := computed_kept acted permitted
  have instants := instants_act coherent.instants acted clock
  cases request with
  | monotonic =>
      apply coherent.keep (by rw [acted.2]; rfl) (by rw [acted.2]; rfl) instants ?_ kept
      intro other
      by_cases apart : other = thread
      · subst apart
        rw [acted.2, CacheState.record_self]
        exact ⟨rfl, rfl⟩
      · rw [calls_others acted apart]
        exact ⟨rfl, rfl⟩
  | storeGet key =>
      obtain rfl := permitted.2
      constructor
      · exact instants
      · intro key expiresAt value entry
        rw [acted.2] at entry ⊢
        obtain ⟨instant, vouched, expiry⟩ := coherent.memory key expiresAt value entry
        exact ⟨instant, vouched.grow (acted.2 ▸ kept), expiry⟩
      · intro other expiresAt value looked
        by_cases apart : other = thread
        · subst apart
          rw [acted.2, CacheState.record_self] at looked ⊢
          obtain ⟨instant, vouched, expiry⟩ := coherent.memory _ expiresAt value looked
          exact ⟨instant, vouched.grow (acted.2 ▸ kept), expiry⟩
        · rw [calls_others acted apart] at looked ⊢
          obtain ⟨instant, vouched, expiry⟩ := coherent.looked other expiresAt value looked
          exact ⟨instant, vouched.grow kept, expiry⟩
  | storeSet key expiresAt value =>
      obtain ⟨own, computed, due⟩ := permitted.2
      subst own
      have calls : after.calls = state.calls := by rw [acted]
      have stores : after.stores = state.stores ++ [(thread, state.clock)] := by rw [acted]
      have memory : after.memory = Function.update state.memory (keys thread) (some (expiresAt, value)) := by rw [acted]
      constructor
      · exact instants
      · intro other expiry found entry
        rw [memory] at entry
        rw [calls, stores]
        by_cases same : other = keys thread
        · subst same
          rw [Function.update_self] at entry
          cases entry
          refine ⟨state.clock, ⟨thread, List.mem_append_right _ (List.mem_singleton_self _), rfl, computed⟩, ?_⟩
          rw [due]
          exact add_le_add_left (coherent.instants thread) _
        · rw [Function.update_of_ne same] at entry
          obtain ⟨instant, vouched, due⟩ := coherent.memory other expiry found entry
          exact ⟨instant, vouched.append _, due⟩
      · rw [calls]
        exact coherent.looked
  | redisGet redisKey => exact permitted.2.elim
  | redisSetex redisKey seconds serialized => exact permitted.2.elim
  | external query =>
      cases acted
      exact coherent
  | computed result =>
      apply coherent.keep (by rw [acted]; rfl) (by rw [acted]; rfl) instants ?_ kept
      intro other
      by_cases apart : other = thread
      · subst apart
        rw [acted, CacheState.record_self]
        exact ⟨rfl, rfl⟩
      · rw [calls_others acted apart]
        exact ⟨rfl, rfl⟩
  | returned result =>
      apply coherent.keep (by rw [acted]; rfl) (by rw [acted]; rfl) instants ?_ kept
      intro other
      by_cases apart : other = thread
      · subst apart
        rw [acted, CacheState.record_self]
        exact ⟨rfl, rfl⟩
      · rw [calls_others acted apart]
        exact ⟨rfl, rfl⟩

end Memory

/-- The text is unreadable, or it is what was last stored for the key, until the instant at which it expires. -/
def RedisCache.Holds (cache : RedisCache Key Value E) (keys : ι → Key) (calls : ι → CallRecord Value E ι)
    (stores : List (ι × ℚ)) (key : Key) (text : String) (expiry : ℚ) : Prop :=
  (∃ error, cache.loads text = .error error) ∨
    ∃ value, cache.loads text = .ok value ∧ Vouched keys calls stores key value (expiry - cache.seconds) ∧
      Latest keys stores key (expiry - cache.seconds)

structure RedisCoherent (cache : RedisCache Key Value E) (keys : ι → Key) (state : CacheState Key Value E ι) : Prop where
  server : ∀ key text expiry, state.server (cache.redisKey key) = some (text, expiry) →
    cache.Holds keys state.calls state.stores key text expiry
  fetched : ∀ thread text expiry, (state.calls thread).fetched = some (.ok (some (text, expiry))) →
    cache.Holds keys state.calls (state.calls thread).seen (keys thread) text expiry

section Redis

variable {redis : RedisCache Key Value E} {calls later : ι → CallRecord Value E ι} {stores : List (ι × ℚ)} {key : Key}
  {text : String} {expiry : ℚ}

omit [DecidableEq Key] [DecidableEq ι] in
theorem RedisCache.Holds.grow (holds : redis.Holds keys calls stores key text expiry)
    (kept : ∀ thread result, (calls thread).computed = some result → (later thread).computed = some result) :
    redis.Holds keys later stores key text expiry := by
  rcases holds with unreadable | ⟨value, loaded, vouched, latest⟩
  · exact .inl unreadable
  · exact .inr ⟨value, loaded, vouched.grow kept, latest⟩

omit [DecidableEq Key] [DecidableEq ι] in
theorem RedisCoherent.drift (coherent : RedisCoherent redis keys before) (drifts : Drifts (.redis redis) before state) :
    RedisCoherent redis keys state := by
  constructor
  · intro key text expiry entry
    rw [drifts.calls, drifts.stores]
    rcases drifts.server (redis.redisKey key) with same | gone | ⟨other, until_, replaced, unreadable⟩
    · rw [same] at entry
      exact coherent.server key text expiry entry
    · rw [gone] at entry
      cases entry
    · rw [replaced] at entry
      cases entry
      exact .inl unreadable
  · rw [drifts.calls]
    exact coherent.fetched

omit [DecidableEq Key] [DecidableEq ι] in
/-- A call that changes neither the server nor what its thread has fetched keeps the entries coherent. -/
theorem RedisCoherent.keep (coherent : RedisCoherent redis keys state) (server : after.server = state.server)
    (stores : after.stores = state.stores)
    (found : ∀ other, (after.calls other).fetched = (state.calls other).fetched ∧
      (after.calls other).seen = (state.calls other).seen)
    (kept : ∀ other result, (state.calls other).computed = some result → (after.calls other).computed = some result) :
    RedisCoherent redis keys after := by
  constructor
  · intro key text expiry entry
    rw [server] at entry
    rw [stores]
    exact (coherent.server key text expiry entry).grow kept
  · intro other text expiry fetched
    rw [(found other).1] at fetched
    rw [(found other).2]
    exact (coherent.fetched other text expiry fetched).grow kept

omit [DecidableEq Key] [DecidableEq ι] in
theorem live_eq_some {entry : String × ℚ} {redisKey : String} (found : state.live redisKey = some entry) :
    state.server redisKey = some entry :=
  (Option.filter_eq_some_iff.mp found).1

omit [DecidableEq ι] in
/-- What is stored for a key is what the server then holds for it, and the other keys keep theirs. -/
theorem RedisCoherent.store (coherent : RedisCoherent redis keys state) (documented : redis.Documented)
    (accounted : Accounted (.redis redis) state) {value : Value} {serialized : String}
    (computed : (state.calls thread).computed = some (.ok value)) (dumped : redis.dumps value = .ok serialized) :
    RedisCoherent redis keys { state with
      server := Function.update state.server (redis.redisKey (keys thread)) (some (serialized, state.clock + redis.seconds))
      stores := state.stores ++ [(thread, state.clock)] } := by
  constructor
  · intro key text expiry entry
    change Function.update state.server _ _ _ = _ at entry
    by_cases own : key = keys thread
    · subst own
      rw [Function.update_self] at entry
      cases entry
      refine .inr ⟨value, documented.round_trip dumped, ?_, ?_⟩
      · rw [add_sub_cancel_right]
        exact ⟨thread, List.mem_append_right _ (List.mem_singleton_self _), rfl, computed⟩
      · rw [add_sub_cancel_right]
        intro other instant member _
        rcases List.mem_append.mp member with earlier | added
        · exact (accounted.stores other instant earlier).1
        · cases List.mem_singleton.mp added
          exact le_rfl
    · rw [Function.update_of_ne fun same => own (documented.redisKey_injective same)] at entry
      rcases coherent.server key text expiry entry with unreadable | ⟨found, loaded, vouched, latest⟩
      · exact .inl unreadable
      · refine .inr ⟨found, loaded, vouched.append _, ?_⟩
        intro other instant member same
        rcases List.mem_append.mp member with earlier | added
        · exact latest other instant earlier same
        · cases List.mem_singleton.mp added
          exact absurd same.symm own
  · exact coherent.fetched

theorem RedisCoherent.act (coherent : RedisCoherent redis keys state) (documented : redis.Documented)
    (accounted : Accounted (.redis redis) state) (acted : Acts thread state request reply after)
    (permitted : (state.calls thread).returned = none ∧
      (ResponseCache.redis redis).Permits (keys thread) (state.calls thread) request) : RedisCoherent redis keys after := by
  have kept := computed_kept acted permitted
  cases request with
  | monotonic => exact permitted.2.elim
  | storeGet key => exact permitted.2.elim
  | storeSet key expiresAt value => exact permitted.2.elim
  | redisGet redisKey =>
      obtain rfl := permitted.2
      obtain ⟨found, answered, -, same⟩ := acted
      constructor
      · intro key text expiry entry
        rw [same] at entry ⊢
        exact (coherent.server key text expiry entry).grow (same ▸ kept)
      · intro other text expiry fetched
        by_cases apart : other = thread
        · subst apart
          rw [same, CacheState.record_self] at fetched ⊢
          cases fetched
          rcases answered with failed | live
          · cases failed
          · have entry := live_eq_some (Except.ok.inj live).symm
            exact (coherent.server _ text expiry entry).grow (same ▸ kept)
        · have others : after.calls other = state.calls other := by
            rw [same]
            exact state.record_other _ apart
          rw [others] at fetched ⊢
          exact (coherent.fetched other text expiry fetched).grow kept
  | redisSetex redisKey seconds serialized =>
      obtain ⟨rfl, rfl, value, computed, dumped⟩ := permitted.2
      rcases acted with ⟨-, same⟩ | same
      · rw [same]
        exact coherent
      · rw [same]
        exact coherent.store documented accounted computed dumped
  | external query =>
      cases acted
      exact coherent
  | computed result =>
      apply coherent.keep (by rw [acted]; rfl) (by rw [acted]; rfl) ?_ kept
      intro other
      by_cases apart : other = thread
      · subst apart
        rw [acted, CacheState.record_self]
        exact ⟨rfl, rfl⟩
      · rw [calls_others acted apart]
        exact ⟨rfl, rfl⟩
  | returned result =>
      apply coherent.keep (by rw [acted]; rfl) (by rw [acted]; rfl) ?_ kept
      intro other
      by_cases apart : other = thread
      · subst apart
        rw [acted, CacheState.record_self]
        exact ⟨rfl, rfl⟩
      · rw [calls_others acted apart]
        exact ⟨rfl, rfl⟩

end Redis

end Steps

section Results

variable {Key Value E ι : Type} {keys : ι → Key} {state : CacheState Key Value E ι} {thread : ι}
  {result : Except (PyException E) Value}

theorem fresh_of_memory {cache : TTLCache} (coherent : MemoryCoherent cache keys state)
    (accounted : Accounted (.memory cache) state) : Fresh keys state.calls (.memory cache) thread := by
  intro result returned
  rcases accounted.returned thread result returned with computed | ⟨expiresAt, value, looked, live, rfl⟩
  · exact .inl computed
  · obtain ⟨instant, vouched, expiry⟩ := coherent.looked thread expiresAt value looked
    exact .inr ⟨value, instant, rfl, vouched, live.le.trans expiry⟩

variable {cache : RedisCache Key Value E}

theorem stored_eq_iff {computed : Except (PyException E) Value} :
    cache.stored computed = computed ↔
      ¬ ∃ value error, computed = .ok value ∧ cache.dumps value = .error error ∧ error ≠ .redisError := by
  cases computed with
  | error error => simp [RedisCache.stored]
  | ok value =>
      cases dumped : cache.dumps value with
      | ok serialized => simp [RedisCache.stored, dumped]
      | error error => cases error <;> simp [RedisCache.stored, dumped]

theorem stored_ok {computed : Except (PyException E) Value} {value : Value} (stored : cache.stored computed = .ok value) :
    computed = .ok value := by
  cases computed with
  | error error => exact stored
  | ok other =>
      cases dumped : cache.dumps other with
      | ok serialized => simpa [RedisCache.stored, dumped] using stored
      | error error =>
          cases error with
          | redisError => simpa [RedisCache.stored, dumped] using stored
          | _ => simp [RedisCache.stored, dumped] at stored

/-- A call that stores its computation returns what it computed, exactly if that can be pickled. -/
theorem fresh_of_stored {computed : Except (PyException E) Value} (returned : (state.calls thread).returned = some result)
    (ran : (state.calls thread).computed = some computed) (stored : result = cache.stored computed) :
    Fresh keys state.calls (.redis cache) thread ↔ ¬ cache.Unpicklable (state.calls thread) := by
  have pickled : ¬ cache.Unpicklable (state.calls thread) ↔ cache.stored computed = computed := by
    rw [stored_eq_iff, RedisCache.Unpicklable, ran]
    simp only [Option.some.injEq]
  rw [pickled]
  constructor
  · intro fresh
    rcases fresh result returned with own | ⟨value, -, own, -⟩
    · rw [ran, stored] at own
      exact (Option.some.inj own).symm
    · have value_ok := stored_ok (stored.symm.trans own)
      rw [← stored, own, value_ok]
  · intro same outcome also
    rw [returned] at also
    cases also
    exact .inl (by rw [ran, stored, same])

theorem fresh_iff_of_redis (coherent : RedisCoherent cache keys state) (accounted : Accounted (.redis cache) state)
    (returned : (state.calls thread).returned = some result) :
    Fresh keys state.calls (.redis cache) thread ↔ ¬ cache.Strays (state.calls thread) := by
  have explained : cache.Explains (state.calls thread) result := accounted.returned thread result returned
  unfold RedisCache.Explains at explained
  unfold RedisCache.Strays
  rcases fetched : (state.calls thread).fetched with _ | error | _ | ⟨text, expiry⟩
  · rw [fetched] at explained
    exact explained.elim
  · rw [fetched] at explained
    refine iff_of_true ?_ not_false
    intro outcome also
    rw [returned] at also
    cases also
    exact .inl explained
  · rw [fetched] at explained
    obtain ⟨computed, ran, stored⟩ := explained
    exact fresh_of_stored returned ran stored
  · rw [fetched] at explained
    cases loaded : cache.loads text with
    | ok value =>
        simp only [loaded] at explained ⊢
        obtain ⟨unset, rfl⟩ := explained
        rcases coherent.fetched thread text expiry fetched with ⟨error, unreadable⟩ | ⟨found, read, vouched, latest⟩
        · rw [loaded] at unreadable
          cases unreadable
        · rw [loaded] at read
          cases read
          rw [not_lt]
          constructor
          · intro fresh
            rcases fresh _ returned with own | ⟨other, instant, -, ⟨thread', member, same, -⟩, within⟩
            · rw [unset] at own
              cases own
            · exact within.trans (add_le_add_left (latest thread' instant member same) _)
          · intro within outcome also
            rw [returned] at also
            cases also
            exact .inr ⟨value, _, rfl, vouched, within⟩
    | error error =>
        simp only [loaded] at explained ⊢
        cases miss : RedisCache.isMiss error with
        | true =>
            rw [miss, if_pos rfl] at explained
            obtain ⟨computed, ran, stored⟩ := explained
            rw [fresh_of_stored returned ran stored]
            simp
        | false =>
            rw [miss, if_neg Bool.false_ne_true] at explained
            obtain ⟨unset, rfl⟩ := explained
            refine iff_of_false ?_ (fun strays => strays (.inl rfl))
            intro fresh
            rcases fresh _ returned with own | ⟨value, -, own, -⟩
            · rw [unset] at own
              cases own
            · cases own

end Results

section Runs

variable {Key Value E Query ι : Type} {Answer : Query → Type} [DecidableEq Key] [DecidableEq ι]

/-- Nothing has been stored yet, and the server holds nothing that can be read. -/
structure Begins (cache : ResponseCache Key Value E) (state : CacheState Key Value E ι) : Prop where
  memory : ∀ key, state.memory key = none
  server : ∀ redisKey text expiry, state.server redisKey = some (text, expiry) → cache.Unreadable text
  stores : state.stores = []
  calls : ∀ thread, state.calls thread = .fresh state.clock

/-- What holds between any two calls on a cache. -/
def Coherent (cache : ResponseCache Key Value E) (keys : ι → Key) (state : CacheState Key Value E ι) : Prop :=
  Accounted cache state ∧
    match cache with
    | .memory ttl => MemoryCoherent ttl keys state
    | .redis redis => RedisCoherent redis keys state

variable {cache : ResponseCache Key Value E} {keys : ι → Key} {before state after : CacheState Key Value E ι}

omit [DecidableEq Key] [DecidableEq ι] in
theorem Begins.coherent (begins : Begins cache state) : Coherent cache keys state := by
  constructor
  · constructor
    · rw [begins.stores]
      intro thread instant member
      cases member
    · intro thread result returned
      rw [begins.calls] at returned
      cases returned
  · cases cache with
    | memory ttl =>
        constructor
        · intro thread
          rw [begins.calls]
          exact le_rfl
        · intro key expiresAt value entry
          rw [begins.memory] at entry
          cases entry
        · intro thread expiresAt value looked
          rw [begins.calls] at looked
          cases looked
    | redis redis =>
        constructor
        · intro key text expiry entry
          exact .inl (begins.server _ text expiry entry)
        · intro thread text expiry fetched
          rw [begins.calls] at fetched
          cases fetched

theorem Coherent.step (documented : ∀ redis, cache = .redis redis → redis.Documented) (coherent : Coherent cache keys before)
    {thread : ι} {request : CacheCall Key Value E Query} {reply : CacheCall.Reply Answer request}
    (permitted : (before.calls thread).returned = none ∧ cache.Permits (keys thread) (before.calls thread) request)
    (answered : caching cache thread before request reply after) :
    Foreseen (before.calls thread) request reply (after.calls thread) ∧
      (∀ other, other ≠ thread → after.calls other = before.calls other) ∧ Coherent cache keys after := by
  obtain ⟨state, drifts, acted⟩ := answered
  obtain ⟨accounted, entries⟩ := coherent
  have accounted := accounted.drift drifts
  rw [← drifts.calls] at permitted ⊢
  refine ⟨foreseen_of_acts acted, fun other apart => calls_others acted apart, accounted.act acted permitted, ?_⟩
  cases cache with
  | memory ttl =>
      have entries : MemoryCoherent ttl keys before := entries
      exact (entries.drift drifts).act acted permitted
  | redis redis =>
      have entries : RedisCoherent redis keys before := entries
      exact (entries.drift drifts).act (documented redis rfl) accounted acted permitted

/-- Each call returns what its own computation came to or a value that was computed for its key and stored at most the
lifetime before, exactly if it does not stray; what is stored was returned by a computation. -/
theorem results_fresh_iff (cache : ResponseCache Key Value E)
    (documented : ∀ redis, cache = .redis redis → redis.Documented) (positive : 0 < cache.ttlSeconds) (keys : ι → Key)
    (computes : ι → Cached Key Value E Query Answer Value) (external : ∀ thread, (computes thread).Only External)
    {start : CacheState Key Value E ι} (begins : Begins cache start)
    {events : List (Event (cacheSignature Key Value E Query Answer) ι)}
    {last : Pool (cacheSignature Key Value E Query Answer) (PyException E) (CacheState Key Value E ι) ι}
    (run : Pool.Run (caching cache) ⟨start, fun thread => served cache (keys thread) (computes thread)⟩ events last) :
    (∀ thread result, (last.shared.calls thread).returned = some result →
      (Fresh keys last.shared.calls cache thread ↔ ¬ cache.Strays (last.shared.calls thread))) ∧
    ∀ thread instant, (thread, instant) ∈ last.shared.stores →
      ∃ value, (last.shared.calls thread).computed = some (.ok value) := by
  have follows : ∀ thread, (served cache (keys thread) (computes thread)).Ensures (discipline cache (keys thread))
      (fun _ _ => True) (start.calls thread) := by
    intro thread
    rw [begins.calls]
    exact follows_served cache positive (external thread) rfl rfl
  have kept := run.tracked CacheState.calls (Coherent cache keys)
    (fun thread state request reply after coherent permitted answered =>
      coherent.step documented permitted answered) follows begins.coherent
  obtain ⟨-, accounted, entries⟩ := kept
  constructor
  · intro thread result returned
    cases cache with
    | memory ttl => exact iff_of_true (fresh_of_memory entries accounted) not_false
    | redis redis => exact fresh_iff_of_redis entries accounted returned
  · intro thread instant member
    exact (accounted.stores thread instant member).2

end Runs

end AutomationHub.Caching
