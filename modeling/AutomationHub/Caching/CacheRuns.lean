import AutomationHub.Caching.ResponseCache

/-!
Calls of `get_or_compute` that run side by side, while entries expire, the server fails
and its texts are corrupted, and the discipline that each of them keeps to.
-/

set_option autoImplicit false

namespace AutomationHub.Caching

open Foundation Program

section Calls

variable {Key Value E Query : Type} {Answer : Query → Type}

def noting (compute : Cached Key Value E Query Answer Value) : Cached Key Value E Query Answer Value := do
  let result ← compute.caught
  .call (.computed result) fun _ => Program.ofExcept result

def conclude (result : Except (PyException E) Value) : Cached Key Value E Query Answer Unit :=
  .call (.returned result) .done

/-- One call of `get_or_compute`, with notes of what was computed and returned. -/
def served (cache : ResponseCache Key Value E) (key : Key) (compute : Cached Key Value E Query Answer Value) :
    Cached Key Value E Query Answer Unit :=
  (cache.getOrCompute key (noting compute)).caught >>= conclude

/-- A computation that does not touch the caches. -/
def External : CacheCall Key Value E Query → Prop
  | .external _ => True
  | _ => False

end Calls

section States

variable {Key Value E ι : Type}

/-- What one call has met: the last entry looked up, the server's answer with the instant at which it expires, the stores
made before its lookup, and the instant of the last reading of the clock. -/
structure CallRecord (Value E ι : Type) where
  looked : Option (ℚ × Value)
  fetched : Option (Except RedisError (Option (String × ℚ)))
  seen : List (ι × ℚ)
  instant : ℚ
  computed : Option (Except (PyException E) Value)
  returned : Option (Except (PyException E) Value)

def CallRecord.fresh (instant : ℚ) : CallRecord Value E ι :=
  { looked := none, fetched := none, seen := [], instant, computed := none, returned := none }

structure CacheState (Key Value E ι : Type) where
  clock : ℚ
  memory : Key → Option (ℚ × Value)
  server : String → Option (String × ℚ)
  stores : List (ι × ℚ)
  calls : ι → CallRecord Value E ι

/-- The entry of the server, unless it has expired. -/
def CacheState.live (state : CacheState Key Value E ι) (redisKey : String) : Option (String × ℚ) :=
  (state.server redisKey).filter fun entry => state.clock ≤ entry.2

def CacheState.record [DecidableEq ι] (state : CacheState Key Value E ι) (thread : ι) (noted : CallRecord Value E ι) :
    CacheState Key Value E ι :=
  { state with calls := Function.update state.calls thread noted }

@[simp] theorem CacheState.record_self [DecidableEq ι] (state : CacheState Key Value E ι) (thread : ι)
    (noted : CallRecord Value E ι) : (state.record thread noted).calls thread = noted :=
  Function.update_self ..

theorem CacheState.record_other [DecidableEq ι] (state : CacheState Key Value E ι) {thread other : ι}
    (noted : CallRecord Value E ι) (apart : other ≠ thread) :
    (state.record thread noted).calls other = state.calls other :=
  Function.update_of_ne apart ..

/-- A text from which nothing can be unpickled. -/
def ResponseCache.Unreadable (cache : ResponseCache Key Value E) (text : String) : Prop :=
  match cache with
  | .memory _ => True
  | .redis cache => ∃ error, cache.loads text = .error error

/-- Time passes, and entries of the server are evicted or replaced by foreign and truncated texts. -/
structure Drifts (cache : ResponseCache Key Value E) (before after : CacheState Key Value E ι) : Prop where
  clock : before.clock ≤ after.clock
  memory : after.memory = before.memory
  server : ∀ redisKey, after.server redisKey = before.server redisKey ∨ after.server redisKey = none ∨
    ∃ text expiry, after.server redisKey = some (text, expiry) ∧ cache.Unreadable text
  stores : after.stores = before.stores
  calls : after.calls = before.calls

section Effects

variable {Query : Type} {Answer : Query → Type} [DecidableEq Key] [DecidableEq ι]

/-- What a call does; a command that the server fails may have taken effect. -/
def Acts (thread : ι) (state : CacheState Key Value E ι) : (request : CacheCall Key Value E Query) →
    CacheCall.Reply Answer request → CacheState Key Value E ι → Prop
  | .monotonic, reply, after =>
      reply = state.clock ∧ after = state.record thread { state.calls thread with instant := state.clock }
  | .storeGet key, reply, after =>
      reply = state.memory key ∧
        after = state.record thread { state.calls thread with looked := state.memory key, seen := state.stores }
  | .storeSet key expiresAt value, _, after =>
      after = { state with
        memory := Function.update state.memory key (some (expiresAt, value))
        stores := state.stores ++ [(thread, state.clock)] }
  | .redisGet redisKey, reply, after =>
      ∃ found : Except RedisError (Option (String × ℚ)),
        (found = .error .redisError ∨ found = .ok (state.live redisKey)) ∧ reply = found.map (Option.map Prod.fst) ∧
          after = state.record thread
            { state.calls thread with fetched := some found, seen := state.stores, instant := state.clock }
  | .redisSetex redisKey seconds serialized, reply, after =>
      reply = .error .redisError ∧ after = state ∨
        after = { state with
          server := Function.update state.server redisKey (some (serialized, state.clock + seconds))
          stores := state.stores ++ [(thread, state.clock)] }
  | .external _, _, after => after = state
  | .computed result, _, after => after = state.record thread { state.calls thread with computed := some result }
  | .returned result, _, after => after = state.record thread { state.calls thread with returned := some result }

/-- The effect of the calls of a run: the surroundings go on, and then the call is answered. -/
def caching (cache : ResponseCache Key Value E) : Effect (cacheSignature Key Value E Query Answer) (CacheState Key Value E ι) ι :=
  fun thread before request reply after => ∃ state, Drifts cache before state ∧ Acts thread state request reply after

/-- Surroundings that answer the call of a thread after a delay, without a failure. -/
def answering (external : (query : Query) → Answer query) (thread : ι) (delay : ℚ) :
    Handler (cacheSignature Key Value E Query Answer) (CacheState Key Value E ι) := fun request before =>
  let state := { before with clock := before.clock + delay }
  match request with
  | .monotonic => (state.clock, state.record thread { state.calls thread with instant := state.clock })
  | .storeGet key =>
      (state.memory key, state.record thread { state.calls thread with looked := state.memory key, seen := state.stores })
  | .storeSet key expiresAt value =>
      ((), { state with
        memory := Function.update state.memory key (some (expiresAt, value))
        stores := state.stores ++ [(thread, state.clock)] })
  | .redisGet redisKey =>
      (.ok ((state.live redisKey).map Prod.fst), state.record thread
        { state.calls thread with fetched := some (.ok (state.live redisKey)), seen := state.stores, instant := state.clock })
  | .redisSetex redisKey seconds serialized =>
      (.ok (), { state with
        server := Function.update state.server redisKey (some (serialized, state.clock + seconds))
        stores := state.stores ++ [(thread, state.clock)] })
  | .external query => (external query, state)
  | .computed result => ((), state.record thread { state.calls thread with computed := some result })
  | .returned result => ((), state.record thread { state.calls thread with returned := some result })

omit [DecidableEq Key] [DecidableEq ι] in
theorem drifts_delay (cache : ResponseCache Key Value E) (state : CacheState Key Value E ι) {delay : ℚ} (later : 0 ≤ delay) :
    Drifts cache state { state with clock := state.clock + delay } where
  clock := le_add_of_nonneg_right later
  memory := rfl
  server := fun _ => .inl rfl
  stores := rfl
  calls := rfl

/-- Time does not run backwards. -/
def onTime (_ : ι) (delay : ℚ) (_ : CacheState Key Value E ι) (_ : CacheCall Key Value E Query) : Bool :=
  decide (0 ≤ delay)

theorem caching_answering (cache : ResponseCache Key Value E) (external : (query : Query) → Answer query) (thread : ι)
    (delay : ℚ) (state : CacheState Key Value E ι) (request : CacheCall Key Value E Query)
    (later : onTime thread delay state request = true) :
    caching cache thread state request (answering external thread delay request state).1
      (answering external thread delay request state).2 := by
  refine ⟨_, drifts_delay cache state (of_decide_eq_true later), ?_⟩
  cases request with
  | monotonic => exact ⟨rfl, rfl⟩
  | storeGet key => exact ⟨rfl, rfl⟩
  | storeSet key expiresAt value => rfl
  | redisGet redisKey => exact ⟨_, .inr rfl, rfl, rfl⟩
  | redisSetex redisKey seconds serialized => exact .inr rfl
  | external query => rfl
  | computed result => rfl
  | returned result => rfl

end Effects

namespace RedisCache

variable (cache : RedisCache Key Value E)

/-- What comes of a computation whose value is to be stored. -/
def stored : Except (PyException E) Value → Except (PyException E) Value
  | .error error => .error error
  | .ok value =>
      match cache.dumps value with
      | .error .redisError => .ok value
      | .error error => .error error
      | .ok _ => .ok value

/-- The computation returned a value that cannot be pickled. -/
def Unpicklable (call : CallRecord Value E ι) : Prop :=
  ∃ value error, call.computed = some (.ok value) ∧ cache.dumps value = .error error ∧ error ≠ .redisError

/-- The call met an exception of `loads` that is not taken for a miss, an entry that the server keeps for longer than the
lifetime, or a value that cannot be pickled. -/
def Strays (call : CallRecord Value E ι) : Prop :=
  match call.fetched with
  | some (.ok (some (text, expiry))) =>
      match cache.loads text with
      | .ok _ => expiry - cache.seconds + cache.ttlSeconds < call.instant
      | .error error => isMiss error = false ∨ isMiss error = true ∧ cache.Unpicklable call
  | some (.ok none) => cache.Unpicklable call
  | _ => False

/-- How the result of a call follows from what it met. -/
def Explains (call : CallRecord Value E ι) (result : Except (PyException E) Value) : Prop :=
  match call.fetched with
  | none => False
  | some (.error _) => call.computed = some result
  | some (.ok none) => ∃ computed, call.computed = some computed ∧ result = cache.stored computed
  | some (.ok (some (text, _))) =>
      match cache.loads text with
      | .ok value => call.computed = none ∧ result = .ok value
      | .error error =>
          if isMiss error then ∃ computed, call.computed = some computed ∧ result = cache.stored computed
          else call.computed = none ∧ result = .error error

end RedisCache

namespace ResponseCache

variable (cache : ResponseCache Key Value E)

def Explains (call : CallRecord Value E ι) (result : Except (PyException E) Value) : Prop :=
  match cache with
  | .memory _ =>
      call.computed = some result ∨
        ∃ expiresAt value, call.looked = some (expiresAt, value) ∧ call.instant < expiresAt ∧ result = .ok value
  | .redis cache => cache.Explains call result

/-- A call on the cache of the process never does. -/
def Strays (call : CallRecord Value E ι) : Prop :=
  match cache with
  | .memory _ => False
  | .redis cache => cache.Strays call

end ResponseCache

end States

section Discipline

variable {Key Value E Query ι : Type} {Answer : Query → Type}

/-- The calls that one call of `get_or_compute` makes on its cache. -/
def ResponseCache.Permits : ResponseCache Key Value E → Key → CallRecord Value E ι → CacheCall Key Value E Query → Prop
  | .memory _, _, _, .monotonic => True
  | .memory _, key, _, .storeGet other => other = key
  | .memory cache, key, noted, .storeSet other expiresAt value =>
      other = key ∧ noted.computed = some (.ok value) ∧ expiresAt = noted.instant + cache.ttlSeconds
  | .redis cache, key, _, .redisGet redisKey => redisKey = cache.redisKey key
  | .redis cache, key, noted, .redisSetex redisKey seconds serialized =>
      redisKey = cache.redisKey key ∧ seconds = cache.seconds ∧
        ∃ value, noted.computed = some (.ok value) ∧ cache.dumps value = .ok serialized
  | _, _, _, .external _ => True
  | _, _, noted, .computed _ => noted.computed = none
  | cache, _, noted, .returned result => cache.Explains noted result
  | _, _, _, _ => False

/-- What each call leaves in the notes of the call of `get_or_compute` that makes it. -/
def Foreseen (noted : CallRecord Value E ι) : (request : CacheCall Key Value E Query) → CacheCall.Reply Answer request →
    CallRecord Value E ι → Prop
  | .monotonic, reply, after => after = { noted with instant := reply }
  | .storeGet _, reply, after => ∃ seen, after = { noted with looked := reply, seen }
  | .redisGet _, reply, after =>
      ∃ found seen instant, reply = found.map (Option.map Prod.fst) ∧ after = { noted with fetched := some found, seen, instant }
  | .computed result, _, after => after = { noted with computed := some result }
  | .returned result, _, after => after = { noted with returned := some result }
  | _, _, after => after = noted

def discipline (cache : ResponseCache Key Value E) (key : Key) :
    Protocol (cacheSignature Key Value E Query Answer) (CallRecord Value E ι) where
  permits := fun noted request => noted.returned = none ∧ cache.Permits key noted request
  answers := Foreseen

variable {cache : ResponseCache Key Value E} {key : Key} {noted : CallRecord Value E ι}
  {compute : Cached Key Value E Query Answer Value}

theorem ensures_noting (only : compute.Only External) (fresh : noted.computed = none) (running : noted.returned = none) :
    (noting compute).Ensures (discipline cache key)
      (fun result final => final = { noted with computed := some result }) noted := by
  unfold noting
  rw [ensures_bind, ensures_caught]
  have kept : compute.Ensures (discipline cache key) (fun _ final => final = noted) noted := by
    apply only.ensures (fun final => final = noted) ?_ rfl
    intro state request same allowed
    subst same
    cases request with
    | external query =>
        refine ⟨⟨running, ?_⟩, fun reply after noted => noted⟩
        cases cache <;> trivial
    | _ => exact allowed.elim
  apply kept.mono
  intro result final same
  subst same
  refine ⟨⟨running, ?_⟩, ?_⟩
  · cases cache <;> exact fresh
  · intro reply after noted
    cases result <;> exact noted

theorem ensures_conclude {result : Except (PyException E) Value} (running : noted.returned = none)
    (explained : cache.Explains noted result) :
    (conclude result : Cached Key Value E Query Answer Unit).Ensures (discipline cache key) (fun _ _ => True) noted := by
  refine ⟨⟨running, ?_⟩, fun _ _ _ => trivial⟩
  cases cache <;> exact explained

/-- What a lookup in the process's memory leaves: the entry that it returns is live. -/
def LookedUp (noted : CallRecord Value E ι) :
    Except (PyException E) (Option (ℚ × Value)) → CallRecord Value E ι → Prop
  | .ok hit, final =>
      final.computed = noted.computed ∧ final.returned = none ∧
        ∀ entry, hit = some entry → final.looked = some entry ∧ final.instant < entry.1
  | .error _, _ => False

theorem ensures_read {cache : TTLCache} (running : noted.returned = none) :
    (TTLCache.read key : Cached Key Value E Query Answer _).Ensures (discipline (.memory cache) key) (LookedUp noted)
      noted := by
  refine ⟨⟨running, rfl⟩, ?_⟩
  intro reply after looked
  obtain ⟨seen, same⟩ := looked
  subst same
  cases reply with
  | none =>
      refine ⟨rfl, running, ?_⟩
      intro entry hit
      cases hit
  | some entry =>
      refine ⟨⟨running, trivial⟩, ?_⟩
      intro (now : ℚ) after reading
      cases reading
      change Program.Ensures _ (if now < entry.1 then _ else _) _ _
      by_cases live : now < entry.1
      · rw [if_pos live]
        refine ⟨rfl, running, ?_⟩
        intro hit same
        cases same
        exact ⟨rfl, live⟩
      · rw [if_neg live]
        refine ⟨rfl, running, ?_⟩
        intro hit same
        cases same

theorem follows_memory {cache : TTLCache} (positive : 0 < cache.ttlSeconds) (only : compute.Only External)
    (fresh : noted.computed = none) (running : noted.returned = none) :
    (served (.memory cache) key compute).Ensures (discipline (.memory cache) key) (fun _ _ => True) noted := by
  unfold served
  rw [ensures_bind, ensures_caught, ResponseCache.getOrCompute, TTLCache.getOrCompute, if_neg (not_le.mpr positive),
    ensures_bind]
  apply (ensures_read running).mono
  intro result final looked
  cases result with
  | error error => exact looked.elim
  | ok hit =>
      obtain ⟨same, running, live⟩ := looked
      cases hit with
      | some entry =>
          obtain ⟨found, live⟩ := live entry rfl
          exact ensures_conclude running (.inr ⟨entry.1, entry.2, found, live, rfl⟩)
      | none =>
          refine (ensures_bind ..).mpr ?_
          apply (ensures_read running).mono
          intro result last looked
          cases result with
          | error error => exact looked.elim
          | ok hit =>
              obtain ⟨again, running, live⟩ := looked
              cases hit with
              | some entry =>
                  obtain ⟨found, live⟩ := live entry rfl
                  exact ensures_conclude running (.inr ⟨entry.1, entry.2, found, live, rfl⟩)
              | none =>
                  refine (ensures_bind ..).mpr ?_
                  apply (ensures_noting only (again.trans (same.trans fresh)) running).mono
                  intro result final computed
                  subst computed
                  cases result with
                  | error error => exact ensures_conclude running (.inl rfl)
                  | ok value =>
                      refine ⟨⟨running, trivial⟩, ?_⟩
                      intro now after reading
                      cases reading
                      refine ⟨⟨running, rfl, rfl, rfl⟩, ?_⟩
                      intro _ after stored
                      cases stored
                      exact ensures_conclude running (.inl rfl)

theorem ensures_computeAndStore {cache : RedisCache Key Value E} (only : compute.Only External)
    (fresh : noted.computed = none) (running : noted.returned = none) :
    (cache.computeAndStore key (noting compute)).Ensures (discipline (.redis cache) key)
      (fun result final => ∃ computed, final = { noted with computed := some computed } ∧ result = cache.stored computed)
      noted := by
  unfold RedisCache.computeAndStore
  rw [ensures_bind]
  apply (ensures_noting only fresh running).mono
  intro result final computed
  subst computed
  cases result with
  | error error => exact ⟨_, rfl, rfl⟩
  | ok value =>
      dsimp only [Then]
      cases dumped : cache.dumps value with
      | ok serialized =>
          refine ⟨⟨running, rfl, rfl, value, rfl, dumped⟩, ?_⟩
          intro _ after stored
          cases stored
          refine ⟨_, rfl, ?_⟩
          simp only [RedisCache.stored, dumped]
      | error error =>
          cases error with
          | redisError => exact ⟨_, rfl, by simp only [RedisCache.stored, dumped]⟩
          | _ => exact ⟨_, rfl, by simp only [RedisCache.stored, dumped]⟩

theorem follows_redis {cache : RedisCache Key Value E} (positive : 0 < cache.ttlSeconds) (only : compute.Only External)
    (fresh : noted.computed = none) (running : noted.returned = none) :
    (served (.redis cache) key compute).Ensures (discipline (.redis cache) key) (fun _ _ => True) noted := by
  unfold served
  rw [ensures_bind, ensures_caught, ResponseCache.getOrCompute, RedisCache.getOrCompute, if_neg (not_le.mpr positive)]
  refine ⟨⟨running, rfl⟩, ?_⟩
  intro reply after fetched
  obtain ⟨found, seen, instant, rfl, same⟩ := fetched
  have met : after.fetched = some found := by rw [same]
  have fresh : after.computed = none := by rw [same]; exact fresh
  have running : after.returned = none := by rw [same]; exact running
  cases found with
  | error error =>
      apply (ensures_noting only fresh running).mono
      intro result final computed
      subst computed
      refine ensures_conclude running ?_
      simp only [ResponseCache.Explains, RedisCache.Explains, met]
  | ok entry =>
      cases entry with
      | none =>
          apply (ensures_computeAndStore only fresh running).mono
          intro result final computed
          obtain ⟨computed, rfl, stored⟩ := computed
          refine ensures_conclude running ?_
          simp only [ResponseCache.Explains, RedisCache.Explains, met]
          exact ⟨computed, rfl, stored⟩
      | some entry =>
          change Program.Ensures _ (match cache.loads entry.1 with | .ok _ => _ | .error _ => _) _ _
          cases loaded : cache.loads entry.1 with
          | ok value =>
              refine ensures_conclude running ?_
              simp only [ResponseCache.Explains, RedisCache.Explains, met, loaded]
              exact ⟨fresh, trivial⟩
          | error error =>
              cases miss : RedisCache.isMiss error with
              | true =>
                  simp only [miss, if_true]
                  apply (ensures_computeAndStore only fresh running).mono
                  intro result final computed
                  obtain ⟨computed, rfl, stored⟩ := computed
                  refine ensures_conclude running ?_
                  simp only [ResponseCache.Explains, RedisCache.Explains, met, loaded, miss, if_true]
                  exact ⟨computed, rfl, stored⟩
              | false =>
                  simp only [miss, Bool.false_eq_true, if_false]
                  refine ensures_conclude running ?_
                  simp only [ResponseCache.Explains, RedisCache.Explains, met, loaded, miss, Bool.false_eq_true, if_false]
                  exact ⟨fresh, trivial⟩

theorem follows_served (cache : ResponseCache Key Value E) (positive : 0 < cache.ttlSeconds) (only : compute.Only External)
    (fresh : noted.computed = none) (running : noted.returned = none) :
    (served cache key compute).Ensures (discipline cache key) (fun _ _ => True) noted := by
  cases cache with
  | memory cache => exact follows_memory positive only fresh running
  | redis cache => exact follows_redis positive only fresh running

end Discipline

end AutomationHub.Caching
