import AutomationHub.Caching.Freshness
import AutomationHub.Model.Errors
import AutomationHub.Model.Records

/-!
The verifier of bearer tokens, whose claims are cached under the token.
-/

set_option autoImplicit false

namespace AutomationHub.Caching

open Foundation Model Program

structure SupabaseUser where
  id : UUID
  email : Option String
deriving DecidableEq

/-- The fields of a company that the verifier checks. -/
structure CompanyStanding where
  isActive : Bool
  deletedAt : Option Datetime
deriving DecidableEq

/-- The claims mapping of a verified token. -/
structure TokenClaims where
  sub : UUID
  email : Option String
  role : UserRole
  companyId : UUID
  isPlatformAdmin : Bool
deriving DecidableEq

inductive VerificationError where
  | invalidToken (message : String)
  | accountAccessRevoked (reason : String)
  | companyAccessRevoked (reason : String)
  | database (error : DatabaseError)
deriving DecidableEq

inductive VerifierQuery where
  | getUser (token : String)
  | getProfile (userId : UUID)
  | getCompany (companyId : UUID)

/-- Supabase may raise anything. -/
def VerifierQuery.Answer : VerifierQuery → Type
  | .getUser _ => Except Unit (Option SupabaseUser)
  | .getProfile _ => Except DatabaseError ProfileRecord
  | .getCompany _ => Except DatabaseError CompanyStanding

abbrev Verification (α : Type) :=
  Cached String TokenClaims VerificationError VerifierQuery VerifierQuery.Answer α

def reject {α : Type} (error : VerificationError) : Verification α :=
  throw (.own error)

def resolveClaimsUncached (token : String) : Verification TokenClaims :=
  .call (.external (.getUser token)) fun response =>
    match response with
    | .error _ => reject (.invalidToken "Bearer token could not be verified.")
    | .ok none => reject (.invalidToken "Supabase did not return a user for this bearer token.")
    | .ok (some user) =>
        .call (.external (.getProfile user.id)) fun profile =>
          match profile with
          | .error (.recordNotFound _ _) =>
              reject (.invalidToken "This account is not fully provisioned. Contact an administrator.")
          | .error error => reject (.database error)
          | .ok profile =>
              if profile.deletedAt.isSome then reject (.accountAccessRevoked "erased")
              else if !profile.isActive then reject (.accountAccessRevoked "deactivated")
              else .call (.external (.getCompany profile.companyId)) fun company =>
                match company with
                | .error error => reject (.database error)
                | .ok company =>
                    if company.deletedAt.isSome then reject (.companyAccessRevoked "deleted")
                    else if !company.isActive then reject (.companyAccessRevoked "suspended")
                    else return {
                      sub := profile.id
                      email := user.email
                      role := profile.role
                      companyId := profile.companyId
                      isPlatformAdmin := profile.isPlatformAdmin }

def resolveClaims (cache : ResponseCache String TokenClaims VerificationError) (token : String) : Verification TokenClaims :=
  cache.getOrCompute token (resolveClaimsUncached token)

theorem external_resolveClaimsUncached (token : String) : (resolveClaimsUncached token).Only External := by
  refine ⟨trivial, ?_⟩
  intro response
  rcases response with _ | _ | user
  · trivial
  · trivial
  · refine ⟨trivial, ?_⟩
    intro profile
    rcases profile with error | profile
    · cases error <;> trivial
    · change Program.Only _ (if profile.deletedAt.isSome then _ else if !profile.isActive then _ else _)
      split
      · trivial
      · split
        · trivial
        · refine ⟨trivial, ?_⟩
          intro company
          rcases company with error | company
          · trivial
          · change Program.Only _ (if company.deletedAt.isSome then _ else if !company.isActive then _ else _)
            split
            · trivial
            · split <;> trivial

section Claims

variable {Key Value E Query : Type} {ι : Type} {Answer : Query → Type} [DecidableEq Key] [DecidableEq ι]

/-- The claims that a call returned are those of a verification of its token, its own one or one whose claims were stored
at most the lifetime before the call's lookup. -/
def FreshlyVerified (tokens : ι → String) (cache : ResponseCache String TokenClaims VerificationError)
    (calls : ι → CallRecord TokenClaims VerificationError ι) (thread : ι) (claims : TokenClaims) : Prop :=
  ∃ verifier, tokens verifier = tokens thread ∧ (calls verifier).computed = some (.ok claims) ∧
    (verifier = thread ∨
      ∃ instant, (verifier, instant) ∈ (calls thread).seen ∧ (calls thread).instant ≤ instant + cache.ttlSeconds)

omit [DecidableEq ι] in
theorem freshlyVerified_of_fresh {tokens : ι → String} {cache : ResponseCache String TokenClaims VerificationError}
    {calls : ι → CallRecord TokenClaims VerificationError ι} {thread : ι} {claims : TokenClaims}
    (fresh : Fresh tokens calls cache thread) (returned : (calls thread).returned = some (.ok claims)) :
    FreshlyVerified tokens cache calls thread claims := by
  rcases fresh _ returned with own | ⟨value, instant, same, ⟨verifier, member, key, computed⟩, within⟩
  · exact ⟨thread, rfl, own, .inl rfl⟩
  · cases same
    exact ⟨verifier, key, computed, .inr ⟨instant, member, within⟩⟩

/-- A call of `get_or_compute` returns what its own computation came to, or a value computed for its key and stored at
most the lifetime before, exactly if it does not meet an exception of `pickle.loads` that is not taken for a miss, an
entry that the server keeps for longer than the lifetime, or a value that cannot be pickled; a computation that raises
stores nothing, and the claims that the verifier serves are freshly verified on the same condition. -/
theorem cached_results_fresh_iff (cache : ResponseCache Key Value E)
    (documented : ∀ redis, cache = .redis redis → redis.Documented) (positive : 0 < cache.ttlSeconds) (keys : ι → Key)
    (computes : ι → Cached Key Value E Query Answer Value) (external : ∀ thread, (computes thread).Only External)
    {start : CacheState Key Value E ι} (begins : Begins cache start)
    {events : List (Event (cacheSignature Key Value E Query Answer) ι)}
    {last : Pool (cacheSignature Key Value E Query Answer) (PyException E) (CacheState Key Value E ι) ι}
    (run : Pool.Run (caching cache) ⟨start, fun thread => served cache (keys thread) (computes thread)⟩ events last) :
    ((∀ thread result, (last.shared.calls thread).returned = some result →
        (Fresh keys last.shared.calls cache thread ↔ ¬ cache.Strays (last.shared.calls thread))) ∧
      ∀ thread instant, (thread, instant) ∈ last.shared.stores →
        ∃ value, (last.shared.calls thread).computed = some (.ok value)) ∧
    ∀ (claimsCache : ResponseCache String TokenClaims VerificationError),
      (∀ redis, claimsCache = .redis redis → redis.Documented) → 0 < claimsCache.ttlSeconds →
      ∀ (tokens : ι → String) (begun : CacheState String TokenClaims VerificationError ι), Begins claimsCache begun →
      ∀ events reached, Pool.Run (caching claimsCache)
          ⟨begun, fun thread => served claimsCache (tokens thread) (resolveClaimsUncached (tokens thread))⟩ events reached →
        ∀ thread claims, (reached.shared.calls thread).returned = some (.ok claims) →
          ¬ claimsCache.Strays (reached.shared.calls thread) →
          FreshlyVerified tokens claimsCache reached.shared.calls thread claims := by
  constructor
  · exact results_fresh_iff cache documented positive keys computes external begins run
  · intro claimsCache documented positive tokens begun begins events reached run thread claims returned faithful
    have fresh := (results_fresh_iff claimsCache documented positive tokens _
      (fun thread => external_resolveClaimsUncached (tokens thread)) begins run).1 thread _ returned
    exact freshlyVerified_of_fresh (fresh.mpr faithful) returned

end Claims

section Samples

/-- A process whose cache keeps claims for fifteen seconds. -/
def claimsCache : ResponseCache String TokenClaims VerificationError :=
  .memory { ttlSeconds := 15 }

def emptyCache {Key Value E ι : Type} : CacheState Key Value E ι :=
  { clock := 0, memory := fun _ => none, server := fun _ => none, stores := [], calls := fun _ => .fresh 0 }

theorem begins_emptyCache {Key Value E ι : Type} (cache : ResponseCache Key Value E) :
    Begins cache (emptyCache : CacheState Key Value E ι) where
  memory := fun _ => rfl
  server := by
    intro redisKey text expiry entry
    cases entry
  stores := rfl
  calls := fun _ => rfl

def sampleProfile : ProfileRecord :=
  { id := 1, fullName := "Alice Chen", role := .admin, department := none, version := 1, createdAt := 0, updatedAt := 0,
    companyId := 7, isPlatformAdmin := false, isActive := true, deletedAt := none, deletedBy := none }

def sampleClaims : TokenClaims :=
  { sub := 1, email := some "alice@example.com", role := .admin, companyId := 7, isPlatformAdmin := false }

def supabase : (query : VerifierQuery) → query.Answer
  | .getUser _ => .ok (some { id := 1, email := some "alice@example.com" })
  | .getProfile _ => .ok sampleProfile
  | .getCompany _ => .ok { isActive := true, deletedAt := none }

/-- Two calls with one token: the second comes twelve seconds after the first. -/
def twoCalls : Pool (cacheSignature String TokenClaims VerificationError VerifierQuery VerifierQuery.Answer)
    (PyException VerificationError) (CacheState String TokenClaims VerificationError Bool) Bool :=
  ⟨emptyCache, fun _ => served claimsCache "token" (resolveClaimsUncached "token")⟩

def sampleTurns : List (Bool × ℚ) :=
  List.replicate 9 (false, 1 / 2) ++ [(true, 12), (true, 0), (true, 1)]

theorem cached_results_fresh_iff_sample :
    let last := Pool.enact (answering supabase) twoCalls sampleTurns
    (last.shared.calls true).returned = some (.ok sampleClaims) ∧ (last.shared.calls true).computed = none ∧
      Fresh (fun _ => "token") last.shared.calls claimsCache true ∧
      FreshlyVerified (fun _ => "token") claimsCache last.shared.calls true sampleClaims := by
  intro last
  have documented : ∀ redis, claimsCache = .redis redis → redis.Documented := by
    intro redis same
    cases same
  have run := Pool.enact_runs (caching_answering claimsCache supabase) twoCalls sampleTurns (by decide +kernel)
  have returned : (last.shared.calls true).returned = some (.ok sampleClaims) := by decide +kernel
  have fresh := cached_results_fresh_iff claimsCache documented (by decide +kernel) (fun _ : Bool => "token") _
    (fun _ => external_resolveClaimsUncached "token") (begins_emptyCache claimsCache) run
  exact ⟨returned, by decide +kernel, (fresh.1.1 true _ returned).mpr not_false,
    fresh.2 claimsCache documented (by decide +kernel) _ emptyCache (begins_emptyCache claimsCache) _ _ run true sampleClaims
      returned not_false⟩

/-- Booleans on a server, as `pickle` writes them; what ends before its last opcode raises `EOFError`. -/
def pickledBooleans : RedisCache String Bool Unit where
  keyNamespace := "flags"
  ttlSeconds := 15
  repr := id
  sha256 := id
  dumps := fun value => .ok (if value then "8004882e" else "8004892e")
  loads := fun text =>
    if text = "8004882e" then .ok true
    else if text = "8004892e" then .ok false
    else if text = "8004" then .error .eofError
    else .error .pickleError

theorem documented_pickledBooleans : pickledBooleans.Documented where
  repr_injective := Function.injective_id
  sha256_injective := Function.injective_id
  round_trip := by
    intro value serialized dumped
    cases dumped
    cases value <;> decide

/-- The server holds the first two bytes of a pickled value. -/
def truncatedCache : CacheState String Bool Unit Unit :=
  { emptyCache with server := fun _ => some ("8004", 10) }

theorem begins_truncatedCache : Begins (.redis pickledBooleans) truncatedCache where
  memory := fun _ => rfl
  server := by
    intro redisKey text expiry entry
    cases entry
    exact ⟨.eofError, by decide⟩
  stores := rfl
  calls := fun _ => rfl

def oneCall : Pool (cacheSignature String Bool Unit Unit fun _ => Unit) (PyException Unit) (CacheState String Bool Unit Unit) Unit :=
  ⟨truncatedCache, fun _ => served (.redis pickledBooleans) "flag" (return true)⟩

/-- The exception of `pickle.loads` is raised to the caller, whose computation never runs. -/
theorem truncated_text_raised :
    ¬ ∀ (redis : RedisCache String Bool Unit), redis.Documented → 0 < redis.ttlSeconds →
        ∀ (start : CacheState String Bool Unit Unit), Begins (.redis redis) start →
        ∀ events (last : Pool (cacheSignature String Bool Unit Unit fun _ => Unit) (PyException Unit)
          (CacheState String Bool Unit Unit) Unit),
          Pool.Run (caching (.redis redis)) ⟨start, fun _ => served (.redis redis) "flag" (return true)⟩ events last →
          Fresh (fun _ => "flag") last.shared.calls (.redis redis) () := by
  intro fresh
  have run := Pool.enact_runs (caching_answering (.redis pickledBooleans) fun _ => ()) oneCall [((), 1), ((), 0)]
    (by decide +kernel)
  have held := fresh pickledBooleans documented_pickledBooleans (by decide +kernel) truncatedCache begins_truncatedCache _ _
    run (.error .eofError) (by decide +kernel)
  rcases held with own | ⟨value, instant, same, -⟩
  · revert own
    decide +kernel
  · cases same

end Samples

end AutomationHub.Caching
