import AutomationHub.Auth.Authorization
import AutomationHub.Database.RepositoryProperties
import AutomationHub.Foundation.Pool

/-!
Role, department and activity of profiles, and their erasure.

The account of a user lives with the authentication service; it is anonymized before
the profile is.
-/

set_option autoImplicit false

namespace AutomationHub.Users

open Foundation Model Auth Database Program Table

/-- The profiles, the accounts that were anonymized, and the clock read by successive calls. -/
structure UserStore where
  clock : Nat → Datetime
  ticks : Nat
  profiles : Table ProfileRecord
  anonymized : List UUID

inductive UserFault where
  | database (error : DatabaseError)
  | adminOperation (message : String)
  | app (error : AppError)
deriving DecidableEq

inductive UserCall where
  | getProfile (profileId : UUID)
  | updateProfile (profileId : UUID) (expectedVersion : Nat) (role : Option UserRole) (department : Option String)
      (isActive : Option Bool)
  | anonymizeUser (userId : UUID) (anonymizedEmail : String)
  | erase (profileId : UUID) (expectedVersion : Nat) (deletedBy : UUID) (anonymizedFullName : String)
  | recordEvent (action : AuditAction) (actorId companyId userId : UUID)
deriving DecidableEq

@[reducible] def UserCall.Result : UserCall → Type
  | .getProfile _ | .updateProfile .. | .erase .. => ProfileRecord
  | .anonymizeUser .. | .recordEvent .. => Unit

/-- The faults that strike a call from outside. -/
def UserCall.struck : UserCall → UserFault → Bool
  | .getProfile _, .database _ | .updateProfile .., .database _ | .erase .., .database _
  | .recordEvent .., .database _ => true
  | .anonymizeUser .., .adminOperation _ => true
  | _, _ => false

abbrev userSignature : Signature := ⟨UserCall, fun call => Except UserFault call.Result⟩

/-- Only the fields that are given change. -/
def profileEdit (now : Datetime) (role : Option UserRole) (department : Option String) (isActive : Option Bool) :
    Edit ProfileRecord where
  apply := fun profile =>
    { profile with
      role := role.getD profile.role
      department := department.or profile.department
      isActive := isActive.getD profile.isActive
      updatedAt := now }
  key_apply := fun _ => rfl

def eraseEdit (now : Datetime) (deletedBy : UUID) (anonymizedFullName : String) : Edit ProfileRecord where
  apply := fun profile =>
    { profile with
      deletedAt := some now
      deletedBy := some deletedBy
      isActive := false
      fullName := anonymizedFullName
      department := none
      updatedAt := now }
  key_apply := fun _ => rfl

namespace UserStore

def now (state : UserStore) : Datetime := state.clock state.ticks

def tick (state : UserStore) : UserStore := { state with ticks := state.ticks + 1 }

def write (state : UserStore) (profileId : UUID) (expectedVersion : Nat) (edit : Edit ProfileRecord) :
    Except UserFault ProfileRecord × UserStore :=
  let (reply, profiles) :=
    updateWithOptimisticLock "profiles" state.profiles profileId expectedVersion edit fun _ => none
  (reply.mapError .database, { state with profiles })

/-- `ProfileRepository.update_profile`. -/
def updateProfile (state : UserStore) (profileId : UUID) (expectedVersion : Nat) (role : Option UserRole)
    (department : Option String) (isActive : Option Bool) : Except UserFault ProfileRecord × UserStore :=
  if role.isNone && department.isNone && isActive.isNone then
    (.error (.database (.invalidQuery "update_profile requires at least one field to update.")), state)
  else state.write profileId expectedVersion (profileEdit state.now role department isActive)

def execute (state : UserStore) : (call : UserCall) → Except UserFault call.Result × UserStore
  | .getProfile profileId => ((getById "profiles" state.profiles profileId).mapError .database, state)
  | .updateProfile profileId expectedVersion role department isActive =>
      state.updateProfile profileId expectedVersion role department isActive
  | .anonymizeUser userId _ => (.ok (), { state with anonymized := state.anonymized ++ [userId] })
  | .erase profileId expectedVersion deletedBy anonymizedFullName =>
      state.write profileId expectedVersion (eraseEdit state.now deletedBy anonymizedFullName)
  | .recordEvent .. => (.ok (), state)

end UserStore

/-- A call is answered, or struck by a fault; what it asked for may have been done all the same. -/
def userStep (state : UserStore) (call : UserCall) (reply : Except UserFault call.Result) (after : UserStore) : Prop :=
  reply = (state.execute call).1 ∧ after = (state.execute call).2.tick ∨
    ∃ fault, call.struck fault = true ∧ reply = .error fault ∧ (after = state.tick ∨ after = (state.execute call).2.tick)

def userHandler : Handler userSignature UserStore :=
  fun call state => ((state.execute call).1, (state.execute call).2.tick)

abbrev UserProgram (α : Type) := Program userSignature UserFault α

/-- Make one call; a failure is raised. -/
def perform (call : UserCall) : UserProgram call.Result :=
  .call call fun
    | .ok result => .done result
    | .error fault => .raised fault

/-- `except DatabaseError as exc: raise translate_database_error(exc)`. -/
def translating {α : Type} (program : UserProgram α) : UserProgram α :=
  tryCatch program fun
    | .database error => .raised (.app (translateDatabaseError error))
    | fault => .raised fault

/-- `str(user_id)`, and the placeholders for the name and the address of an erased user. -/
structure Placeholders where
  fullName : UUID → String
  email : UUID → String

def canManageUserRoles (role : UserRole) : Bool := role == .admin

/-- `_authorize`. -/
def authorize (identity : AuthenticatedIdentity) : UserProgram Unit :=
  if canManageUserRoles identity.role then return ()
  else .raised (.app (translateAuthError (.roleNotPermitted identity.role [.admin])))

/-- `_get_in_tenant`. -/
def getInTenant (identity : AuthenticatedIdentity) (userId : UUID) : UserProgram ProfileRecord := do
  let profile : ProfileRecord ← translating (perform (.getProfile userId))
  if profile.companyId = identity.companyId then return profile
  else .raised (.app (.notFound "profile" userId))

/-- The entries that `update_profile` writes after the update. -/
def recordUpdate (identity : AuthenticatedIdentity) (userId : UUID) (role : Option UserRole)
    (department : Option String) (isActive : Option Bool) : UserProgram Unit := do
  if let some active := isActive then
    perform (.recordEvent (if active then .profileReactivated else .profileDeactivated) identity.userId
      identity.companyId userId)
  if role.isSome || department.isSome then
    perform (.recordEvent .profileUpdated identity.userId identity.companyId userId)

def updateProfile (identity : AuthenticatedIdentity) (userId : UUID) (expectedVersion : Nat) (role : Option UserRole)
    (department : Option String) (isActive : Option Bool) : UserProgram ProfileRecord := do
  authorize identity
  if isActive = some false ∧ userId = identity.userId then
    .raised (.app (.validation "You may not deactivate your own account."))
  else do
    let _ ← getInTenant identity userId
    let updated : ProfileRecord ←
      translating (perform (.updateProfile userId expectedVersion role department isActive))
    recordUpdate identity userId role department isActive
    return updated

def eraseUser (placeholders : Placeholders) (identity : AuthenticatedIdentity) (userId : UUID)
    (expectedVersion : Nat) : UserProgram ProfileRecord := do
  authorize identity
  if userId = identity.userId then .raised (.app (.validation "You may not erase your own account."))
  else do
    let existing ← getInTenant identity userId
    if existing.deletedAt.isSome then return existing
    else do
      perform (.anonymizeUser userId (placeholders.email userId))
      let erased : ProfileRecord ← translating
        (perform (.erase userId expectedVersion identity.userId (placeholders.fullName userId)))
      perform (.recordEvent .profileErased identity.userId identity.companyId userId)
      return erased

inductive UserOperation where
  | updateProfile (identity : AuthenticatedIdentity) (userId : UUID) (expectedVersion : Nat) (role : Option UserRole)
      (department : Option String) (isActive : Option Bool)
  | eraseUser (identity : AuthenticatedIdentity) (userId : UUID) (expectedVersion : Nat)

def UserOperation.identity : UserOperation → AuthenticatedIdentity
  | .updateProfile identity .. | .eraseUser identity .. => identity

def UserOperation.program (placeholders : Placeholders) : UserOperation → UserProgram Unit
  | .updateProfile identity userId expectedVersion role department isActive => do
      let _ ← Users.updateProfile identity userId expectedVersion role department isActive
      return ()
  | .eraseUser identity userId expectedVersion => do
      let _ ← Users.eraseUser placeholders identity userId expectedVersion
      return ()

end AutomationHub.Users
