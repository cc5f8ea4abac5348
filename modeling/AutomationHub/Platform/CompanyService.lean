import AutomationHub.Auth.Authorization
import AutomationHub.Database.RepositoryProperties
import AutomationHub.Foundation.Pool
import AutomationHub.Model.Identifiers
import Mathlib.Data.List.DropRight

/-!
Companies, which platform admins create, suspend, delete and restore.

A company is not looked up through a company: it is itself the tenant that all other
rows belong to.
-/

set_option autoImplicit false

namespace AutomationHub.Platform

open Foundation Model Auth Database Program Table

structure CompanyRecord where
  id : UUID
  name : String
  slug : String
  isActive : Bool
  contactEmail : Option String
  notes : Option String
  version : Nat
  createdAt : Datetime
  updatedAt : Datetime
  deletedAt : Option Datetime
  deletedBy : Option UUID
deriving DecidableEq

instance : Versioned CompanyRecord where
  key := CompanyRecord.id
  version := CompanyRecord.version
  withVersion := fun version company => { company with version }
  key_withVersion := fun _ _ => rfl
  version_withVersion := fun _ _ => rfl

section Slugs

/-- `[a-z0-9]`. -/
def isSlugChar (c : Char) : Bool :=
  (decide ('a'.toNat ≤ c.toNat) && decide (c.toNat ≤ 'z'.toNat)) ||
    (decide ('0'.toNat ≤ c.toNat) && decide (c.toNat ≤ '9'.toNat))

/-- `re.sub(r"[^a-z0-9]+", "-", text)`; `within` tells whether the character before was replaced. -/
def hyphenate (within : Bool) : List Char → List Char
  | [] => []
  | c :: rest =>
      if isSlugChar c then c :: hyphenate false rest
      else if within then hyphenate true rest
      else '-' :: hyphenate true rest

/-- `text.strip("-")`. -/
def stripHyphens (text : List Char) : List Char := (text.dropWhile (· == '-')).rdropWhile (· == '-')

/-- `_slugify`, with the identifier that it draws. -/
def slugify (lower : List Char → List Char) (name : String) (drawn : UUID) : String :=
  let base := stripHyphens (hyphenate false (lower (strip name).toList))
  let suffix := (hexDigits drawn).take 8
  String.ofList (if base = [] then suffix else base ++ '-' :: suffix)

end Slugs

/-- The companies, the audit log, and the clock and the identifiers read by successive calls. -/
structure CompanyStore where
  clock : Nat → Datetime
  identifiers : Nat → UUID
  ticks : Nat
  companies : Table CompanyRecord
  audit : List (AuditAction × UUID × Option UUID)

inductive CompanyFault where
  | database (error : DatabaseError)
  | app (error : AppError)
deriving DecidableEq

/-- The fields of a company update that are given. -/
structure CompanyUpdate where
  name : Option String
  isActive : Option Bool
  contactEmail : Option String
  notes : Option String
deriving DecidableEq

def CompanyUpdate.isEmpty (update : CompanyUpdate) : Bool :=
  update.name.isNone && update.isActive.isNone && update.contactEmail.isNone && update.notes.isNone

inductive CompanyCall where
  | utcNow
  | uuid4
  | getById (companyId : UUID)
  | createCompany (name slug : String)
  | updateCompany (companyId : UUID) (expectedVersion : Nat) (update : CompanyUpdate)
  | softDelete (companyId : UUID) (expectedVersion : Nat) (deletedBy : UUID)
  | restore (companyId : UUID) (expectedVersion : Nat)
  | recordEvent (action : AuditAction) (actorId : UUID) (companyId : Option UUID)
deriving DecidableEq

@[reducible] def CompanyCall.Result : CompanyCall → Type
  | .utcNow => Datetime
  | .uuid4 => UUID
  | .getById _ | .createCompany .. | .updateCompany .. | .softDelete .. | .restore .. => CompanyRecord
  | .recordEvent .. => Unit

/-- The faults that strike a call from outside; the clock and the identifiers do not fail. -/
def CompanyCall.struck : CompanyCall → CompanyFault → Bool
  | .utcNow, _ | .uuid4, _ => false
  | _, .database _ => true
  | _, .app _ => false

abbrev companySignature : Signature := ⟨CompanyCall, fun call => Except CompanyFault call.Result⟩

namespace CompanyStore

def now (state : CompanyStore) : Datetime := state.clock state.ticks

def tick (state : CompanyStore) : CompanyStore := { state with ticks := state.ticks + 1 }

def newCompany (state : CompanyStore) (name slug : String) : Draft CompanyRecord where
  build := fun id =>
    { id, name, slug, isActive := true, contactEmail := none, notes := none, version := 1, createdAt := state.now,
      updatedAt := state.now, deletedAt := none, deletedBy := none }
  key_build := fun _ => rfl

/-- Only the fields that are given change. -/
def companyEdit (now : Datetime) (update : CompanyUpdate) : Edit CompanyRecord where
  apply := fun company =>
    { company with
      name := update.name.getD company.name
      isActive := update.isActive.getD company.isActive
      contactEmail := update.contactEmail.or company.contactEmail
      notes := update.notes.or company.notes
      updatedAt := now }
  key_apply := fun _ => rfl

def deletionEdit (now : Datetime) (deletedBy : UUID) : Edit CompanyRecord where
  apply := fun company => { company with deletedAt := some now, deletedBy := some deletedBy, updatedAt := now }
  key_apply := fun _ => rfl

def restorationEdit (now : Datetime) : Edit CompanyRecord where
  apply := fun company => { company with deletedAt := none, deletedBy := none, updatedAt := now }
  key_apply := fun _ => rfl

def nameCheck (company : CompanyRecord) : String × Bool :=
  ("check", decide (1 ≤ company.name.length) && decide (company.name.length ≤ 200))

/-- The insertion of `create_company`. -/
def insert (state : CompanyStore) (name slug : String) : Except CompanyFault CompanyRecord × CompanyStore :=
  let (reply, companies) := insertRow "companies" state.companies (state.newCompany name slug) fun company =>
    World.firstViolated [nameCheck company, ("unique", state.companies.rows.all fun other => other.slug != company.slug)]
  (reply.mapError .database, { state with companies })

def write (state : CompanyStore) (companyId : UUID) (expectedVersion : Nat) (edit : Edit CompanyRecord) :
    Except CompanyFault CompanyRecord × CompanyStore :=
  let (reply, companies) := updateWithOptimisticLock "companies" state.companies companyId expectedVersion edit
    fun company => World.firstViolated [nameCheck company]
  (reply.mapError .database, { state with companies })

/-- `CompanyRepository.update_company`. -/
def update (state : CompanyStore) (companyId : UUID) (expectedVersion : Nat) (given : CompanyUpdate) :
    Except CompanyFault CompanyRecord × CompanyStore :=
  if given.isEmpty then
    (.error (.database (.invalidQuery "update_company requires at least one field to update.")), state)
  else state.write companyId expectedVersion (companyEdit state.now given)

def execute (state : CompanyStore) : (call : CompanyCall) → Except CompanyFault call.Result × CompanyStore
  | .utcNow => (.ok state.now, state)
  | .uuid4 => (.ok (state.identifiers state.ticks), state)
  | .getById companyId => ((getById "companies" state.companies companyId).mapError .database, state)
  | .createCompany name slug => state.insert name slug
  | .updateCompany companyId expectedVersion given => state.update companyId expectedVersion given
  | .softDelete companyId expectedVersion deletedBy =>
      state.write companyId expectedVersion (deletionEdit state.now deletedBy)
  | .restore companyId expectedVersion => state.write companyId expectedVersion (restorationEdit state.now)
  | .recordEvent action actorId companyId =>
      (.ok (), { state with audit := state.audit ++ [(action, actorId, companyId)] })

end CompanyStore

/-- A call is answered, or struck by a fault; what it asked for may have been done all the same. -/
def companyStep {ι : Type} : Effect companySignature CompanyStore ι := fun _ state call reply after =>
  reply = (state.execute call).1 ∧ after = (state.execute call).2.tick ∨
    ∃ fault, call.struck fault = true ∧ reply = .error fault ∧ (after = state.tick ∨ after = (state.execute call).2.tick)

def companyHandler : Handler companySignature CompanyStore :=
  fun call state => ((state.execute call).1, (state.execute call).2.tick)

abbrev CompanyProgram (α : Type) := Program companySignature CompanyFault α

/-- Make one call; a failure is raised. -/
def perform (call : CompanyCall) : CompanyProgram call.Result :=
  .call call fun
    | .ok result => .done result
    | .error fault => .raised fault

/-- `except DatabaseError as exc: raise translate_database_error(exc)`. -/
def translating {α : Type} (program : CompanyProgram α) : CompanyProgram α :=
  tryCatch program fun
    | .database error => .raised (.app (translateDatabaseError error))
    | fault => .raised fault

/-- A caller with the platform flag that the identity carries beside its role. -/
structure PlatformIdentity extends AuthenticatedIdentity where
  isPlatformAdmin : Bool

def isExpired (identity : PlatformIdentity) : CompanyProgram Bool :=
  match identity.expiresAt with
  | none => return false
  | some expiresAt => do
      let now : Datetime ← perform .utcNow
      return isPast expiresAt now

/-- `authorize_platform_admin`, as `_authorize` translates its errors. -/
def authorize (identity : PlatformIdentity) : CompanyProgram Unit := do
  let expired ← isExpired identity
  if expired then .raised (.app (translateAuthError .sessionExpired))
  else if identity.isPlatformAdmin then return ()
  else .raised (.app (translateAuthError (.permissionDenied identity.role "platform_admin")))

def guardAgainstSelfLockout (identity : PlatformIdentity) (companyId : UUID) (action : String) : CompanyProgram Unit :=
  if companyId = identity.companyId then .raised (.app (.validation ("You may not " ++ action ++ " your own company.")))
  else return ()

def createCompany (lower : List Char → List Char) (identity : PlatformIdentity) (name : String) :
    CompanyProgram CompanyRecord := do
  authorize identity
  let drawn : UUID ← perform .uuid4
  let created : CompanyRecord ← translating (perform (.createCompany name (slugify lower name drawn)))
  perform (.recordEvent .companyCreated identity.userId none)
  return created

def getCompany (identity : PlatformIdentity) (companyId : UUID) : CompanyProgram CompanyRecord := do
  authorize identity
  translating (perform (.getById companyId))

/-- The entries that `update_company` writes after the update. -/
def recordUpdate (identity : PlatformIdentity) (companyId : UUID) (given : CompanyUpdate) : CompanyProgram Unit := do
  if let some active := given.isActive then
    perform (.recordEvent (if active then .companyReactivated else .companySuspended) identity.userId (some companyId))
  if given.contactEmail.isSome || given.notes.isSome then
    perform (.recordEvent .companySettingsUpdated identity.userId (some companyId))

def updateCompany (identity : PlatformIdentity) (companyId : UUID) (expectedVersion : Nat) (given : CompanyUpdate) :
    CompanyProgram CompanyRecord := do
  authorize identity
  if given.isActive = some false then guardAgainstSelfLockout identity companyId "suspend"
  let updated : CompanyRecord ← translating (perform (.updateCompany companyId expectedVersion given))
  recordUpdate identity companyId given
  return updated

def softDeleteCompany (identity : PlatformIdentity) (companyId : UUID) (expectedVersion : Nat) :
    CompanyProgram CompanyRecord := do
  authorize identity
  guardAgainstSelfLockout identity companyId "delete"
  let deleted : CompanyRecord ← translating (perform (.softDelete companyId expectedVersion identity.userId))
  perform (.recordEvent .companyDeleted identity.userId (some companyId))
  return deleted

def restoreCompany (identity : PlatformIdentity) (companyId : UUID) (expectedVersion : Nat) :
    CompanyProgram CompanyRecord := do
  authorize identity
  let restored : CompanyRecord ← translating (perform (.restore companyId expectedVersion))
  perform (.recordEvent .companyRestored identity.userId (some companyId))
  return restored

inductive CompanyOperation where
  | createCompany (identity : PlatformIdentity) (name : String)
  | getCompany (identity : PlatformIdentity) (companyId : UUID)
  | updateCompany (identity : PlatformIdentity) (companyId : UUID) (expectedVersion : Nat) (given : CompanyUpdate)
  | softDeleteCompany (identity : PlatformIdentity) (companyId : UUID) (expectedVersion : Nat)
  | restoreCompany (identity : PlatformIdentity) (companyId : UUID) (expectedVersion : Nat)

def CompanyOperation.identity : CompanyOperation → PlatformIdentity
  | .createCompany identity _ | .getCompany identity _ | .updateCompany identity .. | .softDeleteCompany identity ..
  | .restoreCompany identity .. => identity

def CompanyOperation.program (lower : List Char → List Char) (operation : CompanyOperation) : CompanyProgram Unit :=
  (match operation with
    | .createCompany identity name => Platform.createCompany lower identity name
    | .getCompany identity companyId => Platform.getCompany identity companyId
    | .updateCompany identity companyId expectedVersion given =>
        Platform.updateCompany identity companyId expectedVersion given
    | .softDeleteCompany identity companyId expectedVersion =>
        Platform.softDeleteCompany identity companyId expectedVersion
    | .restoreCompany identity companyId expectedVersion => Platform.restoreCompany identity companyId expectedVersion)
    >>= fun _ => return ()

section Calls

variable {identity : PlatformIdentity} {allowed : CompanyCall → Prop} {companyId : UUID}

theorem only_perform {call : CompanyCall} (permitted : allowed call) : (perform call).Only allowed := by
  refine ⟨permitted, ?_⟩
  intro reply
  cases reply <;> trivial

theorem only_translating {call : CompanyCall} (permitted : allowed call) :
    (translating (perform call)).Only allowed := by
  apply (only_perform permitted).tryCatch
  intro fault
  cases fault <;> trivial

/-- The check reads the clock at most, and nothing follows it for a caller who is no platform admin. -/
theorem only_authorized {α : Type} {next : CompanyProgram α} (read : allowed .utcNow)
    (follows : identity.isPlatformAdmin = true → next.Only allowed) :
    (authorize identity >>= fun _ => next).Only allowed := by
  have checked (expired : Bool) : ((if expired then .raised (.app (translateAuthError .sessionExpired))
      else if identity.isPlatformAdmin then return ()
      else .raised (.app (translateAuthError (.permissionDenied identity.role "platform_admin"))) :
        CompanyProgram Unit) >>= fun _ => next).Only allowed := by
    cases expired with
    | true => trivial
    | false =>
        cases admin : identity.isPlatformAdmin with
        | true => exact follows admin
        | false => trivial
  unfold authorize isExpired
  cases identity.expiresAt with
  | none => exact checked false
  | some expiresAt =>
      refine ⟨read, ?_⟩
      intro reply
      cases reply with
      | error fault => trivial
      | ok now => exact checked (isPast expiresAt now)

theorem only_guarded {α : Type} {next : CompanyProgram α} {action : String}
    (follows : companyId ≠ identity.companyId → next.Only allowed) :
    (guardAgainstSelfLockout identity companyId action >>= fun _ => next).Only allowed := by
  unfold guardAgainstSelfLockout
  split
  · trivial
  · rename_i apart
    exact follows apart

theorem only_recordUpdate {given : CompanyUpdate}
    (recorded : ∀ action, allowed (.recordEvent action identity.userId (some companyId))) :
    (recordUpdate identity companyId given).Only allowed := by
  unfold recordUpdate
  cases given.isActive with
  | none =>
      dsimp only
      split
      · exact only_perform (recorded _)
      · trivial
  | some active =>
      apply Only.bind (only_perform (recorded _))
      intro _
      split
      · exact only_perform (recorded _)
      · trivial

end Calls

end AutomationHub.Platform
