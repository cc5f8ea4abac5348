import AutomationHub.Auth.Authorization
import AutomationHub.Database.RepositoryProperties
import AutomationHub.Foundation.Pool

/-!
Invitations, the accounts of the authentication service and the profiles, with
the calls that revoking and accepting an invitation make.

A call that fails may have taken effect all the same.
-/

set_option autoImplicit false

namespace AutomationHub.Invitations

open Foundation Model Auth Database Program Table

inductive InvitationStatus where
  | pending
  | accepted
  | revoked
deriving DecidableEq

def InvitationStatus.value : InvitationStatus → String
  | .pending => "pending"
  | .accepted => "accepted"
  | .revoked => "revoked"

structure InvitationRecord where
  id : UUID
  email : String
  fullName : String
  role : UserRole
  department : Option String
  tokenHash : String
  status : InvitationStatus
  expiresAt : Datetime
  acceptedAt : Option Datetime
  revokedAt : Option Datetime
  acceptedProfileId : Option UUID
  resendCount : Nat
  version : Nat
  companyId : UUID
  createdAt : Datetime
deriving DecidableEq

instance : Versioned InvitationRecord where
  key := InvitationRecord.id
  version := InvitationRecord.version
  withVersion := fun number invitation => { invitation with version := number }
  key_withVersion := fun _ _ => rfl
  version_withVersion := fun _ _ => rfl

/-- A user of the authentication service, with the metadata that its trigger reads. -/
structure AuthAccount where
  id : UUID
  email : String
  password : String
  fullName : String
  role : UserRole
  companyId : UUID
deriving DecidableEq

instance : Keyed AuthAccount := ⟨AuthAccount.id⟩

/-- What `update_status_with_lock` is asked to write; absent values are left alone. -/
structure StatusChange where
  status : InvitationStatus
  tokenHash : Option String
  expiresAt : Option Datetime
  acceptedAt : Option Datetime
  revokedAt : Option Datetime
  acceptedProfileId : Option UUID
  resendCount : Option Nat
deriving DecidableEq

def StatusChange.edit (change : StatusChange) : Edit InvitationRecord where
  apply := fun invitation =>
    { invitation with
      status := change.status
      tokenHash := change.tokenHash.getD invitation.tokenHash
      expiresAt := change.expiresAt.getD invitation.expiresAt
      acceptedAt := change.acceptedAt <|> invitation.acceptedAt
      revokedAt := change.revokedAt <|> invitation.revokedAt
      acceptedProfileId := change.acceptedProfileId <|> invitation.acceptedProfileId
      resendCount := change.resendCount.getD invitation.resendCount }
  key_apply := fun _ => rfl

/-- The tables and the users, at one of the instants of a run. -/
structure Directory where
  clock : Nat → Datetime
  ticks : Nat
  invitations : Table InvitationRecord
  accounts : Table AuthAccount
  profiles : Table ProfileRecord

inductive InvitationFault where
  | database (error : DatabaseError)
  | app (error : AppError)
  | notFound (resource identifier : String)
  | invalidState (invitationId : UUID) (currentStatus attemptedAction : String)
  | conflict (email : String)
  | adminOperation (message : String)
deriving DecidableEq

inductive InvitationCall where
  | utcNow
  | getById (invitationId : UUID)
  | findByTokenHash (tokenHash : String)
  | updateStatus (invitationId : UUID) (expectedVersion : Nat) (change : StatusChange)
  | createUser (account : AuthAccount)
  | findProfile (profileId : UUID)
  | recordEvent (action : AuditAction) (actorId invitationId : UUID) (email : String)
deriving DecidableEq

@[reducible] def InvitationCall.Result : InvitationCall → Type
  | .utcNow => Datetime
  | .getById _ | .updateStatus .. => InvitationRecord
  | .findByTokenHash _ => Option InvitationRecord
  | .createUser _ => UUID
  | .findProfile _ => Option ProfileRecord
  | .recordEvent .. => Unit

/-- The faults that strike a call from outside. -/
def InvitationCall.struck : InvitationCall → InvitationFault → Bool
  | .getById _, .database _ | .findByTokenHash _, .database _ | .updateStatus .., .database _
  | .findProfile _, .database _ | .recordEvent .., .database _ => true
  | .createUser _, .conflict _ | .createUser _, .adminOperation _ => true
  | _, _ => false

abbrev invitationSignature : Signature := ⟨InvitationCall, fun call => Except InvitationFault call.Result⟩

namespace Directory

def now (state : Directory) : Datetime := state.clock state.ticks

def tick (state : Directory) : Directory := { state with ticks := state.ticks + 1 }

def statusOf (state : Directory) (invitationId : UUID) : Option InvitationStatus :=
  (state.invitations.find? invitationId).map InvitationRecord.status

/-- The row that `handle_new_user` inserts. -/
def newProfile (account : AuthAccount) (now : Datetime) : ProfileRecord where
  id := account.id
  fullName := account.fullName
  role := account.role
  department := none
  version := 1
  createdAt := now
  updatedAt := now
  companyId := account.companyId
  isPlatformAdmin := false
  isActive := true
  deletedAt := none
  deletedBy := none

/-- `auth.admin.create_user` and the trigger `on_auth_user_created`, which does nothing on a conflict. -/
def createUser (state : Directory) (account : AuthAccount) : Except InvitationFault UUID × Directory :=
  if (state.accounts.find? account.id).isSome || state.accounts.rows.any fun other => other.email == account.email then
    (.error (.conflict account.email), state)
  else
    (.ok account.id,
      { state with
        accounts := state.accounts.place account
        profiles :=
          if (state.profiles.find? account.id).isSome then state.profiles
          else state.profiles.place (newProfile account state.now) })

def updateStatus (state : Directory) (invitationId : UUID) (expectedVersion : Nat) (change : StatusChange) :
    Except InvitationFault InvitationRecord × Directory :=
  let (reply, invitations) := updateWithOptimisticLock "user_invitations" state.invitations invitationId expectedVersion
    change.edit fun _ => World.firstViolated
      [("foreign_key", change.acceptedProfileId.all fun profileId => (state.profiles.find? profileId).isSome)]
  (reply.mapError .database, { state with invitations })

def execute (state : Directory) : (call : InvitationCall) → Except InvitationFault call.Result × Directory
  | .utcNow => (.ok state.now, state)
  | .getById invitationId => ((getById "user_invitations" state.invitations invitationId).mapError .database, state)
  | .findByTokenHash tokenHash =>
      (.ok (state.invitations.rows.find? fun invitation => invitation.tokenHash == tokenHash), state)
  | .updateStatus invitationId expectedVersion change => state.updateStatus invitationId expectedVersion change
  | .createUser account => state.createUser account
  | .findProfile profileId => (.ok (state.profiles.find? profileId), state)
  | .recordEvent .. => (.ok (), state)

end Directory

/-- A call is answered, or struck by a fault; what it asked for may have been done all the same. -/
def invitationStep (state : Directory) (call : InvitationCall) (reply : Except InvitationFault call.Result)
    (after : Directory) : Prop :=
  reply = (state.execute call).1 ∧ after = (state.execute call).2.tick ∨
    ∃ fault, call.struck fault = true ∧ reply = .error fault ∧ (after = state.tick ∨ after = (state.execute call).2.tick)

abbrev InvitationProgram (α : Type) := Program invitationSignature InvitationFault α

/-- Make one call; a failure is raised. -/
def perform (call : InvitationCall) : InvitationProgram call.Result :=
  .call call fun
    | .ok result => .done result
    | .error fault => .raised fault

/-- `except DatabaseError as exc: raise translate_database_error(exc)`. -/
def translating {α : Type} (program : InvitationProgram α) : InvitationProgram α :=
  tryCatch program fun
    | .database error => .raised (.app (translateDatabaseError error))
    | fault => .raised fault

/-- `_authorize_admin`. -/
def authorizeAdmin (identity : AuthenticatedIdentity) : InvitationProgram Unit :=
  if identity.role = .admin then return ()
  else .raised (.app (translateAuthError (.roleNotPermitted identity.role [.admin])))

/-- `_get_record_or_raise`. -/
def getRecordOrRaise (invitationId : UUID) (identity : AuthenticatedIdentity) : InvitationProgram InvitationRecord := do
  let record : InvitationRecord ← translating (perform (.getById invitationId))
  if record.companyId = identity.companyId then return record
  else .raised (.notFound "invitation" (toString invitationId))

/-- `_require_pending`. -/
def requirePending (record : InvitationRecord) (attemptedAction : String) : InvitationProgram Unit :=
  if record.status = .pending then return ()
  else .raised (.invalidState record.id record.status.value attemptedAction)

def revokeInvitation (identity : AuthenticatedIdentity) (invitationId : UUID) : InvitationProgram InvitationRecord := do
  authorizeAdmin identity
  let existing ← getRecordOrRaise invitationId identity
  requirePending existing "revoke"
  let now : Datetime ← perform .utcNow
  let updated : InvitationRecord ← translating (perform (.updateStatus invitationId existing.version
    { status := .revoked, tokenHash := none, expiresAt := none, acceptedAt := none, revokedAt := some now,
      acceptedProfileId := none, resendCount := none }))
  translating (perform (.recordEvent .invitationRevoked identity.userId updated.id updated.email))
  return updated

/-- `_find_by_token_or_raise`; `hash` is the hex digest of a raw token. -/
def findByTokenOrRaise (hash : String → String) (token : String) : InvitationProgram InvitationRecord := do
  let record : Option InvitationRecord ← translating (perform (.findByTokenHash (hash token)))
  match record with
  | none => .raised (.notFound "invitation" "<redacted-token>")
  | some record => return record

/-- `_require_acceptable`. -/
def requireAcceptable (record : InvitationRecord) : InvitationProgram Unit := do
  requirePending record "accept"
  let now : Datetime ← perform .utcNow
  if record.expiresAt < now then .raised (.invalidState record.id "expired" "accept") else return ()

/-- `_wait_for_profile`, with the attempts that are left. -/
def waitForProfile (profileId : UUID) : Nat → InvitationProgram Unit
  | 0 => .raised (.adminOperation ("No profile was provisioned for user " ++ toString profileId ++
      " within the expected window after Supabase Auth user creation."))
  | attempts + 1 => do
      let found : Option ProfileRecord ← perform (.findProfile profileId)
      match found with
      | some _ => return ()
      | none => waitForProfile profileId attempts

def profilePropagationAttempts : Nat := 5

def acceptInvitation (hash : String → String) (token password : String) : InvitationProgram InvitationRecord := do
  let record ← findByTokenOrRaise hash token
  requireAcceptable record
  let account : AuthAccount :=
    { id := record.id, email := record.email, password, fullName := record.fullName, role := record.role,
      companyId := record.companyId }
  let createdProfileId : UUID ← tryCatch (perform (.createUser account)) fun
    | .conflict _ => return record.id
    | fault => .raised fault
  waitForProfile createdProfileId profilePropagationAttempts
  let now : Datetime ← perform .utcNow
  let updated : InvitationRecord ← translating (perform (.updateStatus record.id record.version
    { status := .accepted, tokenHash := none, expiresAt := none, acceptedAt := some now, revokedAt := none,
      acceptedProfileId := some createdProfileId, resendCount := none }))
  translating (perform (.recordEvent .invitationAccepted createdProfileId updated.id updated.email))
  return updated

inductive InvitationProcess where
  | revoke (identity : AuthenticatedIdentity) (invitationId : UUID)
  | accept (token password : String)

def InvitationProcess.program (hash : String → String) : InvitationProcess → InvitationProgram Unit
  | .revoke identity invitationId => do
      let _ ← revokeInvitation identity invitationId
      return ()
  | .accept token password => do
      let _ ← acceptInvitation hash token password
      return ()

end AutomationHub.Invitations
