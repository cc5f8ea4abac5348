import AutomationHub.Foundation.Embeddings
import AutomationHub.Foundation.Pool
import AutomationHub.Invitations.Directory

/-!
Creating, resending and checking invitations, beside revoking and accepting them.

Each creation and each resend draws a token, stores its hash and mails the token.
-/

set_option autoImplicit false

namespace AutomationHub.Invitations.Issuing

open Foundation Model Auth Database Program Table

/-- The values of a new invitation. -/
structure NewInvitation where
  email : String
  fullName : String
  role : UserRole
  department : Option String
  tokenHash : String
  expiresAt : Datetime
  invitedBy : UUID
  companyId : UUID
deriving DecidableEq

structure InvitationEmail where
  invitationId : UUID
  toEmail : String
  fullName : String
  token : String
  expiresAt : Datetime
  isResend : Bool
deriving DecidableEq

/-- `lower` of the database, its case-insensitive comparison, and the digest of tokens. -/
structure TextRules where
  lower : String → String
  ilike : (pattern text : String) → Bool
  hash : String → String

/-- The directory, the tokens that successive draws return, the mail server's answers, and the e-mails handed to it. -/
structure Registry where
  directory : Directory
  secrets : Nat → String
  drawn : Nat
  delivers : Nat → Bool
  mailed : List InvitationEmail

inductive IssuingCall where
  | directory (call : InvitationCall)
  | findPendingByEmail (email : String) (companyId : UUID)
  | createInvitation (values : NewInvitation)
  | generateToken
  | sendInvitation (email : InvitationEmail)
deriving DecidableEq

@[reducible] def IssuingCall.Result : IssuingCall → Type
  | .directory asked => asked.Result
  | .findPendingByEmail .. => Option InvitationRecord
  | .createInvitation _ => InvitationRecord
  | .generateToken => String
  | .sendInvitation _ => Bool

/-- The faults that strike a call from outside; a sender may raise anything. -/
def IssuingCall.struck : IssuingCall → InvitationFault → Bool
  | .directory asked, fault => asked.struck fault
  | .findPendingByEmail .., .database _ | .createInvitation _, .database _ => true
  | .sendInvitation _, _ => true
  | _, _ => false

abbrev issuingSignature : Signature := ⟨IssuingCall, fun call => Except InvitationFault call.Result⟩

def directoryCalls : invitationSignature.Embedding issuingSignature where
  call := .directory
  reply := fun _ reply => reply

namespace Registry

def tick (state : Registry) : Registry := { state with directory := state.directory.tick }

def newInvitation (state : Registry) (values : NewInvitation) : Draft InvitationRecord where
  build := fun id =>
    { id, email := values.email, fullName := values.fullName, role := values.role, department := values.department,
      tokenHash := values.tokenHash, status := .pending, expiresAt := values.expiresAt, acceptedAt := none,
      revokedAt := none, acceptedProfileId := none, resendCount := 0, version := 1, companyId := values.companyId,
      createdAt := state.directory.now }
  key_build := fun _ => rfl

/-- `user_invitations_token_hash_idx` and `user_invitations_pending_email_idx`, for a row among others. -/
def uniqueIndexes (rules : TextRules) (others : List InvitationRecord) (row : InvitationRecord) : List (String × Bool) :=
  [("unique", others.all fun other => other.tokenHash != row.tokenHash),
    ("unique", others.all fun other => row.status != .pending || other.status != .pending ||
      rules.lower other.email != rules.lower row.email || other.companyId != row.companyId)]

def createInvitation (rules : TextRules) (state : Registry) (values : NewInvitation) :
    Except InvitationFault InvitationRecord × Registry :=
  let (reply, invitations) := insertRow "user_invitations" state.directory.invitations (state.newInvitation values)
    fun row => World.firstViolated (("foreign_key", (state.directory.profiles.find? values.invitedBy).isSome) ::
      uniqueIndexes rules state.directory.invitations.rows row)
  (reply.mapError .database, { state with directory := { state.directory with invitations } })

/-- The update of `update_status_with_lock`. -/
def updateStatus (rules : TextRules) (state : Registry) (invitationId : UUID) (expectedVersion : Nat)
    (change : StatusChange) : Except InvitationFault InvitationRecord × Registry :=
  let (reply, invitations) := updateWithOptimisticLock "user_invitations" state.directory.invitations invitationId
    expectedVersion change.edit fun row => World.firstViolated
      (("foreign_key", change.acceptedProfileId.all fun profileId =>
          (state.directory.profiles.find? profileId).isSome) ::
        uniqueIndexes rules (state.directory.invitations.rows.filter fun other => other.id != invitationId) row)
  (reply.mapError .database, { state with directory := { state.directory with invitations } })

def execute (rules : TextRules) (state : Registry) : (call : IssuingCall) → Except InvitationFault call.Result × Registry
  | .directory (.updateStatus invitationId expectedVersion change) =>
      state.updateStatus rules invitationId expectedVersion change
  | .directory asked =>
      let (reply, directory) := state.directory.execute asked
      (reply, { state with directory })
  | .findPendingByEmail email companyId =>
      (.ok (state.directory.invitations.rows.find? fun invitation =>
        invitation.companyId == companyId && invitation.status == .pending && rules.ilike email invitation.email), state)
  | .createInvitation values => state.createInvitation rules values
  | .generateToken => (.ok (state.secrets state.drawn), { state with drawn := state.drawn + 1 })
  | .sendInvitation email => (.ok (state.delivers state.mailed.length), { state with mailed := state.mailed ++ [email] })

end Registry

/-- A call is answered, or struck by a fault; what it asked for may have been done all the same. -/
def issuingStep (rules : TextRules) (state : Registry) (call : IssuingCall) (reply : Except InvitationFault call.Result)
    (after : Registry) : Prop :=
  reply = (state.execute rules call).1 ∧ after = (state.execute rules call).2.tick ∨
    ∃ fault, call.struck fault = true ∧ reply = .error fault ∧
      (after = state.tick ∨ after = (state.execute rules call).2.tick)

abbrev IssuingProgram (α : Type) := Program issuingSignature InvitationFault α

def perform (call : IssuingCall) : IssuingProgram call.Result :=
  .call call fun
    | .ok result => .done result
    | .error fault => .raised fault

/-- `except DatabaseError as exc: raise translate_database_error(exc)`. -/
def translating {α : Type} (program : IssuingProgram α) : IssuingProgram α :=
  tryCatch program fun
    | .database error => .raised (.app (translateDatabaseError error))
    | fault => .raised fault

/-- How long an invitation lasts, and whether a sender is configured. -/
structure IssuingConfig where
  expiry : Nat
  hasSender : Bool

section Creation

/-- `_validate_email_shape`. -/
def validEmailShape (value : List Char) : Bool :=
  match value.dropWhile (· != '@') with
  | [] => false
  | _ :: domain => !(value.takeWhile (· != '@')).isEmpty && domain.contains '.' && domain.head? != some '.'

/-- What `InvitationCreate` keeps of its arguments, with blanks around texts removed. -/
structure InvitationCreate where
  email : String
  fullName : String
  role : UserRole
  department : Option String

def invitationCreate (email fullName : String) (role : UserRole) (department : Option String) :
    Except AppError InvitationCreate :=
  let payload := { email := strip email, fullName := strip fullName, role, department := department.map strip }
  if payload.email.length ≤ 254 && validEmailShape payload.email.toList && decide (1 ≤ payload.fullName.length) &&
      decide (payload.fullName.length ≤ 200) && payload.department.all fun text => decide (text.length ≤ 200) then
    .ok payload
  else .error (.validation "'InvitationCreate' failed validation.")

/-- Who may invite into a company: a platform admin into another than the caller's, an administrator into that. -/
def authorizeInvitation (identity : AuthenticatedIdentity) (isPlatformAdmin : Bool) (targetCompanyId : UUID) :
    IssuingProgram Unit :=
  if targetCompanyId ≠ identity.companyId then
    if isPlatformAdmin then return ()
    else .raised (.app (.permissionDenied ("Role '" ++ identity.role.value ++
      "' may not invite into a company other than its own.")))
  else (authorizeAdmin identity).embed directoryCalls

/-- `_record_audit_event`. -/
def recordAuditEvent (action : AuditAction) (actorId : UUID) (record : InvitationRecord) : IssuingProgram Unit :=
  translating (perform (.directory (.recordEvent action actorId record.id record.email)))

/-- `_dispatch_invitation_email`: neither a failure nor a refusal of the sender is passed on. -/
def dispatchInvitationEmail (config : IssuingConfig) (record : InvitationRecord) (token : String) (isResend : Bool) :
    IssuingProgram Unit :=
  if config.hasSender then
    let email : InvitationEmail :=
      { invitationId := record.id, toEmail := record.email, fullName := record.fullName, token,
        expiresAt := record.expiresAt, isResend }
    .call (.sendInvitation email) fun _ => return ()
  else return ()

def createInvitation (rules : TextRules) (config : IssuingConfig) (identity : AuthenticatedIdentity)
    (isPlatformAdmin : Bool) (email fullName : String) (role : UserRole) (department : Option String)
    (companyId : Option UUID) : IssuingProgram InvitationRecord := do
  let targetCompanyId := companyId.getD identity.companyId
  authorizeInvitation identity isPlatformAdmin targetCompanyId
  match invitationCreate email fullName role department with
  | .error error => .raised (.app error)
  | .ok payload => do
      -- this lookup stands outside the blocks that translate
      let pending : Option InvitationRecord ← perform (.findPendingByEmail payload.email targetCompanyId)
      if pending.isSome then .raised (.conflict payload.email)
      else do
        let token : String ← perform .generateToken
        let now : Datetime ← perform (.directory .utcNow)
        let created : InvitationRecord ← translating (perform (.createInvitation
          { email := payload.email, fullName := payload.fullName, role := payload.role, department := payload.department,
            tokenHash := rules.hash token, expiresAt := now + config.expiry, invitedBy := identity.userId,
            companyId := targetCompanyId }))
        recordAuditEvent .invitationCreated identity.userId created
        dispatchInvitationEmail config created token false
        return created

end Creation

def resendInvitation (rules : TextRules) (config : IssuingConfig) (identity : AuthenticatedIdentity) (invitationId : UUID) :
    IssuingProgram InvitationRecord := do
  (authorizeAdmin identity).embed directoryCalls
  let existing : InvitationRecord ← (getRecordOrRaise invitationId identity).embed directoryCalls
  (requirePending existing "resend").embed directoryCalls
  let token : String ← perform .generateToken
  let now : Datetime ← perform (.directory .utcNow)
  let updated : InvitationRecord ← translating (perform (.directory (.updateStatus invitationId existing.version
    { status := .pending, tokenHash := some (rules.hash token), expiresAt := some (now + config.expiry),
      acceptedAt := none, revokedAt := none, acceptedProfileId := none,
      resendCount := some (existing.resendCount + 1) })))
  recordAuditEvent .invitationResent identity.userId updated
  dispatchInvitationEmail config updated token true
  return updated

def validateInvitationToken (rules : TextRules) (token : String) : IssuingProgram InvitationRecord :=
  (do
    let record ← findByTokenOrRaise rules.hash token
    requireAcceptable record
    return record : InvitationProgram InvitationRecord).embed directoryCalls

inductive IssuingProcess where
  | create (identity : AuthenticatedIdentity) (isPlatformAdmin : Bool) (email fullName : String) (role : UserRole)
      (department : Option String) (companyId : Option UUID)
  | resend (identity : AuthenticatedIdentity) (invitationId : UUID)
  | revoke (identity : AuthenticatedIdentity) (invitationId : UUID)
  | validate (token : String)
  | accept (token password : String)

def IssuingProcess.program (rules : TextRules) (config : IssuingConfig) (process : IssuingProcess) : IssuingProgram Unit :=
  (match process with
    | .create identity isPlatformAdmin email fullName role department companyId =>
        createInvitation rules config identity isPlatformAdmin email fullName role department companyId
    | .resend identity invitationId => resendInvitation rules config identity invitationId
    | .revoke identity invitationId => (revokeInvitation identity invitationId).embed directoryCalls
    | .validate token => validateInvitationToken rules token
    | .accept token password => (acceptInvitation rules.hash token password).embed directoryCalls) >>= fun _ => return ()

end AutomationHub.Invitations.Issuing
