import AutomationHub.Auth.Authorization
import AutomationHub.Database.Policies
import AutomationHub.Database.RepositoryProperties

/-!
Adding and removing the comments of a request.
-/

set_option autoImplicit false

namespace AutomationHub.Comments

open Foundation Model Auth Database Program Table

structure CommentStore where
  clock : Nat → Datetime
  ticks : Nat
  tables : TenantTables
  comments : Table CommentRecord

inductive CommentFault where
  | database (error : DatabaseError)
  | app (error : AppError)
deriving DecidableEq

inductive CommentCall where
  | utcNow
  | getComment (commentId : UUID)
  | findComment (commentId : UUID)
  | getRequest (requestId : UUID)
  | listStages (requestId : UUID)
  | createComment (requestId authorId : UUID) (body : String) (parentCommentId : Option UUID)
  | softDelete (commentId deletedBy : UUID)
  | recordEvent (action : AuditAction) (actorId requestId commentId : UUID)
deriving DecidableEq

@[reducible] def CommentCall.Result : CommentCall → Type
  | .utcNow => Datetime
  | .getComment _ | .createComment .. | .softDelete .. => CommentRecord
  | .findComment _ => Option CommentRecord
  | .getRequest _ => RequestRecord
  | .listStages _ => List WorkflowStageRecord
  | .recordEvent .. => Unit

abbrev commentSignature : Signature := ⟨CommentCall, fun call => Except CommentFault call.Result⟩

def newComment (now : Datetime) (requestId authorId : UUID) (body : String) (parentCommentId : Option UUID) :
    Draft CommentRecord where
  build := fun id =>
    { id, requestId, authorId, parentCommentId, body, deletedAt := none, deletedBy := none, createdAt := now }
  key_build := fun _ => rfl

def softDeleteEdit (now : Datetime) (deletedBy : UUID) : Edit CommentRecord where
  apply := fun comment => { comment with deletedAt := some now, deletedBy := some deletedBy }
  key_apply := fun _ => rfl

namespace CommentStore

def now (state : CommentStore) : Datetime := state.clock state.ticks

def tick (state : CommentStore) : CommentStore := { state with ticks := state.ticks + 1 }

def createComment (state : CommentStore) (requestId authorId : UUID) (body : String) (parentCommentId : Option UUID) :
    Except CommentFault CommentRecord × CommentStore :=
  match World.firstViolated [
      ("foreign_key", (state.tables.requests.find? requestId).isSome),
      ("foreign_key", (state.tables.profiles.find? authorId).isSome),
      ("foreign_key", parentCommentId.all fun parent => (state.comments.find? parent).isSome),
      ("check", 1 ≤ body.length ∧ body.length ≤ 5000)] with
  | some constraint => (.error (.database (.constraintViolation "comments" (some constraint))), state)
  | none =>
      (.ok ((newComment state.now requestId authorId body parentCommentId).build state.comments.next),
        { state with comments := state.comments.insert (newComment state.now requestId authorId body parentCommentId) })

def softDelete (state : CommentStore) (commentId deletedBy : UUID) : Except CommentFault CommentRecord × CommentStore :=
  match state.comments.find? commentId with
  | none => (.error (.database (.recordNotFound "comments" commentId)), state)
  | some row =>
      if (state.tables.profiles.find? deletedBy).isSome then
        (.ok ((softDeleteEdit state.now deletedBy).apply row),
          { state with comments := state.comments.modify commentId (softDeleteEdit state.now deletedBy) })
      else (.error (.database (.constraintViolation "comments" (some "foreign_key"))), state)

def execute (state : CommentStore) : (call : CommentCall) → Except CommentFault call.Result × CommentStore
  | .utcNow => (.ok state.now, state)
  | .getComment commentId => ((getById "comments" state.comments commentId).mapError .database, state)
  | .findComment commentId => (.ok (state.comments.find? commentId), state)
  | .getRequest requestId => ((getById "requests" state.tables.requests requestId).mapError .database, state)
  | .listStages requestId => (.ok (state.tables.firstStages requestId), state)
  | .createComment requestId authorId body parentCommentId =>
      state.createComment requestId authorId body parentCommentId
  | .softDelete commentId deletedBy => state.softDelete commentId deletedBy
  | .recordEvent .. => (.ok (), state)

end CommentStore

def commentHandler : Handler commentSignature CommentStore :=
  fun call state => ((state.execute call).1, (state.execute call).2.tick)

abbrev CommentProgram (α : Type) := Program commentSignature CommentFault α

/-- Make one call; a failure is raised. -/
def perform (call : CommentCall) : CommentProgram call.Result :=
  .call call fun
    | .ok result => .done result
    | .error fault => .raised fault

/-- `except DatabaseError as exc: raise translate_database_error(exc)`. -/
def translating {α : Type} (program : CommentProgram α) : CommentProgram α :=
  tryCatch program fun
    | .database error => .raised (.app (translateDatabaseError error))
    | fault => .raised fault

/-- `except RecordNotFoundError as exc: raise translate_database_error(exc)`. -/
def translatingNotFound {α : Type} (program : CommentProgram α) : CommentProgram α :=
  tryCatch program fun
    | .database (.recordNotFound table identifier) =>
        .raised (.app (translateDatabaseError (.recordNotFound table identifier)))
    | fault => .raised fault

def isExpired (identity : AuthenticatedIdentity) : CommentProgram Bool :=
  match identity.expiresAt with
  | none => return false
  | some expiresAt => do
      let now : Datetime ← perform .utcNow
      return isPast expiresAt now

/-- `_is_assigned_to_any_stage`. -/
def isAssignedToAnyStage (identity : AuthenticatedIdentity) (requestId : UUID) : CommentProgram Bool :=
  if identity.role = .employee then return false
  else do
    let stages : List WorkflowStageRecord ← perform (.listStages requestId)
    return stages.any fun stage => stage.assignedTo == some identity.userId || stage.assignedRole == some identity.role

/-- `_authorize_view`; whatever the authorization raises becomes a `NotFoundError`. -/
def authorizeView (identity : AuthenticatedIdentity) (requestId : UUID) : CommentProgram Unit := do
  let request : RequestRecord ← translatingNotFound (perform (.getRequest requestId))
  if request.companyId = identity.companyId then do
    let isAssignedApprover ← isAssignedToAnyStage identity requestId
    let expired ← isExpired identity
    if !expired && canViewRequest identity.role (request.requesterId == identity.userId) isAssignedApprover then
      return ()
    else .raised (.app (.notFound "request" requestId))
  else .raised (.app (.notFound "request" requestId))

/-- `CommentCreate`: the body is stripped before its length is checked. -/
def commentCreate (body : String) : Except CommentFault String :=
  if 1 ≤ (strip body).length ∧ (strip body).length ≤ 5000 then .ok (strip body)
  else .error (.app (.validation "'CommentCreate' failed validation."))

def parentComplaint : String :=
  "parent_comment_id does not reference an existing, non-deleted comment on this request."

/-- The parent of a reply is a comment of the request that was not removed. -/
def answersTo (requestId : UUID) (parent : Option CommentRecord) : Bool :=
  parent.any fun comment => comment.deletedAt.isNone && comment.requestId == requestId

def checkParent (requestId : UUID) : Option UUID → CommentProgram Unit
  | none => return ()
  | some parentCommentId => do
      let parent : Option CommentRecord ← perform (.findComment parentCommentId)
      if answersTo requestId parent then return () else .raised (.app (.validation parentComplaint))

def addComment (identity : AuthenticatedIdentity) (requestId : UUID) (body : String) (parentCommentId : Option UUID) :
    CommentProgram CommentRecord := do
  let body ← Program.ofExcept (commentCreate body)
  authorizeView identity requestId
  checkParent requestId parentCommentId
  let created : CommentRecord ← translating
    (perform (.createComment requestId identity.userId body parentCommentId))
  translating (perform (.recordEvent .commentCreated identity.userId requestId created.id))
  return created

def canModerateComment (role : UserRole) : Bool := role == .admin

/-- `authorize_comment_moderation`. -/
def authorizeCommentModeration (identity : AuthenticatedIdentity) : CommentProgram Unit := do
  let expired ← isExpired identity
  if expired then .raised (.app (translateAuthError .sessionExpired))
  else if canModerateComment identity.role then return ()
  else .raised (.app (translateAuthError (.permissionDenied identity.role "moderate_comment")))

def removeComment (identity : AuthenticatedIdentity) (commentId : UUID) : CommentProgram CommentRecord := do
  let existing : CommentRecord ← translatingNotFound (perform (.getComment commentId))
  let parentRequest : RequestRecord ← translatingNotFound (perform (.getRequest existing.requestId))
  if parentRequest.companyId = identity.companyId then do
    authorizeCommentModeration identity
    let removed : CommentRecord ← translating (perform (.softDelete commentId identity.userId))
    translating (perform (.recordEvent .commentRemoved identity.userId existing.requestId commentId))
    return removed
  else .raised (.app (.notFound "comment" commentId))

inductive CommentOperation where
  | addComment (identity : AuthenticatedIdentity) (requestId : UUID) (body : String) (parentCommentId : Option UUID)
  | removeComment (identity : AuthenticatedIdentity) (commentId : UUID)

def CommentOperation.identity : CommentOperation → AuthenticatedIdentity
  | .addComment identity .. | .removeComment identity _ => identity

def CommentOperation.program : CommentOperation → CommentProgram Unit
  | .addComment identity requestId body parentCommentId => do
      let _ ← Comments.addComment identity requestId body parentCommentId
      return ()
  | .removeComment identity commentId => do
      let _ ← Comments.removeComment identity commentId
      return ()

end AutomationHub.Comments
