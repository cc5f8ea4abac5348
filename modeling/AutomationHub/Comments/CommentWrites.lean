import AutomationHub.Comments.CommentService
import AutomationHub.Foundation.Writes

/-!
The writes that adding and removing a comment plan: the row, then its entry in the audit log.
-/

set_option autoImplicit false

namespace AutomationHub.Comments

open Foundation Model Auth Database Program Table

def CommentCall.writes : CommentCall → Bool
  | .createComment .. | .softDelete .. | .recordEvent .. => true
  | _ => false

def commentRule : WriteRule commentSignature := fallibleRule CommentFault CommentCall.Result CommentCall.writes

section Checks

variable (identity : AuthenticatedIdentity)

/-- The token has expired when `elapsed` calls have been answered. -/
def CommentStore.expiredAfter (state : CommentStore) (elapsed : Nat) : Bool :=
  identity.expiresAt.any fun expiresAt => isPast expiresAt (state.clock (state.ticks + elapsed))

def CommentStore.assignsAny (state : CommentStore) (requestId : UUID) : Bool :=
  identity.role != .employee && (state.tables.firstStages requestId).any fun stage =>
    stage.assignedTo == some identity.userId || stage.assignedRole == some identity.role

/-- What `_authorize_view` asks of the request. -/
def CommentStore.mayView (state : CommentStore) (requestId : UUID) : Bool :=
  (state.tables.requests.find? requestId).any fun request =>
    request.companyId == identity.companyId &&
      (!state.expiredAfter identity (if identity.role = .employee then 1 else 2) &&
        canViewRequest identity.role (request.requesterId == identity.userId) (state.assignsAny identity requestId))

/-- What the checks of `add_comment` and the constraints of the table ask of a comment. -/
def CommentStore.mayAdd (state : CommentStore) (requestId : UUID) (body : String) (parentCommentId : Option UUID) : Bool :=
  (commentCreate body).toBool && state.mayView identity requestId &&
    (parentCommentId.all fun parent => answersTo requestId (state.comments.find? parent)) &&
    (state.tables.profiles.find? identity.userId).isSome

/-- What the checks of `remove_comment` and the constraints of the table ask. -/
def CommentStore.mayRemove (state : CommentStore) (commentId : UUID) : Bool :=
  (state.comments.find? commentId).any fun comment =>
    ((state.tables.requests.find? comment.requestId).any fun request => request.companyId == identity.companyId) &&
      (!state.expiredAfter identity 2 && canModerateComment identity.role) &&
      (state.tables.profiles.find? identity.userId).isSome

end Checks

section Rules

variable {α : Type} {state after : CommentStore} {call : CommentCall} {planned : List CommentCall}

def CommentStore.atTick (state : CommentStore) (ticks : Nat) : CommentStore := { state with ticks }

theorem commentHandler_of_execute {reply : Except CommentFault call.Result} (executed : state.execute call = (reply, after)) :
    commentHandler call state = (reply, after.tick) := by
  rw [commentHandler, executed]

theorem plans_translating {result : call.Result} {next : call.Result → CommentProgram α} (isWrite : call.writes = true)
    (answered : commentHandler call state = (.ok result, after)) (rest : (next result).Plans commentRule commentHandler after planned) :
    (translating (perform call) >>= next).Plans commentRule commentHandler state (call :: planned) :=
  plans_fallible isWrite (fun fault => by cases fault <;> trivial) answered rfl rest

theorem reaches_perform {result : call.Result} (reads : call.writes = false)
    (answered : commentHandler call state = (.ok result, after)) :
    (perform call).Reaches commentRule commentHandler state (.ok result) after :=
  reaches_fallible reads answered rfl

/-- The same store at another instant. -/
def CommentStore.Later (state after : CommentStore) : Prop := ∃ ticks, after = state.atTick ticks

abbrev Checks (state : CommentStore) (check : CommentProgram Unit) (permitted : Bool) : Prop :=
  Program.Checks commentRule commentHandler check state permitted state.Later

end Rules

section Plans

variable {identity : AuthenticatedIdentity} {state : CommentStore} {requestId commentId : UUID}

theorem reaches_isExpired : ∃ ticks, (isExpired identity).Reaches commentRule commentHandler state
    (.ok (state.expiredAfter identity 0)) (state.atTick ticks) := by
  unfold isExpired CommentStore.expiredAfter
  cases identity.expiresAt with
  | none => exact ⟨state.ticks, reaches_done _⟩
  | some expiresAt => exact ⟨state.ticks + 1, (reaches_perform rfl rfl).bind (reaches_done _)⟩

theorem reaches_isAssignedToAnyStage : (isAssignedToAnyStage identity requestId).Reaches commentRule commentHandler state
    (.ok (state.assignsAny identity requestId))
    (state.atTick (state.ticks + if identity.role = .employee then 0 else 1)) := by
  unfold isAssignedToAnyStage CommentStore.assignsAny
  by_cases employee : identity.role = .employee
  · rw [if_pos employee, if_pos employee, employee]
    exact reaches_done _
  · rw [if_neg employee, if_neg employee, bne_iff_ne.mpr employee, Bool.true_and]
    exact (reaches_perform rfl rfl).bind (reaches_done _)

theorem reaches_getRequest : (translatingNotFound (perform (.getRequest requestId))).Reaches commentRule commentHandler
    state ((state.tables.requests.find? requestId).elim (.error (.app (.notFound "requests" requestId))) .ok)
    (state.atTick (state.ticks + 1)) := by
  apply reaches_call rfl
  simp only [commentHandler, CommentStore.execute, getById]
  cases state.tables.requests.find? requestId with
  | none => exact reaches_raised _
  | some request => exact reaches_done _

theorem reaches_getComment : (translatingNotFound (perform (.getComment commentId))).Reaches commentRule commentHandler
    state ((state.comments.find? commentId).elim (.error (.app (.notFound "comments" commentId))) .ok)
    (state.atTick (state.ticks + 1)) := by
  apply reaches_call rfl
  simp only [commentHandler, CommentStore.execute, getById]
  cases state.comments.find? commentId with
  | none => exact reaches_raised _
  | some comment => exact reaches_done _

theorem checks_authorizeView : Checks state (authorizeView identity requestId) (state.mayView identity requestId) := by
  have fetched := @reaches_getRequest state requestId
  unfold authorizeView CommentStore.mayView
  cases found : state.tables.requests.find? requestId with
  | none =>
      rw [found] at fetched
      exact Checks.unread fetched
  | some request =>
      rw [found] at fetched
      apply Checks.read fetched
      rw [Option.any_some]
      by_cases own : request.companyId = identity.companyId
      · rw [if_pos own, beq_iff_eq.mpr own, Bool.true_and]
        apply Checks.read reaches_isAssignedToAnyStage
        obtain ⟨ticks, timed⟩ := @reaches_isExpired identity
          (state.atTick (state.ticks + 1 + if identity.role = .employee then 0 else 1))
        apply Checks.read timed
        have instant : (state.ticks + 1 + if identity.role = .employee then 0 else 1) =
            state.ticks + if identity.role = .employee then 1 else 2 := by
          split <;> rfl
        rw [instant]
        exact checks_guard _ ⟨_, rfl⟩
      · rw [if_neg own, beq_eq_false_iff_ne.mpr own, Bool.false_and]
        exact checks_refused _

theorem checks_parent (parentCommentId : Option UUID) : Checks state (checkParent requestId parentCommentId)
    (parentCommentId.all fun parent => answersTo requestId (state.comments.find? parent)) := by
  unfold checkParent
  cases parentCommentId with
  | none => exact ⟨_, state, reaches_done (), rfl, fun _ => ⟨state.ticks, rfl⟩⟩
  | some parent => exact Checks.read (reaches_perform rfl rfl) (checks_guard _ ⟨state.ticks + 1, rfl⟩)

theorem checks_moderation : Checks state (authorizeCommentModeration identity)
    (!state.expiredAfter identity 0 && canModerateComment identity.role) := by
  obtain ⟨ticks, timed⟩ := @reaches_isExpired identity state
  unfold authorizeCommentModeration
  apply Checks.read timed
  cases state.expiredAfter identity 0 with
  | true => exact checks_refused _
  | false => exact checks_guard _ ⟨_, rfl⟩

/-- The comment and its entry. -/
def addCommentWrites (identity : AuthenticatedIdentity) (state : CommentStore) (requestId : UUID) (body : String)
    (parentCommentId : Option UUID) : List CommentCall :=
  [.createComment requestId identity.userId (strip body) parentCommentId,
    .recordEvent .commentCreated identity.userId requestId state.comments.next]

def removeCommentWrites (identity : AuthenticatedIdentity) (state : CommentStore) (commentId : UUID) : List CommentCall :=
  (state.comments.find? commentId).toList.flatMap fun comment =>
    [.softDelete commentId identity.userId,
      .recordEvent .commentRemoved identity.userId comment.requestId commentId]

theorem plans_recordEvent {α : Type} {action : AuditAction} {actorId requestId commentId : UUID}
    (value : α) : (translating (perform (.recordEvent action actorId requestId commentId)) >>= fun _ => return value).Plans
      commentRule commentHandler state [.recordEvent action actorId requestId commentId] :=
  plans_translating rfl rfl (plans_done value)

theorem plans_translating_refused {α : Type} {call : CommentCall} {fault : CommentFault} {after : CommentStore}
    {next : call.Result → CommentProgram α} (answered : commentHandler call state = (.error fault, after)) :
    (translating (perform call) >>= next).Plans commentRule commentHandler state [] :=
  plans_fallible_refused (fun fault => by cases fault <;> trivial) answered

theorem commentCreate_ok {body text : String} (accepted : commentCreate body = .ok text) :
    text = strip body ∧ 1 ≤ text.length ∧ text.length ≤ 5000 := by
  unfold commentCreate at accepted
  split at accepted
  · cases accepted
    exact ⟨rfl, ‹_›⟩
  · cases accepted

theorem createComment_ok {request : RequestRecord} {body : String} {parentCommentId : Option UUID}
    (found : state.tables.requests.find? requestId = some request)
    (known : (state.tables.profiles.find? identity.userId).isSome = true)
    (answering : parentCommentId.all (fun parent => answersTo requestId (state.comments.find? parent)) = true)
    (measured : 1 ≤ body.length ∧ body.length ≤ 5000) :
    state.createComment requestId identity.userId body parentCommentId =
      (.ok ((newComment state.now requestId identity.userId body parentCommentId).build state.comments.next),
        { state with comments :=
            state.comments.insert (newComment state.now requestId identity.userId body parentCommentId) }) := by
  have present : parentCommentId.all (fun parent => (state.comments.find? parent).isSome) = true := by
    cases parentCommentId with
    | none => rfl
    | some parent =>
        rw [Option.all_some] at answering ⊢
        cases reply : state.comments.find? parent with
        | none => simp [reply, answersTo] at answering
        | some comment => rfl
  unfold CommentStore.createComment World.firstViolated
  simp [found, known, present, measured]

theorem createComment_refused {authorId : UUID} {body : String} {parentCommentId : Option UUID}
    (unknown : (state.tables.profiles.find? authorId).isSome = false) :
    ∃ fault, state.createComment requestId authorId body parentCommentId = (.error fault, state) := by
  unfold CommentStore.createComment
  split
  · exact ⟨_, rfl⟩
  · rename_i unviolated
    have held := (World.firstViolated_eq_none_iff _).mp unviolated ("foreign_key", (state.tables.profiles.find? authorId).isSome)
      (by simp)
    exact absurd held (Bool.eq_false_iff.mp unknown)

theorem plans_addComment (body : String) (parentCommentId : Option UUID) :
    (addComment identity requestId body parentCommentId).Plans commentRule commentHandler state
      (if state.mayAdd identity requestId body parentCommentId then
        addCommentWrites identity state requestId body parentCommentId else []) := by
  rw [CommentStore.mayAdd, planned_and, planned_and, planned_and, addComment]
  cases accepted : commentCreate body with
  | error fault => exact plans_raised fault
  | ok text =>
      obtain ⟨rfl, measured⟩ := commentCreate_ok accepted
      apply Checks.plans checks_authorizeView
      rintro _ viewable ⟨ticks, rfl⟩
      apply Checks.plans (checks_parent parentCommentId)
      rintro _ answering ⟨later, rfl⟩
      obtain ⟨request, found, _⟩ := (Option.any_eq_true ..).mp viewable
      by_cases known : (state.tables.profiles.find? identity.userId).isSome = true
      · rw [if_pos known]
        have created := @createComment_ok identity (state.atTick later) requestId request _ parentCommentId found known
          answering measured
        exact plans_translating rfl (commentHandler_of_execute created) (plans_recordEvent _)
      · rw [if_neg known]
        obtain ⟨fault, refused⟩ := @createComment_refused (state.atTick later) requestId identity.userId (strip body)
          parentCommentId (Bool.eq_false_iff.mpr known)
        exact plans_translating_refused (commentHandler_of_execute refused)

theorem softDelete_ok {deletedBy : UUID} {comment : CommentRecord} (found : state.comments.find? commentId = some comment)
    (known : (state.tables.profiles.find? deletedBy).isSome = true) :
    state.softDelete commentId deletedBy = (.ok ((softDeleteEdit state.now deletedBy).apply comment),
      { state with comments := state.comments.modify commentId (softDeleteEdit state.now deletedBy) }) := by
  unfold CommentStore.softDelete
  rw [found]
  exact if_pos known

theorem softDelete_refused {deletedBy : UUID} {comment : CommentRecord}
    (found : state.comments.find? commentId = some comment)
    (unknown : ¬(state.tables.profiles.find? deletedBy).isSome = true) :
    state.softDelete commentId deletedBy =
      (.error (.database (.constraintViolation "comments" (some "foreign_key"))), state) := by
  unfold CommentStore.softDelete
  rw [found]
  exact if_neg unknown

theorem plans_removeComment :
    (removeComment identity commentId).Plans commentRule commentHandler state
      (if state.mayRemove identity commentId then removeCommentWrites identity state commentId else []) := by
  have fetched := @reaches_getComment state commentId
  unfold removeComment CommentStore.mayRemove removeCommentWrites
  cases found : state.comments.find? commentId with
  | none =>
      rw [found] at fetched
      exact fetched.plans_nothing
  | some comment =>
      rw [found] at fetched
      apply fetched.plans
      have parent := @reaches_getRequest (state.atTick (state.ticks + 1)) comment.requestId
      rw [Option.any_some, planned_and, planned_and, Option.toList_some, List.flatMap_singleton]
      cases reached : state.tables.requests.find? comment.requestId with
      | none =>
          rw [show (state.atTick (state.ticks + 1)).tables.requests.find? comment.requestId = none from reached] at parent
          exact parent.plans_nothing
      | some request =>
          rw [show (state.atTick (state.ticks + 1)).tables.requests.find? comment.requestId = some request from reached]
            at parent
          apply parent.plans
          by_cases own : request.companyId = identity.companyId
          · rw [if_pos own, Option.any_some, if_pos (beq_iff_eq.mpr own)]
            apply Checks.plans checks_moderation
            rintro _ - ⟨later, rfl⟩
            by_cases known : (state.tables.profiles.find? identity.userId).isSome = true
            · rw [if_pos known]
              have removed := @softDelete_ok (state.atTick later) commentId identity.userId comment found known
              exact plans_translating rfl (commentHandler_of_execute removed) (plans_recordEvent _)
            · rw [if_neg known]
              have refused := @softDelete_refused (state.atTick later) commentId identity.userId comment found known
              exact plans_translating_refused (commentHandler_of_execute refused)
          · rw [if_neg own, Option.any_some, if_neg (by simpa using own)]
            exact plans_raised _

end Plans

end AutomationHub.Comments
