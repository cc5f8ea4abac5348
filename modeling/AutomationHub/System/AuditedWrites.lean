import AutomationHub.Attachments.AttachmentWrites
import AutomationHub.Comments.CommentWrites
import AutomationHub.Services.ServiceRuns
import AutomationHub.System.Operations
import AutomationHub.Users.UserWrites

/-!
Changes and their entries in the audit log, when a write of an operation may fail.
-/

set_option autoImplicit false

namespace AutomationHub.System

open Foundation Model Database Services Auth Program Table

section Withdrawal

def withdrawalWrites (identity : AuthenticatedIdentity) (requestId : UUID) (expectedVersion : Nat) : List Call :=
  [.query (.softDelete requestId expectedVersion identity.userId),
    .query (.recordEvent .requestWithdrawn (some identity.userId) (some requestId) none none)]

def writesWithdrawal : Call → Bool
  | .query (.softDelete ..) | .query (.recordEvent ..) => true
  | _ => false

def withdrawalRule : WriteRule hubSignature := ⟨writesWithdrawal, Call.accepted⟩

def tokenExpired (identity : AuthenticatedIdentity) (world : World) : Bool :=
  identity.expiresAt.any fun expiresAt => isPast expiresAt world.now

/-- What the checks of `withdraw_request`, the version and the constraints of the table ask. -/
def mayWithdraw (identity : AuthenticatedIdentity) (world : World) (requestId : UUID) (expectedVersion : Nat) : Bool :=
  (world.requests.find? requestId).any fun request =>
    request.companyId == identity.companyId &&
      ((!tokenExpired identity world.tick &&
        canWithdrawRequest identity.role (request.requesterId == identity.userId) (request.status == .pending)) &&
      (request.version == expectedVersion && world.hasProfile identity.userId))

variable {identity : AuthenticatedIdentity} {world : World} {requestId : UUID} {expectedVersion : Nat} {α : Type}
  {planned : List Call}

theorem reaches_requestOfCompany : ∃ result,
    (requestOfCompany identity requestId).Reaches withdrawalRule environment world result world.tick ∧
      result.toOption = (world.requests.find? requestId).filter fun request => request.companyId == identity.companyId := by
  have fetched : (orNotFound (.getRequest requestId)).Reaches withdrawalRule environment world
      ((world.requests.find? requestId).elim (.error (.notFound "requests" requestId)) .ok) world.tick := by
    apply reaches_call rfl
    simp only [environment, World.execute, World.getRequest, getById]
    cases world.requests.find? requestId with
    | none => exact reaches_raised _
    | some request => exact reaches_done _
  apply fetched.kept (fun request => request.companyId = identity.companyId) (.notFound "request" requestId)
  intro request
  by_cases own : request.companyId = identity.companyId
  · rw [if_pos own]
    simp [own]
  · rw [if_neg own]
    simp [own]

theorem reaches_isExpired : ∃ ticks, (isExpired identity).Reaches withdrawalRule environment world
    (.ok (tokenExpired identity world)) (world.atTick ticks) := by
  unfold isExpired tokenExpired
  cases identity.expiresAt with
  | none => exact ⟨world.ticks, reaches_done _⟩
  | some expiresAt => exact ⟨world.ticks + 1, reaches_call rfl (reaches_done _)⟩

theorem reaches_authorize {permitted : Bool} {resource : String} : ∃ result ticks,
    (authorize identity permitted resource).Reaches withdrawalRule environment world (.ok result) (world.atTick ticks) ∧
      result.toBool = (!tokenExpired identity world && permitted) := by
  obtain ⟨ticks, timed⟩ := @reaches_isExpired identity world
  unfold authorize
  cases expired : tokenExpired identity world with
  | true =>
      rw [expired] at timed
      exact ⟨_, ticks, timed.bind (reaches_done _), rfl⟩
  | false =>
      rw [expired] at timed
      cases permitted with
      | true => exact ⟨_, ticks, timed.bind (reaches_done _), rfl⟩
      | false => exact ⟨_, ticks, timed.bind (reaches_done _), rfl⟩

theorem plans_orTranslate {statement : Query} {result : statement.Result} {next : statement.Result → Service α}
    {after : World} (isWrite : writesWithdrawal (.query statement) = true)
    (answered : world.execute statement = (.ok result, after))
    (rest : (next result).Plans withdrawalRule environment after.tick planned) :
    (orTranslate statement >>= next).Plans withdrawalRule environment world (.query statement :: planned) := by
  have replied : environment (.query statement) world = (.ok result, after.tick) := by rw [environment, answered]
  apply plans_write isWrite
  · rintro (error | accepted) refused
    · trivial
    · cases refused
  · rw [replied]
    rfl
  · rw [replied]
    rfl
  · rwa [replied]

theorem plans_orTranslate_refused {statement : Query} {error : DatabaseError} {next : statement.Result → Service α}
    {after : World} (answered : world.execute statement = (.error error, after)) :
    (orTranslate statement >>= next).Plans withdrawalRule environment world [] := by
  have replied : environment (.query statement) world = (.error error, after.tick) := by rw [environment, answered]
  apply plans_refused
  · rintro (error | accepted) refused
    · trivial
    · cases refused
  · rw [replied]
    rfl

theorem softDelete_withdraws {request : RequestRecord} (found : world.requests.find? requestId = some request)
    (current : request.version = expectedVersion) (known : world.hasProfile identity.userId = true) :
    ∃ written after, world.execute (.softDelete requestId expectedVersion identity.userId) = (.ok written, after) ∧
      after.hasProfile identity.userId = true ∧ after.hasRequest requestId = true := by
  have updated : world.execute (.softDelete requestId expectedVersion identity.userId) = (.ok _, _) :=
    World.updateRequest_ok_iff.mpr ⟨request, found, current, by simp [World.firstViolated, known], rfl, rfl⟩
  refine ⟨_, _, updated, known, ?_⟩
  simp [World.hasRequest, find?_modify, found]

theorem softDelete_refused {request : RequestRecord} (found : world.requests.find? requestId = some request)
    (refused : (request.version == expectedVersion && world.hasProfile identity.userId) = false) :
    ∃ error after, world.execute (.softDelete requestId expectedVersion identity.userId) = (.error error, after) := by
  rcases outcome : world.execute (.softDelete requestId expectedVersion identity.userId) with ⟨error | written, after⟩
  · exact ⟨error, after, rfl⟩
  · obtain ⟨row, reached, current, unviolated, -⟩ := World.updateRequest_ok_iff.mp outcome
    obtain rfl : row = request := Option.some.inj (reached.symm.trans found)
    have known : world.hasProfile identity.userId = true := by
      simpa using (World.firstViolated_eq_none_iff _).mp unviolated
    simp [current, known] at refused

theorem plans_withdrawRequest : (withdrawRequest identity requestId expectedVersion).Plans withdrawalRule environment world
    (if mayWithdraw identity world requestId expectedVersion then
      withdrawalWrites identity requestId expectedVersion else []) := by
  obtain ⟨result, fetched, same⟩ := @reaches_requestOfCompany identity world requestId
  rw [mayWithdraw, ← Option.any_filter, ← same]
  cases result with
  | error error => exact fetched.plans_nothing
  | ok request =>
      obtain ⟨found, -⟩ := Option.filter_eq_some_iff.mp same.symm
      apply fetched.plans
      obtain ⟨granted, ticks, authorized, permitted⟩ := @reaches_authorize identity world.tick
        (canWithdrawRequest identity.role (request.requesterId == identity.userId) (request.status == .pending)) "request"
      rw [show (Except.ok request : Except AppError RequestRecord).toOption = some request from rfl, Option.any_some,
        planned_and, ← permitted]
      apply authorized.plans
      cases granted with
      | error error => exact plans_raised _
      | ok granted =>
          cases allowed : request.version == expectedVersion && world.hasProfile identity.userId with
          | false =>
              obtain ⟨error, after, refused⟩ := @softDelete_refused identity (world.tick.atTick ticks) _ _ _ found allowed
              exact plans_orTranslate_refused refused
          | true =>
              obtain ⟨current, known⟩ := Bool.and_eq_true_iff.mp allowed
              obtain ⟨written, after, updated, actor, present⟩ :=
                @softDelete_withdraws identity (world.tick.atTick ticks) _ _ _ found (beq_iff_eq.mp current) known
              have recorded : after.tick.execute
                  (.recordEvent .requestWithdrawn (some identity.userId) (some requestId) none none) = (.ok _, _) :=
                World.recordEvent_ok_iff.mpr ⟨rfl, rfl, actor, present⟩
              exact plans_orTranslate rfl updated (plans_orTranslate rfl recorded (plans_done _))

end Withdrawal

section Erasure

open Users

theorem eraseUser_allOrNone_iff (placeholders : Placeholders) (identity : AuthenticatedIdentity) (userId : UUID)
    (expectedVersion : Nat) (store : UserStore) (outage : Outage userRule) :
    AllOrNone (eraseWrites identity userId expectedVersion placeholders)
        ((eraseUser placeholders identity userId expectedVersion).written userRule (failing outage userHandler) store) ↔
      store.mayErase identity userId = false ∨
        (outage.reply (.anonymizeUser userId (placeholders.email userId))).isSome = true ∨
        (store.profiles.find? userId).any (·.version == expectedVersion) = true ∧
          ∀ request ∈ eraseWrites identity userId expectedVersion placeholders, outage.reply request = none := by
  have plans := @plans_eraseUser identity store userId expectedVersion placeholders
  cases current : (store.profiles.find? userId).any (·.version == expectedVersion) with
  | true =>
      rw [current, if_pos rfl] at plans
      rw [plans.allOrNone_iff outage, Outage.Spares]
      simp [eraseWrites]
  | false =>
      rw [current] at plans
      cases permitted : store.mayErase identity userId with
      | false =>
          rw [permitted] at plans
          rw [plans outage]
          exact iff_of_true (allOrNone_nil _) (.inl rfl)
      | true =>
          rw [permitted] at plans
          have begins : UserCall.anonymizeUser userId (placeholders.email userId) ∈
              eraseWrites identity userId expectedVersion placeholders := List.mem_cons_self
          have wanted : UserCall.recordEvent .profileErased identity.userId identity.companyId userId ∈
              eraseWrites identity userId expectedVersion placeholders := by simp [eraseWrites]
          have short := plans.allOrNone_short_iff begins wanted (by simp) outage
          simpa using short

end Erasure

/-- Each operation leaves its changes with all of their entries, or nothing, exactly where its checks refuse it, its first
write fails or no write of it does; an erasure needs a current version besides. -/
theorem changes_audited_iff (identity : AuthenticatedIdentity) :
    (∀ requestId expectedVersion world (outage : Outage withdrawalRule),
      AllOrNone (withdrawalWrites identity requestId expectedVersion)
          ((withdrawRequest identity requestId expectedVersion).written withdrawalRule (failing outage environment) world) ↔
        mayWithdraw identity world requestId expectedVersion = false ∨
          outage.Spares (withdrawalWrites identity requestId expectedVersion)) ∧
    (∀ userId expectedVersion role department isActive (store : Users.UserStore) (outage : Outage Users.userRule),
      AllOrNone (Users.updateWrites identity userId expectedVersion role department isActive)
          ((Users.updateProfile identity userId expectedVersion role department isActive).written Users.userRule
            (failing outage Users.userHandler) store) ↔
        store.mayUpdate identity userId expectedVersion role department isActive = false ∨
          outage.Spares (Users.updateWrites identity userId expectedVersion role department isActive)) ∧
    (∀ placeholders userId expectedVersion (store : Users.UserStore) (outage : Outage Users.userRule),
      AllOrNone (Users.eraseWrites identity userId expectedVersion placeholders)
          ((Users.eraseUser placeholders identity userId expectedVersion).written Users.userRule
            (failing outage Users.userHandler) store) ↔
        store.mayErase identity userId = false ∨
          (outage.reply (.anonymizeUser userId (placeholders.email userId))).isSome = true ∨
          (store.profiles.find? userId).any (·.version == expectedVersion) = true ∧
            ∀ request ∈ Users.eraseWrites identity userId expectedVersion placeholders, outage.reply request = none) ∧
    (∀ requestId body parentCommentId (store : Comments.CommentStore) (outage : Outage Comments.commentRule),
      AllOrNone (Comments.addCommentWrites identity store requestId body parentCommentId)
          ((Comments.addComment identity requestId body parentCommentId).written Comments.commentRule
            (failing outage Comments.commentHandler) store) ↔
        store.mayAdd identity requestId body parentCommentId = false ∨
          outage.Spares (Comments.addCommentWrites identity store requestId body parentCommentId)) ∧
    (∀ commentId (store : Comments.CommentStore) (outage : Outage Comments.commentRule),
      AllOrNone (Comments.removeCommentWrites identity store commentId)
          ((Comments.removeComment identity commentId).written Comments.commentRule
            (failing outage Comments.commentHandler) store) ↔
        store.mayRemove identity commentId = false ∨ outage.Spares (Comments.removeCommentWrites identity store commentId)) ∧
    (∀ rules requestId file (store : Attachments.AttachmentStore)
        (outage : Outage (Attachments.attachmentRule Attachments.AttachmentCall.writesRow)),
      AllOrNone (Attachments.uploadWrites identity store rules requestId file)
          ((Attachments.uploadAttachment rules identity requestId file).written (Attachments.attachmentRule Attachments.AttachmentCall.writesRow)
            (failing outage Attachments.storeHandler) store) ↔
        store.mayUpload identity rules requestId file = false ∨
          outage.Spares (Attachments.uploadWrites identity store rules requestId file)) ∧
    ∀ attachmentId (store : Attachments.AttachmentStore)
        (outage : Outage (Attachments.attachmentRule Attachments.AttachmentCall.discards)),
      AllOrNone (Attachments.removeWrites identity store attachmentId)
          ((Attachments.removeAttachment identity attachmentId).written
            (Attachments.attachmentRule Attachments.AttachmentCall.discards) (failing outage Attachments.storeHandler) store) ↔
        store.mayRemove identity attachmentId = false ∨
          outage.Spares (Attachments.removeWrites identity store attachmentId) := by
  refine ⟨?_, ?_, fun placeholders => eraseUser_allOrNone_iff placeholders identity, ?_, ?_, ?_, ?_⟩
  · intro _ _ _ outage
    exact plans_withdrawRequest.allOrNone_iff outage
  · intro _ _ _ _ _ _ outage
    exact Users.plans_updateProfile.allOrNone_iff outage
  · intro _ body parentCommentId _ outage
    exact (Comments.plans_addComment body parentCommentId).allOrNone_iff outage
  · intro _ _ outage
    exact Comments.plans_removeComment.allOrNone_iff outage
  · intro _ _ _ _ outage
    exact Attachments.plans_uploadAttachment.allOrNone_iff outage
  · intro _ _ outage
    exact Attachments.plans_removeAttachment.allOrNone_iff outage

section Samples

/-- The inserts into the audit log fail. -/
def auditDown : Outage Comments.commentRule where
  reply := fun
    | .recordEvent .. => some (.error (.database (.connection "audit_logs")))
    | _ => none
  strikes := by
    intro request reads
    cases request <;> first | rfl | cases reads
  ineffective := by
    intro request failed struck
    cases request <;> cases struck
    rfl

def nothingDown : Outage Users.userRule where
  reply := fun _ => none
  strikes := fun _ _ => rfl
  ineffective := fun _ _ struck => nomatch struck

def travelComments : Comments.CommentStore where
  clock := fun instant => instant
  ticks := 0
  tables := (hubWithRequest "travel").tenantTables
  comments := .empty

def sampleUsers : Users.UserStore where
  clock := fun instant => instant
  ticks := 0
  profiles := sampleHub.profiles
  anonymized := []

def plainPlaceholders : Users.Placeholders where
  fullName := fun _ => "Erased user"
  email := fun _ => "erased@example.invalid"

/-- A comment is kept without its entry when the entry fails; an account is anonymized without an entry when the version
of its profile is stale, though no write fails. -/
theorem change_kept_unaudited :
    ¬AllOrNone (Comments.addCommentWrites sampleEmployee travelComments 1 "Done" none)
        ((Comments.addComment sampleEmployee 1 "Done" none).written Comments.commentRule
          (failing auditDown Comments.commentHandler) travelComments) ∧
      ¬AllOrNone (Users.eraseWrites sampleAdmin 1 7 plainPlaceholders)
        ((Users.eraseUser plainPlaceholders sampleAdmin 1 7).written Users.userRule (failing nothingDown Users.userHandler)
          sampleUsers) := by
  have commented : (Comments.addComment sampleEmployee 1 "Done" none).written Comments.commentRule
      (failing auditDown Comments.commentHandler) travelComments = [.createComment 1 1 "Done" none] := by decide +kernel
  have anonymized : (Users.eraseUser plainPlaceholders sampleAdmin 1 7).written Users.userRule
      (failing nothingDown Users.userHandler) sampleUsers = [.anonymizeUser 1 "erased@example.invalid"] := by
    decide +kernel
  rw [commented, anonymized, AllOrNone, AllOrNone]
  decide +kernel

end Samples

end AutomationHub.System
