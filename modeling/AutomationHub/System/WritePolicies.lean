import AutomationHub.Attachments.AttachmentPolicies
import AutomationHub.System.Operations

/-!
The authorization of the services for comments and attachments against the policies of their tables.
-/

set_option autoImplicit false

namespace AutomationHub.System

open Foundation Model Database Auth Program Table
open Comments (Caller JoinsRequest CommentStore addComment removeComment commentPermitted)
open Attachments (AttachmentStore FileRules FileUpload uploadAttachment replaceAttachment removeAttachment
  attachmentPermitted)

/-- No statement of an authorized operation is refused by the policies, unless an operation that inserts gets to its
insert for a caller who neither made the request nor is assigned to a stage of it. -/
theorem statements_admitted_iff {tables : TenantTables} {identity : AuthenticatedIdentity} {profile : ProfileRecord}
    (caller : Caller tables identity profile) :
    (∀ (clock : Nat → Datetime) (ticks : Nat) (comments : Table CommentRecord) requestId body parentCommentId,
      (addComment identity requestId body parentCommentId).Admitted (commentPermitted identity.userId)
          (Comments.readAs identity.userId) ⟨clock, ticks, tables, comments⟩ ↔
        (CommentStore.insertReached identity ⟨clock, ticks, tables, comments⟩ requestId body parentCommentId = true →
          JoinsRequest tables identity.userId profile requestId)) ∧
    (∀ (clock : Nat → Datetime) (ticks : Nat) (comments : Table CommentRecord) commentId,
      (removeComment identity commentId).Admitted (commentPermitted identity.userId) (Comments.readAs identity.userId)
        ⟨clock, ticks, tables, comments⟩) ∧
    (∀ (store : AttachmentStore) rules requestId file,
      (uploadAttachment rules identity requestId file).Admitted (attachmentPermitted tables identity.userId)
          (Attachments.readAs tables identity.userId) (store.over tables) ↔
        ((store.over tables).uploadReached identity rules requestId file = true →
          JoinsRequest tables identity.userId profile requestId)) ∧
    (∀ (store : AttachmentStore) rules attachmentId file,
      (replaceAttachment rules identity attachmentId file).Admitted (attachmentPermitted tables identity.userId)
          (Attachments.readAs tables identity.userId) (store.over tables) ↔
        ((store.over tables).replaceReached identity tables rules attachmentId file = true →
          ∃ existing, (store.over tables).seen tables identity.userId attachmentId = some existing ∧
            JoinsRequest tables identity.userId profile existing.requestId)) ∧
    ∀ (store : AttachmentStore) attachmentId,
      (removeAttachment identity attachmentId).Admitted (attachmentPermitted tables identity.userId)
        (Attachments.readAs tables identity.userId) (store.over tables) := by
  refine ⟨?_, ?_, ?_, ?_, ?_⟩
  · intro clock ticks comments requestId body parentCommentId
    exact @Comments.addComment_admitted_iff identity ⟨clock, ticks, tables, comments⟩ profile requestId caller body
      parentCommentId
  · intro clock ticks comments commentId
    exact @Comments.removeComment_admitted identity ⟨clock, ticks, tables, comments⟩ profile caller commentId
  · intro store rules requestId file
    exact Attachments.uploadAttachment_admitted_iff caller
  · intro store rules attachmentId file
    exact Attachments.replaceAttachment_admitted_iff caller attachmentId
  · intro store attachmentId
    exact Attachments.removeAttachment_admitted caller attachmentId

section Samples

def travelTables : TenantTables := (hubWithRequest "travel").tenantTables

theorem administrator_calls : Caller travelTables sampleAdmin (sampleProfile 3 .admin none) where
  found := by decide +kernel
  role := rfl
  company := rfl

/-- A comment of the requester. -/
def requestersComment : CommentRecord where
  id := 1
  requestId := 1
  authorId := 1
  parentCommentId := none
  body := "Urgent"
  deletedAt := none
  deletedBy := none
  createdAt := 0

theorem statements_admitted_iff_sample :
    (removeComment sampleAdmin 1).Admitted (commentPermitted sampleAdmin.userId) (Comments.readAs sampleAdmin.userId)
      ⟨fun instant => instant, 0, travelTables, ⟨[requestersComment], 2, by decide, by decide⟩⟩ :=
  (statements_admitted_iff administrator_calls).2.1 _ _ _ _

/-- The administrator may comment on every request of the company, but the insert is refused for a request that
the administrator takes no part in. -/
theorem administrators_comment_refused :
    CommentStore.insertReached sampleAdmin ⟨fun instant => instant, 0, travelTables, .empty⟩ 1 "Approved" none = true ∧
      ¬(addComment sampleAdmin 1 "Approved" none).Admitted (commentPermitted sampleAdmin.userId)
        (Comments.readAs sampleAdmin.userId) ⟨fun instant => instant, 0, travelTables, .empty⟩ := by
  have reached : CommentStore.insertReached sampleAdmin ⟨fun instant => instant, 0, travelTables, .empty⟩ 1 "Approved"
      none = true := by decide +kernel
  refine ⟨reached, ?_⟩
  rw [Comments.addComment_admitted_iff administrator_calls]
  intro admitted
  obtain ⟨request, live, joins⟩ := admitted reached
  have refused : travelTables.parentInsert 3 1 = false := by decide +kernel
  have company : request.companyId = 9 := by
    have companies : (travelTables.requests.find? 1).all (·.companyId == 9) = true := by decide +kernel
    rw [live] at companies
    exact beq_iff_eq.mp companies
  have inserts := (TenantTables.parentInsert_iff administrator_calls.found live).mpr ⟨company, joins⟩
  rw [show sampleAdmin.userId = 3 from rfl, refused] at inserts
  cases inserts

end Samples

end AutomationHub.System
