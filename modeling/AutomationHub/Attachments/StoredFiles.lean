import AutomationHub.Attachments.AttachmentWrites
import AutomationHub.Attachments.VersionChains
import AutomationHub.Utilities.FileUtils

/-!
What the attachments and the objects in Storage say of the files, with the checks of `file_utils` in place.

Uploads, replacements and removals interleave, and any of their calls may fail.
-/

set_option autoImplicit false

namespace AutomationHub.Attachments

open Foundation Model Auth Database Program Table Utilities

/-- The checks of `_store_new_attachment`, in their order. -/
def checkFile (file : FileUpload) : Except String Unit := do
  let _ ← sanitizeFilename file.fileName
  let _ ← validateContentType file.contentType
  let _ ← validateFileSize file.content.length
  validateContentTypeConsistency file.contentType file.content

/-- `file_utils`, for a digest of the content. -/
def fileUtils (sha256 : List UInt8 → String) : FileRules where
  complaint := fun file => match checkFile file with
    | .ok _ => none
    | .error message => some message
  storagePath := fun requestId attachmentId fileName => buildStoragePath requestId attachmentId (stripUnsafe fileName)
  checksum := sha256

/-- The content may have the type. -/
def Consistent (contentType : String) (content : List UInt8) : Prop :=
  ∀ sniffed, sniffContentType content = some sniffed →
    sniffed = contentType ∨ sniffed = "application/zip" ∧ contentType ∈ zipContainerContentTypes

theorem consistent_of_validated {contentType : String} {content : List UInt8}
    (validated : validateContentTypeConsistency contentType content = .ok ()) : Consistent contentType content := by
  intro sniffed found
  rw [validateContentTypeConsistency, found] at validated
  dsimp only at validated
  split at validated
  · rename_i same
    exact .inl same
  · split at validated
    · rename_i container
      exact .inr container
    · cases validated

/-- What passes the checks. -/
structure Accepted (file : FileUpload) : Prop where
  named : SafeName (stripUnsafe file.fileName)
  sanitized : sanitizeFilename file.fileName = .ok (stripUnsafe file.fileName)
  allowed : file.contentType ∈ allowedAttachmentContentTypes
  sized : 1 ≤ file.content.length ∧ file.content.length ≤ maxAttachmentSizeBytes
  consistent : Consistent file.contentType file.content

theorem accepted_of_checked {file : FileUpload} (checked : checkFile file = .ok ()) : Accepted file := by
  unfold checkFile at checked
  cases sanitized : sanitizeFilename file.fileName with
  | error message =>
      rw [sanitized] at checked
      cases checked
  | ok name =>
      have own : name = stripUnsafe file.fileName := by
        simp only [sanitizeFilename] at sanitized
        split at sanitized
        · cases sanitized
        · exact (Except.ok.inj sanitized).symm
      subst own
      cases typed : validateContentType file.contentType with
      | error message =>
          rw [sanitized, typed] at checked
          cases checked
      | ok contentType =>
          cases sized : validateFileSize file.content.length with
          | error message =>
              rw [sanitized, typed, sized] at checked
              cases checked
          | ok size =>
              rw [sanitized, typed, sized] at checked
              refine ⟨safeName_of_sanitized sanitized, sanitized, ?_, ?_, consistent_of_validated checked⟩
              · rw [validateContentType] at typed
                split at typed
                · assumption
                · cases typed
              · rw [validateFileSize] at sized
                split at sized
                · cases sized
                · split at sized
                  · cases sized
                  · omega

/-- An attachment describes a file that passed the checks, at the path that its ids and its name give. -/
structure WellFiled (sha256 : List UInt8 → String) (attachment : AttachmentRecord) : Prop where
  allowed : attachment.contentType ∈ allowedAttachmentContentTypes
  sized : 1 ≤ attachment.sizeBytes ∧ attachment.sizeBytes ≤ maxAttachmentSizeBytes
  located : ∃ name, sanitizeFilename attachment.fileName = .ok name ∧ SafeName name ∧
    attachment.storagePath = buildStoragePath attachment.requestId attachment.id name
  described : ∃ content : List UInt8, content.length = attachment.sizeBytes ∧ sha256 content = attachment.checksumSha256 ∧
    Consistent attachment.contentType content

theorem Accepted.wellFiled {sha256 : List UInt8 → String} {file : FileUpload} (accepted : Accepted file)
    {attachment : AttachmentRecord} (fileName : attachment.fileName = file.fileName)
    (contentType : attachment.contentType = file.contentType) (sizeBytes : attachment.sizeBytes = file.content.length)
    (storagePath : attachment.storagePath =
      buildStoragePath attachment.requestId attachment.id (stripUnsafe file.fileName))
    (checksum : attachment.checksumSha256 = sha256 file.content) : WellFiled sha256 attachment := by
  constructor
  · rw [contentType]
    exact accepted.allowed
  · rw [sizeBytes]
    exact accepted.sized
  · rw [fileName]
    exact ⟨_, accepted.sanitized, accepted.named, storagePath⟩
  · rw [contentType]
    exact ⟨file.content, sizeBytes.symm, checksum.symm, accepted.consistent⟩

/-- Rules that let pass only what the checks accept, and place it as `build_storage_path` does. -/
structure FileRules.Sound (sha256 : List UInt8 → String) (rules : FileRules) : Prop where
  accepts : ∀ file, rules.complaint file = none → Accepted file
  places : ∀ requestId attachmentId fileName,
    rules.storagePath requestId attachmentId fileName = buildStoragePath requestId attachmentId (stripUnsafe fileName)
  digests : rules.checksum = sha256

theorem fileUtils_sound (sha256 : List UInt8 → String) : (fileUtils sha256).Sound sha256 := by
  constructor
  · intro file passed
    cases checked : checkFile file with
    | ok _ => exact accepted_of_checked checked
    | error message =>
        have complaint : (fileUtils sha256).complaint file = some message := by simp only [fileUtils, checked]
        rw [complaint] at passed
        cases passed
  · intro requestId attachmentId fileName
    rfl
  · rfl

/-- A path in the folder of a request, and nowhere else. -/
def Located (path : String) : Prop :=
  ∃ requestId attachmentId name, SafeName name ∧ path = buildStoragePath requestId attachmentId name

theorem WellFiled.folder_iff {sha256 : List UInt8 → String} {attachment : AttachmentRecord}
    (filed : WellFiled sha256 attachment) (requestId : UUID) :
    storageFolder requestId <+: attachment.storagePath.toList ↔ requestId = attachment.requestId := by
  obtain ⟨name, -, -, path⟩ := filed.located
  rw [path]
  exact storageFolder_prefix_iff requestId

section Calls

/-- What the calls of the operations ask for. -/
def AttachmentCall.Proper (sha256 : List UInt8 → String) : AttachmentCall → Prop
  | .upload path => Located path
  | .createAttachment values => ∀ now, WellFiled sha256 (values.row now)
  | _ => True

variable {sha256 : List UInt8 → String} {identity : AuthenticatedIdentity} {rules : FileRules}

theorem only_translating {call : AttachmentCall} {allowed : AttachmentCall → Prop} (permitted : allowed call) :
    (translating (perform call)).Only allowed := by
  apply (only_perform permitted).tryCatch
  intro fault
  cases fault <;> trivial

theorem only_translatingStorage {call : AttachmentCall} {allowed : AttachmentCall → Prop} (permitted : allowed call) :
    (translatingStorage (perform call)).Only allowed := by
  apply (only_perform permitted).tryCatch
  intro fault
  cases fault <;> trivial

theorem only_storeNewAttachment (sound : rules.Sound sha256) (requestId : UUID) (file : FileUpload) (version : Nat)
    (replacesAttachmentId : Option UUID) :
    (storeNewAttachment rules identity requestId file version replacesAttachmentId).Only
      (AttachmentCall.Proper sha256) := by
  unfold storeNewAttachment
  split
  · trivial
  · rename_i passed
    have accepted := sound.accepts file passed
    apply (only_perform trivial).bind
    intro attachmentId
    apply (only_translatingStorage ⟨requestId, attachmentId, _, accepted.named, sound.places ..⟩).bind
    intro uploaded
    apply (only_perform trivial).bind
    intro scanStatus
    apply Only.bind
    · apply (only_perform ?_).tryCatch
      · intro fault
        cases fault with
        | database error =>
            apply Only.bind
            · apply (only_perform trivial).tryCatch
              intro fault
              cases fault <;> trivial
            · intro cleaned
              trivial
        | _ => trivial
      · intro now
        apply accepted.wellFiled rfl rfl rfl
        · exact sound.places ..
        · exact congrFun sound.digests file.content
    · intro created
      apply (only_translating trivial).bind
      intro recorded
      trivial

theorem only_upload (sound : rules.Sound sha256) (requestId : UUID) (file : FileUpload) :
    (uploadAttachment rules identity requestId file).Only (AttachmentCall.Proper sha256) := by
  have viewed : (authorizeView identity requestId).Only (AttachmentCall.Proper sha256) :=
    only_authorizeView trivial (fun _ => trivial) trivial
  apply viewed.bind
  intro authorized
  exact only_storeNewAttachment sound requestId file 1 none

theorem only_replace (sound : rules.Sound sha256) (attachmentId : UUID) (file : FileUpload) :
    (replaceAttachment rules identity attachmentId file).Only (AttachmentCall.Proper sha256) := by
  have found : (getExisting attachmentId).Only (AttachmentCall.Proper sha256) := only_translatingNotFound trivial
  apply found.bind
  intro existing
  have fetched : (getParentRequest identity existing.requestId).Only (AttachmentCall.Proper sha256) :=
    only_getParentRequest trivial
  apply fetched.bind
  intro request
  have permitted : (authorizeRemoval identity existing request).Only (AttachmentCall.Proper sha256) :=
    only_authorizeRemoval trivial
  apply permitted.bind
  intro authorized
  apply (only_storeNewAttachment sound existing.requestId file (existing.version + 1) (some existing.id)).bind
  intro created
  have removed : (translating (perform (.softDelete existing.id identity.userId))).Only (AttachmentCall.Proper sha256) :=
    only_translating trivial
  exact removed.bind fun _ => trivial

theorem only_remove (attachmentId : UUID) :
    (removeAttachment identity attachmentId).Only (AttachmentCall.Proper sha256) := by
  have found : (getExisting attachmentId).Only (AttachmentCall.Proper sha256) := only_translatingNotFound trivial
  apply found.bind
  intro existing
  have fetched : (getParentRequest identity existing.requestId).Only (AttachmentCall.Proper sha256) :=
    only_getParentRequest trivial
  apply fetched.bind
  intro request
  have permitted : (authorizeRemoval identity existing request).Only (AttachmentCall.Proper sha256) :=
    only_authorizeRemoval trivial
  apply permitted.bind
  intro authorized
  have discarded : (translatingStorage (perform (.removeObject existing.storagePath))).Only
      (AttachmentCall.Proper sha256) := only_translatingStorage trivial
  apply discarded.bind
  intro _
  have removed : (translating (perform (.softDelete attachmentId identity.userId))).Only (AttachmentCall.Proper sha256) :=
    only_translating trivial
  apply removed.bind
  intro removed
  have recorded : (translating (perform (.recordEvent .attachmentRemoved identity.userId existing.requestId attachmentId
      existing.fileName))).Only (AttachmentCall.Proper sha256) := only_translating trivial
  exact recorded.bind fun _ => trivial

theorem only_process (sound : rules.Sound sha256) (process : AttachmentProcess) :
    (process.program rules).Only (AttachmentCall.Proper sha256) := by
  have discarding : ∀ {program : AttachmentProgram AttachmentRecord}, program.Only (AttachmentCall.Proper sha256) →
      (do
        let _ ← program
        return () : AttachmentProgram Unit).Only (AttachmentCall.Proper sha256) := by
    intro program only
    exact only.bind fun _ => trivial
  cases process with
  | upload identity requestId file => exact discarding (only_upload sound requestId file)
  | replace identity attachmentId file => exact discarding (only_replace sound attachmentId file)
  | remove identity attachmentId => exact discarding (only_remove attachmentId)

end Calls

section Steps

variable {sha256 : List UInt8 → String} {state after : AttachmentStore} {call : AttachmentCall}
  {reply : Except AttachmentFault call.Result}

/-- What the store says of files. -/
structure FilesKept (sha256 : List UInt8 → String) (state : AttachmentStore) : Prop where
  filed : ∀ attachment ∈ state.attachments.rows, WellFiled sha256 attachment
  located : ∀ path ∈ state.objects, Located path

theorem WellFiled.softDeleted {attachment : AttachmentRecord} (filed : WellFiled sha256 attachment) (now : Datetime)
    (deletedBy : UUID) : WellFiled sha256 ((softDeleteEdit now deletedBy).apply attachment) :=
  ⟨filed.allowed, filed.sized, filed.located, filed.described⟩

theorem rows_filed (proper : call.Proper sha256) (moved : AttachmentMove call state after)
    (filed : ∀ attachment ∈ state.attachments.rows, WellFiled sha256 attachment) :
    ∀ attachment ∈ after.attachments.rows, WellFiled sha256 attachment := by
  intro attachment member
  cases moved with
  | same unchanged => exact filed attachment (unchanged ▸ member)
  | inserted values called absent resolved placed =>
      subst called
      rw [placed] at member
      rcases (mem_place _ _ _).mp member with ⟨old, -⟩ | new
      · exact filed attachment old
      · rw [new]
        exact proper state.now
  | deleted attachmentId deletedBy called edited =>
      rw [edited] at member
      rcases (mem_modify _ _ _ _).mp member with ⟨old, -⟩ | ⟨old, present, -, rfl⟩
      · exact filed attachment old
      · exact (filed old present).softDeleted state.now deletedBy

theorem objects_execute (path : String) (stored : path ∈ (state.execute call).2.objects) :
    path ∈ state.objects ∨ call = .upload path := by
  cases call with
  | upload uploaded =>
      simp only [AttachmentStore.execute] at stored
      split at stored
      · exact .inl stored
      · rcases List.mem_append.mp stored with old | new
        · exact .inl old
        · rw [List.mem_singleton.mp new]
          exact .inr rfl
  | removeObject removed => exact .inl (List.mem_of_mem_filter stored)
  | createAttachment values =>
      simp only [AttachmentStore.execute, AttachmentStore.createAttachment] at stored
      split at stored <;> exact .inl stored
  | softDelete attachmentId deletedBy =>
      simp only [AttachmentStore.execute, AttachmentStore.softDelete] at stored
      split at stored <;> exact .inl stored
  | _ => exact .inl stored

theorem objects_step (stepped : attachmentStep state call reply after) {path : String} (stored : path ∈ after.objects) :
    path ∈ state.objects ∨ call = .upload path := by
  rcases stepped with ⟨-, rfl⟩ | ⟨fault, -, -, rfl | rfl⟩
  · exact objects_execute path stored
  · exact .inl stored
  · exact objects_execute path stored

theorem filesKept_step (proper : call.Proper sha256) (stepped : attachmentStep state call reply after)
    (kept : FilesKept sha256 state) : FilesKept sha256 after := by
  constructor
  · exact rows_filed proper (move_step stepped) kept.filed
  · intro path stored
    rcases objects_step stepped stored with old | rfl
    · exact kept.located path old
    · exact proper

/-- An attachment is still there as it was, if perhaps soft-deleted since. -/
def StillFiled (attachment : AttachmentRecord) (state : AttachmentStore) : Prop :=
  ∃ kept ∈ state.attachments.rows,
    kept = { attachment with deletedAt := kept.deletedAt, deletedBy := kept.deletedBy }

theorem stillFiled_step {attachment : AttachmentRecord} (stepped : attachmentStep state call reply after)
    (filed : StillFiled attachment state) : StillFiled attachment after := by
  obtain ⟨kept, present, same⟩ := filed
  cases move_step stepped with
  | same unchanged => exact ⟨kept, unchanged ▸ present, same⟩
  | inserted values called absent resolved placed =>
      have apart : Keyed.key kept ≠ values.id := (find?_eq_none_iff _ _).mp absent kept present
      refine ⟨kept, ?_, same⟩
      rw [placed]
      exact (mem_place _ _ _).mpr (.inl ⟨present, apart⟩)
  | deleted attachmentId deletedBy called edited =>
      by_cases own : Keyed.key kept = attachmentId
      · refine ⟨(softDeleteEdit state.now deletedBy).apply kept, ?_, ?_⟩
        · rw [edited]
          exact (mem_modify _ _ _ _).mpr (.inr ⟨kept, present, own, rfl⟩)
        · rw [same]
          rfl
      · refine ⟨kept, ?_, same⟩
        rw [edited]
        exact (mem_modify _ _ _ _).mpr (.inl ⟨present, own⟩)

end Steps

section Runs

variable {ι : Type} [DecidableEq ι]

/-- In every state of a run, each attachment describes a file that passed the checks and lies in the folder of its request
only, no two attachments share a path, and nothing is stored anywhere else; and what an attachment says of its file never
changes. -/
theorem stored_files_well_filed (sha256 : List UInt8 → String) (processes : ι → AttachmentProcess)
    {start : AttachmentStore} (kept : FilesKept sha256 start)
    {middle last : Pool attachmentSignature AttachmentFault (AttachmentRun ι) ι}
    {earlier later : List (Event attachmentSignature ι)}
    (run : Pool.Run storing (launchAttachments (fileUtils sha256) processes start) earlier middle)
    (rest : Pool.Run storing middle later last) :
    (∀ attachment ∈ last.shared.store.attachments.rows, WellFiled sha256 attachment ∧
      ∀ requestId, storageFolder requestId <+: attachment.storagePath.toList ↔ requestId = attachment.requestId) ∧
    (∀ path ∈ last.shared.store.objects, Located path) ∧
    (∀ first ∈ last.shared.store.attachments.rows, ∀ second ∈ last.shared.store.attachments.rows,
      first.storagePath = second.storagePath → first = second) ∧
    ∀ attachment ∈ middle.shared.store.attachments.rows, StillFiled attachment last.shared.store := by
  have confined := (run.trans rest).confined (fun state => FilesKept sha256 state.store)
    (fun thread state call reply after kept proper stored => filesKept_step proper stored.1 kept)
    (fun thread => only_process (fileUtils_sound sha256) (processes thread)) kept
  have files := confined.1
  refine ⟨?_, files.located, ?_, ?_⟩
  · intro attachment member
    have filed := files.filed attachment member
    exact ⟨filed, filed.folder_iff⟩
  · intro first firstMember second secondMember same
    obtain ⟨firstName, -, -, firstPath⟩ := (files.filed first firstMember).located
    obtain ⟨secondName, -, -, secondPath⟩ := (files.filed second secondMember).located
    rw [firstPath, secondPath] at same
    exact last.shared.store.attachments.eq_of_key_eq firstMember secondMember (buildStoragePath_inj same).2.1
  · intro attachment member
    apply rest.shared_invariant (fun state => StillFiled attachment state.store)
    · intro thread state call reply after filed stored
      exact stillFiled_step stored.1 filed
    · exact ⟨attachment, member, rfl⟩

/-- A file is uploaded and replaced. -/
theorem stored_files_well_filed_sample :
    ∃ last events, Pool.Run storing
        (launchAttachments (fileUtils fun _ => "checksum") uploadAndReplace travelStore) events last ∧
      last.shared.store.objects.length = 2 ∧ ∀ path ∈ last.shared.store.objects, Located path := by
  let pool := launchAttachments (fileUtils fun _ => "checksum") uploadAndReplace travelStore
  have ordered := Pool.enact_runs orderly_of_check pool replacedOnce (by decide +kernel)
  have run : Pool.Run storing pool _ _ := ordered.mono fun _ _ _ _ _ ordered => ordered.1
  have empty : FilesKept (fun _ => "checksum") travelStore := by
    constructor
    · intro attachment member
      cases member
    · intro path member
      cases member
  have filed := stored_files_well_filed (fun _ => "checksum") uploadAndReplace empty run (.refl _)
  exact ⟨_, _, run, by decide +kernel, filed.2.1⟩

end Runs

end AutomationHub.Attachments
