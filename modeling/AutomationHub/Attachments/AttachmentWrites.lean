import AutomationHub.Attachments.Store
import AutomationHub.Foundation.Writes

/-!
The writes that uploading and removing an attachment plan, with their entries in the audit log.
-/

set_option autoImplicit false

namespace AutomationHub.Attachments

open Foundation Model Auth Database Program Table

/-- Writes to the tables. -/
def AttachmentCall.writesRow : AttachmentCall → Bool
  | .createAttachment _ | .softDelete .. | .recordEvent .. => true
  | _ => false

/-- Writes to the tables, and the removal of a stored object. -/
def AttachmentCall.discards : AttachmentCall → Bool
  | .removeObject _ => true
  | other => other.writesRow

def attachmentRule (writes : AttachmentCall → Bool) : WriteRule attachmentSignature :=
  fallibleRule AttachmentFault AttachmentCall.Result writes

def storeHandler : Handler attachmentSignature AttachmentStore :=
  fun call state => ((state.execute call).1, (state.execute call).2.tick)

def AttachmentStore.atTick (state : AttachmentStore) (ticks : Nat) : AttachmentStore := { state with ticks }

section Checks

variable (identity : AuthenticatedIdentity) (state : AttachmentStore)

def AttachmentStore.expiredAfter (elapsed : Nat) : Bool :=
  identity.expiresAt.any fun expiresAt => isPast expiresAt (state.chance (state.ticks + elapsed)).now

/-- The calls by which the expiry of a token is checked. -/
def expiryCalls : Nat := if identity.expiresAt.isSome then 1 else 0

/-- The calls by which the caller's assignment is checked. -/
def assignmentCalls : Nat := if identity.role = .employee then 0 else 1

def viewCalls : Nat := 1 + assignmentCalls identity + expiryCalls identity

def AttachmentStore.assignsAny (requestId : UUID) : Bool :=
  identity.role != .employee && ((state.chance state.ticks).stages requestId).any fun stage =>
    stage.assignedTo == some identity.userId || stage.assignedRole == some identity.role

/-- What `_authorize_view` asks of the request as it finds it. -/
def AttachmentStore.mayView (requestId : UUID) : Bool :=
  ((state.chance state.ticks).requests requestId).any fun request =>
    request.companyId == identity.companyId &&
      (!state.expiredAfter identity (1 + assignmentCalls identity) &&
        canViewRequest identity.role (request.requesterId == identity.userId)
          ((state.atTick (state.ticks + 1)).assignsAny identity requestId))

/-- What the checks of `remove_attachment` ask. -/
def AttachmentStore.mayRemove (attachmentId : UUID) : Bool :=
  (state.attachments.find? attachmentId).any fun existing =>
    ((state.chance (state.ticks + 1)).requests existing.requestId).any fun request =>
      request.companyId == identity.companyId && (!state.expiredAfter identity 2 &&
        canRemoveAttachment identity.role (existing.uploadedBy == identity.userId) (request.status == .pending))

/-- The row that `upload_attachment` inserts: its id is drawn, and its content scanned, once the caller is authorized. -/
def uploadValues (rules : FileRules) (requestId : UUID) (file : FileUpload) : AttachmentValues :=
  let attachmentId := (state.chance (state.ticks + viewCalls identity)).identifier
  { id := attachmentId, requestId, uploadedBy := identity.userId, fileName := file.fileName,
    contentType := file.contentType, sizeBytes := file.content.length,
    storagePath := rules.storagePath requestId attachmentId file.fileName, checksumSha256 := rules.checksum file.content,
    version := 1, replacesAttachmentId := none,
    scanStatus := (state.chance (state.ticks + viewCalls identity + 2)).scanStatus }

/-- The constraints of the table on a first version. -/
def AttachmentStore.accepts (values : AttachmentValues) : Bool :=
  (state.attachments.find? values.id).isNone &&
    (state.attachments.rows.all fun other => other.storagePath != values.storagePath) && decide (0 < values.sizeBytes)

/-- What the checks of `upload_attachment`, the store of objects and the constraints of the table ask. -/
def AttachmentStore.mayUpload (rules : FileRules) (requestId : UUID) (file : FileUpload) : Bool :=
  state.mayView identity requestId && (rules.complaint file).isNone &&
    decide ((uploadValues identity state rules requestId file).storagePath ∉ state.objects) &&
      state.accepts (uploadValues identity state rules requestId file)

/-- The row and its entry. -/
def uploadWrites (rules : FileRules) (requestId : UUID) (file : FileUpload) : List AttachmentCall :=
  [.createAttachment (uploadValues identity state rules requestId file),
    .recordEvent .attachmentUploaded identity.userId requestId (uploadValues identity state rules requestId file).id
      file.fileName]

/-- The object, the row and the entry of a removal. -/
def removeWrites (attachmentId : UUID) : List AttachmentCall :=
  (state.attachments.find? attachmentId).toList.flatMap fun existing =>
    [.removeObject existing.storagePath, .softDelete attachmentId identity.userId,
      .recordEvent .attachmentRemoved identity.userId existing.requestId attachmentId existing.fileName]

end Checks

section Rules

variable {α : Type} {writes : AttachmentCall → Bool} {state after : AttachmentStore} {call : AttachmentCall}
  {planned : List AttachmentCall}

theorem storeHandler_of_execute {reply : Except AttachmentFault call.Result}
    (executed : state.execute call = (reply, after)) : storeHandler call state = (reply, after.tick) := by
  rw [storeHandler, executed]

theorem plans_translating {result : call.Result} {next : call.Result → AttachmentProgram α} (isWrite : writes call = true)
    (answered : storeHandler call state = (.ok result, after))
    (rest : (next result).Plans (attachmentRule writes) storeHandler after planned) :
    (translating (perform call) >>= next).Plans (attachmentRule writes) storeHandler state (call :: planned) :=
  plans_fallible isWrite (fun fault => by cases fault <;> trivial) answered rfl rest

theorem plans_translatingStorage {result : call.Result} {next : call.Result → AttachmentProgram α}
    (isWrite : writes call = true) (answered : storeHandler call state = (.ok result, after))
    (rest : (next result).Plans (attachmentRule writes) storeHandler after planned) :
    (translatingStorage (perform call) >>= next).Plans (attachmentRule writes) storeHandler state (call :: planned) :=
  plans_fallible isWrite (fun fault => by cases fault <;> trivial) answered rfl rest

theorem reaches_perform {result : call.Result} (reads : writes call = false)
    (answered : storeHandler call state = (.ok result, after)) :
    (perform call).Reaches (attachmentRule writes) storeHandler state (.ok result) after :=
  reaches_fallible reads answered rfl

end Rules

section Calls

variable {identity : AuthenticatedIdentity} {requestId : UUID} {call : AttachmentCall} {allowed : AttachmentCall → Prop}

theorem only_perform (permitted : allowed call) : (perform call).Only allowed :=
  only_fallible (fun reply => by cases reply <;> rfl) permitted

theorem only_translatingNotFound (permitted : allowed call) : (translatingNotFound (perform call)).Only allowed := by
  apply (only_perform permitted).tryCatch
  intro fault
  rcases fault with error | _ | _ | _ | _
  · cases error <;> trivial
  all_goals trivial

theorem only_getParentRequest (fetched : allowed (.getRequest requestId)) :
    (getParentRequest identity requestId).Only allowed := by
  apply (only_translatingNotFound fetched).bind
  intro request
  split <;> trivial

theorem only_isExpired (timed : allowed .utcNow) : (isExpired identity).Only allowed := by
  unfold isExpired
  cases identity.expiresAt with
  | none => trivial
  | some expiresAt => exact (only_perform timed).bind fun _ => trivial

theorem only_authorizeView (fetched : allowed (.getRequest requestId))
    (listed : identity.role ≠ .employee → allowed (.listStages requestId)) (timed : allowed .utcNow) :
    (authorizeView identity requestId).Only allowed := by
  apply (only_getParentRequest fetched).bind
  intro request
  apply Only.bind
  · unfold isAssignedToAnyStage
    split
    · trivial
    · rename_i other
      exact (only_perform (listed other)).bind fun _ => trivial
  · intro assigned
    apply (only_isExpired timed).bind
    intro expired
    split <;> trivial

theorem only_authorizeRemoval {existing : AttachmentRecord} {request : RequestRecord} (timed : allowed .utcNow) :
    (authorizeRemoval identity existing request).Only allowed := by
  apply (only_isExpired timed).bind
  intro expired
  split
  · trivial
  · split <;> trivial

end Calls

section Checking

variable {writes : AttachmentCall → Bool} {identity : AuthenticatedIdentity} {state : AttachmentStore}
  {requestId attachmentId : UUID}

theorem reaches_isExpired (unwritten : writes .utcNow = false) :
    (isExpired identity).Reaches (attachmentRule writes) storeHandler state (.ok (state.expiredAfter identity 0))
      (state.atTick (state.ticks + expiryCalls identity)) := by
  unfold isExpired AttachmentStore.expiredAfter expiryCalls
  cases identity.expiresAt with
  | none => exact reaches_done _
  | some expiresAt => exact (reaches_perform unwritten rfl).bind (reaches_done _)

theorem reaches_isAssignedToAnyStage (unwritten : writes (.listStages requestId) = false) :
    (isAssignedToAnyStage identity requestId).Reaches (attachmentRule writes) storeHandler state
      (.ok (state.assignsAny identity requestId)) (state.atTick (state.ticks + assignmentCalls identity)) := by
  unfold isAssignedToAnyStage AttachmentStore.assignsAny assignmentCalls
  by_cases employee : identity.role = .employee
  · rw [if_pos employee, if_pos employee, employee]
    exact reaches_done _
  · rw [if_neg employee, if_neg employee, bne_iff_ne.mpr employee, Bool.true_and]
    exact (reaches_perform unwritten rfl).bind (reaches_done _)

theorem reaches_getExisting (unwritten : writes (.getAttachment attachmentId) = false) :
    (getExisting attachmentId).Reaches (attachmentRule writes) storeHandler state
      ((state.attachments.find? attachmentId).elim (.error (.app (.notFound "attachments" attachmentId))) .ok)
      (state.atTick (state.ticks + 1)) := by
  apply reaches_call unwritten
  simp only [storeHandler, AttachmentStore.execute, getById]
  cases state.attachments.find? attachmentId with
  | none => exact reaches_raised _
  | some attachment => exact reaches_done _

theorem reaches_getParentRequest (unwritten : writes (.getRequest requestId) = false) :
    ∃ result, (getParentRequest identity requestId).Reaches (attachmentRule writes) storeHandler state result
        (state.atTick (state.ticks + 1)) ∧
      result.toOption = ((state.chance state.ticks).requests requestId).filter (·.companyId == identity.companyId) := by
  have fetched : (translatingNotFound (perform (.getRequest requestId))).Reaches (attachmentRule writes) storeHandler state
      (((state.chance state.ticks).requests requestId).elim (.error (.app (.notFound "requests" requestId))) .ok)
      (state.atTick (state.ticks + 1)) := by
    apply reaches_call unwritten
    simp only [storeHandler, AttachmentStore.execute]
    cases (state.chance state.ticks).requests requestId with
    | none => exact reaches_raised _
    | some request => exact reaches_done _
  exact fetched.kept (fun request => request.companyId = identity.companyId) (.app (.notFound "request" requestId))
    fun _ => rfl

theorem checks_authorizeView (unwritten : writes .utcNow = false) (unlisted : writes (.listStages requestId) = false)
    (unfetched : writes (.getRequest requestId) = false) :
    (authorizeView identity requestId).Checks (attachmentRule writes) storeHandler state (state.mayView identity requestId)
      (fun after => after = state.atTick (state.ticks + viewCalls identity)) := by
  obtain ⟨result, fetched, same⟩ := @reaches_getParentRequest writes identity state requestId unfetched
  unfold authorizeView AttachmentStore.mayView
  cases found : (state.chance state.ticks).requests requestId with
  | none =>
      rw [found] at same
      cases result with
      | error fault => exact Checks.unread fetched
      | ok request => cases same
  | some request =>
      rw [found] at same
      rw [Option.any_some]
      by_cases own : request.companyId = identity.companyId
      · rw [Option.filter_some_pos (by simpa using own)] at same
        cases result with
        | error fault => cases same
        | ok record =>
            obtain rfl : record = request := Option.some.inj same
            apply Checks.read fetched
            apply Checks.read (reaches_isAssignedToAnyStage unlisted)
            apply Checks.read (reaches_isExpired unwritten)
            rw [beq_iff_eq.mpr own, Bool.true_and]
            have instant : state.expiredAfter identity (1 + assignmentCalls identity) =
                (state.atTick (state.ticks + 1 + assignmentCalls identity)).expiredAfter identity 0 := by
              simp only [AttachmentStore.expiredAfter, AttachmentStore.atTick, Nat.add_zero, Nat.add_assoc]
            rw [instant]
            apply checks_guard
            simp only [AttachmentStore.atTick, viewCalls, Nat.add_assoc]
      · rw [Option.filter_some_neg (by simpa using own)] at same
        cases result with
        | error fault =>
            rw [beq_eq_false_iff_ne.mpr own, Bool.false_and]
            exact Checks.unread fetched
        | ok record => cases same

end Checking

section Plans

variable {identity : AuthenticatedIdentity} {state : AttachmentStore} {requestId attachmentId : UUID} {rules : FileRules}
  {file : FileUpload}

theorem createAttachment_ok {values : AttachmentValues} (accepted : state.accepts values = true)
    (version : values.version = 1) (first : values.replacesAttachmentId = none) :
    state.createAttachment values =
      (.ok (values.row state.now), { state with attachments := state.attachments.place (values.row state.now) }) := by
  simp only [AttachmentStore.accepts, Bool.and_eq_true, decide_eq_true_eq] at accepted
  obtain ⟨⟨unused, unstored⟩, sized⟩ := accepted
  unfold AttachmentStore.createAttachment World.firstViolated
  simp [unused, unstored, sized, version, first]

theorem createAttachment_refused {values : AttachmentValues} (refused : state.accepts values = false) :
    ∃ fault, state.createAttachment values = (.error fault, state) := by
  unfold AttachmentStore.createAttachment
  split
  · exact ⟨_, rfl⟩
  · rename_i unviolated
    have held := (World.firstViolated_eq_none_iff _).mp unviolated
    simp only [List.mem_cons, List.not_mem_nil, or_false, forall_eq_or_imp, forall_eq] at held
    obtain ⟨unused, unstored, -, sized, -⟩ := held
    simp [AttachmentStore.accepts, unused, unstored, sized] at refused

theorem reaches_upload {path : String} (unstored : path ∉ state.objects) :
    (translatingStorage (perform (.upload path))).Reaches (attachmentRule AttachmentCall.writesRow) storeHandler state
      (.ok ()) { state with objects := state.objects ++ [path], ticks := state.ticks + 1 } := by
  have executed : state.execute (.upload path) = (.ok (), { state with objects := state.objects ++ [path] }) :=
    if_neg unstored
  apply reaches_call rfl
  rw [storeHandler_of_execute executed]
  exact reaches_done ()

theorem reaches_upload_refused {path : String} (stored : path ∈ state.objects) :
    (translatingStorage (perform (.upload path))).Reaches (attachmentRule AttachmentCall.writesRow) storeHandler state
      (.error (.storageOperation ("Storage operation 'upload' failed for '" ++ path ++ "'."))) state.tick := by
  have executed : state.execute (.upload path) =
      (.error (.storage ("Storage operation 'upload' failed for '" ++ path ++ "'.")), state) :=
    if_pos stored
  apply reaches_call rfl
  rw [storeHandler_of_execute executed]
  exact reaches_raised _

theorem plans_insert {values : AttachmentValues} (version : values.version = 1)
    (first : values.replacesAttachmentId = none) :
    ((tryCatch (perform (.createAttachment values)) fun
        | .database error => do
            cleanupOrphanedStorageObject values.storagePath
            .raised (.app (translateDatabaseError error))
        | fault => .raised fault) >>= fun created : AttachmentRecord => do
          translating (perform (.recordEvent .attachmentUploaded identity.userId requestId created.id file.fileName))
          return created).Plans (attachmentRule AttachmentCall.writesRow) storeHandler state
      (if state.accepts values then
        [.createAttachment values, .recordEvent .attachmentUploaded identity.userId requestId values.id file.fileName]
      else []) := by
  have stops : ∀ fault : AttachmentFault, ((tryCatch (.raised fault : AttachmentProgram AttachmentRecord) fun
        | .database error => do
            cleanupOrphanedStorageObject values.storagePath
            .raised (.app (translateDatabaseError error))
        | fault => .raised fault)).Quits (attachmentRule AttachmentCall.writesRow) := by
    intro fault
    cases fault with
    | database error =>
        refine ⟨rfl, ?_⟩
        rintro (struck | ⟨⟩)
        · cases struck <;> trivial
        · trivial
    | _ => trivial
  cases accepted : state.accepts values with
  | true =>
      have created : state.execute (.createAttachment values) = _ := createAttachment_ok accepted version first
      exact plans_fallible rfl stops (storeHandler_of_execute created) rfl
        (plans_translating rfl rfl (plans_done _))
  | false =>
      obtain ⟨fault, refused⟩ := createAttachment_refused accepted
      have answered : state.execute (.createAttachment values) = _ := refused
      exact plans_fallible_refused stops (storeHandler_of_execute answered)

theorem plans_uploadAttachment : (uploadAttachment rules identity requestId file).Plans
    (attachmentRule AttachmentCall.writesRow) storeHandler state
    (if state.mayUpload identity rules requestId file then uploadWrites identity state rules requestId file else []) := by
  rw [AttachmentStore.mayUpload, planned_and, planned_and, planned_and, uploadAttachment]
  apply Checks.plans (checks_authorizeView rfl rfl rfl)
  rintro _ - rfl
  unfold storeNewAttachment
  cases rules.complaint file with
  | some message => exact plans_raised _
  | none =>
      apply Reaches.plans (reaches_perform rfl rfl)
      by_cases stored : (uploadValues identity state rules requestId file).storagePath ∈ state.objects
      · have refused := @reaches_upload_refused (state.atTick (state.ticks + viewCalls identity + 1)) _ stored
        have nothing : decide ((uploadValues identity state rules requestId file).storagePath ∉ state.objects) = false := by
          simpa using stored
        rw [nothing]
        exact refused.plans_nothing
      · have uploaded := @reaches_upload (state.atTick (state.ticks + viewCalls identity + 1)) _ stored
        rw [decide_eq_true stored]
        apply uploaded.plans
        apply Reaches.plans (reaches_perform rfl rfl)
        exact plans_insert rfl rfl

theorem checks_removal {writes : AttachmentCall → Bool} (unwritten : writes .utcNow = false)
    {existing : AttachmentRecord} {request : RequestRecord} :
    (authorizeRemoval identity existing request).Checks (attachmentRule writes) storeHandler state
      (!state.expiredAfter identity 0 &&
        canRemoveAttachment identity.role (existing.uploadedBy == identity.userId) (request.status == .pending))
      (fun after => after = state.atTick (state.ticks + expiryCalls identity)) := by
  unfold authorizeRemoval
  apply Checks.read (reaches_isExpired unwritten)
  cases state.expiredAfter identity 0 with
  | true => exact checks_refused _
  | false => exact checks_guard _ rfl

theorem softDelete_found {deletedBy : UUID} {attachment : AttachmentRecord} {store : AttachmentStore}
    (found : store.attachments.find? attachmentId = some attachment) :
    store.execute (.softDelete attachmentId deletedBy) =
      (.ok ((softDeleteEdit store.now deletedBy).apply attachment),
        { store with attachments := store.attachments.modify attachmentId (softDeleteEdit store.now deletedBy) }) := by
  unfold AttachmentStore.execute AttachmentStore.softDelete
  simp only [found]

/-- The checks of a removal ask what they do of the attachment and of the request that they fetch. -/
theorem mayRemove_found {attachment : AttachmentRecord} {fetched : Except AttachmentFault RequestRecord}
    (found : state.attachments.find? attachmentId = some attachment)
    (same : fetched.toOption = ((state.chance (state.ticks + 1)).requests attachment.requestId).filter
      (·.companyId == identity.companyId)) :
    state.mayRemove identity attachmentId = fetched.toOption.any fun request => !state.expiredAfter identity 2 &&
      canRemoveAttachment identity.role (attachment.uploadedBy == identity.userId) (request.status == .pending) := by
  rw [AttachmentStore.mayRemove, found, Option.any_some, same, Option.any_filter]

theorem plans_removeAttachment : (removeAttachment identity attachmentId).Plans
    (attachmentRule AttachmentCall.discards) storeHandler state
    (if state.mayRemove identity attachmentId then removeWrites identity state attachmentId else []) := by
  have existing := @reaches_getExisting AttachmentCall.discards state attachmentId rfl
  unfold removeAttachment removeWrites
  cases found : state.attachments.find? attachmentId with
  | none =>
      rw [found] at existing
      rw [AttachmentStore.mayRemove, found]
      exact existing.plans_nothing
  | some attachment =>
      rw [found] at existing
      apply existing.plans
      obtain ⟨result, fetched, same⟩ := @reaches_getParentRequest AttachmentCall.discards identity
        (state.atTick (state.ticks + 1)) attachment.requestId rfl
      rw [mayRemove_found found same, Option.toList_some, List.flatMap_singleton]
      cases result with
      | error fault => exact fetched.plans_nothing
      | ok request =>
          apply fetched.plans
          apply Checks.plans (checks_removal rfl)
          rintro _ - rfl
          apply plans_translatingStorage rfl rfl
          exact plans_translating rfl (storeHandler_of_execute (softDelete_found found)) (plans_translating rfl rfl (plans_done _))

end Plans

end AutomationHub.Attachments
