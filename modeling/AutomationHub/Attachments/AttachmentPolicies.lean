import AutomationHub.Attachments.AttachmentWrites
import AutomationHub.Comments.CommentPolicies

/-!
Attachments are read and written through the caller's own client: what the policies hide is
not found, and every write has to satisfy them.
-/

set_option autoImplicit false

namespace AutomationHub.Attachments

open Foundation Model Auth Database Program Table
open Comments (Caller JoinsRequest parentInsert_iff_joins)

/-- The same store, whose surroundings answer from the tables. -/
def AttachmentStore.over (state : AttachmentStore) (tables : TenantTables) : AttachmentStore :=
  { state with
    chance := fun instant =>
      { state.chance instant with requests := tables.requests.find?, stages := tables.firstStages } }

def AttachmentStore.seen (tables : TenantTables) (caller : UUID) (state : AttachmentStore) (attachmentId : UUID) :
    Option AttachmentRecord :=
  (state.attachments.find? attachmentId).filter (tables.attachmentsSelect caller)

/-- The caller's client, as far as it reads. -/
def readAs (tables : TenantTables) (caller : UUID) : Handler attachmentSignature AttachmentStore
  | .getAttachment attachmentId, state =>
      ((state.seen tables caller attachmentId).elim (.error (.database (.recordNotFound "attachments" attachmentId))) .ok,
        state.tick)
  | other, state => storeHandler other state

/-- The write satisfies the policies. -/
def attachmentPermitted (tables : TenantTables) (caller : UUID) (state : AttachmentStore) : AttachmentCall → Prop
  | .createAttachment values => tables.mayInsertAttachment caller (values.row state.now) = true
  | .softDelete attachmentId deletedBy => ∀ row, state.attachments.find? attachmentId = some row →
      tables.mayUpdateAttachment caller row ((softDeleteEdit state.now deletedBy).apply row) = true
  | _ => True

/-- Calls that no policy of the table concerns. -/
def AttachmentCall.plain : AttachmentCall → Bool
  | .getAttachment _ | .createAttachment _ | .softDelete .. => false
  | _ => true

/-- A file is stored for the attachment whose id is drawn at the instant. -/
def AttachmentStore.storable (state : AttachmentStore) (rules : FileRules) (requestId : UUID) (file : FileUpload)
    (elapsed : Nat) : Bool :=
  (rules.complaint file).isNone &&
    decide (rules.storagePath requestId (state.chance (state.ticks + elapsed)).identifier file.fileName ∉ state.objects)

section Plain

variable {identity : AuthenticatedIdentity} {requestId caller : UUID} {tables : TenantTables} {call : AttachmentCall}
  {state : AttachmentStore}

theorem permitted_of_plain (allowed : call.plain = true) (state : AttachmentStore) :
    attachmentPermitted tables caller state call := by
  cases call with
  | createAttachment | softDelete => cases allowed
  | _ => trivial

theorem readAs_of_plain (allowed : call.plain = true) (state : AttachmentStore) :
    readAs tables caller call state = storeHandler call state := by
  cases call with
  | getAttachment => cases allowed
  | _ => rfl

theorem run_plain {α : Type} {program : AttachmentProgram α} {result : Except AttachmentFault α} {after : AttachmentStore}
    (only : program.Only (AttachmentCall.plain · = true))
    (reached : program.Reaches (attachmentRule fun _ => false) storeHandler state result after) :
    program.run (readAs tables caller) state = (result, after) :=
  ((only.mono fun _ => readAs_of_plain).run_agree state).trans reached.run

theorem admitted_plain {α : Type} {check : AttachmentProgram Unit} {next : Unit → AttachmentProgram α} {permitted : Bool}
    {later : AttachmentStore → Prop} (only : check.Only (AttachmentCall.plain · = true))
    (checks : check.Checks (attachmentRule fun _ => false) storeHandler state permitted later)
    {holds : Prop} (rest : permitted = true → ∀ after, later after →
      ((next ()).Admitted (attachmentPermitted tables caller) (readAs tables caller) after ↔ holds)) :
    (check >>= next).Admitted (attachmentPermitted tables caller) (readAs tables caller) state ↔
      (permitted = true → holds) := by
  have free : check.Only fun call => ∀ state, attachmentPermitted tables caller state call :=
    only.mono fun _ => permitted_of_plain
  obtain ⟨result, after, reached, rfl, passing⟩ := checks
  have ran := @run_plain caller tables state _ _ _ _ only reached
  cases result with
  | error fault => exact iff_of_true (admitted_bind_of_error free ran) fun passed => nomatch passed
  | ok value =>
      rw [admitted_bind_of_run free ran, rest rfl after (passing rfl)]
      exact ⟨fun held _ => held, fun held => held rfl⟩

end Plain

section Operations

variable {identity : AuthenticatedIdentity} {tables : TenantTables} {profile : ProfileRecord} {requestId : UUID}
  {rules : FileRules} {file : FileUpload} {state : AttachmentStore}

theorem insert_admitted_iff {α : Type} {values : AttachmentValues} {next : AttachmentRecord → AttachmentProgram α}
    (own : values.uploadedBy = identity.userId) (ofRequest : values.requestId = requestId)
    (onward : tables.parentInsert identity.userId requestId = true → ∀ created after,
      state.createAttachment values = (.ok created, after) →
        (next created).Admitted (attachmentPermitted tables identity.userId) (readAs tables identity.userId)
          after.tick.tick) :
    (((tryCatch (perform (.createAttachment values)) fun
        | .database error => do
            cleanupOrphanedStorageObject values.storagePath
            .raised (.app (translateDatabaseError error))
        | fault => .raised fault) >>= fun created : AttachmentRecord => do
          translating (perform (.recordEvent .attachmentUploaded identity.userId requestId created.id file.fileName))
          return created) >>= next).Admitted (attachmentPermitted tables identity.userId) (readAs tables identity.userId)
        state ↔
      tables.parentInsert identity.userId requestId = true ∧ tables.parentSelect identity.userId requestId = true := by
  have permits : attachmentPermitted tables identity.userId state (.createAttachment values) ↔
      tables.parentInsert identity.userId requestId = true ∧ tables.parentSelect identity.userId requestId = true := by
    simp [attachmentPermitted, TenantTables.mayInsertAttachment, TenantTables.attachmentsInsert,
      TenantTables.attachmentsSelect, AttachmentValues.row, own, ofRequest]
  refine (admitted_call ..).trans ?_
  rw [permits, and_iff_left_iff_imp]
  rintro ⟨inserts, -⟩
  have answered : readAs tables identity.userId (.createAttachment values) state =
    ((state.createAttachment values).1, (state.createAttachment values).2.tick) := rfl
  rw [answered]
  rcases outcome : state.createAttachment values with ⟨fault | created, after⟩
  · cases fault with
    | database error => exact (admitted_call ..).mpr ⟨trivial, trivial⟩
    | _ => trivial
  · exact (admitted_call ..).mpr ⟨trivial, onward inserts created after outcome⟩

theorem storeNewAttachment_admitted_iff {α : Type} {version : Nat} {replaces : Option UUID}
    {next : AttachmentRecord → AttachmentProgram α}
    (onward : tables.parentInsert identity.userId requestId = true →
      ∀ (store after : AttachmentStore) (values : AttachmentValues) created, store.attachments = state.attachments →
        store.createAttachment values = (.ok created, after) →
        (next created).Admitted (attachmentPermitted tables identity.userId) (readAs tables identity.userId)
          after.tick.tick) :
    (storeNewAttachment rules identity requestId file version replaces >>= next).Admitted
        (attachmentPermitted tables identity.userId) (readAs tables identity.userId) state ↔
      (state.storable rules requestId file 0 = true → tables.parentInsert identity.userId requestId = true ∧
        tables.parentSelect identity.userId requestId = true) := by
  unfold storeNewAttachment AttachmentStore.storable
  cases rules.complaint file with
  | some message => exact iff_of_true trivial fun stored => nomatch stored
  | none =>
      refine (admitted_call ..).trans ((and_iff_right trivial).trans ?_)
      refine (admitted_call ..).trans ((and_iff_right trivial).trans ?_)
      by_cases stored : rules.storagePath requestId (state.chance state.ticks).identifier file.fileName ∈ state.objects
      · have refused : readAs tables identity.userId
            (.upload (rules.storagePath requestId (state.chance state.ticks).identifier file.fileName))
            (readAs tables identity.userId .uuid4 state).2 = (.error (.storage _), _) :=
          storeHandler_of_execute (if_pos stored)
        rw [refused]
        exact iff_of_true trivial fun storable => absurd stored (of_decide_eq_true storable)
      · have uploaded : readAs tables identity.userId
            (.upload (rules.storagePath requestId (state.chance state.ticks).identifier file.fileName))
            (readAs tables identity.userId .uuid4 state).2 = (.ok (), _) :=
          storeHandler_of_execute (if_neg stored)
        rw [uploaded]
        refine (admitted_call ..).trans ((and_iff_right trivial).trans ?_)
        refine (insert_admitted_iff rfl rfl ?_).trans ?_
        · intro inserts created after outcome
          refine onward inserts _ after _ created ?_ outcome
          rfl
        · exact ⟨fun held _ => held, fun held => held (decide_eq_true stored)⟩

/-- `upload_attachment` gets as far as its insert. -/
def AttachmentStore.uploadReached (identity : AuthenticatedIdentity) (state : AttachmentStore) (rules : FileRules)
    (requestId : UUID) (file : FileUpload) : Bool :=
  state.mayView identity requestId && state.storable rules requestId file (viewCalls identity)

/-- `replace_attachment` gets as far as its insert. -/
def AttachmentStore.replaceReached (identity : AuthenticatedIdentity) (tables : TenantTables) (state : AttachmentStore)
    (rules : FileRules) (attachmentId : UUID) (file : FileUpload) : Bool :=
  (state.seen tables identity.userId attachmentId).any fun existing =>
    ((tables.requests.find? existing.requestId).any fun request =>
      request.companyId == identity.companyId && (!state.expiredAfter identity 2 &&
        canRemoveAttachment identity.role (existing.uploadedBy == identity.userId) (request.status == .pending))) &&
      state.storable rules existing.requestId file (2 + expiryCalls identity)

/-- Every statement of `upload_attachment` satisfies the policies unless it gets to the insert for a caller who takes no
part in the request. -/
theorem uploadAttachment_admitted_iff (caller : Caller tables identity profile) :
    (uploadAttachment rules identity requestId file).Admitted (attachmentPermitted tables identity.userId)
        (readAs tables identity.userId) (state.over tables) ↔
      ((state.over tables).uploadReached identity rules requestId file = true →
        JoinsRequest tables identity.userId profile requestId) := by
  have storing : (state.over tables).mayView identity requestId = true → ∀ after,
      after = (state.over tables).atTick ((state.over tables).ticks + viewCalls identity) →
      ((storeNewAttachment rules identity requestId file 1 none).Admitted (attachmentPermitted tables identity.userId)
        (readAs tables identity.userId) after ↔
      ((state.over tables).storable rules requestId file (viewCalls identity) = true →
        JoinsRequest tables identity.userId profile requestId)) := by
    rintro viewable _ rfl
    obtain ⟨request, live, permitted⟩ := (Option.any_eq_true ..).mp viewable
    have own : request.companyId = identity.companyId := beq_iff_eq.mp (Bool.and_eq_true_iff.mp permitted).1
    rw [← bind_done (storeNewAttachment rules identity requestId file 1 none)]
    refine (storeNewAttachment_admitted_iff ?_).trans ?_
    · intro _ _ _ _ _ _ _
      trivial
    · exact imp_congr Iff.rfl (parentInsert_iff_joins caller live own)
  refine (admitted_plain (only_authorizeView rfl (fun _ => rfl) rfl) (checks_authorizeView rfl rfl rfl) storing).trans ?_
  rw [AttachmentStore.uploadReached, Bool.and_eq_true, and_imp]

section Existing

variable {α : Type} {attachmentId : UUID}

theorem existing_admitted_iff {next : AttachmentRecord → AttachmentProgram α} :
    (getExisting attachmentId >>= next).Admitted (attachmentPermitted tables identity.userId)
        (readAs tables identity.userId) state ↔
      ∀ existing, state.seen tables identity.userId attachmentId = some existing →
        (next existing).Admitted (attachmentPermitted tables identity.userId) (readAs tables identity.userId)
          state.tick := by
  refine (admitted_call ..).trans ((and_iff_right trivial).trans ?_)
  have reply : readAs tables identity.userId (.getAttachment attachmentId) state =
    ((state.seen tables identity.userId attachmentId).elim
      (.error (.database (.recordNotFound "attachments" attachmentId))) .ok, state.tick) := rfl
  rw [reply]
  cases state.seen tables identity.userId attachmentId with
  | none => exact iff_of_true trivial fun _ seen => nomatch seen
  | some existing =>
      constructor
      · rintro admitted _ ⟨⟩
        exact admitted
      · intro admitted
        exact admitted existing rfl

theorem parent_admitted_iff {next : RequestRecord → AttachmentProgram α} :
    (getParentRequest identity requestId >>= next).Admitted (attachmentPermitted tables identity.userId)
        (readAs tables identity.userId) state ↔
      ∀ request, (state.chance state.ticks).requests requestId = some request → request.companyId = identity.companyId →
        (next request).Admitted (attachmentPermitted tables identity.userId) (readAs tables identity.userId)
          (state.atTick (state.ticks + 1)) := by
  obtain ⟨result, reached, same⟩ := @reaches_getParentRequest (fun _ => false) identity state requestId rfl
  have plain : (getParentRequest identity requestId).Only (AttachmentCall.plain · = true) := only_getParentRequest rfl
  have ran := @run_plain identity.userId tables state _ _ _ _ plain reached
  rw [admitted_bind_iff (plain.mono fun _ => permitted_of_plain), ran]
  constructor
  · intro admitted request found own
    rw [found, Option.filter_some_pos (by simpa using own)] at same
    cases result with
    | error fault => cases same
    | ok record =>
        obtain rfl : record = request := Option.some.inj same
        exact admitted record rfl
  · rintro admitted request ⟨⟩
    obtain ⟨found, own⟩ := Option.filter_eq_some_iff.mp same.symm
    exact admitted request found (beq_iff_eq.mp own)

theorem mayUpdate_of_canRemove (caller : Caller tables identity profile) {existing : AttachmentRecord}
    {request : RequestRecord} (visible : tables.attachmentsSelect identity.userId existing = true)
    (live : tables.requests.find? existing.requestId = some request) (own : request.companyId = identity.companyId)
    (removes : canRemoveAttachment identity.role (existing.uploadedBy == identity.userId) (request.status == .pending) =
      true) (now : Datetime) (deletedBy : UUID) :
    tables.mayUpdateAttachment identity.userId existing ((softDeleteEdit now deletedBy).apply existing) = true := by
  have company : request.companyId = profile.companyId := own.trans caller.company.symm
  unfold canRemoveAttachment at removes
  by_cases administrator : identity.role = .admin
  · have moderate : tables.attachmentsModerateAdmin identity.userId existing = true :=
      (TenantTables.parentModerate_iff caller.found live).mpr ⟨caller.role.trans administrator, company⟩
    have moderated : tables.attachmentsModerateAdmin identity.userId ((softDeleteEdit now deletedBy).apply existing) = true :=
      moderate
    simp only [TenantTables.mayUpdateAttachment, visible, moderate, moderated, Bool.true_or, Bool.true_and]
    exact visible
  · rw [if_neg administrator, Bool.and_eq_true] at removes
    obtain ⟨uploader, pending⟩ := removes
    have mine : tables.attachmentsSoftDeleteUploader identity.userId existing = true := by
      rw [TenantTables.attachmentsSoftDeleteUploader, uploader, Bool.true_and]
      exact (TenantTables.parentExists_iff caller.found live).mpr
        ⟨TenantTables.requestsSelect_of_parentSelect caller.found live visible, company, pending⟩
    have uploaded : (((softDeleteEdit now deletedBy).apply existing).uploadedBy == identity.userId) = true := uploader
    simp only [TenantTables.mayUpdateAttachment, visible, mine, uploaded, Bool.or_true, Bool.true_and]
    exact visible

theorem removeAttachment_admitted (caller : Caller tables identity profile) (attachmentId : UUID) :
    (removeAttachment identity attachmentId).Admitted (attachmentPermitted tables identity.userId)
      (readAs tables identity.userId) (state.over tables) := by
  refine existing_admitted_iff.mpr ?_
  intro existing seen
  obtain ⟨found, visible⟩ := Option.filter_eq_some_iff.mp seen
  refine parent_admitted_iff.mpr ?_
  intro request live own
  refine (admitted_plain (only_authorizeRemoval rfl) (checks_removal rfl) ?_).mpr fun _ => trivial
  rintro permitted _ rfl
  have removes := (Bool.and_eq_true_iff.mp permitted).2
  refine iff_true_intro ((admitted_call ..).mpr ⟨trivial, (admitted_call ..).mpr ⟨?_, ?_⟩⟩)
  · intro row reached
    obtain rfl : row = existing := Option.some.inj (reached.symm.trans found)
    exact mayUpdate_of_canRemove caller visible live own removes _ _
  · cases (readAs tables identity.userId (.softDelete attachmentId identity.userId) _).1 with
    | error fault => cases fault <;> trivial
    | ok removed => exact (admitted_call ..).mpr ⟨trivial, trivial⟩

theorem find?_of_created {store after : AttachmentStore} {values : AttachmentValues} {created existing : AttachmentRecord}
    (inserted : store.createAttachment values = (.ok created, after))
    (found : store.attachments.find? attachmentId = some existing) :
    after.attachments.find? attachmentId = some existing := by
  unfold AttachmentStore.createAttachment at inserted
  split at inserted
  · cases inserted
  · rename_i unviolated
    have unused : (store.attachments.find? values.id).isNone = true :=
      (World.firstViolated_eq_none_iff _).mp unviolated ("unique", (store.attachments.find? values.id).isNone) (by simp)
    obtain rfl := (Prod.mk.inj inserted).2
    have apart : attachmentId ≠ Keyed.key (values.row store.now) := by
      rintro rfl
      have keyed : store.attachments.find? values.id = some existing := found
      rw [keyed] at unused
      cases unused
    exact (find?_place_other _ _ apart).trans found

/-- The new version is inserted for a caller who takes part in the request; the old one may be removed then. -/
theorem replacement_admitted_iff (caller : Caller tables identity profile) {existing : AttachmentRecord}
    {request : RequestRecord} (found : state.attachments.find? existing.id = some existing)
    (visible : tables.attachmentsSelect identity.userId existing = true)
    (live : tables.requests.find? existing.requestId = some request) (own : request.companyId = identity.companyId)
    (removes : canRemoveAttachment identity.role (existing.uploadedBy == identity.userId) (request.status == .pending) =
      true) :
    (storeNewAttachment rules identity existing.requestId file (existing.version + 1) (some existing.id) >>=
        fun created : AttachmentRecord => do
          let _ ← translating (perform (.softDelete existing.id identity.userId))
          return created).Admitted (attachmentPermitted tables identity.userId) (readAs tables identity.userId) state ↔
      (state.storable rules existing.requestId file 0 = true →
        JoinsRequest tables identity.userId profile existing.requestId) := by
  refine (storeNewAttachment_admitted_iff ?_).trans (imp_congr Iff.rfl (parentInsert_iff_joins caller live own))
  intro _ store after values created same inserted
  rw [← same] at found
  have kept := find?_of_created inserted found
  refine (admitted_call ..).mpr ⟨?_, ?_⟩
  · intro row reached
    obtain rfl : row = existing := Option.some.inj (reached.symm.trans kept)
    exact mayUpdate_of_canRemove caller visible live own removes _ _
  · cases (readAs tables identity.userId (.softDelete existing.id identity.userId) _).1 with
    | error fault => cases fault <;> trivial
    | ok removed => trivial

/-- Every statement of `replace_attachment` satisfies the policies unless it gets to the insert for a caller who takes no
part in the request. -/
theorem replaceAttachment_admitted_iff (caller : Caller tables identity profile) (attachmentId : UUID) :
    (replaceAttachment rules identity attachmentId file).Admitted (attachmentPermitted tables identity.userId)
        (readAs tables identity.userId) (state.over tables) ↔
      ((state.over tables).replaceReached identity tables rules attachmentId file = true →
        ∃ existing, (state.over tables).seen tables identity.userId attachmentId = some existing ∧
          JoinsRequest tables identity.userId profile existing.requestId) := by
  refine existing_admitted_iff.trans ?_
  unfold AttachmentStore.replaceReached
  cases seen : (state.over tables).seen tables identity.userId attachmentId with
  | none => exact iff_of_true (fun _ other => nomatch other) fun reached => nomatch reached
  | some existing =>
      obtain ⟨found, visible⟩ := Option.filter_eq_some_iff.mp seen
      have keyed : existing.id = attachmentId := ((find?_eq_some_iff ..).mp found).2
      have authorized : ∀ request, tables.requests.find? existing.requestId = some request →
          request.companyId = identity.companyId →
          ((authorizeRemoval identity existing request >>= fun _ =>
              storeNewAttachment rules identity existing.requestId file (existing.version + 1) (some existing.id) >>=
                fun created : AttachmentRecord => do
                  let _ ← translating (perform (.softDelete existing.id identity.userId))
                  return created).Admitted (attachmentPermitted tables identity.userId) (readAs tables identity.userId)
              ((state.over tables).atTick (state.ticks + 2)) ↔
            ((!(state.over tables).expiredAfter identity 2 && canRemoveAttachment identity.role
                (existing.uploadedBy == identity.userId) (request.status == .pending)) = true →
              ((state.over tables).storable rules existing.requestId file (2 + expiryCalls identity) = true →
                JoinsRequest tables identity.userId profile existing.requestId))) := by
        intro request live own
        refine admitted_plain (only_authorizeRemoval rfl) (checks_removal rfl) ?_
        rintro permitted _ rfl
        have removes := (Bool.and_eq_true_iff.mp permitted).2
        have stored : (((state.over tables).atTick (state.ticks + 2)).atTick
            (state.ticks + 2 + expiryCalls identity)).attachments.find? existing.id = some existing := keyed ▸ found
        have instant : state.ticks + 2 + expiryCalls identity = state.ticks + (2 + expiryCalls identity) :=
          Nat.add_assoc ..
        have drawn := congrArg (fun instant => (rules.complaint file).isNone && decide
          (rules.storagePath existing.requestId (state.chance instant).identifier file.fileName ∉ state.objects)) instant
        exact (replacement_admitted_iff caller stored visible live own removes).trans
          (imp_congr (iff_of_eq (congrArg (· = true) drawn)) Iff.rfl)
      have onward := @parent_admitted_iff identity tables existing.requestId (state.over tables).tick AttachmentRecord
      constructor
      · intro admitted reached
        rw [Option.any_some, Bool.and_eq_true] at reached
        obtain ⟨approved, storable⟩ := reached
        obtain ⟨request, live, checked⟩ := (Option.any_eq_true ..).mp approved
        obtain ⟨own, permitted⟩ := Bool.and_eq_true_iff.mp checked
        have company := beq_iff_eq.mp own
        have replacing := onward.mp (admitted existing rfl) request live company
        exact ⟨existing, rfl, (authorized request live company).mp replacing permitted storable⟩
      · rintro joined _ ⟨⟩
        refine onward.mpr ?_
        intro request live own
        refine (authorized request live own).mpr ?_
        intro permitted storable
        obtain ⟨_, ⟨⟩, joins⟩ := joined (by
          rw [Option.any_some, storable, Bool.and_true, Option.any_eq_true]
          exact ⟨request, live, Bool.and_eq_true_iff.mpr ⟨beq_iff_eq.mpr own, permitted⟩⟩)
        exact joins

end Existing

end Operations

end AutomationHub.Attachments
