import AutomationHub.Attachments.AttachmentWrites
import AutomationHub.Attachments.VersionChains
import AutomationHub.Foundation.Failures

/-!
Rows and stored objects over failing uploads, replacements and removals.

An object is stored before its row is inserted, and deleted before its row is.
-/

set_option autoImplicit false

namespace AutomationHub.Attachments

open Foundation Model Auth Database Program Table History

abbrev AttachmentFailures := Failures AttachmentCall.struck

/-- A call of the service, with the failures that strike its calls. -/
structure AttachmentAttempt where
  process : AttachmentProcess
  failures : AttachmentFailures

abbrev strikingHandler (failures : AttachmentFailures) : Handler attachmentSignature AttachmentStore :=
  failures.handler storeHandler AttachmentStore.tick

namespace AttachmentAttempt

def finish (rules : FileRules) (store : AttachmentStore) (attempt : AttachmentAttempt) :
    Except AttachmentFault Unit × AttachmentStore :=
  (attempt.process.program rules).run (strikingHandler attempt.failures) store

def next (rules : FileRules) (store : AttachmentStore) (attempt : AttachmentAttempt) : AttachmentStore :=
  (attempt.finish rules store).2

end AttachmentAttempt

namespace AttachmentStore

/-- Every live row refers to a stored object. -/
def LiveStored (store : AttachmentStore) : Prop :=
  ∀ row ∈ store.attachments.rows, row.deletedAt = none → row.storagePath ∈ store.objects

/-- No two rows have one path. -/
def PathsDistinct (store : AttachmentStore) : Prop :=
  ∀ row ∈ store.attachments.rows, ∀ other ∈ store.attachments.rows, row.storagePath = other.storagePath → row = other

/-- The constraints of the table. -/
def admits (store : AttachmentStore) (values : AttachmentValues) : Bool :=
  store.accepts values && (values.replacesAttachmentId.all fun older => (store.attachments.find? older).isSome) &&
    decide (0 < values.version)

end AttachmentStore

section Deposits

variable (failures : AttachmentFailures) (content : List UInt8) (store : AttachmentStore) (values : AttachmentValues)

def entry : AttachmentCall :=
  .recordEvent .attachmentUploaded values.uploadedBy values.requestId values.id values.fileName

def fresh : Bool := decide (values.storagePath ∉ store.objects)

/-- The object is stored. -/
def stores : Bool := fresh store values && failures.carriesOut (.upload values.storagePath)

/-- The content is scanned. -/
def scans : Bool := fresh store values && failures.answers (.upload values.storagePath) && failures.answers (.scan content)

/-- The row is inserted. -/
def inserts : Bool :=
  scans failures content store values && store.admits values && failures.carriesOut (.createAttachment values)

/-- The insert is answered with the row. -/
def creates : Bool :=
  scans failures content store values && store.admits values && failures.answers (.createAttachment values)

/-- The object is deleted because the insert failed. -/
def cleans : Bool :=
  scans failures content store values && !creates failures content store values &&
    failures.carriesOut (.removeObject values.storagePath)

/-- The row and its entry are written. -/
def completes : Bool := creates failures content store values && failures.answers (entry values)

/-- What storing a new attachment leaves of the objects and the rows. -/
structure Deposited (result : Except AttachmentFault AttachmentRecord) (final : AttachmentStore) : Prop where
  objects : ∀ path, path ∈ final.objects ↔
    (path ∈ store.objects ∨ stores failures store values = true ∧ path = values.storagePath) ∧
      ¬ (cleans failures content store values = true ∧ path = values.storagePath)
  unchanged : inserts failures content store values = false → final.attachments = store.attachments
  inserted : inserts failures content store values = true →
    ∃ now, final.attachments = store.attachments.place (values.row now)
  returns : result.toBool = completes failures content store values

end Deposits

/-- What is left once the attachment that the new one replaces, if any, has been deleted. -/
structure Superseded (failures : AttachmentFailures) (values : AttachmentValues)
    (stored : Except AttachmentFault AttachmentRecord) (middle : AttachmentStore)
    (result : Except AttachmentFault AttachmentRecord) (final : AttachmentStore) : Prop where
  objects : final.objects = middle.objects
  attachments : final.attachments = middle.attachments ∨
    stored.toBool = true ∧ ∃ older edit, final.attachments = middle.attachments.modify older edit ∧
      ∀ row, (edit.apply row).deletedAt ≠ none
  returns : result.toBool = (stored.toBool &&
    values.replacesAttachmentId.all fun older => failures.answers (.softDelete older values.uploadedBy))

/-- What the checks of an upload ask of its calls. -/
def viewAnswered (failures : AttachmentFailures) (identity : AuthenticatedIdentity) (requestId : UUID) : Bool :=
  failures.answers (.getRequest requestId) && (identity.role == .employee || failures.answers (.listStages requestId))

/-- What the checks of a removal ask of its calls. -/
def removalAnswered (failures : AttachmentFailures) (existing : AttachmentRecord) : Bool :=
  failures.answers (.getAttachment existing.id) && failures.answers (.getRequest existing.requestId)

/-- The values of the row that is inserted by an authorized caller: the id is drawn first. -/
def depositedValues (rules : FileRules) (identity : AuthenticatedIdentity) (requestId : UUID) (file : FileUpload)
    (version : Nat) (replacesAttachmentId : Option UUID) (store : AttachmentStore) : AttachmentValues :=
  let attachmentId := (store.chance store.ticks).identifier
  { id := attachmentId, requestId, uploadedBy := identity.userId, fileName := file.fileName,
    contentType := file.contentType, sizeBytes := file.content.length,
    storagePath := rules.storagePath requestId attachmentId file.fileName, checksumSha256 := rules.checksum file.content,
    version, replacesAttachmentId, scanStatus := (store.chance (store.ticks + 2)).scanStatus }

namespace AttachmentAttempt

variable (rules : FileRules) (store : AttachmentStore) (attempt : AttachmentAttempt)

/-- The content and the values of the attachment that the attempt stores, if its checks pass. -/
def deposit? : Option (List UInt8 × AttachmentValues) :=
  match attempt.process with
  | .upload identity requestId file =>
      if viewAnswered attempt.failures identity requestId && store.mayView identity requestId &&
          (rules.complaint file).isNone then
        some (file.content, depositedValues rules identity requestId file 1 none
          (store.atTick (store.ticks + viewCalls identity)))
      else none
  | .replace identity attachmentId file =>
      ((store.attachments.find? attachmentId).filter fun existing => removalAnswered attempt.failures existing &&
        store.mayRemove identity attachmentId && (rules.complaint file).isNone).map fun existing =>
          (file.content, depositedValues rules identity existing.requestId file (existing.version + 1) (some existing.id)
            (store.atTick (store.ticks + 2 + expiryCalls identity)))
  | .remove .. => none

/-- The row that the attempt removes, and its remover, if its checks pass. -/
def removal? : Option (AttachmentRecord × UUID) :=
  match attempt.process with
  | .remove identity attachmentId =>
      ((store.attachments.find? attachmentId).filter fun existing => removalAnswered attempt.failures existing &&
        store.mayRemove identity attachmentId).map fun existing => (existing, identity.userId)
  | _ => none

/-- The row is inserted although the insert fails, and its object is deleted. -/
def strands : Bool :=
  (attempt.deposit? rules store).any fun (content, values) =>
    inserts attempt.failures content store values && cleans attempt.failures content store values

/-- The object is stored, and the attempt fails where it does not delete it again. -/
def litters : Bool :=
  (attempt.deposit? rules store).any fun (content, values) =>
    stores attempt.failures store values && (!scans attempt.failures content store values ||
      creates attempt.failures content store values) && !(completes attempt.failures content store values &&
        values.replacesAttachmentId.all fun older => attempt.failures.answers (.softDelete older values.uploadedBy)) &&
      attempt.failures.answers (.removeObject values.storagePath)

/-- The object of a live row is deleted, and the row is not. -/
def bares : Bool :=
  (attempt.removal? store).any fun (existing, remover) =>
    existing.deletedAt.isNone && attempt.failures.carriesOut (.removeObject existing.storagePath) &&
      !(attempt.failures.answers (.removeObject existing.storagePath) &&
        attempt.failures.carriesOut (.softDelete existing.id remover))

def harmless : Bool := !attempt.strands rules store && !attempt.litters rules store && !attempt.bares store

/-- Every live row refers to a stored object, and an object that the attempt stored and failed is deleted again, unless its
deletion fails. -/
def Settles : Prop :=
  (attempt.next rules store).LiveStored ∧
    ((attempt.finish rules store).1.toBool = false → ∀ path ∈ (attempt.next rules store).objects, path ∉ store.objects →
      attempt.failures.answers (.removeObject path) = false)

end AttachmentAttempt

section Calls

variable {failures : AttachmentFailures} {content : List UInt8} {store : AttachmentStore} {values : AttachmentValues}
  {call : AttachmentCall} {path stored : String} {α : Type}

theorem striking_kept {β : Type} (part : AttachmentStore → β) (executed : part (storeHandler call store).2 = part store)
    (passed : part store.tick = part store) : part (strikingHandler failures call store).2 = part store :=
  Failures.handler_kept part executed passed

theorem striking_carried {β : Type} (part : AttachmentStore → β) (passed : part store.tick = part store) :
    part (strikingHandler failures call store).2 =
      if failures.carriesOut call then part (storeHandler call store).2 else part store :=
  Failures.handler_carried part passed

theorem striking_answered (answered : failures.answers call = true) :
    strikingHandler failures call store = storeHandler call store :=
  Failures.handler_of_answers answered

theorem striking_struck (failed : failures.answers call = false) :
    ∃ fault, call.struck fault = true ∧ (strikingHandler failures call store).1 = .error fault := by
  obtain ⟨fault, struck, replied⟩ := @Failures.handler_of_struck _ _ _ _ _ failures storeHandler AttachmentStore.tick call
    store failed
  exact ⟨fault, struck, congrArg Prod.fst replied⟩

theorem objects_upload : path ∈ (strikingHandler failures (.upload stored) store).2.objects ↔
    path ∈ store.objects ∨ failures.carriesOut (.upload stored) = true ∧ path = stored := by
  rw [striking_carried (·.objects) rfl]
  cases failures.carriesOut (.upload stored) with
  | false => simp
  | true =>
      simp only [storeHandler, AttachmentStore.execute, if_true, true_and]
      by_cases present : stored ∈ store.objects
      · rw [if_pos present]
        constructor
        · exact .inl
        · rintro (inside | rfl)
          · exact inside
          · exact present
      · rw [if_neg present]
        simp [AttachmentStore.tick]

theorem objects_removeObject : path ∈ (strikingHandler failures (.removeObject stored) store).2.objects ↔
    path ∈ store.objects ∧ ¬ (failures.carriesOut (.removeObject stored) = true ∧ path = stored) := by
  rw [striking_carried (·.objects) rfl]
  cases failures.carriesOut (.removeObject stored) with
  | false => simp
  | true => simp [storeHandler, AttachmentStore.execute, AttachmentStore.tick]

theorem createAttachment_admitted (admitted : store.admits values = true) :
    store.createAttachment values =
      (.ok (values.row store.now), { store with attachments := store.attachments.place (values.row store.now) }) := by
  simp only [AttachmentStore.admits, AttachmentStore.accepts, Bool.and_eq_true, decide_eq_true_eq] at admitted
  obtain ⟨⟨⟨⟨unused, unstored⟩, sized⟩, resolved⟩, counted⟩ := admitted
  unfold AttachmentStore.createAttachment World.firstViolated
  simp [unused, unstored, sized, resolved, counted]

theorem createAttachment_unadmitted (refused : store.admits values = false) :
    ∃ error, store.createAttachment values = (.error (.database error), store) := by
  unfold AttachmentStore.createAttachment
  split
  · exact ⟨_, rfl⟩
  · rename_i unviolated
    have held := (World.firstViolated_eq_none_iff _).mp unviolated
    simp only [List.mem_cons, List.not_mem_nil, or_false, forall_eq_or_imp, forall_eq] at held
    obtain ⟨unused, unstored, resolved, sized, counted⟩ := held
    simp [AttachmentStore.admits, AttachmentStore.accepts, unused, unstored, sized, resolved, counted] at refused

theorem attachments_create : (strikingHandler failures (.createAttachment values) store).2.attachments =
    if (store.admits values && failures.carriesOut (.createAttachment values)) = true then
      store.attachments.place (values.row store.now) else store.attachments := by
  rw [striking_carried (·.attachments) rfl]
  cases failures.carriesOut (.createAttachment values) with
  | false => simp
  | true =>
      simp only [storeHandler, AttachmentStore.execute, if_true, Bool.and_true]
      cases admitted : store.admits values with
      | true =>
          rw [createAttachment_admitted admitted]
          rfl
      | false =>
          obtain ⟨error, refused⟩ := createAttachment_unadmitted admitted
          rw [refused]
          rfl

theorem objects_create : (strikingHandler failures (.createAttachment values) store).2.objects = store.objects := by
  apply striking_kept (·.objects) _ rfl
  simp only [storeHandler, AttachmentStore.execute, AttachmentStore.createAttachment]
  split <;> rfl

/-- The reply to the insert: the row where it is admitted and the call is answered, else a failure of the database. -/
theorem reply_create :
    (∃ row, (strikingHandler failures (.createAttachment values) store).1 = .ok row ∧ row.id = values.id ∧
      (store.admits values && failures.answers (.createAttachment values)) = true) ∨
    ∃ error, (strikingHandler failures (.createAttachment values) store).1 = .error (.database error) ∧
      (store.admits values && failures.answers (.createAttachment values)) = false := by
  cases answered : failures.answers (.createAttachment values) with
  | false =>
      obtain ⟨fault, struck, replied⟩ := @striking_struck failures store _ answered
      right
      cases fault with
      | database error => exact ⟨error, replied, Bool.and_false _⟩
      | _ => cases struck
  | true =>
      rw [striking_answered answered]
      simp only [storeHandler, AttachmentStore.execute, Bool.and_true]
      cases admitted : store.admits values with
      | true =>
          left
          rw [createAttachment_admitted admitted]
          exact ⟨_, rfl, rfl, rfl⟩
      | false =>
          right
          obtain ⟨error, refused⟩ := createAttachment_unadmitted admitted
          rw [refused]
          exact ⟨error, rfl, rfl⟩

theorem striking_ticks : (strikingHandler failures call store).2.ticks = store.ticks + 1 ∧
    (strikingHandler failures call store).2.chance = store.chance := by
  have executed : (store.execute call).2.ticks = store.ticks ∧ (store.execute call).2.chance = store.chance := by
    cases call with
    | upload path =>
        simp only [AttachmentStore.execute]
        split <;> exact ⟨rfl, rfl⟩
    | createAttachment values =>
        simp only [AttachmentStore.execute, AttachmentStore.createAttachment]
        split <;> exact ⟨rfl, rfl⟩
    | softDelete attachmentId deletedBy =>
        simp only [AttachmentStore.execute, AttachmentStore.softDelete]
        split <;> exact ⟨rfl, rfl⟩
    | _ => exact ⟨rfl, rfl⟩
  rcases @Failures.handler_state _ _ _ _ _ failures storeHandler AttachmentStore.tick call store with same | same
  · rw [strikingHandler, same]
    exact ⟨congrArg (· + 1) executed.1, executed.2⟩
  · rw [strikingHandler, same]
    exact ⟨rfl, rfl⟩

end Calls

section Programs

variable {failures : AttachmentFailures} {content : List UInt8} {store : AttachmentStore} {values : AttachmentValues}
  {call : AttachmentCall} {α : Type}

theorem ensures_performed {post : Except AttachmentFault call.Result → AttachmentStore → Prop} :
    (perform call).Ensures (.ofHandler (strikingHandler failures)) post store ↔
      post (strikingHandler failures call store).1 (strikingHandler failures call store).2 :=
  ensures_fallible_ofHandler (fun reply => by cases reply <;> rfl) post

/-- A handler that raises another fault, for a condition that does not tell faults apart. -/
theorem ensures_reraised {program : AttachmentProgram α} {handle : AttachmentFault → AttachmentProgram α}
    (reraises : ∀ fault, ∃ other, handle fault = .raised other) {post : Except AttachmentFault α → AttachmentStore → Prop}
    (blind : ∀ fault other final, post (.error fault) final → post (.error other) final)
    (ensured : program.Ensures (.ofHandler (strikingHandler failures)) post store) :
    (tryCatch program handle).Ensures (.ofHandler (strikingHandler failures)) post store := by
  apply (ensures_tryCatch ..).mpr
  apply ensured.mono
  intro result final held
  cases result with
  | ok value => exact held
  | error fault =>
      obtain ⟨other, raised⟩ := reraises fault
      rw [Caught, raised]
      exact blind fault other final held

theorem ensures_translating_blind {program : AttachmentProgram α}
    {post : Except AttachmentFault α → AttachmentStore → Prop}
    (blind : ∀ fault other final, post (.error fault) final → post (.error other) final)
    (ensured : program.Ensures (.ofHandler (strikingHandler failures)) post store) :
    (translating program).Ensures (.ofHandler (strikingHandler failures)) post store :=
  ensures_reraised (fun fault => by cases fault <;> exact ⟨_, rfl⟩) blind ensured

theorem ensures_translatingStorage_blind {program : AttachmentProgram α}
    {post : Except AttachmentFault α → AttachmentStore → Prop}
    (blind : ∀ fault other final, post (.error fault) final → post (.error other) final)
    (ensured : program.Ensures (.ofHandler (strikingHandler failures)) post store) :
    (translatingStorage program).Ensures (.ofHandler (strikingHandler failures)) post store :=
  ensures_reraised (fun fault => by cases fault <;> exact ⟨_, rfl⟩) blind ensured

theorem deposited_blind (fault other : AttachmentFault) (final : AttachmentStore)
    (held : Deposited failures content store values (.error fault) final) :
    Deposited failures content store values (.error other) final :=
  ⟨held.objects, held.unchanged, held.inserted, held.returns⟩

theorem admits_congr {other : AttachmentStore} (attachments : other.attachments = store.attachments) :
    other.admits values = store.admits values := by
  simp only [AttachmentStore.admits, AttachmentStore.accepts, attachments]

theorem ensures_cleanup {path : String} {post : Except AttachmentFault Unit → AttachmentStore → Prop}
    (held : post (.ok ()) (strikingHandler failures (.removeObject path) store).2) :
    (cleanupOrphanedStorageObject path).Ensures (.ofHandler (strikingHandler failures)) post store := by
  apply (ensures_tryCatch ..).mpr
  apply ensures_performed.mpr
  cases answered : failures.answers (.removeObject path) with
  | true =>
      have reply : (strikingHandler failures (.removeObject path) store).1 = .ok () :=
        congrArg Prod.fst (striking_answered answered)
      rw [reply]
      exact held
  | false =>
      obtain ⟨fault, struck, reply⟩ := @striking_struck failures store _ answered
      rw [reply]
      cases fault with
      | storage message => exact held
      | _ => cases struck

theorem deposited_unscanned {final : AttachmentStore} (unscanned : scans failures content store values = false)
    (objects : ∀ path, path ∈ final.objects ↔
      path ∈ store.objects ∨ stores failures store values = true ∧ path = values.storagePath)
    (attachments : final.attachments = store.attachments) (fault : AttachmentFault) :
    Deposited failures content store values (.error fault) final := by
  constructor
  · intro path
    rw [objects path, cleans, unscanned]
    simp
  · intro _
    exact attachments
  · intro written
    rw [inserts, unscanned] at written
    cases written
  · rw [completes, creates, unscanned]
    rfl

/-- The insert of the row of a stored and scanned object, the clean-up if it fails, and the entry. -/
theorem deposited_inserting {identity : AuthenticatedIdentity} {file : FileUpload} {scanned : AttachmentStore}
    (scanning : scans failures content store values = true)
    (objects : ∀ path, path ∈ scanned.objects ↔
      path ∈ store.objects ∨ stores failures store values = true ∧ path = values.storagePath)
    (attachments : scanned.attachments = store.attachments) (uploader : identity.userId = values.uploadedBy)
    (named : file.fileName = values.fileName) :
    ((tryCatch (perform (.createAttachment values)) fun
        | .database error => do
            cleanupOrphanedStorageObject values.storagePath
            .raised (.app (translateDatabaseError error))
        | fault => .raised fault) >>= fun created : AttachmentRecord => do
          translating (perform (.recordEvent .attachmentUploaded identity.userId values.requestId created.id file.fileName))
          return created : AttachmentProgram AttachmentRecord).Ensures (.ofHandler (strikingHandler failures))
      (Deposited failures content store values) scanned := by
  have rows : (strikingHandler failures (.createAttachment values) scanned).2.attachments =
      if inserts failures content store values = true then store.attachments.place (values.row scanned.now)
      else store.attachments := by
    rw [attachments_create, inserts, scanning, Bool.true_and, admits_congr attachments, attachments]
  have kept : (strikingHandler failures (.createAttachment values) scanned).2.objects = scanned.objects := objects_create
  apply (ensures_bind ..).mpr
  apply (ensures_tryCatch ..).mpr
  apply ensures_performed.mpr
  rcases @reply_create failures scanned values with ⟨row, reply, same, created⟩ | ⟨error, reply, uncreated⟩
  · rw [reply]
    generalize (strikingHandler failures (.createAttachment values) scanned).2 = inserted at rows kept
    have created : creates failures content store values = true := by
      rwa [creates, scanning, Bool.true_and, ← admits_congr attachments]
    have uncleaned : cleans failures content store values = false := by
      rw [cleans, created, scanning]
      rfl
    have ends : ∀ result : Except AttachmentFault AttachmentRecord, result.toBool = failures.answers (entry values) →
        Deposited failures content store values result (strikingHandler failures (entry values) inserted).2 := by
      intro result returned
      have objectsKept : (strikingHandler failures (entry values) inserted).2.objects = inserted.objects :=
        striking_kept (·.objects) rfl rfl
      have rowsKept : (strikingHandler failures (entry values) inserted).2.attachments = inserted.attachments :=
        striking_kept (·.attachments) rfl rfl
      constructor
      · intro path
        rw [objectsKept, kept, objects path, uncleaned]
        simp
      · intro unwritten
        rw [rowsKept, rows, unwritten]
        rfl
      · intro written
        exact ⟨scanned.now, by rw [rowsKept, rows, written, if_pos rfl]⟩
      · rw [returned, completes, created, Bool.true_and]
    apply (ensures_bind ..).mpr
    rw [uploader, same, named]
    apply ensures_translating_blind
    · exact fun fault other final => deposited_blind fault other final
    apply (@ensures_performed failures inserted (entry values) _).mpr
    cases answered : failures.answers (entry values) with
    | true =>
        have reply : (strikingHandler failures (entry values) inserted).1 = .ok () :=
          congrArg Prod.fst (striking_answered answered)
        rw [reply]
        exact ends _ answered.symm
    | false =>
        obtain ⟨fault, -, reply⟩ := @striking_struck failures inserted _ answered
        rw [reply]
        exact ends _ answered.symm
  · rw [reply]
    generalize (strikingHandler failures (.createAttachment values) scanned).2 = refused at rows kept
    have uncreated : creates failures content store values = false := by
      rwa [creates, scanning, Bool.true_and, ← admits_congr attachments]
    have cleaning : cleans failures content store values = failures.carriesOut (.removeObject values.storagePath) := by
      rw [cleans, scanning, uncreated]
      rfl
    have rowsKept : (strikingHandler failures (.removeObject values.storagePath) refused).2.attachments =
        refused.attachments :=
      striking_kept (·.attachments) rfl rfl
    apply (ensures_bind ..).mpr
    apply ensures_cleanup
    constructor
    · intro path
      rw [objects_removeObject, kept, objects path, cleaning]
    · intro unwritten
      rw [rowsKept, rows, unwritten]
      rfl
    · intro written
      exact ⟨scanned.now, by rw [rowsKept, rows, written, if_pos rfl]⟩
    · rw [completes, uncreated]
      rfl

theorem deposited_storing {rules : FileRules} {identity : AuthenticatedIdentity} {requestId : UUID} {file : FileUpload}
    (uncomplained : rules.complaint file = none) (version : Nat) (replaced : Option UUID) :
    (storeNewAttachment rules identity requestId file version replaced).Ensures (.ofHandler (strikingHandler failures))
      (Deposited failures file.content store (depositedValues rules identity requestId file version replaced store))
      store := by
  have drawn : failures.answers .uuid4 = true := Failures.answers_of_unstruck fun fault => by cases fault <;> rfl
  unfold storeNewAttachment
  rw [uncomplained]
  apply (ensures_bind ..).mpr
  apply ensures_performed.mpr
  rw [striking_answered drawn]
  generalize isValues : depositedValues rules identity requestId file version replaced store = values
  have path : rules.storagePath requestId (store.chance store.ticks).identifier file.fileName = values.storagePath := by
    rw [← isValues]
    rfl
  change Ensures _ (translatingStorage (perform (.upload (rules.storagePath requestId
    (store.chance store.ticks).identifier file.fileName))) >>= _) _ store.tick
  rw [path]
  have objects : ∀ path, path ∈ (strikingHandler failures (.upload values.storagePath) store.tick).2.objects ↔
      path ∈ store.objects ∨ stores failures store values = true ∧ path = values.storagePath := by
    intro path
    rw [objects_upload, stores, fresh]
    by_cases present : values.storagePath ∈ store.objects
    · simp only [AttachmentStore.tick, present, not_true_eq_false, decide_false, Bool.false_and, Bool.false_eq_true,
        false_and, or_false, or_iff_left_iff_imp]
      rintro ⟨-, rfl⟩
      exact present
    · simp [AttachmentStore.tick, present]
  have attachments : (strikingHandler failures (.upload values.storagePath) store.tick).2.attachments =
      store.attachments := by
    apply striking_kept (·.attachments) _ rfl
    simp only [storeHandler, AttachmentStore.execute]
    split <;> rfl
  obtain ⟨ticks, chance⟩ := @striking_ticks failures store.tick (.upload values.storagePath)
  apply (ensures_bind ..).mpr
  apply ensures_translatingStorage_blind
  · exact fun fault other final => deposited_blind fault other final
  apply ensures_performed.mpr
  cases answered : failures.answers (.upload values.storagePath) with
  | false =>
      obtain ⟨fault, -, reply⟩ := @striking_struck failures store.tick _ answered
      rw [reply]
      apply deposited_unscanned _ objects attachments
      rw [scans, answered, Bool.and_false, Bool.false_and]
  | true =>
      have reply : (strikingHandler failures (.upload values.storagePath) store.tick).1 =
          (store.tick.execute (.upload values.storagePath)).1 := by
        rw [striking_answered answered]
        rfl
      rw [reply]
      generalize (strikingHandler failures (.upload values.storagePath) store.tick).2 = uploaded
        at objects attachments ticks chance ⊢
      by_cases present : values.storagePath ∈ store.objects
      · have refused : store.tick.execute (.upload values.storagePath) = _ := if_pos present
        rw [refused]
        apply deposited_unscanned _ objects attachments
        simp [scans, fresh, present]
      · have executed : store.tick.execute (.upload values.storagePath) = _ := if_neg present
        rw [executed]
        have scanObjects : (strikingHandler failures (.scan file.content) uploaded).2.objects = uploaded.objects :=
          striking_kept (·.objects) rfl rfl
        have scanAttachments : (strikingHandler failures (.scan file.content) uploaded).2.attachments =
            uploaded.attachments :=
          striking_kept (·.attachments) rfl rfl
        rw [← scanObjects] at objects
        rw [← scanAttachments] at attachments
        apply (ensures_bind ..).mpr
        apply ensures_performed.mpr
        cases scanned : failures.answers (.scan file.content) with
        | false =>
            obtain ⟨fault, -, reply⟩ := @striking_struck failures uploaded _ scanned
            rw [reply]
            apply deposited_unscanned _ objects attachments
            rw [scans, scanned, Bool.and_false]
        | true =>
            have reply : (strikingHandler failures (.scan file.content) uploaded).1 =
                .ok (uploaded.chance uploaded.ticks).scanStatus :=
              congrArg Prod.fst (striking_answered scanned)
            rw [reply, chance, ticks]
            have scanning : scans failures file.content store values = true := by
              simp [scans, fresh, present, answered, scanned]
            subst isValues
            exact deposited_inserting scanning objects attachments rfl rfl

end Programs

section Checks

variable {failures : AttachmentFailures} {identity : AuthenticatedIdentity} {requestId : UUID} {store : AttachmentStore}
  {call : AttachmentCall} {α : Type}

/-- A call that leaves the store as it is. -/
def Reading (call : AttachmentCall) : Prop := ∀ store : AttachmentStore, (storeHandler call store).2 = store.tick

/-- The rows and the objects are as they were. -/
def Untouched (store final : AttachmentStore) : Prop :=
  final.attachments = store.attachments ∧ final.objects = store.objects

theorem untouched_of_reading {program : AttachmentProgram α} (only : program.Only Reading) :
    Untouched store (program.run (strikingHandler failures) store).2 := by
  apply only.run (Untouched store) _ ⟨rfl, rfl⟩
  intro state request held reading
  have next : (strikingHandler failures request state).2 = state.tick := by
    rcases @Failures.handler_state _ _ _ _ _ failures storeHandler AttachmentStore.tick request state with same | same
    · exact same.trans (reading state)
    · exact same
  rw [next]
  exact held

theorem answered_utcNow : failures.answers .utcNow = true :=
  Failures.answers_of_unstruck fun fault => by cases fault <;> rfl

theorem run_answered {program : AttachmentProgram α} (only : program.Only fun call => failures.answers call = true) :
    program.run (strikingHandler failures) store = program.run storeHandler store :=
  Only.run_agree (only.mono fun _ answered _ => striking_answered answered) store

theorem fails_of_struck {β : Type} {check : AttachmentProgram call.Result} {next : call.Result → AttachmentProgram β}
    (checking : check = perform call ∨ check = translatingNotFound (perform call))
    (struck : failures.answers call = false) :
    (check >>= next).Ensures (.ofHandler (strikingHandler failures)) (fun result _ => result.toBool = false) store := by
  obtain ⟨fault, -, reply⟩ := @striking_struck failures store _ struck
  have performed : (perform call).Ensures (.ofHandler (strikingHandler failures))
      (Then (.ofHandler (strikingHandler failures)) next fun result _ => result.toBool = false) store := by
    apply ensures_performed.mpr
    rw [reply]
    rfl
  apply (ensures_bind ..).mpr
  rcases checking with rfl | rfl
  · exact performed
  · apply ensures_reraised _ _ performed
    · intro fault
      rcases fault with error | _ | _ | _ | _
      · cases error <;> exact ⟨_, rfl⟩
      all_goals exact ⟨_, rfl⟩
    · exact fun _ _ _ _ => rfl

theorem fails_behind {β : Type} {check : AttachmentProgram α} {next : α → AttachmentProgram β}
    (behind : ∀ value store,
      (next value).Ensures (.ofHandler (strikingHandler failures)) (fun result _ => result.toBool = false) store) :
    (check >>= next).Ensures (.ofHandler (strikingHandler failures)) (fun result _ => result.toBool = false) store := by
  have anything : check.Ensures (.ofHandler (strikingHandler failures)) (fun _ _ => True) store :=
    (ensures_ofHandler ..).mpr trivial
  apply (ensures_bind ..).mpr
  apply anything.mono
  intro result final _
  cases result with
  | ok value => exact behind value final
  | error fault => rfl

theorem fails_authorizeView (unanswered : viewAnswered failures identity requestId = false) :
    (authorizeView identity requestId).Ensures (.ofHandler (strikingHandler failures))
      (fun result _ => result.toBool = false) store := by
  unfold authorizeView
  cases fetched : failures.answers (.getRequest requestId) with
  | false =>
      unfold getParentRequest
      rw [bind_assoc]
      exact fails_of_struck (.inr rfl) fetched
  | true =>
      rw [viewAnswered, fetched, Bool.true_and, Bool.or_eq_false_iff] at unanswered
      apply fails_behind
      intro request store
      unfold isAssignedToAnyStage
      rw [if_neg (beq_eq_false_iff_ne.mp unanswered.1), bind_assoc]
      exact fails_of_struck (.inl rfl) unanswered.2

theorem run_authorizeView : ∃ result final,
    (authorizeView identity requestId).run (strikingHandler failures) store = (result, final) ∧
      result.toBool = (viewAnswered failures identity requestId && store.mayView identity requestId) ∧
        Untouched store final ∧ (result.toBool = true → final = store.atTick (store.ticks + viewCalls identity)) := by
  have reading : (authorizeView identity requestId).Only Reading :=
    only_authorizeView (fun _ => rfl) (fun _ _ => rfl) fun _ => rfl
  have untouched := @untouched_of_reading failures store Unit _ reading
  cases answered : viewAnswered failures identity requestId with
  | true =>
      obtain ⟨fetched, listed⟩ := Bool.and_eq_true_iff.mp answered
      have only : (authorizeView identity requestId).Only fun call => failures.answers call = true := by
        apply only_authorizeView fetched _ answered_utcNow
        intro other
        exact ((Bool.or_eq_true _ _).mp listed).resolve_left fun employee => other (beq_iff_eq.mp employee)
      obtain ⟨result, final, reaches, same, ticks⟩ :=
        @checks_authorizeView AttachmentCall.discards identity store requestId rfl rfl rfl
      rw [run_answered only, reaches.run] at untouched ⊢
      refine ⟨result, final, rfl, same, untouched, ?_⟩
      intro passed
      exact ticks (same.symm.trans passed)
  | false =>
      have fails := (ensures_ofHandler ..).mp (@fails_authorizeView failures identity requestId store answered)
      refine ⟨_, _, rfl, fails, untouched, ?_⟩
      intro passed
      exact absurd (fails.symm.trans passed) Bool.false_ne_true

/-- The checks of a replacement or a removal. -/
def checkRemoval (identity : AuthenticatedIdentity) (attachmentId : UUID) : AttachmentProgram AttachmentRecord := do
  let existing ← getExisting attachmentId
  let request ← getParentRequest identity existing.requestId
  authorizeRemoval identity existing request
  return existing

theorem only_getExisting {allowed : AttachmentCall → Prop} {attachmentId : UUID} (fetched : allowed (.getAttachment attachmentId)) :
    (getExisting attachmentId).Only allowed := only_translatingNotFound fetched

theorem toOption_of_failed {result : Except AttachmentFault α} (failed : result.toBool = false) : result.toOption = none := by
  cases result with
  | ok value => cases failed
  | error fault => rfl

theorem fails_checkRemoval {attachmentId : UUID}
    (unanswered : ∀ existing, store.attachments.find? attachmentId = some existing →
      removalAnswered failures existing = false) :
    (checkRemoval identity attachmentId).Ensures (.ofHandler (strikingHandler failures))
      (fun result _ => result.toBool = false) store := by
  unfold checkRemoval
  cases answered : failures.answers (.getAttachment attachmentId) with
  | false => exact fails_of_struck (.inr rfl) answered
  | true =>
      apply (ensures_bind ..).mpr
      have reads := @reaches_getExisting AttachmentCall.discards store attachmentId rfl
      have ran := (run_answered (only_getExisting answered)).trans reads.run
      apply (ensures_ofHandler ..).mpr
      rw [ran]
      cases found : store.attachments.find? attachmentId with
      | none => rfl
      | some existing =>
          have struck := unanswered existing found
          have same : existing.id = attachmentId := ((find?_eq_some_iff ..).mp found).2
          rw [removalAnswered, same, answered, Bool.true_and] at struck
          change Ensures _ (getParentRequest identity existing.requestId >>= _) _ _
          unfold getParentRequest
          rw [bind_assoc]
          exact fails_of_struck (.inr rfl) struck

theorem reaches_checks {attachmentId : UUID} {existing : AttachmentRecord}
    (found : store.attachments.find? attachmentId = some existing) : ∃ result final,
    (getParentRequest identity existing.requestId >>= fun request => do
        authorizeRemoval identity existing request
        return existing : AttachmentProgram AttachmentRecord).Reaches (attachmentRule AttachmentCall.discards) storeHandler
        (store.atTick (store.ticks + 1)) result final ∧
      result.toOption = (if store.mayRemove identity attachmentId then some existing else none) ∧
      (result.toBool = true → final = store.atTick (store.ticks + 2 + expiryCalls identity)) := by
  obtain ⟨fetched, reads, same⟩ := @reaches_getParentRequest AttachmentCall.discards identity
    (store.atTick (store.ticks + 1)) existing.requestId rfl
  rw [mayRemove_found found same]
  cases fetched with
  | error fault =>
      refine ⟨_, _, reads.bind_error, rfl, ?_⟩
      intro passed
      cases passed
  | ok request =>
      obtain ⟨checked, after, reached, permitted, later⟩ := @checks_removal identity
        (store.atTick (store.ticks + 1 + 1)) AttachmentCall.discards rfl existing request
      have asked : (Except.ok request : Except AttachmentFault RequestRecord).toOption.any (fun request =>
          !store.expiredAfter identity 2 && canRemoveAttachment identity.role (existing.uploadedBy == identity.userId)
            (request.status == .pending)) = checked.toBool := permitted.symm
      rw [asked]
      cases checked with
      | error fault =>
          refine ⟨_, _, reads.bind reached.bind_error, rfl, ?_⟩
          intro passed
          cases passed
      | ok _ =>
          refine ⟨_, _, reads.bind (reached.bind (reaches_done existing)), rfl, ?_⟩
          intro _
          exact later permitted.symm

theorem run_checkRemoval (attachmentId : UUID) : ∃ result final,
    (checkRemoval identity attachmentId).run (strikingHandler failures) store = (result, final) ∧
      result.toOption = ((store.attachments.find? attachmentId).filter fun existing =>
        removalAnswered failures existing && store.mayRemove identity attachmentId) ∧
      Untouched store final ∧ (result.toBool = true → final = store.atTick (store.ticks + 2 + expiryCalls identity)) := by
  have reading : (checkRemoval identity attachmentId).Only Reading := by
    apply (only_getExisting fun _ => rfl).bind
    intro existing
    apply (only_getParentRequest fun _ => rfl).bind
    intro request
    exact (only_authorizeRemoval fun _ => rfl).bind fun _ => trivial
  have untouched := @untouched_of_reading failures store _ _ reading
  by_cases answered : ∃ existing, store.attachments.find? attachmentId = some existing ∧
      removalAnswered failures existing = true
  · obtain ⟨existing, found, answered⟩ := answered
    have same : existing.id = attachmentId := ((find?_eq_some_iff ..).mp found).2
    obtain ⟨fetched, requested⟩ := Bool.and_eq_true_iff.mp answered
    rw [same] at fetched
    obtain ⟨result, final, reached, passed, ticks⟩ := @reaches_checks identity store attachmentId existing found
    have reads := @reaches_getExisting AttachmentCall.discards store attachmentId rfl
    rw [found] at reads
    have first := (run_answered (only_getExisting fetched)).trans reads.run
    have only : (getParentRequest identity existing.requestId >>= fun request => do
        authorizeRemoval identity existing request
        return existing : AttachmentProgram AttachmentRecord).Only fun call => failures.answers call = true :=
      (only_getParentRequest requested).bind fun _ => (only_authorizeRemoval answered_utcNow).bind fun _ => trivial
    have ran : (checkRemoval identity attachmentId).run (strikingHandler failures) store = (result, final) := by
      rw [checkRemoval, run_bind, first]
      exact (run_answered only).trans reached.run
    rw [ran] at untouched
    refine ⟨result, final, ran, ?_, untouched, ticks⟩
    rw [passed, found, Option.filter_some, answered, Bool.true_and]
  · have fails := (ensures_ofHandler ..).mp (@fails_checkRemoval failures identity store attachmentId (by
      intro existing found
      by_contra struck
      exact answered ⟨existing, found, (Bool.not_eq_false _).mp struck⟩))
    have nothing : ((store.attachments.find? attachmentId).filter fun existing =>
        removalAnswered failures existing && store.mayRemove identity attachmentId) = none := by
      rw [Option.filter_eq_none_iff]
      intro existing found passed
      exact answered ⟨existing, found, (Bool.and_eq_true_iff.mp passed).1⟩
    refine ⟨_, _, rfl, ?_, untouched, ?_⟩
    · exact (toOption_of_failed fails).trans nothing.symm
    · intro passed
      exact absurd (fails.symm.trans passed) Bool.false_ne_true

end Checks

section Processes

variable {failures : AttachmentFailures} {content : List UInt8} {store : AttachmentStore} {values : AttachmentValues}
  {rules : FileRules} {identity : AuthenticatedIdentity}

theorem deposited_later {ticks : Nat} {result : Except AttachmentFault AttachmentRecord} {final : AttachmentStore}
    (held : Deposited failures content (store.atTick ticks) values result final) :
    Deposited failures content store values result final :=
  ⟨held.objects, held.unchanged, held.inserted, held.returns⟩

/-- Nothing is stored behind checks that do not pass. -/
def Refused {α : Type} (store : AttachmentStore) (result : Except AttachmentFault α) (final : AttachmentStore) : Prop :=
  result.toBool = false ∧ Untouched store final

/-- How an upload or a replacement ends. -/
def DepositEnds (failures : AttachmentFailures) (store : AttachmentStore) (deposit? : Option (List UInt8 × AttachmentValues))
    (result : Except AttachmentFault AttachmentRecord) (final : AttachmentStore) : Prop :=
  match deposit? with
  | some (content, values) => ∃ stored middle, Deposited failures content store values stored middle ∧
      Superseded failures values stored middle result final
  | none => Refused store result final

theorem depositEnds_blind {deposit? : Option (List UInt8 × AttachmentValues)} (fault other : AttachmentFault)
    (final : AttachmentStore) (held : DepositEnds failures store deposit? (.error fault) final) :
    DepositEnds failures store deposit? (.error other) final := by
  cases deposit? with
  | none => exact held
  | some deposit =>
      obtain ⟨stored, middle, deposited, superseded⟩ := held
      exact ⟨stored, middle, deposited, superseded.objects, superseded.attachments, superseded.returns⟩

theorem depositEnds_behind {β : Type} {next : β → AttachmentProgram AttachmentRecord}
    {deposit? : Option (List UInt8 × AttachmentValues)} (fault other : AttachmentFault) (final : AttachmentStore)
    (held : Then (.ofHandler (strikingHandler failures)) next (DepositEnds failures store deposit?) (.error fault) final) :
    Then (.ofHandler (strikingHandler failures)) next (DepositEnds failures store deposit?) (.error other) final :=
  depositEnds_blind fault other final held

theorem upload_ends (requestId : UUID) (file : FileUpload) :
    (uploadAttachment rules identity requestId file).Ensures (.ofHandler (strikingHandler failures))
      (DepositEnds failures store
        ((AttachmentAttempt.mk (.upload identity requestId file) failures).deposit? rules store)) store := by
  obtain ⟨result, final, ran, passed, untouched, ticks⟩ := @run_authorizeView failures identity requestId store
  unfold uploadAttachment
  apply (ensures_bind ..).mpr
  apply (ensures_ofHandler ..).mpr
  rw [ran]
  simp only [AttachmentAttempt.deposit?, ← passed]
  cases result with
  | error fault => exact ⟨rfl, untouched⟩
  | ok _ =>
      cases complaint : rules.complaint file with
      | some message =>
          change Ensures _ (storeNewAttachment ..) _ final
          unfold storeNewAttachment
          rw [complaint]
          exact ⟨rfl, untouched⟩
      | none =>
          rw [ticks rfl]
          apply (deposited_storing complaint 1 none).mono
          intro result final held
          exact ⟨result, final, deposited_later held, rfl, .inl rfl, (Bool.and_true _).symm⟩

theorem reply_softDelete {attachmentId deletedBy : UUID}
    (found : (store.attachments.find? attachmentId).isSome = true) :
    (strikingHandler failures (.softDelete attachmentId deletedBy) store).1.toBool =
      failures.answers (.softDelete attachmentId deletedBy) := by
  cases answered : failures.answers (.softDelete attachmentId deletedBy) with
  | false =>
      obtain ⟨fault, -, reply⟩ := @striking_struck failures store _ answered
      rw [reply]
      rfl
  | true =>
      obtain ⟨row, search⟩ := Option.isSome_iff_exists.mp found
      rw [striking_answered answered, storeHandler, softDelete_found search]
      rfl

theorem objects_softDelete {attachmentId deletedBy : UUID} :
    (strikingHandler failures (.softDelete attachmentId deletedBy) store).2.objects = store.objects := by
  apply striking_kept (·.objects) _ rfl
  simp only [storeHandler, AttachmentStore.execute, AttachmentStore.softDelete]
  split <;> rfl

theorem attachments_softDelete {attachmentId deletedBy : UUID}
    (found : (store.attachments.find? attachmentId).isSome = true) :
    (strikingHandler failures (.softDelete attachmentId deletedBy) store).2.attachments =
      if failures.carriesOut (.softDelete attachmentId deletedBy) = true then
        store.attachments.modify attachmentId (softDeleteEdit store.now deletedBy)
      else store.attachments := by
  obtain ⟨row, search⟩ := Option.isSome_iff_exists.mp found
  rw [striking_carried (·.attachments) rfl, storeHandler, softDelete_found search]
  rfl

theorem replaced_found {stored : Except AttachmentFault AttachmentRecord} {middle : AttachmentStore} {older : UUID}
    (deposited : Deposited failures content store values stored middle) (succeeded : stored.toBool = true)
    (replaces : values.replacesAttachmentId = some older) : (middle.attachments.find? older).isSome = true := by
  have created : creates failures content store values = true := by
    have completed := deposited.returns.symm.trans succeeded
    exact (Bool.and_eq_true_iff.mp completed).1
  simp only [creates, Bool.and_eq_true] at created
  obtain ⟨⟨scanned, admitted⟩, answered⟩ := created
  have written : inserts failures content store values = true := by
    rw [inserts, scanned, admitted, Failures.carriesOut_of_answers answered]
    rfl
  obtain ⟨now, placed⟩ := deposited.inserted written
  simp only [AttachmentStore.admits, replaces, Bool.and_eq_true, Option.all_some] at admitted
  rw [placed]
  by_cases same : older = Keyed.key (values.row now)
  · rw [same, find?_place]
    rfl
  · rw [find?_place_other _ _ same]
    exact admitted.1.2

theorem replace_ends (attachmentId : UUID) (file : FileUpload) :
    (replaceAttachment rules identity attachmentId file).Ensures (.ofHandler (strikingHandler failures))
      (DepositEnds failures store
        ((AttachmentAttempt.mk (.replace identity attachmentId file) failures).deposit? rules store)) store := by
  have checked : replaceAttachment rules identity attachmentId file =
      (checkRemoval identity attachmentId >>= fun existing => do
        let created ← storeNewAttachment rules identity existing.requestId file (existing.version + 1) (some existing.id)
        let _ ← translating (perform (.softDelete existing.id identity.userId))
        return created) := by
    simp only [replaceAttachment, checkRemoval, bind_assoc, pure_eq, done_bind]
  obtain ⟨result, final, ran, passed, untouched, ticks⟩ := @run_checkRemoval failures identity store attachmentId
  have deposit : (AttachmentAttempt.mk (.replace identity attachmentId file) failures).deposit? rules store =
      (result.toOption.filter fun _ => (rules.complaint file).isNone).map fun existing =>
        (file.content, depositedValues rules identity existing.requestId file (existing.version + 1) (some existing.id)
          (store.atTick (store.ticks + 2 + expiryCalls identity))) := by
    rw [passed, Option.filter_filter]
    rfl
  rw [checked, deposit]
  apply (ensures_bind ..).mpr
  apply (ensures_ofHandler ..).mpr
  rw [ran]
  cases result with
  | error fault => exact ⟨rfl, untouched⟩
  | ok existing =>
      cases complaint : rules.complaint file with
      | some message =>
          change Ensures _ (storeNewAttachment .. >>= _) _ final
          unfold storeNewAttachment
          rw [complaint]
          exact ⟨rfl, untouched⟩
      | none =>
          rw [ticks rfl]
          change Ensures _ (storeNewAttachment .. >>= _) (DepositEnds failures store (some _)) _
          apply (ensures_bind ..).mpr
          apply (deposited_storing complaint (existing.version + 1) (some existing.id)).mono
          intro stored middle held
          have deposited := deposited_later held
          cases stored with
          | error fault => exact ⟨.error fault, middle, deposited, rfl, .inl rfl, rfl⟩
          | ok created =>
              have found := replaced_found deposited rfl rfl
              apply (ensures_bind ..).mpr
              apply ensures_translating_blind
              · exact fun fault other final => depositEnds_behind fault other final
              apply ensures_performed.mpr
              have returned := @reply_softDelete failures middle existing.id identity.userId found
              have ends : ∀ result : Except AttachmentFault AttachmentRecord,
                  result.toBool = failures.answers (.softDelete existing.id identity.userId) →
                  Superseded failures (depositedValues rules identity existing.requestId file (existing.version + 1)
                    (some existing.id) (store.atTick (store.ticks + 2 + expiryCalls identity))) (.ok created) middle result
                    (strikingHandler failures (.softDelete existing.id identity.userId) middle).2 := by
                intro result same
                refine ⟨objects_softDelete, ?_, same⟩
                rw [attachments_softDelete found]
                split
                · exact .inr ⟨rfl, existing.id, softDeleteEdit middle.now identity.userId, rfl, fun row => by simp [softDeleteEdit]⟩
                · exact .inl rfl
              cases reply : (strikingHandler failures (.softDelete existing.id identity.userId) middle).1 with
              | error fault =>
                  rw [reply] at returned
                  exact ⟨.ok created, middle, deposited, ends _ returned⟩
              | ok removed =>
                  rw [reply] at returned
                  exact ⟨.ok created, middle, deposited, ends _ returned⟩

/-- How a removal ends. -/
def RemovalEnds (failures : AttachmentFailures) (store : AttachmentStore) (removal? : Option (AttachmentRecord × UUID))
    (final : AttachmentStore) : Prop :=
  match removal? with
  | some (existing, remover) =>
      (∀ path, path ∈ final.objects ↔ path ∈ store.objects ∧
        ¬ (failures.carriesOut (.removeObject existing.storagePath) = true ∧ path = existing.storagePath)) ∧
      ∃ now, final.attachments =
        if failures.answers (.removeObject existing.storagePath) && failures.carriesOut (.softDelete existing.id remover) then
          store.attachments.modify existing.id (softDeleteEdit now remover)
        else store.attachments
  | none => Untouched store final

theorem remove_ends (attachmentId : UUID) :
    (removeAttachment identity attachmentId).Ensures (.ofHandler (strikingHandler failures))
      (fun _ final => RemovalEnds failures store
        ((AttachmentAttempt.mk (.remove identity attachmentId) failures).removal? store) final) store := by
  have checked : removeAttachment identity attachmentId =
      (checkRemoval identity attachmentId >>= fun existing => do
        translatingStorage (perform (.removeObject existing.storagePath))
        let removed : AttachmentRecord ← translating (perform (.softDelete attachmentId identity.userId))
        translating (perform
          (.recordEvent .attachmentRemoved identity.userId existing.requestId attachmentId existing.fileName))
        return removed) := by
    simp only [removeAttachment, checkRemoval, bind_assoc, pure_eq, done_bind]
  obtain ⟨result, final, ran, passed, untouched, ticks⟩ := @run_checkRemoval failures identity store attachmentId
  have removal : (AttachmentAttempt.mk (.remove identity attachmentId) failures).removal? store =
      result.toOption.map fun existing => (existing, identity.userId) := by
    rw [passed]
    rfl
  rw [checked, removal]
  apply (ensures_bind ..).mpr
  apply (ensures_ofHandler ..).mpr
  rw [ran]
  cases result with
  | error fault => exact untouched
  | ok existing =>
      have found : store.attachments.find? attachmentId = some existing :=
        (Option.filter_eq_some_iff.mp passed.symm).1
      have same : existing.id = attachmentId := ((find?_eq_some_iff ..).mp found).2
      rw [ticks rfl]
      generalize entered : store.atTick (store.ticks + 2 + expiryCalls identity) = checked
      have objects : ∀ path, path ∈ (strikingHandler failures (.removeObject existing.storagePath) checked).2.objects ↔
          path ∈ store.objects ∧
            ¬ (failures.carriesOut (.removeObject existing.storagePath) = true ∧ path = existing.storagePath) := by
        intro path
        rw [objects_removeObject, ← entered]
        rfl
      have attachments : (strikingHandler failures (.removeObject existing.storagePath) checked).2.attachments =
          store.attachments := by
        rw [striking_kept (·.attachments) rfl rfl, ← entered]
        rfl
      change Ensures _ (translatingStorage (perform (.removeObject existing.storagePath)) >>= _) _ checked
      apply (ensures_bind ..).mpr
      apply ensures_translatingStorage_blind
      · exact fun _ _ _ held => held
      apply ensures_performed.mpr
      cases answered : failures.answers (.removeObject existing.storagePath) with
      | false =>
          obtain ⟨fault, -, reply⟩ := @striking_struck failures checked _ answered
          rw [reply]
          refine ⟨objects, 0, ?_⟩
          rw [answered]
          exact attachments
      | true =>
          have reply : (strikingHandler failures (.removeObject existing.storagePath) checked).1 = .ok () :=
            congrArg Prod.fst (striking_answered answered)
          rw [reply]
          generalize (strikingHandler failures (.removeObject existing.storagePath) checked).2 = bare
            at objects attachments ⊢
          have present : (bare.attachments.find? attachmentId).isSome = true := by
            rw [attachments, found]
            rfl
          have ends : RemovalEnds failures store (some (existing, identity.userId))
              (strikingHandler failures (.softDelete attachmentId identity.userId) bare).2 := by
            refine ⟨?_, bare.now, ?_⟩
            · rw [objects_softDelete]
              exact objects
            · rw [attachments_softDelete present, attachments, answered, same, Bool.true_and]
          apply (ensures_bind ..).mpr
          apply ensures_translating_blind
          · exact fun _ _ _ held => held
          apply ensures_performed.mpr
          cases (strikingHandler failures (.softDelete attachmentId identity.userId) bare).1 with
          | error fault => exact ends
          | ok removed =>
              generalize (strikingHandler failures (.softDelete attachmentId identity.userId) bare).2 = deleted at ends ⊢
              apply (ensures_bind ..).mpr
              apply ensures_translating_blind
              · exact fun _ _ _ held => held
              apply ensures_performed.mpr
              have recorded : RemovalEnds failures store (some (existing, identity.userId))
                  (strikingHandler failures (.recordEvent .attachmentRemoved identity.userId existing.requestId attachmentId
                    existing.fileName) deleted).2 := by
                obtain ⟨objects, now, attachments⟩ := ends
                refine ⟨?_, now, ?_⟩
                · rw [striking_kept (·.objects) rfl rfl]
                  exact objects
                · rw [striking_kept (·.attachments) rfl rfl]
                  exact attachments
              cases (strikingHandler failures (.recordEvent .attachmentRemoved identity.userId existing.requestId
                attachmentId existing.fileName) deleted).1 <;> exact recorded

end Processes

section Settling

variable {failures : AttachmentFailures} {content : List UInt8} {store middle final : AttachmentStore}
  {values : AttachmentValues} {stored result : Except AttachmentFault AttachmentRecord}

theorem scans_of_inserts (inserted : inserts failures content store values = true) :
    scans failures content store values = true := by
  simp only [inserts, Bool.and_eq_true] at inserted
  exact inserted.1.1

theorem stores_of_scans (scanned : scans failures content store values = true) :
    stores failures store values = true := by
  simp only [scans, Bool.and_eq_true] at scanned
  rw [stores, scanned.1.1, Failures.carriesOut_of_answers scanned.1.2]
  rfl

theorem fresh_of_stores (stored : stores failures store values = true) : values.storagePath ∉ store.objects := by
  simp only [stores, fresh, Bool.and_eq_true, decide_eq_true_eq] at stored
  exact stored.1

/-- Every live row refers to a stored object, unless the row is inserted and its object deleted. -/
theorem liveStored_deposit_iff (live : store.LiveStored) (deposited : Deposited failures content store values stored middle)
    (superseded : Superseded failures values stored middle result final) :
    final.LiveStored ↔ (inserts failures content store values && cleans failures content store values) = false := by
  constructor
  · intro followed
    by_contra stranded
    simp only [Bool.not_eq_false, Bool.and_eq_true] at stranded
    obtain ⟨inserted, cleaned⟩ := stranded
    obtain ⟨now, placed⟩ := deposited.inserted inserted
    have failed : stored.toBool = false := by
      rw [deposited.returns, completes]
      simp only [cleans, Bool.and_eq_true, Bool.not_eq_true'] at cleaned
      rw [cleaned.1.2]
      rfl
    have kept : final.attachments = middle.attachments := by
      rcases superseded.attachments with same | ⟨succeeded, -⟩
      · exact same
      · exact absurd (failed.symm.trans succeeded) Bool.false_ne_true
    have path := followed (values.row now) (by
      rw [kept, placed, mem_place]
      exact .inr rfl) rfl
    rw [superseded.objects, deposited.objects] at path
    exact path.2 ⟨cleaned, rfl⟩
  · intro unstranded row member undeleted
    have inMiddle : row ∈ middle.attachments.rows := by
      rcases superseded.attachments with same | ⟨-, older, edit, same, deletes⟩
      · rwa [same] at member
      · rw [same, mem_modify] at member
        rcases member with ⟨inside, -⟩ | ⟨old, -, -, rfl⟩
        · exact inside
        · exact absurd undeleted (deletes old)
    rw [superseded.objects, deposited.objects]
    have older : row ∈ store.attachments.rows → (row.storagePath ∈ store.objects ∨
        stores failures store values = true ∧ row.storagePath = values.storagePath) ∧
          ¬ (cleans failures content store values = true ∧ row.storagePath = values.storagePath) := by
      intro before
      have path := live row before undeleted
      refine ⟨.inl path, ?_⟩
      rintro ⟨cleaned, same⟩
      simp only [cleans, Bool.and_eq_true] at cleaned
      rw [same] at path
      exact fresh_of_stores (stores_of_scans cleaned.1.1) path
    cases inserted : inserts failures content store values with
    | false =>
        rw [deposited.unchanged inserted] at inMiddle
        exact older inMiddle
    | true =>
        rw [inserted, Bool.true_and] at unstranded
        obtain ⟨now, placed⟩ := deposited.inserted inserted
        rw [placed, mem_place] at inMiddle
        rcases inMiddle with ⟨before, -⟩ | rfl
        · exact older before
        · refine ⟨.inr ⟨stores_of_scans (scans_of_inserts inserted), rfl⟩, ?_⟩
          rw [unstranded]
          rintro ⟨never, -⟩
          cases never

/-- An object that was stored is deleted again if the call fails, unless the call fails where it does not clean up. -/
theorem cleaned_deposit_iff (deposited : Deposited failures content store values stored middle)
    (superseded : Superseded failures values stored middle result final) :
    (result.toBool = false → ∀ path ∈ final.objects, path ∉ store.objects →
      failures.answers (.removeObject path) = false) ↔
    (stores failures store values && (!scans failures content store values || creates failures content store values) &&
      !(completes failures content store values &&
        values.replacesAttachmentId.all fun older => failures.answers (.softDelete older values.uploadedBy)) &&
      failures.answers (.removeObject values.storagePath)) = false := by
  have returned : result.toBool = (completes failures content store values &&
      values.replacesAttachmentId.all fun older => failures.answers (.softDelete older values.uploadedBy)) := by
    rw [superseded.returns, deposited.returns]
  rw [← returned]
  constructor
  · intro cleaned
    by_contra littered
    simp only [Bool.not_eq_false, Bool.and_eq_true, Bool.or_eq_true, Bool.not_eq_true'] at littered
    obtain ⟨⟨⟨storing, stopped⟩, failed⟩, answered⟩ := littered
    have uncleaned : cleans failures content store values = false := by
      rcases stopped with unscanned | created
      · simp [cleans, unscanned]
      · simp [cleans, created]
    have remains : values.storagePath ∈ final.objects := by
      rw [superseded.objects, deposited.objects, uncleaned]
      exact ⟨.inr ⟨storing, rfl⟩, fun cleaning => absurd cleaning.1 Bool.false_ne_true⟩
    have struck := cleaned failed _ remains (fresh_of_stores storing)
    rw [answered] at struck
    cases struck
  · intro unlittered failed path remains new
    rw [superseded.objects, deposited.objects] at remains
    obtain ⟨added, uncleaned⟩ := remains
    obtain ⟨storing, rfl⟩ := added.resolve_left new
    by_contra answered
    rw [Bool.not_eq_false] at answered
    apply uncleaned
    refine ⟨?_, rfl⟩
    rw [storing, failed, answered] at unlittered
    simp only [Bool.true_and, Bool.not_false, Bool.and_true, Bool.or_eq_false_iff, Bool.not_eq_false'] at unlittered
    rw [cleans, unlittered.1, unlittered.2, Failures.carriesOut_of_answers answered]
    rfl

theorem liveStored_removal_iff (live : store.LiveStored) (distinct : store.PathsDistinct) {existing : AttachmentRecord}
    {remover : UUID} (member : existing ∈ store.attachments.rows)
    (ends : RemovalEnds failures store (some (existing, remover)) final) :
    final.LiveStored ↔
      (existing.deletedAt.isNone && failures.carriesOut (.removeObject existing.storagePath) &&
        !(failures.answers (.removeObject existing.storagePath) &&
          failures.carriesOut (.softDelete existing.id remover))) = false := by
  obtain ⟨objects, now, attachments⟩ := ends
  cases deleted : failures.answers (.removeObject existing.storagePath) &&
      failures.carriesOut (.softDelete existing.id remover) with
  | true =>
      rw [deleted, if_pos rfl] at attachments
      rw [Bool.not_true, Bool.and_false]
      apply iff_of_true _ rfl
      intro row remains undeleted
      rw [attachments, mem_modify] at remains
      rcases remains with ⟨before, other⟩ | ⟨old, -, -, rfl⟩
      · rw [objects]
        refine ⟨live row before undeleted, ?_⟩
        rintro ⟨-, same⟩
        exact other (congrArg AttachmentRecord.id (distinct row before existing member same))
      · cases undeleted
  | false =>
      rw [deleted, if_neg Bool.false_ne_true] at attachments
      rw [Bool.not_false, Bool.and_true]
      constructor
      · intro followed
        by_contra bared
        simp only [Bool.not_eq_false, Bool.and_eq_true, Option.isNone_iff_eq_none] at bared
        obtain ⟨undeleted, carried⟩ := bared
        have path := followed existing (by rwa [attachments]) undeleted
        rw [objects] at path
        exact path.2 ⟨carried, rfl⟩
      · intro spared row remains undeleted
        rw [attachments] at remains
        rw [objects]
        refine ⟨live row remains undeleted, ?_⟩
        rintro ⟨carried, same⟩
        obtain rfl := distinct row remains existing member same
        rw [undeleted, carried] at spared
        cases spared

end Settling

namespace AttachmentAttempt

variable {rules : FileRules} {store : AttachmentStore} {attempt : AttachmentAttempt}

theorem finish_of {program : AttachmentProgram AttachmentRecord}
    (wraps : attempt.process.program rules = program >>= fun _ => .done ()) :
    (attempt.finish rules store).1.toBool = (program.run (strikingHandler attempt.failures) store).1.toBool ∧
      attempt.next rules store = (program.run (strikingHandler attempt.failures) store).2 := by
  have finished : attempt.finish rules store = (program >>= fun _ => .done ()).run (strikingHandler attempt.failures) store :=
    congrArg (fun program => Program.run (strikingHandler attempt.failures) program store) wraps
  rw [next, finished, run_replaced]
  refine ⟨?_, rfl⟩
  cases (program.run (strikingHandler attempt.failures) store).1 <;> rfl

theorem ends (rules : FileRules) (store : AttachmentStore) (attempt : AttachmentAttempt) :
    (attempt.removal? store = none ∧ ∃ result : Except AttachmentFault AttachmentRecord,
      (attempt.finish rules store).1.toBool = result.toBool ∧
        DepositEnds attempt.failures store (attempt.deposit? rules store) result (attempt.next rules store)) ∨
    (attempt.deposit? rules store = none ∧
      RemovalEnds attempt.failures store (attempt.removal? store) (attempt.next rules store)) := by
  obtain ⟨process, failures⟩ := attempt
  cases process with
  | upload identity requestId file =>
      have held := (ensures_ofHandler ..).mp (@upload_ends failures store rules identity requestId file)
      obtain ⟨returned, left⟩ := @finish_of rules store ⟨.upload identity requestId file, failures⟩
        (uploadAttachment rules identity requestId file) rfl
      rw [left]
      exact .inl ⟨rfl, _, returned, held⟩
  | replace identity attachmentId file =>
      have held := (ensures_ofHandler ..).mp (@replace_ends failures store rules identity attachmentId file)
      obtain ⟨returned, left⟩ := @finish_of rules store ⟨.replace identity attachmentId file, failures⟩
        (replaceAttachment rules identity attachmentId file) rfl
      rw [left]
      exact .inl ⟨rfl, _, returned, held⟩
  | remove identity attachmentId =>
      have held := (ensures_ofHandler ..).mp (@remove_ends failures store identity attachmentId)
      obtain ⟨-, left⟩ := @finish_of rules store ⟨.remove identity attachmentId, failures⟩
        (removeAttachment identity attachmentId) rfl
      rw [left]
      exact .inr ⟨rfl, held⟩

theorem member_of_removal {existing : AttachmentRecord} {remover : UUID}
    (removal : attempt.removal? store = some (existing, remover)) : existing ∈ store.attachments.rows := by
  unfold removal? at removal
  split at removal
  · obtain ⟨found, selected, same⟩ := Option.map_eq_some_iff.mp removal
    cases same
    exact ((find?_eq_some_iff ..).mp (Option.filter_eq_some_iff.mp selected).1).1
  · cases removal

theorem liveStored_untouched {final : AttachmentStore} (live : store.LiveStored) (untouched : Untouched store final) :
    final.LiveStored := by
  intro row member undeleted
  rw [untouched.1] at member
  rw [untouched.2]
  exact live row member undeleted

/-- From a store in which rows and objects agree, an attempt leaves them so exactly if it is harmless. -/
theorem settles_iff (live : store.LiveStored) (distinct : store.PathsDistinct) :
    attempt.Settles rules store ↔ attempt.harmless rules store = true := by
  simp only [Settles, harmless, strands, litters, bares, Bool.and_eq_true, Bool.not_eq_true']
  rcases attempt.ends rules store with ⟨unremoving, result, returned, ends⟩ | ⟨undepositing, ends⟩
  · simp only [unremoving, returned, Option.any_none, and_true]
    cases deposit : attempt.deposit? rules store with
    | none =>
        rw [deposit] at ends
        obtain ⟨failed, untouched⟩ := ends
        apply iff_of_true _ ⟨rfl, rfl⟩
        refine ⟨liveStored_untouched live untouched, ?_⟩
        intro _ path remains new
        rw [untouched.2] at remains
        exact absurd remains new
    | some pair =>
        obtain ⟨content, values⟩ := pair
        rw [deposit] at ends
        obtain ⟨stored, middle, deposited, superseded⟩ := ends
        exact and_congr (liveStored_deposit_iff live deposited superseded) (cleaned_deposit_iff deposited superseded)
  · simp only [undepositing, Option.any_none, true_and]
    cases removal : attempt.removal? store with
    | none =>
        rw [removal] at ends
        apply iff_of_true _ rfl
        refine ⟨liveStored_untouched live ends, ?_⟩
        intro _ path remains new
        rw [ends.2] at remains
        exact absurd remains new
    | some pair =>
        obtain ⟨existing, remover⟩ := pair
        rw [removal] at ends
        rw [Option.any_some, ← liveStored_removal_iff live distinct (member_of_removal removal) ends]
        apply and_iff_left
        intro _ path remains new
        exact absurd ((ends.1 path).mp remains).1 new

theorem pathsDistinct_execute (distinct : store.PathsDistinct) (call : AttachmentCall) :
    (store.execute call).2.PathsDistinct := by
  cases call with
  | createAttachment values =>
      cases admitted : store.admits values with
      | false =>
          obtain ⟨error, refused⟩ := createAttachment_unadmitted admitted
          rw [AttachmentStore.execute, refused]
          exact distinct
      | true =>
          rw [AttachmentStore.execute, createAttachment_admitted admitted]
          simp only [AttachmentStore.admits, AttachmentStore.accepts, Bool.and_eq_true, List.all_eq_true, bne_iff_ne] at admitted
          have apart := admitted.1.1.1.2
          intro row first other second same
          rcases (mem_place ..).mp first with ⟨older, -⟩ | rfl <;> rcases (mem_place ..).mp second with ⟨old, -⟩ | rfl
          · exact distinct row older other old same
          · exact absurd same (apart row older)
          · exact absurd same.symm (apart other old)
          · rfl
  | softDelete attachmentId deletedBy =>
      simp only [AttachmentStore.execute, AttachmentStore.softDelete]
      split
      · exact distinct
      · have path : ∀ (edit : Edit AttachmentRecord) (row : AttachmentRecord),
            (∀ row, (edit.apply row).storagePath = row.storagePath) →
              (editRow attachmentId edit row).storagePath = row.storagePath := by
          intro edit row keeps
          unfold editRow
          split
          · exact keeps row
          · rfl
        intro row first other second same
        obtain ⟨older, member, rfl⟩ := List.mem_map.mp first
        obtain ⟨old, inside, rfl⟩ := List.mem_map.mp second
        rw [path _ _ fun _ => rfl, path _ _ fun _ => rfl] at same
        rw [distinct older member old inside same]
  | upload path =>
      simp only [AttachmentStore.execute]
      split <;> exact distinct
  | _ => exact distinct

theorem pathsDistinct_next (distinct : store.PathsDistinct) : (attempt.next rules store).PathsDistinct := by
  have kept : ∀ (state : AttachmentStore) (call : AttachmentCall), state.PathsDistinct →
      (strikingHandler attempt.failures call state).2.PathsDistinct := by
    intro state call held
    rcases @Failures.handler_state _ _ _ _ _ attempt.failures storeHandler AttachmentStore.tick call state with same | same
    · rw [strikingHandler, same]
      exact pathsDistinct_execute held call
    · rw [strikingHandler, same]
      exact held
  have ensured : (attempt.process.program rules).Ensures (.ofHandler (strikingHandler attempt.failures))
      (fun _ final => final.PathsDistinct) store := by
    apply ensures_kept AttachmentStore.PathsDistinct _ _ distinct
    intro state call held
    refine ⟨trivial, ?_⟩
    intro reply after answered
    obtain rfl : after = (strikingHandler attempt.failures call state).2 := (congrArg Prod.snd answered).symm
    exact kept state call held
  exact (ensures_ofHandler ..).mp ensured

/-- From a store in which rows and objects agree, every live row keeps referring to a stored object, and every failed call
deletes what it stored, exactly if every call is harmless. -/
theorem objects_follow_rows_iff (rules : FileRules) {start : AttachmentStore} (live : start.LiveStored)
    (distinct : start.PathsDistinct) (history : List AttachmentAttempt) :
    Throughout (next rules) (Settles rules) start history ↔
      Throughout (next rules) (fun store attempt => attempt.harmless rules store = true) start history := by
  have agree : ∀ (store : AttachmentStore) (attempt : AttachmentAttempt), store.LiveStored ∧ store.PathsDistinct →
      (attempt.Settles rules store ↔ attempt.harmless rules store = true) :=
    fun store attempt held => settles_iff held.1 held.2
  exact throughout_iff agree (fun store attempt held settled => ⟨settled.1, pathsDistinct_next held.2⟩) ⟨live, distinct⟩

instance (store : AttachmentStore) : Decidable store.LiveStored :=
  inferInstanceAs (Decidable (∀ row ∈ store.attachments.rows, row.deletedAt = none → row.storagePath ∈ store.objects))

def uploadingFirst (failures : AttachmentFailures) : AttachmentAttempt where
  process := .upload requester 5 { fileName := "first.pdf", contentType := "application/pdf", content := [1] }
  failures := failures

def replacingFirst (failures : AttachmentFailures) : AttachmentAttempt where
  process := .replace requester 101 { fileName := "second.pdf", contentType := "application/pdf", content := [2] }
  failures := failures

def removingFirst (failures : AttachmentFailures) : AttachmentAttempt where
  process := .remove requester 101
  failures := failures

/-- The scanner raises. -/
def scannerFails : AttachmentFailures where
  strike := fun call =>
    match call with
    | .scan _ => some (.scanner "scanner unavailable", false)
    | _ => none
  possible := by
    intro call fault carried same
    cases call <;> cases same
    rfl

/-- Rows are not deleted. -/
def deletionFails : AttachmentFailures where
  strike := fun call =>
    match call with
    | .softDelete .. => some (.database (.connection "connection lost"), false)
    | _ => none
  possible := by
    intro call fault carried same
    cases call <;> cases same
    rfl

theorem pathsDistinct_travel : travelStore.PathsDistinct := by
  intro row member
  cases member

theorem objects_follow_rows_iff_sample :
    (reached (next plainFiles) travelStore ([] ++ [uploadingFirst (.none _)] ++ [replacingFirst (.none _)])).objects.length = 2 ∧
      Throughout (next plainFiles) (Settles plainFiles) travelStore
        ([] ++ [uploadingFirst (.none _)] ++ [replacingFirst (.none _)]) := by
  refine ⟨by decide +kernel, ?_⟩
  apply (objects_follow_rows_iff plainFiles (by decide +kernel) pathsDistinct_travel _).mpr
  rw [throughout_concat, throughout_concat]
  exact ⟨⟨throughout_nil, by decide +kernel⟩, by decide +kernel⟩

/-- An upload whose scan raises leaves its object, and a removal whose row is not deleted leaves a live row without one. -/
theorem objects_and_rows_part :
    travelStore.LiveStored ∧ travelStore.PathsDistinct ∧
      ¬ Throughout (next plainFiles) (Settles plainFiles) travelStore [uploadingFirst scannerFails] ∧
      ¬ Throughout (next plainFiles) (Settles plainFiles) travelStore [uploadingFirst (.none _), removingFirst deletionFails] := by
  refine ⟨by decide +kernel, pathsDistinct_travel, ?_, ?_⟩
  · intro throughout
    have cleaned := (throughout [] _ (List.prefix_refl _)).2 (by decide +kernel)
      (plainFiles.storagePath 5 101 "first.pdf") (by decide +kernel) (by decide +kernel)
    cases cleaned
  · intro throughout
    have live := (throughout [uploadingFirst (.none _)] _ (List.prefix_refl _)).1
    revert live
    decide +kernel

end AttachmentAttempt

end AutomationHub.Attachments
