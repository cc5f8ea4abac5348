import AutomationHub.Attachments.Store

/-!
The version chains of the attachments, over any interleaving of uploads,
replacements and removals.

A replacement reads the attachment, inserts its successor and soft-deletes it in
three steps, with nothing to guard the second and the third.
-/

set_option autoImplicit false

namespace AutomationHub.Attachments

open Foundation Model Auth Database Program Table

/-- What a process knows: the attachment it read, and the one that its new row has taken the place of, until that one is
soft-deleted. -/
structure ReplacePhase where
  read : Option AttachmentRecord
  awaiting : Option UUID

namespace ReplacePhase

def idle : ReplacePhase := ⟨none, none⟩

def after (phase : ReplacePhase) (call : AttachmentCall) (reply : Except AttachmentFault call.Result) : ReplacePhase :=
  match call, reply with
  | _, .error _ => { phase with awaiting := none }
  | .getAttachment _, .ok record => { phase with read := some record }
  | .createAttachment values, .ok _ => { phase with awaiting := values.replacesAttachmentId }
  | .softDelete .., .ok _ => { phase with awaiting := none }
  | _, _ => phase

/-- A new row is a first version, or the version after the attachment that was read; what is soft-deleted after it is that
attachment. -/
def Permits (phase : ReplacePhase) : AttachmentCall → Prop
  | .createAttachment values => phase.awaiting = none ∧ match values.replacesAttachmentId with
    | none => values.version = 1
    | some older => ∃ record, phase.read = some record ∧ record.id = older ∧ values.version = record.version + 1
  | .softDelete attachmentId _ => ∀ older, phase.awaiting = some older → attachmentId = older
  | _ => True

end ReplacePhase

def replaceDiscipline : Protocol attachmentSignature ReplacePhase where
  permits := ReplacePhase.Permits
  answers := fun phase call reply after => after = phase.after call reply

section Programs

variable {phase : ReplacePhase} {α : Type} {post : Except AttachmentFault α → ReplacePhase → Prop}

theorem ensures_perform {call : AttachmentCall} {post : Except AttachmentFault call.Result → ReplacePhase → Prop} :
    (perform call).Ensures replaceDiscipline post phase ↔
      phase.Permits call ∧ ∀ reply, post reply (phase.after call reply) := by
  have advances : ∀ reply final, replaceDiscipline.answers phase call reply final ↔
      True ∧ final = phase.after call reply := by simp [replaceDiscipline]
  refine Iff.trans (ensures_advancing (fun reply => by cases reply <;> rfl) advances post) (and_congr Iff.rfl ?_)
  exact forall_congr' fun reply => true_imp_iff

theorem ensures_answered {call : AttachmentCall} {post : Except AttachmentFault call.Result → ReplacePhase → Prop}
    (permitted : phase.Permits call) (raises : ∀ fault final, post (.error fault) final)
    (answered : ∀ result, post (.ok result) (phase.after call (.ok result))) :
    (perform call).Ensures replaceDiscipline post phase := by
  refine ensures_perform.mpr ⟨permitted, ?_⟩
  intro reply
  cases reply with
  | ok result => exact answered result
  | error fault => exact raises fault _

theorem ensures_reraising {program : AttachmentProgram α} {handle : AttachmentFault → AttachmentProgram α}
    (reraises : ∀ fault final, (handle fault).Ensures replaceDiscipline post final)
    (ensured : program.Ensures replaceDiscipline
      (fun result final => match result with
        | .ok value => post (.ok value) final
        | .error _ => True) phase) :
    (tryCatch program handle).Ensures replaceDiscipline post phase := by
  refine (ensures_tryCatch ..).mpr (ensured.mono ?_)
  intro result final held
  rcases result with fault | value
  · exact reraises fault final
  · exact held

theorem ensures_translating {call : AttachmentCall} {post : Except AttachmentFault call.Result → ReplacePhase → Prop}
    (permitted : phase.Permits call) (raises : ∀ fault final, post (.error fault) final)
    (answered : ∀ result, post (.ok result) (phase.after call (.ok result))) :
    (translating (perform call)).Ensures replaceDiscipline post phase := by
  refine ensures_reraising ?_ (ensures_answered permitted (fun _ _ => trivial) answered)
  intro fault final
  cases fault <;> exact raises _ _

theorem ensures_translatingNotFound {call : AttachmentCall}
    {post : Except AttachmentFault call.Result → ReplacePhase → Prop} (permitted : phase.Permits call)
    (raises : ∀ fault final, post (.error fault) final)
    (answered : ∀ result, post (.ok result) (phase.after call (.ok result))) :
    (translatingNotFound (perform call)).Ensures replaceDiscipline post phase := by
  refine ensures_reraising ?_ (ensures_answered permitted (fun _ _ => trivial) answered)
  intro fault final
  cases fault with
  | database error => cases error <;> exact raises _ _
  | _ => exact raises _ _

theorem ensures_translatingStorage {call : AttachmentCall}
    {post : Except AttachmentFault call.Result → ReplacePhase → Prop} (permitted : phase.Permits call)
    (raises : ∀ fault final, post (.error fault) final)
    (answered : ∀ result, post (.ok result) (phase.after call (.ok result))) :
    (translatingStorage (perform call)).Ensures replaceDiscipline post phase := by
  refine ensures_reraising ?_ (ensures_answered permitted (fun _ _ => trivial) answered)
  intro fault final
  cases fault <;> exact raises _ _

private theorem ensures_getParentRequest (identity : AuthenticatedIdentity) (requestId : UUID)
    {post : Except AttachmentFault RequestRecord → ReplacePhase → Prop} (raises : ∀ fault final, post (.error fault) final)
    (found : ∀ request, post (.ok request) phase) :
    (getParentRequest identity requestId).Ensures replaceDiscipline post phase := by
  refine (ensures_bind ..).mpr (ensures_translatingNotFound trivial raises ?_)
  intro request
  show Ensures replaceDiscipline (if request.companyId = identity.companyId then _ else _) post phase
  split
  · exact found request
  · exact raises _ _

private theorem ensures_isExpired (identity : AuthenticatedIdentity)
    {post : Except AttachmentFault Bool → ReplacePhase → Prop} (raises : ∀ fault final, post (.error fault) final)
    (answered : ∀ expired, post (.ok expired) phase) :
    (isExpired identity).Ensures replaceDiscipline post phase := by
  unfold isExpired
  split
  · exact answered _
  · refine (ensures_bind ..).mpr (ensures_answered trivial raises ?_)
    exact fun now => answered _

private theorem ensures_authorizeRemoval (identity : AuthenticatedIdentity) (existing : AttachmentRecord)
    (request : RequestRecord) {post : Except AttachmentFault Unit → ReplacePhase → Prop}
    (raises : ∀ fault final, post (.error fault) final) (authorized : post (.ok ()) phase) :
    (authorizeRemoval identity existing request).Ensures replaceDiscipline post phase := by
  refine (ensures_bind ..).mpr (ensures_isExpired identity raises ?_)
  intro expired
  cases expired with
  | true => exact raises _ _
  | false =>
      show Ensures replaceDiscipline (if canRemoveAttachment _ _ _ then _ else _) post phase
      split
      · exact authorized
      · exact raises _ _

private theorem ensures_authorizeView (identity : AuthenticatedIdentity) (requestId : UUID)
    {post : Except AttachmentFault Unit → ReplacePhase → Prop} (raises : ∀ fault final, post (.error fault) final)
    (authorized : post (.ok ()) phase) : (authorizeView identity requestId).Ensures replaceDiscipline post phase := by
  refine (ensures_bind ..).mpr (ensures_getParentRequest identity requestId raises ?_)
  intro request
  have viewed : ∀ isAssignedApprover : Bool, (do
      let expired ← isExpired identity
      if !expired && canViewRequest identity.role (request.requesterId == identity.userId) isAssignedApprover then
        return ()
      else .raised (.app (.notFound "request" requestId)) : AttachmentProgram Unit).Ensures replaceDiscipline post phase := by
    intro isAssignedApprover
    refine (ensures_bind ..).mpr (ensures_isExpired identity raises ?_)
    intro expired
    show Ensures replaceDiscipline (if _ then _ else _) post phase
    split
    · exact authorized
    · exact raises _ _
  refine (ensures_bind ..).mpr ?_
  unfold isAssignedToAnyStage
  split
  · exact viewed false
  · refine (ensures_bind ..).mpr (ensures_answered trivial raises ?_)
    exact fun stages => viewed _

/-- The new row takes its place behind what was read; nothing else of the phase changes. -/
private theorem ensures_storeNewAttachment (rules : FileRules) (identity : AuthenticatedIdentity) (requestId : UUID)
    (file : FileUpload) (version : Nat) (replacesAttachmentId : Option UUID)
    {post : Except AttachmentFault AttachmentRecord → ReplacePhase → Prop} (free : phase.awaiting = none)
    (placed : match replacesAttachmentId with
      | none => version = 1
      | some older => ∃ record, phase.read = some record ∧ record.id = older ∧ version = record.version + 1)
    (raises : ∀ fault final, post (.error fault) final)
    (stored : ∀ created, post (.ok created) { phase with awaiting := replacesAttachmentId }) :
    (storeNewAttachment rules identity requestId file version replacesAttachmentId).Ensures replaceDiscipline post
      phase := by
  unfold storeNewAttachment
  split
  · exact raises _ _
  · refine (ensures_bind ..).mpr (ensures_answered trivial raises ?_)
    intro attachmentId
    refine (ensures_bind ..).mpr (ensures_translatingStorage trivial raises ?_)
    intro _
    refine (ensures_bind ..).mpr (ensures_answered trivial raises ?_)
    intro scanStatus
    refine (ensures_bind ..).mpr (ensures_reraising ?_ (ensures_answered ⟨free, placed⟩ (fun _ _ => trivial) ?_))
    · intro fault final
      cases fault with
      | database error =>
          refine (ensures_bind ..).mpr ((ensures_tryCatch ..).mpr (ensures_perform.mpr ⟨trivial, ?_⟩))
          intro reply
          rcases reply with fault | _
          · cases fault <;> exact raises _ _
          · exact raises _ _
      | _ => exact raises _ _
    · intro created
      refine (ensures_bind ..).mpr (ensures_translating trivial raises ?_)
      exact fun _ => stored created

theorem ensures_process (rules : FileRules) (process : AttachmentProcess) :
    (process.program rules).Ensures replaceDiscipline (fun _ _ => True) ReplacePhase.idle := by
  have raises : ∀ {α β : Type} {next : α → AttachmentProgram β} (fault : AttachmentFault) (final : ReplacePhase),
      Then replaceDiscipline next (fun _ _ => True) (.error fault) final := fun _ _ => trivial
  have discarding : ∀ {program : AttachmentProgram AttachmentRecord},
      program.Ensures replaceDiscipline (fun _ _ => True) ReplacePhase.idle →
      (do
        let _ ← program
        return () : AttachmentProgram Unit).Ensures replaceDiscipline (fun _ _ => True) ReplacePhase.idle := by
    intro program ensured
    refine (ensures_bind ..).mpr (ensured.mono ?_)
    intro result final _
    cases result <;> trivial
  cases process with
  | upload identity requestId file =>
      refine discarding ((ensures_bind ..).mpr (ensures_authorizeView identity requestId raises ?_))
      exact ensures_storeNewAttachment rules identity requestId file 1 none rfl rfl (fun _ _ => trivial) fun _ => trivial
  | replace identity attachmentId file =>
      refine discarding ((ensures_bind ..).mpr (ensures_translatingNotFound trivial raises ?_))
      intro existing
      refine (ensures_bind ..).mpr (ensures_getParentRequest identity existing.requestId raises ?_)
      intro request
      refine (ensures_bind ..).mpr (ensures_authorizeRemoval identity existing request raises ?_)
      refine (ensures_bind ..).mpr (ensures_storeNewAttachment rules identity existing.requestId file
        (existing.version + 1) (some existing.id) rfl ⟨existing, rfl, rfl, rfl⟩ raises ?_)
      intro created
      refine (ensures_bind ..).mpr (ensures_translating ?_ raises fun _ => trivial)
      exact fun older awaited => Option.some.inj awaited
  | remove identity attachmentId =>
      refine discarding ((ensures_bind ..).mpr (ensures_translatingNotFound trivial raises ?_))
      intro existing
      refine (ensures_bind ..).mpr (ensures_getParentRequest identity existing.requestId raises ?_)
      intro request
      refine (ensures_bind ..).mpr (ensures_authorizeRemoval identity existing request raises ?_)
      refine (ensures_bind ..).mpr (ensures_translatingStorage trivial raises ?_)
      intro _
      refine (ensures_bind ..).mpr (ensures_translating (fun older awaited => nomatch awaited) raises ?_)
      intro removed
      exact (ensures_bind ..).mpr (ensures_translating trivial raises fun _ => trivial)

end Programs

section Steps

def linkOf (attachment : AttachmentRecord) : Link UUID where
  key := attachment.id
  version := attachment.version
  predecessor := attachment.replacesAttachmentId

def AttachmentStore.links (state : AttachmentStore) : List (Link UUID) := state.attachments.rows.map linkOf

variable {state after : AttachmentStore} {call : AttachmentCall} {reply : Except AttachmentFault call.Result}

theorem links_distinct (state : AttachmentStore) : (state.links.map Link.key).Nodup := by
  have keys : state.links.map Link.key = state.attachments.rows.map Keyed.key := by
    simp [AttachmentStore.links, linkOf, Function.comp_def, Keyed.key]
  rw [keys]
  exact state.attachments.distinct

/-- What a call does to the attachments. -/
inductive AttachmentMove (call : AttachmentCall) (before after : AttachmentStore) : Prop
  | same (unchanged : after.attachments = before.attachments)
  | inserted (values : AttachmentValues) (called : call = .createAttachment values)
      (absent : before.attachments.find? values.id = none)
      (resolved : ∀ older, values.replacesAttachmentId = some older → (before.attachments.find? older).isSome = true)
      (placed : after.attachments = before.attachments.place (values.row before.now))
  | deleted (attachmentId deletedBy : UUID) (called : call = .softDelete attachmentId deletedBy)
      (edited : after.attachments = before.attachments.modify attachmentId (softDeleteEdit before.now deletedBy))

theorem move_createAttachment (state : AttachmentStore) (values : AttachmentValues) :
    AttachmentMove (.createAttachment values) state (state.createAttachment values).2 := by
  unfold AttachmentStore.createAttachment
  split
  · exact .same rfl
  · rename_i passed
    have checks := (World.firstViolated_eq_none_iff _).mp passed
    simp only [List.mem_cons, List.not_mem_nil, or_false, forall_eq_or_imp, forall_eq] at checks
    obtain ⟨absent, -, resolved, -⟩ := checks
    refine .inserted values rfl (Option.isNone_iff_eq_none.mp absent) ?_ rfl
    intro older replaced
    simpa [replaced] using resolved

theorem move_softDelete (state : AttachmentStore) (attachmentId deletedBy : UUID) :
    AttachmentMove (.softDelete attachmentId deletedBy) state (state.softDelete attachmentId deletedBy).2 := by
  unfold AttachmentStore.softDelete
  split
  · exact .same rfl
  · exact .deleted attachmentId deletedBy rfl rfl

theorem move_step (stepped : attachmentStep state call reply after) : AttachmentMove call state after := by
  have executed : AttachmentMove call state (state.execute call).2.tick := by
    cases call with
    | createAttachment values =>
        cases move_createAttachment state values with
        | same unchanged => exact .same unchanged
        | inserted values called absent resolved placed => exact .inserted values called absent resolved placed
        | deleted attachmentId deletedBy called edited => exact .deleted attachmentId deletedBy called edited
    | softDelete attachmentId deletedBy =>
        cases move_softDelete state attachmentId deletedBy with
        | same unchanged => exact .same unchanged
        | inserted values called absent resolved placed => exact .inserted values called absent resolved placed
        | deleted attachmentId deletedBy called edited => exact .deleted attachmentId deletedBy called edited
    | upload path =>
        simp only [AttachmentStore.execute]
        split <;> exact .same rfl
    | _ => exact .same rfl
  rcases stepped with ⟨-, rfl⟩ | ⟨fault, -, -, rfl | rfl⟩
  · exact executed
  · exact .same rfl
  · exact executed

theorem links_step (stepped : attachmentStep state call reply after) :
    after.links = state.links ∨ ∃ values, call = .createAttachment values ∧ state.attachments.find? values.id = none ∧
      (∀ older, values.replacesAttachmentId = some older → (state.attachments.find? older).isSome = true) ∧
      after.attachments.rows = state.attachments.rows ++ [values.row state.now] := by
  cases move_step stepped with
  | same unchanged => exact .inl (congrArg (fun table => table.rows.map linkOf) unchanged)
  | inserted values called absent resolved placed =>
      refine .inr ⟨values, called, absent, resolved, ?_⟩
      rw [placed]
      exact place_rows_of_absent _ (values.row state.now) absent
  | deleted attachmentId deletedBy called edited =>
      refine .inl ?_
      have linked : linkOf ∘ editRow attachmentId (softDeleteEdit state.now deletedBy) = linkOf := by
        funext attachment
        simp only [Function.comp_apply, editRow]
        split <;> rfl
      simp [AttachmentStore.links, edited, linked]

theorem row_step (stepped : attachmentStep state call reply after) {id : UUID} {row : AttachmentRecord}
    (found : state.attachments.find? id = some row) :
    ∃ kept, after.attachments.find? id = some kept ∧ linkOf kept = linkOf row ∧
      (kept.deletedAt = none → row.deletedAt = none) := by
  cases move_step stepped with
  | same unchanged => exact ⟨row, unchanged ▸ found, rfl, fun live => live⟩
  | inserted values called absent resolved placed =>
      have apart : id ≠ values.id := by
        rintro rfl
        cases absent.symm.trans found
      refine ⟨row, ?_, rfl, fun live => live⟩
      rw [placed, find?_place_other _ (values.row state.now) apart, found]
  | deleted attachmentId deletedBy called edited =>
      rw [edited, find?_modify]
      by_cases own : id = attachmentId
      · subst own
        rw [if_pos rfl, found]
        exact ⟨_, rfl, rfl, fun live => nomatch live⟩
      · rw [if_neg own]
        exact ⟨row, found, rfl, fun live => live⟩

end Steps

section Runs

variable {ι : Type} [DecidableEq ι]

/-- The store in a run, with what each process knows. -/
structure AttachmentRun (ι : Type) where
  store : AttachmentStore
  phases : ι → ReplacePhase

def storing : Effect attachmentSignature (AttachmentRun ι) ι := fun thread state call reply after =>
  attachmentStep state.store call reply after.store ∧
    after.phases = Function.update state.phases thread ((state.phases thread).after call reply)

/-- The call puts a successor of the attachment into the table. -/
def Supersedes (state after : AttachmentStore) (call : AttachmentCall) (older : UUID) : Prop :=
  ∃ values, call = .createAttachment values ∧ values.replacesAttachmentId = some older ∧
    state.attachments.find? values.id = none ∧ (after.attachments.find? values.id).isSome = true

/-- An attachment is superseded only while it is as its replacement read it, which is not soft-deleted, and no other
replacement of it is under way; and no call of a replacement fails after that and leaves the attachment live. -/
def orderly : Effect attachmentSignature (AttachmentRun ι) ι := fun thread state call reply after =>
  storing thread state call reply after ∧
    (∀ older, Supersedes state.store after.store call older →
      (∃ result, reply = .ok result) ∧
      (∃ record, (state.phases thread).read = some record ∧ record.deletedAt = none ∧
        state.store.attachments.find? older = some record) ∧
      ∀ other, (state.phases other).awaiting ≠ some older) ∧
    ∀ older fault, (state.phases thread).awaiting = some older → reply = .error fault →
      ∀ row, after.store.attachments.find? older = some row → row.deletedAt ≠ none

def launchAttachments (rules : FileRules) (processes : ι → AttachmentProcess) (start : AttachmentStore) :
    Pool attachmentSignature AttachmentFault (AttachmentRun ι) ι where
  shared := { store := start, phases := fun _ => ReplacePhase.idle }
  threads := fun thread => (processes thread).program rules

/-- Versions count up along the chains, and what a process read is still there with its version. -/
structure Counted (state : AttachmentRun ι) : Prop where
  numbered : Link.Numbered state.store.links
  known : ∀ thread record, (state.phases thread).read = some record →
    ∃ row, state.store.attachments.find? record.id = some row ∧ linkOf row = linkOf record

/-- A superseded attachment is soft-deleted, or about to be. -/
structure Settled (state : AttachmentRun ι) : Prop where
  linear : Link.Linear state.store.links
  settled : ∀ newer ∈ state.store.attachments.rows, ∀ row ∈ state.store.attachments.rows,
    newer.replacesAttachmentId = some row.id → row.deletedAt = none →
    ∃ thread, (state.phases thread).awaiting = some row.id

variable {thread : ι} {state after : AttachmentRun ι} {call : AttachmentCall} {reply : Except AttachmentFault call.Result}

theorem read_after {phase : ReplacePhase} {store left : AttachmentStore} {record : AttachmentRecord}
    (stepped : attachmentStep store call reply left) (read : (phase.after call reply).read = some record) :
    phase.read = some record ∨ store.attachments.find? record.id = some record := by
  rcases reply with fault | result
  · cases call <;> exact .inl read
  · cases call with
    | getAttachment attachmentId =>
        obtain rfl : result = record := Option.some.inj read
        rcases stepped with ⟨answered, -⟩ | ⟨fault, -, raised, -⟩
        · cases found : store.attachments.find? attachmentId with
          | none => simp [AttachmentStore.execute, getById, found, Except.mapError] at answered
          | some row =>
              have same : result = row := by
                simpa [AttachmentStore.execute, getById, found, Except.mapError] using answered
              obtain ⟨-, keyed⟩ := (find?_eq_some_iff _ _ _).mp found
              obtain rfl : row.id = attachmentId := keyed
              exact .inr (same ▸ found)
        · cases raised
    | _ => exact .inl read

theorem counted_step (counted : Counted state) (permitted : (state.phases thread).Permits call)
    (stored : storing thread state call reply after) : Counted after := by
  constructor
  · rcases links_step stored.1 with same | ⟨values, rfl, -, -, appended⟩
    · rw [same]
      exact counted.numbered
    · have links : after.store.links = state.store.links ++ [linkOf (values.row state.store.now)] := by
        simp [AttachmentStore.links, appended]
      rw [links]
      apply counted.numbered.append
      cases replaces : values.replacesAttachmentId with
      | none =>
          simpa [linkOf, AttachmentValues.row, replaces, ReplacePhase.Permits] using permitted.2
      | some older =>
          simp only [ReplacePhase.Permits, replaces] at permitted
          obtain ⟨-, record, read, rfl, version⟩ := permitted
          obtain ⟨row, found, linked⟩ := counted.known thread record read
          obtain ⟨member, -⟩ := (find?_eq_some_iff _ _ _).mp found
          have present : linkOf row ∈ state.store.links := List.mem_map_of_mem member
          simp only [linkOf, AttachmentValues.row, replaces]
          exact ⟨linkOf record, linked ▸ present, rfl, version⟩
  · intro other record read
    have known : ∃ row, state.store.attachments.find? record.id = some row ∧ linkOf row = linkOf record := by
      rw [stored.2] at read
      by_cases own : other = thread
      · subst own
        rw [Function.update_self] at read
        rcases read_after stored.1 read with earlier | found
        · exact counted.known other record earlier
        · exact ⟨record, found, rfl⟩
      · rw [Function.update_of_ne own] at read
        exact counted.known other record read
    obtain ⟨row, found, linked⟩ := known
    obtain ⟨kept, still, same, -⟩ := row_step stored.1 found
    exact ⟨kept, still, same.trans linked⟩

/-- Every row was there before with the same link, or is the one that the call has put in. -/
theorem row_before {store left : AttachmentStore} (stepped : attachmentStep store call reply left) {row : AttachmentRecord}
    (member : row ∈ left.attachments.rows) :
    (∃ old ∈ store.attachments.rows, linkOf old = linkOf row ∧ (row.deletedAt = none → old.deletedAt = none)) ∨
      ∃ values, call = .createAttachment values ∧ store.attachments.find? values.id = none ∧
        (∀ older, values.replacesAttachmentId = some older → (store.attachments.find? older).isSome = true) ∧
        row = values.row store.now := by
  cases move_step stepped with
  | same unchanged => exact .inl ⟨row, unchanged ▸ member, rfl, fun live => live⟩
  | inserted values called absent resolved placed =>
      rw [placed] at member
      rcases (mem_place _ _ _).mp member with ⟨old, -⟩ | new
      · exact .inl ⟨row, old, rfl, fun live => live⟩
      · exact .inr ⟨values, called, absent, resolved, new⟩
  | deleted attachmentId deletedBy called edited =>
      rw [edited] at member
      rcases (mem_modify _ _ _ _).mp member with ⟨old, -⟩ | ⟨old, present, -, rfl⟩
      · exact .inl ⟨row, old, rfl, fun live => live⟩
      · exact .inl ⟨old, present, rfl, fun live => nomatch live⟩

theorem deleted_of_answered {store left : AttachmentStore} {attachmentId deletedBy : UUID} {result : AttachmentRecord}
    (stepped : attachmentStep store (.softDelete attachmentId deletedBy) (.ok result) left) {row : AttachmentRecord}
    (found : left.attachments.find? attachmentId = some row) : row.deletedAt ≠ none := by
  rcases stepped with ⟨answered, rfl⟩ | ⟨fault, -, raised, -⟩
  · simp only [AttachmentStore.execute, AttachmentStore.softDelete] at answered found
    split at answered
    · cases answered
    · rename_i old present
      simp only [present, AttachmentStore.tick, find?_modify, if_pos, Option.map_some, Option.some.injEq] at found
      subst found
      exact nofun
  · cases raised

theorem current_of_supersedes (settled : Settled state) (ordered : orderly thread state call reply after) {older : UUID}
    (supersedes : Supersedes state.store after.store call older) :
    (∃ row, state.store.attachments.find? older = some row ∧ row.deletedAt = none) ∧
      ∀ newer ∈ state.store.attachments.rows, newer.replacesAttachmentId ≠ some older := by
  obtain ⟨-, ⟨record, -, live, found⟩, unawaited⟩ := ordered.2.1 older supersedes
  have current : ∃ row, state.store.attachments.find? older = some row ∧ row.deletedAt = none := ⟨record, found, live⟩
  refine ⟨current, ?_⟩
  intro newer member replaces
  obtain ⟨present, keyed⟩ := (find?_eq_some_iff _ _ _).mp found
  obtain rfl : record.id = older := keyed
  obtain ⟨other, awaiting⟩ := settled.settled newer member record present replaces live
  exact unawaited other awaiting

theorem awaiting_kept (permitted : (state.phases thread).Permits call) (ordered : orderly thread state call reply after)
    {row : AttachmentRecord} (member : row ∈ after.store.attachments.rows) (live : row.deletedAt = none)
    (awaiting : (state.phases thread).awaiting = some row.id) : (after.phases thread).awaiting = some row.id := by
  obtain ⟨⟨stepped, phases⟩, -, failing⟩ := ordered
  have found : after.store.attachments.find? row.id = some row := find?_of_mem _ member
  rw [phases, Function.update_self]
  rcases reply with fault | result
  · exact absurd live (failing row.id fault awaiting rfl row found)
  · cases call with
    | createAttachment values => cases permitted.1.symm.trans awaiting
    | softDelete attachmentId deletedBy =>
        obtain rfl := permitted row.id awaiting
        exact absurd live (deleted_of_answered stepped found)
    | _ => exact awaiting

theorem settled_step (counted : Counted state) (settled : Settled state) (permitted : (state.phases thread).Permits call)
    (ordered : orderly thread state call reply after) : Settled after := by
  have stepped := ordered.1.1
  constructor
  · rcases links_step stepped with same | ⟨values, rfl, absent, -, appended⟩
    · rw [same]
      exact settled.linear
    · have links : after.store.links = state.store.links ++ [linkOf (values.row state.store.now)] := by
        simp [AttachmentStore.links, appended]
      have placed : values.row state.store.now ∈ after.store.attachments.rows := by simp [appended]
      have inserted : (after.store.attachments.find? values.id).isSome = true :=
        Option.isSome_iff_exists.mpr ⟨_, find?_of_mem _ placed⟩
      rw [links]
      apply settled.linear.append
      intro other member older replaces succeeds
      obtain ⟨newer, present, rfl⟩ := List.mem_map.mp member
      have unsuperseded := (current_of_supersedes settled ordered ⟨values, rfl, replaces, absent, inserted⟩).2
      exact unsuperseded newer present succeeds
  · intro newer newerMember row rowMember replaces live
    rcases row_before stepped newerMember with ⟨oldNewer, newerPresent, newerLink, -⟩ | ⟨values, rfl, absent, resolved, rfl⟩
    · have replaced : oldNewer.replacesAttachmentId = some row.id := (congrArg Link.predecessor newerLink).trans replaces
      rcases row_before stepped rowMember with ⟨old, present, linked, lively⟩ | ⟨values, rfl, absent, -, rfl⟩
      · have same : old.id = row.id := congrArg Link.key linked
        rw [← same] at replaced
        obtain ⟨other, awaiting⟩ := settled.settled oldNewer newerPresent old present replaced (lively live)
        rw [same] at awaiting
        by_cases own : other = thread
        · subst own
          exact ⟨other, awaiting_kept permitted ordered rowMember live awaiting⟩
        · refine ⟨other, ?_⟩
          rw [ordered.1.2, Function.update_of_ne own]
          exact awaiting
      · have numbered := counted.numbered (linkOf oldNewer) (List.mem_map_of_mem newerPresent)
        simp only [linkOf, replaced] at numbered
        obtain ⟨link, member, keyed, -⟩ := numbered
        obtain ⟨old, present, rfl⟩ := List.mem_map.mp member
        exact absurd keyed ((find?_eq_none_iff _ _).mp absent old present)
    · have inserted : (after.store.attachments.find? values.id).isSome = true :=
        Option.isSome_iff_exists.mpr ⟨_, find?_of_mem _ newerMember⟩
      obtain ⟨⟨result, rfl⟩, -, -⟩ := ordered.2.1 row.id ⟨values, rfl, replaces, absent, inserted⟩
      refine ⟨thread, ?_⟩
      rw [ordered.1.2, Function.update_self]
      exact replaces

theorem attachment_run {rules : FileRules} {processes : ι → AttachmentProcess} {start : AttachmentStore}
    {effect : Effect attachmentSignature (AttachmentRun ι) ι} {inv : AttachmentRun ι → Prop}
    {last : Pool attachmentSignature AttachmentFault (AttachmentRun ι) ι} {events : List (Event attachmentSignature ι)}
    (run : Pool.Run effect (launchAttachments rules processes start) events last)
    (stores : ∀ thread state call reply after, effect thread state call reply after →
      storing thread state call reply after)
    (preserved : ∀ thread state call reply after, inv state → (state.phases thread).Permits call →
      effect thread state call reply after → inv after)
    (holds : inv (launchAttachments rules processes start).shared) : inv last.shared := by
  have kept := run.tracked AttachmentRun.phases inv ?_ (fun thread => ensures_process rules (processes thread)) holds
  · exact kept.2
  · intro thread state call reply after holds permitted effected
    have stored := stores _ _ _ _ _ effected
    refine ⟨?_, ?_, preserved _ _ _ _ _ holds permitted effected⟩
    · rw [stored.2, Function.update_self]
      rfl
    · intro other apart
      rw [stored.2, Function.update_of_ne apart]

/-- The versions of every chain count up from 1, whatever the order of the calls and the failures.  As long as the steps are
orderly the chains are lines, each has one live attachment beside one that a replacement is about to soft-delete, and only
an attachment that is live and not superseded is replaced. -/
theorem version_chains_in_line (rules : FileRules) (processes : ι → AttachmentProcess) {start : AttachmentStore}
    (unattached : start.attachments.rows = [])
    {last : Pool attachmentSignature AttachmentFault (AttachmentRun ι) ι} {events : List (Event attachmentSignature ι)}
    (run : Pool.Run storing (launchAttachments rules processes start) events last) :
    Link.Numbered last.shared.store.links ∧
      (Pool.Run orderly (launchAttachments rules processes start) events last →
        Link.Linear last.shared.store.links ∧
        (∀ first ∈ last.shared.store.attachments.rows, ∀ second ∈ last.shared.store.attachments.rows,
          Link.SameChain last.shared.store.links (linkOf first) (linkOf second) →
          first.deletedAt = none → second.deletedAt = none →
          (∀ thread, (last.shared.phases thread).awaiting ≠ some first.id ∧
            (last.shared.phases thread).awaiting ≠ some second.id) → first = second) ∧
        ∀ event next older, Pool.Step orderly last event next →
          Supersedes last.shared.store next.shared.store event.request older →
          (∃ row, last.shared.store.attachments.find? older = some row ∧ row.deletedAt = none) ∧
            ∀ newer ∈ last.shared.store.attachments.rows, newer.replacesAttachmentId ≠ some older) := by
  have unlinked : (launchAttachments rules processes start).shared.store.links = [] := by
    simp [launchAttachments, AttachmentStore.links, unattached]
  have launched : Counted (launchAttachments rules processes start).shared := by
    constructor
    · rw [unlinked]
      exact fun _ member => nomatch member
    · exact fun _ _ read => nomatch read
  have counted := attachment_run run (fun _ _ _ _ _ stored => stored)
    (fun _ _ _ _ _ counted permitted stored => counted_step counted permitted stored) launched
  refine ⟨counted.numbered, ?_⟩
  intro ordered
  have prepared : Settled (launchAttachments rules processes start).shared := by
    constructor
    · rw [unlinked]
      exact fun _ member => nomatch member
    · intro newer member
      rw [show (launchAttachments rules processes start).shared.store.attachments.rows = [] from unattached] at member
      cases member
  have both := @attachment_run _ _ rules processes start _ (fun state => Counted state ∧ Settled state) _ _ ordered
    (fun _ _ _ _ _ ordered => ordered.1)
    (fun _ _ _ _ _ both permitted ordered =>
      ⟨counted_step both.1 permitted ordered.1, settled_step both.1 both.2 permitted ordered⟩) ⟨launched, prepared⟩
  have settled := both.2
  refine ⟨settled.linear, ?_, ?_⟩
  · intro first firstMember second secondMember same firstLive secondLive unawaited
    have unfollowed : ∀ row ∈ last.shared.store.attachments.rows, row.deletedAt = none →
        (∀ thread, (last.shared.phases thread).awaiting ≠ some row.id) →
        ∀ newer, ¬ Link.Follows last.shared.store.links newer (linkOf row) := by
      intro row member live unawaited newer follows
      obtain ⟨successor, present, rfl⟩ := List.mem_map.mp follows.newer_mem
      obtain ⟨thread, awaiting⟩ := settled.settled successor present row member follows.succeeds live
      exact unawaited thread awaiting
    have linked := same.eq_of_last (links_distinct _) settled.linear
      (unfollowed first firstMember firstLive fun thread => (unawaited thread).1)
      (unfollowed second secondMember secondLive fun thread => (unawaited thread).2)
    exact last.shared.store.attachments.eq_of_key_eq firstMember secondMember (congrArg Link.key linked)
  · intro event next older step supersedes
    cases step with
    | call calling ordered => exact current_of_supersedes settled ordered supersedes

/-- A call of a thread; the fault, if any, strikes before anything is done. -/
def attachmentHandler (thread : ι) (strikes : Option AttachmentFault) : Handler attachmentSignature (AttachmentRun ι) :=
  fun call state =>
    let outcome := match strikes with
      | none => ((state.store.execute call).1, (state.store.execute call).2.tick)
      | some fault => (.error fault, state.store.tick)
    (outcome.1,
      { store := outcome.2
        phases := Function.update state.phases thread ((state.phases thread).after call outcome.1) })

theorem attachmentHandler_storing (thread : ι) (strikes : Option AttachmentFault) (state : AttachmentRun ι)
    (call : AttachmentCall) (struck : (strikes.all fun fault => call.struck fault) = true) :
    storing thread state call (attachmentHandler thread strikes call state).1
      (attachmentHandler thread strikes call state).2 := by
  refine ⟨?_, rfl⟩
  cases strikes with
  | none => exact .inl ⟨rfl, rfl⟩
  | some fault => exact .inr ⟨fault, struck, rfl, .inl rfl⟩

end Runs

section Samples

def plainFiles : FileRules where
  complaint := fun _ => none
  storagePath := fun requestId attachmentId fileName =>
    "attachments/" ++ toString requestId ++ "/" ++ toString attachmentId ++ "_" ++ fileName
  checksum := fun _ => "checksum"

def travelRequest : RequestRecord where
  id := 5
  requesterId := 3
  workflowDefinitionId := 1
  requestType := "travel"
  title := "Travel"
  description := none
  department := none
  status := .pending
  currentStageId := none
  version := 1
  deletedAt := none
  deletedBy := none
  createdAt := 1
  updatedAt := 1
  completedAt := none
  companyId := 1

def travelStore : AttachmentStore where
  chance := fun tick =>
    { now := 10 + tick, identifier := 100 + tick, scanStatus := .skipped, stages := fun _ => [],
      requests := fun requestId => if requestId = 5 then some travelRequest else none }
  ticks := 0
  attachments := Table.empty
  objects := []

def requester : AuthenticatedIdentity where
  userId := 3
  role := .employee
  companyId := 1
  expiresAt := none

/-- A file is uploaded, and replaced twice. -/
def uploadAndReplace : Fin 3 → AttachmentProcess
  | 0 => .upload requester 5 { fileName := "first.pdf", contentType := "application/pdf", content := [1] }
  | 1 => .replace requester 101 { fileName := "second.pdf", contentType := "application/pdf", content := [2] }
  | 2 => .replace requester 101 { fileName := "third.pdf", contentType := "application/pdf", content := [3] }

def travelPool : Pool attachmentSignature AttachmentFault (AttachmentRun (Fin 3)) (Fin 3) :=
  launchAttachments plainFiles uploadAndReplace travelStore

def replacedOnce : List (Fin 3 × Option AttachmentFault) := List.replicate 6 (0, none) ++ List.replicate 8 (1, none)

def replacedTwice : List (Fin 3 × Option AttachmentFault) := replacedOnce ++ List.replicate 8 (2, none)

def orderlyCheck (thread : Fin 3) (strikes : Option AttachmentFault) (state : AttachmentRun (Fin 3))
    (call : AttachmentCall) : Bool :=
  (strikes.all fun fault => call.struck fault) && (attachmentHandler thread strikes call state).1.toBool &&
    match call with
    | .createAttachment values => values.replacesAttachmentId.all fun older =>
        ((state.phases thread).read.any fun record =>
          record.deletedAt.isNone && state.store.attachments.find? older == some record) &&
          decide (∀ other, (state.phases other).awaiting ≠ some older)
    | _ => true

theorem orderly_of_check (thread : Fin 3) (strikes : Option AttachmentFault) (state : AttachmentRun (Fin 3))
    (call : AttachmentCall) (passed : orderlyCheck thread strikes state call = true) :
    orderly thread state call (attachmentHandler thread strikes call state).1
      (attachmentHandler thread strikes call state).2 := by
  obtain ⟨⟨struck, answered⟩, placed⟩ := (Bool.and_eq_true_iff.mp passed).imp_left Bool.and_eq_true_iff.mp
  have answer : ∃ result, (attachmentHandler thread strikes call state).1 = .ok result := by
    cases reply : (attachmentHandler thread strikes call state).1 with
    | ok result => exact ⟨result, rfl⟩
    | error fault => simp [reply, Except.toBool] at answered
  refine ⟨attachmentHandler_storing thread strikes state call struck, ?_, ?_⟩
  · rintro older ⟨values, rfl, replaces, -, -⟩
    simp only [replaces, Option.all_some, Bool.and_eq_true, decide_eq_true_eq, Option.any_eq_true, Option.isNone_iff_eq_none,
      beq_iff_eq] at placed
    obtain ⟨⟨record, read, live, found⟩, unawaited⟩ := placed
    exact ⟨answer, ⟨record, read, live, found⟩, unawaited⟩
  · intro older fault _ raised
    obtain ⟨result, returned⟩ := answer
    cases returned.symm.trans raised

/-- The file is replaced once: the second version is the live one. -/
theorem version_chains_in_line_sample :
    ∃ last events, Pool.Run orderly travelPool events last ∧ last.shared.store.attachments.rows.length = 2 ∧
      Link.Numbered last.shared.store.links ∧ Link.Linear last.shared.store.links := by
  have ordered := Pool.enact_runs orderly_of_check travelPool replacedOnce (by decide +kernel)
  have run : Pool.Run storing travelPool _ _ := ordered.mono fun _ _ _ _ _ ordered => ordered.1
  have chains := version_chains_in_line plainFiles uploadAndReplace (by rfl) run
  exact ⟨_, _, ordered, by decide +kernel, chains.1, (chains.2 ordered).1⟩

/-- The first version is replaced again after the second has superseded it: two versions succeed it, both of them live. -/
theorem superseded_attachment_replaced :
    ∃ last events, Pool.Run storing travelPool events last ∧ (∀ thread, (last.shared.phases thread).awaiting = none) ∧
      ¬ Link.Linear last.shared.store.links ∧
      ¬ ∀ first ∈ last.shared.store.attachments.rows, ∀ second ∈ last.shared.store.attachments.rows,
        Link.SameChain last.shared.store.links (linkOf first) (linkOf second) →
        first.deletedAt = none → second.deletedAt = none → first = second := by
  have run := Pool.enact_runs attachmentHandler_storing travelPool replacedTwice (by decide +kernel)
  have links : (travelPool.enact attachmentHandler replacedTwice).shared.store.links =
      [⟨101, 1, none⟩, ⟨108, 2, some 101⟩, ⟨116, 2, some 101⟩] := by decide +kernel
  refine ⟨_, _, run, by decide +kernel, ?_, ?_⟩
  · intro linear
    rw [links] at linear
    have same := linear ⟨108, 2, some 101⟩ (by simp) ⟨116, 2, some 101⟩ (by simp) 101 rfl rfl
    cases same
  · have live : (∃ row ∈ (travelPool.enact attachmentHandler replacedTwice).shared.store.attachments.rows,
        linkOf row = ⟨108, 2, some 101⟩ ∧ row.deletedAt = none) ∧
        ∃ row ∈ (travelPool.enact attachmentHandler replacedTwice).shared.store.attachments.rows,
          linkOf row = ⟨116, 2, some 101⟩ ∧ row.deletedAt = none := by decide +kernel
    obtain ⟨⟨first, firstMember, firstLink, firstLive⟩, second, secondMember, secondLink, secondLive⟩ := live
    intro unique
    have chained : Link.SameChain (travelPool.enact attachmentHandler replacedTwice).shared.store.links (linkOf first)
        (linkOf second) := by
      rw [links, firstLink, secondLink]
      have before : Link.Follows [⟨101, 1, none⟩, ⟨108, 2, some 101⟩, ⟨116, 2, some 101⟩] ⟨108, 2, some 101⟩
          ⟨101, 1, none⟩ := ⟨by simp, by simp, rfl⟩
      have besides : Link.Follows [⟨101, 1, none⟩, ⟨108, 2, some 101⟩, ⟨116, 2, some 101⟩] ⟨116, 2, some 101⟩
          ⟨101, 1, none⟩ := ⟨by simp, by simp, rfl⟩
      exact .trans _ _ _ (.rel _ _ before) (.symm _ _ (.rel _ _ besides))
    have same := unique first firstMember second secondMember chained firstLive secondLive
    rw [same, secondLink] at firstLink
    cases firstLink

end Samples

end AutomationHub.Attachments
