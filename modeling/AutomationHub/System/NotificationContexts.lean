import AutomationHub.Services.ServiceRuns
import AutomationHub.System.Operations

/-!
Whether a notification is delivered, in every context from which it is sent.
-/

set_option autoImplicit false

namespace AutomationHub.System

open Foundation Model Database Services Auth Program Table

/-- One `update_preference` call of a user, with whether the user's own client is bound. -/
structure PreferenceUpdate where
  bound : Bool
  notificationType : NotificationType
  inAppEnabled : Option Bool
  emailEnabled : Option Bool

def PreferenceUpdate.program (identity : AuthenticatedIdentity) (update : PreferenceUpdate) :
    Service NotificationPreferenceRecord :=
  updatePreference (clientOf update.bound identity) identity update.notificationType update.inAppEnabled
    update.emailEnabled

/-- The state after the updates of a user, the first one first. -/
def afterUpdates (identity : AuthenticatedIdentity) (history : List PreferenceUpdate) (world : World) : World :=
  history.foldl (fun state update => ((update.program identity).run environment state).2) world

/-- What a user has set for a type: `(in_app_enabled, email_enabled)`, both enabled if nothing is stored. -/
def storedPreference (world : World) (userId : UUID) (notificationType : NotificationType) : Bool × Bool :=
  ((world.preferences.rows.find? fun preference =>
      preference.userId == userId && preference.notificationType == notificationType).map
    fun preference => (preference.inAppEnabled, preference.emailEnabled)).getD (true, true)

/-- An update sets the fields it gives, for its type. -/
def PreferenceUpdate.patch (notificationType : NotificationType) (current : Bool × Bool) (update : PreferenceUpdate) :
    Bool × Bool :=
  if update.notificationType = notificationType then
    (update.inAppEnabled.getD current.1, update.emailEnabled.getD current.2)
  else current

/-- What the updates of a user leave as the preference for a type. -/
def latestPreference (notificationType : NotificationType) (initial : Bool × Bool) (history : List PreferenceUpdate) :
    Bool × Bool :=
  history.foldl (PreferenceUpdate.patch notificationType) initial

section Updates

variable {world : World} {identity : AuthenticatedIdentity}

/-- What a client shows of a user's preference. -/
def shownPreference (viewer : Option UUID) (world : World) (userId : UUID) (notificationType : NotificationType) :
    Bool × Bool :=
  if viewer.all fun caller => userId == caller then storedPreference world userId notificationType else (true, true)

theorem shown_rows (viewer : Option UUID) (userId : UUID) :
    (world.preferences.rows.filter fun preference =>
        World.preferenceVisible viewer preference && preference.userId == userId) =
      if viewer.all fun caller => userId == caller then
        world.preferences.rows.filter fun preference => preference.userId == userId
      else [] := by
  by_cases own : (viewer.all fun caller => userId == caller) = true
  · rw [if_pos own]
    apply List.filter_congr
    intro preference _
    by_cases same : preference.userId = userId
    · rw [World.preferenceVisible, same, own, Bool.true_and]
    · simp [same]
  · rw [if_neg own, List.filter_eq_nil_iff]
    intro preference _ shown
    obtain ⟨visible, same⟩ := Bool.and_eq_true_iff.mp shown
    rw [World.preferenceVisible, eq_of_beq same] at visible
    exact own visible

theorem run_effectivePreference (viewer : Option UUID) (userId : UUID) (notificationType : NotificationType) :
    (effectivePreference viewer userId notificationType).run environment world =
      (.ok (shownPreference viewer world userId notificationType), world.tick) := by
  have listed : (orTranslate (.getPreferences viewer userId) : Service _).run environment world =
      (.ok (world.preferences.rows.filter fun preference =>
        World.preferenceVisible viewer preference && preference.userId == userId), world.tick) :=
    run_orTranslate (.getPreferences viewer userId) world
  rw [effectivePreference, run_bind, listed, continueRun_ok, shown_rows, shownPreference]
  by_cases own : (viewer.all fun caller => userId == caller) = true
  · rw [if_pos own, if_pos own, List.find?_filter, storedPreference]
    simp only [Bool.decide_and, Bool.decide_eq_true]
    cases world.preferences.rows.find? fun preference =>
      preference.userId == userId && preference.notificationType == notificationType with
    | none => rfl
    | some preference => rfl
  · rw [if_neg own, if_neg own]
    rfl

theorem shownPreference_own (bound : Bool) (notificationType : NotificationType) :
    shownPreference (clientOf bound identity) world identity.userId notificationType =
      storedPreference world identity.userId notificationType := by
  apply if_pos
  cases bound
  · rfl
  · exact beq_self_eq_true identity.userId

theorem upsertPreference_accepted (known : world.hasProfile identity.userId = true) (bound : Bool)
    (updated : NotificationType) (inAppEnabled emailEnabled : Bool) :
    (world.upsertPreference (clientOf bound identity) identity.userId updated inAppEnabled emailEnabled).1.toBool = true := by
  have permitted : ((clientOf bound identity).all fun caller => identity.userId == caller) = true := by
    cases bound
    · rfl
    · exact beq_self_eq_true identity.userId
  rw [World.upsertPreference, if_pos permitted]
  cases world.preferences.rows.find? fun preference =>
    preference.userId == identity.userId && preference.notificationType == updated with
  | none =>
      have accepted : World.firstViolated [("foreign_key", world.hasProfile identity.userId)] = none := by
        simp [World.firstViolated, known]
      have inserted : insertRow "notification_preferences" world.preferences
          (world.newPreference identity.userId updated inAppEnabled emailEnabled)
          (fun preference => World.firstViolated [("foreign_key", world.hasProfile preference.userId)]) =
          (.ok _, world.preferences.insert (world.newPreference identity.userId updated inAppEnabled emailEnabled)) :=
        insertRow_ok_iff.mpr ⟨accepted, rfl, rfl⟩
      simp only [inserted]
      rfl
  | some existing => rfl

theorem storedPreference_upsert (bound : Bool) (updated notificationType : NotificationType)
    (inAppEnabled emailEnabled : Bool)
    (accepted : (world.upsertPreference (clientOf bound identity) identity.userId updated inAppEnabled
      emailEnabled).1.toBool = true) :
    storedPreference (world.upsertPreference (clientOf bound identity) identity.userId updated inAppEnabled
        emailEnabled).2 identity.userId notificationType =
      if updated = notificationType then (inAppEnabled, emailEnabled)
      else storedPreference world identity.userId notificationType := by
  have permitted : ((clientOf bound identity).all fun caller => identity.userId == caller) = true := by
    cases bound
    · rfl
    · exact beq_self_eq_true identity.userId
  rw [World.upsertPreference, if_pos permitted] at accepted ⊢
  cases found : world.preferences.rows.find? fun preference =>
    preference.userId == identity.userId && preference.notificationType == updated with
  | none =>
      rw [found] at accepted
      rcases inserted : insertRow "notification_preferences" world.preferences
        (world.newPreference identity.userId updated inAppEnabled emailEnabled)
        (fun preference => World.firstViolated [("foreign_key", world.hasProfile preference.userId)]) with
        ⟨_ | row, extended⟩
      · simp only [inserted] at accepted
        cases accepted
      obtain ⟨-, -, rfl⟩ := insertRow_ok_iff.mp inserted
      simp only
      rw [storedPreference, search_insert]
      by_cases own : updated = notificationType
      · subst own
        rw [found, if_pos rfl]
        simp [World.newPreference]
      · rw [if_neg own, storedPreference]
        simp [World.newPreference, own]
  | some existing =>
      have same := List.find?_some found
      simp only [Bool.and_eq_true, beq_iff_eq] at same
      rw [storedPreference, search_modify _ _ _ fun _ => rfl]
      by_cases own : updated = notificationType
      · subst own
        have edited : editRow existing.id (world.preferenceEdit inAppEnabled emailEnabled) existing =
            (world.preferenceEdit inAppEnabled emailEnabled).apply existing := if_pos rfl
        rw [found, if_pos rfl, Option.map_some, edited]
        rfl
      · rw [if_neg own, storedPreference]
        cases searched : world.preferences.rows.find? fun preference =>
          preference.userId == identity.userId && preference.notificationType == notificationType with
        | none => rfl
        | some other =>
            have sought := List.find?_some searched
            simp only [Bool.and_eq_true, beq_iff_eq] at sought
            have different : other.id ≠ existing.id := by
              intro equal
              obtain rfl := world.preferences.eq_of_key_eq (List.mem_of_find?_eq_some searched)
                (List.mem_of_find?_eq_some found) equal
              exact own (same.2.symm.trans sought.2)
            have kept : editRow existing.id (world.preferenceEdit inAppEnabled emailEnabled) other = other :=
              if_neg different
            rw [Option.map_some, kept]

/-- What one update leaves: the fields it gives for its type, and everything else as it was. -/
theorem storedPreference_update (known : world.hasProfile identity.userId = true) (update : PreferenceUpdate)
    (notificationType : NotificationType) :
    storedPreference ((update.program identity).run environment world).2 identity.userId notificationType =
      update.patch notificationType (storedPreference world identity.userId notificationType) := by
  have there : world.tick.hasProfile identity.userId = true := known
  rw [PreferenceUpdate.program, updatePreference, run_bind, run_effectivePreference, continueRun_ok,
    shownPreference_own, run_orTranslate]
  refine (storedPreference_upsert update.bound update.notificationType notificationType _ _
    (upsertPreference_accepted there update.bound update.notificationType _ _)).trans ?_
  unfold PreferenceUpdate.patch
  split
  · rw [‹update.notificationType = notificationType›]
  · rfl

theorem hasProfile_update (update : PreferenceUpdate) (userId : UUID) :
    ((update.program identity).run environment world).2.hasProfile userId = world.hasProfile userId :=
  congrArg (fun profiles : Table ProfileRecord => (profiles.find? userId).isSome) (run_profiles _ world)

theorem hasRequest_update (update : PreferenceUpdate) :
    ((update.program identity).run environment world).2.hasRequest = world.hasRequest := by
  rw [PreferenceUpdate.program, updatePreference, run_bind, run_effectivePreference, continueRun_ok, run_orTranslate]
  obtain ⟨preferences, framed⟩ := World.upsertPreference_frame world.tick (clientOf update.bound identity)
    identity.userId update.notificationType (update.inAppEnabled.getD (shownPreference
      (clientOf update.bound identity) world identity.userId update.notificationType).1)
    (update.emailEnabled.getD (shownPreference (clientOf update.bound identity) world identity.userId
      update.notificationType).2)
  simp only [World.execute]
  rw [framed]
  rfl

theorem known_afterUpdates (history : List PreferenceUpdate) (userId : UUID) :
    (afterUpdates identity history world).hasProfile userId = world.hasProfile userId ∧
      (afterUpdates identity history world).hasRequest = world.hasRequest := by
  induction history generalizing world with
  | nil => exact ⟨rfl, rfl⟩
  | cons update later recurse =>
      obtain ⟨profiles, requests⟩ := @recurse ((update.program identity).run environment world).2
      exact ⟨profiles.trans (hasProfile_update update userId), requests.trans (hasRequest_update update)⟩

theorem storedPreference_afterUpdates (history : List PreferenceUpdate)
    (known : world.hasProfile identity.userId = true) (notificationType : NotificationType) :
    storedPreference (afterUpdates identity history world) identity.userId notificationType =
      latestPreference notificationType (storedPreference world identity.userId notificationType) history := by
  induction history generalizing world with
  | nil => rfl
  | cons update later recurse =>
      have still := (@hasProfile_update world identity update identity.userId).trans known
      rw [afterUpdates, List.foldl_cons, ← afterUpdates, recurse still, storedPreference_update known]
      rfl

end Updates

section Delivery

/-- The notification was inserted. -/
def Creates (viewer : Option UUID) (recipientId : UUID) (requestId : Option UUID)
    (notificationType : NotificationType) (message : String) (world : World) : Prop :=
  ∃ row ∈ ((createAndDispatch viewer recipientId requestId notificationType message).run environment world).2.notifications.rows,
    world.notifications.find? row.id = none

/-- An e-mail was handed to the executor of dispatches. -/
def AttemptsEmail (viewer : Option UUID) (recipientId : UUID) (requestId : Option UUID)
    (notificationType : NotificationType) (message : String) (world : World) : Prop :=
  Call.readMailer ∈ (createAndDispatch viewer recipientId requestId notificationType message).calls environment world

variable {world : World} {viewer : Option UUID} {recipientId : UUID} {requestId : Option UUID}
  {notificationType : NotificationType} {message : String}

theorem inserted_kept {α : Type} {program : Service α} (only : program.Only NotifyingCall) {id : UUID}
    (inserted : ∃ row ∈ world.notifications.rows, row.id = id) :
    ∃ row ∈ (program.run environment world).2.notifications.rows, row.id = id := by
  refine only.run (fun state : World => ∃ row ∈ state.notifications.rows, row.id = id) ?_ inserted
  intro state request present notifying
  cases request with
  | query statement =>
      cases statement with
      | createNotification recipientId notificationType message requestId =>
          obtain ⟨row, member, named⟩ := present
          change ∃ row ∈ (state.createNotification _).2.notifications.rows, row.id = id
          rcases outcome : state.createNotification (state.newNotification recipientId notificationType message requestId)
            with ⟨_ | created, after⟩
          · rw [World.createNotification_error outcome]
            exact ⟨row, member, named⟩
          · unfold World.createNotification at outcome
            rcases written : insertRow "notifications" state.notifications _ _ with ⟨reply, extended⟩
            rw [written] at outcome
            obtain ⟨rfl, rfl⟩ := Prod.mk.inj outcome
            obtain ⟨-, -, rfl⟩ := insertRow_ok_iff.mp written
            exact ⟨row, (mem_insert ..).mpr (.inl member), named⟩
      | markEmailSent notificationId =>
          obtain ⟨row, member, named⟩ := present
          change ∃ row ∈ (state.markEmailSent notificationId).2.notifications.rows, row.id = id
          unfold World.markEmailSent
          split
          · exact ⟨row, member, named⟩
          · have same : (editRow notificationId state.emailSentEdit row).id = row.id :=
              key_editRow notificationId state.emailSentEdit row
            exact ⟨_, List.mem_map.mpr ⟨row, member, rfl⟩, same.trans named⟩
      | getRequest | getPreferences => exact present
      | _ => exact notifying.elim
  | utcNow => exact notifying.elim
  | _ => exact present

theorem run_createNotification (recipient : world.hasProfile recipientId = true)
    (related : requestId.all world.hasRequest = true) :
    (orTranslate (.createNotification recipientId notificationType message requestId) :
        Service NotificationRecord).run environment world =
      (.ok ((world.newNotification recipientId notificationType message requestId).build world.notifications.next),
        World.tick { world with
          notifications := world.notifications.insert
            (world.newNotification recipientId notificationType message requestId) }) := by
  have accepted : World.firstViolated [("foreign_key", world.hasProfile recipientId),
      ("foreign_key", requestId.all world.hasRequest)] = none := by
    simp [World.firstViolated, recipient, related]
  have inserted : insertRow "notifications" world.notifications
      (world.newNotification recipientId notificationType message requestId)
      (fun notification => World.firstViolated [("foreign_key", world.hasProfile notification.recipientId),
        ("foreign_key", notification.requestId.all world.hasRequest)]) =
      (.ok _, world.notifications.insert (world.newNotification recipientId notificationType message requestId)) :=
    insertRow_ok_iff.mpr ⟨accepted, rfl, rfl⟩
  rw [run_orTranslate]
  simp only [World.execute, World.createNotification, inserted]
  rfl

/-- What follows the insertion. -/
def dispatchNotification (emailEnabled : Bool) (created : NotificationRecord) : Service (Option NotificationRecord) := do
  if !emailEnabled then return some created
  let mailer ← ask .readMailer
  if mailer.background then
    ask (.submitEmail created)
    return some created
  return some (← attemptEmailDispatch created)

theorem notifying_dispatchNotification (emailEnabled : Bool) (created : NotificationRecord) :
    (dispatchNotification emailEnabled created).Only NotifyingCall := by
  unfold dispatchNotification
  split
  · trivial
  · refine Only.bind ((only_ask _).mpr trivial) fun mailer => ?_
    split
    · exact Only.bind ((only_ask _).mpr trivial) fun _ => trivial
    · have delivering := @delivering_attemptEmailDispatch created.recipientId created.requestId created.notificationType created
      exact Only.bind (delivering.mono fun _ => DeliveryCall.notifying) fun _ => trivial

theorem calls_orTranslate (statement : Query) : (orTranslate statement).calls environment world = [.query statement] := by
  rw [orTranslate, calls_bind, run_attempt]
  simp only [callsAfter]
  cases (world.execute statement).1 with
  | error error => rfl
  | ok result => rfl

theorem calls_effectivePreference :
    (effectivePreference viewer recipientId notificationType).calls environment world =
      [.query (.getPreferences viewer recipientId)] := by
  rw [effectivePreference, calls_bind, calls_orTranslate, run_orTranslate]
  simp only [World.execute, Except.mapError, callsAfter]
  split <;> rfl

/-- The insertion takes place exactly if the preference shown to the client enables it. -/
theorem creates_iff (recipient : world.hasProfile recipientId = true)
    (related : requestId.all world.hasRequest = true) :
    Creates viewer recipientId requestId notificationType message world ↔
      (shownPreference viewer world recipientId notificationType).1 = true := by
  have recipientThere : world.tick.hasProfile recipientId = true := recipient
  have relatedThere : requestId.all world.tick.hasRequest = true := related
  unfold Creates createAndDispatch
  rw [run_bind, run_effectivePreference, continueRun_ok]
  rcases shownPreference viewer world recipientId notificationType with ⟨_ | _, emailEnabled⟩
  · apply iff_of_false
    · intro created
      obtain ⟨row, member, fresh⟩ := created
      have present : world.notifications.find? row.id = some row := find?_of_mem _ member
      exact Option.some_ne_none row (present.symm.trans fresh)
    · exact Bool.false_ne_true
  · apply iff_of_true _ rfl
    simp only [Bool.not_true, Bool.false_eq_true, if_false]
    rw [run_bind, run_createNotification recipientThere relatedThere, continueRun_ok]
    let draft := world.tick.newNotification recipientId notificationType message requestId
    have inserted : ∃ row ∈ (world.notifications.insert draft).rows, row.id = world.notifications.next :=
      ⟨draft.build world.notifications.next, (mem_insert ..).mpr (.inr rfl), rfl⟩
    obtain ⟨row, member, named⟩ :=
      @inserted_kept (World.tick { world.tick with notifications := world.notifications.insert draft }) _ _
        (notifying_dispatchNotification emailEnabled (draft.build world.notifications.next)) _ inserted
    refine ⟨row, member, ?_⟩
    rw [named]
    exact find?_next _

theorem attemptsEmail_iff (recipient : world.hasProfile recipientId = true)
    (related : requestId.all world.hasRequest = true) :
    AttemptsEmail viewer recipientId requestId notificationType message world ↔
      (shownPreference viewer world recipientId notificationType).1 = true ∧
        (shownPreference viewer world recipientId notificationType).2 = true := by
  have recipientThere : world.tick.hasProfile recipientId = true := recipient
  have relatedThere : requestId.all world.tick.hasRequest = true := related
  unfold AttemptsEmail createAndDispatch
  rw [calls_bind, calls_effectivePreference, run_effectivePreference]
  rcases shownPreference viewer world recipientId notificationType with ⟨_ | _, emailEnabled⟩
  · simp [callsAfter]
  · simp only [callsAfter, Bool.not_true, Bool.false_eq_true, if_false]
    rw [calls_bind, calls_orTranslate, run_createNotification recipientThere relatedThere]
    cases emailEnabled with
    | false => simp [callsAfter]
    | true => simp [callsAfter, ask]

/-- After any updates of its recipient, a notification is delivered as the recipient's latest preference says, exactly
if no client is bound, the recipient's own is, or the latest preference enables everything. -/
theorem delivered_as_preferred_iff (recipient : AuthenticatedIdentity) (history : List PreferenceUpdate)
    (known : world.hasProfile recipient.userId = true) (related : requestId.all world.hasRequest = true) :
    ((Creates viewer recipient.userId requestId notificationType message (afterUpdates recipient history world) ↔
          (latestPreference notificationType (storedPreference world recipient.userId notificationType) history).1 =
            true) ∧
        (AttemptsEmail viewer recipient.userId requestId notificationType message
            (afterUpdates recipient history world) ↔
          (latestPreference notificationType (storedPreference world recipient.userId notificationType) history).1 =
              true ∧
            (latestPreference notificationType (storedPreference world recipient.userId notificationType) history).2 =
              true)) ↔
      (viewer = none ∨ viewer = some recipient.userId ∨
        latestPreference notificationType (storedPreference world recipient.userId notificationType) history =
          (true, true)) := by
  obtain ⟨profiles, requests⟩ := @known_afterUpdates world recipient history recipient.userId
  rw [creates_iff (profiles.trans known) (requests ▸ related), attemptsEmail_iff (profiles.trans known)
    (requests ▸ related), shownPreference, storedPreference_afterUpdates history known]
  generalize latestPreference notificationType (storedPreference world recipient.userId notificationType) history =
    latest
  by_cases own : (viewer.all fun caller => recipient.userId == caller) = true
  · rw [if_pos own]
    apply iff_of_true ⟨Iff.rfl, Iff.rfl⟩
    cases viewer with
    | none => exact .inl rfl
    | some caller =>
        obtain rfl : recipient.userId = caller := eq_of_beq own
        exact .inr (.inl rfl)
  · rw [if_neg own]
    have other : viewer ≠ none ∧ viewer ≠ some recipient.userId := by
      constructor
      · rintro rfl
        exact own rfl
      · rintro rfl
        exact own (beq_self_eq_true recipient.userId)
    rcases latest with ⟨_ | _, _ | _⟩ <;> simp [other.1, other.2]

end Delivery

section Sample

/-- The approver turns notifications of assignments off. -/
def assignmentsOff : PreferenceUpdate :=
  { bound := true, notificationType := .assignment, inAppEnabled := some false, emailEnabled := none }

def employeesRequest (id : UUID) : RequestRecord :=
  { id, requesterId := 1, workflowDefinitionId := 2, requestType := "travel", title := "Trip", description := none,
    department := none, status := .pending, currentStageId := none, version := 1, deletedAt := none,
    deletedBy := none, createdAt := 0, updatedAt := 0, completedAt := none, companyId := 9 }

/-- The sample hub with a request of the employee. -/
def hubWithTrip : World :=
  { sampleHub with requests := sampleHub.requests.insert ⟨employeesRequest, fun _ => rfl⟩ }

theorem delivered_as_preferred_iff_sample :
    hubWithTrip.hasProfile sampleApprover.userId = true ∧ (some 1 : Option UUID).all hubWithTrip.hasRequest = true ∧
      (((Creates none sampleApprover.userId (some 1) .assignment "Review it."
            (afterUpdates sampleApprover [assignmentsOff] hubWithTrip) ↔
          (latestPreference .assignment (storedPreference hubWithTrip 2 .assignment) [assignmentsOff]).1 = true) ∧
        (AttemptsEmail none sampleApprover.userId (some 1) .assignment "Review it."
            (afterUpdates sampleApprover [assignmentsOff] hubWithTrip) ↔
          (latestPreference .assignment (storedPreference hubWithTrip 2 .assignment) [assignmentsOff]).1 = true ∧
            (latestPreference .assignment (storedPreference hubWithTrip 2 .assignment) [assignmentsOff]).2 = true)) ↔
      ((none : Option UUID) = none ∨ none = some sampleApprover.userId ∨
        latestPreference .assignment (storedPreference hubWithTrip 2 .assignment) [assignmentsOff] = (true, true))) := by
  have known : hubWithTrip.hasProfile sampleApprover.userId = true := by decide +kernel
  have related : (some 1 : Option UUID).all hubWithTrip.hasRequest = true := by decide +kernel
  exact ⟨known, related, delivered_as_preferred_iff sampleApprover [assignmentsOff] known related⟩

/-- The approver turned notifications of assignments off: a worker sends none, but the request of another user does. -/
theorem assignment_sent_by_another :
    latestPreference .assignment (storedPreference hubWithTrip 2 .assignment) [assignmentsOff] = (false, true) ∧
      ((notifyAssignment none 2 1 "Review it.").run environment
        (afterUpdates sampleApprover [assignmentsOff] hubWithTrip)).2.notifications.rows.length = 0 ∧
      ((notifyAssignment (some sampleEmployee.userId) 2 1 "Review it.").run environment
        (afterUpdates sampleApprover [assignmentsOff] hubWithTrip)).2.notifications.rows.length = 1 := by
  decide +kernel

end Sample

end AutomationHub.System
