import AutomationHub.Companies.CompanyLicenses
import AutomationHub.System.NotificationContexts

/-!
Two partial updates that set different fields of one preference, or of one licence, at the
same time.
-/

set_option autoImplicit false

namespace AutomationHub.System

open Foundation Model Auth Database Services Companies Program

inductive PreferenceField where
  | inApp
  | email
deriving DecidableEq

abbrev PreferencePatch := Patch fun _ : PreferenceField => Bool

def preferenceRow (flags : Bool × Bool) : PreferenceField → Bool
  | .inApp => flags.1
  | .email => flags.2

/-- What the rows of a user say of a type. -/
def effectiveFlags (notificationType : NotificationType) (rows : List NotificationPreferenceRecord) : Bool × Bool :=
  ((rows.find? fun preference => preference.notificationType == notificationType).map
    fun preference => (preference.inAppEnabled, preference.emailEnabled)).getD (true, true)

def preferenceAccess (notificationType : NotificationType) : RowAccess hubSignature (PreferenceField → Bool) where
  reads
    | .query (.getPreferences _ _), .ok rows => some (preferenceRow (effectiveFlags notificationType rows))
    | _, _ => none
  writes
    | .query (.upsertPreference _ _ _ inAppEnabled emailEnabled), .ok _ => some (preferenceRow (inAppEnabled, emailEnabled))
    | _, _ => none

/-- The statements about one preference of a user, sent with either client. -/
def ConcernsPreference (identity : AuthenticatedIdentity) (notificationType : NotificationType) (call : Call) : Prop :=
  ∃ bound, call = .query (.getPreferences (clientOf bound identity) identity.userId) ∨
    ∃ inAppEnabled emailEnabled, call = .query
      (.upsertPreference (clientOf bound identity) identity.userId notificationType inAppEnabled emailEnabled)

/-- A call is answered by the environment, or the database fails its statement and nothing changes. -/
inductive Answered {ι : Type} : Effect hubSignature World ι
  | environment (thread : ι) (world : World) (call : Call) :
      Answered thread world call (environment call world).1 (environment call world).2
  | failed (thread : ι) (world : World) (statement : Query) (error : DatabaseError) :
      Answered thread world (.query statement) (.error error) world.tick

section Preferences

variable {identity : AuthenticatedIdentity} {notificationType : NotificationType}

theorem effectiveFlags_shown (bound : Bool) (world : World) :
    effectiveFlags notificationType (world.preferences.rows.filter fun preference =>
        World.preferenceVisible (clientOf bound identity) preference && preference.userId == identity.userId) =
      storedPreference world identity.userId notificationType := by
  have own : ((clientOf bound identity).all fun caller => identity.userId == caller) = true := by
    cases bound
    · rfl
    · exact beq_self_eq_true identity.userId
  rw [shown_rows, if_pos own, effectiveFlags, List.find?_filter, storedPreference]
  simp only [Bool.decide_and, Bool.decide_eq_true]

theorem upsertPreference_refused {world : World} {viewer : Option UUID} {userId : UUID} {inAppEnabled emailEnabled : Bool}
    (refused : (world.upsertPreference viewer userId notificationType inAppEnabled emailEnabled).1.toBool = false) :
    (world.upsertPreference viewer userId notificationType inAppEnabled emailEnabled).2.preferences = world.preferences := by
  unfold World.upsertPreference at refused ⊢
  split at refused
  · rename_i permitted
    rw [if_pos permitted]
    cases found : world.preferences.rows.find? fun preference =>
      preference.userId == userId && preference.notificationType == notificationType with
    | some existing =>
        rw [found] at refused
        cases refused
    | none =>
        rw [found] at refused
        rcases inserted : insertRow "notification_preferences" world.preferences
          (world.newPreference userId notificationType inAppEnabled emailEnabled)
          (fun preference => World.firstViolated [("foreign_key", world.hasProfile preference.userId)]) with
          ⟨_ | row, extended⟩
        · simp only
          exact insertRow_error inserted
        · simp only [inserted] at refused
          cases refused
  · rename_i denied
    rw [if_neg denied]

theorem storedPreference_reply (identity : AuthenticatedIdentity) (bound : Bool) (notificationType : NotificationType) (inAppEnabled emailEnabled : Bool)
    (world : World) :
    storedPreference (world.upsertPreference (clientOf bound identity) identity.userId notificationType inAppEnabled
        emailEnabled).2 identity.userId notificationType =
      match (world.upsertPreference (clientOf bound identity) identity.userId notificationType inAppEnabled
        emailEnabled).1 with
      | .ok _ => (inAppEnabled, emailEnabled)
      | .error _ => storedPreference world identity.userId notificationType := by
  have accepted := @storedPreference_upsert world identity bound notificationType notificationType inAppEnabled emailEnabled
  have refused := @upsertPreference_refused notificationType world (clientOf bound identity) identity.userId inAppEnabled
    emailEnabled
  rcases upserted : world.upsertPreference (clientOf bound identity) identity.userId notificationType inAppEnabled
    emailEnabled with ⟨_ | row, after⟩
  · rw [upserted] at refused
    have same : after.preferences = world.preferences := refused rfl
    simp only [storedPreference, same]
  · rw [upserted] at accepted
    have stored := accepted rfl
    rwa [if_pos rfl] at stored

theorem lawful_preferenceAccess {ι : Type} :
    (preferenceAccess notificationType).Lawful (ConcernsPreference identity notificationType) (@Answered ι)
      (fun world => preferenceRow (storedPreference world identity.userId notificationType)) := by
  constructor
  · intro thread world call reply after concerned answered row read
    obtain ⟨bound, rfl | ⟨inAppEnabled, emailEnabled, rfl⟩⟩ := concerned
    · cases answered with
      | environment =>
          have same : row = preferenceRow (effectiveFlags notificationType _) := (Option.some.inj read).symm
          rw [same, effectiveFlags_shown]
      | failed => cases read
    · cases read
  · intro thread world call reply after concerned answered
    obtain ⟨bound, rfl | ⟨inAppEnabled, emailEnabled, rfl⟩⟩ := concerned
    · cases answered <;> rfl
    · cases answered with
      | failed => rfl
      | environment =>
          have stored := storedPreference_reply identity bound notificationType inAppEnabled emailEnabled world
          rcases upserted : world.upsertPreference (clientOf bound identity) identity.userId notificationType inAppEnabled
            emailEnabled with ⟨reply, after⟩
          have ran : environment (.query (.upsertPreference (clientOf bound identity) identity.userId notificationType
              inAppEnabled emailEnabled)) world = (reply, after.tick) := by
            simp only [environment, World.execute, upserted]
          rw [upserted] at stored
          rw [ran]
          cases reply with
          | ok row => exact congrArg preferenceRow stored
          | error error => exact congrArg preferenceRow stored
  · intro call reply
    cases call with
    | query statement =>
        cases statement with
        | getPreferences viewer userId => exact .inr rfl
        | _ => exact .inl rfl
    | _ => exact .inl rfl

theorem merged_preferenceRow (patch : PreferencePatch) (current : Bool × Bool) :
    preferenceRow ((patch .inApp).getD current.1, (patch .email).getD current.2) = patch.apply (preferenceRow current) := by
  funext field
  cases field <;> rfl

theorem effectivePreference_eq (viewer : Option UUID) (userId : UUID) :
    effectivePreference viewer userId notificationType =
      (orTranslate (.getPreferences viewer userId) >>= fun rows => .done (effectiveFlags notificationType rows)) := by
  unfold effectivePreference
  congr 1
  funext rows
  unfold effectiveFlags
  cases rows.find? fun preference => preference.notificationType == notificationType <;> rfl

/-- An update reads the user's preferences, writes the one it is about once, and succeeds only after that. -/
theorem follows_updatePreference (bound : Bool) (patch : PreferencePatch) :
    (updatePreference (clientOf bound identity) identity notificationType (patch .inApp) (patch .email) >>=
        fun _ => .done ()).Ensures
      (merging (preferenceAccess notificationType) (ConcernsPreference identity notificationType) patch.apply) WrittenOnce
      .starting := by
  unfold updatePreference
  rw [effectivePreference_eq, bind_assoc, bind_assoc]
  refine ⟨⟨⟨bound, .inl rfl⟩, fun _ => rfl⟩, ?_⟩
  intro rows phase read
  subst read
  cases rows with
  | error error =>
      intro returned
      cases returned
  | ok rows =>
      refine ⟨⟨⟨bound, .inr ⟨_, _, rfl⟩⟩, fun _ => ⟨rfl, ?_⟩⟩, ?_⟩
      · intro whole written
        rename_i reply
        cases reply with
        | error error => cases written
        | ok updated =>
            exact (Option.some.inj written).symm.trans (merged_preferenceRow patch (effectiveFlags notificationType rows))
      · intro updated phase wrote
        subst wrote
        cases updated with
        | error error =>
            intro returned
            cases returned
        | ok updated => exact fun _ => rfl

end Preferences

section Races

variable {Field : Type} {Value : Field → Type} {patches : Bool → Patch Value}

/-- Both patches are carried by what the second of two writers merged into what it had read, exactly if what it had read
carried the first one. -/
theorem carried_iff_of_merged (apart : (patches false).Apart (patches true)) {row final : (field : Field) → Value field}
    {earlier later : Bool} (different : earlier ≠ later) (merged : final = (patches later).apply row) :
    (∀ thread, (patches thread).Carried final) ↔ (patches earlier).Carried row := by
  have separate : (patches earlier).Apart (patches later) := by
    cases earlier <;> cases later
    · exact absurd rfl different
    · exact apart
    · exact apart.symm
    · exact absurd rfl different
  subst merged
  constructor
  · intro both
    exact (Patch.carried_apply_iff separate).mp (both earlier)
  · intro carried thread
    by_cases mine : thread = later
    · subst mine
      exact Patch.carried_apply (patches thread) row
    · have other : thread = earlier := by
        cases thread <;> cases earlier <;> cases later <;> simp_all
      rw [other]
      exact (Patch.carried_apply_iff separate).mpr carried

end Races

/-- Two successful partial updates of one preference, or of one licence, that set different fields: in whatever order their
calls come, the row carries both exactly if the one that wrote last had read a row that carried the other. -/
theorem partial_updates_carried_iff (identity : AuthenticatedIdentity) (bound : Bool → Bool)
    (notificationType : NotificationType) (patches : Bool → PreferencePatch) (apart : (patches false).Apart (patches true))
    {world : World} {events : List (Event hubSignature Bool)} {last : Pool hubSignature AppError World Bool}
    (run : Pool.Run Answered ⟨world, fun thread => updatePreference (clientOf (bound thread) identity) identity
      notificationType (patches thread .inApp) (patches thread .email) >>= fun _ => .done ()⟩ events last)
    (succeeded : ∀ thread, last.threads thread = .done ()) :
    (∃ earlier later row, writers (preferenceAccess notificationType) events = [earlier, later] ∧
      rowRead (preferenceAccess notificationType) later events = some row ∧
      ((∀ thread, (patches thread).Carried
          (preferenceRow (storedPreference last.shared identity.userId notificationType))) ↔
        (patches earlier).Carried row)) ∧
    ∀ (identities : Bool → AuthenticatedIdentity) (admin : Bool → Bool) (companyId : UUID) (updates : Bool → LicenseUpdate),
      ((updates false).patch.Apart (updates true).patch) →
      ∀ (store : LicenseStore) (events : List (Event licenseSignature Bool))
        (last : Pool licenseSignature AppError LicenseStore Bool),
        Pool.Run licensing ⟨store, fun thread => updateLicense (identities thread) (admin thread) companyId (updates thread) >>=
          fun _ => .done ()⟩ events last →
        (∀ thread, last.threads thread = .done ()) →
        ∃ earlier later row, writers licenseAccess events = [earlier, later] ∧
          rowRead licenseAccess later events = some row ∧
          ((∀ thread, (updates thread).patch.Carried (currentRow (last.shared.licenses companyId))) ↔
            (updates earlier).patch.Carried row) := by
  constructor
  · obtain ⟨earlier, later, row, different, order, read, merged⟩ := merged_of_run lawful_preferenceAccess run
      (fun thread => follows_updatePreference (bound thread) (patches thread)) succeeded
    exact ⟨earlier, later, row, order, read, carried_iff_of_merged apart different merged⟩
  · intro identities admin companyId updates apart store events last run succeeded
    obtain ⟨earlier, later, row, different, order, read, merged⟩ := merged_of_run lawful_licenseAccess run
      (fun thread => follows_updateLicense (identities thread) (admin thread) (updates thread)) succeeded
    exact ⟨earlier, later, row, order, read, carried_iff_of_merged apart different merged⟩

section Samples

/-- One update turns the notifications of assignments off, the other one their e-mails. -/
def samplePatches : Bool → PreferencePatch
  | false, .inApp => some false
  | true, .email => some false
  | _, _ => none

theorem apart_samplePatches : (samplePatches false).Apart (samplePatches true) := by
  intro field
  cases field
  · exact .inr rfl
  · exact .inl rfl

def twoUpdates : Pool hubSignature AppError World Bool :=
  ⟨hubWithTrip, fun thread => updatePreference (clientOf true sampleApprover) sampleApprover .assignment
    (samplePatches thread .inApp) (samplePatches thread .email) >>= fun _ => .done ()⟩

theorem sample_runs (schedule : List Bool) :
    Pool.Run Answered twoUpdates (twoUpdates.trace environment schedule) (twoUpdates.play environment schedule) :=
  Pool.play_runs environment (fun thread world call => .environment thread world call) twoUpdates schedule

theorem partial_updates_carried_iff_sample :
    ∃ events last, Pool.Run Answered twoUpdates events last ∧ (∀ thread, last.threads thread = .done ()) ∧
      ∀ thread, (samplePatches thread).Carried (preferenceRow (storedPreference last.shared 2 .assignment)) := by
  have run := sample_runs [true, true, false, false]
  have succeeded : ∀ thread, (twoUpdates.play environment [true, true, false, false]).threads thread = .done () := by
    intro thread
    cases thread <;> exact Program.returned?_eq_some_iff.mp (by decide +kernel)
  obtain ⟨earlier, later, row, order, read, carried⟩ :=
    (partial_updates_carried_iff sampleApprover (fun _ => true) .assignment samplePatches apart_samplePatches run succeeded).1
  have order' : writers (preferenceAccess .assignment) (twoUpdates.trace environment [true, true, false, false]) =
      [true, false] := by decide +kernel
  have email : (rowRead (preferenceAccess .assignment) false
      (twoUpdates.trace environment [true, true, false, false])).map (fun row => row .email) = some false := by decide +kernel
  obtain ⟨rfl, rfl⟩ : earlier = true ∧ later = false := by simpa [order'] using order
  rw [read] at email
  refine ⟨_, _, run, succeeded, carried.mpr ?_⟩
  intro field value set
  cases field with
  | inApp => cases set
  | email =>
      cases set
      exact Option.some.inj email

/-- Both updates read the preference before either has written it: the second write undoes the first. -/
theorem concurrent_update_lost :
    ¬ ∀ (events : List (Event hubSignature Bool)) (last : Pool hubSignature AppError World Bool),
        Pool.Run Answered twoUpdates events last → (∀ thread, last.threads thread = .done ()) →
        ∀ thread, (samplePatches thread).Carried (preferenceRow (storedPreference last.shared 2 .assignment)) := by
  intro carried
  have succeeded : ∀ thread, (twoUpdates.play environment [true, false, true, false]).threads thread = .done () := by
    intro thread
    cases thread <;> exact Program.returned?_eq_some_iff.mp (by decide +kernel)
  have kept := carried _ _ (sample_runs [true, false, true, false]) succeeded true .email false rfl
  revert kept
  decide +kernel

end Samples

end AutomationHub.System
