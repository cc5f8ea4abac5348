import AutomationHub.Users.UserService

/-!
Whether a company keeps an administrator, over any interleaving of profile updates and
erasures by its administrators.
-/

set_option autoImplicit false

namespace AutomationHub.Users

open Foundation Model Auth Database Program Table Pool

def ActiveAdministrator (companyId : UUID) (profile : ProfileRecord) : Prop :=
  profile.companyId = companyId ∧ profile.role = .admin ∧ profile.isActive = true ∧ profile.deletedAt = none

instance (companyId : UUID) : DecidablePred (ActiveAdministrator companyId) := fun profile =>
  inferInstanceAs (Decidable (profile.companyId = companyId ∧ profile.role = .admin ∧ profile.isActive = true ∧
    profile.deletedAt = none))

def HasAdministrator (companyId : UUID) (state : UserStore) : Prop :=
  ∃ profile ∈ state.profiles.rows, ActiveAdministrator companyId profile

/-- The call takes the role of an administrator, the activity or the identity of a user. -/
def UserCall.removes : UserCall → Bool
  | .updateProfile _ _ role _ isActive => role.any (· != .admin) || isActive == some false
  | .erase .. => true
  | _ => false

/-- The call gives the caller's own profile another role than administrator. -/
def UserCall.demotes (userId : UUID) : UserCall → Bool
  | .updateProfile profileId _ role _ _ => profileId == userId && role.any (· != .admin)
  | _ => false

def UserCall.target : UserCall → Option UUID
  | .updateProfile profileId .. | .erase profileId .. => some profileId
  | _ => none

/-- A call that takes something from a user is made while its caller is still an active administrator and is not the
one demoted, or while the company has an active administrator besides the user. -/
def Attended (identity : AuthenticatedIdentity) (state : UserStore) (call : UserCall) : Prop :=
  call.removes = true →
    (call.demotes identity.userId = false ∧
      ∃ caller, state.profiles.find? identity.userId = some caller ∧ ActiveAdministrator identity.companyId caller) ∨
    ∃ other ∈ state.profiles.rows, some other.id ≠ call.target ∧ ActiveAdministrator identity.companyId other

section Threads

variable {ι : Type} [DecidableEq ι]

def launchUsers (placeholders : Placeholders) (operations : ι → UserOperation) (store : UserStore) :
    Pool userSignature UserFault UserStore ι where
  shared := store
  threads := fun thread => (operations thread).program placeholders

/-- Any call, struck or not. -/
def unattended : Effect userSignature UserStore ι := fun _ state call reply after => userStep state call reply after

def attended (operations : ι → UserOperation) : Effect userSignature UserStore ι :=
  fun thread state call reply after =>
    userStep state call reply after ∧ Attended (operations thread).identity state call

end Threads

section Programs

variable {identity : AuthenticatedIdentity} {userId : UUID}

/-- The calls that an operation may make: it neither deactivates nor erases its caller. -/
def SparesCaller (identity : AuthenticatedIdentity) : UserCall → Prop
  | .updateProfile profileId _ _ _ isActive => isActive = some false → profileId ≠ identity.userId
  | .erase profileId .. => profileId ≠ identity.userId
  | _ => True

theorem only_perform {allowed : UserCall → Prop} {call : UserCall} (permitted : allowed call) :
    (perform call).Only allowed :=
  only_fallible (fun reply => by cases reply <;> rfl) permitted

theorem only_translating {allowed : UserCall → Prop} {call : UserCall} (permitted : allowed call) :
    (translating (perform call)).Only allowed := by
  apply (only_perform permitted).tryCatch
  intro fault
  cases fault <;> trivial

theorem only_getInTenant {allowed : UserCall → Prop} (fetched : allowed (.getProfile userId)) :
    (getInTenant identity userId).Only allowed := by
  apply (only_translating fetched).bind
  intro profile
  split <;> trivial

theorem only_authorize {allowed : UserCall → Prop} : (authorize identity).Only allowed := by
  unfold authorize
  split <;> trivial

theorem only_recordUpdate {allowed : UserCall → Prop}
    (recorded : ∀ action, action ≠ .profileErased →
      allowed (.recordEvent action identity.userId identity.companyId userId))
    (role : Option UserRole) (department : Option String) (isActive : Option Bool) :
    (recordUpdate identity userId role department isActive).Only allowed := by
  unfold recordUpdate
  cases isActive with
  | none =>
      dsimp only
      split
      · exact only_perform (recorded _ (by decide))
      · trivial
  | some active =>
      apply Only.bind (only_perform (recorded _ (by cases active <;> decide)))
      intro _
      split
      · exact only_perform (recorded _ (by decide))
      · trivial

theorem only_updateProfile {allowed : UserCall → Prop} {expectedVersion : Nat} {role : Option UserRole}
    {department : Option String} {isActive : Option Bool} (fetched : allowed (.getProfile userId))
    (updated : ¬ (isActive = some false ∧ userId = identity.userId) →
      allowed (.updateProfile userId expectedVersion role department isActive))
    (recorded : ∀ action, action ≠ .profileErased →
      allowed (.recordEvent action identity.userId identity.companyId userId)) :
    (updateProfile identity userId expectedVersion role department isActive).Only allowed := by
  apply Only.bind only_authorize
  intro _
  split
  · trivial
  · rename_i spared
    apply Only.bind (only_getInTenant fetched)
    intro _
    apply Only.bind (only_translating (updated spared))
    intro _
    exact Only.bind (only_recordUpdate recorded role department isActive) fun _ => trivial

theorem only_eraseUser {allowed : UserCall → Prop} {placeholders : Placeholders} {expectedVersion : Nat}
    (fetched : allowed (.getProfile userId)) (anonymized : allowed (.anonymizeUser userId (placeholders.email userId)))
    (erased : userId ≠ identity.userId →
      allowed (.erase userId expectedVersion identity.userId (placeholders.fullName userId)))
    (recorded : allowed (.recordEvent .profileErased identity.userId identity.companyId userId)) :
    (eraseUser placeholders identity userId expectedVersion).Only allowed := by
  apply Only.bind only_authorize
  intro _
  split
  · trivial
  · rename_i spared
    apply Only.bind (only_getInTenant fetched)
    intro existing
    split
    · trivial
    · apply Only.bind (only_perform anonymized)
      intro _
      apply Only.bind (only_translating (erased spared))
      intro _
      exact Only.bind (only_perform recorded) fun _ => trivial

theorem UserOperation.sparesCaller (placeholders : Placeholders) (operation : UserOperation) :
    (operation.program placeholders).Only (SparesCaller operation.identity) := by
  cases operation with
  | updateProfile =>
      refine Only.bind (only_updateProfile trivial ?_ fun _ _ => trivial) fun _ => trivial
      intro spared deactivated own
      exact spared ⟨deactivated, own⟩
  | eraseUser => exact Only.bind (only_eraseUser trivial trivial id trivial) fun _ => trivial

end Programs

section Steps

variable {identity : AuthenticatedIdentity} {companyId profileId expectedVersion : Nat} {state after : UserStore}
  {edit : Edit ProfileRecord}

theorem write_rows (state : UserStore) (profileId expectedVersion : Nat) (edit : Edit ProfileRecord) :
    (state.write profileId expectedVersion edit).2.profiles = state.profiles ∨
      (state.write profileId expectedVersion edit).2.profiles =
        state.profiles.modify profileId (stamped edit expectedVersion) := by
  rcases outcome : updateWithOptimisticLock "profiles" state.profiles profileId expectedVersion edit fun _ => none with
    ⟨_ | written, profiles⟩
  · left
    simp only [UserStore.write, outcome]
    exact updateWithOptimisticLock_error outcome
  · right
    obtain ⟨_, _, _, _, _, same⟩ := updateWithOptimisticLock_ok_iff.mp outcome
    simp only [UserStore.write, outcome, same]

theorem write_spares {profile : ProfileRecord} (member : profile ∈ state.profiles.rows)
    (active : ActiveAdministrator companyId profile) (apart : profile.id ≠ profileId) :
    HasAdministrator companyId (state.write profileId expectedVersion edit).2 := by
  refine ⟨profile, ?_, active⟩
  rcases write_rows state profileId expectedVersion edit with same | same
  · rwa [same]
  · rw [same, mem_modify]
    exact .inl ⟨member, apart⟩

theorem write_keeps (kept : HasAdministrator companyId state)
    (harmless : ∀ profile, ActiveAdministrator companyId profile → ActiveAdministrator companyId (edit.apply profile)) :
    HasAdministrator companyId (state.write profileId expectedVersion edit).2 := by
  obtain ⟨profile, member, active⟩ := kept
  by_cases written : profile.id = profileId
  · rcases write_rows state profileId expectedVersion edit with same | same
    · exact ⟨profile, by rwa [same], active⟩
    · refine ⟨(stamped edit expectedVersion).apply profile, ?_, harmless profile active⟩
      rw [same, mem_modify]
      exact .inr ⟨profile, member, written, rfl⟩
  · exact write_spares member active written

theorem profileEdit_harmless {profile : ProfileRecord} (now : Datetime) {role : Option UserRole}
    (department : Option String) {isActive : Option Bool} (keepsRole : role.any (· != .admin) = false)
    (keepsActive : isActive ≠ some false) (active : ActiveAdministrator companyId profile) :
    ActiveAdministrator companyId ((profileEdit now role department isActive).apply profile) := by
  obtain ⟨company, admin, enabled, live⟩ := active
  refine ⟨company, ?_, ?_, live⟩
  · cases role with
    | none => exact admin
    | some given => simpa [profileEdit] using keepsRole
  · cases isActive with
    | none => exact enabled
    | some given =>
        cases given with
        | true => rfl
        | false => exact absurd rfl keepsActive

/-- A removing call that its operation may make, and that is attended to, leaves out an active administrator. -/
theorem administrator_besides {call : UserCall} (spares : SparesCaller identity call)
    (attended : Attended identity state call) (removing : call.removes = true) :
    ∃ other ∈ state.profiles.rows, some other.id ≠ call.target ∧ ActiveAdministrator identity.companyId other := by
  rcases attended removing with ⟨kept, caller, found, active⟩ | other
  · obtain ⟨member, own⟩ := (find?_eq_some_iff ..).mp found
    refine ⟨caller, member, ?_, active⟩
    rintro target
    have named : caller.id = identity.userId := own
    cases call with
    | updateProfile profileId _ role _ isActive =>
        obtain rfl : caller.id = profileId := Option.some.inj target
        simp only [UserCall.demotes, named, beq_self_eq_true, Bool.true_and] at kept
        simp only [UserCall.removes, kept, Bool.false_or, beq_iff_eq] at removing
        exact spares removing named
    | erase profileId =>
        obtain rfl : caller.id = profileId := Option.some.inj target
        exact spares named
    | _ => cases target
  · exact other

theorem execute_keeps {call : UserCall} (kept : HasAdministrator identity.companyId state)
    (spares : SparesCaller identity call) (attended : Attended identity state call) :
    HasAdministrator identity.companyId (state.execute call).2 := by
  cases removing : call.removes with
  | true =>
      obtain ⟨other, member, apart, active⟩ := administrator_besides spares attended removing
      cases call with
      | updateProfile profileId expectedVersion role department isActive =>
          simp only [UserStore.execute, UserStore.updateProfile]
          split
          · exact kept
          · exact write_spares member active fun same => apart (congrArg some same)
      | erase => exact write_spares member active fun same => apart (congrArg some same)
      | _ => cases removing
  | false =>
      cases call with
      | updateProfile profileId expectedVersion role department isActive =>
          simp only [UserCall.removes, Bool.or_eq_false_iff, beq_eq_false_iff_ne] at removing
          simp only [UserStore.execute, UserStore.updateProfile]
          split
          · exact kept
          · exact write_keeps kept fun _ => profileEdit_harmless _ department removing.1 removing.2
      | erase => cases removing
      | _ => exact kept

theorem userStep_keeps {call : UserCall} {reply : Except UserFault call.Result}
    (kept : HasAdministrator identity.companyId state) (spares : SparesCaller identity call)
    (attended : Attended identity state call) (moved : userStep state call reply after) :
    HasAdministrator identity.companyId after := by
  have done : HasAdministrator identity.companyId (state.execute call).2 := execute_keeps kept spares attended
  rcases moved with ⟨-, rfl⟩ | ⟨_, -, -, rfl | rfl⟩
  · exact done
  · exact kept
  · exact done

end Steps

section Runs

variable {ι : Type} [DecidableEq ι]

/-- While every removing write is attended to, a company that has an active administrator keeps one. -/
theorem administrators_remain (placeholders : Placeholders) (operations : ι → UserOperation) (companyId : UUID)
    (sameCompany : ∀ thread, (operations thread).identity.companyId = companyId) (store : UserStore)
    (administered : HasAdministrator companyId store)
    {last : Pool userSignature UserFault UserStore ι} {events : List (Event userSignature ι)}
    (run : Pool.Run (attended operations) (launchUsers placeholders operations store) events last) :
    HasAdministrator companyId last.shared := by
  have spares : ∀ thread, ((launchUsers placeholders operations store).threads thread).Only
      (SparesCaller (operations thread).identity) :=
    fun thread => (operations thread).sparesCaller placeholders
  refine (run.confined (HasAdministrator companyId) ?_ spares administered).1
  rintro thread state call reply after kept spares ⟨moved, attended⟩
  rw [← sameCompany thread] at kept ⊢
  exact userStep_keeps kept spares attended moved

end Runs

section Samples

def administrator (id : UUID) : ProfileRecord where
  id := id
  fullName := "Administrator"
  role := .admin
  department := none
  version := 1
  createdAt := 0
  updatedAt := 0
  companyId := 9
  isPlatformAdmin := false
  isActive := true
  deletedAt := none
  deletedBy := none

def administratorIdentity (id : UUID) : AuthenticatedIdentity where
  userId := id
  role := .admin
  companyId := 9
  expiresAt := none

def plainPlaceholders : Placeholders where
  fullName := fun _ => "Erased user"
  email := fun _ => "erased@example.invalid"

/-- The profiles of two administrators. -/
def administeredByTwo : UserStore where
  clock := fun instant => instant
  ticks := 0
  profiles := ⟨[administrator 1, administrator 2], 3, by decide, by decide⟩
  anonymized := []

def administeredByOne : UserStore where
  clock := fun instant => instant
  ticks := 0
  profiles := ⟨[administrator 1], 2, by decide, by decide⟩
  anonymized := []

def deactivateOther (thread : Fin 2) : UserOperation :=
  if thread = 0 then .updateProfile (administratorIdentity 1) 2 1 none none (some false)
  else .updateProfile (administratorIdentity 2) 1 1 none none (some false)

def demoteOneself (_ : Fin 1) : UserOperation :=
  .updateProfile (administratorIdentity 1) 1 1 (some .employee) none none

theorem userHandler_unattended {ι : Type} (thread : ι) (state : UserStore) (call : UserCall) :
    unattended thread state call (userHandler call state).1 (userHandler call state).2 :=
  .inl ⟨rfl, rfl⟩

/-- The call takes nothing from a user, or its caller is an active administrator whom it does not demote. -/
def attendedCheck {ι : Type} (operations : ι → UserOperation) (thread : ι) (state : UserStore) (call : UserCall) : Bool :=
  !call.removes || (!call.demotes (operations thread).identity.userId &&
    (state.profiles.find? (operations thread).identity.userId).any
      (decide <| ActiveAdministrator (operations thread).identity.companyId ·))

theorem attended_of_check {ι : Type} (operations : ι → UserOperation) (thread : ι) (state : UserStore) (call : UserCall)
    (passed : attendedCheck operations thread state call = true) :
    attended operations thread state call (userHandler call state).1 (userHandler call state).2 := by
  refine ⟨userHandler_unattended thread state call, ?_⟩
  intro removing
  left
  simpa [attendedCheck, removing, Option.any_eq_true] using passed

/-- An administrator deactivates the other one. -/
theorem administrators_remain_sample :
    ∃ last events, Run (attended deactivateOther) (launchUsers plainPlaceholders deactivateOther administeredByTwo)
      events last ∧ (∃ profile ∈ last.shared.profiles.rows, profile.isActive = false) ∧ HasAdministrator 9 last.shared := by
  have run := play_runs_of_checked (attended_of_check deactivateOther)
    (launchUsers plainPlaceholders deactivateOther administeredByTwo) [0, 0, 0] (by decide +kernel)
  have administered : HasAdministrator 9 administeredByTwo := ⟨administrator 1, by decide +kernel, by decide +kernel⟩
  exact ⟨_, _, run, by decide +kernel,
    administrators_remain plainPlaceholders deactivateOther 9 (by decide) administeredByTwo administered run⟩

/-- Two administrators deactivate each other after both were authorized, and the only one of a company gives up the
role: none is left. -/
theorem no_administrator_remains :
    HasAdministrator 9 administeredByTwo ∧ HasAdministrator 9 administeredByOne ∧
      (∃ last events, Run unattended (launchUsers plainPlaceholders deactivateOther administeredByTwo) events last ∧
        ¬ HasAdministrator 9 last.shared) ∧
      ∃ last events, Run unattended (launchUsers plainPlaceholders demoteOneself administeredByOne) events last ∧
        ¬ HasAdministrator 9 last.shared := by
  have each := play_runs userHandler userHandler_unattended
    (launchUsers plainPlaceholders deactivateOther administeredByTwo) [0, 1, 0, 1, 0, 1]
  have own := play_runs userHandler userHandler_unattended
    (launchUsers plainPlaceholders demoteOneself administeredByOne) [0, 0, 0]
  refine ⟨⟨administrator 1, by decide +kernel, by decide +kernel⟩, ⟨administrator 1, by decide +kernel, by decide +kernel⟩,
    ⟨_, _, each, ?_⟩, _, _, own, ?_⟩
  · rw [HasAdministrator]
    decide +kernel
  · rw [HasAdministrator]
    decide +kernel

end Samples

end AutomationHub.Users
