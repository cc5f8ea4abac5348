import AutomationHub.Foundation.Writes
import AutomationHub.Users.UserService

/-!
The writes that updating and erasing a user plan, with their entries in the audit log.
-/

set_option autoImplicit false

namespace AutomationHub.Users

open Foundation Model Auth Database Program Table

def UserCall.writes : UserCall → Bool
  | .getProfile _ => false
  | _ => true

def userRule : WriteRule userSignature := fallibleRule UserFault UserCall.Result UserCall.writes

section Checks

variable (identity : AuthenticatedIdentity) (state : UserStore) (userId : UUID) (expectedVersion : Nat)

/-- The profile as it is found in the caller's company. -/
def UserStore.inTenant : Option ProfileRecord :=
  (state.profiles.find? userId).filter fun profile => profile.companyId == identity.companyId

/-- What the checks of `update_profile` and the version of the row ask of an update. -/
def UserStore.mayUpdate (role : Option UserRole) (department : Option String) (isActive : Option Bool) : Bool :=
  canManageUserRoles identity.role && !(isActive == some false && userId == identity.userId) &&
    (state.inTenant identity userId).isSome && !(role.isNone && department.isNone && isActive.isNone) &&
      (state.profiles.find? userId).any (·.version == expectedVersion)

/-- What the checks of `erase_user` ask before anything is erased. -/
def UserStore.mayErase : Bool :=
  canManageUserRoles identity.role && userId != identity.userId &&
    (state.inTenant identity userId).any (·.deletedAt.isNone)

/-- The entries of an update: one for the activity, one for the role and the department. -/
def updateEntries (role : Option UserRole) (department : Option String) (isActive : Option Bool) : List UserCall :=
  (isActive.toList.map fun active => .recordEvent (if active then .profileReactivated else .profileDeactivated)
    identity.userId identity.companyId userId) ++
  if role.isSome || department.isSome then
    [.recordEvent .profileUpdated identity.userId identity.companyId userId]
  else []

def updateWrites (role : Option UserRole) (department : Option String) (isActive : Option Bool) : List UserCall :=
  .updateProfile userId expectedVersion role department isActive :: updateEntries identity userId role department isActive

/-- The account, the profile and the entry of an erasure. -/
def eraseWrites (placeholders : Placeholders) : List UserCall :=
  [.anonymizeUser userId (placeholders.email userId),
    .erase userId expectedVersion identity.userId (placeholders.fullName userId),
    .recordEvent .profileErased identity.userId identity.companyId userId]

end Checks

section Rules

variable {α : Type} {state after : UserStore} {call : UserCall} {planned : List UserCall}

theorem userHandler_of_execute {reply : Except UserFault call.Result} (executed : state.execute call = (reply, after)) :
    userHandler call state = (reply, after.tick) := by
  rw [userHandler, executed]

theorem plans_perform {result : call.Result} {next : call.Result → UserProgram α} (isWrite : call.writes = true)
    (answered : userHandler call state = (.ok result, after)) (rest : (next result).Plans userRule userHandler after planned) :
    (perform call >>= next).Plans userRule userHandler state (call :: planned) :=
  plans_fallible isWrite (fun _ => trivial) answered rfl rest

theorem plans_translating {result : call.Result} {next : call.Result → UserProgram α} (isWrite : call.writes = true)
    (answered : userHandler call state = (.ok result, after)) (rest : (next result).Plans userRule userHandler after planned) :
    (translating (perform call) >>= next).Plans userRule userHandler state (call :: planned) :=
  plans_fallible isWrite (fun fault => by cases fault <;> trivial) answered rfl rest

theorem plans_translating_refused {fault : UserFault} {next : call.Result → UserProgram α}
    (answered : userHandler call state = (.error fault, after)) :
    (translating (perform call) >>= next).Plans userRule userHandler state [] :=
  plans_fallible_refused (fun fault => by cases fault <;> trivial) answered

end Rules

section Plans

variable {identity : AuthenticatedIdentity} {state : UserStore} {userId expectedVersion : Nat} {role : Option UserRole}
  {department : Option String} {isActive : Option Bool}

theorem plans_recordUpdate {α : Type} (value : α) :
    (recordUpdate identity userId role department isActive >>= fun _ => return value).Plans userRule userHandler state
      (updateEntries identity userId role department isActive) := by
  have last : ∀ state : UserStore, ((if role.isSome || department.isSome then
      perform (.recordEvent .profileUpdated identity.userId identity.companyId userId) else return ()) >>=
        fun _ => (return value : UserProgram α)).Plans userRule userHandler state
      (if role.isSome || department.isSome then
        [.recordEvent .profileUpdated identity.userId identity.companyId userId] else []) := by
    intro state
    split
    · exact plans_perform rfl rfl (plans_done value)
    · exact plans_done value
  unfold recordUpdate updateEntries
  cases isActive with
  | none => exact last state
  | some active =>
      rw [bind_assoc]
      exact plans_perform rfl rfl (last _)

theorem reaches_getInTenant : ∃ result, (getInTenant identity userId).Reaches userRule userHandler state result state.tick ∧
    result.toOption = state.inTenant identity userId := by
  have fetched : (translating (perform (.getProfile userId))).Reaches userRule userHandler state
      ((state.profiles.find? userId).elim (.error (.app (.notFound "profiles" userId))) .ok) state.tick := by
    apply reaches_call rfl
    simp only [userHandler, UserStore.execute, getById]
    cases state.profiles.find? userId with
    | none => exact reaches_raised _
    | some profile => exact reaches_done _
  exact fetched.kept (fun profile => profile.companyId = identity.companyId) (.app (.notFound "profile" userId))
    fun _ => rfl

theorem write_ok {edit : Edit ProfileRecord}
    (current : (state.profiles.find? userId).any (·.version == expectedVersion) = true) :
    ∃ written after, state.write userId expectedVersion edit = (.ok written, after) := by
  obtain ⟨profile, found, same⟩ := (Option.any_eq_true ..).mp current
  have updated : state.profiles.updateIfVersion userId expectedVersion edit = some _ :=
    (updateIfVersion_eq_some_iff ..).mpr ⟨profile, found, beq_iff_eq.mp same, rfl, rfl⟩
  unfold UserStore.write updateWithOptimisticLock
  rw [updated]
  exact ⟨_, _, rfl⟩

theorem write_refused {edit : Edit ProfileRecord}
    (stale : (state.profiles.find? userId).any (·.version == expectedVersion) = false) :
    ∃ fault after, state.write userId expectedVersion edit = (.error fault, after) := by
  unfold UserStore.write updateWithOptimisticLock
  cases attempted : state.profiles.updateIfVersion userId expectedVersion edit with
  | none => exact ⟨_, _, rfl⟩
  | some outcome =>
      obtain ⟨profile, found, current, -⟩ := (updateIfVersion_eq_some_iff ..).mp attempted
      rw [found, Option.any_some] at stale
      exact absurd current (beq_eq_false_iff_ne.mp stale)

theorem plans_updateProfile :
    (updateProfile identity userId expectedVersion role department isActive).Plans userRule userHandler state
      (if state.mayUpdate identity userId expectedVersion role department isActive then
        updateWrites identity userId expectedVersion role department isActive else []) := by
  rw [UserStore.mayUpdate, planned_and, planned_and, planned_and, planned_and, updateProfile, authorize]
  by_cases administrator : canManageUserRoles identity.role = true
  swap
  · rw [if_neg administrator, if_neg administrator]
    exact plans_raised _
  rw [if_pos administrator, if_pos administrator, pure_eq, done_bind]
  by_cases own : isActive = some false ∧ userId = identity.userId
  · rw [if_pos own, if_neg (by simp [own])]
    exact plans_raised _
  have spared : (!(isActive == some false && userId == identity.userId)) = true := by
    rw [Bool.not_eq_true', Bool.eq_false_iff]
    simpa using own
  rw [if_neg own, if_pos spared]
  obtain ⟨result, fetched, same⟩ := @reaches_getInTenant identity state userId
  rw [← same]
  cases result with
  | error fault => exact fetched.plans_nothing
  | ok profile =>
      have present : (Except.ok profile : Except UserFault ProfileRecord).toOption.isSome = true := rfl
      apply fetched.plans
      rw [if_pos present]
      cases unchanged : role.isNone && department.isNone && isActive.isNone with
      | true =>
          have refused : state.tick.execute (.updateProfile userId expectedVersion role department isActive) = _ :=
            if_pos unchanged
          exact plans_translating_refused (userHandler_of_execute refused)
      | false =>
          have writing : state.tick.execute (.updateProfile userId expectedVersion role department isActive) =
              state.tick.write userId expectedVersion (profileEdit state.tick.now role department isActive) :=
            if_neg (Bool.eq_false_iff.mp unchanged)
          cases current : (state.profiles.find? userId).any (·.version == expectedVersion) with
          | true =>
              obtain ⟨written, after, outcome⟩ := @write_ok state.tick userId expectedVersion _ current
              exact plans_translating rfl (userHandler_of_execute (writing.trans outcome)) (plans_recordUpdate written)
          | false =>
              obtain ⟨fault, after, outcome⟩ := @write_refused state.tick userId expectedVersion _ current
              exact plans_translating_refused (userHandler_of_execute (writing.trans outcome))


theorem plans_eraseUser (placeholders : Placeholders) :
    (eraseUser placeholders identity userId expectedVersion).Plans userRule userHandler state
      (if state.mayErase identity userId then
        (if (state.profiles.find? userId).any (·.version == expectedVersion) then
          eraseWrites identity userId expectedVersion placeholders
        else [.anonymizeUser userId (placeholders.email userId)]) else []) := by
  rw [UserStore.mayErase, planned_and, planned_and, eraseUser, authorize]
  by_cases administrator : canManageUserRoles identity.role = true
  swap
  · rw [if_neg administrator, if_neg administrator]
    exact plans_raised _
  rw [if_pos administrator, if_pos administrator, pure_eq, done_bind]
  by_cases own : userId = identity.userId
  · rw [if_pos own, if_neg (by simp [own])]
    exact plans_raised _
  rw [if_neg own, if_pos (bne_iff_ne.mpr own)]
  obtain ⟨result, fetched, same⟩ := @reaches_getInTenant identity state userId
  rw [← same]
  cases result with
  | error fault => exact fetched.plans_nothing
  | ok profile =>
      apply fetched.plans
      rw [show (Except.ok profile : Except UserFault ProfileRecord).toOption.any (·.deletedAt.isNone) =
        profile.deletedAt.isNone from rfl]
      cases profile.deletedAt with
      | some erasedAt => exact plans_done _
      | none =>
          let anonymized := (state.tick.execute (.anonymizeUser userId (placeholders.email userId))).2.tick
          let edit := eraseEdit anonymized.now identity.userId (placeholders.fullName userId)
          cases current : (state.profiles.find? userId).any (·.version == expectedVersion) with
          | true =>
              obtain ⟨written, after, outcome⟩ := @write_ok anonymized userId expectedVersion edit current
              have erased : anonymized.execute
                (.erase userId expectedVersion identity.userId (placeholders.fullName userId)) = _ := outcome
              apply plans_perform rfl rfl
              exact plans_translating rfl (userHandler_of_execute erased) (plans_perform rfl rfl (plans_done _))
          | false =>
              obtain ⟨fault, after, outcome⟩ := @write_refused anonymized userId expectedVersion edit current
              have refused : anonymized.execute
                (.erase userId expectedVersion identity.userId (placeholders.fullName userId)) = _ := outcome
              apply plans_perform rfl rfl
              exact plans_translating_refused (userHandler_of_execute refused)

end Plans

end AutomationHub.Users
