import AutomationHub.Users.Administrators

/-!
Whether an erased profile stays anonymised, over any interleaving of profile updates
and erasures.

An update does not ask whether the profile is erased.
-/

set_option autoImplicit false

namespace AutomationHub.Users

open Foundation Model Auth Database Program Table Pool

/-- The placeholder for the name, no department and no activity. -/
def Anonymised (placeholders : Placeholders) (profile : ProfileRecord) : Prop :=
  profile.fullName = placeholders.fullName profile.id ∧ profile.department = none ∧ profile.isActive = false

instance (placeholders : Placeholders) : DecidablePred (Anonymised placeholders) := fun profile =>
  inferInstanceAs (Decidable (profile.fullName = placeholders.fullName profile.id ∧ profile.department = none ∧
    profile.isActive = false))

def UserStore.isErased (state : UserStore) (userId : UUID) : Bool :=
  (state.profiles.find? userId).any (·.deletedAt.isSome)

/-- The profile, if it is erased, is anonymised. -/
def ErasedAnonymised (placeholders : Placeholders) (userId : UUID) (state : UserStore) : Prop :=
  ∀ profile, state.profiles.find? userId = some profile → profile.deletedAt.isSome = true → Anonymised placeholders profile

/-- The profile is erased and anonymised. -/
def StaysErased (placeholders : Placeholders) (userId : UUID) (state : UserStore) : Prop :=
  state.isErased userId = true ∧ ErasedAnonymised placeholders userId state

/-- An update of the erased profile that gives it a department or activity. -/
def UserCall.revives (state : UserStore) (userId : UUID) : UserCall → Bool
  | .updateProfile profileId _ _ department isActive =>
      profileId == userId && state.isErased userId && (department.isSome || isActive == some true)
  | _ => false

/-- No update that revives the profile takes effect. -/
def unreviving {ι : Type} (userId : UUID) : Effect userSignature UserStore ι := fun _ state call reply after =>
  userStep state call reply after ∧ (call.revives state userId = true → after.profiles = state.profiles)

/-- The edit that a call asks for, with the row and the version that it expects. -/
def UserCall.edit? (now : Datetime) : UserCall → Option (UUID × Nat × Edit ProfileRecord)
  | .updateProfile profileId expectedVersion role department isActive =>
      some (profileId, expectedVersion, profileEdit now role department isActive)
  | .erase profileId expectedVersion deletedBy anonymizedFullName =>
      some (profileId, expectedVersion, eraseEdit now deletedBy anonymizedFullName)
  | _ => none

section Steps

variable {placeholders : Placeholders} {userId : UUID} {state after : UserStore} {call : UserCall}
  {reply : Except UserFault call.Result}

theorem profiles_execute (state : UserStore) (call : UserCall) :
    (state.execute call).2.profiles = state.profiles ∨ ∃ id expectedVersion edit,
      call.edit? state.now = some (id, expectedVersion, edit) ∧
        (state.execute call).2.profiles = state.profiles.modify id (stamped edit expectedVersion) := by
  cases call with
  | updateProfile profileId expectedVersion role department isActive =>
      simp only [UserStore.execute, UserStore.updateProfile]
      split
      · exact .inl rfl
      · rcases write_rows state profileId expectedVersion (profileEdit state.now role department isActive) with same | edited
        · exact .inl same
        · exact .inr ⟨_, _, _, rfl, edited⟩
  | erase profileId expectedVersion deletedBy anonymizedFullName =>
      rcases write_rows state profileId expectedVersion (eraseEdit state.now deletedBy anonymizedFullName) with same | edited
      · exact .inl same
      · exact .inr ⟨_, _, _, rfl, edited⟩
  | _ => exact .inl rfl

theorem profiles_step (stepped : userStep state call reply after) :
    after.profiles = state.profiles ∨ ∃ id expectedVersion edit,
      call.edit? state.now = some (id, expectedVersion, edit) ∧
        after.profiles = state.profiles.modify id (stamped edit expectedVersion) := by
  rcases stepped with ⟨-, rfl⟩ | ⟨_, -, -, rfl | rfl⟩
  · exact profiles_execute state call
  · exact .inl rfl
  · exact profiles_execute state call

theorem find?_step (stepped : userStep state call reply after) (userId : UUID) :
    after.profiles.find? userId = state.profiles.find? userId ∨ ∃ expectedVersion edit,
      call.edit? state.now = some (userId, expectedVersion, edit) ∧ after.profiles ≠ state.profiles ∧
        after.profiles.find? userId = (state.profiles.find? userId).map (stamped edit expectedVersion).apply := by
  by_cases unchanged : after.profiles = state.profiles
  · exact .inl (by rw [unchanged])
  · rcases profiles_step stepped with same | ⟨id, expectedVersion, edit, asked, edited⟩
    · exact absurd same unchanged
    · by_cases own : userId = id
      · subst own
        refine .inr ⟨expectedVersion, edit, asked, unchanged, ?_⟩
        rw [edited, find?_modify, if_pos rfl]
      · left
        rw [edited, find?_modify, if_neg own]

theorem isErased_step (stepped : userStep state call reply after) (erased : state.isErased userId = true) :
    after.isErased userId = true := by
  obtain ⟨profile, found, deleted⟩ := (Option.any_eq_true ..).mp erased
  rcases find?_step stepped userId with same | ⟨expectedVersion, edit, asked, -, edited⟩
  · rwa [UserStore.isErased, same]
  · rw [UserStore.isErased, edited, found, Option.map_some, Option.any_some]
    cases call with
    | updateProfile =>
        cases asked
        exact deleted
    | erase =>
        cases asked
        rfl
    | _ => cases asked

end Steps

section Programs

/-- An erasure writes the placeholder of its own profile. -/
def UserCall.fitting (placeholders : Placeholders) : UserCall → Prop
  | .erase profileId _ _ anonymizedFullName => anonymizedFullName = placeholders.fullName profileId
  | _ => True

/-- Whether a process knows that the profile is erased: it found it so, or it erased it. -/
def knowsErased (userId : UUID) (knows : Bool) (call : UserCall) (reply : Except UserFault call.Result) : Bool :=
  match call, reply with
  | .getProfile profileId, .ok profile => knows || profileId == userId && profile.deletedAt.isSome
  | .erase profileId .., .ok _ => knows || profileId == userId
  | _, _ => knows

def erasureDiscipline (placeholders : Placeholders) (userId : UUID) : Protocol userSignature Bool where
  permits := fun _ call => call.fitting placeholders
  answers := fun knows call reply after => after = knowsErased userId knows call reply

def UserOperation.Erases (userId : UUID) : UserOperation → Prop
  | .eraseUser _ target _ => target = userId
  | .updateProfile .. => False

variable {placeholders : Placeholders} {userId : UUID} {knows : Bool} {α : Type}

theorem ensures_perform {call : UserCall} {post : Except UserFault call.Result → Bool → Prop} :
    (perform call).Ensures (erasureDiscipline placeholders userId) post knows ↔
      call.fitting placeholders ∧ ∀ reply, post reply (knowsErased userId knows call reply) := by
  apply (ensures_fallible (fun reply => by cases reply <;> rfl) post).trans
  exact and_congr Iff.rfl (forall_congr' fun reply => forall_eq)

theorem ensures_of_only {program : UserProgram α} (only : program.Only (UserCall.fitting placeholders)) (knows : Bool) :
    program.Ensures (erasureDiscipline placeholders userId) (fun _ _ => True) knows := by
  apply only.ensures (fun _ => True) _ trivial
  intro _ request _ fitting
  exact ⟨fitting, fun _ _ _ => trivial⟩

theorem ensures_translating {program : UserProgram α} {post : Except UserFault α → Bool → Prop}
    (raises : ∀ fault final, post (.error fault) final)
    (ensured : program.Ensures (erasureDiscipline placeholders userId) post knows) :
    (translating program).Ensures (erasureDiscipline placeholders userId) post knows := by
  apply (ensures_tryCatch ..).mpr
  apply ensured.mono
  intro result final held
  cases result with
  | ok value => exact held
  | error fault => cases fault <;> exact raises _ _

theorem ensures_eraseUser (identity : AuthenticatedIdentity) (target expectedVersion : Nat) :
    (eraseUser placeholders identity target expectedVersion).Ensures (erasureDiscipline placeholders userId)
      (fun result knows => ∀ profile, result = .ok profile → target = userId → knows = true) knows := by
  have raises : ∀ fault final, (fun (result : Except UserFault ProfileRecord) (knows : Bool) =>
      ∀ profile, result = .ok profile → target = userId → knows = true) (.error fault) final := by
    intro fault final profile same
    cases same
  unfold eraseUser
  apply (ensures_bind ..).mpr
  unfold authorize
  split
  swap
  · exact raises _ _
  change Ensures _ (if target = identity.userId then _ else _) _ knows
  split
  · exact raises _ _
  apply (ensures_bind ..).mpr
  apply (ensures_bind ..).mpr
  apply ensures_translating (fun fault final => raises fault final)
  apply ensures_perform.mpr
  refine ⟨trivial, ?_⟩
  intro reply
  cases reply with
  | error fault => exact raises _ _
  | ok existing =>
      change Ensures _ (if existing.companyId = identity.companyId then _ else _) _ _
      split
      swap
      · exact raises _ _
      change Ensures _ (if existing.deletedAt.isSome = true then _ else _) _ _
      split
      · rename_i erased
        intro profile _ same
        simp [knowsErased, same, erased]
      · apply (ensures_bind ..).mpr
        apply ensures_perform.mpr
        refine ⟨trivial, ?_⟩
        intro scrubbed
        cases scrubbed with
        | error fault => exact raises _ _
        | ok _ =>
            apply (ensures_bind ..).mpr
            apply ensures_translating (fun fault final => raises fault final)
            apply ensures_perform.mpr
            refine ⟨rfl, ?_⟩
            intro written
            cases written with
            | error fault => exact raises _ _
            | ok erased =>
                apply (ensures_bind ..).mpr
                apply ensures_perform.mpr
                refine ⟨trivial, ?_⟩
                intro recorded
                cases recorded with
                | error fault => exact raises _ _
                | ok _ =>
                    intro profile _ same
                    simp [knowsErased, same]

/-- The process of an operation that erases the profile knows it erased when it returns. -/
theorem UserOperation.ensures_erased (operation : UserOperation) :
    (operation.program placeholders).Ensures (erasureDiscipline placeholders userId)
      (fun result knows => result = .ok () → operation.Erases userId → knows = true) knows := by
  cases operation with
  | updateProfile identity target expectedVersion role department isActive =>
      have only : ((UserOperation.updateProfile identity target expectedVersion role department isActive).program
          placeholders).Only (UserCall.fitting placeholders) :=
        Only.bind (only_updateProfile trivial (fun _ => trivial) fun _ _ => trivial) fun _ => trivial
      apply (ensures_of_only only knows).mono
      intro _ _ _ _ erases
      exact erases.elim
  | eraseUser identity target expectedVersion =>
      apply (ensures_bind ..).mpr
      apply (ensures_eraseUser identity target expectedVersion).mono
      intro result final held
      cases result with
      | ok profile =>
          intro _ same
          exact held profile rfl same
      | error fault =>
          intro same
          cases same

end Programs

section Runs

variable {placeholders : Placeholders} {userId : UUID} {state after : UserStore} {call : UserCall}
  {reply : Except UserFault call.Result}

theorem anonymised_edit_iff {profile : ProfileRecord} {now : Datetime} {role : Option UserRole}
    {department : Option String} {isActive : Option Bool} (expectedVersion : Nat)
    (anonymised : Anonymised placeholders profile) :
    Anonymised placeholders ((stamped (profileEdit now role department isActive) expectedVersion).apply profile) ↔
      (department.isSome || isActive == some true) = false := by
  obtain ⟨named, vacant, inactive⟩ := anonymised
  have edited : Anonymised placeholders ((stamped (profileEdit now role department isActive) expectedVersion).apply profile) ↔
      profile.fullName = placeholders.fullName profile.id ∧ department.or profile.department = none ∧
        isActive.getD profile.isActive = false := Iff.rfl
  rw [edited, vacant, inactive]
  cases department <;> cases isActive <;> simp [named]

theorem find?_id {profile : ProfileRecord} (found : state.profiles.find? userId = some profile) : profile.id = userId :=
  ((find?_eq_some_iff ..).mp found).2

/-- The written row of an erased and anonymised profile is anonymised unless the call revives it. -/
theorem anonymised_written_iff {profile : ProfileRecord} {expectedVersion : Nat} {edit : Edit ProfileRecord}
    (fitting : call.fitting placeholders) (asked : call.edit? state.now = some (userId, expectedVersion, edit))
    (found : state.profiles.find? userId = some profile) (deleted : profile.deletedAt.isSome = true)
    (anonymised : Anonymised placeholders profile) :
    Anonymised placeholders ((stamped edit expectedVersion).apply profile) ↔ call.revives state userId = false := by
  have erased : state.isErased userId = true := (Option.any_eq_true ..).mpr ⟨profile, found, deleted⟩
  cases call with
  | updateProfile profileId version role department isActive =>
      cases asked
      rw [anonymised_edit_iff expectedVersion anonymised]
      simp [UserCall.revives, erased]
  | erase profileId version deletedBy anonymizedFullName =>
      cases asked
      have named : anonymizedFullName = placeholders.fullName userId := fitting
      exact iff_of_true ⟨named.trans (congrArg placeholders.fullName (find?_id found).symm), rfl, rfl⟩ rfl
  | _ => cases asked

theorem erasedAnonymised_step (fitting : call.fitting placeholders) (stepped : userStep state call reply after)
    (spared : call.revives state userId = true → after.profiles = state.profiles)
    (kept : ErasedAnonymised placeholders userId state) : ErasedAnonymised placeholders userId after := by
  intro written found deleted
  rcases find?_step stepped userId with same | ⟨expectedVersion, edit, asked, changed, edited⟩
  · exact kept written (same.symm.trans found) deleted
  · obtain ⟨profile, before, rfl⟩ := Option.map_eq_some_iff.mp (edited.symm.trans found)
    cases call with
    | updateProfile =>
        have was : profile.deletedAt.isSome = true := by
          cases asked
          exact deleted
        apply (anonymised_written_iff fitting asked before was (kept profile before was)).mpr
        exact Bool.eq_false_iff.mpr fun revived => changed (spared revived)
    | erase =>
        cases asked
        exact ⟨fitting.trans (congrArg placeholders.fullName (find?_id before).symm), rfl, rfl⟩
    | _ => cases asked

theorem staysErased_step_iff (fitting : call.fitting placeholders) (stepped : userStep state call reply after)
    (stays : StaysErased placeholders userId state) : StaysErased placeholders userId after ↔
      (call.revives state userId = true → after.profiles = state.profiles) := by
  constructor
  · intro kept revived
    by_contra changed
    obtain ⟨id, expectedVersion, edit, asked, modified⟩ := (profiles_step stepped).resolve_left changed
    obtain rfl : id = userId := by
      cases call with
      | updateProfile =>
          cases asked
          simp only [UserCall.revives, Bool.and_eq_true, beq_iff_eq] at revived
          exact revived.1.1
      | _ => cases revived
    obtain ⟨profile, found, deleted⟩ := (Option.any_eq_true ..).mp stays.1
    have written : after.profiles.find? id = some ((stamped edit expectedVersion).apply profile) := by
      rw [modified, find?_modify, if_pos rfl, found]
      rfl
    obtain ⟨row, reached, gone⟩ := (Option.any_eq_true ..).mp kept.1
    obtain rfl := Option.some.inj (reached.symm.trans written)
    have spared := (anonymised_written_iff fitting asked found deleted (stays.2 profile found deleted)).mp
      (kept.2 _ written gone)
    rw [spared] at revived
    cases revived
  · intro spared
    exact ⟨isErased_step stepped stays.1, erasedAnonymised_step fitting stepped spared stays.2⟩

theorem isErased_of_knows {knows : Bool} (stepped : userStep state call reply after)
    (earlier : knows = true → state.isErased userId = true) (now : knowsErased userId knows call reply = true) :
    after.isErased userId = true := by
  by_cases knew : knows = true
  · exact isErased_step stepped (earlier knew)
  · obtain rfl := Bool.eq_false_iff.mpr knew
    rcases reply with fault | result
    · cases call <;> cases now
    rcases stepped with ⟨answered, rfl⟩ | ⟨_, -, failed, -⟩
    swap
    · cases failed
    cases call with
    | getProfile profileId =>
        simp only [knowsErased, Bool.false_or, Bool.and_eq_true, beq_iff_eq] at now
        obtain ⟨rfl, deleted⟩ := now
        have found : state.profiles.find? profileId = some result := by
          simp only [UserStore.execute, getById] at answered
          cases search : state.profiles.find? profileId with
          | none => simp [search, Except.mapError] at answered
          | some profile => simpa [search, Except.mapError] using answered.symm
        exact (Option.any_eq_true ..).mpr ⟨result, found, deleted⟩
    | erase profileId expectedVersion deletedBy anonymizedFullName =>
        simp only [knowsErased, Bool.false_or, beq_iff_eq] at now
        subst now
        simp only [UserStore.execute] at answered ⊢
        cases attempted : updateWithOptimisticLock "profiles" state.profiles profileId expectedVersion
            (eraseEdit state.now deletedBy anonymizedFullName) fun _ => none with
        | mk outcome profiles =>
            cases outcome with
            | error error => simp [UserStore.write, attempted, Except.mapError] at answered
            | ok written =>
                obtain ⟨row, found, -, -, -, same⟩ := updateWithOptimisticLock_ok_iff.mp attempted
                have reached : profiles.find? profileId =
                    some ((stamped (eraseEdit state.now deletedBy anonymizedFullName) expectedVersion).apply row) := by
                  rw [same, find?_modify, if_pos rfl, found]
                  rfl
                simp only [UserStore.write, attempted]
                exact (Option.any_eq_true ..).mpr ⟨_, reached, rfl⟩
    | _ => cases now

variable {ι : Type} [DecidableEq ι]

/-- Once an erasure has returned, and no update that revives the profile has taken effect, the profile is erased and
anonymised; it stays so in the next state unless the step revives it. -/
theorem erasure_lasts_iff (placeholders : Placeholders) (operations : ι → UserOperation) (userId : UUID)
    {start : UserStore} (clean : ErasedAnonymised placeholders userId start)
    {last : Pool userSignature UserFault UserStore ι} {events : List (Event userSignature ι)}
    (run : Pool.Run (unreviving userId) (launchUsers placeholders operations start) events last) {thread : ι}
    (erases : (operations thread).Erases userId) (succeeded : last.threads thread = .done ()) :
    StaysErased placeholders userId last.shared ∧
      ∀ (event : Event userSignature ι) (next : Pool userSignature UserFault UserStore ι), Step unattended last event next →
        (StaysErased placeholders userId next.shared ↔
          (event.request.revives last.shared userId = true → next.shared.profiles = last.shared.profiles)) := by
  have follows : ∀ thread, ((launchUsers placeholders operations start).threads thread).Ensures
      (erasureDiscipline placeholders userId)
      (fun result knows => result = .ok () → (operations thread).Erases userId → knows = true) false :=
    fun thread => (operations thread).ensures_erased
  obtain ⟨phases, ⟨anonymised, known⟩, ensured⟩ := run.invariant
    (fun _ phases state => ErasedAnonymised placeholders userId state ∧
      ∀ thread, phases thread = true → state.isErased userId = true)
    (by
      intro events phases state thread request reply after holds fitting moved
      refine ⟨knowsErased userId (phases thread) request reply, rfl,
        erasedAnonymised_step fitting moved.1 moved.2 holds.1, ?_⟩
      intro other knows
      by_cases same : other = thread
      · subst same
        rw [Function.update_self] at knows
        exact isErased_of_knows moved.1 (holds.2 other) knows
      · rw [Function.update_of_ne same] at knows
        exact isErased_step moved.1 (holds.2 other knows))
    (fun _ => false) ⟨clean, fun _ knows => absurd knows Bool.false_ne_true⟩ follows
  have concluded := ensured thread
  rw [succeeded] at concluded
  have stays : StaysErased placeholders userId last.shared := ⟨known thread (concluded rfl erases), anonymised⟩
  refine ⟨stays, ?_⟩
  intro event next step
  cases step with
  | @call caller request continue_ reply after calling answered =>
      have permitted := ensured caller
      rw [calling] at permitted
      exact staysErased_step_iff permitted.1 answered stays

end Runs

section Samples

/-- An administrator erases the other one; a second call updates the profile. -/
def eraseThen (update : UserOperation) : Fin 2 → UserOperation
  | 0 => .eraseUser (administratorIdentity 1) 2 1
  | 1 => update

def demotion : UserOperation := .updateProfile (administratorIdentity 1) 2 2 (some .employee) none none

def revival : UserOperation := .updateProfile (administratorIdentity 1) 2 2 none (some "sales") (some true)

def erasingPool (update : UserOperation) : Pool userSignature UserFault UserStore (Fin 2) :=
  launchUsers plainPlaceholders (eraseThen update) administeredByTwo

def unrevivingCheck (_ : Fin 2) (state : UserStore) (call : UserCall) : Bool := !call.revives state 2

theorem unreviving_of_check (thread : Fin 2) (state : UserStore) (call : UserCall)
    (passed : unrevivingCheck thread state call = true) :
    unreviving 2 thread state call (userHandler call state).1 (userHandler call state).2 := by
  refine ⟨.inl ⟨rfl, rfl⟩, ?_⟩
  intro revived
  rw [unrevivingCheck, revived] at passed
  cases passed

theorem erasure_lasts_iff_sample :
    ∃ last events, Run (unreviving 2) (erasingPool demotion) events last ∧
      (∃ profile, last.shared.profiles.find? 2 = some profile ∧ profile.role = .employee) ∧
      StaysErased plainPlaceholders 2 last.shared := by
  have run := play_runs_of_checked unreviving_of_check (erasingPool demotion) [0, 0, 0, 0, 1, 1, 1] (by decide +kernel)
  have clean : ErasedAnonymised plainPlaceholders 2 administeredByTwo := by
    intro profile found deleted
    have live : (administeredByTwo.profiles.find? 2).any (·.deletedAt.isSome) = false := by decide +kernel
    rw [found, Option.any_some, deleted] at live
    cases live
  have erases : (eraseThen demotion 0).Erases 2 := rfl
  have succeeded : (Pool.play userHandler (erasingPool demotion) [0, 0, 0, 0, 1, 1, 1]).threads 0 = .done () :=
    Program.returned?_eq_some_iff.mp (by decide +kernel)
  have stays := (erasure_lasts_iff plainPlaceholders (eraseThen demotion) 2 clean run erases succeeded).1
  have demoted : ((Pool.play userHandler (erasingPool demotion) [0, 0, 0, 0, 1, 1, 1]).shared.profiles.find? 2).any
      (·.role == .employee) = true := by decide +kernel
  obtain ⟨profile, found, employed⟩ := (Option.any_eq_true ..).mp demoted
  exact ⟨_, _, run, ⟨profile, found, beq_iff_eq.mp employed⟩, stays⟩

/-- After the erasure an update gives the profile a department and makes it active. -/
theorem erased_profile_revived :
    ¬ ∀ (operations : Fin 2 → UserOperation) (events : List (Event userSignature (Fin 2)))
        (last : Pool userSignature UserFault UserStore (Fin 2)),
        Run unattended (launchUsers plainPlaceholders operations administeredByTwo) events last →
        (operations 0).Erases 2 → last.threads 0 = .done () → StaysErased plainPlaceholders 2 last.shared := by
  intro lasts
  have run := play_runs userHandler userHandler_unattended (erasingPool revival) [0, 0, 0, 0, 1, 1, 1]
  have erases : (eraseThen revival 0).Erases 2 := rfl
  have succeeded : (Pool.play userHandler (erasingPool revival) [0, 0, 0, 0, 1, 1, 1]).threads 0 = .done () :=
    Program.returned?_eq_some_iff.mp (by decide +kernel)
  have stays := lasts (eraseThen revival) _ _ run erases succeeded
  have revived : ((Pool.play userHandler (erasingPool revival) [0, 0, 0, 0, 1, 1, 1]).shared.profiles.find? 2).any
      (fun profile => profile.deletedAt.isSome && profile.isActive) = true := by decide +kernel
  obtain ⟨profile, found, held⟩ := (Option.any_eq_true ..).mp revived
  obtain ⟨deleted, active⟩ := Bool.and_eq_true_iff.mp held
  have inactive := (stays.2 profile found deleted).2.2
  rw [active] at inactive
  cases inactive

end Samples

end AutomationHub.Users
