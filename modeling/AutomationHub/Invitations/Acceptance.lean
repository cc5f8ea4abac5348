import AutomationHub.Invitations.Provisioning

/-!
What calls of `accept_invitation` leave of one invitation, in any order and with
failures at any of their steps.

A call that finds the account of an earlier one does not set its password, and
the trigger that makes the profile does not know the department.
-/

set_option autoImplicit false

namespace AutomationHub.Invitations

open Foundation Model Auth Database Program Table

/-- The user that is asked for when the invitation is accepted. -/
def InvitationRecord.account (record : InvitationRecord) (password : String) : AuthAccount where
  id := record.id
  email := record.email
  password := password
  fullName := record.fullName
  role := record.role
  companyId := record.companyId

/-- What a call has come to: the row it read, whether it has found the profile, and whether it has written the status. -/
structure Acceptance where
  read : Option InvitationRecord
  confirmed : Bool
  settled : Bool

namespace Acceptance

def begun : Acceptance := ⟨none, false, false⟩

def after (phase : Acceptance) (call : InvitationCall) (reply : Except InvitationFault call.Result) : Acceptance :=
  match call, reply with
  | .findByTokenHash _, .ok found => { phase with read := found }
  | .findProfile _, .ok (some _) => { phase with confirmed := true }
  | .updateStatus .., .ok _ => { phase with settled := true }
  | _, _ => phase

def Permits (tokenHash password : String) (phase : Acceptance) : InvitationCall → Prop
  | .findByTokenHash wanted => wanted = tokenHash
  | .createUser account => ∃ record, phase.read = some record ∧ account = record.account password
  | .findProfile profileId => ∃ record, phase.read = some record ∧ profileId = record.id
  | .updateStatus invitationId expectedVersion change => ∃ record, phase.read = some record ∧ record.status = .pending ∧
      invitationId = record.id ∧ expectedVersion = record.version ∧ change.status = .accepted ∧ change.tokenHash = none
  | _ => True

end Acceptance

def acceptanceDiscipline (tokenHash password : String) : Protocol invitationSignature Acceptance where
  permits := Acceptance.Permits tokenHash password
  answers := fun phase call reply after => Foreseen call reply ∧ after = phase.after call reply

section Programs

variable {tokenHash password : String} {phase : Acceptance} {α : Type}
  {post : Except InvitationFault α → Acceptance → Prop}

theorem acceptance_perform {call : InvitationCall} {post : Except InvitationFault call.Result → Acceptance → Prop} :
    (perform call).Ensures (acceptanceDiscipline tokenHash password) post phase ↔
      phase.Permits tokenHash password call ∧ ∀ reply, Foreseen call reply → post reply (phase.after call reply) := by
  exact ensures_advancing (fun reply => by cases reply <;> rfl) (fun _ _ => Iff.rfl) post

theorem acceptance_answered {call : InvitationCall} {post : Except InvitationFault call.Result → Acceptance → Prop}
    (permitted : phase.Permits tokenHash password call) (raises : ∀ fault final, post (.error fault) final)
    (answered : ∀ result, Foreseen call (.ok result) → post (.ok result) (phase.after call (.ok result))) :
    (perform call).Ensures (acceptanceDiscipline tokenHash password) post phase := by
  rw [acceptance_perform]
  constructor
  · exact permitted
  · intro reply foreseen
    cases reply with
    | ok result => exact answered result foreseen
    | error fault => exact raises fault _

theorem acceptance_translating {program : InvitationProgram α} (raises : ∀ fault final, post (.error fault) final)
    (ensured : program.Ensures (acceptanceDiscipline tokenHash password)
      (fun result final => match result with
        | .ok value => post (.ok value) final
        | .error _ => True) phase) :
    (translating program).Ensures (acceptanceDiscipline tokenHash password) post phase := by
  unfold translating
  rw [ensures_tryCatch]
  apply ensured.mono
  intro result final held
  cases result with
  | ok value => exact held
  | error fault => cases fault <;> exact raises _ _

theorem acceptance_requireAcceptable {record : InvitationRecord}
    {post : Except InvitationFault Unit → Acceptance → Prop} (raises : ∀ fault final, post (.error fault) final)
    (accepted : record.status = .pending → post (.ok ()) phase) :
    (requireAcceptable record).Ensures (acceptanceDiscipline tokenHash password) post phase := by
  unfold requireAcceptable requirePending
  by_cases pending : record.status = .pending
  · rw [if_pos pending, ensures_bind]
    change Ensures _ (do
      let now : Datetime ← perform .utcNow
      if record.expiresAt < now then .raised (.invalidState record.id "expired" "accept") else return ()) post phase
    rw [ensures_bind]
    refine acceptance_answered trivial raises ?_
    intro now _
    change Ensures _ (if record.expiresAt < now then _ else _) post phase
    by_cases expired : record.expiresAt < now
    · rw [if_pos expired]
      exact raises _ _
    · rw [if_neg expired]
      exact accepted pending
  · rw [if_neg pending]
    exact raises _ _

theorem acceptance_waitForProfile {record : InvitationRecord} {post : Except InvitationFault Unit → Acceptance → Prop}
    (read : phase.read = some record) (raises : ∀ fault final, post (.error fault) final)
    (found : post (.ok ()) { phase with confirmed := true }) (attempts : Nat) :
    (waitForProfile record.id attempts).Ensures (acceptanceDiscipline tokenHash password) post phase := by
  induction attempts with
  | zero => exact raises _ _
  | succ attempts recurse =>
      unfold waitForProfile
      rw [ensures_bind]
      refine acceptance_answered ⟨record, read, rfl⟩ raises ?_
      intro profile _
      cases profile with
      | some profile => exact found
      | none => exact recurse

/-- What a successful call has found and written. -/
def Ended (result : Except InvitationFault α) (final : Acceptance) : Prop :=
  match result with
  | .ok _ => final.settled = true ∧ final.confirmed = true
  | .error _ => True

theorem acceptance_link {record : InvitationRecord} (read : phase.read = some record) (pending : record.status = .pending) :
    (do
      waitForProfile record.id profilePropagationAttempts
      let now : Datetime ← perform .utcNow
      let updated : InvitationRecord ← translating (perform (.updateStatus record.id record.version
        { status := .accepted, tokenHash := none, expiresAt := none, acceptedAt := some now, revokedAt := none,
          acceptedProfileId := some record.id, resendCount := none }))
      translating (perform (.recordEvent .invitationAccepted record.id updated.id updated.email))
      return updated : InvitationProgram InvitationRecord).Ensures (acceptanceDiscipline tokenHash password) Ended phase := by
  rw [ensures_bind]
  apply acceptance_waitForProfile read (fun _ _ => trivial)
  refine (ensures_bind ..).mpr ?_
  refine acceptance_answered trivial (fun _ _ => trivial) ?_
  intro now _
  refine (ensures_bind ..).mpr ?_
  apply acceptance_translating (fun _ _ => trivial)
  refine acceptance_answered ⟨record, read, pending, rfl, rfl, rfl, rfl⟩ (fun _ _ => trivial) ?_
  intro updated _
  refine (ensures_bind ..).mpr ?_
  apply acceptance_translating (fun _ _ => trivial)
  refine acceptance_answered trivial (fun _ _ => trivial) ?_
  intro _ _
  exact ⟨rfl, rfl⟩

theorem ensures_acceptance (hash : String → String) (token password : String) :
    ((InvitationProcess.accept token password).program hash).Ensures (acceptanceDiscipline (hash token) password) Ended
      Acceptance.begun := by
  have accepts : (acceptInvitation hash token password).Ensures (acceptanceDiscipline (hash token) password) Ended
      Acceptance.begun := by
    unfold acceptInvitation findByTokenOrRaise
    rw [ensures_bind, ensures_bind]
    apply acceptance_translating (fun _ _ => trivial)
    refine acceptance_answered rfl (fun _ _ => trivial) ?_
    intro found _
    cases found with
    | none => trivial
    | some record =>
        refine (ensures_bind ..).mpr (acceptance_requireAcceptable (fun _ _ => trivial) ?_)
        intro pending
        refine (ensures_bind ..).mpr ((ensures_tryCatch ..).mpr (acceptance_perform.mpr ⟨⟨record, rfl, rfl⟩, ?_⟩))
        intro reply foreseen
        cases reply with
        | ok created =>
            have same : created = record.id := foreseen
            subst same
            exact acceptance_link rfl pending
        | error fault =>
            cases fault with
            | conflict email => exact acceptance_link rfl pending
            | _ => trivial
  unfold InvitationProcess.program
  rw [ensures_bind]
  apply accepts.mono
  intro result final ended
  cases result with
  | ok record => exact ended
  | error fault => trivial

end Programs

section Runs

variable {ι : Type} [DecidableEq ι]

/-- The directory in a run of calls, with what each has come to and whose requests created an account, in order. -/
structure AcceptanceRun (ι : Type) where
  directory : Directory
  phases : ι → Acceptance
  created : List ι

def accepting : Effect invitationSignature (AcceptanceRun ι) ι := fun thread state call reply after =>
  invitationStep state.directory call reply after.directory ∧
    after.phases = Function.update state.phases thread ((state.phases thread).after call reply) ∧
    after.created =
      if after.directory.accounts.rows = state.directory.accounts.rows then state.created else state.created ++ [thread]

def launchAcceptances (hash : String → String) (tokens passwords : ι → String) (start : Directory) :
    Pool invitationSignature InvitationFault (AcceptanceRun ι) ι where
  shared := { directory := start, phases := fun _ => Acceptance.begun, created := [] }
  threads := fun thread => (InvitationProcess.accept (tokens thread) (passwords thread)).program hash

def Directory.presented (state : Directory) (tokenHash : String) : Option InvitationRecord :=
  state.invitations.rows.find? fun invitation => invitation.tokenHash == tokenHash

/-- What the calls have read and written of the invitation, beside its row. -/
structure Standing (record row : InvitationRecord) (phases : ι → Acceptance) : Prop where
  same : row.account = record.account
  account : ∀ thread read, (phases thread).read = some read → read.account = record.account
  behind : ∀ thread read, (phases thread).read = some read → read.version ≤ row.version
  overtaken : ∀ thread read, (phases thread).read = some read → read.status = .pending → row.status ≠ .pending →
    read.version < row.version
  settled : ∀ thread, (phases thread).settled = true → row.status = .accepted
  once : ∀ thread other, (phases thread).settled = true → (phases other).settled = true → thread = other

/-- The account and the profile of the invitation stem from the first call whose request created them. -/
structure Furnished (record : InvitationRecord) (passwords : ι → String) (state : AcceptanceRun ι) : Prop where
  vacant : state.created = [] →
    state.directory.accounts.find? record.id = none ∧ state.directory.profiles.find? record.id = none
  provided : ∀ creator ∈ state.created, state.created = [creator] ∧
    state.directory.accounts.find? record.id = some (record.account (passwords creator)) ∧
    ∃ now, state.directory.profiles.find? record.id = some (Directory.newProfile (record.account (passwords creator)) now)
  confirmed : ∀ thread, (state.phases thread).confirmed = true → state.created ≠ []

variable {record row : InvitationRecord} {passwords : ι → String} {thread : ι} {state after : AcceptanceRun ι}
  {call : InvitationCall} {reply : Except InvitationFault call.Result} {tokenHash : String}

theorem id_of_account {left right : InvitationRecord} (same : left.account = right.account) : left.id = right.id :=
  congrArg AuthAccount.id (congrFun same "")

theorem presented_execute {directory : Directory} (call : InvitationCall) :
    (∃ invitationId expectedVersion change, call = .updateStatus invitationId expectedVersion change) ∨
      (directory.execute call).2.invitations = directory.invitations ∧
        ∀ (phase : Acceptance) (reply : Except InvitationFault call.Result),
          (phase.after call reply).settled = phase.settled := by
  cases call with
  | updateStatus invitationId expectedVersion change => exact .inl ⟨_, _, _, rfl⟩
  | createUser account =>
      right
      constructor
      · simp only [Directory.execute, Directory.createUser]
        split <;> rfl
      · intro phase reply
        cases reply <;> rfl
  | findProfile profileId =>
      right
      constructor
      · rfl
      · intro phase reply
        cases reply with
        | error fault => rfl
        | ok profile => cases profile <;> rfl
  | _ =>
      right
      constructor
      · rfl
      · intro phase reply
        cases reply <;> rfl

/-- A status update that leaves the token alone either leaves the row as it was, with a failure, or finds it at the version
expected. -/
theorem presented_updateStatus {directory : Directory} {invitationId : UUID} {expectedVersion : Nat}
    {change : StatusChange} (found : directory.presented tokenHash = some row) (own : invitationId = row.id)
    (kept : change.tokenHash = none) :
    ((directory.updateStatus invitationId expectedVersion change).2.presented tokenHash = some row ∧
        ∃ fault, (directory.updateStatus invitationId expectedVersion change).1 = .error fault) ∨
      row.version = expectedVersion ∧
        (directory.updateStatus invitationId expectedVersion change).2.presented tokenHash =
          some ((stamped change.edit expectedVersion).apply row) := by
  unfold Directory.updateStatus
  rcases outcome : updateWithOptimisticLock "user_invitations" directory.invitations invitationId expectedVersion
    change.edit _ with ⟨reply, invitations⟩
  cases reply with
  | error error =>
      left
      have same := updateWithOptimisticLock_error outcome
      subst same
      exact ⟨found, _, rfl⟩
  | ok written =>
      right
      obtain ⟨old, held, current, -, -, rfl⟩ := updateWithOptimisticLock_ok_iff.mp outcome
      have member := List.mem_of_find?_eq_some found
      have stored : directory.invitations.find? invitationId = some row := by
        rw [own]
        exact find?_of_mem _ member
      obtain rfl : row = old := Option.some.inj (stored.symm.trans held)
      constructor
      · exact current
      · have unaffected : ∀ invitation : InvitationRecord,
            (((stamped change.edit expectedVersion).apply invitation).tokenHash == tokenHash) =
              (invitation.tokenHash == tokenHash) := by
          intro invitation
          change (change.tokenHash.getD invitation.tokenHash == tokenHash) = _
          rw [kept]
          rfl
        have searched := @search_modify _ _ directory.invitations invitationId (stamped change.edit expectedVersion)
          (fun invitation => invitation.tokenHash == tokenHash) unaffected
        refine searched.trans ?_
        have looked : directory.invitations.rows.find? (fun invitation => invitation.tokenHash == tokenHash) = some row := found
        rw [looked, own]
        exact congrArg some (if_pos rfl)

/-- Calls that write no status leave the invitation, and what was read of it, standing. -/
theorem Standing.unwritten (standing : Standing record row state.phases)
    (read : (after.phases thread).read = (state.phases thread).read ∨ (after.phases thread).read = some row)
    (settled : (after.phases thread).settled = (state.phases thread).settled)
    (others : ∀ other, other ≠ thread → after.phases other = state.phases other) : Standing record row after.phases := by
  have readings : ∀ other seen, (after.phases other).read = some seen → (state.phases other).read = some seen ∨ seen = row := by
    intro other seen held
    by_cases own : other = thread
    · subst own
      rcases read with same | current
      · exact .inl (same ▸ held)
      · exact .inr (Option.some.inj (held.symm.trans current))
    · exact .inl (others other own ▸ held)
  have settling : ∀ other, (after.phases other).settled = (state.phases other).settled := by
    intro other
    by_cases own : other = thread
    · rw [own, settled]
    · rw [others other own]
  constructor
  · exact standing.same
  · intro other seen held
    rcases readings other seen held with before | rfl
    · exact standing.account other seen before
    · exact standing.same
  · intro other seen held
    rcases readings other seen held with before | rfl
    · exact standing.behind other seen before
    · exact le_rfl
  · intro other seen held pending decided
    rcases readings other seen held with before | rfl
    · exact standing.overtaken other seen before pending decided
    · exact absurd pending decided
  · intro other finished
    exact standing.settled other (settling other ▸ finished)
  · intro first second left right
    exact standing.once first second (settling first ▸ left) (settling second ▸ right)

theorem Standing.written {expectedVersion : Nat} {change : StatusChange} {read : InvitationRecord}
    (standing : Standing record row state.phases) (held : (state.phases thread).read = some read)
    (pending : read.status = .pending) (expected : expectedVersion = read.version) (accepting : change.status = .accepted)
    (current : row.version = expectedVersion) (reads : ∀ other, (after.phases other).read = (state.phases other).read)
    (others : ∀ other, other ≠ thread → after.phases other = state.phases other) :
    Standing record ((stamped change.edit expectedVersion).apply row) after.phases := by
  have undecided : row.status = .pending := by
    by_contra decided
    have newer := standing.overtaken thread read held pending decided
    omega
  have unsettled : ∀ other, (state.phases other).settled ≠ true := by
    intro other finished
    have conflict := (standing.settled other finished).symm.trans undecided
    cases conflict
  have newer : ∀ other seen, (after.phases other).read = some seen → seen.version < expectedVersion + 1 := by
    intro other seen shown
    have behind := standing.behind other seen (reads other ▸ shown)
    omega
  have sole : ∀ other, (after.phases other).settled = true → other = thread := by
    intro other finished
    by_contra apart
    exact unsettled other (others other apart ▸ finished)
  constructor
  · exact standing.same
  · intro other seen shown
    exact standing.account other seen (reads other ▸ shown)
  · intro other seen shown
    exact (newer other seen shown).le
  · intro other seen shown _ _
    exact newer other seen shown
  · intro other finished
    exact accepting
  · intro first second left right
    exact (sole first left).trans (sole second right).symm

theorem read_step {directory left : Directory} {phase : Acceptance} {password : String}
    (found : directory.presented tokenHash = some row) (permitted : phase.Permits tokenHash password call)
    (stepped : invitationStep directory call reply left) :
    (phase.after call reply).read = phase.read ∨ (phase.after call reply).read = some row := by
  cases call with
  | findByTokenHash wanted =>
      obtain rfl : wanted = tokenHash := permitted
      rcases stepped with ⟨answered, -⟩ | ⟨fault, -, raised, -⟩
      · right
        rw [answered]
        exact found
      · left
        rw [raised]
        rfl
  | findProfile profileId =>
      left
      cases reply with
      | error fault => rfl
      | ok profile => cases profile <;> rfl
  | _ => left; cases reply <;> rfl

theorem standing_step (found : state.directory.presented tokenHash = some row)
    (standing : Standing record row state.phases)
    (permitted : (state.phases thread).Permits tokenHash (passwords thread) call)
    (accepted : accepting thread state call reply after) :
    ∃ row, after.directory.presented tokenHash = some row ∧ Standing record row after.phases := by
  obtain ⟨stepped, phases, -⟩ := accepted
  have own : after.phases thread = (state.phases thread).after call reply := by rw [phases, Function.update_self]
  have others : ∀ other, other ≠ thread → after.phases other = state.phases other := by
    intro other apart
    rw [phases, Function.update_of_ne apart]
  rcases @presented_execute state.directory call with ⟨invitationId, expectedVersion, change, rfl⟩ | ⟨same, unsettling⟩
  · obtain ⟨read, held, pending, identified, expected, accepting, kept⟩ := permitted
    have identity : invitationId = row.id := by
      rw [identified, id_of_account (standing.account thread read held), id_of_account standing.same]
    have reads : ∀ other, (after.phases other).read = (state.phases other).read := by
      intro other
      by_cases mine : other = thread
      · subst mine
        rw [own]
        cases reply <;> rfl
      · rw [others other mine]
    have outcome := @presented_updateStatus row tokenHash state.directory invitationId expectedVersion change found identity kept
    rcases outcome with ⟨unchanged, fault, failed⟩ | ⟨current, changed⟩
    · refine ⟨row, ?_, standing.unwritten (.inl (reads thread)) ?_ others⟩
      · rcases left_by_step stepped with left | left
        · exact left ▸ found
        · exact left ▸ unchanged
      · rw [own]
        rcases stepped with ⟨answered, -⟩ | ⟨fault, -, raised, -⟩
        · rw [answered, Directory.execute, failed]
          rfl
        · rw [raised]
          rfl
    · rcases stepped with ⟨answered, left⟩ | ⟨fault, -, raised, left⟩
      · exact ⟨_, left ▸ changed, standing.written held pending expected accepting current reads others⟩
      · rcases left with left | left
        · refine ⟨row, left ▸ found, standing.unwritten (.inl (reads thread)) ?_ others⟩
          rw [own, raised]
          rfl
        · exact ⟨_, left ▸ changed, standing.written held pending expected accepting current reads others⟩
  · refine ⟨row, ?_, standing.unwritten ?_ ?_ others⟩
    · rcases left_by_step stepped with left | left
      · exact left ▸ found
      · rw [left]
        change (state.directory.execute call).2.invitations.rows.find? _ = _
        rw [same]
        exact found
    · rw [own]
      exact read_step found permitted stepped
    · rw [own, unsettling]

/-- Creating the user of the invitation, where there is none, makes its account and its profile. -/
theorem created_user {directory : Directory} {account : AuthAccount} (vacant : directory.accounts.find? account.id = none)
    (profile : directory.profiles.find? account.id = none) :
    (directory.createUser account).2 = directory ∨
      ((directory.createUser account).2.accounts.rows ≠ directory.accounts.rows ∧
        (directory.createUser account).2.accounts.find? account.id = some account ∧
        (directory.createUser account).2.profiles.find? account.id = some (Directory.newProfile account directory.now)) := by
  unfold Directory.createUser
  split
  · exact .inl rfl
  · right
    have missing : ¬ (directory.profiles.find? account.id).isSome = true := by simp [profile]
    refine ⟨?_, find?_place _ account, ?_⟩
    · intro same
      have member : account ∈ (directory.accounts.place account).rows := (mem_place _ _ _).mpr (.inr rfl)
      exact (find?_eq_none_iff _ _).mp vacant account (same ▸ member) rfl
    · rw [if_neg missing]
      exact find?_place _ (Directory.newProfile account directory.now)

theorem existing_user {directory : Directory} {account other : AuthAccount}
    (there : directory.accounts.find? account.id = some other) : (directory.createUser account).2 = directory := by
  unfold Directory.createUser
  rw [there]
  rfl

theorem users_kept {directory : Directory} (call : InvitationCall) :
    (∃ account, call = .createUser account) ∨
      (directory.execute call).2.accounts = directory.accounts ∧ (directory.execute call).2.profiles = directory.profiles := by
  cases call with
  | createUser account => exact .inl ⟨account, rfl⟩
  | _ => exact .inr ⟨rfl, rfl⟩

omit [DecidableEq ι] in
theorem Furnished.kept (furnished : Furnished record passwords state)
    (accounts : after.directory.accounts = state.directory.accounts)
    (profiles : after.directory.profiles = state.directory.profiles) (created : after.created = state.created)
    (confirmed : ∀ thread, (after.phases thread).confirmed = true → state.created ≠ []) :
    Furnished record passwords after := by
  constructor
  · intro none
    rw [accounts, profiles]
    exact furnished.vacant (created ▸ none)
  · intro creator member
    rw [accounts, profiles, created]
    exact furnished.provided creator (created ▸ member)
  · intro thread found
    rw [created]
    exact confirmed thread found

theorem confirmed_step (furnished : Furnished record passwords state) (standing : Standing record row state.phases)
    (permitted : (state.phases thread).Permits tokenHash (passwords thread) call)
    (accepted : accepting thread state call reply after) (other : ι)
    (confirmed : (after.phases other).confirmed = true) : state.created ≠ [] := by
  obtain ⟨stepped, phases, -⟩ := accepted
  by_cases own : other = thread
  · subst own
    rw [phases, Function.update_self] at confirmed
    cases call with
    | findProfile profileId =>
        cases reply with
        | error fault => exact furnished.confirmed other confirmed
        | ok found =>
            cases found with
            | none => exact furnished.confirmed other confirmed
            | some profile =>
                obtain ⟨read, held, rfl⟩ := permitted
                rcases stepped with ⟨answered, -⟩ | ⟨fault, -, raised, -⟩
                · have present : some profile = state.directory.profiles.find? read.id := Except.ok.inj answered
                  rw [id_of_account (standing.account other read held)] at present
                  intro none
                  cases present.trans (furnished.vacant none).2
                · cases raised
    | _ => cases reply <;> exact furnished.confirmed other confirmed
  · rw [phases, Function.update_of_ne own] at confirmed
    exact furnished.confirmed other confirmed

theorem furnished_step (furnished : Furnished record passwords state) (standing : Standing record row state.phases)
    (permitted : (state.phases thread).Permits tokenHash (passwords thread) call)
    (accepted : accepting thread state call reply after) : Furnished record passwords after := by
  have confirmed := confirmed_step furnished standing permitted accepted
  obtain ⟨stepped, phases, noted⟩ := accepted
  have unmoved : after.directory.accounts = state.directory.accounts →
      after.directory.profiles = state.directory.profiles → Furnished record passwords after := by
    intro accounts profiles
    have created : after.created = state.created := by
      rw [noted, if_pos (congrArg Table.rows accounts)]
    exact furnished.kept accounts profiles created confirmed
  rcases left_by_step stepped with left | left
  · exact unmoved (by rw [left]; rfl) (by rw [left]; rfl)
  · rcases @users_kept state.directory call with ⟨account, rfl⟩ | ⟨accounts, profiles⟩
    · obtain ⟨read, held, asked⟩ := permitted
      have asked : account = record.account (passwords thread) := by
        rw [asked, standing.account thread read held]
      have identified : account.id = record.id := by rw [asked]; rfl
      cases creators : state.created with
      | nil =>
          obtain ⟨vacant, missing⟩ := furnished.vacant creators
          rcases created_user (identified ▸ vacant) (identified ▸ missing) with same | ⟨grown, made, profiled⟩
          · have same : after.directory = state.directory.tick := by
              rw [left]
              exact congrArg Directory.tick same
            exact unmoved (by rw [same]; rfl) (by rw [same]; rfl)
          · have created : after.created = [thread] := by
              rw [noted, left]
              exact (if_neg grown).trans (by rw [creators]; rfl)
            constructor
            · intro none
              cases created.symm.trans none
            · intro creator member
              obtain rfl : creator = thread := List.mem_singleton.mp (created ▸ member)
              rw [left, ← asked, ← identified]
              exact ⟨created, made, _, profiled⟩
            · intro other _ none
              cases created.symm.trans none
      | cons creator rest =>
          have provided := furnished.provided creator (by rw [creators]; exact List.mem_cons_self)
          have same : after.directory = state.directory.tick := by
            rw [left]
            exact congrArg Directory.tick (existing_user (identified ▸ provided.2.1))
          exact unmoved (by rw [same]; rfl) (by rw [same]; rfl)
    · apply unmoved
      · rw [left]
        exact accounts
      · rw [left]
        exact profiles

/-- The account has the password, and the profile is as the invitation says. -/
def Directory.Fulfils (state : Directory) (record : InvitationRecord) (password : String) : Prop :=
  (∃ account, state.accounts.find? record.id = some account ∧ account.password = password) ∧
    ∃ profile, state.profiles.find? record.id = some profile ∧ profile.fullName = record.fullName ∧
      profile.role = record.role ∧ profile.department = record.department ∧ profile.companyId = record.companyId

/-- An invitation gives one account to one call; that call leaves what it was asked for just in case the invitation has no
department and the account was created with the same password. -/
theorem acceptance_fulfils_iff (hash : String → String) (tokens passwords : ι → String) {start : Directory}
    {record : InvitationRecord} (found : start.presented record.tokenHash = some record)
    (presented : ∀ thread, hash (tokens thread) = record.tokenHash)
    (vacant : start.accounts.find? record.id = none ∧ start.profiles.find? record.id = none)
    {last : Pool invitationSignature InvitationFault (AcceptanceRun ι) ι} {events : List (Event invitationSignature ι)}
    (run : Pool.Run accepting (launchAcceptances hash tokens passwords start) events last) :
    (last.shared.created.length ≤ 1 ∧
        (∀ thread other, last.threads thread = .done () → last.threads other = .done () → thread = other) ∧
        ∀ thread, last.threads thread = .done () → last.shared.directory.Fulfils record (passwords thread)) ↔
      ∀ thread, last.threads thread = .done () →
        record.department = none ∧ ∀ creator ∈ last.shared.created, passwords creator = passwords thread := by
  have launched : Standing record record (launchAcceptances hash tokens passwords start).shared.phases ∧
      Furnished record passwords (launchAcceptances hash tokens passwords start).shared := by
    constructor
    · constructor <;> first | rfl | (intros; contradiction)
    · constructor
      · exact fun _ => vacant
      · intro creator member
        cases member
      · intro thread confirmed
        cases confirmed
  obtain ⟨follows, row, -, standing, furnished⟩ := @Pool.Run.tracked invitationSignature InvitationFault (AcceptanceRun ι)
    Acceptance ι _ accepting (fun thread => acceptanceDiscipline record.tokenHash (passwords thread)) (fun _ => Ended)
    AcceptanceRun.phases
    (fun state => ∃ row, state.directory.presented record.tokenHash = some row ∧ Standing record row state.phases ∧
      Furnished record passwords state)
    (by
      intro thread state call reply after kept permitted accepted
      obtain ⟨row, shown, standing, furnished⟩ := kept
      obtain ⟨left, still, stood⟩ := standing_step shown standing permitted accepted
      refine ⟨⟨foreseen_of_step accepted.1, ?_⟩, ?_, left, still, stood,
        furnished_step furnished standing permitted accepted⟩
      · rw [accepted.2.1, Function.update_self]
      · intro other apart
        rw [accepted.2.1, Function.update_of_ne apart])
    _ _ _ run
    (by
      intro thread
      rw [← presented thread]
      exact ensures_acceptance hash (tokens thread) (passwords thread))
    ⟨record, found, launched⟩
  have ended : ∀ thread, last.threads thread = .done () →
      (last.shared.phases thread).settled = true ∧ (last.shared.phases thread).confirmed = true := by
    intro thread done
    have ensured := follows thread
    rw [done] at ensured
    exact ensured
  have created : ∀ thread, last.threads thread = .done () → ∃ creator, creator ∈ last.shared.created := by
    intro thread done
    exact List.exists_mem_of_ne_nil _ (furnished.confirmed thread (ended thread done).2)
  constructor
  · intro held thread done
    obtain ⟨⟨account, stored, password⟩, profile, shown, -, -, department, -⟩ := held.2.2 thread done
    constructor
    · obtain ⟨creator, member⟩ := created thread done
      obtain ⟨-, -, now, provided⟩ := furnished.provided creator member
      obtain rfl := Option.some.inj (provided.symm.trans shown)
      exact department.symm
    · intro creator member
      have provided := (furnished.provided creator member).2.1
      obtain rfl := Option.some.inj (provided.symm.trans stored)
      exact password
  · intro condition
    refine ⟨?_, ?_, ?_⟩
    · cases creators : last.shared.created with
      | nil => exact Nat.zero_le 1
      | cons creator rest =>
          have member : creator ∈ last.shared.created := by
            rw [creators]
            exact List.mem_cons_self
          rw [← creators, (furnished.provided creator member).1]
          exact le_rfl
    · intro thread other done finished
      exact standing.once thread other (ended thread done).1 (ended other finished).1
    · intro thread done
      obtain ⟨creator, member⟩ := created thread done
      obtain ⟨lacking, same⟩ := condition thread done
      obtain ⟨-, account, now, profile⟩ := furnished.provided creator member
      exact ⟨⟨_, account, same creator member⟩, _, profile, rfl, rfl, lacking.symm, rfl⟩

/-- A call of a thread; the fault, if any, strikes before anything is done. -/
def acceptanceHandler (thread : ι) (strikes : Option InvitationFault) :
    Handler invitationSignature (AcceptanceRun ι) := fun call state =>
  let outcome := match strikes with
    | none => ((state.directory.execute call).1, (state.directory.execute call).2.tick)
    | some fault => (.error fault, state.directory.tick)
  (outcome.1,
    { directory := outcome.2
      phases := Function.update state.phases thread ((state.phases thread).after call outcome.1)
      created := if outcome.2.accounts.rows = state.directory.accounts.rows then state.created else state.created ++ [thread] })

theorem acceptanceHandler_accepting (thread : ι) (strikes : Option InvitationFault) (state : AcceptanceRun ι)
    (call : InvitationCall) (struck : (strikes.all fun fault => call.struck fault) = true) :
    accepting thread state call (acceptanceHandler thread strikes call state).1
      (acceptanceHandler thread strikes call state).2 := by
  refine ⟨?_, rfl, rfl⟩
  cases strikes with
  | none => exact .inl ⟨rfl, rfl⟩
  | some fault => exact .inr ⟨fault, struck, rfl, .inl rfl⟩

end Runs

section Samples

def dana : InvitationRecord := { carol with department := none }

def danaInvited : Directory := { carolInvited with invitations := Table.empty.place dana }

def chosenPassword (again : Bool) : String := if again then "second" else "first"

/-- The token is presented once, and once more with another password. -/
def presentedTwice : Pool invitationSignature InvitationFault (AcceptanceRun Bool) Bool :=
  launchAcceptances (fun token => token) (fun _ => "token") chosenPassword danaInvited

def firstCall : List (Bool × Option InvitationFault) := List.replicate 7 (false, none)

/-- The first call fails when it writes the status. -/
def failedThenRepeated : List (Bool × Option InvitationFault) :=
  List.replicate 5 (false, none) ++ (false, some (.database (.connection "connection reset"))) ::
    List.replicate 7 (true, none)

theorem dana_vacant : danaInvited.accounts.find? dana.id = none ∧ danaInvited.profiles.find? dana.id = none := ⟨rfl, rfl⟩

theorem acceptance_fulfils_iff_sample :
    ∃ last events, Pool.Run accepting presentedTwice events last ∧ last.threads false = .done () ∧
      last.shared.directory.Fulfils dana "first" := by
  have run := Pool.enact_runs acceptanceHandler_accepting presentedTwice firstCall (by decide +kernel)
  have returned : ((presentedTwice.enact acceptanceHandler firstCall).threads false).returned? = some () := by
    decide +kernel
  have waiting : ((presentedTwice.enact acceptanceHandler firstCall).threads true).returned? = none := by decide +kernel
  have created : (presentedTwice.enact acceptanceHandler firstCall).shared.created = [false] := by decide +kernel
  have done := Program.returned?_eq_some_iff.mp returned
  have found : danaInvited.presented dana.tokenHash = some dana := by decide +kernel
  have condition : ∀ thread, (presentedTwice.enact acceptanceHandler firstCall).threads thread = .done () →
      dana.department = none ∧ ∀ creator ∈ (presentedTwice.enact acceptanceHandler firstCall).shared.created,
        chosenPassword creator = chosenPassword thread := by
    intro thread finished
    cases thread with
    | true => cases waiting.symm.trans (Program.returned?_eq_some_iff.mpr finished)
    | false =>
        refine ⟨rfl, ?_⟩
        intro creator member
        rw [created] at member
        rw [List.mem_singleton.mp member]
  have fulfilled := (acceptance_fulfils_iff (fun token => token) (fun _ => "token")
    chosenPassword found (fun _ => rfl) dana_vacant run).mpr condition
  exact ⟨_, _, run, done, fulfilled.2.2 false done⟩

/-- The second call succeeds, and the account keeps the password of the first. -/
theorem password_of_failed_acceptance_kept :
    ¬ ∀ (last : Pool invitationSignature InvitationFault (AcceptanceRun Bool) Bool)
        (events : List (Event invitationSignature Bool)), Pool.Run accepting presentedTwice events last →
      last.shared.created.length ≤ 1 ∧
        (∀ thread other, last.threads thread = .done () → last.threads other = .done () → thread = other) ∧
        ∀ thread, last.threads thread = .done () →
          last.shared.directory.Fulfils dana (chosenPassword thread) := by
  intro fulfils
  have run := Pool.enact_runs acceptanceHandler_accepting presentedTwice failedThenRepeated (by decide +kernel)
  have returned : ((presentedTwice.enact acceptanceHandler failedThenRepeated).threads true).returned? = some () := by
    decide +kernel
  have stored : ((presentedTwice.enact acceptanceHandler failedThenRepeated).shared.directory.accounts.find? dana.id).map
      AuthAccount.password = some "first" := by decide +kernel
  obtain ⟨⟨account, held, password⟩, -⟩ := (fulfils _ _ run).2.2 true (Program.returned?_eq_some_iff.mp returned)
  rw [held] at stored
  have conflict := password.symm.trans (Option.some.inj stored)
  revert conflict
  decide

end Samples

end AutomationHub.Invitations
