import AutomationHub.Invitations.Directory

/-!
Which invitations have an account and a profile, over any interleaving of
revocations and acceptances.

Accepting creates the account before it writes the status, so that a revocation
may take effect in between.
-/

set_option autoImplicit false

namespace AutomationHub.Invitations

open Foundation Model Auth Database Program Table

/-- What an acceptance knows: the invitation it read, and the profile that it has found. -/
structure AcceptPhase where
  read : Option InvitationRecord
  confirmed : Option UUID

namespace AcceptPhase

def idle : AcceptPhase := ⟨none, none⟩

def after (phase : AcceptPhase) (call : InvitationCall) (reply : Except InvitationFault call.Result) : AcceptPhase :=
  match call, reply with
  | .findByTokenHash _, .ok found => { phase with read := found }
  | .findProfile profileId, .ok (some _) => { phase with confirmed := some profileId }
  | _, _ => phase

/-- An account is asked for only for the pending invitation that was read; an invitation is accepted only with the profile
that was found under its own id. -/
def Permits (phase : AcceptPhase) : InvitationCall → Prop
  | .createUser account => ∃ record, phase.read = some record ∧ record.status = .pending ∧ account.id = record.id
  | .updateStatus invitationId _ change =>
      change.status = .accepted → phase.confirmed = some invitationId ∧ change.acceptedProfileId = some invitationId
  | _ => True

end AcceptPhase

/-- A created user has the id that was asked for. -/
def Foreseen : (call : InvitationCall) → Except InvitationFault call.Result → Prop
  | .createUser account, .ok created => created = account.id
  | _, _ => True

def acceptDiscipline : Protocol invitationSignature AcceptPhase where
  permits := AcceptPhase.Permits
  answers := fun phase call reply after => Foreseen call reply ∧ after = phase.after call reply

section Programs

variable {phase : AcceptPhase} {hash : String → String}

theorem ensures_perform {call : InvitationCall} {post : Except InvitationFault call.Result → AcceptPhase → Prop} :
    (perform call).Ensures acceptDiscipline post phase ↔
      phase.Permits call ∧ ∀ reply, Foreseen call reply → post reply (phase.after call reply) := by
  exact ensures_advancing (fun reply => by cases reply <;> rfl) (fun _ _ => Iff.rfl) post

/-- The calls of a process that accepts nothing. -/
def Unaccepting : InvitationCall → Prop
  | .createUser _ => False
  | .updateStatus _ _ change => change.status ≠ .accepted
  | _ => True

private theorem only_perform {allowed : InvitationCall → Prop} {call : InvitationCall} (permitted : allowed call) :
    (perform call).Only allowed := by
  exact only_fallible (fun reply => by cases reply <;> rfl) permitted

private theorem only_translating {allowed : InvitationCall → Prop} {call : InvitationCall} (permitted : allowed call) :
    (translating (perform call)).Only allowed := by
  refine (only_perform permitted).tryCatch fun fault => ?_
  cases fault <;> trivial

private theorem only_requirePending {allowed : InvitationCall → Prop} (record : InvitationRecord)
    (attemptedAction : String) : (requirePending record attemptedAction).Only allowed := by
  unfold requirePending
  split <;> trivial

private theorem only_revokeInvitation (identity : AuthenticatedIdentity) (invitationId : UUID) :
    (revokeInvitation identity invitationId).Only Unaccepting := by
  refine Only.bind ?_ fun _ => Only.bind ?_ fun existing => Only.bind (only_requirePending existing _) fun _ =>
    Only.bind (only_perform ?_) fun now => Only.bind (only_translating ?_) fun updated =>
    Only.bind (only_translating ?_) fun _ => ?_
  · unfold authorizeAdmin
    split <;> trivial
  · refine Only.bind (only_translating ?_) fun record => ?_
    · trivial
    · split <;> trivial
  · trivial
  · exact nofun
  · trivial
  · trivial

section Rules

variable {α : Type} {post : Except InvitationFault α → AcceptPhase → Prop}

theorem ensures_answered {call : InvitationCall} {post : Except InvitationFault call.Result → AcceptPhase → Prop}
    (permitted : phase.Permits call) (raises : ∀ fault final, post (.error fault) final)
    (answered : ∀ result, Foreseen call (.ok result) → post (.ok result) (phase.after call (.ok result))) :
    (perform call).Ensures acceptDiscipline post phase := by
  refine ensures_perform.mpr ⟨permitted, ?_⟩
  intro reply foreseen
  cases reply with
  | ok result => exact answered result foreseen
  | error fault => exact raises fault _

theorem ensures_translating {program : InvitationProgram α} (raises : ∀ fault final, post (.error fault) final)
    (ensured : program.Ensures acceptDiscipline
      (fun result final => match result with
        | .ok value => post (.ok value) final
        | .error _ => True) phase) :
    (translating program).Ensures acceptDiscipline post phase := by
  refine (ensures_tryCatch ..).mpr (ensured.mono ?_)
  intro result final held
  rcases result with fault | value
  · cases fault <;> exact raises _ _
  · exact held

private theorem ensures_requireAcceptable {record : InvitationRecord}
    {post : Except InvitationFault Unit → AcceptPhase → Prop} (raises : ∀ fault final, post (.error fault) final)
    (accepted : record.status = .pending → post (.ok ()) phase) :
    (requireAcceptable record).Ensures acceptDiscipline post phase := by
  refine (ensures_bind ..).mpr ?_
  unfold requirePending
  split
  · rename_i pending
    refine (ensures_bind ..).mpr (ensures_answered trivial raises ?_)
    intro now _
    show Ensures acceptDiscipline (if record.expiresAt < now then _ else _) post phase
    split
    · exact raises _ _
    · exact accepted pending
  · exact raises _ _

private theorem ensures_waitForProfile {profileId : UUID} {post : Except InvitationFault Unit → AcceptPhase → Prop}
    (raises : ∀ fault final, post (.error fault) final)
    (found : post (.ok ()) { phase with confirmed := some profileId }) (attempts : Nat) :
    (waitForProfile profileId attempts).Ensures acceptDiscipline post phase := by
  induction attempts with
  | zero => exact raises _ _
  | succ attempts recurse =>
      refine (ensures_bind ..).mpr (ensures_answered trivial raises ?_)
      intro profile _
      cases profile with
      | some profile => exact found
      | none => exact recurse

end Rules

private theorem ensures_acceptInvitation (token password : String) :
    (acceptInvitation hash token password).Ensures acceptDiscipline (fun _ _ => True) phase := by
  have raises : ∀ {α : Type} {next : α → InvitationProgram InvitationRecord} (fault : InvitationFault)
      (final : AcceptPhase), Then acceptDiscipline next (fun _ _ => True) (.error fault) final := fun _ _ => trivial
  refine (ensures_bind ..).mpr ((ensures_bind ..).mpr (ensures_translating (fun _ _ => trivial)
    (ensures_answered trivial (fun _ _ => trivial) ?_)))
  intro found _
  cases found with
  | none => trivial
  | some record =>
      refine (ensures_bind ..).mpr (ensures_requireAcceptable raises ?_)
      intro pending
      have onward : ∀ reached : AcceptPhase, (do
          waitForProfile record.id profilePropagationAttempts
          let now : Datetime ← perform .utcNow
          let updated : InvitationRecord ← translating (perform (.updateStatus record.id record.version
            { status := .accepted, tokenHash := none, expiresAt := none, acceptedAt := some now, revokedAt := none,
              acceptedProfileId := some record.id, resendCount := none }))
          translating (perform (.recordEvent .invitationAccepted record.id updated.id updated.email))
          return updated : InvitationProgram InvitationRecord).Ensures acceptDiscipline (fun _ _ => True) reached := by
        intro reached
        refine (ensures_bind ..).mpr (ensures_waitForProfile raises ?_ _)
        refine (ensures_bind ..).mpr (ensures_answered trivial raises ?_)
        intro now _
        refine (ensures_bind ..).mpr (ensures_translating raises
          (ensures_answered (fun _ => ⟨rfl, rfl⟩) (fun _ _ => trivial) ?_))
        intro updated _
        exact (ensures_bind ..).mpr (ensures_translating raises
          (ensures_answered trivial (fun _ _ => trivial) fun _ _ => trivial))
      refine (ensures_bind ..).mpr ((ensures_tryCatch ..).mpr (ensures_perform.mpr
        ⟨⟨record, rfl, pending, rfl⟩, ?_⟩))
      intro reply foreseen
      rcases reply with fault | created
      · cases fault with
        | conflict email => exact onward _
        | _ => trivial
      · have same : created = record.id := foreseen
        subst same
        exact onward _

theorem ensures_process (process : InvitationProcess) :
    (process.program hash).Ensures acceptDiscipline (fun _ _ => True) AcceptPhase.idle := by
  cases process with
  | revoke identity invitationId =>
      refine (ensures_bind ..).mpr ?_
      refine Ensures.mono ((only_revokeInvitation identity invitationId).ensures (fun _ => True) ?_ trivial) ?_
      · intro phase call _ allowed
        refine ⟨?_, fun _ _ _ => trivial⟩
        cases call with
        | createUser account => exact allowed.elim
        | updateStatus invitationId expectedVersion change => exact fun accepted => absurd accepted allowed
        | _ => trivial
      · intro result final _
        cases result <;> trivial
  | accept token password =>
      refine (ensures_bind ..).mpr (Ensures.mono (ensures_acceptInvitation token password) ?_)
      intro result final _
      cases result <;> trivial

end Programs

section Steps

variable {state after : Directory} {call : InvitationCall} {reply : Except InvitationFault call.Result} {id : UUID}

/-- The directory has an account, or a profile, under the id. -/
def Directory.hasAccount (state : Directory) (id : UUID) : Bool := (state.accounts.find? id).isSome

def Directory.hasProfile (state : Directory) (id : UUID) : Bool := (state.profiles.find? id).isSome

theorem left_by_step (stepped : invitationStep state call reply after) :
    after = state.tick ∨ after = (state.execute call).2.tick := by
  rcases stepped with ⟨-, rfl⟩ | ⟨fault, -, -, left⟩
  · exact .inr rfl
  · exact left

theorem users_execute (state : Directory) (call : InvitationCall) (id : UUID) :
    ((state.execute call).2.hasAccount id = state.hasAccount id ∧
        (state.execute call).2.hasProfile id = state.hasProfile id) ∨
      ∃ account, call = .createUser account ∧ account.id = id ∧
        (state.execute call).2.hasAccount id = true ∧ (state.execute call).2.hasProfile id = true := by
  cases call with
  | createUser account =>
      simp only [Directory.execute, Directory.createUser]
      split
      · exact .inl ⟨rfl, rfl⟩
      · by_cases own : id = account.id
        · subst own
          refine .inr ⟨account, rfl, rfl, ?_, ?_⟩
          · exact Option.isSome_iff_exists.mpr ⟨account, find?_place _ account⟩
          · simp only [Directory.hasProfile]
            split
            · assumption
            · exact Option.isSome_iff_exists.mpr ⟨_, find?_place _ (Directory.newProfile account state.now)⟩
        · refine .inl ⟨?_, ?_⟩
          · exact congrArg Option.isSome (find?_place_other _ account own)
          · simp only [Directory.hasProfile]
            split
            · rfl
            · exact congrArg Option.isSome (find?_place_other _ (Directory.newProfile account state.now) own)
  | _ => exact .inl ⟨rfl, rfl⟩

theorem users_step (stepped : invitationStep state call reply after) (id : UUID) :
    (after.hasAccount id = state.hasAccount id ∧ after.hasProfile id = state.hasProfile id) ∨
      ∃ account, call = .createUser account ∧ account.id = id ∧ after.hasAccount id = true ∧
        after.hasProfile id = true := by
  rcases left_by_step stepped with rfl | rfl
  · exact .inl ⟨rfl, rfl⟩
  · exact users_execute state call id

theorem row_update (state : Directory) (invitationId : UUID) (expectedVersion : Nat) (change : StatusChange) (id : UUID) :
    let after := (state.updateStatus invitationId expectedVersion change).2
    after.invitations.find? id = state.invitations.find? id ∨
      id = invitationId ∧ ∃ row, after.invitations.find? id = some ((stamped change.edit expectedVersion).apply row) := by
  dsimp only
  unfold Directory.updateStatus
  rcases outcome : updateWithOptimisticLock "user_invitations" state.invitations invitationId expectedVersion
    change.edit _ with ⟨reply, invitations⟩
  cases reply with
  | error error => exact .inl (congrArg (find? · id) (updateWithOptimisticLock_error outcome))
  | ok written =>
      obtain ⟨row, found, -, -, -, rfl⟩ := updateWithOptimisticLock_ok_iff.mp outcome
      have changed := find?_modify state.invitations invitationId id (stamped change.edit expectedVersion)
      by_cases own : id = invitationId
      · rw [if_pos own, found] at changed
        exact .inr ⟨own, row, changed⟩
      · rw [if_neg own] at changed
        exact .inl changed

/-- The row of an invitation changes only by a status update of that invitation, which leaves the status asked for. -/
theorem row_step (stepped : invitationStep state call reply after) (id : UUID) :
    after.invitations.find? id = state.invitations.find? id ∨
      ∃ expectedVersion change row, call = .updateStatus id expectedVersion change ∧
        after.invitations.find? id = some ((stamped change.edit expectedVersion).apply row) := by
  rcases left_by_step stepped with rfl | rfl
  · exact .inl rfl
  · cases call with
    | updateStatus invitationId expectedVersion change =>
        rcases row_update state invitationId expectedVersion change id with same | ⟨rfl, row, changed⟩
        · exact .inl same
        · exact .inr ⟨expectedVersion, change, row, rfl, changed⟩
    | createUser account =>
        have same : (state.createUser account).2.invitations = state.invitations := by
          unfold Directory.createUser
          split <;> rfl
        exact .inl (congrArg (find? · id) same)
    | _ => exact .inl rfl

theorem foreseen_of_step (stepped : invitationStep state call reply after) : Foreseen call reply := by
  cases call with
  | createUser account =>
      rcases stepped with ⟨rfl, -⟩ | ⟨fault, -, rfl, -⟩
      · simp only [Directory.execute, Directory.createUser]
        split
        · trivial
        · rfl
      · trivial
  | _ => trivial

end Steps

section Runs

variable {ι : Type} [DecidableEq ι]

/-- The directory in a run, with what each acceptance knows. -/
structure InvitationRun (ι : Type) where
  directory : Directory
  phases : ι → AcceptPhase

def inviting : Effect invitationSignature (InvitationRun ι) ι := fun thread state call reply after =>
  invitationStep state.directory call reply after.directory ∧
    after.phases = Function.update state.phases thread ((state.phases thread).after call reply)

/-- No account is created for the invitation unless it is still as its acceptance read it, and it is not revoked once it
has an account. -/
def separate (id : UUID) : Effect invitationSignature (InvitationRun ι) ι := fun thread state call reply after =>
  inviting thread state call reply after ∧
    (state.directory.hasAccount id = false → after.directory.hasAccount id = true →
      state.directory.invitations.find? id = (state.phases thread).read) ∧
    (state.directory.statusOf id ≠ some .revoked → after.directory.statusOf id = some .revoked →
      state.directory.hasAccount id = false)

def launchInvitations (hash : String → String) (processes : ι → InvitationProcess) (start : Directory) :
    Pool invitationSignature InvitationFault (InvitationRun ι) ι where
  shared := { directory := start, phases := fun _ => AcceptPhase.idle }
  threads := fun thread => (processes thread).program hash

/-- A profile of the invitation has an account, and an accepted invitation has its profile. -/
structure Provisioned (id : UUID) (state : InvitationRun ι) : Prop where
  backed : state.directory.hasProfile id = true → state.directory.hasAccount id = true
  confirmed : ∀ thread, (state.phases thread).confirmed = some id → state.directory.hasProfile id = true
  accepted : ∀ row, state.directory.invitations.find? id = some row → row.status = .accepted →
    state.directory.hasProfile id = true ∧ row.acceptedProfileId = some id

variable {thread : ι} {state after : InvitationRun ι} {call : InvitationCall} {reply : Except InvitationFault call.Result}
  {id : UUID}

theorem confirmed_after {phase : AcceptPhase} {directory left : Directory}
    (stepped : invitationStep directory call reply left) (confirmed : (phase.after call reply).confirmed = some id) :
    phase.confirmed = some id ∨ directory.hasProfile id = true := by
  rcases reply with fault | result
  · cases call <;> exact .inl confirmed
  · cases call with
    | findProfile profileId =>
        cases result with
        | none => exact .inl confirmed
        | some profile =>
            obtain rfl : profileId = id := Option.some.inj confirmed
            rcases stepped with ⟨answered, -⟩ | ⟨fault, -, raised, -⟩
            · have found : some profile = directory.profiles.find? profileId := Except.ok.inj answered
              exact .inr (Option.isSome_iff_exists.mpr ⟨profile, found.symm⟩)
            · cases raised
    | _ => exact .inl confirmed

theorem provisioned_step (provisioned : Provisioned id state) (permitted : (state.phases thread).Permits call)
    (invited : inviting thread state call reply after) : Provisioned id after := by
  have keeps : state.directory.hasProfile id = true → after.directory.hasProfile id = true := by
    intro held
    rcases users_step invited.1 id with ⟨-, same⟩ | ⟨_, -, -, -, made⟩
    · rw [same, held]
    · exact made
  constructor
  · intro held
    rcases users_step invited.1 id with ⟨account, profile⟩ | ⟨_, -, -, made, -⟩
    · rw [account]
      exact provisioned.backed (profile ▸ held)
    · exact made
  · intro other confirmed
    refine keeps ?_
    rw [invited.2] at confirmed
    by_cases own : other = thread
    · subst own
      rw [Function.update_self] at confirmed
      exact (confirmed_after invited.1 confirmed).elim (provisioned.confirmed other) fun held => held
    · rw [Function.update_of_ne own] at confirmed
      exact provisioned.confirmed other confirmed
  · intro row found accepted
    rcases row_step invited.1 id with same | ⟨expectedVersion, change, old, rfl, changed⟩
    · rw [same] at found
      obtain ⟨held, linked⟩ := provisioned.accepted row found accepted
      exact ⟨keeps held, linked⟩
    · obtain rfl := Option.some.inj (changed.symm.trans found)
      obtain ⟨confirmed, linked⟩ := permitted accepted
      refine ⟨keeps (provisioned.confirmed thread confirmed), ?_⟩
      show (change.acceptedProfileId <|> old.acceptedProfileId) = some id
      rw [linked]
      rfl

theorem unprovisioned_step (unprovisioned : state.directory.statusOf id = some .revoked → state.directory.hasAccount id = false)
    (permitted : (state.phases thread).Permits call) (separated : separate id thread state call reply after)
    (revoked : after.directory.statusOf id = some .revoked) : after.directory.hasAccount id = false := by
  obtain ⟨invited, creating, revoking⟩ := separated
  have lacking : state.directory.hasAccount id = false := by
    by_cases before : state.directory.statusOf id = some .revoked
    · exact unprovisioned before
    · exact revoking before revoked
  rcases users_step invited.1 id with ⟨same, -⟩ | ⟨account, rfl, rfl, made, -⟩
  · rw [same, lacking]
  · have present := creating lacking made
    obtain ⟨record, read, pending, -⟩ := permitted
    have still : after.directory.invitations.find? account.id = state.directory.invitations.find? account.id := by
      rcases row_step invited.1 account.id with same | ⟨_, _, _, called, -⟩
      · exact same
      · cases called
    rw [Directory.statusOf, still, present, read] at revoked
    have conflict : InvitationStatus.pending = .revoked := pending ▸ Option.some.inj revoked
    cases conflict

theorem invitation_run {hash : String → String} {processes : ι → InvitationProcess} {start : Directory}
    {effect : Effect invitationSignature (InvitationRun ι) ι} {inv : InvitationRun ι → Prop}
    {last : Pool invitationSignature InvitationFault (InvitationRun ι) ι} {events : List (Event invitationSignature ι)}
    (run : Pool.Run effect (launchInvitations hash processes start) events last)
    (invites : ∀ thread state call reply after, effect thread state call reply after →
      inviting thread state call reply after)
    (preserved : ∀ thread state call reply after, inv state → (state.phases thread).Permits call →
      effect thread state call reply after → inv after)
    (holds : inv (launchInvitations hash processes start).shared) : inv last.shared := by
  refine (run.tracked InvitationRun.phases inv ?_ (fun thread => ensures_process (processes thread)) holds).2
  intro thread state call reply after holds permitted effected
  have invited := invites _ _ _ _ _ effected
  refine ⟨⟨foreseen_of_step invited.1, ?_⟩, ?_, preserved _ _ _ _ _ holds permitted effected⟩
  · rw [invited.2, Function.update_self]
  · intro other apart
    rw [invited.2, Function.update_of_ne apart]

/-- An accepted invitation has exactly one account and one profile, whatever the order of the calls and the failures; a
revoked one has neither, as long as creating its account and revoking it do not overlap. -/
theorem provisioning_follows_status (hash : String → String) (processes : ι → InvitationProcess) {start : Directory}
    {id : UUID} (pending : ∀ row, start.invitations.find? id = some row → row.status = .pending)
    (absent : start.hasAccount id = false ∧ start.hasProfile id = false)
    {last : Pool invitationSignature InvitationFault (InvitationRun ι) ι} {events : List (Event invitationSignature ι)}
    (run : Pool.Run inviting (launchInvitations hash processes start) events last) :
    (last.shared.directory.statusOf id = some .accepted →
      (∃! account, account ∈ last.shared.directory.accounts.rows ∧ account.id = id) ∧
        ∃! profile, profile ∈ last.shared.directory.profiles.rows ∧ profile.id = id) ∧
      (Pool.Run (separate id) (launchInvitations hash processes start) events last →
        last.shared.directory.statusOf id = some .revoked →
        (∀ account ∈ last.shared.directory.accounts.rows, account.id ≠ id) ∧
          ∀ profile ∈ last.shared.directory.profiles.rows, profile.id ≠ id) := by
  have launched : Provisioned id (launchInvitations hash processes start).shared := by
    refine ⟨fun held => absurd (absent.2.symm.trans held) (by decide), fun _ confirmed => (nomatch confirmed), ?_⟩
    intro row found accepted
    exact absurd ((pending row found).symm.trans accepted) (by decide)
  have provisioned : Provisioned id last.shared := invitation_run run (fun _ _ _ _ _ invited => invited)
    (fun _ _ _ _ _ provisioned permitted invited => provisioned_step provisioned permitted invited) launched
  constructor
  · intro status
    obtain ⟨row, found, accepted⟩ := Option.map_eq_some_iff.mp status
    have profile := (provisioned.accepted row found accepted).1
    exact ⟨existsUnique_of_find? _ (provisioned.backed profile), existsUnique_of_find? _ profile⟩
  · intro separated status
    have kept := @invitation_run _ _ _ processes _ _
      (fun state => state.directory.statusOf id = some .revoked → state.directory.hasAccount id = false) _ _ separated
      (fun _ _ _ _ _ separated => separated.1) (fun _ _ _ _ _ unprovisioned permitted separated => unprovisioned_step unprovisioned permitted separated)
      (fun _ => absent.1)
    have account := kept status
    have profile : last.shared.directory.hasProfile id = false := by
      cases held : last.shared.directory.hasProfile id with
      | false => rfl
      | true => exact absurd (account.symm.trans (provisioned.backed held)) (by decide)
    exact ⟨(find?_eq_none_iff _ _).mp (Option.not_isSome_iff_eq_none.mp (by simpa [Directory.hasAccount] using account)),
      (find?_eq_none_iff _ _).mp (Option.not_isSome_iff_eq_none.mp (by simpa [Directory.hasProfile] using profile))⟩

/-- A call of a thread; the fault, if any, strikes before anything is done. -/
def invitationHandler (thread : ι) (strikes : Option InvitationFault) : Handler invitationSignature (InvitationRun ι) :=
  fun call state =>
    let outcome := match strikes with
      | none => ((state.directory.execute call).1, (state.directory.execute call).2.tick)
      | some fault => (.error fault, state.directory.tick)
    (outcome.1,
      { directory := outcome.2
        phases := Function.update state.phases thread ((state.phases thread).after call outcome.1) })

theorem invitationHandler_inviting (thread : ι) (strikes : Option InvitationFault) (state : InvitationRun ι)
    (call : InvitationCall) (struck : (strikes.all fun fault => call.struck fault) = true) :
    inviting thread state call (invitationHandler thread strikes call state).1
      (invitationHandler thread strikes call state).2 := by
  refine ⟨?_, rfl⟩
  cases strikes with
  | none => exact .inl ⟨rfl, rfl⟩
  | some fault => exact .inr ⟨fault, struck, rfl, .inl rfl⟩

end Runs

section Samples

def carol : InvitationRecord where
  id := 7
  email := "carol@example.com"
  fullName := "Carol"
  role := .employee
  department := some "Finance"
  tokenHash := "token"
  status := .pending
  expiresAt := 1000
  acceptedAt := none
  revokedAt := none
  acceptedProfileId := none
  resendCount := 0
  version := 1
  companyId := 1
  createdAt := 5

def carolInvited : Directory where
  clock := fun _ => 10
  ticks := 0
  invitations := Table.empty.place carol
  accounts := Table.empty
  profiles := Table.empty

/-- An administrator revokes the invitation while its token is presented. -/
def revokeAndAccept : Fin 2 → InvitationProcess
  | 0 => .revoke { userId := 3, role := .admin, companyId := 1, expiresAt := none } 7
  | 1 => .accept "token" "secret"

def carolPool : Pool invitationSignature InvitationFault (InvitationRun (Fin 2)) (Fin 2) :=
  launchInvitations (fun token => token) revokeAndAccept carolInvited

def separateCheck (thread : Fin 2) (strikes : Option InvitationFault) (state : InvitationRun (Fin 2))
    (call : InvitationCall) : Bool :=
  (strikes.all fun fault => call.struck fault) &&
    (let after := (invitationHandler thread strikes call state).2
    (state.directory.hasAccount 7 || !after.directory.hasAccount 7 ||
        state.directory.invitations.find? 7 == (state.phases thread).read) &&
      (state.directory.statusOf 7 == some .revoked || after.directory.statusOf 7 != some .revoked ||
        !state.directory.hasAccount 7))

theorem separate_of_check (thread : Fin 2) (strikes : Option InvitationFault) (state : InvitationRun (Fin 2))
    (call : InvitationCall) (passed : separateCheck thread strikes state call = true) :
    separate 7 thread state call (invitationHandler thread strikes call state).1
      (invitationHandler thread strikes call state).2 := by
  obtain ⟨struck, kept⟩ := Bool.and_eq_true_iff.mp passed
  obtain ⟨creating, revoking⟩ := Bool.and_eq_true_iff.mp kept
  refine ⟨invitationHandler_inviting thread strikes state call struck, ?_, ?_⟩
  · intro lacking made
    simpa [lacking, made] using creating
  · intro before revoked
    simpa [before, revoked] using revoking

/-- The invitation is revoked, and then its token is presented in vain. -/
theorem provisioning_follows_status_sample :
    ∃ last events, Pool.Run inviting carolPool events last ∧ last.shared.directory.statusOf 7 = some .revoked ∧
      ∀ account ∈ last.shared.directory.accounts.rows, account.id ≠ 7 := by
  have separated := Pool.enact_runs separate_of_check carolPool
    [(0, none), (0, none), (0, none), (0, none), (1, none)] (by decide +kernel)
  have run : Pool.Run inviting carolPool _ _ := separated.mono fun _ _ _ _ _ separated => separated.1
  have pending : ∀ row, carolInvited.invitations.find? 7 = some row → row.status = .pending := by
    intro row found
    have same : carolInvited.invitations.find? 7 = some carol := by decide +kernel
    obtain rfl := Option.some.inj (same.symm.trans found)
    rfl
  have status := (provisioning_follows_status (fun token => token) revokeAndAccept pending ⟨rfl, rfl⟩ run).2 separated
    (by decide +kernel)
  exact ⟨_, _, run, by decide +kernel, status.1⟩

/-- The invitation is revoked after its account has been created. -/
theorem revoked_invitation_provisioned :
    ¬ ∀ (last : Pool invitationSignature InvitationFault (InvitationRun (Fin 2)) (Fin 2))
        (events : List (Event invitationSignature (Fin 2))), Pool.Run inviting carolPool events last →
      last.shared.directory.statusOf 7 = some .revoked →
        (∀ account ∈ last.shared.directory.accounts.rows, account.id ≠ 7) ∧
          ∀ profile ∈ last.shared.directory.profiles.rows, profile.id ≠ 7 := by
  intro follows
  have run := Pool.enact_runs invitationHandler_inviting carolPool
    [(1, none), (1, none), (1, none), (0, none), (0, none), (0, none)] (by decide +kernel)
  have unprovisioned := (follows _ _ run (by decide +kernel)).1
  have created : (Pool.enact invitationHandler carolPool
      [(1, none), (1, none), (1, none), (0, none), (0, none), (0, none)]).shared.directory.hasAccount 7 = true := by
    decide +kernel
  obtain ⟨account, found⟩ := Option.isSome_iff_exists.mp created
  obtain ⟨member, keyed⟩ := (find?_eq_some_iff _ _ _).mp found
  exact unprovisioned account member keyed

end Samples

end AutomationHub.Invitations
