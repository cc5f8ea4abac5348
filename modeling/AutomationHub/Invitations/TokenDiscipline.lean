import AutomationHub.Foundation.Returning
import AutomationHub.Invitations.Issuing

/-!
What each process that creates, resends, revokes, checks or accepts an invitation knows,
and which calls it makes then.
-/

set_option autoImplicit false

namespace AutomationHub.Invitations.Issuing

open Foundation Model Auth Database Program Table

/-- What a process knows: the record that it read last, the token that it has drawn and not yet stored, and the record that
carries it. -/
structure TokenPhase where
  read : Option InvitationRecord
  held : Option String
  stored : Option (InvitationRecord × String)

namespace TokenPhase

def idle : TokenPhase := ⟨none, none, none⟩

/-- A write uses up the token, whether it succeeds or not. -/
def spend (phase : TokenPhase) (reply : Except InvitationFault InvitationRecord) : TokenPhase :=
  { phase with
    held := none
    stored := match reply, phase.held with
      | .ok record, some token => some (record, token)
      | _, _ => none }

def after (phase : TokenPhase) : (call : IssuingCall) → Except InvitationFault call.Result → TokenPhase
  | .directory (.getById _), .ok record => { phase with read := some record }
  | .directory (.findByTokenHash _), .ok found => { phase with read := found }
  | .generateToken, .ok token => { phase with held := some token }
  | .directory (.updateStatus ..), reply => phase.spend reply
  | .createInvitation _, reply => phase.spend reply
  | _, _ => phase

/-- The changes of a pending invitation: a resend stores the token that was drawn and counts itself; a revocation and an
acceptance leave the token alone, which in the latter case is the one presented. -/
def Moves (hash : String → String) (presented : Option String) (phase : TokenPhase) (record : InvitationRecord)
    (change : StatusChange) : Prop :=
  match change.status with
  | .pending => (∃ token, phase.held = some token ∧ change.tokenHash = some (hash token)) ∧
      change.resendCount = some (record.resendCount + 1)
  | .revoked => phase.held = none ∧ change.tokenHash = none ∧ change.resendCount = none
  | .accepted => phase.held = none ∧ change.tokenHash = none ∧ change.resendCount = none ∧
      presented.map hash = some record.tokenHash

def Permits (hash : String → String) (presented : Option String) (phase : TokenPhase) : IssuingCall → Prop
  | .directory (.updateStatus invitationId expectedVersion change) =>
      ∃ record, phase.read = some record ∧ record.status = .pending ∧ record.id = invitationId ∧
        record.version = expectedVersion ∧ phase.Moves hash presented record change
  | .createInvitation values => ∃ token, phase.held = some token ∧ values.tokenHash = hash token
  | .sendInvitation email => ∃ record, phase.stored = some (record, email.token) ∧ email.invitationId = record.id ∧
      email.toEmail = record.email
  | _ => True

end TokenPhase

/-- What is looked up is found as it was asked for. -/
def Foreseen : (call : IssuingCall) → Except InvitationFault call.Result → Prop
  | .directory (.getById invitationId), .ok record => record.id = invitationId
  | .directory (.findByTokenHash tokenHash), .ok (some record) => record.tokenHash = tokenHash
  | _, _ => True

/-- The discipline of a process that presents the given token, if any. -/
def tokenDiscipline (hash : String → String) (presented : Option String) : Protocol issuingSignature TokenPhase where
  permits := TokenPhase.Permits hash presented
  answers := fun phase call reply after => Foreseen call reply ∧ after = phase.after call reply

/-- The token that a process presents to accept an invitation. -/
def IssuingProcess.presented : IssuingProcess → Option String
  | .accept token _ => some token
  | _ => none

section Programs

variable {rules : TextRules} {config : IssuingConfig} {phase : TokenPhase} {hash : String → String}
  {presented : Option String}

theorem leads_perform {call : IssuingCall} {post : call.Result → TokenPhase → Prop} (permitted : phase.Permits hash presented call)
    (answered : ∀ result, Foreseen call (.ok result) → post result (phase.after call (.ok result))) :
    (perform call).Leads (tokenDiscipline hash presented) post phase := by
  apply leads_fallible (fun reply => by cases reply <;> rfl) permitted
  intro result after possible
  obtain ⟨foreseen, same⟩ := possible
  subst same
  exact answered result foreseen

theorem leads_translating {α : Type} {program : IssuingProgram α} {post : α → TokenPhase → Prop}
    (leads : program.Leads (tokenDiscipline hash presented) post phase) :
    (translating program).Leads (tokenDiscipline hash presented) post phase := by
  apply leads.tryCatch
  intro fault final
  cases fault <;> exact leads_raised _ _

theorem leads_directory {call : InvitationCall} {post : call.Result → TokenPhase → Prop}
    (permitted : phase.Permits hash presented (.directory call))
    (answered : ∀ result, Foreseen (.directory call) (.ok result) → post result (phase.after (.directory call) (.ok result))) :
    (Invitations.perform call).Leads ((tokenDiscipline hash presented).pulled directoryCalls) post phase := by
  apply leads_fallible (fun reply => by cases reply <;> rfl) permitted
  intro result after possible
  obtain ⟨answer, told, foreseen, same⟩ := possible
  subst told same
  exact answered result foreseen

theorem leads_directory_translating {α : Type} {program : InvitationProgram α} {post : α → TokenPhase → Prop}
    (leads : program.Leads ((tokenDiscipline hash presented).pulled directoryCalls) post phase) :
    (Invitations.translating program).Leads ((tokenDiscipline hash presented).pulled directoryCalls) post phase := by
  apply leads.tryCatch
  intro fault final
  cases fault <;> exact leads_raised _ _

theorem leads_embed {α : Type} {program : InvitationProgram α} {post : α → TokenPhase → Prop}
    (leads : program.Leads ((tokenDiscipline hash presented).pulled directoryCalls) post phase) :
    (program.embed directoryCalls).Leads (tokenDiscipline hash presented) post phase :=
  ensures_embed leads

theorem leads_authorizeAdmin {protocol : Protocol invitationSignature TokenPhase} (identity : AuthenticatedIdentity) :
    (authorizeAdmin identity).Leads protocol (fun _ final => final = phase) phase := by
  unfold authorizeAdmin
  split
  · exact leads_done rfl
  · exact leads_raised _ _

theorem leads_requirePending {protocol : Protocol invitationSignature TokenPhase} (record : InvitationRecord)
    (attemptedAction : String) :
    (requirePending record attemptedAction).Leads protocol (fun _ final => record.status = .pending ∧ final = phase) phase := by
  unfold requirePending
  split
  · rename_i pending
    exact leads_done ⟨pending, rfl⟩
  · exact leads_raised _ _

theorem leads_getRecordOrRaise (invitationId : UUID) (identity : AuthenticatedIdentity) :
    (getRecordOrRaise invitationId identity).Leads ((tokenDiscipline hash presented).pulled directoryCalls)
      (fun record final => record.id = invitationId ∧ final = { phase with read := some record }) phase := by
  apply Leads.bind
  apply leads_directory_translating
  refine leads_directory trivial ?_
  intro record foreseen
  change Leads _ (if record.companyId = identity.companyId then _ else _) _ _
  split
  · exact leads_done ⟨foreseen, rfl⟩
  · exact leads_raised _ _

theorem leads_requireAcceptable (record : InvitationRecord) :
    (requireAcceptable record).Leads ((tokenDiscipline hash presented).pulled directoryCalls)
      (fun _ final => record.status = .pending ∧ final = phase) phase := by
  apply Leads.bind
  apply (leads_requirePending record "accept").mono
  intro _ final held
  obtain ⟨pending, same⟩ := held
  subst same
  apply Leads.bind
  refine leads_directory trivial ?_
  intro now _
  change Leads _ (if record.expiresAt < now then _ else _) _ _
  split
  · exact leads_raised _ _
  · exact leads_done ⟨pending, rfl⟩

theorem leads_findByTokenOrRaise (token : String) :
    (findByTokenOrRaise hash token).Leads ((tokenDiscipline hash presented).pulled directoryCalls)
      (fun record final => record.tokenHash = hash token ∧
        final = { phase with read := some record }) phase := by
  apply Leads.bind
  apply leads_directory_translating
  refine leads_directory trivial ?_
  intro found foreseen
  cases found with
  | none => exact leads_raised _ _
  | some record => exact leads_done ⟨foreseen, rfl⟩

theorem leads_waitForProfile (profileId : UUID) (attempts : Nat) :
    (waitForProfile profileId attempts).Leads ((tokenDiscipline hash presented).pulled directoryCalls)
      (fun _ final => final = phase) phase := by
  induction attempts with
  | zero => exact leads_raised _ _
  | succ attempts recurse =>
      apply Leads.bind
      refine leads_directory trivial ?_
      intro profile _
      cases profile with
      | some profile => exact leads_done rfl
      | none => exact recurse

theorem leads_revokeInvitation (identity : AuthenticatedIdentity) (invitationId : UUID) (empty : phase.held = none) :
    (revokeInvitation identity invitationId).Leads ((tokenDiscipline hash presented).pulled directoryCalls) (fun _ _ => True)
      phase := by
  apply Leads.bind
  apply (leads_authorizeAdmin identity).mono
  intro _ final same
  subst same
  apply Leads.bind
  apply (leads_getRecordOrRaise invitationId identity).mono
  intro existing final found
  obtain ⟨named, same⟩ := found
  subst same
  apply Leads.bind
  apply (leads_requirePending existing "revoke").mono
  intro _ final held
  obtain ⟨pending, same⟩ := held
  subst same
  apply Leads.bind
  refine leads_directory trivial ?_
  intro now _
  apply Leads.bind
  apply leads_directory_translating
  refine leads_directory ⟨existing, rfl, pending, named, rfl, empty, rfl, rfl⟩ ?_
  intro updated _
  apply Leads.bind
  apply leads_directory_translating
  refine leads_directory trivial ?_
  intro _ _
  exact leads_done trivial

theorem leads_acceptInvitation (token password : String) (empty : phase.held = none) :
    (acceptInvitation hash token password).Leads ((tokenDiscipline hash (some token)).pulled directoryCalls) (fun _ _ => True)
      phase := by
  apply Leads.bind
  apply (leads_findByTokenOrRaise token).mono
  intro record final found
  obtain ⟨sought, same⟩ := found
  subst same
  apply Leads.bind
  apply (leads_requireAcceptable record).mono
  intro _ final held
  obtain ⟨pending, same⟩ := held
  subst same
  apply Leads.bind
  have asked : ∀ handle : InvitationFault → InvitationProgram UUID, (∀ email, handle (.conflict email) = return record.id) →
      (∀ fault, (∀ email, fault ≠ .conflict email) → handle fault = .raised fault) →
      (tryCatch (Invitations.perform (.createUser
        { id := record.id, email := record.email, password, fullName := record.fullName, role := record.role,
          companyId := record.companyId })) handle).Leads ((tokenDiscipline hash (some token)).pulled directoryCalls)
        (fun _ final => final = { phase with read := some record }) { phase with read := some record } := by
    intro handle known others
    refine (ensures_tryCatch ..).mpr ?_
    refine (ensures_fallible (fun reply => by cases reply <;> rfl) _).mpr ⟨trivial, ?_⟩
    intro reply after possible
    obtain ⟨answer, told, -, same⟩ := possible
    subst told same
    cases answer with
    | ok created =>
        intro value _
        rfl
    | error fault =>
        by_cases conflict : ∃ email, fault = .conflict email
        · obtain ⟨email, rfl⟩ := conflict
          change (handle (.conflict email)).Ensures _ _ _
          rw [known email]
          exact leads_done rfl
        · change (handle fault).Ensures _ _ _
          rw [others fault fun email same => conflict ⟨email, same⟩]
          exact leads_raised _ _
  apply (asked _ (fun _ => rfl) fun fault other => by cases fault <;> first | rfl | exact absurd rfl (other _)).mono
  intro createdProfileId final same
  subst same
  apply Leads.bind
  apply (leads_waitForProfile createdProfileId profilePropagationAttempts).mono
  intro _ final same
  subst same
  apply Leads.bind
  refine leads_directory trivial ?_
  intro now _
  apply Leads.bind
  apply leads_directory_translating
  refine leads_directory ⟨record, rfl, pending, rfl, rfl, empty, rfl, rfl, congrArg some sought.symm⟩ ?_
  intro updated _
  apply Leads.bind
  apply leads_directory_translating
  refine leads_directory trivial ?_
  intro _ _
  exact leads_done trivial

theorem leads_recordAuditEvent (action : AuditAction) (actorId : UUID) (record : InvitationRecord) :
    (recordAuditEvent action actorId record).Leads (tokenDiscipline hash presented) (fun _ final => final = phase) phase := by
  apply leads_translating
  refine leads_perform trivial ?_
  intro _ _
  rfl

theorem leads_dispatchInvitationEmail {record : InvitationRecord} {token : String} (isResend : Bool)
    (stored : phase.stored = some (record, token)) :
    (dispatchInvitationEmail config record token isResend).Leads (tokenDiscipline hash presented) (fun _ _ => True) phase := by
  unfold dispatchInvitationEmail
  split
  · refine ⟨⟨record, stored, rfl, rfl⟩, ?_⟩
    intro reply after _
    exact leads_done trivial
  · exact leads_done trivial

theorem leads_resendInvitation (identity : AuthenticatedIdentity) (invitationId : UUID) :
    (resendInvitation rules config identity invitationId).Leads (tokenDiscipline rules.hash presented) (fun _ _ => True) phase := by
  apply Leads.bind
  apply (leads_embed (leads_authorizeAdmin identity)).mono
  intro _ final same
  subst same
  apply Leads.bind
  apply (leads_embed (leads_getRecordOrRaise invitationId identity)).mono
  intro existing final found
  obtain ⟨named, same⟩ := found
  subst same
  apply Leads.bind
  apply (leads_embed (leads_requirePending existing "resend")).mono
  intro _ final held
  obtain ⟨pending, same⟩ := held
  subst same
  apply Leads.bind
  refine leads_perform trivial ?_
  intro token _
  apply Leads.bind
  refine leads_perform trivial ?_
  intro now _
  apply Leads.bind
  apply leads_translating
  refine leads_perform ⟨existing, rfl, pending, named, rfl, ⟨token, rfl, rfl⟩, rfl⟩ ?_
  intro updated _
  apply Leads.bind
  apply (leads_recordAuditEvent ..).mono
  intro _ final same
  subst same
  apply Leads.bind
  apply (leads_dispatchInvitationEmail true rfl).mono
  intro _ final _
  exact leads_done trivial

theorem leads_createInvitation (identity : AuthenticatedIdentity) (isPlatformAdmin : Bool) (email fullName : String)
    (role : UserRole) (department : Option String) (companyId : Option UUID) :
    (createInvitation rules config identity isPlatformAdmin email fullName role department companyId).Leads
      (tokenDiscipline rules.hash presented) (fun _ _ => True) phase := by
  apply Leads.bind
  have authorized : (authorizeInvitation identity isPlatformAdmin (companyId.getD identity.companyId)).Leads
      (tokenDiscipline rules.hash presented) (fun _ final => final = phase) phase := by
    unfold authorizeInvitation
    split
    · split
      · exact leads_done rfl
      · exact leads_raised _ _
    · exact leads_embed (leads_authorizeAdmin identity)
  apply authorized.mono
  intro _ final same
  subst same
  split
  · exact leads_raised _ _
  · rename_i payload _
    apply Leads.bind
    refine leads_perform trivial ?_
    intro pending _
    split
    · exact leads_raised _ _
    · apply Leads.bind
      refine leads_perform trivial ?_
      intro token _
      apply Leads.bind
      refine leads_perform trivial ?_
      intro now _
      apply Leads.bind
      apply leads_translating
      refine leads_perform ⟨token, rfl, rfl⟩ ?_
      intro created _
      apply Leads.bind
      apply (leads_recordAuditEvent ..).mono
      intro _ final same
      subst same
      apply Leads.bind
      apply (leads_dispatchInvitationEmail false rfl).mono
      intro _ final _
      exact leads_done trivial

theorem ensures_process (process : IssuingProcess) :
    (process.program rules config).Ensures (tokenDiscipline rules.hash process.presented) (fun _ _ => True) TokenPhase.idle := by
  apply Leads.ensures
  apply Leads.bind
  have returned {α : Type} {program : IssuingProgram α}
      (leads : program.Leads (tokenDiscipline rules.hash process.presented) (fun _ _ => True) TokenPhase.idle) :
      program.Leads (tokenDiscipline rules.hash process.presented)
        (fun _ final => Leads (tokenDiscipline rules.hash process.presented) (.done () : IssuingProgram Unit) (fun _ _ => True) final)
        TokenPhase.idle :=
    leads.mono fun _ _ _ => leads_done trivial
  cases process with
  | create identity isPlatformAdmin email fullName role department companyId =>
      exact returned (leads_createInvitation identity isPlatformAdmin email fullName role department companyId)
  | resend identity invitationId => exact returned (leads_resendInvitation identity invitationId)
  | revoke identity invitationId => exact returned (leads_embed (leads_revokeInvitation identity invitationId rfl))
  | accept token password => exact returned (leads_embed (leads_acceptInvitation token password rfl))
  | validate token =>
      apply returned
      apply leads_embed
      apply Leads.bind
      apply (leads_findByTokenOrRaise token).mono
      intro record final _
      apply Leads.bind
      apply (leads_requireAcceptable record).mono
      intro _ final _
      exact leads_done trivial

end Programs

end AutomationHub.Invitations.Issuing
