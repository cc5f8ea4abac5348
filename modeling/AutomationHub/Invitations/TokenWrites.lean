import AutomationHub.Invitations.TokenDiscipline

/-!
What one call leaves of the invitations, and what the process that makes it knows then.
-/

set_option autoImplicit false

namespace AutomationHub.Invitations.Issuing

open Foundation Model Auth Database Program Table

section Writes

variable {rules : TextRules} {state : Registry} {call : IssuingCall}

/-- The rows of the invitations after a call: a call leaves them alone, changes the one it names, or adds one. -/
inductive Written (rules : TextRules) (state : Registry) : IssuingCall → Table InvitationRecord → Prop
  | kept (call : IssuingCall) : Written rules state call state.directory.invitations
  | updated {invitationId expectedVersion : Nat} {change : StatusChange} {row : InvitationRecord}
      (found : state.directory.invitations.find? invitationId = some row) (current : row.version = expectedVersion)
      (unique : ∀ index ∈ Registry.uniqueIndexes rules
        (state.directory.invitations.rows.filter fun other => other.id != invitationId)
        ((stamped change.edit expectedVersion).apply row), index.2 = true) :
      Written rules state (.directory (.updateStatus invitationId expectedVersion change))
        (state.directory.invitations.modify invitationId (stamped change.edit expectedVersion))
  | created {values : NewInvitation}
      (unique : ∀ index ∈ Registry.uniqueIndexes rules state.directory.invitations.rows
        ((state.newInvitation values).build state.directory.invitations.next), index.2 = true) :
      Written rules state (.createInvitation values) (state.directory.invitations.insert (state.newInvitation values))

theorem written_execute (rules : TextRules) (state : Registry) (call : IssuingCall) :
    Written rules state call (state.execute rules call).2.directory.invitations := by
  cases call with
  | createInvitation values =>
      change Written rules state _ (state.createInvitation rules values).2.directory.invitations
      unfold Registry.createInvitation
      rcases outcome : insertRow "user_invitations" state.directory.invitations (state.newInvitation values) _ with
        ⟨reply, invitations⟩
      cases reply with
      | error error =>
          rw [insertRow_error outcome]
          exact .kept _
      | ok created =>
          obtain ⟨accepted, named, extended⟩ := insertRow_ok_iff.mp outcome
          rw [extended]
          subst named
          exact .created fun index member =>
            (World.firstViolated_eq_none_iff _).mp accepted index (List.mem_cons_of_mem _ member)
  | directory asked =>
      cases asked with
      | updateStatus invitationId expectedVersion change =>
          change Written rules state _
            (state.updateStatus rules invitationId expectedVersion change).2.directory.invitations
          unfold Registry.updateStatus
          rcases outcome : updateWithOptimisticLock "user_invitations" state.directory.invitations invitationId
            expectedVersion change.edit _ with ⟨reply, invitations⟩
          cases reply with
          | error error =>
              rw [updateWithOptimisticLock_error outcome]
              exact .kept _
          | ok written =>
              obtain ⟨row, found, current, accepted, named, changed⟩ := updateWithOptimisticLock_ok_iff.mp outcome
              rw [changed]
              subst named
              exact .updated found current fun index member =>
                (World.firstViolated_eq_none_iff _).mp accepted index (List.mem_cons_of_mem _ member)
      | createUser account =>
          have same : (state.directory.createUser account).2.invitations = state.directory.invitations := by
            unfold Directory.createUser
            split <;> rfl
          change Written rules state _ (state.directory.createUser account).2.invitations
          rw [same]
          exact .kept _
      | _ => exact .kept _
  | _ => exact .kept _

theorem Written.evolves {invitations : Table InvitationRecord} (written : Written rules state call invitations) :
    Evolves state.directory.invitations invitations := by
  cases written with
  | kept => exact Evolves.refl _
  | updated found current unique =>
      exact evolves_update ((updateIfVersion_eq_some_iff _ _ _ _ _ _).mpr ⟨_, found, current, rfl, rfl⟩)
  | created unique => exact evolves_insert _ _

/-- The writes of an invitation. -/
def IssuingCall.writes : IssuingCall → Bool
  | .directory (.updateStatus ..) | .createInvitation _ => true
  | _ => false

/-- The values of an invitation that never change. -/
structure SameInvitee (row later : InvitationRecord) : Prop where
  id : later.id = row.id
  email : later.email = row.email
  fullName : later.fullName = row.fullName
  role : later.role = row.role
  department : later.department = row.department
  companyId : later.companyId = row.companyId
  createdAt : later.createdAt = row.createdAt

theorem SameInvitee.refl (row : InvitationRecord) : SameInvitee row row := ⟨rfl, rfl, rfl, rfl, rfl, rfl, rfl⟩

theorem SameInvitee.trans {first second third : InvitationRecord} (left : SameInvitee first second)
    (right : SameInvitee second third) : SameInvitee first third :=
  ⟨right.id.trans left.id, right.email.trans left.email, right.fullName.trans left.fullName, right.role.trans left.role,
    right.department.trans left.department, right.companyId.trans left.companyId, right.createdAt.trans left.createdAt⟩

theorem sameInvitee_stamped (change : StatusChange) (version : Nat) (row : InvitationRecord) :
    SameInvitee row ((stamped change.edit version).apply row) := ⟨rfl, rfl, rfl, rfl, rfl, rfl, rfl⟩

/-- Hashes and the addresses of pending invitations are unique, and versions count the resends and the closing. -/
structure Orderly (rules : TextRules) (invitations : Table InvitationRecord) : Prop where
  hashes : ∀ row ∈ invitations.rows, ∀ other ∈ invitations.rows, other.tokenHash = row.tokenHash → other = row
  addresses : ∀ row ∈ invitations.rows, ∀ other ∈ invitations.rows, row.status = .pending → other.status = .pending →
    rules.lower other.email = rules.lower row.email → other.companyId = row.companyId → other = row
  counted : ∀ row ∈ invitations.rows, row.version = row.resendCount + if row.status = .pending then 1 else 2

theorem uniqueIndexes_all {others : List InvitationRecord} {row : InvitationRecord}
    (unique : ∀ index ∈ Registry.uniqueIndexes rules others row, index.2 = true) :
    ∀ other ∈ others, other.tokenHash ≠ row.tokenHash ∧
      (row.status = .pending → other.status = .pending → rules.lower other.email = rules.lower row.email →
        other.companyId ≠ row.companyId) := by
  intro other member
  have hashes := List.all_eq_true.mp (unique _ (List.mem_cons_self ..)) other member
  have addresses := List.all_eq_true.mp (unique _ (List.mem_cons_of_mem _ (List.mem_singleton_self _))) other member
  refine ⟨bne_iff_ne.mp hashes, ?_⟩
  intro pending otherPending sameAddress
  simpa [pending, otherPending, sameAddress] using addresses

end Writes

section Steps

variable {rules : TextRules} {state : Registry} {presented : Option String} {phase : TokenPhase}

theorem read_of_current {record row : InvitationRecord} (seen : Seen state.directory.invitations record)
    (found : state.directory.invitations.find? record.id = some row) (current : row.version = record.version) :
    record = row := by
  obtain ⟨member, keyed⟩ := (find?_eq_some_iff ..).mp found
  exact (seen.later row member keyed).2 current.symm

/-- What a permitted update makes of the row: the process has read the row, pending, and moves it on. -/
theorem moves_of_updated {invitationId expectedVersion : Nat} {change : StatusChange} {row : InvitationRecord}
    (permitted : phase.Permits rules.hash presented (.directory (.updateStatus invitationId expectedVersion change)))
    (seen : ∀ record, phase.read = some record → Seen state.directory.invitations record)
    (found : state.directory.invitations.find? invitationId = some row) (current : row.version = expectedVersion) :
    row.status = .pending ∧ phase.Moves rules.hash presented row change := by
  obtain ⟨record, read, pending, named, version, moves⟩ := permitted
  subst named
  have same := read_of_current (seen record read) found (current.trans version.symm)
  subst same
  exact ⟨pending, moves⟩

/-- The hash that an update leaves is the one that was there, or that of the token held. -/
theorem TokenPhase.Moves.tokenHash {row : InvitationRecord} {change : StatusChange} (version : Nat)
    (moves : phase.Moves rules.hash presented row change) :
    ((stamped change.edit version).apply row).tokenHash = row.tokenHash ∨
      ∃ token, phase.held = some token ∧ ((stamped change.edit version).apply row).tokenHash = rules.hash token := by
  have kept (absent : change.tokenHash = none) :
      ((stamped change.edit version).apply row).tokenHash = row.tokenHash := by
    change change.tokenHash.getD row.tokenHash = row.tokenHash
    rw [absent]
    rfl
  unfold TokenPhase.Moves at moves
  cases asked : change.status with
  | pending =>
      rw [asked] at moves
      obtain ⟨⟨token, held, given⟩, -⟩ := moves
      refine .inr ⟨token, held, ?_⟩
      change change.tokenHash.getD row.tokenHash = rules.hash token
      rw [given]
      rfl
  | revoked =>
      rw [asked] at moves
      exact .inl (kept moves.2.1)
  | accepted =>
      rw [asked] at moves
      exact .inl (kept moves.2.1)

theorem TokenPhase.Moves.tokenHash_of_held {row : InvitationRecord} {change : StatusChange} {token : String} (version : Nat)
    (moves : phase.Moves rules.hash presented row change) (held : phase.held = some token) :
    ((stamped change.edit version).apply row).tokenHash = rules.hash token := by
  unfold TokenPhase.Moves at moves
  cases asked : change.status with
  | pending =>
      rw [asked] at moves
      obtain ⟨⟨drawn, drawnHeld, given⟩, -⟩ := moves
      change change.tokenHash.getD row.tokenHash = rules.hash token
      rw [given, Option.some.inj (held.symm.trans drawnHeld)]
      rfl
  | revoked =>
      rw [asked] at moves
      cases moves.1.symm.trans held
  | accepted =>
      rw [asked] at moves
      cases moves.1.symm.trans held

theorem TokenPhase.Moves.counted {row : InvitationRecord} {change : StatusChange}
    (moves : phase.Moves rules.hash presented row change) (pending : row.status = .pending)
    (counted : row.version = row.resendCount + if row.status = .pending then 1 else 2) :
    let later := (stamped change.edit row.version).apply row
    later.version = later.resendCount + if later.status = .pending then 1 else 2 := by
  rw [if_pos pending] at counted
  change row.version + 1 = change.resendCount.getD row.resendCount + if change.status = .pending then 1 else 2
  unfold TokenPhase.Moves at moves
  cases asked : change.status with
  | pending =>
      rw [asked] at moves
      rw [moves.2, counted]
      rfl
  | revoked =>
      rw [asked] at moves
      rw [moves.2.2, counted]
      rfl
  | accepted =>
      rw [asked] at moves
      rw [moves.2.2.1, counted]
      rfl

variable {call : IssuingCall} {invitations : Table InvitationRecord}

theorem mem_updated {invitationId : UUID} {edit : Edit InvitationRecord} {stored row : InvitationRecord}
    (found : invitations.find? invitationId = some stored) (member : row ∈ (invitations.modify invitationId edit).rows) :
    (row ∈ invitations.rows ∧ row.id ≠ invitationId) ∨ row = edit.apply stored := by
  rcases (mem_modify ..).mp member with ⟨kept, different⟩ | ⟨old, kept, keyed, same⟩
  · exact .inl ⟨kept, different⟩
  · obtain ⟨present, named⟩ := (find?_eq_some_iff ..).mp found
    rw [eq_of_key_eq _ kept present (keyed.trans named.symm)] at same
    exact .inr same

/-- A row has the hash that it had, or that of the token of the process that wrote it. -/
theorem row_source (permitted : phase.Permits rules.hash presented call)
    (seen : ∀ record, phase.read = some record → Seen state.directory.invitations record)
    (written : Written rules state call invitations) {row : InvitationRecord} (member : row ∈ invitations.rows) :
    (∃ old ∈ state.directory.invitations.rows, SameInvitee old row ∧ old.tokenHash = row.tokenHash) ∨
      call.writes = true ∧ ∃ token, phase.held = some token ∧ row.tokenHash = rules.hash token := by
  cases written with
  | kept => exact .inl ⟨row, member, SameInvitee.refl row, rfl⟩
  | @updated invitationId expectedVersion change stored found current unique =>
      rcases mem_updated found member with ⟨kept, -⟩ | same
      · exact .inl ⟨row, kept, SameInvitee.refl row, rfl⟩
      · subst same
        obtain ⟨-, moves⟩ := moves_of_updated permitted seen found current
        rcases moves.tokenHash expectedVersion with same | ⟨token, held, given⟩
        · exact .inl ⟨stored, ((find?_eq_some_iff ..).mp found).1, sameInvitee_stamped change expectedVersion stored,
            same.symm⟩
        · exact .inr ⟨rfl, token, held, given⟩
  | created unique =>
      rcases (mem_insert ..).mp member with kept | same
      · exact .inl ⟨row, kept, SameInvitee.refl row, rfl⟩
      · obtain ⟨token, held, given⟩ := permitted
        exact .inr ⟨rfl, token, held, by rw [same]; exact given⟩

theorem Orderly.written (orderly : Orderly rules state.directory.invitations)
    (permitted : phase.Permits rules.hash presented call)
    (seen : ∀ record, phase.read = some record → Seen state.directory.invitations record)
    (written : Written rules state call invitations) : Orderly rules invitations := by
  cases written with
  | kept => exact orderly
  | @updated invitationId expectedVersion change stored found current unique =>
      obtain ⟨pending, moves⟩ := moves_of_updated permitted seen found current
      have apart : ∀ other ∈ state.directory.invitations.rows, other.id ≠ invitationId →
          other.tokenHash ≠ ((stamped change.edit expectedVersion).apply stored).tokenHash ∧
            (((stamped change.edit expectedVersion).apply stored).status = .pending → other.status = .pending →
              rules.lower other.email = rules.lower stored.email → other.companyId ≠ stored.companyId) := by
        intro other member different
        exact uniqueIndexes_all unique other (List.mem_filter.mpr ⟨member, bne_iff_ne.mpr different⟩)
      constructor
      · intro row member other otherMember sameHash
        rcases mem_updated found member with ⟨kept, different⟩ | same <;> rcases mem_updated found otherMember with
          ⟨otherKept, otherDifferent⟩ | otherSame
        · exact orderly.hashes row kept other otherKept sameHash
        · subst otherSame
          exact absurd sameHash.symm (apart row kept different).1
        · subst same
          exact absurd sameHash (apart other otherKept otherDifferent).1
        · exact otherSame.trans same.symm
      · intro row member other otherMember isPending otherPending sameAddress sameCompany
        rcases mem_updated found member with ⟨kept, different⟩ | same <;> rcases mem_updated found otherMember with
          ⟨otherKept, otherDifferent⟩ | otherSame
        · exact orderly.addresses row kept other otherKept isPending otherPending sameAddress sameCompany
        · subst otherSame
          exact absurd sameCompany.symm ((apart row kept different).2 otherPending isPending sameAddress.symm)
        · subst same
          exact absurd sameCompany ((apart other otherKept otherDifferent).2 isPending otherPending sameAddress)
        · exact otherSame.trans same.symm
      · intro row member
        rcases mem_updated found member with ⟨kept, -⟩ | same
        · exact orderly.counted row kept
        · subst same current
          exact moves.counted pending (orderly.counted stored ((find?_eq_some_iff ..).mp found).1)
  | @created values unique =>
      have apart := uniqueIndexes_all unique
      constructor
      · intro row member other otherMember sameHash
        rcases (mem_insert ..).mp member with kept | same <;> rcases (mem_insert ..).mp otherMember with
          otherKept | otherSame
        · exact orderly.hashes row kept other otherKept sameHash
        · subst otherSame
          exact absurd sameHash.symm (apart row kept).1
        · subst same
          exact absurd sameHash (apart other otherKept).1
        · exact otherSame.trans same.symm
      · intro row member other otherMember isPending otherPending sameAddress sameCompany
        rcases (mem_insert ..).mp member with kept | same <;> rcases (mem_insert ..).mp otherMember with
          otherKept | otherSame
        · exact orderly.addresses row kept other otherKept isPending otherPending sameAddress sameCompany
        · subst otherSame
          exact absurd sameCompany.symm ((apart row kept).2 otherPending isPending sameAddress.symm)
        · subst same
          exact absurd sameCompany ((apart other otherKept).2 isPending otherPending sameAddress)
        · exact otherSame.trans same.symm
      · intro row member
        rcases (mem_insert ..).mp member with kept | same
        · exact orderly.counted row kept
        · subst same
          rfl

variable {after : Registry} {reply : Except InvitationFault call.Result}

theorem left_by_issuing (stepped : issuingStep rules state call reply after) :
    after = state.tick ∨ after = (state.execute rules call).2.tick := by
  rcases stepped with ⟨-, same⟩ | ⟨_, -, -, left⟩
  · exact .inr same
  · exact left

theorem written_step (stepped : issuingStep rules state call reply after) :
    Written rules state call after.directory.invitations := by
  rcases left_by_issuing stepped with same | same
  · rw [same]
    exact .kept _
  · rw [same]
    exact written_execute rules state call

theorem secrets_execute (rules : TextRules) (state : Registry) (call : IssuingCall) :
    (state.execute rules call).2.secrets = state.secrets ∧ state.drawn ≤ (state.execute rules call).2.drawn := by
  cases call with
  | directory asked => cases asked <;> exact ⟨rfl, Nat.le_refl _⟩
  | generateToken => exact ⟨rfl, Nat.le_succ _⟩
  | _ => exact ⟨rfl, Nat.le_refl _⟩

theorem secrets_step (stepped : issuingStep rules state call reply after) :
    after.secrets = state.secrets ∧ state.drawn ≤ after.drawn := by
  rcases left_by_issuing stepped with same | same
  · rw [same]
    exact ⟨rfl, Nat.le_refl _⟩
  · rw [same]
    exact secrets_execute rules state call

theorem mailed_step (stepped : issuingStep rules state call reply after) {email : InvitationEmail}
    (member : email ∈ after.mailed) : email ∈ state.mailed ∨ call = .sendInvitation email := by
  rcases left_by_issuing stepped with same | same
  · rw [same] at member
    exact .inl member
  · rw [same] at member
    cases call with
    | directory asked => cases asked <;> exact .inl member
    | sendInvitation sent =>
        rcases List.mem_append.mp member with earlier | last
        · exact .inl earlier
        · exact .inr (congrArg _ (List.mem_singleton.mp last).symm)
    | _ => exact .inl member

theorem held_after (stepped : issuingStep rules state call reply after) {token : String}
    (held : (phase.after call reply).held = some token) :
    (phase.held = some token ∧ call.writes = false) ∨
      call = .generateToken ∧ token = state.secrets state.drawn ∧ after.drawn = state.drawn + 1 := by
  cases call with
  | directory asked =>
      cases asked with
      | updateStatus => cases held
      | _ => cases reply <;> exact .inl ⟨held, rfl⟩
  | createInvitation values => cases held
  | generateToken =>
      rcases stepped with ⟨answered, same⟩ | ⟨fault, struck, -⟩
      · subst answered same
        exact .inr ⟨rfl, (Option.some.inj held).symm, rfl⟩
      · cases struck
  | _ => cases reply <;> exact .inl ⟨held, rfl⟩

theorem seen_after (seen : ∀ record, phase.read = some record → Seen state.directory.invitations record)
    (stepped : issuingStep rules state call reply after) (record : InvitationRecord)
    (read : (phase.after call reply).read = some record) : Seen after.directory.invitations record := by
  have kept (known : phase.read = some record) : Seen after.directory.invitations record :=
    (seen record known).evolves (written_step stepped).evolves
  cases call with
  | directory asked =>
      cases asked with
      | getById invitationId =>
          rcases stepped with ⟨answered, same⟩ | ⟨fault, -, raised, left⟩
          · subst same
            have answered : reply = (getById "user_invitations" state.directory.invitations invitationId).mapError .database :=
              answered
            cases outcome : getById "user_invitations" state.directory.invitations invitationId with
            | error error =>
                rw [outcome] at answered
                subst answered
                exact kept read
            | ok found =>
                rw [outcome] at answered
                subst answered
                cases read
                exact seen_of_mem ((find?_eq_some_iff ..).mp (World.getById_ok_iff.mp outcome)).1
          · subst raised
            exact kept read
      | findByTokenHash tokenHash =>
          rcases stepped with ⟨answered, same⟩ | ⟨fault, -, raised, left⟩
          · subst answered same
            exact seen_of_mem (List.mem_of_find?_eq_some read)
          · subst raised
            exact kept read
      | _ => cases reply <;> exact kept read
  | _ => cases reply <;> exact kept read

theorem foreseen_step (stepped : issuingStep rules state call reply after) : Foreseen call reply := by
  rcases stepped with ⟨answered, -⟩ | ⟨fault, -, raised, -⟩
  · cases call with
    | directory asked =>
        cases asked with
        | getById invitationId =>
            have answered : reply = (getById "user_invitations" state.directory.invitations invitationId).mapError .database :=
              answered
            cases outcome : getById "user_invitations" state.directory.invitations invitationId with
            | error error =>
                rw [outcome] at answered
                subst answered
                trivial
            | ok found =>
                rw [outcome] at answered
                subst answered
                exact ((find?_eq_some_iff ..).mp (World.getById_ok_iff.mp outcome)).2
        | findByTokenHash tokenHash =>
            subst answered
            change Foreseen (.directory (.findByTokenHash tokenHash)) (.ok (state.directory.invitations.rows.find? _))
            cases outcome : state.directory.invitations.rows.find? fun invitation => invitation.tokenHash == tokenHash with
            | none => trivial
            | some record =>
                have matched := List.find?_some outcome
                exact beq_iff_eq.mp matched
        | _ => trivial
    | _ => trivial
  · subst raised
    cases call with
    | directory asked => cases asked <;> trivial
    | _ => trivial

/-- A token that is stored is the one that was held, and the record returned carries it. -/
theorem stored_after (permitted : phase.Permits rules.hash presented call)
    (seen : ∀ record, phase.read = some record → Seen state.directory.invitations record)
    (stepped : issuingStep rules state call reply after) {record : InvitationRecord} {token : String}
    (stored : (phase.after call reply).stored = some (record, token)) :
    (phase.stored = some (record, token) ∧ call.writes = false) ∨
      call.writes = true ∧ phase.held = some token ∧ record ∈ after.directory.invitations.rows ∧
        record.tokenHash = rules.hash token := by
  have spent (outcome : Except InvitationFault InvitationRecord) (left : (phase.spend outcome).stored = some (record, token)) :
      outcome = .ok record ∧ phase.held = some token := by
    unfold TokenPhase.spend at left
    cases outcome with
    | error fault => cases left
    | ok returned =>
        cases held : phase.held with
        | none =>
            rw [held] at left
            cases left
        | some drawn =>
            rw [held] at left
            cases left
            exact ⟨rfl, rfl⟩
  cases call with
  | directory asked =>
      cases asked with
      | updateStatus invitationId expectedVersion change =>
          right
          obtain ⟨succeeded, held⟩ := spent reply stored
          subst succeeded
          rcases stepped with ⟨answered, same⟩ | ⟨fault, -, raised, -⟩
          · have answered : .ok record = (state.updateStatus rules invitationId expectedVersion change).1 := answered
            have same : after = (state.updateStatus rules invitationId expectedVersion change).2.tick := same
            unfold Registry.updateStatus at answered same
            rcases outcome : updateWithOptimisticLock "user_invitations" state.directory.invitations invitationId
              expectedVersion change.edit _ with ⟨reply, invitations⟩
            rw [outcome] at answered same
            cases reply with
            | error error => cases answered
            | ok written =>
                obtain ⟨row, found, current, accepted, named, changed⟩ := updateWithOptimisticLock_ok_iff.mp outcome
                have isWritten : record = written := Except.ok.inj answered
                subst isWritten same
                obtain ⟨-, moves⟩ := moves_of_updated permitted seen found current
                refine ⟨rfl, held, ?_, ?_⟩
                · change record ∈ invitations.rows
                  rw [changed]
                  exact (mem_modify ..).mpr (.inr ⟨row, ((find?_eq_some_iff ..).mp found).1,
                    ((find?_eq_some_iff ..).mp found).2, named⟩)
                · rw [named]
                  exact moves.tokenHash_of_held expectedVersion held
          · cases raised
      | _ => cases reply <;> exact .inl ⟨stored, rfl⟩
  | createInvitation values =>
      right
      obtain ⟨succeeded, held⟩ := spent reply stored
      subst succeeded
      rcases stepped with ⟨answered, same⟩ | ⟨fault, -, raised, -⟩
      · have answered : .ok record = (state.createInvitation rules values).1 := answered
        have same : after = (state.createInvitation rules values).2.tick := same
        unfold Registry.createInvitation at answered same
        rcases outcome : insertRow "user_invitations" state.directory.invitations (state.newInvitation values) _ with
          ⟨reply, invitations⟩
        rw [outcome] at answered same
        cases reply with
        | error error => cases answered
        | ok created =>
            obtain ⟨accepted, named, extended⟩ := insertRow_ok_iff.mp outcome
            have isCreated : record = created := Except.ok.inj answered
            subst isCreated same
            obtain ⟨drawn, drawnHeld, given⟩ := permitted
            obtain rfl : drawn = token := Option.some.inj (drawnHeld.symm.trans held)
            refine ⟨rfl, held, ?_, ?_⟩
            · change record ∈ invitations.rows
              rw [extended]
              exact (mem_insert ..).mpr (.inr named)
            · rw [named]
              exact given
      · cases raised
  | generateToken => cases reply <;> exact .inl ⟨stored, rfl⟩
  | _ => cases reply <;> exact .inl ⟨stored, rfl⟩

end Steps

end AutomationHub.Invitations.Issuing
