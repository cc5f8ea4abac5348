import AutomationHub.Foundation.TwoRuns
import AutomationHub.Invitations.Provisioning

/-!
Listing invitations by their effective status, beside the guard of their acceptance.

The filter of the query, the status that is shown and the guard each compare the expiry
with the clock.
-/

set_option autoImplicit false

namespace AutomationHub.Invitations

open Foundation Model Auth Database Program Table

inductive EffectiveInvitationStatus where
  | pending
  | expired
  | accepted
  | revoked
deriving DecidableEq

def computeEffectiveStatus (status : InvitationStatus) (expiresAt now : Datetime) : EffectiveInvitationStatus :=
  match status with
  | .accepted => .accepted
  | .revoked => .revoked
  | .pending => if isPast expiresAt now then .expired else .pending

/-- The invitation as callers see it, without the hash of its token. -/
structure Invitation where
  id : UUID
  email : String
  fullName : String
  role : UserRole
  department : Option String
  effectiveStatus : EffectiveInvitationStatus
  expiresAt : Datetime
  acceptedAt : Option Datetime
  revokedAt : Option Datetime
  acceptedProfileId : Option UUID
  resendCount : Nat
  version : Nat
  createdAt : Datetime
deriving DecidableEq

def mapInvitationRecordToDomain (now : Datetime) (record : InvitationRecord) : Invitation where
  id := record.id
  email := record.email
  fullName := record.fullName
  role := record.role
  department := record.department
  effectiveStatus := computeEffectiveStatus record.status record.expiresAt now
  expiresAt := record.expiresAt
  acceptedAt := record.acceptedAt
  revokedAt := record.revokedAt
  acceptedProfileId := record.acceptedProfileId
  resendCount := record.resendCount
  version := record.version
  createdAt := record.createdAt

structure InvitationFilter where
  companyId : UUID
  status : Option InvitationStatus
  query : Option String
  expiresAfter : Option Datetime
  expiresAtOrBefore : Option Datetime

section Model

variable (ilike : (needle text : String) → Bool)

def InvitationFilter.admits (filter : InvitationFilter) (record : InvitationRecord) : Bool :=
  record.companyId == filter.companyId
    && filter.status.all (fun status => record.status == status)
    && filter.expiresAfter.all (fun instant => decide (instant < record.expiresAt))
    && filter.expiresAtOrBefore.all (fun instant => decide (record.expiresAt ≤ instant))
    && filter.query.all fun query => ilike (strip query) record.fullName || ilike (strip query) record.email

/-- The rows that `list_invitations` of the repository selects, newest first. -/
def Directory.invitationsListed (state : Directory) (filter : InvitationFilter) : List InvitationRecord :=
  World.newestFirst InvitationRecord.createdAt (state.invitations.rows.filter (filter.admits ilike))

def Directory.listInvitations (state : Directory) (filter : InvitationFilter) (page : Page) :
    Except DatabaseError (PagedResult InvitationRecord) :=
  if filter.query.any fun query => strip query == "" then
    .error (.invalidQuery "list_invitations requires a non-empty query when provided.")
  else .ok (paginate (state.invitationsListed ilike filter) page)

/-- The filter of the query for an effective status. -/
def effectiveFilter (companyId : UUID) (status : Option EffectiveInvitationStatus) (query : Option String)
    (referenceNow : Datetime) : InvitationFilter :=
  match status with
  | none => ⟨companyId, none, query, none, none⟩
  | some .pending => ⟨companyId, some .pending, query, some referenceNow, none⟩
  | some .expired => ⟨companyId, some .pending, query, none, some referenceNow⟩
  | some .accepted => ⟨companyId, some .accepted, query, none, none⟩
  | some .revoked => ⟨companyId, some .revoked, query, none, none⟩

/-- `list_invitations`, which reads the clock once. -/
def listInvitations (state : Directory) (identity : AuthenticatedIdentity) (status : Option EffectiveInvitationStatus)
    (query : Option String) (page : Page) : Except InvitationFault (PagedResult Invitation) :=
  if identity.role = .admin then
    match state.listInvitations ilike (effectiveFilter identity.companyId status query state.now) page with
    | .error error => .error (.app (translateDatabaseError error))
    | .ok result => .ok {
        items := result.items.map (mapInvitationRecordToDomain state.now)
        page := result.page
        pageSize := result.pageSize
        totalRecords := result.totalRecords }
  else .error (.app (translateAuthError (.roleNotPermitted identity.role [.admin])))

/-- What the pages of the listing are taken from. -/
def invitationsRanged (state : Directory) (identity : AuthenticatedIdentity) (query : Option String)
    (status : Option EffectiveInvitationStatus) : List Invitation :=
  (state.invitationsListed ilike (effectiveFilter identity.companyId status query state.now)).map
    (mapInvitationRecordToDomain state.now)

/-- Every call is answered at once, with the clock standing still. -/
def instantly : Handler invitationSignature Directory := fun call state => state.execute call

/-- The call turned the invitation down for its state. -/
def TurnedDown {α : Type} (result : Except InvitationFault α) : Prop :=
  ∃ invitationId currentStatus attemptedAction, result = .error (.invalidState invitationId currentStatus attemptedAction)

end Model

section Filters

variable {ilike : (needle text : String) → Bool} {state : Directory} {identity : AuthenticatedIdentity}
  {query : Option String} {companyId : UUID} {status : EffectiveInvitationStatus} {now : Datetime}
  {record : InvitationRecord}

theorem computeEffectiveStatus_eq_pending_iff :
    computeEffectiveStatus record.status record.expiresAt now = .pending ↔
      record.status = .pending ∧ ¬record.expiresAt < now := by
  cases status : record.status with
  | pending =>
      by_cases past : record.expiresAt < now
      · simp [computeEffectiveStatus, isPast, past]
      · simp [computeEffectiveStatus, isPast, past]
  | accepted => simp [computeEffectiveStatus]
  | revoked => simp [computeEffectiveStatus]

/-- The query counts an invitation that expires at the reference time as expired; the status that is shown does not. -/
theorem effectiveFilter_admits (apart : ¬(record.status = .pending ∧ record.expiresAt = now)) :
    (effectiveFilter companyId (some status) query now).admits ilike record =
      ((effectiveFilter companyId none query now).admits ilike record &&
        decide (computeEffectiveStatus record.status record.expiresAt now = status)) := by
  unfold InvitationFilter.admits effectiveFilter computeEffectiveStatus
  cases persisted : record.status with
  | accepted => cases status <;> simp
  | revoked => cases status <;> simp
  | pending =>
      have differs : record.expiresAt ≠ now := fun same => apart ⟨persisted, same⟩
      rcases Nat.lt_or_gt_of_ne differs with past | future
      · have late : ¬now < record.expiresAt := Nat.not_lt_of_gt past
        have within : record.expiresAt ≤ now := Nat.le_of_lt past
        cases status <;> simp [isPast, past, late, within]
      · have early : ¬record.expiresAt < now := Nat.not_lt_of_gt future
        have beyond : ¬record.expiresAt ≤ now := Nat.not_le_of_gt future
        cases status <;> simp [isPast, future, early, beyond]

theorem mem_invitationsListed {filter : InvitationFilter} :
    record ∈ state.invitationsListed ilike filter ↔
      record ∈ state.invitations.rows ∧ filter.admits ilike record = true := by
  rw [Directory.invitationsListed, World.mem_newestFirst, List.mem_filter]

theorem listInvitations_eq (admin : identity.role = .admin) (searchable : ∀ text, query = some text → strip text ≠ "")
    (status : Option EffectiveInvitationStatus) (page : Page) :
    listInvitations ilike state identity status query page =
      .ok (paginate (invitationsRanged ilike state identity query status) page) := by
  have usable : ((effectiveFilter identity.companyId status query state.now).query.any fun query => strip query == "") =
      false := by
    have same : (effectiveFilter identity.companyId status query state.now).query = query := by
      cases status with
      | none => rfl
      | some status => cases status <;> rfl
    rw [same]
    cases query with
    | none => rfl
    | some text => exact beq_eq_false_iff_ne.mpr (searchable text rfl)
  rw [listInvitations, if_pos admin, Directory.listInvitations, usable]
  simp only [Bool.false_eq_true, if_false, paginate, invitationsRanged, slice, List.map_take, List.map_drop,
    List.length_map]

theorem admits_of_effective
    (admitted : (effectiveFilter companyId (some status) query now).admits ilike record = true) :
    (effectiveFilter companyId none query now).admits ilike record = true := by
  unfold InvitationFilter.admits effectiveFilter at admitted ⊢
  cases status with
  | pending => simp_all
  | expired => simp_all
  | accepted => simp_all
  | revoked => simp_all

/-- None of the invitations listed is pending and expires at the reference time. -/
def NoneOnTheDot (ilike : (needle text : String) → Bool) (state : Directory) (companyId : UUID)
    (query : Option String) : Prop :=
  ∀ record ∈ state.invitationsListed ilike (effectiveFilter companyId none query state.now),
    record.status = .pending → record.expiresAt ≠ state.now

theorem effectiveFilter_admits_listed (apart : NoneOnTheDot ilike state companyId query)
    (member : record ∈ state.invitations.rows) (status : EffectiveInvitationStatus) :
    (effectiveFilter companyId (some status) query state.now).admits ilike record =
      ((effectiveFilter companyId none query state.now).admits ilike record &&
        decide (computeEffectiveStatus record.status record.expiresAt state.now = status)) := by
  cases listed : (effectiveFilter companyId none query state.now).admits ilike record with
  | true =>
      have differs := apart record (mem_invitationsListed.mpr ⟨member, listed⟩)
      rw [effectiveFilter_admits fun dot => differs dot.1 dot.2, listed]
  | false =>
      rw [Bool.false_and, Bool.eq_false_iff]
      intro admitted
      rw [admits_of_effective admitted] at listed
      cases listed

theorem invitationsRanged_perm (apart : NoneOnTheDot ilike state identity.companyId query)
    (status : EffectiveInvitationStatus) :
    (invitationsRanged ilike state identity query (some status)).Perm
      ((invitationsRanged ilike state identity query none).filter fun item => item.effectiveStatus = status) := by
  have selected : state.invitations.rows.filter
      ((effectiveFilter identity.companyId (some status) query state.now).admits ilike) =
        (state.invitations.rows.filter ((effectiveFilter identity.companyId none query state.now).admits ilike)).filter
          fun record => decide (computeEffectiveStatus record.status record.expiresAt state.now = status) := by
    rw [List.filter_filter]
    apply List.filter_congr
    intro record member
    rw [effectiveFilter_admits_listed apart member, Bool.and_comm]
  unfold invitationsRanged
  rw [List.filter_map]
  apply List.Perm.map
  unfold Directory.invitationsListed World.newestFirst orderBy
  rw [selected]
  exact (List.perm_insertionSort _ _).trans ((List.perm_insertionSort _ _).symm.filter _)

end Filters

section Acceptance

variable {α β : Type} {state : Directory}

/-- A program that never turns an invitation down for its state. -/
def Steady (program : InvitationProgram α) : Prop :=
  ∀ state, ¬TurnedDown (program.run instantly state).1

theorem steady_done (value : α) : Steady (.done value : InvitationProgram α) := by
  intro state turned
  obtain ⟨_, _, _, same⟩ := turned
  cases same

theorem steady_bind {program : InvitationProgram α} {next : α → InvitationProgram β} (first : Steady program)
    (rest : ∀ value, Steady (next value)) : Steady (program >>= next) := by
  intro state
  cases result : (program.run instantly state).1 with
  | ok value =>
      rw [run_bind_of_ok result]
      exact rest value _
  | error fault =>
      rw [run_bind_of_error result]
      intro turned
      obtain ⟨invitationId, currentStatus, attemptedAction, same⟩ := turned
      cases same
      exact first state ⟨invitationId, currentStatus, attemptedAction, result⟩

theorem steady_tryCatch {program : InvitationProgram α} {handle : InvitationFault → InvitationProgram α}
    (first : Steady program)
    (handled : ∀ fault, (∀ invitationId currentStatus attemptedAction,
      fault ≠ .invalidState invitationId currentStatus attemptedAction) → Steady (handle fault)) :
    Steady (tryCatch program handle) := by
  intro state
  have ran := first state
  rw [run_tryCatch]
  rcases outcome : program.run instantly state with ⟨fault | value, after⟩
  · rw [outcome] at ran
    apply handled fault
    intro invitationId currentStatus attemptedAction same
    subst same
    exact ran ⟨_, _, _, rfl⟩
  · exact steady_done value after

theorem execute_steady (state : Directory) (call : InvitationCall) : ¬TurnedDown (state.execute call).1 := by
  intro turned
  obtain ⟨invitationId, currentStatus, attemptedAction, same⟩ := turned
  have mapped : ∀ {α : Type} {reply : Except DatabaseError α}, reply.mapError InvitationFault.database ≠
      .error (InvitationFault.invalidState invitationId currentStatus attemptedAction) := by
    intro α reply same
    cases reply <;> cases same
  cases call with
  | getById other => exact mapped same
  | updateStatus other expectedVersion change => exact mapped same
  | createUser account =>
      have answered : (state.execute (.createUser account)).1 = (state.createUser account).1 := rfl
      rw [answered, Directory.createUser] at same
      split at same <;> cases same
  | utcNow => cases same
  | findByTokenHash tokenHash => cases same
  | findProfile profileId => cases same
  | recordEvent action actorId other email => cases same

theorem run_perform (call : InvitationCall) (state : Directory) :
    (perform call).run instantly state = state.execute call := by
  unfold perform
  rw [run_call]
  dsimp only [instantly]
  rcases state.execute call with ⟨fault | result, after⟩
  · rfl
  · rfl

theorem steady_perform (call : InvitationCall) : Steady (perform call) := by
  intro state
  rw [run_perform]
  exact execute_steady state call

theorem steady_translating {program : InvitationProgram α} (steady : Steady program) : Steady (translating program) := by
  apply steady_tryCatch steady
  intro fault other state turned
  cases fault with
  | invalidState invitationId currentStatus attemptedAction => exact other _ _ _ rfl
  | _ =>
      obtain ⟨_, _, _, same⟩ := turned
      cases same

theorem steady_waitForProfile (profileId : UUID) (attempts : Nat) : Steady (waitForProfile profileId attempts) := by
  induction attempts with
  | zero =>
      intro state turned
      obtain ⟨_, _, _, same⟩ := turned
      cases same
  | succ attempts recurse =>
      unfold waitForProfile
      apply steady_bind (steady_perform _)
      intro found
      cases found with
      | none => exact recurse
      | some profile => exact steady_done ()

variable {record : InvitationRecord}

theorem run_requireAcceptable (record : InvitationRecord) (state : Directory) :
    (requireAcceptable record).run instantly state =
      (if record.status = .pending then
          if record.expiresAt < state.now then .error (.invalidState record.id "expired" "accept") else .ok ()
        else .error (.invalidState record.id record.status.value "accept"), state) := by
  unfold requireAcceptable requirePending
  by_cases pending : record.status = .pending
  · rw [if_pos pending, if_pos pending]
    rw [pure_eq, done_bind, run_bind, run_perform]
    dsimp only [Directory.execute, continueRun]
    by_cases expired : record.expiresAt < state.now
    · rw [if_pos expired, if_pos expired]
      rfl
    · rw [if_neg expired, if_neg expired]
      rfl
  · rw [if_neg pending, if_neg pending]
    rfl

/-- Presenting the token of an invitation is turned down for its state exactly if it is no longer pending or has expired. -/
theorem turnedDown_acceptInvitation_iff {hash : String → String} {token : String} (password : String)
    (found : state.invitations.rows.find? (fun invitation => invitation.tokenHash == hash token) = some record) :
    TurnedDown ((acceptInvitation hash token password).run instantly state).1 ↔
      record.status ≠ .pending ∨ record.expiresAt < state.now := by
  have located : (findByTokenOrRaise hash token).run instantly state = (.ok record, state) := by
    unfold findByTokenOrRaise translating
    rw [run_bind, run_tryCatch, run_perform]
    dsimp only [Directory.execute, handleRun, continueRun]
    rw [found]
    rfl
  unfold acceptInvitation
  rw [run_bind, located]
  dsimp only [continueRun]
  rw [run_bind, run_requireAcceptable]
  by_cases pending : record.status = .pending
  · rw [if_pos pending]
    by_cases expired : record.expiresAt < state.now
    · rw [if_pos expired]
      exact iff_of_true ⟨_, _, _, rfl⟩ (.inr expired)
    · rw [if_neg expired]
      refine iff_of_false ?_ (not_or_intro (not_not_intro pending) expired)
      dsimp only [continueRun]
      refine steady_bind ?_ ?_ state
      · apply steady_tryCatch (steady_perform _)
        intro fault other
        cases fault with
        | conflict email => exact steady_done _
        | invalidState invitationId currentStatus attemptedAction => exact absurd rfl (other _ _ _)
        | _ =>
            intro state turned
            obtain ⟨_, _, _, same⟩ := turned
            cases same
      · intro created
        apply steady_bind (steady_waitForProfile created _)
        intro _
        apply steady_bind (steady_perform _)
        intro now
        apply steady_bind (steady_translating (steady_perform _))
        intro updated
        apply steady_bind (steady_translating (steady_perform _))
        intro _
        exact steady_done updated
  · rw [if_neg pending]
    exact iff_of_true ⟨_, _, _, rfl⟩ (.inl pending)

end Acceptance

section Law

variable (ilike : (needle text : String) → Bool) (hash : String → String) (state : Directory)
  (identity : AuthenticatedIdentity) (query : Option String)

/-- The listing by effective status: each status has its part of the listing of all, and the pending ones are those whose
tokens are accepted at that time. -/
structure ListsByStatus : Prop where
  served : ∀ status page, listInvitations ilike state identity status query page =
    .ok (paginate (invitationsRanged ilike state identity query status) page)
  ranges : ∀ status, (invitationsRanged ilike state identity query (some status)).Perm
    ((invitationsRanged ilike state identity query none).filter fun item => item.effectiveStatus = status)
  reported : ∀ status page result, listInvitations ilike state identity (some status) query page = .ok result →
    ∀ item ∈ result.items, item.effectiveStatus = status
  totals : (invitationsRanged ilike state identity query none).length =
    (invitationsRanged ilike state identity query (some .pending)).length
      + (invitationsRanged ilike state identity query (some .expired)).length
      + (invitationsRanged ilike state identity query (some .accepted)).length
      + (invitationsRanged ilike state identity query (some .revoked)).length
  acceptable : ∀ record ∈ state.invitationsListed ilike (effectiveFilter identity.companyId none query state.now),
    ∀ token password, state.invitations.rows.find? (fun invitation => invitation.tokenHash == hash token) = some record →
      (record ∈ state.invitationsListed ilike (effectiveFilter identity.companyId (some .pending) query state.now) ↔
        ¬TurnedDown ((acceptInvitation hash token password).run instantly state).1)

variable {ilike hash state identity query}

theorem length_by_status (items : List Invitation) :
    items.length = (items.filter fun item => item.effectiveStatus = .pending).length
      + (items.filter fun item => item.effectiveStatus = .expired).length
      + (items.filter fun item => item.effectiveStatus = .accepted).length
      + (items.filter fun item => item.effectiveStatus = .revoked).length := by
  induction items with
  | nil => rfl
  | cons item rest recurse =>
      cases status : item.effectiveStatus <;> simp [status] <;> omega

theorem mem_pending_iff (apart : NoneOnTheDot ilike state identity.companyId query) {record : InvitationRecord}
    (listed : record ∈ state.invitationsListed ilike (effectiveFilter identity.companyId none query state.now)) :
    record ∈ state.invitationsListed ilike (effectiveFilter identity.companyId (some .pending) query state.now) ↔
      record.status = .pending ∧ ¬record.expiresAt < state.now := by
  obtain ⟨member, admitted⟩ := mem_invitationsListed.mp listed
  rw [mem_invitationsListed, effectiveFilter_admits_listed apart member, admitted, Bool.true_and, decide_eq_true_iff,
    computeEffectiveStatus_eq_pending_iff]
  exact and_iff_right member

/-- The listing by effective status agrees with the status shown and with the guard of the acceptance exactly if nothing
listed expires at the reference time. -/
theorem listing_by_status_iff (ilike : (needle text : String) → Bool) (hash : String → String) (state : Directory)
    (identity : AuthenticatedIdentity) (query : Option String) (admin : identity.role = .admin)
    (searchable : ∀ text, query = some text → strip text ≠ "") :
    ListsByStatus ilike hash state identity query ↔ NoneOnTheDot ilike state identity.companyId query := by
  constructor
  · intro law record listed pending same
    obtain ⟨member, admitted⟩ := mem_invitationsListed.mp listed
    have expired : record ∈ state.invitationsListed ilike
        (effectiveFilter identity.companyId (some .expired) query state.now) := by
      apply mem_invitationsListed.mpr
      refine ⟨member, ?_⟩
      unfold InvitationFilter.admits effectiveFilter at admitted ⊢
      simp_all
    have ranged := (law.ranges .expired).mem_iff.mp (List.mem_map_of_mem expired)
    have shown := of_decide_eq_true (List.mem_filter.mp ranged).2
    have reported : computeEffectiveStatus record.status record.expiresAt state.now = .pending := by
      rw [computeEffectiveStatus_eq_pending_iff]
      exact ⟨pending, same ▸ Nat.lt_irrefl _⟩
    rw [mapInvitationRecordToDomain, reported] at shown
    cases shown
  · intro apart
    have served := @listInvitations_eq ilike state identity query admin searchable
    have ranges := @invitationsRanged_perm ilike state identity query apart
    refine ⟨served, ranges, ?_, ?_, ?_⟩
    · intro status page result listed item member
      rw [served] at listed
      cases listed
      have ranged := (ranges status).mem_iff.mp (List.mem_of_mem_drop (List.mem_of_mem_take member))
      exact of_decide_eq_true (List.mem_filter.mp ranged).2
    · rw [(ranges .pending).length_eq, (ranges .expired).length_eq, (ranges .accepted).length_eq,
        (ranges .revoked).length_eq]
      exact length_by_status _
    · intro record listed token password found
      rw [mem_pending_iff apart listed, turnedDown_acceptInvitation_iff password found, not_or, not_not]

end Law

section Samples

def administrator : AuthenticatedIdentity where
  userId := 3
  role := .admin
  companyId := 1
  expiresAt := none

theorem listing_by_status_sample :
    ListsByStatus (fun _ _ => false) (fun token => token) carolInvited administrator none := by
  have unqueried : ∀ text, (none : Option String) = some text → strip text ≠ "" := by
    intro text impossible
    cases impossible
  apply (listing_by_status_iff _ _ _ _ _ rfl unqueried).mpr
  intro record listed _
  have only : record = carol := List.mem_singleton.mp (mem_invitationsListed.mp listed).1
  rw [only]
  decide

/-- An invitation that expires at the reference time is listed as expired, shown as pending and accepted. -/
theorem pending_listed_as_expired :
    ¬ListsByStatus (fun _ _ => false) (fun token => token) { carolInvited with clock := fun _ => 1000 } administrator none := by
  intro law
  have shown := law.reported .expired Page.firstHundred _ rfl (mapInvitationRecordToDomain 1000 carol) (by decide)
  cases shown

end Samples

end AutomationHub.Invitations
