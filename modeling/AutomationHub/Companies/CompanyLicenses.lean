import AutomationHub.Auth.Authorization
import AutomationHub.Foundation.PartialUpdates

/-!
The licences of companies, which platform admins update field by field.
-/

set_option autoImplicit false

namespace AutomationHub.Companies

open Foundation Model Auth Program

structure CompanyLicenseRecord where
  companyId : UUID
  planTier : String
  seatLimit : Option Int
  expiresAt : Option Datetime
  notes : Option String
  updatedAt : Datetime
deriving DecidableEq

/-- The licences with who wrote them last, the users of each company, the audit log, and the clock read by successive
calls. -/
structure LicenseStore where
  clock : Nat → Datetime
  ticks : Nat
  licenses : UUID → Option CompanyLicenseRecord
  updatedBy : UUID → Option UUID
  users : UUID → Nat
  audit : List (AuditAction × UUID × UUID)

inductive LicenseCall where
  | utcNow
  | getForCompany (companyId : UUID)
  | upsert (companyId : UUID) (planTier : String) (seatLimit : Option Int) (expiresAt : Option Datetime)
      (notes : Option String) (updatedBy : UUID)
  | countForCompany (companyId : UUID)
  | recordEvent (action : AuditAction) (actorId companyId : UUID)
deriving DecidableEq

def LicenseCall.Reply : LicenseCall → Type
  | .utcNow => Datetime
  | .getForCompany _ => Except DatabaseError (Option CompanyLicenseRecord)
  | .upsert .. => Except DatabaseError CompanyLicenseRecord
  | .countForCompany _ => Except DatabaseError Nat
  | .recordEvent .. => Except DatabaseError Unit

abbrev licenseSignature : Signature := ⟨LicenseCall, LicenseCall.Reply⟩

abbrev LicenseProgram (α : Type) := Program licenseSignature AppError α

/-- How the database answers when it does not fail. -/
def LicenseStore.execute (store : LicenseStore) : (call : LicenseCall) → call.Reply × LicenseStore
  | .utcNow => (store.clock store.ticks, { store with ticks := store.ticks + 1 })
  | .getForCompany companyId => (.ok (store.licenses companyId), store)
  | .upsert companyId planTier seatLimit expiresAt notes updatedBy =>
      let updated := { companyId, planTier, seatLimit, expiresAt, notes, updatedAt := store.clock store.ticks }
      (.ok updated, { store with
        ticks := store.ticks + 1
        licenses := Function.update store.licenses companyId (some updated)
        updatedBy := Function.update store.updatedBy companyId (some updatedBy) })
  | .countForCompany companyId => (.ok (store.users companyId), store)
  | .recordEvent action actorId companyId => (.ok (), { store with audit := store.audit ++ [(action, actorId, companyId)] })

/-- What the database replies when it fails a call; the clock does not fail. -/
def LicenseCall.failed (error : DatabaseError) : (call : LicenseCall) → Option call.Reply
  | .utcNow => none
  | .getForCompany _ => some (Except.error error)
  | .upsert .. => some (Except.error error)
  | .countForCompany _ => some (Except.error error)
  | .recordEvent .. => some (Except.error error)

/-- A call is answered by the store, or the database fails it and nothing changes. -/
def licensing {ι : Type} : Effect licenseSignature LicenseStore ι := fun _ before call reply after =>
  (reply, after) = before.execute call ∨ ∃ error, call.failed error = some reply ∧ after = before

structure CompanyLicense where
  record : CompanyLicenseRecord
  seatsUsed : Nat

/-- The fields of a licence update that are given. -/
structure LicenseUpdate where
  planTier : Option String
  seatLimit : Option Int
  expiresAt : Option Datetime
  notes : Option String

def translating {α : Type} : Except DatabaseError α → LicenseProgram α
  | .ok value => .done value
  | .error error => .raised (translateDatabaseError error)

def isExpired (identity : AuthenticatedIdentity) : LicenseProgram Bool :=
  match identity.expiresAt with
  | none => return false
  | some expiresAt => .call .utcNow fun now => return isPast expiresAt now

/-- `authorize_platform_admin`. -/
def authorizePlatformAdmin (identity : AuthenticatedIdentity) (isPlatformAdmin : Bool) : LicenseProgram Unit := do
  let expired ← isExpired identity
  if expired then .raised (translateAuthError .sessionExpired)
  else if isPlatformAdmin then return ()
  else .raised (translateAuthError (.permissionDenied identity.role "platform_admin"))

/-- A field that is not given keeps its current value, or the default where there is no licence yet. -/
def updateLicense (identity : AuthenticatedIdentity) (isPlatformAdmin : Bool) (companyId : UUID) (update : LicenseUpdate) :
    LicenseProgram CompanyLicense := do
  authorizePlatformAdmin identity isPlatformAdmin
  let current : Option CompanyLicenseRecord ← .call (.getForCompany companyId) translating
  let updated : CompanyLicenseRecord ← .call (.upsert companyId
    (update.planTier.getD ((current.map (·.planTier)).getD "free"))
    (update.seatLimit.or (current.bind (·.seatLimit)))
    (update.expiresAt.or (current.bind (·.expiresAt)))
    (update.notes.or (current.bind (·.notes))) identity.userId) translating
  let seatsUsed : Nat ← .call (.countForCompany companyId) translating
  -- the audit entry is written outside the block that translates
  .call (.recordEvent .companyLicenseUpdated identity.userId companyId) fun recorded =>
    match recorded with
    | .ok () => return { record := updated, seatsUsed }
    | .error error => .raised (.database error)

section Fields

inductive LicenseField where
  | planTier
  | seatLimit
  | expiresAt
  | notes

def LicenseField.Value : LicenseField → Type
  | .planTier => String
  | .seatLimit => Option Int
  | .expiresAt => Option Datetime
  | .notes => Option String

abbrev LicenseRow := (field : LicenseField) → field.Value

def licenseRow (planTier : String) (seatLimit : Option Int) (expiresAt : Option Datetime) (notes : Option String) : LicenseRow
  | .planTier => planTier
  | .seatLimit => seatLimit
  | .expiresAt => expiresAt
  | .notes => notes

/-- The licence of a company, or the defaults of one that has none. -/
def currentRow : Option CompanyLicenseRecord → LicenseRow
  | some record => licenseRow record.planTier record.seatLimit record.expiresAt record.notes
  | none => licenseRow "free" none none none

def LicenseUpdate.patch (update : LicenseUpdate) : Patch LicenseField.Value
  | .planTier => update.planTier
  | .seatLimit => update.seatLimit.map some
  | .expiresAt => update.expiresAt.map some
  | .notes => update.notes.map some

theorem merged_licenseRow (update : LicenseUpdate) (current : Option CompanyLicenseRecord) :
    licenseRow (update.planTier.getD ((current.map (·.planTier)).getD "free"))
        (update.seatLimit.or (current.bind (·.seatLimit))) (update.expiresAt.or (current.bind (·.expiresAt)))
        (update.notes.or (current.bind (·.notes))) =
      update.patch.apply (currentRow current) := by
  funext field
  cases field with
  | planTier => cases current <;> rfl
  | seatLimit => cases current <;> simp only [licenseRow, Patch.apply, LicenseUpdate.patch] <;> cases update.seatLimit <;> rfl
  | expiresAt => cases current <;> simp only [licenseRow, Patch.apply, LicenseUpdate.patch] <;> cases update.expiresAt <;> rfl
  | notes => cases current <;> simp only [licenseRow, Patch.apply, LicenseUpdate.patch] <;> cases update.notes <;> rfl

end Fields

section Access

variable {companyId : UUID}

def licenseAccess : RowAccess licenseSignature LicenseRow where
  reads
    | .getForCompany _, .ok current => some (currentRow current)
    | _, _ => none
  writes
    | .upsert _ planTier seatLimit expiresAt notes _, .ok _ => some (licenseRow planTier seatLimit expiresAt notes)
    | _, _ => none

/-- The calls about the licence of one company. -/
def Concerns (companyId : UUID) : LicenseCall → Prop
  | .getForCompany other => other = companyId
  | .upsert other .. => other = companyId
  | _ => True

theorem lawful_licenseAccess {ι : Type} :
    licenseAccess.Lawful (Concerns companyId) (licensing : Effect licenseSignature LicenseStore ι)
      (fun store => currentRow (store.licenses companyId)) := by
  constructor
  · intro thread state call reply after concerned answered row read
    cases call with
    | getForCompany other =>
        cases concerned
        rcases answered with answered | ⟨error, failed, -⟩
        · cases answered
          exact (Option.some.inj read).symm
        · cases failed
          cases read
    | utcNow => cases read
    | upsert other planTier seatLimit expiresAt notes updatedBy => cases read
    | countForCompany other => cases read
    | recordEvent action actorId other => cases read
  · intro thread state call reply after concerned answered
    rcases answered with answered | ⟨error, failed, same⟩
    · cases call with
      | upsert other planTier seatLimit expiresAt notes updatedBy =>
          cases concerned
          cases answered
          change currentRow (Function.update state.licenses companyId _ companyId) = _
          rw [Function.update_self]
          rfl
      | _ => cases answered; rfl
    · subst same
      cases call <;> cases failed <;> rfl
  · intro call reply
    cases call with
    | getForCompany other => exact .inr rfl
    | _ => exact .inl rfl

theorem ensures_authorizePlatformAdmin (identity : AuthenticatedIdentity) (isPlatformAdmin : Bool)
    (merge : LicenseRow → LicenseRow) :
    (authorizePlatformAdmin identity isPlatformAdmin).Ensures (merging licenseAccess (Concerns companyId) merge)
      (fun _ phase => phase = .starting) .starting := by
  have checked : ∀ expired : Bool, (if expired then .raised (translateAuthError .sessionExpired)
        else if isPlatformAdmin then return ()
        else .raised (translateAuthError (.permissionDenied identity.role "platform_admin")) : LicenseProgram Unit).Ensures
      (merging licenseAccess (Concerns companyId) merge) (fun _ phase => phase = .starting) .starting := by
    intro expired
    cases expired <;> cases isPlatformAdmin <;> rfl
  unfold authorizePlatformAdmin isExpired
  rw [ensures_bind]
  cases identity.expiresAt with
  | none => exact checked false
  | some expiresAt =>
      refine ⟨⟨trivial, fun _ => rfl⟩, ?_⟩
      intro now after told
      cases told
      exact checked (isPast expiresAt now)

/-- An update reads the licence, writes it once with what it has read for the fields that are not given, and succeeds only
after that. -/
theorem follows_updateLicense (identity : AuthenticatedIdentity) (isPlatformAdmin : Bool) (update : LicenseUpdate) :
    (updateLicense identity isPlatformAdmin companyId update >>= fun _ => .done ()).Ensures
      (merging licenseAccess (Concerns companyId) update.patch.apply) WrittenOnce .starting := by
  unfold updateLicense
  rw [ensures_bind, ensures_bind]
  apply (ensures_authorizePlatformAdmin identity isPlatformAdmin update.patch.apply).mono
  intro result phase same
  subst same
  cases result with
  | error error =>
      intro returned
      cases returned
  | ok authorized =>
      refine ⟨⟨rfl, fun _ => rfl⟩, ?_⟩
      intro current phase read
      subst read
      cases current with
      | error error =>
          intro returned
          cases returned
      | ok current =>
          refine ⟨⟨rfl, fun _ => ⟨rfl, ?_⟩⟩, ?_⟩
          · intro whole written
            rename_i reply
            cases reply with
            | error error => cases written
            | ok updated => exact (Option.some.inj written).symm.trans (merged_licenseRow update current)
          · intro updated phase wrote
            subst wrote
            cases updated with
            | error error =>
                intro returned
                cases returned
            | ok updated =>
                refine ⟨⟨trivial, fun _ => ⟨rfl, rfl⟩⟩, ?_⟩
                intro seatsUsed phase counted
                subst counted
                cases seatsUsed with
                | error error =>
                    intro returned
                    cases returned
                | ok seatsUsed =>
                    refine ⟨⟨trivial, fun _ => ⟨rfl, rfl⟩⟩, ?_⟩
                    intro recorded phase noted
                    subst noted
                    cases recorded with
                    | error error =>
                        intro returned
                        cases returned
                    | ok done => exact fun _ => rfl

end Access

end AutomationHub.Companies
