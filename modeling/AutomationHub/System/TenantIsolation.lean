import AutomationHub.Api.Administration
import AutomationHub.Database.Tenancy
import AutomationHub.Services.ServiceRuns
import AutomationHub.System.Operations

/-!
What an administrator learns of other companies from the administration reads.

Two states that hold the same rows of the administrator's company are compared:
an operation is confined when it cannot tell them apart.
-/

set_option autoImplicit false

namespace AutomationHub.System

open Foundation Model Database Services Auth Program Table

/-- The reading operations of the administration routers. -/
inductive AdministrationRead where
  | listUsers (role : Option UserRole) (department query : Option String) (page : Page)
  | getUser (userId : UUID)
  | getUserActivity (userId : UUID) (page : Page)
  | listRecentActivity (filter : AuditFilter) (page : Page)
  | getAgingRequests (olderThanHours : Hours) (page : Page)
  | listJobs (filter : JobFilter) (page : Page)
  | listDeadLetterJobs (taskType : Option String) (page : Page)
  | getJob (jobId : UUID)

inductive AdministrationResponse where
  | users (result : PagedResult Api.UserOut)
  | user (result : Api.UserOut)
  | activity (result : PagedResult Api.AuditLogEntryOut)
  | agingRequests (result : PagedResult Api.AgingRequestItemOut)
  | jobs (result : PagedResult Api.JobOut)
  | job (result : Api.JobOut)

def AdministrationRead.program (identity : AuthenticatedIdentity) : AdministrationRead → Service AdministrationResponse
  | .listUsers role department query page => do return .users (← Api.listAdminUsers identity role department query page)
  | .getUser userId => do return .user (← Api.getAdminUser identity userId)
  | .getUserActivity userId page => do return .activity (← Api.getAdminUserActivity identity userId page)
  | .listRecentActivity filter page => do return .activity (← Api.listRecentActivity identity filter page)
  | .getAgingRequests olderThanHours page => do
      return .agingRequests (← Api.getAgingRequests identity olderThanHours page)
  | .listJobs filter page => do return .jobs (← Api.listJobs identity filter page)
  | .listDeadLetterJobs taskType page => do return .jobs (← Api.listDeadLetterJobs identity taskType page)
  | .getJob jobId => do return .job (← Api.getJob identity jobId)

/-- The response, or the error, that the administrator gets. -/
def AdministrationRead.outcome (identity : AuthenticatedIdentity) (read : AdministrationRead) (world : World) :
    Except AppError AdministrationResponse :=
  ((read.program identity).run environment world).1

/-- What the administrator gets from reads made one after the other. -/
def outcomes (identity : AuthenticatedIdentity) : List AdministrationRead → World →
    List (Except AppError AdministrationResponse)
  | [], _ => []
  | read :: rest, world =>
      read.outcome identity world :: outcomes identity rest ((read.program identity).run environment world).2

/-- The reads that show rows of the administrator's company alone. -/
def Confined (identity : AuthenticatedIdentity) (world : World) : AdministrationRead → Prop
  | .listUsers .. | .getAgingRequests .. => True
  | .getUser userId => world.ownsProfile identity.companyId userId = true
  | .getUserActivity .. | .listJobs .. | .listDeadLetterJobs .. => False
  | .listRecentActivity filter page => ∀ entry ∈ (paginate (world.auditLogsListed identity.companyId filter) page).items,
      ∀ actorId, entry.actorId = some actorId → world.ownsProfile identity.companyId actorId = true
  | .getJob jobId => ∃ job, world.jobs.find? jobId = some job ∧ world.ownsJob identity.companyId job = true

section Reading

/-- The call leaves the database as it is. -/
def Reading (request : Call) : Prop := ∀ world, (environment request world).2 = world.tick

theorem reading_profileOfCompany (identity : AuthenticatedIdentity) (userId : UUID) :
    (Api.profileOfCompany identity userId).Only Reading := by
  refine Only.bind (only_orTranslate _ fun _ => rfl) ?_
  intro profile
  by_cases foreign : profile.companyId ≠ identity.companyId
  · simp [foreign]
  · simp [foreign]

theorem reading_actorName (actorId : UUID) : (Api.actorName actorId).Only Reading := by
  refine Only.bind (only_attempt _ fun _ => rfl) ?_
  intro reply
  cases reply with
  | ok profile => trivial
  | error error => cases error <;> trivial

theorem reading_activityItems (known : List (UUID × Option String)) (entries : List AuditLogRecord) :
    (Api.activityItems known entries).Only Reading := by
  induction entries generalizing known with
  | nil => trivial
  | cons entry rest recurse =>
      unfold Api.activityItems
      cases entry.actorId with
      | none => exact (recurse known).bind fun _ => trivial
      | some actorId =>
          simp only
          cases known.lookup actorId with
          | some name => exact (recurse known).bind fun _ => trivial
          | none =>
              refine (reading_actorName actorId).bind ?_
              intro name
              exact (recurse _).bind fun _ => trivial

theorem reading_getRequest (identity : AuthenticatedIdentity) (requestId : UUID) :
    (getRequest identity requestId).Only Reading := by
  refine Only.bind (Only.bind (only_orNotFound _ fun _ => rfl) ?_) ?_
  · intro record
    by_cases foreign : record.companyId ≠ identity.companyId
    · simp [foreign]
    · simp [foreign]
  · intro record
    refine Only.bind ?_ ?_
    · unfold isAssignedToAnyStage
      split
      · trivial
      · exact (only_orRaise _ fun _ => rfl).bind fun _ => trivial
    · intro assigned
      refine (only_authorize_of (fun _ => rfl) _ _ _).bind ?_
      intro decision
      cases decision <;> trivial

theorem reading_agingItems (identity : AuthenticatedIdentity) (now : Datetime) (known : List (UUID × RequestRecord))
    (stages : List WorkflowStageRecord) : (Api.agingItems identity now known stages).Only Reading := by
  induction stages generalizing known with
  | nil => trivial
  | cons stage rest recurse =>
      unfold Api.agingItems
      cases known.lookup stage.requestId with
      | some owningRequest => exact (recurse known).bind fun _ => trivial
      | none =>
          refine (reading_getRequest identity stage.requestId).bind ?_
          intro owningRequest
          exact (recurse _).bind fun _ => trivial

theorem reading_requireRole (role allowed : UserRole) : (Api.requireRole role allowed).Only Reading := by
  unfold Api.requireRole
  split <;> trivial

theorem reading_listJobs (identity : AuthenticatedIdentity) (filter : JobFilter) (page : Page) :
    (Api.listJobs identity filter page).Only Reading := by
  refine (reading_requireRole _ _).bind ?_
  intro _
  exact (only_orRaise _ fun _ => rfl).bind fun _ => trivial

theorem reading_program (identity : AuthenticatedIdentity) (read : AdministrationRead) :
    (read.program identity).Only Reading := by
  cases read with
  | listUsers role department query page =>
      refine Only.bind ((reading_requireRole _ _).bind ?_) fun _ => trivial
      intro _
      cases role with
      | some role => exact (only_orTranslate _ fun _ => rfl).bind fun _ => trivial
      | none =>
          cases query with
          | some query => exact (only_orTranslate _ fun _ => rfl).bind fun _ => trivial
          | none => trivial
  | getUser userId =>
      refine Only.bind ((reading_requireRole _ _).bind ?_) fun _ => trivial
      intro _
      exact (reading_profileOfCompany identity userId).bind fun _ => trivial
  | getUserActivity userId page =>
      refine Only.bind ((reading_requireRole _ _).bind ?_) fun _ => trivial
      intro _
      refine (reading_profileOfCompany identity userId).bind ?_
      intro profile
      exact (only_orRaise _ fun _ => rfl).bind fun _ => trivial
  | listRecentActivity filter page =>
      refine Only.bind ((reading_requireRole _ _).bind ?_) fun _ => trivial
      intro _
      refine (only_orRaise _ fun _ => rfl).bind ?_
      intro result
      exact (reading_activityItems [] result.items).bind fun _ => trivial
  | getAgingRequests olderThanHours page =>
      refine Only.bind ((reading_requireRole _ _).bind ?_) fun _ => trivial
      intro _
      refine Only.bind ((only_ask _).mpr fun _ => rfl) ?_
      intro now
      refine (only_engineOrRaise _).bind ?_
      intro threshold
      refine (only_orRaise _ fun _ => rfl).bind ?_
      intro result
      refine Only.bind ((only_ask _).mpr fun _ => rfl) ?_
      intro later
      exact (reading_agingItems identity later [] result.items).bind fun _ => trivial
  | listJobs filter page => exact (reading_listJobs identity filter page).bind fun _ => trivial
  | listDeadLetterJobs taskType page => exact (reading_listJobs identity _ page).bind fun _ => trivial
  | getJob jobId =>
      refine Only.bind ((reading_requireRole _ _).bind ?_) fun _ => trivial
      intro _
      exact (only_orTranslate _ fun _ => rfl).bind fun _ => trivial

theorem run_reading {α : Type} {program : Service α} (only : program.Only Reading) (world : World) :
    ∃ ticks, (program.run environment world).2 = world.atTick ticks := by
  have step : ∀ state request, (∃ ticks, state = world.atTick ticks) → Reading request → True ∧
      ∀ reply after, environment request state = (reply, after) → ∃ ticks, after = world.atTick ticks := by
    intro state request reached reads
    obtain ⟨ticks, earlier⟩ := reached
    refine ⟨trivial, ?_⟩
    intro reply after answered
    have reached : (environment request state).2 = after := congrArg Prod.snd answered
    exact ⟨ticks + 1, by rw [← reached, reads, earlier]; rfl⟩
  have kept : program.Ensures (.ofHandler environment) (fun _ after => ∃ ticks, after = world.atTick ticks) world :=
    only.ensures _ step ⟨world.ticks, rfl⟩
  exact (ensures_ofHandler ..).mp kept

end Reading

section Outcomes

variable {identity : AuthenticatedIdentity} (administrator : identity.role = .admin) {world : World}

/-- What `profileOfCompany` returns or raises. -/
def profileReply (identity : AuthenticatedIdentity) (world : World) (userId : UUID) : Except AppError ProfileRecord :=
  match world.profiles.find? userId with
  | none => .error (.notFound "profiles" userId)
  | some profile =>
      if profile.companyId = identity.companyId then .ok profile else .error (.notFound "profile" userId)

theorem run_profileOfCompany (userId : UUID) : (Api.profileOfCompany identity userId).run environment world =
    (profileReply identity world userId, world.tick) := by
  have reply : (orTranslate (.getProfile userId) : Service ProfileRecord).run environment world =
      ((getById "profiles" world.profiles userId).mapError translateDatabaseError, world.tick) :=
    run_orTranslate (.getProfile userId) world
  rw [Api.profileOfCompany, run_bind, reply, getById, profileReply]
  cases world.profiles.find? userId with
  | none => rfl
  | some profile =>
      by_cases own : profile.companyId = identity.companyId
      · simp [Except.mapError, own]
      · simp [Except.mapError, own]

/-- The name found for an actor. -/
def nameOf (world : World) (actorId : UUID) : Option String :=
  (world.profiles.find? actorId).map ProfileRecord.fullName

theorem run_actorName (actorId : UUID) :
    (Api.actorName actorId).run environment world = (.ok (nameOf world actorId), world.tick) := by
  have reply : (attempt (.getProfile actorId)).run environment world =
      (.ok (getById "profiles" world.profiles actorId), world.tick) := run_attempt (.getProfile actorId) world
  rw [Api.actorName, run_bind, reply, getById, nameOf]
  cases world.profiles.find? actorId with
  | none => rfl
  | some profile => rfl

/-- An entry of the feed. -/
def feedItem (world : World) (entry : AuditLogRecord) : Api.AuditLogEntryOut :=
  .of entry (entry.actorId.bind (nameOf world))

theorem run_activityItems_atTick (world : World) (known : List (UUID × Option String)) (entries : List AuditLogRecord)
    (right : ∀ actorId name, known.lookup actorId = some name → name = nameOf world actorId) (ticks : Nat) :
    ((Api.activityItems known entries).run environment (world.atTick ticks)).1 =
      .ok (entries.map (feedItem world)) := by
  induction entries generalizing known ticks with
  | nil => rfl
  | cons entry rest recurse =>
      unfold Api.activityItems
      cases actor : entry.actorId with
      | none =>
          have tail := recurse known right ticks
          rw [run_bind_of_ok tail]
          simp [feedItem, actor]
      | some actorId =>
          simp only
          cases found : known.lookup actorId with
          | some name =>
              have tail := recurse known right ticks
              rw [run_bind_of_ok tail]
              simp [feedItem, actor, right actorId name found]
          | none =>
              have extended : ∀ other name,
                  ((actorId, nameOf world actorId) :: known).lookup other = some name → name = nameOf world other := by
                intro other name present
                by_cases same : other = actorId
                · subst same
                  simpa [eq_comm] using present
                · have kept : known.lookup other = some name := by
                    simpa [List.lookup_cons, beq_false_of_ne same] using present
                  exact right other name kept
              have looked : (Api.actorName actorId).run environment (world.atTick ticks) =
                  (.ok (nameOf world actorId), world.atTick (ticks + 1)) := run_actorName actorId
              have tail := recurse _ extended (ticks + 1)
              rw [run_bind, looked, continueRun_ok, run_bind_of_ok tail]
              simp [feedItem, actor]

theorem run_activityItems (entries : List AuditLogRecord) :
    ((Api.activityItems [] entries).run environment world).1 = .ok (entries.map (feedItem world)) :=
  run_activityItems_atTick world [] entries (by simp) world.ticks

include administrator

theorem run_requireRole : (Api.requireRole identity.role .admin).run environment world = (.ok (), world) := by
  rw [administrator]
  rfl

theorem outcome_getUser (userId : UUID) : (AdministrationRead.getUser userId).outcome identity world =
    (profileReply identity world userId).map fun profile => .user (.of profile) := by
  simp only [AdministrationRead.outcome, AdministrationRead.program, Api.getAdminUser, run_bind,
    run_requireRole administrator, continueRun_ok, run_profileOfCompany]
  cases profileReply identity world userId with
  | error error => rfl
  | ok profile => rfl

theorem outcome_getUserActivity (userId : UUID) (page : Page) :
    (AdministrationRead.getUserActivity userId page).outcome identity world =
      (profileReply identity world userId).map fun profile =>
        .activity (Api.mapItems (paginate (world.auditLogsOfActor userId) page) fun entry =>
          .of entry (some profile.fullName)) := by
  simp only [AdministrationRead.outcome, AdministrationRead.program, Api.getAdminUserActivity, run_bind,
    run_requireRole administrator, continueRun_ok, run_profileOfCompany]
  cases profileReply identity world userId with
  | error error => rfl
  | ok profile => rfl

theorem outcome_listRecentActivity (filter : AuditFilter) (page : Page) :
    (AdministrationRead.listRecentActivity filter page).outcome identity world =
      .ok (.activity (Api.mapItems (paginate (world.auditLogsListed identity.companyId filter) page)
        (feedItem world))) := by
  have listed : (orRaise (.listAuditLogs identity.companyId filter page)).run environment world =
      (.ok (paginate (world.auditLogsListed identity.companyId filter) page), world.tick) :=
    run_orRaise (.listAuditLogs identity.companyId filter page) world
  have items : ((Api.activityItems [] (paginate (world.auditLogsListed identity.companyId filter) page).items).run
      environment world.tick).1 = _ := run_activityItems _
  have result : ((Api.listRecentActivity identity filter page).run environment world).1 =
      .ok (Api.mapItems (paginate (world.auditLogsListed identity.companyId filter) page) (feedItem world)) := by
    rw [Api.listRecentActivity, run_bind, run_requireRole administrator, continueRun_ok, run_bind, listed,
      continueRun_ok, run_bind_of_ok items]
    rfl
  rw [AdministrationRead.outcome, AdministrationRead.program, run_bind_of_ok result]
  rfl

theorem outcome_listJobs (filter : JobFilter) (page : Page) :
    (AdministrationRead.listJobs filter page).outcome identity world =
      .ok (.jobs (Api.mapItems (paginate (world.jobsListed filter) page) .of)) := by
  have listed : (orRaise (.listJobs filter page)).run environment world =
      (.ok (paginate (world.jobsListed filter) page), world.tick) := run_orRaise (.listJobs filter page) world
  rw [AdministrationRead.outcome, AdministrationRead.program, Api.listJobs, run_bind, run_bind,
    run_requireRole administrator, continueRun_ok, run_bind, listed]
  rfl

theorem outcome_getJob (jobId : UUID) : (AdministrationRead.getJob jobId).outcome identity world =
    match world.jobs.find? jobId with
    | some job => .ok (.job (.of job))
    | none => .error (.notFound "jobs" jobId) := by
  have reply : (orTranslate (.getJob jobId) : Service JobRecord).run environment world =
      ((getById "jobs" world.jobs jobId).mapError translateDatabaseError, world.tick) :=
    run_orTranslate (.getJob jobId) world
  rw [AdministrationRead.outcome, AdministrationRead.program, Api.getJob, run_bind, run_bind,
    run_requireRole administrator, continueRun_ok, run_bind, reply, getById]
  cases world.jobs.find? jobId with
  | none => rfl
  | some job => rfl

end Outcomes

section Pairs

variable {identity : AuthenticatedIdentity} {profileIds requestIds : List UUID} {left right : World}

/-- States that agree on the rows of the caller's company, in which the listed profiles are of that company and the
listed requests exist. -/
structure Alike (identity : AuthenticatedIdentity) (profileIds requestIds : List UUID) (left right : World) : Prop where
  agree : left.AgreeFor identity.companyId right
  owned : ∀ profileId ∈ profileIds, left.ownsProfile identity.companyId profileId = true
  present : ∀ requestId ∈ requestIds, left.hasRequest requestId = true ∧ right.hasRequest requestId = true

theorem Alike.tick (alike : Alike identity profileIds requestIds left right) :
    Alike identity profileIds requestIds left.tick right.tick where
  agree := alike.agree.tick
  owned := alike.owned
  present := alike.present

theorem indifferent_of_reading {statement : Query} (reads : Reading (.query statement))
    (same : ∀ left right, Alike identity profileIds requestIds left right →
      (left.execute statement).1 = (right.execute statement).1) :
    Indifferent (Alike identity profileIds requestIds) statement := by
  intro left right alike
  have leftReads : (left.execute statement).2.tick = left.tick := reads left
  have rightReads : (right.execute statement).2.tick = right.tick := reads right
  rw [leftReads, rightReads]
  exact ⟨same left right alike, alike.tick⟩

theorem find?_profile_of_alike (alike : Alike identity profileIds requestIds left right) {profileId : UUID}
    (listed : profileId ∈ profileIds) : left.profiles.find? profileId = right.profiles.find? profileId := by
  obtain ⟨profile, found, own⟩ := World.ownsProfile_iff.mp (alike.owned profileId listed)
  have shared := find?_of_agree alike.agree.profiles found (by simp [own])
  rw [found, shared]

theorem indifferent_getProfile {profileId : UUID} (listed : profileId ∈ profileIds) :
    Indifferent (Alike identity profileIds requestIds) (.getProfile profileId) := by
  apply indifferent_of_reading fun _ => rfl
  intro left right alike
  have found := find?_profile_of_alike alike listed
  simp only [World.execute, World.getProfile, getById, found]

theorem coupled_utcNow_alike : Coupled environment (Alike identity profileIds requestIds) utcNow :=
  coupled_utcNow fun _ _ alike => ⟨alike.agree.now, alike.tick⟩

theorem coupled_authorize (permitted : Bool) (resource : String) :
    Coupled environment (Alike identity profileIds requestIds) (authorize identity permitted resource) := by
  have clocked : ∀ request, Call.utcNow = request →
      Coupled environment (Alike identity profileIds requestIds)
        (Program.call request .done : Service request.Reply) := by
    intro request asked
    subst asked
    exact coupled_utcNow_alike
  exact (compositional_coupled_service _).of_only clocked (only_authorize_of rfl identity permitted resource)

theorem coupled_activityItems (known : List (UUID × Option String)) (entries : List AuditLogRecord)
    (listed : ∀ entry ∈ entries, ∀ actorId, entry.actorId = some actorId → actorId ∈ profileIds) :
    Coupled environment (Alike identity profileIds requestIds) (Api.activityItems known entries) := by
  have rules := compositional_coupled_service (Alike identity profileIds requestIds)
  induction entries generalizing known with
  | nil => exact rules.done _
  | cons entry rest recurse =>
      have later := fun known => recurse known fun other member => listed other (List.mem_cons_of_mem _ member)
      unfold Api.activityItems
      cases actor : entry.actorId with
      | none => exact rules.bind (later known) fun _ => rules.done _
      | some actorId =>
          simp only
          cases known.lookup actorId with
          | some name => exact rules.bind (later known) fun _ => rules.done _
          | none =>
              have named : Coupled environment (Alike identity profileIds requestIds) (Api.actorName actorId) := by
                apply rules.bind
                · exact coupled_attempt (indifferent_getProfile (listed entry List.mem_cons_self actorId actor))
                · intro reply
                  cases reply with
                  | ok profile => exact rules.done _
                  | error error => cases error <;> first | exact rules.done _ | exact rules.raised _
              apply rules.bind named
              intro name
              exact rules.bind (later _) fun _ => rules.done _

theorem coupled_requestOfCompany {requestId : UUID} (listed : requestId ∈ requestIds) :
    Coupled environment (Alike identity profileIds requestIds) (requestOfCompany identity requestId) := by
  intro left right alike
  obtain ⟨leftPresent, rightPresent⟩ := alike.present requestId listed
  obtain ⟨record, found⟩ := Option.isSome_iff_exists.mp leftPresent
  obtain ⟨other, reached⟩ := Option.isSome_iff_exists.mp rightPresent
  rw [Paired, run_requestOfCompany found, run_requestOfCompany reached]
  constructor
  · by_cases own : record.companyId = identity.companyId
    · have shared := find?_of_agree alike.agree.requests found (by simp [own])
      obtain rfl : other = record := Option.some.inj (reached.symm.trans shared)
      rfl
    · have foreign : other.companyId ≠ identity.companyId := by
        intro same
        have shared := find?_of_agree alike.agree.requests.symm reached (by simp [same])
        obtain rfl : record = other := Option.some.inj (found.symm.trans shared)
        exact own same
      simp [own, foreign]
  · exact alike.tick

theorem run_isAssignedToAnyStage (world : World) (requestId userId : UUID) : ∃ assigned,
    (isAssignedToAnyStage requestId userId .admin).run environment world = (.ok assigned, world.tick) := by
  have listed : (orRaise (.listStagesForRequest requestId .firstHundred)).run environment world =
      (.ok (paginate (world.stagesOf requestId) .firstHundred), world.tick) :=
    run_orRaise (.listStagesForRequest requestId .firstHundred) world
  refine ⟨?_, ?_⟩
  · exact (paginate (world.stagesOf requestId) .firstHundred).items.any fun stage =>
      stage.assignedTo == some userId || stage.assignedRole == some .admin
  · unfold isAssignedToAnyStage
    rw [if_neg (by decide), run_bind, listed]
    rfl

theorem coupled_getRequest (administrator : identity.role = .admin) {requestId : UUID}
    (listed : requestId ∈ requestIds) :
    Coupled environment (Alike identity profileIds requestIds) (getRequest identity requestId) := by
  have rules := compositional_coupled_service (Alike identity profileIds requestIds)
  apply rules.bind (coupled_requestOfCompany listed)
  intro record left right alike
  have viewed : ∀ isRequester isAssigned, authorizeRequestView identity isRequester isAssigned =
      authorize identity true "request" := by
    intro isRequester isAssigned
    simp [authorizeRequestView, canViewRequest, administrator]
  obtain ⟨leftAssigned, leftRun⟩ := run_isAssignedToAnyStage left record.id identity.userId
  obtain ⟨rightAssigned, rightRun⟩ := run_isAssignedToAnyStage right record.id identity.userId
  rw [Paired, administrator, run_bind, run_bind, leftRun, rightRun, continueRun_ok, continueRun_ok, viewed, viewed]
  apply paired_bind (coupled_authorize true "request" left.tick right.tick alike.tick)
  intro decision returned
  cases decision with
  | error error => exact rules.raised _ _ _ (coupled_authorize true "request" left.tick right.tick alike.tick).2
  | ok permitted => exact rules.done _ _ _ (coupled_authorize true "request" left.tick right.tick alike.tick).2

theorem coupled_agingItems (administrator : identity.role = .admin) (now : Datetime)
    (known : List (UUID × RequestRecord)) (stages : List WorkflowStageRecord)
    (listed : ∀ stage ∈ stages, stage.requestId ∈ requestIds) :
    Coupled environment (Alike identity profileIds requestIds) (Api.agingItems identity now known stages) := by
  have rules := compositional_coupled_service (Alike identity profileIds requestIds)
  induction stages generalizing known with
  | nil => exact rules.done _
  | cons stage rest recurse =>
      have later := fun known => recurse known fun other member => listed other (List.mem_cons_of_mem _ member)
      unfold Api.agingItems
      cases known.lookup stage.requestId with
      | some owningRequest => exact rules.bind (later known) fun _ => rules.done _
      | none =>
          apply rules.bind (coupled_getRequest administrator (listed stage List.mem_cons_self))
          intro owningRequest
          exact rules.bind (later _) fun _ => rules.done _

variable (administrator : identity.role = .admin)
include administrator

theorem requireRole_bind {α : Type} (next : Unit → Service α) :
    (Api.requireRole identity.role .admin >>= next) = next () := by
  rw [administrator]
  rfl

theorem coupled_listAdminUsers (role : Option UserRole) (department query : Option String) (page : Page) :
    Coupled environment (Alike identity profileIds requestIds)
      (Api.listAdminUsers identity role department query page) := by
  have rules := compositional_coupled_service (Alike identity profileIds requestIds)
  rw [Api.listAdminUsers.eq_def, requireRole_bind administrator]
  cases role with
  | some role =>
      have listed : Indifferent (Alike identity profileIds requestIds)
          (.listProfilesByRole role identity.companyId department page) := by
        apply indifferent_of_reading fun _ => rfl
        intro left right alike
        simp only [World.execute, alike.agree.profilesByRole]
      exact rules.bind (coupled_orTranslate listed) fun _ => rules.done _
  | none =>
      cases query with
      | some query =>
          have searched : Indifferent (Alike identity profileIds requestIds)
              (.searchProfilesByName query identity.companyId page) := by
            apply indifferent_of_reading fun _ => rfl
            intro left right alike
            simp only [World.execute, alike.agree.profilesNamed]
          exact rules.bind (coupled_orTranslate searched) fun _ => rules.done _
      | none => exact rules.raised _

theorem coupled_getAdminUser {userId : UUID} (listed : userId ∈ profileIds) :
    Coupled environment (Alike identity profileIds requestIds) (Api.getAdminUser identity userId) := by
  have rules := compositional_coupled_service (Alike identity profileIds requestIds)
  rw [Api.getAdminUser, requireRole_bind administrator]
  apply rules.bind _ fun _ => rules.done _
  apply rules.bind (coupled_orTranslate (indifferent_getProfile listed))
  intro profile
  split
  · exact rules.raised _
  · exact rules.done _

theorem paired_listRecentActivity (agree : left.AgreeFor identity.companyId right) (filter : AuditFilter) (page : Page)
    (owned : ∀ entry ∈ (paginate (left.auditLogsListed identity.companyId filter) page).items,
      ∀ actorId, entry.actorId = some actorId → left.ownsProfile identity.companyId actorId = true) :
    Paired environment (World.AgreeFor identity.companyId) (Api.listRecentActivity identity filter page) left right := by
  let entries := (paginate (left.auditLogsListed identity.companyId filter) page).items
  let profileIds := entries.filterMap AuditLogRecord.actorId
  have rules := compositional_coupled_service (Alike identity profileIds [])
  have alike : Alike identity profileIds [] left right := by
    constructor
    · exact agree
    · intro profileId member
      obtain ⟨entry, present, actor⟩ := List.mem_filterMap.mp member
      exact owned entry present profileId actor
    · exact fun _ member => absurd member List.not_mem_nil
  have indifferent : Indifferent (Alike identity profileIds []) (.listAuditLogs identity.companyId filter page) := by
    apply indifferent_of_reading fun _ => rfl
    intro left right alike
    simp only [World.execute, alike.agree.auditLogsListed]
  suffices paired : Paired environment (Alike identity profileIds [])
      (Api.listRecentActivity identity filter page) left right from paired.mono fun _ _ alike => alike.agree
  rw [Api.listRecentActivity, requireRole_bind administrator]
  apply paired_bind (coupled_orRaise indifferent left right alike)
  intro result returned
  have listed : result.items = entries := by
    rw [run_orRaise] at returned
    exact congrArg PagedResult.items (Except.ok.inj returned).symm
  have items : Coupled environment (Alike identity profileIds []) (Api.activityItems [] result.items) := by
    apply coupled_activityItems
    intro entry member actorId actor
    exact List.mem_filterMap.mpr ⟨entry, listed ▸ member, actor⟩
  have later : Alike identity profileIds [] left.tick right.tick := alike.tick
  rw [run_orRaise, run_orRaise]
  exact rules.bind items (fun _ => rules.done _) left.tick right.tick later

theorem paired_getAgingRequests (agree : left.AgreeFor identity.companyId right) (leftParented : left.StagesParented)
    (rightParented : right.StagesParented) (olderThanHours : Hours) (page : Page) :
    Paired environment (World.AgreeFor identity.companyId) (Api.getAgingRequests identity olderThanHours page)
      left right := by
  let own := left.stages.rows.filter fun stage => stage.companyId == identity.companyId
  let requestIds := own.map WorkflowStageRecord.requestId
  have rules := compositional_coupled_service (Alike identity [] requestIds)
  have found : ∀ {world : World}, world.StagesParented → ∀ stage ∈ world.stages.rows,
      world.hasRequest stage.requestId = true := by
    intro world parented stage member
    obtain ⟨request, present, same⟩ := parented stage member
    exact Option.isSome_iff_exists.mpr ⟨request, (find?_eq_some_iff ..).mpr ⟨present, same⟩⟩
  have alike : Alike identity [] requestIds left right := by
    constructor
    · exact agree
    · exact fun _ member => absurd member List.not_mem_nil
    · intro requestId member
      obtain ⟨stage, present, same⟩ := List.mem_map.mp member
      have shared : stage ∈ right.stages.rows.filter fun stage => stage.companyId == identity.companyId :=
        agree.stages ▸ present
      subst same
      exact ⟨found leftParented stage (List.mem_filter.mp present).1,
        found rightParented stage (List.mem_filter.mp shared).1⟩
  suffices paired : Paired environment (Alike identity [] requestIds)
      (Api.getAgingRequests identity olderThanHours page) left right from paired.mono fun _ _ alike => alike.agree
  rw [Api.getAgingRequests, requireRole_bind administrator]
  apply paired_bind (coupled_utcNow_alike left right alike)
  intro now _
  cases subtractHours now olderThanHours with
  | none => exact rules.raised _ _ _ alike.tick
  | some threshold =>
      have indifferent : Indifferent (Alike identity [] requestIds)
          (.listOverdueStages threshold identity.companyId page) := by
        apply indifferent_of_reading fun _ => rfl
        intro left right alike
        simp only [World.execute, alike.agree.overdueStages]
      apply paired_bind (coupled_orRaise indifferent left.tick right.tick alike.tick)
      intro result returned
      have listed : ∀ stage ∈ result.items, stage.requestId ∈ requestIds := by
        intro stage member
        rw [run_orRaise] at returned
        have page : result.items = _ := congrArg PagedResult.items (Except.ok.inj returned).symm
        rw [page] at member
        have overdue := List.mem_of_mem_drop (List.mem_of_mem_take member)
        obtain ⟨present, chosen⟩ := List.mem_filter.mp (mem_orderBy.mp overdue)
        simp only [Bool.and_eq_true] at chosen
        exact List.mem_map_of_mem (List.mem_filter.mpr ⟨present, chosen.1.1⟩)
      rw [run_orRaise, run_orRaise]
      apply paired_bind (coupled_utcNow_alike left.tick.tick right.tick.tick alike.tick.tick)
      intro later _
      have items : Coupled environment (Alike identity [] requestIds)
          (Api.agingItems identity later [] result.items) := coupled_agingItems administrator later [] result.items listed
      exact rules.bind items (fun _ => rules.done _) left.tick.tick.tick right.tick.tick.tick alike.tick.tick.tick

theorem paired_getJob (agree : left.AgreeFor identity.companyId right) {jobId : UUID} {job : JobRecord}
    (found : left.jobs.find? jobId = some job) (owned : left.ownsJob identity.companyId job = true) :
    Paired environment (World.AgreeFor identity.companyId) (Api.getJob identity jobId) left right := by
  have jobs := congrArg CompanyRows.jobs agree.rows
  simp only [World.rowsOf, ← agree.ownsJob] at jobs
  have shared := find?_of_agree jobs found owned
  have reply : ∀ {world : World}, world.jobs.find? jobId = some job →
      (Api.getJob identity jobId).run environment world = (.ok (.of job), world.tick) := by
    intro world found
    have read : (orTranslate (.getJob jobId) : Service JobRecord).run environment world =
        ((getById "jobs" world.jobs jobId).mapError translateDatabaseError, world.tick) :=
      run_orTranslate (.getJob jobId) world
    rw [Api.getJob, requireRole_bind administrator, run_bind, read, getById, found]
    rfl
  rw [Paired, reply found, reply shared]
  exact ⟨rfl, agree.tick⟩

theorem paired_of_confined (agree : left.AgreeFor identity.companyId right) (leftParented : left.StagesParented)
    (rightParented : right.StagesParented) {read : AdministrationRead} (confined : Confined identity left read) :
    Paired environment (World.AgreeFor identity.companyId) (read.program identity) left right := by
  have returned := (compositional_coupled_service (World.AgreeFor identity.companyId)).done (α := AdministrationResponse)
  have nothing : Alike identity [] [] left right :=
    ⟨agree, fun _ member => absurd member List.not_mem_nil, fun _ member => absurd member List.not_mem_nil⟩
  have ended : ∀ {α : Type} {program : Service α} (respond : α → AdministrationResponse),
      Paired environment (World.AgreeFor identity.companyId) program left right →
        Paired environment (World.AgreeFor identity.companyId) (do return respond (← program)) left right := by
    intro α program respond paired
    exact paired_bind paired fun value _ => returned (respond value) _ _ paired.2
  cases read with
  | listUsers role department query page =>
      have listed := coupled_listAdminUsers administrator role department query page left right nothing
      exact ended .users (listed.mono fun _ _ alike => alike.agree)
  | getUser userId =>
      have alike : Alike identity [userId] [] left right := by
        constructor
        · exact agree
        · intro profileId member
          rw [List.mem_singleton.mp member]
          exact confined
        · exact fun _ member => absurd member List.not_mem_nil
      have read := coupled_getAdminUser administrator List.mem_cons_self left right alike
      exact ended .user (read.mono fun _ _ alike => alike.agree)
  | getUserActivity userId page => exact confined.elim
  | listRecentActivity filter page =>
      exact ended .activity (paired_listRecentActivity administrator agree filter page confined)
  | getAgingRequests olderThanHours page =>
      exact ended .agingRequests
        (paired_getAgingRequests administrator agree leftParented rightParented olderThanHours page)
  | listJobs filter page => exact confined.elim
  | listDeadLetterJobs taskType page => exact confined.elim
  | getJob jobId =>
      obtain ⟨job, found, owned⟩ := confined
      exact ended .job (paired_getJob administrator agree found owned)

end Pairs

section Strangers

variable {identity : AuthenticatedIdentity} {world : World}

theorem agreeFor_profiles (table : Table ProfileRecord)
    (same : table.rows.filter (fun profile => profile.companyId == identity.companyId) =
      world.profiles.rows.filter fun profile => profile.companyId == identity.companyId) :
    world.AgreeFor identity.companyId { world with profiles := table } where
  clock := rfl
  ticks := rfl
  textSearch := rfl
  rows := by
    have owns : World.ownsProfile { world with profiles := table } identity.companyId =
        world.ownsProfile identity.companyId := by
      funext profileId
      rw [World.ownsProfile_eq, World.ownsProfile_eq]
      simp only [World.rowsOf, same]
    have entries : World.ownsEntry { world with profiles := table } identity.companyId =
        world.ownsEntry identity.companyId := by
      funext entry
      simp only [World.ownsEntry, owns]
      rfl
    have jobs : World.ownsJob { world with profiles := table } identity.companyId =
        world.ownsJob identity.companyId := by
      funext job
      simp only [World.ownsJob, owns]
      rfl
    simp only [World.rowsOf, owns, entries, jobs, same]
    rfl

theorem agreeFor_audit (table : Table AuditLogRecord)
    (same : table.rows.filter (world.ownsEntry identity.companyId) =
      world.audit.rows.filter (world.ownsEntry identity.companyId)) :
    world.AgreeFor identity.companyId { world with audit := table } where
  clock := rfl
  ticks := rfl
  textSearch := rfl
  rows := by
    have rows : (World.rowsOf { world with audit := table } identity.companyId).audit =
        (world.rowsOf identity.companyId).audit := same
    exact congrArg (fun audit => { world.rowsOf identity.companyId with audit }) rows.symm

theorem agreeFor_jobs (table : Table JobRecord)
    (same : table.rows.filter (world.ownsJob identity.companyId) =
      world.jobs.rows.filter (world.ownsJob identity.companyId)) :
    world.AgreeFor identity.companyId { world with jobs := table } where
  clock := rfl
  ticks := rfl
  textSearch := rfl
  rows := by
    have rows : (World.rowsOf { world with jobs := table } identity.companyId).jobs =
        (world.rowsOf identity.companyId).jobs := same
    exact congrArg (fun jobs => { world.rowsOf identity.companyId with jobs }) rows.symm

/-- The other state agrees, and the read tells the two apart at whatever instants it is made. -/
def Telling (identity : AuthenticatedIdentity) (read : AdministrationRead) (world other : World) : Prop :=
  other.StagesParented ∧ world.AgreeFor identity.companyId other ∧
    ∀ tick later, read.outcome identity (world.atTick tick) ≠ read.outcome identity (other.atTick later)

/-- A profile of another company. -/
def strangerProfile (companyId id : UUID) : ProfileRecord :=
  { id, fullName := "", role := .employee, department := none, version := 1, createdAt := 0, updatedAt := 0,
    companyId := companyId + 1, isPlatformAdmin := false, isActive := true, deletedAt := none, deletedBy := none }

/-- A job of nobody that the filter admits. -/
def strangerJob (filter : JobFilter) (id : UUID) : JobRecord :=
  { id, taskType := filter.taskType.getD "", queueName := filter.queueName.getD "",
    priority := filter.priority.getD .normal, status := filter.status.getD .queued, payload := [], attempts := 0,
    maxAttempts := 1, lastError := none, errorHistory := [], scheduledFor := none, startedAt := none,
    finishedAt := none, lockedBy := none, requestId := none, actorId := none, version := 1, createdAt := 0 }

/-- An entry of another company about an actor. -/
def strangerEntry (companyId actorId id : UUID) : AuditLogRecord :=
  { id, actorId := some actorId, requestId := none, action := .requestCreated, metadata := none, createdAt := 0,
    companyId := some (companyId + 1) }

theorem strangerJob_admitted (filter : JobFilter) (id : UUID) : filter.admits (strangerJob filter id) = true := by
  obtain ⟨status, taskType, queueName, priority⟩ := filter
  cases status <;> cases taskType <;> cases queueName <;> cases priority <;> simp [JobFilter.admits, strangerJob]

theorem not_own_of_not_owns {profileId : UUID} (foreign : ¬world.ownsProfile identity.companyId profileId = true)
    (profile : ProfileRecord) (found : world.profiles.find? profileId = some profile) :
    (profile.companyId == identity.companyId) = false := by
  cases own : profile.companyId == identity.companyId with
  | false => rfl
  | true => exact absurd (World.ownsProfile_iff.mpr ⟨profile, found, by simpa using own⟩) foreign

/-- For a profile that is not of the company there is an agreeing state in which it is missing, or present, instead. -/
theorem exists_profile_toggled {profileId : UUID} (foreign : ¬world.ownsProfile identity.companyId profileId = true) :
    ∃ table : Table ProfileRecord, world.AgreeFor identity.companyId { world with profiles := table } ∧
      (table.find? profileId).isSome ≠ (world.profiles.find? profileId).isSome ∧
      ∀ profile, table.find? profileId = some profile → (profile.companyId == identity.companyId) = false := by
  obtain ⟨table, same, toggled, unowned⟩ := world.profiles.exists_toggled
    (fun profile => profile.companyId == identity.companyId) (strangerProfile identity.companyId profileId)
    (by simp [strangerProfile]) (not_own_of_not_owns foreign)
  exact ⟨table, agreeFor_profiles table same, toggled, unowned⟩

theorem profileReply_of_foreign {profileId : UUID}
    (foreign : ∀ profile, world.profiles.find? profileId = some profile →
      (profile.companyId == identity.companyId) = false) :
    profileReply identity world profileId =
      .error (.notFound (if (world.profiles.find? profileId).isSome then "profile" else "profiles") profileId) := by
  unfold profileReply
  cases found : world.profiles.find? profileId with
  | none => rfl
  | some profile =>
      have other : ¬profile.companyId = identity.companyId := by simpa using foreign profile found
      simp [other]

theorem profileReply_toggled {profileId : UUID} {table : Table ProfileRecord}
    (foreign : ¬world.ownsProfile identity.companyId profileId = true)
    (toggled : (table.find? profileId).isSome ≠ (world.profiles.find? profileId).isSome)
    (unowned : ∀ profile, table.find? profileId = some profile →
      (profile.companyId == identity.companyId) = false) :
    ∃ error other, profileReply identity world profileId = .error error ∧
      profileReply identity { world with profiles := table } profileId = .error other ∧ error ≠ other := by
  have left := profileReply_of_foreign (not_own_of_not_owns foreign)
  have right : profileReply identity { world with profiles := table } profileId =
      .error (.notFound (if (table.find? profileId).isSome then "profile" else "profiles") profileId) :=
    profileReply_of_foreign unowned
  refine ⟨_, _, left, right, ?_⟩
  change (table.find? profileId).isSome ≠ (world.profiles.find? profileId).isSome at toggled
  cases here : (world.profiles.find? profileId).isSome <;> cases there : (table.find? profileId).isSome <;>
    simp_all

variable (administrator : identity.role = .admin) (parented : world.StagesParented)
include administrator parented

theorem telling_getUser {userId : UUID} (foreign : ¬world.ownsProfile identity.companyId userId = true) :
    ∃ other, Telling identity (.getUser userId) world other := by
  obtain ⟨table, agree, toggled, unowned⟩ := exists_profile_toggled foreign
  obtain ⟨error, otherError, here, there, differ⟩ := profileReply_toggled foreign toggled unowned
  refine ⟨{ world with profiles := table }, parented, agree, ?_⟩
  intro tick later
  have left : profileReply identity (world.atTick tick) userId = .error error := here
  have right : profileReply identity ((({ world with profiles := table } : World)).atTick later) userId =
    .error otherError := there
  rw [outcome_getUser administrator, outcome_getUser administrator, left, right]
  exact fun same => differ (Except.error.inj same)

theorem telling_getUserActivity (userId : UUID) (page : Page) :
    ∃ other, Telling identity (.getUserActivity userId page) world other := by
  by_cases own : world.ownsProfile identity.companyId userId = true
  · obtain ⟨profile, found, company⟩ := World.ownsProfile_iff.mp own
    let entry := strangerEntry identity.companyId userId
    let table := world.audit.insert ⟨entry, fun _ => rfl⟩
    have same : table.rows.filter (world.ownsEntry identity.companyId) =
        world.audit.rows.filter (world.ownsEntry identity.companyId) := by
      simp [table, entry, World.ownsEntry, strangerEntry]
    refine ⟨{ world with audit := table }, parented, agreeFor_audit table same, ?_⟩
    intro tick later
    have here : profileReply identity (world.atTick tick) userId = .ok profile := by
      change (match world.profiles.find? userId with | none => _ | some profile => _) = _
      rw [found]
      exact if_pos company
    have there : profileReply identity ((({ world with audit := table } : World)).atTick later) userId =
        .ok profile := here
    rw [outcome_getUserActivity administrator, outcome_getUserActivity administrator, here, there]
    intro equal
    have total := congrArg PagedResult.totalRecords (AdministrationResponse.activity.inj (Except.ok.inj equal))
    have counted : (world.auditLogsOfActor userId).length =
        (World.auditLogsOfActor { world with audit := table } userId).length := total
    simp [World.auditLogsOfActor, table, entry, strangerEntry] at counted
  · obtain ⟨table, agree, toggled, unowned⟩ := exists_profile_toggled own
    obtain ⟨error, otherError, here, there, differ⟩ := profileReply_toggled own toggled unowned
    refine ⟨{ world with profiles := table }, parented, agree, ?_⟩
    intro tick later
    have left : profileReply identity (world.atTick tick) userId = .error error := here
    have right : profileReply identity ((({ world with profiles := table } : World)).atTick later) userId =
      .error otherError := there
    rw [outcome_getUserActivity administrator, outcome_getUserActivity administrator, left, right]
    exact fun same => differ (Except.error.inj same)

theorem telling_listRecentActivity {filter : AuditFilter} {page : Page} {entry : AuditLogRecord} {actorId : UUID}
    (member : entry ∈ (paginate (world.auditLogsListed identity.companyId filter) page).items)
    (actor : entry.actorId = some actorId) (foreign : ¬world.ownsProfile identity.companyId actorId = true) :
    ∃ other, Telling identity (.listRecentActivity filter page) world other := by
  obtain ⟨table, agree, toggled, -⟩ := exists_profile_toggled foreign
  refine ⟨{ world with profiles := table }, parented, agree, ?_⟩
  intro tick later
  rw [outcome_listRecentActivity administrator, outcome_listRecentActivity administrator]
  intro equal
  have items := congrArg PagedResult.items (AdministrationResponse.activity.inj (Except.ok.inj equal))
  have shown : feedItem world entry = feedItem { world with profiles := table } entry :=
    List.map_inj_left.mp items entry member
  have names := congrArg Api.AuditLogEntryOut.actorName shown
  have named : (world.profiles.find? actorId).map ProfileRecord.fullName =
      (table.find? actorId).map ProfileRecord.fullName := by
    simpa [feedItem, Api.AuditLogEntryOut.of, actor, nameOf] using names
  have found := congrArg Option.isSome named
  simp only [Option.isSome_map] at found
  exact toggled found.symm

theorem telling_listJobs (filter : JobFilter) (page : Page) :
    ∃ other, Telling identity (.listJobs filter page) world other := by
  let table := world.jobs.insert ⟨strangerJob filter, fun _ => rfl⟩
  have same : table.rows.filter (world.ownsJob identity.companyId) =
      world.jobs.rows.filter (world.ownsJob identity.companyId) := by
    simp [table, World.ownsJob, strangerJob]
  refine ⟨{ world with jobs := table }, parented, agreeFor_jobs table same, ?_⟩
  intro tick later
  rw [outcome_listJobs administrator, outcome_listJobs administrator]
  intro equal
  have total := congrArg PagedResult.totalRecords (AdministrationResponse.jobs.inj (Except.ok.inj equal))
  have counted : (world.jobsListed filter).length = (World.jobsListed { world with jobs := table } filter).length :=
    total
  simp [World.jobsListed, table, strangerJob_admitted] at counted

theorem telling_getJob {jobId : UUID}
    (foreign : ¬∃ job, world.jobs.find? jobId = some job ∧ world.ownsJob identity.companyId job = true) :
    ∃ other, Telling identity (.getJob jobId) world other := by
  let stranger := strangerJob { status := none, taskType := none, queueName := none, priority := none } jobId
  have unowned : ∀ job, world.jobs.find? jobId = some job → world.ownsJob identity.companyId job = false := by
    intro job found
    cases own : world.ownsJob identity.companyId job with
    | false => rfl
    | true => exact absurd ⟨job, found, own⟩ foreign
  obtain ⟨table, same, toggled, -⟩ := world.jobs.exists_toggled (world.ownsJob identity.companyId) stranger rfl unowned
  refine ⟨{ world with jobs := table }, parented, agreeFor_jobs table same, ?_⟩
  intro tick later
  rw [outcome_getJob administrator, outcome_getJob administrator]
  change (table.find? jobId).isSome ≠ (world.jobs.find? jobId).isSome at toggled
  change (match world.jobs.find? jobId with | some job => _ | none => _) ≠
    (match table.find? jobId with | some job => _ | none => _)
  cases here : world.jobs.find? jobId <;> cases there : table.find? jobId <;> simp_all

theorem exists_telling (read : AdministrationRead) (unconfined : ¬Confined identity world read) :
    ∃ other, Telling identity read world other := by
  cases read with
  | listUsers role department query page => exact absurd trivial unconfined
  | getUser userId => exact telling_getUser administrator parented unconfined
  | getUserActivity userId page => exact telling_getUserActivity administrator parented userId page
  | listRecentActivity filter page =>
      simp only [Confined, not_forall] at unconfined
      obtain ⟨entry, member, actorId, actor, foreign⟩ := unconfined
      exact telling_listRecentActivity administrator parented member actor foreign
  | getAgingRequests olderThanHours page => exact absurd trivial unconfined
  | listJobs filter page => exact telling_listJobs administrator parented filter page
  | listDeadLetterJobs taskType page => exact telling_listJobs administrator parented _ page
  | getJob jobId => exact telling_getJob administrator parented unconfined

end Strangers

section Sequences

variable {identity : AuthenticatedIdentity} {world other : World}

theorem confined_atTick (ticks : Nat) (read : AdministrationRead) :
    Confined identity (world.atTick ticks) read ↔ Confined identity world read := by
  cases read <;> exact Iff.rfl

theorem outcomes_differ {read : AdministrationRead} (telling : Telling identity read world other)
    {reads : List AdministrationRead} (member : read ∈ reads) (tick later : Nat) :
    outcomes identity reads (world.atTick tick) ≠ outcomes identity reads (other.atTick later) := by
  induction reads generalizing tick later with
  | nil => exact absurd member List.not_mem_nil
  | cons first rest recurse =>
      intro equal
      obtain ⟨heads, tails⟩ := List.cons.inj equal
      rcases List.mem_cons.mp member with same | member
      · subst same
        exact telling.2.2 tick later heads
      · obtain ⟨next, reached⟩ := run_reading (reading_program identity first) (world.atTick tick)
        obtain ⟨following, otherReached⟩ := run_reading (reading_program identity first) (other.atTick later)
        rw [reached, otherReached] at tails
        exact recurse member next following tails

theorem outcomes_eq_of_confined (administrator : identity.role = .admin) (parented : world.StagesParented)
    (otherParented : other.StagesParented) (agree : world.AgreeFor identity.companyId other)
    {reads : List AdministrationRead} (confined : ∀ read ∈ reads, Confined identity world read) :
    outcomes identity reads world = outcomes identity reads other := by
  induction reads generalizing world other with
  | nil => rfl
  | cons first rest recurse =>
      obtain ⟨same, after⟩ := paired_of_confined administrator agree parented otherParented
        (confined first List.mem_cons_self)
      obtain ⟨next, reached⟩ := run_reading (reading_program identity first) world
      obtain ⟨following, otherReached⟩ := run_reading (reading_program identity first) other
      rw [reached, otherReached] at after
      have remaining : ∀ read ∈ rest, Confined identity (world.atTick next) read := by
        intro read member
        exact (confined_atTick next read).mpr (confined read (List.mem_cons_of_mem _ member))
      have tails : outcomes identity rest (world.atTick next) = outcomes identity rest (other.atTick following) :=
        recurse parented otherParented after remaining
      rw [outcomes, outcomes, reached, otherReached, tails]
      exact congrArg (· :: _) same

/-- What an administrator reads is the same in all states that agree on the company's rows, exactly if each read is
confined to them. -/
theorem outcomes_eq_iff_confined (administrator : identity.role = .admin) (parented : world.StagesParented)
    (reads : List AdministrationRead) :
    (∀ other : World, other.StagesParented → world.AgreeFor identity.companyId other →
      outcomes identity reads world = outcomes identity reads other) ↔
        ∀ read ∈ reads, Confined identity world read := by
  constructor
  · intro equal read member
    by_contra unconfined
    obtain ⟨other, telling⟩ := exists_telling administrator parented read unconfined
    exact outcomes_differ telling member world.ticks other.ticks (equal other telling.1 telling.2.1)
  · intro confined other otherParented agree
    exact outcomes_eq_of_confined administrator parented otherParented agree confined

theorem outcomes_eq_iff_confined_sample : sampleHub.StagesParented ∧
    ((∀ other : World, other.StagesParented → sampleHub.AgreeFor sampleAdmin.companyId other →
      outcomes sampleAdmin [.listUsers (some .approver) none none .firstHundred, .getUser 2] sampleHub =
        outcomes sampleAdmin [.listUsers (some .approver) none none .firstHundred, .getUser 2] other) ↔
      ∀ read ∈ [.listUsers (some .approver) none none .firstHundred, .getUser 2],
        Confined sampleAdmin sampleHub read) := by
  have parented : sampleHub.StagesParented := fun _ member => absurd member List.not_mem_nil
  exact ⟨parented, outcomes_eq_iff_confined rfl parented _⟩

/-- The job that sends an invitation to another company. -/
def invitationJob (id : UUID) : JobRecord :=
  { id, taskType := "send_invitation_email", queueName := "default", priority := .normal, status := .deadLettered,
    payload := [("email", "ann@example.org"), ("company_name", "Rival"), ("token", "secret")], attempts := 3,
    maxAttempts := 3, lastError := some "mailbox unavailable", errorHistory := [], scheduledFor := none,
    startedAt := none, finishedAt := none, lockedBy := none, requestId := none, actorId := some 5, version := 1,
    createdAt := 0 }

/-- The sample hub with an administrator of another company, who invited someone. -/
def hubWithRival : World :=
  { sampleHub with
    profiles := sampleHub.profiles.insert rivalAdministrator,
    jobs := sampleHub.jobs.insert ⟨invitationJob, fun _ => rfl⟩ }

/-- The administrator of one company is shown the job of another. -/
theorem job_of_rival_listed :
    sampleHub.StagesParented ∧ hubWithRival.StagesParented ∧ sampleHub.AgreeFor sampleAdmin.companyId hubWithRival ∧
      ¬hubWithRival.ownsJob sampleAdmin.companyId (invitationJob 1) = true ∧
      outcomes sampleAdmin [.listDeadLetterJobs none .firstHundred] sampleHub ≠
        outcomes sampleAdmin [.listDeadLetterJobs none .firstHundred] hubWithRival := by
  refine ⟨fun _ member => absurd member List.not_mem_nil, fun _ member => absurd member List.not_mem_nil, ?_, ?_, ?_⟩
  · exact ⟨rfl, rfl, rfl, rfl⟩
  · decide
  · intro equal
    have listed : ∀ world : World, AdministrationRead.outcome sampleAdmin (.listDeadLetterJobs none .firstHundred) world =
        .ok (.jobs (Api.mapItems (paginate (world.jobsListed
          { status := some .deadLettered, taskType := none, queueName := none, priority := none }) .firstHundred)
          .of)) := fun _ => outcome_listJobs rfl _ _
    have heads := List.head_eq_of_cons_eq equal
    rw [listed, listed] at heads
    have total := congrArg PagedResult.totalRecords (AdministrationResponse.jobs.inj (Except.ok.inj heads))
    exact absurd total (by decide)

end Sequences

end AutomationHub.System
