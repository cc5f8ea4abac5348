import AutomationHub.Database.Tenancy
import AutomationHub.Services.SearchService
import AutomationHub.Services.ServiceRuns
import AutomationHub.System.Operations

/-!
What the search returns of requests that its caller could not open.
-/

set_option autoImplicit false

namespace AutomationHub.System

open Foundation Model Database Services Auth Program Table

/-- The request is of the caller's company, and `getRequest` returns it. -/
def Opens (identity : AuthenticatedIdentity) (world : World) (requestId : UUID) : Prop :=
  ∃ record, ((getRequest identity requestId).run environment world).1 = .ok record ∧
    record.companyId = identity.companyId

/-- A row of an entity type and of a request belongs to the caller: it is of a request that the caller can open or, for
an audit entry of no request, carries the caller's company.  The other types are not restricted to requests. -/
def RowBelongs (identity : AuthenticatedIdentity) (world : World) (entityType : EntityType) (id : UUID)
    (requestId : Option UUID) : Prop :=
  match entityType, requestId with
  | .request, some requestId | .approval, some requestId | .comment, some requestId | .attachment, some requestId
  | .auditEntry, some requestId => Opens identity world requestId
  | .auditEntry, none => ∃ entry, world.audit.find? id = some entry ∧ entry.companyId = some identity.companyId
  | .request, none | .approval, none | .comment, none | .attachment, none => False
  | .workflow, _ | .user, _ | .department, _ | .notification, _ => True

def Belongs (identity : AuthenticatedIdentity) (world : World) (item : SearchResultItem) : Prop :=
  RowBelongs identity world item.entityType item.id item.requestId

/-- On no page does the search return a result that does not belong to the caller. -/
def SearchIsolated (text : TextFunctions) (identity : AuthenticatedIdentity) (world : World) (queryText : String)
    (requested : Option (List String)) : Prop :=
  ∀ page result, ((search text identity queryText requested page).run environment world).1 = .ok result →
    ∀ item ∈ result.items, Belongs identity world item

/-- The first hundred rows of a listing. -/
def firstRows {α : Type} (rows : List α) : List α := rows.take 100

/-- The first hundred pending stages of the caller's queue. -/
def queueOf (identity : AuthenticatedIdentity) (world : World) : List WorkflowStageRecord :=
  firstRows (world.pendingForApprover identity.companyId (some identity.userId) (some identity.role))

def queuedRequestIds (identity : AuthenticatedIdentity) (world : World) : List UUID :=
  ((queueOf identity world).map WorkflowStageRecord.requestId).dedup

/-- The requests that `listRequests` shows on its first page. -/
def requestsShown (identity : AuthenticatedIdentity) (world : World) : List RequestRecord :=
  let filter : RequestFilter :=
    { status := none, requestType := none, department := none, requesterId := none, requestIds := none,
      includeDeleted := false }
  match identity.role with
  | .employee => firstRows (world.requestsListed identity.companyId { filter with requesterId := some identity.userId })
  | .approver =>
      firstRows (world.requestsListed identity.companyId
        { filter with requestIds := some (queuedRequestIds identity world) })
  | .admin => firstRows (world.requestsListed identity.companyId filter)

/-- The requests to which the caller's searches of comments, audit entries and attachments are restricted. -/
def searchScope (identity : AuthenticatedIdentity) (world : World) : Option (List UUID) :=
  if identity.role = .admin then none else some ((requestsShown identity world).map RequestRecord.id)

/-- The audit entries that the search selects. -/
def entriesFound (identity : AuthenticatedIdentity) (world : World) (queryText : String) : List AuditLogRecord :=
  firstRows (world.auditLogsFound queryText (searchScope identity world))

/-- The titles shown with stages of the queue. -/
def titlesOf (identity : AuthenticatedIdentity) (world : World) (requestIds : List UUID) : List (UUID × String) :=
  if requestIds.dedup.isEmpty then []
  else (firstRows (world.requestsListed identity.companyId
    { status := none, requestType := none, department := none, requesterId := none,
      requestIds := some requestIds.dedup, includeDeleted := false })).map fun request => (request.id, request.title)

/-- The stages of the queue that match the query well enough. -/
def stagesFound (text : TextFunctions) (identity : AuthenticatedIdentity) (world : World) (queryText : String) :
    List WorkflowStageRecord :=
  let titles := titlesOf identity world ((queueOf identity world).map WorkflowStageRecord.requestId)
  (queueOf identity world).filter fun stage =>
    minApprovalScore ≤ (approvalItem text queryText titles stage).score

/-- The requests of the matches among the rows that an approver is led to by the queue. -/
def requestIdsFound (text : TextFunctions) (identity : AuthenticatedIdentity) (world : World) (queryText : String) :
    EntityType → List UUID
  | .request => (firstRows (world.requestsFound queryText identity.companyId none
      (some (queuedRequestIds identity world)))).map RequestRecord.id
  | .approval => (stagesFound text identity world queryText).map WorkflowStageRecord.requestId
  | .comment => (firstRows (world.commentsFound (some identity.userId) queryText
      (searchScope identity world))).map CommentRecord.requestId
  | .auditEntry => (entriesFound identity world queryText).filterMap AuditLogRecord.requestId
  | .attachment => (firstRows (world.attachmentsFound (some identity.userId) queryText
      (searchScope identity world))).map AttachmentRecord.requestId
  | .workflow | .user | .department | .notification => []

/-- The request was made by the caller, or a stage of the caller is among its first hundred. -/
def Seated (identity : AuthenticatedIdentity) (world : World) (requestId : UUID) : Prop :=
  (∃ request, world.requests.find? requestId = some request ∧ request.requesterId = identity.userId) ∨
    ∃ stage ∈ firstRows (world.stagesOf requestId),
      stage.assignedTo = some identity.userId ∨ stage.assignedRole = some identity.role

/-- The audit entry is of the company's requests or, if it is of none, carries the company. -/
def EntryOwned (identity : AuthenticatedIdentity) (world : World) (entry : AuditLogRecord) : Prop :=
  match entry.requestId with
  | some requestId => world.ownsRequest identity.companyId requestId = true
  | none => entry.companyId = some identity.companyId

/-- When the search keeps to what its caller can open. -/
def SearchConfined (text : TextFunctions) (identity : AuthenticatedIdentity) (world : World) (queryText : String)
    (requested : Option (List String)) : Prop :=
  strip queryText = "" ∨
    match identity.role with
    | .employee => True
    | .approver => ∀ entityType, planned identity requested entityType = true →
        ∀ requestId ∈ requestIdsFound text identity world queryText entityType, Seated identity world requestId
    | .admin => planned identity requested .auditEntry = true →
        ∀ entry ∈ entriesFound identity world queryText, EntryOwned identity world entry

section Opening

variable {identity : AuthenticatedIdentity} {world : World}

/-- The session does not expire while the search runs. -/
def SessionValid (identity : AuthenticatedIdentity) (world : World) : Prop :=
  ∀ expiresAt, identity.expiresAt = some expiresAt → ∀ tick, isPast expiresAt (world.clock tick) = false

theorem reads_authorize (valid : SessionValid identity world) (permitted : Bool) (resource : String) :
    Reads world (authorize identity permitted resource)
      (if permitted then .ok () else .error (.ownershipRequired resource)) := by
  have fresh : Reads world (isExpired identity) false := by
    intro ticks
    unfold isExpired
    cases expiry : identity.expiresAt with
    | none => exact ⟨ticks, rfl⟩
    | some expiresAt =>
        have kept : isPast expiresAt (world.atTick ticks).now = false := valid expiresAt expiry ticks
        rw [run_bind, run_utcNow, continueRun_ok, kept]
        exact ⟨ticks + 1, rfl⟩
  apply reads_bind fresh
  cases permitted with
  | false => exact reads_done _
  | true => exact reads_done _

/-- What `isAssignedToAnyStage` finds. -/
def assignedToAny (identity : AuthenticatedIdentity) (world : World) (requestId : UUID) : Bool :=
  if identity.role ≠ .approver ∧ identity.role ≠ .admin then false
  else (firstRows (world.stagesOf requestId)).any fun stage =>
    stage.assignedTo == some identity.userId || stage.assignedRole == some identity.role

theorem reads_isAssignedToAnyStage (requestId : UUID) :
    Reads world (isAssignedToAnyStage requestId identity.userId identity.role)
      (assignedToAny identity world requestId) := by
  unfold isAssignedToAnyStage assignedToAny
  split
  · exact reads_done _
  · have listed : Reads world (orRaise (.listStagesForRequest requestId .firstHundred))
        (paginate (world.stagesOf requestId) .firstHundred) := reads_orRaise fun _ => rfl
    apply reads_bind listed
    have items : (paginate (world.stagesOf requestId) .firstHundred).items = firstRows (world.stagesOf requestId) :=
      slice_zero 100 _
    rw [items]
    exact reads_done _

theorem getRequest_found (valid : SessionValid identity world) {requestId : UUID} {record : RequestRecord}
    (found : world.requests.find? requestId = some record) (own : record.companyId = identity.companyId) :
    ((getRequest identity requestId).run environment world).1 =
      if canViewRequest identity.role (record.requesterId == identity.userId)
        (assignedToAny identity world requestId) then .ok record else .error (.notFound "request" requestId) := by
  have named : record.id = requestId := ((find?_eq_some_iff ..).mp found).2
  have fetched : Reads world (requestOfCompany identity requestId) record := by
    have reply : Reads world (orNotFound (.getRequest requestId) : Service RequestRecord) record := by
      apply reads_orNotFound
      intro ticks
      have unchanged : (world.atTick ticks).requests.find? requestId = some record := found
      simp only [World.execute, World.getRequest, getById, unchanged]
    apply reads_bind reply
    rw [if_neg (not_not.mpr own)]
    exact reads_done _
  have assigned : Reads world (isAssignedToAnyStage record.id identity.userId identity.role)
      (assignedToAny identity world requestId) := named ▸ reads_isAssignedToAnyStage record.id
  have decided := reads_authorize valid
    (canViewRequest identity.role (record.requesterId == identity.userId) (assignedToAny identity world requestId))
    "request"
  obtain ⟨first, fetchedRun⟩ := fetched world.ticks
  obtain ⟨second, assignedRun⟩ := assigned first
  obtain ⟨third, decidedRun⟩ := decided second
  change ((getRequest identity requestId).run environment (world.atTick world.ticks)).1 = _
  rw [getRequest, run_bind, fetchedRun, continueRun_ok, run_bind, assignedRun, continueRun_ok, run_bind,
    authorizeRequestView, decidedRun, continueRun_ok]
  cases permitted : canViewRequest identity.role (record.requesterId == identity.userId)
      (assignedToAny identity world requestId) with
  | false => simp
  | true => simp

theorem opens_iff (valid : SessionValid identity world) {requestId : UUID} : Opens identity world requestId ↔
    ∃ record, world.requests.find? requestId = some record ∧ record.companyId = identity.companyId ∧
      canViewRequest identity.role (record.requesterId == identity.userId)
        (assignedToAny identity world requestId) = true := by
  constructor
  · intro opens
    obtain ⟨returned, result, -⟩ := opens
    cases found : world.requests.find? requestId with
    | none =>
        have failed := congrArg Prod.fst (@run_requestOfCompany_missing _ identity _ found)
        rw [getRequest, run_bind_of_error failed] at result
        cases result
    | some record =>
        have fetched := @run_requestOfCompany _ identity _ _ found
        by_cases own : record.companyId = identity.companyId
        · rw [getRequest_found valid found own] at result
          split at result
          · exact ⟨record, rfl, own, ‹_›⟩
          · cases result
        · rw [if_neg own] at fetched
          rw [getRequest, run_bind_of_error (congrArg Prod.fst fetched)] at result
          cases result
  · intro viewable
    obtain ⟨record, found, own, permitted⟩ := viewable
    have returned := getRequest_found valid found own
    rw [if_pos permitted] at returned
    exact ⟨record, returned, own⟩

end Opening

section Searches

variable {text : TextFunctions} {identity : AuthenticatedIdentity} {world : World} {queryText : String}

theorem items_firstHundred {α : Type} (rows : List α) : (paginate rows .firstHundred).items = firstRows rows :=
  slice_zero 100 rows

theorem reads_visibleRequestIdsForApprover :
    Reads world (visibleRequestIdsForApprover identity) (queuedRequestIds identity world) := by
  have listed : Reads world (orRaise (.listPendingForApprover identity.companyId (some identity.userId)
      (some identity.role) .firstHundred))
      (paginate (world.pendingForApprover identity.companyId (some identity.userId) (some identity.role))
        .firstHundred) := reads_orRaise fun _ => rfl
  apply reads_bind listed
  rw [items_firstHundred]
  exact reads_done _

theorem requestsListed_of_no_ids (companyId : UUID) (filter : RequestFilter) (none_ : filter.requestIds = some []) :
    world.requestsListed companyId filter = [] := by
  simp [World.requestsListed, World.newestFirst, orderBy, RequestFilter.admits, none_]

theorem reads_listRequests : ∃ result, Reads world (listRequests identity none none none .firstHundred) result ∧
    result.items = requestsShown identity world := by
  unfold listRequests requestsShown
  cases identity.role with
  | employee => exact ⟨_, reads_orTranslate fun _ => rfl, items_firstHundred _⟩
  | approver =>
      by_cases idle : (queuedRequestIds identity world).isEmpty = true
      · refine ⟨{ items := [], page := 1, pageSize := 100, totalRecords := 0 },
          reads_bind reads_visibleRequestIdsForApprover ?_, ?_⟩
        · rw [if_pos idle]
          exact reads_done _
        · have nothing := List.isEmpty_iff.mp idle
          simp only [nothing, requestsListed_of_no_ids]
          rfl
      · refine ⟨paginate (world.requestsListed identity.companyId
            { status := none, requestType := none, department := none, requesterId := none,
              requestIds := some (queuedRequestIds identity world), includeDeleted := false }) .firstHundred,
          reads_bind reads_visibleRequestIdsForApprover ?_, items_firstHundred _⟩
        rw [if_neg idle]
        exact reads_orTranslate fun _ => rfl
  | admin => exact ⟨_, reads_orTranslate fun _ => rfl, items_firstHundred _⟩

theorem reads_visibleRequestIds : Reads world (visibleRequestIds identity) (searchScope identity world) := by
  unfold visibleRequestIds searchScope
  by_cases administrator : identity.role = .admin
  · rw [if_pos administrator, if_pos administrator]
    exact reads_done _
  · rw [if_neg administrator, if_neg administrator]
    obtain ⟨result, listed, items⟩ := @reads_listRequests identity world
    apply reads_bind listed
    rw [items]
    exact reads_done _

theorem reads_requestTitles (requestIds : List UUID) :
    Reads world (requestTitles identity requestIds) (titlesOf identity world requestIds) := by
  unfold requestTitles titlesOf
  by_cases nothing : requestIds.dedup.isEmpty = true
  · simp only [nothing, if_true]
    exact reads_done _
  · simp only [nothing]
    let filter : RequestFilter :=
      { status := none, requestType := none, department := none, requesterId := none,
        requestIds := some requestIds.dedup, includeDeleted := false }
    have listed : Reads world (orRaise (.listRequests identity.companyId filter .firstHundred))
        (paginate (world.requestsListed identity.companyId filter) .firstHundred) := reads_orRaise fun _ => rfl
    apply reads_bind listed
    rw [items_firstHundred]
    exact reads_done _

/-- The results are of the type, and of these rows and requests. -/
structure SearchReturns (entityType : EntityType) (keys : List (UUID × Option UUID)) (items : List SearchResultItem) :
    Prop where
  typed : ∀ item ∈ items, item.entityType = entityType
  keyed : (items.map fun item => (item.id, item.requestId)).Perm keys

theorem searchReturns_map {α : Type} {entityType : EntityType} (rows : List α) (present : α → SearchResultItem)
    (key : α → UUID × Option UUID) (typed : ∀ row, (present row).entityType = entityType)
    (keyed : ∀ row, ((present row).id, (present row).requestId) = key row) :
    SearchReturns entityType (rows.map key) (rows.map present) := by
  constructor
  · intro item member
    obtain ⟨row, -, rfl⟩ := List.mem_map.mp member
    exact typed row
  · rw [List.map_map]
    exact List.Perm.of_eq (List.map_congr_left fun row _ => keyed row)

/-- The requests that the search selects. -/
def requestsMatched (identity : AuthenticatedIdentity) (world : World) (queryText : String) : List RequestRecord :=
  match identity.role with
  | .employee => firstRows (world.requestsFound queryText identity.companyId (some identity.userId) none)
  | .approver =>
      firstRows (world.requestsFound queryText identity.companyId none (some (queuedRequestIds identity world)))
  | .admin => firstRows (world.requestsFound queryText identity.companyId none none)

/-- The rows and requests of the results of a search. -/
def keysFound (text : TextFunctions) (identity : AuthenticatedIdentity) (world : World) (queryText : String) :
    EntityType → List (UUID × Option UUID)
  | .request => (requestsMatched identity world queryText).map fun request => (request.id, some request.id)
  | .approval =>
      if identity.role = .employee then []
      else (stagesFound text identity world queryText).map fun stage => (stage.id, some stage.requestId)
  | .comment => (firstRows (world.commentsFound (some identity.userId) queryText (searchScope identity world))).map
      fun comment => (comment.id, some comment.requestId)
  | .auditEntry => (entriesFound identity world queryText).map fun entry => (entry.id, entry.requestId)
  | .attachment => (firstRows (world.attachmentsFound (some identity.userId) queryText
      (searchScope identity world))).map fun attachment => (attachment.id, some attachment.requestId)
  | .workflow | .user | .department | .notification => []

theorem searched_ok {α : Type} (nonblank : strip queryText ≠ "") (method : String) (rows : List α) (page : Page) :
    World.searched method queryText rows page = .ok (paginate rows page) :=
  if_neg nonblank

theorem reads_searchRequestItems (nonblank : strip queryText ≠ "") : ∃ items,
    Reads world (searchRequestItems text identity queryText) items ∧
      SearchReturns .request (keysFound text identity world queryText .request) items := by
  have matched : ∃ result, Reads world (searchRequests identity queryText .firstHundred) result ∧
      result.items = requestsMatched identity world queryText := by
    have replied : ∀ requesterId requestIds, Reads world
        (orTranslate (.searchRequests queryText identity.companyId requesterId requestIds .firstHundred))
        (paginate (world.requestsFound queryText identity.companyId requesterId requestIds) .firstHundred) := by
      intro requesterId requestIds
      apply reads_orTranslate
      intro ticks
      exact congrArg (·, world.atTick ticks) (searched_ok nonblank _ _ _)
    unfold searchRequests requestsMatched
    cases identity.role with
    | employee => exact ⟨_, replied _ _, items_firstHundred _⟩
    | approver =>
        by_cases idle : (queuedRequestIds identity world).isEmpty = true
        · refine ⟨{ items := [], page := 1, pageSize := 100, totalRecords := 0 },
            reads_bind reads_visibleRequestIdsForApprover ?_, ?_⟩
          · rw [if_pos idle]
            exact reads_done _
          · have nothing := List.isEmpty_iff.mp idle
            simp [nothing, World.requestsFound, World.newestFirst, orderBy, firstRows]
        · refine ⟨paginate (world.requestsFound queryText identity.companyId none
              (some (queuedRequestIds identity world))) .firstHundred,
            reads_bind reads_visibleRequestIdsForApprover ?_, items_firstHundred _⟩
          rw [if_neg idle]
          exact replied _ _
    | admin => exact ⟨_, replied _ _, items_firstHundred _⟩
  obtain ⟨result, returned, items⟩ := matched
  refine ⟨_, reads_bind returned (reads_done _), ?_⟩
  rw [items]
  exact searchReturns_map _ _ _ (fun _ => rfl) fun _ => rfl

theorem reads_searchApprovals : ∃ items, Reads world (searchApprovals text identity queryText) items ∧
    SearchReturns .approval (keysFound text identity world queryText .approval) items := by
  by_cases excluded : identity.role ≠ .approver ∧ identity.role ≠ .admin
  · have employee : identity.role = .employee := by
      cases role : identity.role <;> simp_all
    refine ⟨[], ?_, ?_⟩
    · rw [searchApprovals, if_pos excluded]
      exact reads_done _
    · simp only [keysFound, employee, if_true]
      exact ⟨fun item member => absurd member List.not_mem_nil, List.Perm.refl []⟩
  · have decider : identity.role ≠ .employee := by
      intro employee
      exact excluded (by simp [employee])
    have listed : Reads world (listPendingApprovals identity .firstHundred)
        (paginate (world.pendingForApprover identity.companyId (some identity.userId) (some identity.role))
          .firstHundred) := by
      rw [listPendingApprovals, if_neg excluded]
      exact reads_orTranslate fun _ => rfl
    have queue : (paginate (world.pendingForApprover identity.companyId (some identity.userId) (some identity.role))
        .firstHundred).items = queueOf identity world := items_firstHundred _
    by_cases idle : (queueOf identity world).isEmpty = true
    · refine ⟨[], ?_, ?_⟩
      · rw [searchApprovals, if_neg excluded]
        apply reads_bind listed
        rw [queue, if_pos idle]
        exact reads_done _
      · have nothing := List.isEmpty_iff.mp idle
        simp only [keysFound, if_neg decider, stagesFound, nothing]
        exact ⟨fun item member => absurd member List.not_mem_nil, List.Perm.refl []⟩
    · let titles := titlesOf identity world ((queueOf identity world).map WorkflowStageRecord.requestId)
      let scored := ((queueOf identity world).map (approvalItem text queryText titles)).filter fun item =>
        minApprovalScore ≤ item.score
      refine ⟨(byScore scored).take maxPageSize, ?_, ?_⟩
      · rw [searchApprovals, if_neg excluded]
        apply reads_bind listed
        rw [queue, if_neg idle]
        apply reads_bind (reads_requestTitles _)
        exact reads_done _
      · have bounded : (byScore scored).length ≤ maxPageSize := by
          rw [byScore, length_orderBy]
          have fewer : scored.length ≤ (queueOf identity world).length :=
            (List.length_filter_le _ _).trans (List.length_map _).le
          exact fewer.trans (List.length_take_le 100 _)
        rw [List.take_of_length_le bounded]
        have found : scored = (stagesFound text identity world queryText).map (approvalItem text queryText titles) :=
          List.filter_map ..
        simp only [keysFound, if_neg decider]
        have mapped := @searchReturns_map _ .approval (stagesFound text identity world queryText)
          (approvalItem text queryText titles) (fun stage => (stage.id, some stage.requestId)) (fun _ => rfl) fun _ => rfl
        rw [← found] at mapped
        constructor
        · intro item member
          exact mapped.typed item (mem_orderBy.mp member)
        · exact ((List.perm_insertionSort _ scored).map _).trans mapped.keyed

theorem reads_searchComments (nonblank : strip queryText ≠ "") : ∃ items,
    Reads world (searchComments text identity queryText) items ∧
      SearchReturns .comment (keysFound text identity world queryText .comment) items := by
  let rows := firstRows (world.commentsFound (some identity.userId) queryText (searchScope identity world))
  by_cases nothing : searchScope identity world = some []
  · refine ⟨[], ?_, ?_⟩
    · apply reads_bind reads_visibleRequestIds
      rw [if_pos nothing]
      exact reads_done _
    · simp only [keysFound, nothing]
      simp [World.commentsFound, World.newestFirst, orderBy, firstRows]
      exact ⟨fun item member => absurd member List.not_mem_nil, List.Perm.refl []⟩
  · have replied : Reads world (orTranslate (.searchComments (some identity.userId) queryText
        (searchScope identity world) .firstHundred))
        (paginate (world.commentsFound (some identity.userId) queryText (searchScope identity world))
          .firstHundred) := by
      apply reads_orTranslate
      intro ticks
      exact congrArg (·, world.atTick ticks) (searched_ok nonblank _ _ _)
    refine ⟨rows.map (commentItem text queryText (titlesOf identity world (rows.map CommentRecord.requestId))), ?_, ?_⟩
    · apply reads_bind reads_visibleRequestIds
      rw [if_neg nothing]
      apply reads_bind replied
      rw [items_firstHundred]
      apply reads_bind (reads_requestTitles _)
      exact reads_done _
    · exact searchReturns_map _ _ _ (fun _ => rfl) fun _ => rfl

theorem reads_searchAttachments (nonblank : strip queryText ≠ "") : ∃ items,
    Reads world (searchAttachments text identity queryText) items ∧
      SearchReturns .attachment (keysFound text identity world queryText .attachment) items := by
  let rows := firstRows (world.attachmentsFound (some identity.userId) queryText (searchScope identity world))
  by_cases nothing : searchScope identity world = some []
  · refine ⟨[], ?_, ?_⟩
    · apply reads_bind reads_visibleRequestIds
      rw [if_pos nothing]
      exact reads_done _
    · simp only [keysFound, nothing]
      simp [World.attachmentsFound, World.newestFirst, orderBy, firstRows]
      exact ⟨fun item member => absurd member List.not_mem_nil, List.Perm.refl []⟩
  · have replied : Reads world (orTranslate (.searchAttachments (some identity.userId) queryText
        (searchScope identity world) .firstHundred))
        (paginate (world.attachmentsFound (some identity.userId) queryText (searchScope identity world))
          .firstHundred) := by
      apply reads_orTranslate
      intro ticks
      exact congrArg (·, world.atTick ticks) (searched_ok nonblank _ _ _)
    refine ⟨rows.map (attachmentItem text queryText), ?_, ?_⟩
    · apply reads_bind reads_visibleRequestIds
      rw [if_neg nothing]
      apply reads_bind replied
      rw [items_firstHundred]
      exact reads_done _
    · exact searchReturns_map _ _ _ (fun _ => rfl) fun _ => rfl

theorem reads_resolveName (names : NameCache) (profileId : Option UUID) :
    ∃ reply, Reads world (resolveName names profileId) reply := by
  cases profileId with
  | none => exact ⟨(names, none), reads_done _⟩
  | some profileId =>
      unfold resolveName
      dsimp only
      cases names.lookup profileId with
      | some name => exact ⟨(names, name), reads_done _⟩
      | none =>
          have replied : Reads world (attempt (.getProfile profileId)) (getById "profiles" world.profiles profileId) :=
            reads_attempt fun _ => rfl
          cases found : world.profiles.find? profileId with
          | none =>
              rw [getById, found] at replied
              exact ⟨((profileId, none) :: names, none), reads_bind replied (reads_done _)⟩
          | some profile =>
              rw [getById, found] at replied
              exact ⟨((profileId, some profile.fullName) :: names, some profile.fullName),
                reads_bind replied (reads_done _)⟩

theorem reads_auditItems (titles : List (UUID × String)) (names : NameCache) (entries : List AuditLogRecord) :
    ∃ items, Reads world (auditItems text queryText titles names entries) items ∧
      SearchReturns .auditEntry (entries.map fun entry => (entry.id, entry.requestId)) items := by
  induction entries generalizing names with
  | nil => exact ⟨[], reads_done _, fun item member => absurd member List.not_mem_nil, List.Perm.refl []⟩
  | cons entry rest recurse =>
      obtain ⟨reply, resolved⟩ := @reads_resolveName world names entry.actorId
      obtain ⟨items, read, returns⟩ := recurse reply.1
      refine ⟨auditItem text queryText titles reply.2 entry :: items, ?_, ?_, ?_⟩
      · exact reads_bind resolved (reads_bind read (reads_done _))
      · intro item member
        rcases List.mem_cons.mp member with same | member
        · subst same
          rfl
        · exact returns.typed item member
      · exact returns.keyed.cons _

theorem reads_searchAuditEntries (nonblank : strip queryText ≠ "") : ∃ items,
    Reads world (searchAuditEntries text identity queryText) items ∧
      SearchReturns .auditEntry (keysFound text identity world queryText .auditEntry) items := by
  by_cases nothing : searchScope identity world = some []
  · refine ⟨[], ?_, ?_⟩
    · apply reads_bind reads_visibleRequestIds
      rw [if_pos nothing]
      exact reads_done _
    · have none_ : entriesFound identity world queryText = [] := by
        have excluded : ∀ requestId : Option UUID, requestId.any ([] : List UUID).contains = false := by
          intro requestId
          cases requestId <;> rfl
        rw [entriesFound, nothing]
        simp [World.auditLogsFound, World.newestFirst, orderBy, firstRows, excluded]
      simp only [keysFound, none_]
      exact ⟨fun item member => absurd member List.not_mem_nil, List.Perm.refl []⟩
  · have replied : Reads world (orTranslate (.searchAuditLogs queryText (searchScope identity world) .firstHundred))
        (paginate (world.auditLogsFound queryText (searchScope identity world)) .firstHundred) := by
      apply reads_orTranslate
      intro ticks
      exact congrArg (·, world.atTick ticks) (searched_ok nonblank _ _ _)
    let titles := titlesOf identity world ((entriesFound identity world queryText).filterMap AuditLogRecord.requestId)
    obtain ⟨items, read, returns⟩ := @reads_auditItems text world queryText titles []
      (entriesFound identity world queryText)
    refine ⟨items, ?_, returns⟩
    apply reads_bind reads_visibleRequestIds
    rw [if_neg nothing]
    apply reads_bind replied
    rw [items_firstHundred]
    exact reads_bind (reads_requestTitles _) read

theorem reads_profilesFrom (role : UserRole) (companyId : UUID) (remaining index : Nat) :
    ∃ profiles, Reads world (profilesFrom role companyId remaining index) profiles := by
  induction remaining generalizing index with
  | zero => exact ⟨[], reads_done _⟩
  | succ remaining recurse =>
      let page : Page :=
        { number := index + 1, size := 100, number_pos := Nat.succ_pos index, size_pos := one_le_hundred,
          size_le := hundred_le_maxPageSize }
      let result := paginate (world.profilesByRole role companyId none) page
      have listed : Reads world (orRaise (.listProfilesByRole role companyId none page)) result :=
        reads_orRaise fun _ => rfl
      by_cases last : result.totalRecords ≤ (index + 1) * 100 ∨ result.items.isEmpty = true
      · refine ⟨result.items, reads_bind listed ?_⟩
        rw [if_pos last]
        exact reads_done _
      · obtain ⟨later, read⟩ := recurse (index + 1)
        refine ⟨result.items ++ later, reads_bind listed ?_⟩
        rw [if_neg last]
        exact reads_bind read (reads_done _)

theorem reads_fetchAllProfiles (companyId : UUID) : ∃ profiles, Reads world (fetchAllProfiles companyId) profiles := by
  have each : ∀ role, ∃ profiles, Reads world (fetchAllProfiles.allOf companyId role) profiles := by
    intro role
    let first := paginate (world.profilesByRole role companyId none) .firstHundred
    have listed : Reads world (orRaise (.listProfilesByRole role companyId none .firstHundred)) first :=
      reads_orRaise fun _ => rfl
    by_cases last : first.totalRecords ≤ 100 ∨ first.items.isEmpty = true
    · refine ⟨first.items, reads_bind listed ?_⟩
      rw [if_pos last]
      exact reads_done _
    · obtain ⟨later, read⟩ := @reads_profilesFrom world role companyId first.totalPages 1
      refine ⟨first.items ++ later, reads_bind listed ?_⟩
      rw [if_neg last]
      exact reads_bind read (reads_done _)
  obtain ⟨employees, first⟩ := each .employee
  obtain ⟨approvers, second⟩ := each .approver
  obtain ⟨admins, third⟩ := each .admin
  exact ⟨employees ++ approvers ++ admins, reads_bind first (reads_bind second (reads_bind third (reads_done _)))⟩

theorem reads_searchDepartments : ∃ items, Reads world (searchDepartments text identity queryText) items ∧
    ∀ item ∈ items, item.entityType = .department := by
  obtain ⟨profiles, fetched⟩ := @reads_fetchAllProfiles world identity.companyId
  refine ⟨_, reads_bind fetched (reads_done _), ?_⟩
  intro item member
  have scored := mem_orderBy.mp (List.mem_of_mem_take member)
  obtain ⟨department, -, rfl⟩ := List.mem_map.mp (List.mem_filter.mp scored).1
  rfl

/-- Each search returns results of its type and, for the types that belong to requests, of the rows found. -/
theorem reads_searchOf (nonblank : strip queryText ≠ "") (entityType : EntityType) : ∃ items,
    Reads world (searchOf text identity queryText entityType) items ∧
      (∀ item ∈ items, item.entityType = entityType) ∧
      (entityType ∉ [.workflow, .user, .department, .notification] →
        SearchReturns entityType (keysFound text identity world queryText entityType) items) := by
  have keyed : ∀ {entityType items} {program : Service (List SearchResultItem)}, Reads world program items →
      SearchReturns entityType (keysFound text identity world queryText entityType) items →
      ∃ items, Reads world program items ∧ (∀ item ∈ items, item.entityType = entityType) ∧
        (entityType ∉ [.workflow, .user, .department, .notification] →
          SearchReturns entityType (keysFound text identity world queryText entityType) items) :=
    fun read returns => ⟨_, read, returns.typed, fun _ => returns⟩
  have listed : ∀ {α : Type} {rows : List α} {present : α → SearchResultItem} {entityType : EntityType},
      (∀ row, (present row).entityType = entityType) → ∀ item ∈ rows.map present, item.entityType = entityType := by
    intro α rows present entityType typed item member
    obtain ⟨row, -, rfl⟩ := List.mem_map.mp member
    exact typed row
  cases entityType with
  | request =>
      obtain ⟨items, read, returns⟩ := @reads_searchRequestItems text identity world queryText nonblank
      exact keyed read returns
  | approval =>
      obtain ⟨items, read, returns⟩ := @reads_searchApprovals text identity world queryText
      exact keyed read returns
  | comment =>
      obtain ⟨items, read, returns⟩ := @reads_searchComments text identity world queryText nonblank
      exact keyed read returns
  | auditEntry =>
      obtain ⟨items, read, returns⟩ := @reads_searchAuditEntries text identity world queryText nonblank
      exact keyed read returns
  | attachment =>
      obtain ⟨items, read, returns⟩ := @reads_searchAttachments text identity world queryText nonblank
      exact keyed read returns
  | department =>
      obtain ⟨items, read, typed⟩ := @reads_searchDepartments text identity world queryText
      exact ⟨items, read, typed, fun excluded => absurd (by decide) excluded⟩
  | workflow =>
      let isActive := if identity.role = .admin then none else some true
      have replied : Reads world (searchDefinitions (some identity.userId) identity queryText .firstHundred)
          (paginate (world.definitionsFound (some identity.userId) queryText identity.companyId isActive)
            .firstHundred) := by
        apply reads_orTranslate
        intro ticks
        exact congrArg (·, world.atTick ticks) (searched_ok nonblank _ _ _)
      exact ⟨_, reads_bind replied (reads_done _), listed fun _ => rfl, fun excluded => absurd (by decide) excluded⟩
  | user =>
      have replied : Reads world (orTranslate (.searchProfilesByName queryText identity.companyId .firstHundred))
          (paginate (world.profilesNamed queryText identity.companyId) .firstHundred) := by
        apply reads_orTranslate
        intro ticks
        exact congrArg (·, world.atTick ticks) (searched_ok nonblank _ _ _)
      exact ⟨_, reads_bind replied (reads_done _), listed fun _ => rfl, fun excluded => absurd (by decide) excluded⟩
  | notification =>
      have replied : Reads world
          (orTranslate (.searchNotificationsForRecipient queryText identity.userId .firstHundred))
          (paginate (world.notificationsFound queryText identity.userId) .firstHundred) :=
        reads_orTranslate fun _ => rfl
      exact ⟨_, reads_bind replied (reads_done _), listed fun _ => rfl, fun excluded => absurd (by decide) excluded⟩

end Searches

section Isolation

variable {text : TextFunctions} {identity : AuthenticatedIdentity} {world : World} {queryText : String}
  {requested : Option (List String)}

theorem reads_searchAll {items : EntityType → List SearchResultItem}
    (read : ∀ entityType, Reads world (searchOf text identity queryText entityType) (items entityType))
    (types : List EntityType) : Reads world (searchAll text identity queryText types) (types.flatMap items) := by
  induction types with
  | nil => exact reads_done _
  | cons entityType rest recurse => exact reads_bind (read entityType) (reads_bind recurse (reads_done _))

theorem mem_entityTypes (entityType : EntityType) : entityType ∈ entityTypes := by
  cases entityType <;> decide

theorem exists_page {α : Type} {rows : List α} {row : α} (member : row ∈ rows) :
    ∃ page : Page, row ∈ (paginate rows page).items := by
  rw [← flatten_pages (show 0 < 100 by decide) rows] at member
  obtain ⟨page, listed, present⟩ := List.mem_flatten.mp member
  obtain ⟨index, -, rfl⟩ := List.mem_map.mp listed
  exact ⟨{ number := index + 1, size := 100, number_pos := Nat.succ_pos index, size_pos := one_le_hundred,
           size_le := hundred_le_maxPageSize }, present⟩

/-- The search is isolated exactly if all rows found, by the searches it makes, belong to the caller. -/
theorem searchIsolated_iff (nonblank : strip queryText ≠ "") :
    SearchIsolated text identity world queryText requested ↔
      ∀ entityType, planned identity requested entityType = true →
        ∀ key ∈ keysFound text identity world queryText entityType, RowBelongs identity world entityType key.1 key.2 := by
  choose items read typed returns using fun entityType => @reads_searchOf text identity world queryText nonblank entityType
  let types := entityTypes.filter (planned identity requested)
  let results := ranked (types.flatMap items)
  have searched : ∀ page, Reads world (search text identity queryText requested page) (paginate results page) := by
    intro page
    rw [search, if_neg nonblank]
    exact reads_bind (reads_searchAll read types) (reads_done _)
  have found : ∀ item, item ∈ results ↔ ∃ entityType, planned identity requested entityType = true ∧
      item ∈ items entityType := by
    intro item
    simp only [results, ranked, mem_orderBy, List.mem_flatMap, types, List.mem_filter, mem_entityTypes, true_and]
  have unrestricted : ∀ entityType item, entityType ∈ [EntityType.workflow, .user, .department, .notification] →
      item ∈ items entityType → Belongs identity world item := by
    intro entityType item free member
    have same := typed entityType item member
    rw [Belongs, same]
    cases entityType <;> trivial
  constructor
  · intro isolated entityType wanted key member
    by_cases free : entityType ∈ [EntityType.workflow, .user, .department, .notification]
    · cases entityType <;> trivial
    · obtain ⟨item, present, keyed⟩ := List.mem_map.mp ((returns entityType free).keyed.mem_iff.mpr member)
      obtain ⟨page, shown⟩ := exists_page ((found item).mpr ⟨entityType, wanted, present⟩)
      have belongs := isolated page _ (searched page).run item shown
      rw [Belongs, typed entityType item present] at belongs
      rw [← keyed]
      exact belongs
  · intro owned page result returned item shown
    rw [(searched page).run] at returned
    obtain rfl := Except.ok.inj returned
    obtain ⟨entityType, wanted, present⟩ := (found item).mp (List.mem_of_mem_drop (List.mem_of_mem_take shown))
    by_cases free : entityType ∈ [EntityType.workflow, .user, .department, .notification]
    · exact unrestricted entityType item free present
    · have key : (item.id, item.requestId) ∈ keysFound text identity world queryText entityType :=
        (returns entityType free).keyed.mem_iff.mp (List.mem_map.mpr ⟨item, present, rfl⟩)
      rw [Belongs, typed entityType item present]
      exact owned entityType wanted _ key

/-- Each stage is of the company of its request. -/
def StagesOfCompany (world : World) : Prop :=
  ∀ stage ∈ world.stages.rows, world.ownsRequest stage.companyId stage.requestId = true

/-- The caller's profile, if there is one, is of the company that the session names. -/
def ProfileOfCompany (identity : AuthenticatedIdentity) (world : World) : Prop :=
  ∀ profile, world.profiles.find? identity.userId = some profile → profile.companyId = identity.companyId

theorem ownsRequest_iff {companyId requestId : UUID} : world.ownsRequest companyId requestId = true ↔
    ∃ request, world.requests.find? requestId = some request ∧ request.companyId = companyId := by
  simp only [World.ownsRequest, List.any_eq_true, Bool.and_eq_true, beq_iff_eq, find?_eq_some_iff]
  constructor
  · intro owned
    obtain ⟨request, member, company, named⟩ := owned
    exact ⟨request, ⟨member, named⟩, company⟩
  · intro found
    obtain ⟨request, ⟨member, named⟩, company⟩ := found
    exact ⟨request, member, company, named⟩

theorem opens_of_administrator (valid : SessionValid identity world) (administrator : identity.role = .admin)
    {requestId : UUID} : Opens identity world requestId ↔ world.ownsRequest identity.companyId requestId = true := by
  rw [opens_iff valid, ownsRequest_iff]
  simp [canViewRequest, administrator]

theorem opens_of_requester (valid : SessionValid identity world) {requestId : UUID} {request : RequestRecord}
    (found : world.requests.find? requestId = some request) (own : request.companyId = identity.companyId)
    (made : request.requesterId = identity.userId) : Opens identity world requestId := by
  apply (opens_iff valid).mpr
  refine ⟨request, found, own, ?_⟩
  unfold canViewRequest
  split <;> simp [made]

theorem opens_iff_seated (valid : SessionValid identity world) (approver : identity.role = .approver)
    {requestId : UUID} (own : world.ownsRequest identity.companyId requestId = true) :
    Opens identity world requestId ↔ Seated identity world requestId := by
  obtain ⟨request, found, company⟩ := ownsRequest_iff.mp own
  have only : ∀ other, world.requests.find? requestId = some other → other = request := by
    intro other reached
    exact Option.some.inj (reached.symm.trans found)
  have assigned : assignedToAny identity world requestId = true ↔ ∃ stage ∈ firstRows (world.stagesOf requestId),
      stage.assignedTo = some identity.userId ∨ stage.assignedRole = some identity.role := by
    simp [assignedToAny, approver]
  rw [opens_iff valid, Seated, ← assigned]
  constructor
  · intro opens
    obtain ⟨other, reached, -, permitted⟩ := opens
    rw [only other reached] at permitted
    simp only [canViewRequest, approver, reduceCtorEq, if_false, Bool.or_eq_true, beq_iff_eq] at permitted
    rcases permitted with made | seated
    · exact .inl ⟨request, found, made⟩
    · exact .inr seated
  · intro seated
    refine ⟨request, found, company, ?_⟩
    simp only [canViewRequest, approver, reduceCtorEq, if_false, Bool.or_eq_true, beq_iff_eq]
    rcases seated with made | seated
    · obtain ⟨other, reached, made⟩ := made
      exact .inl (only other reached ▸ made)
    · exact .inr seated

theorem requestsListed_mem {companyId : UUID} {filter : RequestFilter} {request : RequestRecord}
    (member : request ∈ firstRows (world.requestsListed companyId filter)) :
    world.requests.find? request.id = some request ∧ request.companyId = companyId ∧ filter.admits request = true := by
  obtain ⟨present, selected⟩ := List.mem_filter.mp (World.mem_newestFirst.mp (List.mem_of_mem_take member))
  simp only [Bool.and_eq_true, beq_iff_eq] at selected
  exact ⟨find?_of_mem _ present, selected.1, selected.2⟩

theorem requestsFound_mem {companyId : UUID} {requesterId : Option UUID} {requestIds : Option (List UUID)}
    {request : RequestRecord}
    (member : request ∈ firstRows (world.requestsFound queryText companyId requesterId requestIds)) :
    world.requests.find? request.id = some request ∧ request.companyId = companyId ∧
      requesterId.all (fun requester => request.requesterId == requester) = true := by
  obtain ⟨present, selected⟩ := List.mem_filter.mp (World.mem_newestFirst.mp (List.mem_of_mem_take member))
  simp only [Bool.and_eq_true, beq_iff_eq] at selected
  exact ⟨find?_of_mem _ present, selected.1.1.1.1, selected.1.1.2⟩

theorem scope_mem {scope : List UUID} (limited : searchScope identity world = some scope) {requestId : UUID}
    (member : requestId ∈ scope) : ∃ request, world.requests.find? requestId = some request ∧
      request.companyId = identity.companyId ∧ (identity.role = .employee → request.requesterId = identity.userId) := by
  unfold searchScope at limited
  split at limited
  · cases limited
  · obtain rfl := Option.some.inj limited
    obtain ⟨request, shown, rfl⟩ := List.mem_map.mp member
    unfold requestsShown at shown
    cases role : identity.role with
    | employee =>
        rw [role] at shown
        obtain ⟨found, company, admitted⟩ := requestsListed_mem shown
        simp [RequestFilter.admits] at admitted
        exact ⟨request, found, company, fun _ => admitted.1⟩
    | approver =>
        rw [role] at shown
        obtain ⟨found, company, -⟩ := requestsListed_mem shown
        exact ⟨request, found, company, fun employee => by cases employee⟩
    | admin =>
        rw [role] at shown
        obtain ⟨found, company, -⟩ := requestsListed_mem shown
        exact ⟨request, found, company, fun employee => by cases employee⟩

theorem keysFound_scoped {scope : List UUID} (limited : searchScope identity world = some scope) :
    (∀ comment ∈ firstRows (world.commentsFound (some identity.userId) queryText (searchScope identity world)),
      comment.requestId ∈ scope) ∧
    (∀ attachment ∈ firstRows (world.attachmentsFound (some identity.userId) queryText (searchScope identity world)),
      attachment.requestId ∈ scope) ∧
    ∀ entry ∈ entriesFound identity world queryText, ∃ requestId ∈ scope, entry.requestId = some requestId := by
  rw [entriesFound, limited]
  refine ⟨?_, ?_, ?_⟩
  · intro comment member
    have selected := (List.mem_filter.mp (World.mem_newestFirst.mp (List.mem_of_mem_take member))).2
    simp only [Bool.and_eq_true, Option.all_some, List.contains_iff_mem] at selected
    exact selected.1.2
  · intro attachment member
    have selected := (List.mem_filter.mp (World.mem_newestFirst.mp (List.mem_of_mem_take member))).2
    simp only [Bool.and_eq_true, Option.all_some, List.contains_iff_mem] at selected
    exact selected.1.2
  · intro entry member
    have selected := (List.mem_filter.mp (World.mem_newestFirst.mp (List.mem_of_mem_take member))).2
    simp only [Bool.and_eq_true, Option.all_some, Option.any_eq_true, List.contains_iff_mem] at selected
    obtain ⟨-, requestId, named, listed⟩ := selected
    exact ⟨requestId, listed, named⟩

theorem stagesFound_mem {stage : WorkflowStageRecord} (member : stage ∈ stagesFound text identity world queryText) :
    stage ∈ world.stages.rows ∧ stage.companyId = identity.companyId := by
  have queued := List.mem_of_mem_take (List.mem_filter.mp member).1
  obtain ⟨present, selected⟩ := List.mem_filter.mp (mem_orderBy.mp queued)
  simp only [Bool.and_eq_true, beq_iff_eq] at selected
  exact ⟨present, selected.1.1⟩

theorem ownsRequest_of_parentVisible (authentic : ProfileOfCompany identity world) {requestId : UUID}
    (visible : world.parentVisible (some identity.userId) requestId = true) :
    world.ownsRequest identity.companyId requestId = true := by
  unfold World.parentVisible at visible
  dsimp only at visible
  cases found : world.profiles.find? identity.userId with
  | none => simp [found] at visible
  | some profile =>
      rw [found] at visible
      obtain ⟨request, member, shown⟩ := List.any_eq_true.mp visible
      simp only [Bool.and_eq_true, beq_iff_eq] at shown
      have company : request.companyId = identity.companyId := shown.1.2.trans (authentic profile found)
      exact ownsRequest_iff.mpr ⟨request, (find?_eq_some_iff ..).mpr ⟨member, shown.1.1⟩, company⟩

/-- Apart from the audit entries of administrators, the rows found are of the company's requests. -/
theorem keysFound_owned (authentic : ProfileOfCompany identity world) (consistent : StagesOfCompany world)
    {entityType : EntityType} (restricted : identity.role = .admin → entityType ≠ .auditEntry) :
    ∀ key ∈ keysFound text identity world queryText entityType,
      ∃ requestId, key.2 = some requestId ∧ world.ownsRequest identity.companyId requestId = true := by
  intro key member
  have commented : ∀ requestId, world.parentVisible (some identity.userId) requestId = true →
      world.ownsRequest identity.companyId requestId = true := fun _ => ownsRequest_of_parentVisible authentic
  cases entityType with
  | request =>
      obtain ⟨request, matched, rfl⟩ := List.mem_map.mp member
      have own : world.requests.find? request.id = some request ∧ request.companyId = identity.companyId := by
        unfold requestsMatched at matched
        cases role : identity.role <;> rw [role] at matched <;>
          exact ⟨(requestsFound_mem matched).1, (requestsFound_mem matched).2.1⟩
      exact ⟨request.id, rfl, ownsRequest_iff.mpr ⟨request, own⟩⟩
  | approval =>
      simp only [keysFound] at member
      split at member
      · exact absurd member List.not_mem_nil
      · obtain ⟨stage, matched, rfl⟩ := List.mem_map.mp member
        obtain ⟨present, company⟩ := stagesFound_mem matched
        exact ⟨stage.requestId, rfl, company ▸ consistent stage present⟩
  | comment =>
      obtain ⟨comment, matched, rfl⟩ := List.mem_map.mp member
      have selected := (List.mem_filter.mp (World.mem_newestFirst.mp (List.mem_of_mem_take matched))).2
      simp only [Bool.and_eq_true] at selected
      exact ⟨comment.requestId, rfl, commented _ selected.1.1.1⟩
  | attachment =>
      obtain ⟨attachment, matched, rfl⟩ := List.mem_map.mp member
      have selected := (List.mem_filter.mp (World.mem_newestFirst.mp (List.mem_of_mem_take matched))).2
      simp only [Bool.and_eq_true] at selected
      exact ⟨attachment.requestId, rfl, commented _ selected.1.1.1⟩
  | auditEntry =>
      have limited : searchScope identity world = some ((requestsShown identity world).map RequestRecord.id) :=
        if_neg fun administrator => restricted administrator rfl
      obtain ⟨entry, matched, rfl⟩ := List.mem_map.mp member
      obtain ⟨requestId, listed, named⟩ := (keysFound_scoped limited).2.2 entry matched
      obtain ⟨request, found, company, -⟩ := scope_mem limited listed
      exact ⟨requestId, named, ownsRequest_iff.mpr ⟨request, found, company⟩⟩
  | workflow => exact absurd member List.not_mem_nil
  | user => exact absurd member List.not_mem_nil
  | department => exact absurd member List.not_mem_nil
  | notification => exact absurd member List.not_mem_nil

theorem keysFound_made (employee : identity.role = .employee) {entityType : EntityType} :
    ∀ key ∈ keysFound text identity world queryText entityType, ∃ request,
      key.2 = some request.id ∧ world.requests.find? request.id = some request ∧
        request.companyId = identity.companyId ∧ request.requesterId = identity.userId := by
  intro key member
  have limited : searchScope identity world = some ((requestsShown identity world).map RequestRecord.id) :=
    if_neg (by simp [employee])
  have listed : ∀ requestId ∈ (requestsShown identity world).map RequestRecord.id, ∃ request,
      some requestId = some request.id ∧ world.requests.find? request.id = some request ∧
        request.companyId = identity.companyId ∧ request.requesterId = identity.userId := by
    intro requestId shown
    obtain ⟨request, found, company, made⟩ := scope_mem limited shown
    have named : request.id = requestId := ((find?_eq_some_iff ..).mp found).2
    exact ⟨request, congrArg some named.symm, named ▸ found, company, made employee⟩
  cases entityType with
  | request =>
      obtain ⟨request, matched, rfl⟩ := List.mem_map.mp member
      rw [requestsMatched, employee] at matched
      obtain ⟨found, company, made⟩ := requestsFound_mem matched
      exact ⟨request, rfl, found, company, by simpa using made⟩
  | approval =>
      simp only [keysFound, employee, if_true] at member
      exact absurd member List.not_mem_nil
  | comment =>
      obtain ⟨comment, matched, rfl⟩ := List.mem_map.mp member
      exact listed _ ((keysFound_scoped limited).1 comment matched)
  | attachment =>
      obtain ⟨attachment, matched, rfl⟩ := List.mem_map.mp member
      exact listed _ ((keysFound_scoped limited).2.1 attachment matched)
  | auditEntry =>
      obtain ⟨entry, matched, rfl⟩ := List.mem_map.mp member
      obtain ⟨requestId, shown, named⟩ := (keysFound_scoped limited).2.2 entry matched
      rw [named]
      exact listed requestId shown
  | workflow => exact absurd member List.not_mem_nil
  | user => exact absurd member List.not_mem_nil
  | department => exact absurd member List.not_mem_nil
  | notification => exact absurd member List.not_mem_nil

theorem rowBelongs_of_opens {entityType : EntityType} {id requestId : UUID} (opens : Opens identity world requestId) :
    RowBelongs identity world entityType id (some requestId) := by
  cases entityType <;> first | exact opens | trivial

theorem opens_of_rowBelongs {entityType : EntityType} {key : UUID × Option UUID} {requestId : UUID}
    (member : key ∈ keysFound text identity world queryText entityType) (named : key.2 = some requestId)
    (belongs : RowBelongs identity world entityType key.1 key.2) : Opens identity world requestId := by
  rw [named] at belongs
  cases entityType <;> first | exact belongs | exact absurd member List.not_mem_nil

theorem mem_requestIdsFound (approver : identity.role = .approver) {entityType : EntityType} {requestId : UUID} :
    requestId ∈ requestIdsFound text identity world queryText entityType ↔
      ∃ key ∈ keysFound text identity world queryText entityType, key.2 = some requestId := by
  cases entityType with
  | request => simp [requestIdsFound, keysFound, requestsMatched, approver, eq_comm]
  | approval => simp [requestIdsFound, keysFound, approver, eq_comm]
  | comment => simp [requestIdsFound, keysFound, eq_comm]
  | attachment => simp [requestIdsFound, keysFound, eq_comm]
  | auditEntry => simp [requestIdsFound, keysFound, List.mem_filterMap]
  | workflow => simp [requestIdsFound, keysFound]
  | user => simp [requestIdsFound, keysFound]
  | department => simp [requestIdsFound, keysFound]
  | notification => simp [requestIdsFound, keysFound]

theorem rowBelongs_iff_entryOwned (valid : SessionValid identity world) (administrator : identity.role = .admin)
    {entry : AuditLogRecord} (found : entry ∈ entriesFound identity world queryText) :
    RowBelongs identity world .auditEntry entry.id entry.requestId ↔ EntryOwned identity world entry := by
  have present : entry ∈ world.audit.rows :=
    (List.mem_filter.mp (World.mem_newestFirst.mp (List.mem_of_mem_take found))).1
  have looked : world.audit.find? entry.id = some entry := find?_of_mem _ present
  unfold EntryOwned
  cases entry.requestId with
  | some requestId => exact opens_of_administrator valid administrator
  | none =>
      constructor
      · intro belongs
        obtain ⟨other, reached, company⟩ := belongs
        obtain rfl : other = entry := Option.some.inj (reached.symm.trans looked)
        exact company
      · intro company
        exact ⟨entry, looked, company⟩

end Isolation

section Rival

def sampleText : TextFunctions := { lower := id, title := id, ratio := fun _ _ => 0, uuid5 := fun _ => 0 }

theorem sampleHub_stagesOfCompany : StagesOfCompany sampleHub :=
  fun _ member => absurd member List.not_mem_nil

/-- The entry that an activation in another company writes. -/
def rivalEntry (id : UUID) : AuditLogRecord :=
  { id, actorId := some 5, requestId := none, action := .workflowDefinitionActivated,
    metadata := some (.definitionActivated 7 "payroll" 1 none), createdAt := 0, companyId := none }

/-- The sample hub with an administrator of another company, who activated a definition. -/
def hubWithRivalEntry : World :=
  { sampleHub with
    profiles := sampleHub.profiles.insert rivalAdministrator,
    audit := sampleHub.audit.insert ⟨rivalEntry, fun _ => rfl⟩ }

end Rival

end AutomationHub.System
