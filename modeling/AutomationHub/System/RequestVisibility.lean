import AutomationHub.System.VisibilityPolicies
import Mathlib.Data.List.Dedup

/-!
The requests that a caller is shown in lists and searches, and those that the caller can open.
-/

set_option autoImplicit false

namespace AutomationHub.System

open Foundation Model Database Services Auth Program Table

/-- The calls that show a caller requests, a page at a time. -/
inductive Listing where
  | list (status : Option RequestStatus) (requestType department : Option String) (page : Page)
  | search (queryText : String) (page : Page)

namespace Listing

def program (identity : AuthenticatedIdentity) : Listing → Service (PagedResult RequestRecord)
  | .list status requestType department page => listRequests identity status requestType department page
  | .search queryText page => searchRequests identity queryText page

def page : Listing → Page
  | .list _ _ _ page | .search _ page => page

/-- The rows that the listing pages through, for a caller restricted to the given requester and ids. -/
def rows (companyId : UUID) (requesterId : Option UUID) (requestIds : Option (List UUID)) (world : World) :
    Listing → List RequestRecord
  | .list status requestType department _ => world.requestsListed companyId
      { status, requestType, department, requesterId, requestIds, includeDeleted := false }
  | .search queryText _ => world.requestsFound queryText companyId requesterId requestIds

/-- The query behind the listing. -/
def query (companyId : UUID) (requesterId : Option UUID) (requestIds : Option (List UUID)) :
    Listing → Service (PagedResult RequestRecord)
  | .list status requestType department page => orTranslate (.listRequests companyId
      { status, requestType, department, requesterId, requestIds, includeDeleted := false } page)
  | .search queryText page => orTranslate (.searchRequests queryText companyId requesterId requestIds page)

end Listing

/-- The requester that an employee's listings are restricted to. -/
def requesterScope (identity : AuthenticatedIdentity) : Option UUID :=
  if identity.role = .employee then some identity.userId else none

/-- The requests that an approver's listings are restricted to. -/
def queueScope (identity : AuthenticatedIdentity) (world : World) : Option (List UUID) :=
  if identity.role = .approver then some (queuedRequestIds identity world) else none

/-- The request is in the listings of the caller. -/
def Listable (identity : AuthenticatedIdentity) (world : World) (request : RequestRecord) : Prop :=
  request.companyId = identity.companyId ∧ request.deletedAt = none ∧
    match identity.role with
    | .employee => request.requesterId = identity.userId
    | .approver => ∃ stage ∈ queueOf identity world, stage.requestId = request.id
    | .admin => True

/-- The session has not expired when `getRequest` looks. -/
def sessionOpen (identity : AuthenticatedIdentity) (world : World) : Bool :=
  identity.expiresAt.all fun expiresAt =>
    !isPast expiresAt (world.clock (world.ticks + if identity.role = .employee then 1 else 2))

section Opening

variable {identity : AuthenticatedIdentity} {world : World}

theorem result_authorize (permitted : Bool) (resource : String) (world : World) :
    ((authorize identity permitted resource).run environment world).1 =
      .ok (if identity.expiresAt.any (fun expiresAt => isPast expiresAt world.now) then .error .sessionExpired
        else if permitted then .ok () else .error (.ownershipRequired resource)) := by
  unfold authorize isExpired
  cases identity.expiresAt with
  | none => cases permitted <;> rfl
  | some expiresAt =>
      simp only [run_bind, run_utcNow, continueRun_ok, pure_eq, run_done, Option.any_some]
      split
      · simp [*]
      · cases permitted <;> simp [*]

theorem run_assignedToAny (requestId : UUID) (world : World) :
    (isAssignedToAnyStage requestId identity.userId identity.role).run environment world =
      (.ok (assignedToAny identity world requestId),
        world.atTick (world.ticks + if identity.role = .employee then 0 else 1)) := by
  have listed : (orRaise (.listStagesForRequest requestId .firstHundred)).run environment world =
      (.ok (paginate (world.stagesOf requestId) .firstHundred), world.tick) := run_orRaise _ world
  unfold isAssignedToAnyStage assignedToAny
  cases identity.role with
  | employee => rfl
  | approver | admin =>
      rw [if_neg (by simp), if_neg (by simp), run_bind, listed, continueRun_ok, items_firstHundred]
      rfl

/-- `getRequest` returns a request of the caller's company if the session is open and the caller may view it. -/
theorem run_getRequest {requestId : UUID} {record : RequestRecord} (found : world.requests.find? requestId = some record)
    (own : record.companyId = identity.companyId) :
    ((getRequest identity requestId).run environment world).1 =
      if sessionOpen identity world && canViewRequest identity.role (record.requesterId == identity.userId)
        (assignedToAny identity world requestId) then .ok record else .error (.notFound "request" requestId) := by
  have named : record.id = requestId := ((find?_eq_some_iff ..).mp found).2
  have fetched := @run_requestOfCompany _ identity _ _ found
  rw [if_pos own] at fetched
  rw [getRequest, run_bind, fetched, continueRun_ok, run_bind, run_assignedToAny, continueRun_ok, run_bind, named]
  have instant : (world.tick.atTick (world.tick.ticks + if identity.role = .employee then 0 else 1)).now =
      world.clock (world.ticks + if identity.role = .employee then 1 else 2) := by
    cases identity.role <;> rfl
  have expiry : identity.expiresAt.any (fun expiresAt => isPast expiresAt
      (world.tick.atTick (world.tick.ticks + if identity.role = .employee then 0 else 1)).now) =
      !sessionOpen identity world := by
    rw [instant, sessionOpen]
    cases identity.expiresAt <;> simp
  have decided := @result_authorize identity (canViewRequest identity.role
    (record.requesterId == identity.userId) (assignedToAny identity world.tick requestId)) "request"
    (world.tick.atTick (world.tick.ticks + if identity.role = .employee then 0 else 1))
  rw [expiry] at decided
  have same : assignedToAny identity world.tick requestId = assignedToAny identity world requestId := rfl
  rw [same] at decided ⊢
  unfold authorizeRequestView
  rcases reached : (authorize identity (canViewRequest identity.role (record.requesterId == identity.userId)
    (assignedToAny identity world requestId)) "request").run environment
    (world.tick.atTick (world.tick.ticks + if identity.role = .employee then 0 else 1)) with ⟨result, last⟩
  rw [reached] at decided
  obtain rfl : result = _ := decided
  generalize canViewRequest identity.role (record.requesterId == identity.userId)
    (assignedToAny identity world requestId) = permitted
  cases sessionOpen identity world <;> cases permitted <;> rfl

end Opening

section Listings

variable {identity : AuthenticatedIdentity} {world : World}

theorem mem_page_of_mem {α : Type} {rows : List α} {row : α} (member : row ∈ rows) :
    ∃ page : Page, row ∈ (paginate rows page).items := by
  have positive : 0 < 100 := by decide
  rw [← flatten_pages positive rows, List.mem_flatten] at member
  obtain ⟨slice, listed, member⟩ := member
  obtain ⟨index, -, rfl⟩ := List.mem_map.mp listed
  refine ⟨{ number := index + 1, size := 100, number_pos := by omega, size_pos := one_le_hundred,
            size_le := hundred_le_maxPageSize }, ?_⟩
  exact member

theorem mem_of_mem_page {α : Type} {rows : List α} {page : Page} {row : α} (member : row ∈ (paginate rows page).items) :
    row ∈ rows :=
  List.mem_of_mem_drop (List.mem_of_mem_take member)

theorem listable_of_mem {listing : Listing} {request : RequestRecord} (member : request ∈ listing.rows identity.companyId
    (requesterScope identity) (queueScope identity world) world) :
    world.requests.find? request.id = some request ∧ Listable identity world request := by
  have selected : request ∈ world.requests.rows ∧ request.companyId = identity.companyId ∧
      (requesterScope identity).all (fun requesterId => request.requesterId == requesterId) = true ∧
      (queueScope identity world).all (fun requestIds => requestIds.contains request.id) = true ∧
      request.deletedAt.isNone = true := by
    cases listing with
    | list =>
        simp only [Listing.rows, World.requestsListed, World.mem_newestFirst, List.mem_filter, RequestFilter.admits,
          Bool.and_eq_true, beq_iff_eq, Bool.false_or] at member
        exact ⟨member.1, member.2.1, member.2.2.1.1.2, member.2.2.1.2, member.2.2.2⟩
    | search =>
        simp only [Listing.rows, World.requestsFound, World.mem_newestFirst, List.mem_filter,
          Bool.and_eq_true, beq_iff_eq] at member
        exact ⟨member.1, member.2.1.1.1.1, member.2.1.1.2, member.2.1.2, member.2.2⟩
  obtain ⟨stored, company, requester, queued, live⟩ := selected
  refine ⟨find?_of_mem _ stored, company, Option.isNone_iff_eq_none.mp live, ?_⟩
  simp only [requesterScope, queueScope] at requester queued
  cases role : identity.role with
  | employee => simpa [role] using requester
  | approver => simpa [role, queuedRequestIds, List.mem_dedup] using queued
  | admin => trivial

theorem mem_of_listable {request : RequestRecord} (stored : request ∈ world.requests.rows)
    (listable : Listable identity world request) (page : Page) :
    request ∈ (Listing.list none none none page).rows identity.companyId (requesterScope identity)
      (queueScope identity world) world := by
  obtain ⟨company, live, scope⟩ := listable
  simp only [Listing.rows, World.requestsListed, World.mem_newestFirst, List.mem_filter, RequestFilter.admits,
    Bool.and_eq_true, beq_iff_eq, live, Option.all_none, Option.isNone_none, Bool.or_true, and_true, true_and, stored,
    company, requesterScope, queueScope]
  cases role : identity.role with
  | employee => simpa [role] using scope
  | approver => simpa [role, queuedRequestIds, List.mem_dedup] using scope
  | admin => simp

/-- A listing is its query in the caller's scope, unless the approver's queue is empty. -/
theorem run_listing (listing : Listing) : ∃ ticks, ((listing.program identity).run environment world).1 =
    if queueScope identity world = some [] then
      .ok { items := [], page := listing.page.number, pageSize := listing.page.size, totalRecords := 0 }
    else ((listing.query identity.companyId (requesterScope identity) (queueScope identity world)).run environment
      (world.atTick ticks)).1 := by
  cases role : identity.role with
  | employee =>
      have requester : requesterScope identity = some identity.userId := if_pos role
      have queued : queueScope identity world = none := if_neg (by simp [role])
      refine ⟨world.ticks, ?_⟩
      rw [requester, queued, if_neg (by simp)]
      cases listing <;> simp only [Listing.program, listRequests, searchRequests, role] <;> rfl
  | approver =>
      have requester : requesterScope identity = none := if_neg (by simp [role])
      have queued : queueScope identity world = some (queuedRequestIds identity world) := if_pos role
      obtain ⟨ticks, reached⟩ := @reads_visibleRequestIdsForApprover identity world world.ticks
      have reached : (visibleRequestIdsForApprover identity).run environment world = _ := reached
      refine ⟨ticks, ?_⟩
      rw [requester, queued]
      cases ids : queuedRequestIds identity world with
      | nil => cases listing <;> simp only [Listing.program, listRequests, searchRequests, role, run_bind, reached, ids,
          continueRun_ok] <;> rfl
      | cons first rest => cases listing <;> simp only [Listing.program, listRequests, searchRequests, role, run_bind,
          reached, ids, continueRun_ok] <;> rfl
  | admin =>
      have requester : requesterScope identity = none := if_neg (by simp [role])
      have queued : queueScope identity world = none := if_neg (by simp [role])
      refine ⟨world.ticks, ?_⟩
      rw [requester, queued, if_neg (by simp)]
      cases listing <;> simp only [Listing.program, listRequests, searchRequests, role] <;> rfl

theorem rows_of_no_ids (listing : Listing) (companyId : UUID) (requesterId : Option UUID) :
    listing.rows companyId requesterId (some []) world = [] := by
  cases listing <;> simp [Listing.rows, World.requestsListed, World.requestsFound, World.newestFirst, orderBy,
    RequestFilter.admits]

theorem items_of_query {listing : Listing} {companyId : UUID} {requesterId : Option UUID} {requestIds : Option (List UUID)}
    {ticks : Nat} {result : PagedResult RequestRecord} (returned : ((listing.query companyId requesterId requestIds).run
      environment (world.atTick ticks)).1 = .ok result) :
    result.items = (paginate (listing.rows companyId requesterId requestIds world) listing.page).items := by
  cases listing with
  | list =>
      cases returned
      rfl
  | search queryText page =>
      have run := run_orTranslate (.searchRequests queryText companyId requesterId requestIds page) (world.atTick ticks)
      have answered := (congrArg Prod.fst run).symm.trans returned
      simp only [World.execute, World.searched] at answered
      split at answered
      · cases answered
      · cases answered
        rfl

theorem listable_of_returned {listing : Listing} {result : PagedResult RequestRecord} {request : RequestRecord}
    (returned : ((listing.program identity).run environment world).1 = .ok result) (shown : request ∈ result.items) :
    world.requests.find? request.id = some request ∧ Listable identity world request := by
  obtain ⟨ticks, run⟩ := @run_listing identity world listing
  rw [run] at returned
  split at returned
  · cases returned
    cases shown
  · rw [items_of_query returned] at shown
    exact listable_of_mem (mem_of_mem_page shown)

theorem returned_of_listable {request : RequestRecord} (stored : request ∈ world.requests.rows)
    (listable : Listable identity world request) : ∃ (listing : Listing) (result : PagedResult RequestRecord),
      ((listing.program identity).run environment world).1 = .ok result ∧ request ∈ result.items := by
  obtain ⟨page, shown⟩ := mem_page_of_mem (mem_of_listable stored listable .firstHundred)
  obtain ⟨ticks, run⟩ := @run_listing identity world (.list none none none page)
  have occupied : queueScope identity world ≠ some [] := by
    intro idle
    have listed := mem_of_listable stored listable .firstHundred
    rw [idle, rows_of_no_ids] at listed
    cases listed
  rw [if_neg occupied] at run
  exact ⟨_, _, run, shown⟩

/-- A request of the caller's scope is one that the caller may view, if an approver made it or is seated at it. -/
theorem viewable_iff {request : RequestRecord} (found : world.requests.find? request.id = some request)
    (listable : Listable identity world request) :
    canViewRequest identity.role (request.requesterId == identity.userId) (assignedToAny identity world request.id) = true ↔
      (identity.role = .approver → Seated identity world request.id) := by
  obtain ⟨-, -, scope⟩ := listable
  have made : (∃ stored, world.requests.find? request.id = some stored ∧ stored.requesterId = identity.userId) ↔
      request.requesterId = identity.userId := by
    simp [found]
  cases role : identity.role with
  | employee =>
      rw [role] at scope
      simp [canViewRequest, scope]
  | approver =>
      have assigned := @assignedToAny_iff identity world request.id
      rw [role] at assigned
      simp only [canViewRequest, Seated, made, Bool.or_eq_true, beq_iff_eq, assigned, Names, role, if_neg, reduceCtorEq,
        not_false_eq_true, forall_const, ne_eq, true_and]
  | admin => simp [canViewRequest]

/-- Whatever a caller is shown in a list or a search, whichever the filter, text and page, the caller can open, exactly
if the session is open and each request in an approver's listings was made by the approver or has a stage of the approver
among its first hundred. -/
theorem listed_requests_open_iff (identity : AuthenticatedIdentity) (world : World) :
    (∀ (listing : Listing) (result : PagedResult RequestRecord),
      ((listing.program identity).run environment world).1 = .ok result → ∀ request ∈ result.items,
        request.companyId = identity.companyId ∧ request.deletedAt = none ∧
          ((getRequest identity request.id).run environment world).1 = .ok request) ↔
      ∀ request ∈ world.requests.rows, Listable identity world request →
        sessionOpen identity world = true ∧ (identity.role = .approver → Seated identity world request.id) := by
  have opens : ∀ {request : RequestRecord}, world.requests.find? request.id = some request →
      Listable identity world request → (((getRequest identity request.id).run environment world).1 = .ok request ↔
        sessionOpen identity world = true ∧ (identity.role = .approver → Seated identity world request.id)) := by
    intro request found listable
    rw [run_getRequest found listable.1, ← viewable_iff found listable]
    split <;> simp_all
  constructor
  · intro open_ request stored listable
    obtain ⟨listing, result, returned, shown⟩ := returned_of_listable stored listable
    exact (opens (find?_of_mem _ stored) listable).mp (open_ listing result returned request shown).2.2
  · intro seated listing result returned request shown
    obtain ⟨found, listable⟩ := listable_of_returned returned shown
    have stored := ((find?_eq_some_iff ..).mp found).1
    exact ⟨listable.1, listable.2.1, (opens found listable).mpr (seated request stored listable)⟩

end Listings

section Sample

/-- A hundred stages of one approver, and a last one of the sample approver. -/
def longDocument : WorkflowDefinitionDocument where
  stages := (List.range 101).map fun index => personalStage (index + 1) index.succ_pos (if index = 100 then 2 else 4)
  nonempty := by decide
  distinct := by decide +kernel
  contiguous := by decide +kernel

/-- The stages of a request that waits for its last stage. -/
def longStage (index : Nat) : WorkflowStageRecord :=
  { id := index + 1, requestId := 1, stageOrder := index + 1, stageName := "Sign-off", assignedRole := none,
    assignedTo := some (if index = 100 then 2 else 4), status := if index = 100 then .pending else .approved,
    decidedBy := if index = 100 then none else some 4, decidedAt := if index = 100 then none else some 0,
    decisionNote := none, version := if index = 100 then 1 else 2, createdAt := 0, companyId := 9 }

def longRequest : RequestRecord :=
  { id := 1, requesterId := 1, workflowDefinitionId := 3, requestType := "audit", title := "Audit", description := none,
    department := none, status := .inReview, currentStageId := some 101, version := 102, deletedAt := none,
    deletedBy := none, createdAt := 0, updatedAt := 0, completedAt := none, companyId := 9 }

/-- The sample hub with a request at the last of its hundred and one stages. -/
def hubWithLongRequest : World :=
  { sampleHub with
    definitions := sampleHub.definitions.insert ⟨fun id => sampleDefinition id "audit" longDocument, fun _ => rfl⟩,
    requests := { rows := [longRequest], next := 2, distinct := by decide, fresh := by decide },
    stages :=
      { rows := (List.range 101).map longStage, next := 102, distinct := by decide +kernel, fresh := by decide +kernel } }

/-- The approver of the last stage is shown a request, and cannot open it. -/
theorem listed_request_not_found :
    ((((Listing.list none none none .firstHundred).program sampleApprover).run environment
      hubWithLongRequest).1.toOption.map fun result => result.items.map RequestRecord.id) = some [1] ∧
    ((getRequest sampleApprover 1).run environment hubWithLongRequest).1.isOk = false := by
  constructor <;> decide +kernel

end Sample

end AutomationHub.System
