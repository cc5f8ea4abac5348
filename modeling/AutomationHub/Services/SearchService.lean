import AutomationHub.Database.Repositories
import AutomationHub.Services.ApprovalService
import AutomationHub.Services.WorkflowDefinitionService

/-!
The search across all kinds of entities.

Each kind has a search of its own, with its own scope; the results are ranked
together.
-/

set_option autoImplicit false

namespace AutomationHub.Services

open Foundation Model Database Auth

/-- Functions on texts of which the search uses the results only. -/
structure TextFunctions where
  lower : String → String
  title : String → String
  /-- `SequenceMatcher(None, first, second).ratio()`. -/
  ratio : String → String → ℚ
  /-- `uuid.uuid5(uuid.NAMESPACE_OID, name)`. -/
  uuid5 : String → UUID

inductive EntityType where
  | request
  | approval
  | workflow
  | user
  | department
  | comment
  | auditEntry
  | notification
  | attachment
deriving DecidableEq

def EntityType.value : EntityType → String
  | .request => "request"
  | .approval => "approval"
  | .workflow => "workflow"
  | .user => "user"
  | .department => "department"
  | .comment => "comment"
  | .auditEntry => "audit_entry"
  | .notification => "notification"
  | .attachment => "attachment"

/-- The entity types, in the order of their searches. -/
def entityTypes : List EntityType :=
  [.request, .approval, .workflow, .user, .department, .comment, .auditEntry, .notification, .attachment]

structure SearchResultItem where
  entityType : EntityType
  id : UUID
  title : String
  subtitle : String
  snippet : String
  score : ℚ
  createdAt : Datetime
  requestId : Option UUID
  stage : Option WorkflowStageRecord
  requestType : Option String

/-- The position of the first occurrence of `needle`, counted from `index`. -/
def findFrom (needle : List Char) (index : Nat) : List Char → Option Nat
  | [] => if needle = [] then some index else none
  | character :: rest =>
      if needle.isPrefixOf (character :: rest) then some index else findFrom needle (index + 1) rest

/-- `str.find`. -/
def findText (text needle : String) : Option Nat :=
  findFrom needle.toList 0 text.toList

section Presentation

variable (text : TextFunctions)

/-- `_fuzzy_score`. -/
def fuzzyScore (queryText : String) (candidates : List String) : ℚ :=
  let query := text.lower (strip queryText)
  (candidates.filter (· ≠ "")).foldl (fun best candidate =>
    let lowered := text.lower candidate
    max best (if (findText lowered query).isSome then 85 / 100 + 15 / 100 * (query.length / lowered.length)
      else text.ratio query lowered)) 0

def minApprovalScore : ℚ := 3 / 10

def snippetContextChars : Nat := 60

/-- `_highlight_snippet`. -/
def highlightSnippet (excerpt queryText : String) : String :=
  let characters := excerpt.toList
  let needle := text.lower (strip queryText)
  match findText (text.lower excerpt) needle with
  | some start =>
      if needle = "" then shortened characters
      else
        let stop := start + needle.length
        let first := start - snippetContextChars
        let last := min characters.length (stop + snippetContextChars)
        (if 0 < first then "..." else "") ++ String.ofList ((characters.take start).drop first) ++ "**"
          ++ String.ofList ((characters.take stop).drop start) ++ "**"
          ++ String.ofList ((characters.take last).drop stop) ++ (if last < characters.length then "..." else "")
  | none => shortened characters
where
  shortened (characters : List Char) : String :=
    if characters.length ≤ 2 * snippetContextChars then String.ofList characters
    else String.ofList (characters.take (2 * snippetContextChars)) ++ "..."

/-- `value.replace("_", " ").title()`. -/
def label (value : String) : String :=
  text.title (value.map fun character => if character = '_' then ' ' else character)

def requestItem (queryText : String) (request : RequestRecord) : SearchResultItem :=
  { entityType := .request, id := request.id, title := request.title,
    subtitle := label text request.requestType ++ " · " ++ label text request.status.value,
    snippet := highlightSnippet text ((request.description.filter (· ≠ "")).getD request.title) queryText,
    score := fuzzyScore text queryText (request.title :: request.description.toList), createdAt := request.createdAt,
    requestId := some request.id, stage := none, requestType := none }

def approvalItem (queryText : String) (titles : List (UUID × String)) (stage : WorkflowStageRecord) :
    SearchResultItem :=
  let requestTitle := (titles.lookup stage.requestId).getD ""
  let displayTitle := if requestTitle = "" then stage.stageName else requestTitle
  { entityType := .approval, id := stage.id, title := displayTitle, subtitle := "Stage: " ++ stage.stageName,
    snippet := highlightSnippet text displayTitle queryText,
    score := fuzzyScore text queryText [stage.stageName, requestTitle], createdAt := stage.createdAt,
    requestId := some stage.requestId, stage := some stage, requestType := none }

def workflowItem (queryText : String) (definition : WorkflowDefinition) : SearchResultItem :=
  { entityType := .workflow, id := definition.id,
    title := definition.requestType ++ " (v" ++ toString definition.version ++ ")",
    subtitle := if definition.isActive then "Active" else "Inactive",
    snippet := highlightSnippet text definition.requestType queryText,
    score := fuzzyScore text queryText [definition.requestType], createdAt := definition.createdAt, requestId := none,
    stage := none, requestType := some definition.requestType }

def userItem (queryText : String) (profile : ProfileRecord) : SearchResultItem :=
  { entityType := .user, id := profile.id, title := profile.fullName,
    subtitle := text.title profile.role.value
      ++ ((profile.department.filter (· ≠ "")).elim "" fun department => " · " ++ department),
    snippet := highlightSnippet text profile.fullName queryText,
    score := fuzzyScore text queryText [profile.fullName], createdAt := profile.createdAt, requestId := none,
    stage := none, requestType := none }

def commentItem (queryText : String) (titles : List (UUID × String)) (comment : CommentRecord) : SearchResultItem :=
  { entityType := .comment, id := comment.id, title := (titles.lookup comment.requestId).getD "Comment",
    subtitle := "Comment", snippet := highlightSnippet text comment.body queryText,
    score := fuzzyScore text queryText [comment.body], createdAt := comment.createdAt,
    requestId := some comment.requestId, stage := none, requestType := none }

def auditItem (queryText : String) (titles : List (UUID × String)) (actorName : Option String)
    (entry : AuditLogRecord) : SearchResultItem :=
  let actionLabel := label text entry.action.value
  let requestTitle := (entry.requestId.bind fun requestId => titles.lookup requestId).getD ""
  let parts := (actorName.toList ++ [requestTitle]).filter (· ≠ "")
  { entityType := .auditEntry, id := entry.id, title := actionLabel,
    subtitle := if parts = [] then "System" else " · ".intercalate parts,
    snippet := highlightSnippet text actionLabel queryText,
    score := fuzzyScore text queryText [entry.action.value, actionLabel], createdAt := entry.createdAt,
    requestId := entry.requestId, stage := none, requestType := none }

def notificationItem (queryText : String) (notification : NotificationRecord) : SearchResultItem :=
  { entityType := .notification, id := notification.id, title := notification.message,
    subtitle := text.title notification.notificationType.value ++ (if notification.isRead then "" else " · Unread"),
    snippet := highlightSnippet text notification.message queryText,
    score := fuzzyScore text queryText [notification.message], createdAt := notification.createdAt,
    requestId := notification.requestId, stage := none, requestType := none }

def attachmentItem (queryText : String) (attachment : AttachmentRecord) : SearchResultItem :=
  { entityType := .attachment, id := attachment.id, title := attachment.fileName, subtitle := attachment.contentType,
    snippet := highlightSnippet text attachment.fileName queryText,
    score := fuzzyScore text queryText [attachment.fileName], createdAt := attachment.createdAt,
    requestId := some attachment.requestId, stage := none, requestType := none }

def unassignedDepartment : String := "Unassigned"

/-- The department under which a profile is counted. -/
def departmentOf (profile : ProfileRecord) : String :=
  (profile.department.filter (· ≠ "")).getD unassignedDepartment

def departmentItem (queryText : String) (profiles : List ProfileRecord) (department : String) : SearchResultItem :=
  let members := profiles.filter fun profile => departmentOf profile == department
  { entityType := .department, id := text.uuid5 department, title := department,
    subtitle := toString members.length ++ " member" ++ (if members.length = 1 then "" else "s"),
    snippet := highlightSnippet text department queryText, score := fuzzyScore text queryText [department],
    createdAt := (members.map ProfileRecord.createdAt).foldr max 0, requestId := none, stage := none,
    requestType := none }

/-- Highest score first. -/
def byScore (items : List SearchResultItem) : List SearchResultItem :=
  orderBy (fun left right => right.score ≤ left.score) items

/-- Highest score first, the newer of equal ones first. -/
def ranked (items : List SearchResultItem) : List SearchResultItem :=
  orderBy (fun left right => right.score < left.score ∨ (right.score = left.score ∧ right.createdAt ≤ left.createdAt))
    items

end Presentation

section Searches

variable (text : TextFunctions) (identity : AuthenticatedIdentity) (queryText : String)

/-- `_visible_request_ids`; an administrator is not restricted. -/
def visibleRequestIds : Service (Option (List UUID)) := do
  if identity.role = .admin then return none
  let visible ← listRequests identity none none none .firstHundred
  return some (visible.items.map RequestRecord.id)

/-- `_request_titles`. -/
def requestTitles (requestIds : List UUID) : Service (List (UUID × String)) := do
  let uniqueIds := requestIds.dedup
  if uniqueIds.isEmpty then return []
  let result : PagedResult RequestRecord ← orRaise (.listRequests identity.companyId
    { status := none, requestType := none, department := none, requesterId := none, requestIds := some uniqueIds,
      includeDeleted := false } .firstHundred)
  return result.items.map fun request => (request.id, request.title)

def searchRequestItems : Service (List SearchResultItem) := do
  let result ← searchRequests identity queryText .firstHundred
  return result.items.map (requestItem text queryText)

def searchApprovals : Service (List SearchResultItem) := do
  if identity.role ≠ .approver ∧ identity.role ≠ .admin then return []
  let stages ← listPendingApprovals identity .firstHundred
  if stages.items.isEmpty then return []
  let titles ← requestTitles identity (stages.items.map WorkflowStageRecord.requestId)
  let scored := (stages.items.map (approvalItem text queryText titles)).filter fun item => minApprovalScore ≤ item.score
  return (byScore scored).take maxPageSize

def searchWorkflows : Service (List SearchResultItem) := do
  let result ← searchDefinitions (some identity.userId) identity queryText .firstHundred
  return result.items.map (workflowItem text queryText)

def searchUsers : Service (List SearchResultItem) := do
  let result : PagedResult ProfileRecord ←
    orTranslate (.searchProfilesByName queryText identity.companyId .firstHundred)
  return result.items.map (userItem text queryText)

/-- The profiles of a role from the page numbered `index + 1` on; `remaining` bounds the pages read. -/
def profilesFrom (role : UserRole) (companyId : UUID) : (remaining index : Nat) → Service (List ProfileRecord)
  | 0, _ => return []
  | remaining + 1, index => do
      let result : PagedResult ProfileRecord ← orRaise (.listProfilesByRole role companyId none
        { number := index + 1, size := 100, number_pos := Nat.succ_pos index, size_pos := one_le_hundred,
          size_le := hundred_le_maxPageSize })
      if result.totalRecords ≤ (index + 1) * 100 ∨ result.items.isEmpty then return result.items
      return result.items ++ (← profilesFrom role companyId remaining (index + 1))

/-- `fetch_all_profiles`; the first page tells how many pages there are. -/
def fetchAllProfiles (companyId : UUID) : Service (List ProfileRecord) := do
  let employees ← allOf .employee
  let approvers ← allOf .approver
  let admins ← allOf .admin
  return employees ++ approvers ++ admins
where
  allOf (role : UserRole) : Service (List ProfileRecord) := do
    let first : PagedResult ProfileRecord ← orRaise (.listProfilesByRole role companyId none .firstHundred)
    if first.totalRecords ≤ 100 ∨ first.items.isEmpty then return first.items
    return first.items ++ (← profilesFrom role companyId first.totalPages 1)

def searchDepartments : Service (List SearchResultItem) := do
  let profiles ← fetchAllProfiles identity.companyId
  let departments := (profiles.map departmentOf).eraseDups
  let scored := (departments.map (departmentItem text queryText profiles)).filter fun item =>
    minApprovalScore ≤ item.score
  return (byScore scored).take maxPageSize

def searchComments : Service (List SearchResultItem) := do
  let requestIds ← visibleRequestIds identity
  if requestIds = some [] then return []
  let result : PagedResult CommentRecord ←
    orTranslate (.searchComments (some identity.userId) queryText requestIds .firstHundred)
  let titles ← requestTitles identity (result.items.map CommentRecord.requestId)
  return result.items.map (commentItem text queryText titles)

/-- The names found so far for the ids of profiles. -/
abbrev NameCache := List (UUID × Option String)

/-- The name of a profile, looked up once; a profile that is not found has none. -/
def resolveName (names : NameCache) : Option UUID → Service (NameCache × Option String)
  | none => return (names, none)
  | some profileId =>
      match names.lookup profileId with
      | some name => return (names, name)
      | none => do
          match ← attempt (.getProfile profileId) with
          | .ok profile => return ((profileId, some profile.fullName) :: names, some profile.fullName)
          | .error (.recordNotFound ..) => return ((profileId, none) :: names, none)
          | .error error => throw (.database error)

def auditItems (titles : List (UUID × String)) : NameCache → List AuditLogRecord → Service (List SearchResultItem)
  | _, [] => return []
  | names, entry :: rest => do
      let (names, actorName) ← resolveName names entry.actorId
      return auditItem text queryText titles actorName entry :: (← auditItems titles names rest)

def searchAuditEntries : Service (List SearchResultItem) := do
  let requestIds ← visibleRequestIds identity
  if requestIds = some [] then return []
  let result : PagedResult AuditLogRecord ← orTranslate (.searchAuditLogs queryText requestIds .firstHundred)
  let titles ← requestTitles identity (result.items.filterMap AuditLogRecord.requestId)
  auditItems text queryText titles [] result.items

def searchNotifications : Service (List SearchResultItem) := do
  let result : PagedResult NotificationRecord ←
    orTranslate (.searchNotificationsForRecipient queryText identity.userId .firstHundred)
  return result.items.map (notificationItem text queryText)

def searchAttachments : Service (List SearchResultItem) := do
  let requestIds ← visibleRequestIds identity
  if requestIds = some [] then return []
  let result : PagedResult AttachmentRecord ←
    orTranslate (.searchAttachments (some identity.userId) queryText requestIds .firstHundred)
  return result.items.map (attachmentItem text queryText)

/-- The search of one entity type. -/
def searchOf : EntityType → Service (List SearchResultItem)
  | .request => searchRequestItems text identity queryText
  | .approval => searchApprovals text identity queryText
  | .workflow => searchWorkflows text identity queryText
  | .user => searchUsers text identity queryText
  | .department => searchDepartments text identity queryText
  | .comment => searchComments text identity queryText
  | .auditEntry => searchAuditEntries text identity queryText
  | .notification => searchNotifications text identity queryText
  | .attachment => searchAttachments text identity queryText

/-- The entity type is asked for, and the caller may search it. -/
def planned (requested : Option (List String)) (entityType : EntityType) : Bool :=
  requested.all (fun names => names.contains entityType.value)
    && (identity.role == .admin || (entityType != .user && entityType != .department))

def searchAll : List EntityType → Service (List SearchResultItem)
  | [] => return []
  | entityType :: rest => do
      let items ← searchOf text identity queryText entityType
      return items ++ (← searchAll rest)

/-- `GlobalSearchService.search`. -/
def search (requested : Option (List String)) (page : Page) : Service (PagedResult SearchResultItem) := do
  if strip queryText = "" then throw (.validation "Search query must not be empty.")
  let results ← searchAll text identity queryText (entityTypes.filter (planned identity requested))
  return paginate (ranked results) page

end Searches

end AutomationHub.Services
