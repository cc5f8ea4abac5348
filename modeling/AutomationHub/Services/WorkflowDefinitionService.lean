import AutomationHub.Services.RequestService
import AutomationHub.Workflow.VersionManager

/-!
Creation, editing, deletion and activation of workflow definitions.

`client` is the caller whose database client the definitions are read and
written with, or `none` where no such client is bound.
-/

set_option autoImplicit false

namespace AutomationHub.Services

open Foundation Model Database Auth Workflow

def validateDocument (definition : List StageDefinitionInput) : Except AppError WorkflowDefinitionDocument :=
  match WorkflowDefinitionDocument.validate definition with
  | some document => .ok document
  | none => .error (.validation "'WorkflowDefinitionDocument' failed validation.")

def validateAssignees (document : WorkflowDefinitionDocument) : Service Unit := do
  let referencedIds := (document.stages.filterMap specificAssignee).dedup
  if referencedIds = [] then engineOrRaise (validateDefinitionAssignees document [])
  else
    let found ← orRaise (.findProfilesByIds referencedIds)
    engineOrTranslate (validateDefinitionAssignees document (found.map ProfileRecord.id))

/-- The caller may manage definitions. -/
def requireDefinitionManager (identity : AuthenticatedIdentity) : Service Unit := do
  match ← authorizeWorkflowDefinitionManagement identity with
  | .error error => throw (translateAuthError error)
  | .ok () => return ()

def getDefinitionForCompany (client : Option UUID) (definitionId companyId : UUID) : Service WorkflowDefinition := do
  let record : WorkflowDefinition ← orNotFound (.getDefinition client definitionId)
  if record.companyId ≠ companyId then
    throw (translateDatabaseError (.recordNotFound "workflow_definition" definitionId))
  return record

def createDefinition (client : Option UUID) (identity : AuthenticatedIdentity) (requestType : String)
    (definition : List StageDefinitionInput) : Service WorkflowDefinition := do
  requireDefinitionManager identity
  let document ← Program.ofExcept (validateDocument definition)
  validateAssignees document
  let existing : PagedResult WorkflowDefinition ←
    orTranslate (.listDefinitions client requestType identity.companyId none .firstHundred)
  let nextVersion := nextVersionNumber (existing.items.map WorkflowDefinition.version)
  orTranslate (.createDefinition client requestType nextVersion document identity.userId identity.companyId)

def updateDraft (client : Option UUID) (identity : AuthenticatedIdentity) (definitionId : UUID)
    (definition : List StageDefinitionInput) : Service WorkflowDefinition := do
  requireDefinitionManager identity
  let existing ← getDefinitionForCompany client definitionId identity.companyId
  engineOrTranslate (validateEditAllowed existing)
  let document ← Program.ofExcept (validateDocument definition)
  validateAssignees document
  orTranslate (.updateInactiveDefinition client definitionId existing.rowVersion document)

def deleteDraft (client : Option UUID) (identity : AuthenticatedIdentity) (definitionId : UUID) : Service Unit := do
  requireDefinitionManager identity
  let existing ← getDefinitionForCompany client definitionId identity.companyId
  engineOrTranslate (validateEditAllowed existing)
  orTranslate (.deleteInactiveDefinition client definitionId identity.companyId)

/-- `WorkflowDefinitionRepository.activate_definition`. -/
def activateDefinition (client : Option UUID) (definitionId : UUID) (requestType : String) (expectedRowVersion : Nat)
    (companyId : UUID) : Service WorkflowDefinition := do
  let currentActive : Option WorkflowDefinition ← orTranslate (.findActiveForRequestType client requestType companyId)
  if let some active := currentActive then
    if active.id ≠ definitionId then
      let _ ← orTranslate (.deactivatePreviousDefinition client active.id active.rowVersion)
  orTranslate (.activateDefinition client definitionId expectedRowVersion)

/-- The writes of an activation of the row `candidate`, fetched before. -/
def activateVersionBody (client : Option UUID) (identity : AuthenticatedIdentity) (candidate : WorkflowDefinition)
    (currentlyActive : Option WorkflowDefinition) : Transaction hubSignature AppError WorkflowDefinition := do
  let activated ← activateDefinition client candidate.id candidate.requestType candidate.rowVersion identity.companyId
  Transaction.registerCompensation (log (.activationNotReversed candidate.id))
  let _ ← orTranslate (.recordEvent .workflowDefinitionActivated (some identity.userId) none
    (some (.definitionActivated activated.id activated.requestType activated.version
      (currentlyActive.map WorkflowDefinition.id))) none)
  return activated

def activateVersion (client : Option UUID) (identity : AuthenticatedIdentity) (definitionId : UUID) :
    Service WorkflowDefinition := do
  requireDefinitionManager identity
  let candidate ← getDefinitionForCompany client definitionId identity.companyId
  let currentlyActive : Option WorkflowDefinition ←
    orRaise (.findActiveForRequestType client candidate.requestType identity.companyId)
  engineOrTranslate (validateActivation candidate currentlyActive)
  transaction "activate_workflow_definition" (activateVersionBody client identity candidate currentlyActive)

def searchDefinitions (client : Option UUID) (identity : AuthenticatedIdentity) (queryText : String) (page : Page) :
    Service (PagedResult WorkflowDefinition) :=
  orTranslate (.searchDefinitions client queryText identity.companyId
    (if identity.role = .admin then none else some true) page)

end AutomationHub.Services
