import AutomationHub.Model.Basic

/-!
The exceptions of each layer, and how the services translate them.

An exception raised below the services and caught by none of them reaches the
caller as it is.
-/

set_option autoImplicit false

namespace AutomationHub.Model

inductive DatabaseError where
  | recordNotFound (table : String) (identifier : UUID)
  | concurrentUpdate (table : String) (recordId : UUID) (expectedVersion : Nat)
  | constraintViolation (table : String) (constraint : Option String)
  | invalidQuery (message : String)
  | connection (message : String)
  | repository (message : String)
deriving DecidableEq

def DatabaseError.message : DatabaseError → String
  | .recordNotFound table identifier =>
      "No record found in '" ++ table ++ "' matching identifier: " ++ toString identifier
  | .concurrentUpdate table recordId expectedVersion =>
      "Optimistic lock conflict on '" ++ table ++ "' id=" ++ toString recordId ++ ": expected version "
        ++ toString expectedVersion ++ " did not match the current row version."
  | .constraintViolation table constraint =>
      "Constraint violation on '" ++ table ++ "'" ++ (constraint.elim "" fun kind => " (" ++ kind ++ ")")
  | .invalidQuery message => message
  | .connection message => message
  | .repository message => message

/-- Failures of the workflow engine. -/
inductive EngineError where
  | noActiveDefinition (requestType : String)
  | multipleActiveDefinitions (requestType : String) (activeDefinitionIds : List UUID)
  | nonSequentialStageOrder (highestExistingOrder attemptedNextOrder : Nat)
  | stageNotFoundInDefinition (stageOrder : Nat)
  | invalidStateTransition (entity currentState attemptedState : String)
  | inputValidation (fieldName reason : String)
  | unknownAssignee (assignedUserId : UUID)
  | definitionAlreadyActive (definitionId : UUID)
  | mismatchedRequestType (candidate currentlyActive : String)
  | definitionEditNotAllowed (definitionId : UUID)
  | overflow
deriving DecidableEq

def EngineError.message : EngineError → String
  | .noActiveDefinition requestType =>
      "No active workflow definition exists for request type '" ++ requestType ++ "'."
  | .multipleActiveDefinitions requestType ids =>
      "Found " ++ toString ids.length ++ " active workflow definitions for request type '" ++ requestType
        ++ "'; expected at most one."
  | .nonSequentialStageOrder highest attempted =>
      "Next stage order must be exactly " ++ toString (highest + 1) ++ ", got " ++ toString attempted ++ "."
  | .stageNotFoundInDefinition stageOrder =>
      "No stage with order " ++ toString stageOrder ++ " exists in this workflow definition."
  | .invalidStateTransition entity current attempted =>
      "Invalid " ++ entity ++ " state transition: '" ++ current ++ "' -> '" ++ attempted
        ++ "' is not a documented transition."
  | .inputValidation fieldName reason => "Validation failed for '" ++ fieldName ++ "': " ++ reason
  | .unknownAssignee assignedUserId =>
      "assigned_user_id '" ++ toString assignedUserId ++ "' does not resolve to a known profile."
  | .definitionAlreadyActive definitionId =>
      "Workflow definition '" ++ toString definitionId ++ "' is already active."
  | .mismatchedRequestType candidate currentlyActive =>
      "Cannot activate a '" ++ candidate ++ "' definition to replace the active '" ++ currentlyActive
        ++ "' definition; request types must match."
  | .definitionEditNotAllowed definitionId =>
      "Workflow definition '" ++ toString definitionId
        ++ "' is active and cannot be edited in place; create a new version instead."
  | .overflow => "date value out of range"

inductive AuthError where
  | sessionExpired
  | roleNotPermitted (role : UserRole) (allowedRoles : List UserRole)
  | ownershipRequired (resource : String)
  | permissionDenied (role : UserRole) (requiredPermission : String)
deriving DecidableEq

def AuthError.message : AuthError → String
  | .sessionExpired => "The current session has expired."
  | .roleNotPermitted role allowedRoles =>
      "Role '" ++ role.value ++ "' is not permitted; expected one of ("
        ++ ", ".intercalate (allowedRoles.map fun allowed => "'" ++ allowed.value ++ "'") ++ ")."
  | .ownershipRequired resource => "Caller is not the owner of, or associated with, this " ++ resource ++ "."
  | .permissionDenied role requiredPermission =>
      "Role '" ++ role.value ++ "' does not carry the required permission '" ++ requiredPermission ++ "'."

/-- What a service operation may raise: its own error classes, or an exception of a lower layer. -/
inductive AppError where
  | validation (message : String)
  | notFound (resource : String) (identifier : UUID)
  | permissionDenied (message : String)
  | concurrency (message : String)
  | workflow (message : String)
  | assignment (message : String)
  | configuration (message : String)
  | eah (message : String)
  | auth (error : AuthError)
  | database (error : DatabaseError)
  | engine (error : EngineError)
deriving DecidableEq

def translateDatabaseError (error : DatabaseError) : AppError :=
  match error with
  | .recordNotFound table identifier => .notFound table identifier
  | .concurrentUpdate .. => .concurrency error.message
  | .constraintViolation .. => .validation error.message
  | .invalidQuery .. => .validation error.message
  | .connection .. => .configuration error.message
  | .repository .. => .eah error.message

def translateWorkflowError (error : EngineError) : AppError :=
  match error with
  | .noActiveDefinition _ => .validation error.message
  | .definitionAlreadyActive _ => .concurrency error.message
  | .unknownAssignee _ => .assignment error.message
  | _ => .workflow error.message

def translateAuthError (error : AuthError) : AppError :=
  .permissionDenied error.message

/-- The message of an `EAHError`; the exceptions of the lower layers are none. -/
def AppError.eahMessage : AppError → Option String
  | .notFound resource identifier => some (resource ++ " not found: " ++ toString identifier)
  | .validation message | .permissionDenied message | .concurrency message | .workflow message | .assignment message
  | .configuration message | .eah message => some message
  | .auth _ | .database _ | .engine _ => none

end AutomationHub.Model
