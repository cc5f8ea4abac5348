import AutomationHub.Auth.Authorization

/-!
Creation of notifications and dispatch of their e-mails.
-/

set_option autoImplicit false

namespace AutomationHub.Services

open Foundation Model Database Auth

/-- Send a statement; the reply tells whether the database raised. -/
def attempt (statement : Query) : Service (Except DatabaseError statement.Result) :=
  ask (.query statement)

/-- Send a statement; every `DatabaseError` becomes the error of the service layer. -/
def orTranslate (statement : Query) : Service statement.Result := do
  match ← attempt statement with
  | .ok result => return result
  | .error error => throw (translateDatabaseError error)

/-- Send a statement; only `RecordNotFoundError` is translated, any other exception passes. -/
def orNotFound (statement : Query) : Service statement.Result := do
  match ← attempt statement with
  | .ok result => return result
  | .error (.recordNotFound table identifier) => throw (translateDatabaseError (.recordNotFound table identifier))
  | .error error => throw (.database error)

/-- Send a statement outside any `try`. -/
def orRaise (statement : Query) : Service statement.Result := do
  match ← attempt statement with
  | .ok result => return result
  | .error error => throw (.database error)

def log (line : LogLine) : Service Unit := ask (.log line)

/-- Raise the translation of an engine error. -/
def engineOrTranslate {α : Type} (result : Except EngineError α) : Service α :=
  Program.ofExcept (result.mapError translateWorkflowError)

/-- Let an engine error pass. -/
def engineOrRaise {α : Type} (result : Except EngineError α) : Service α :=
  Program.ofExcept (result.mapError AppError.engine)

/-- `(in_app_enabled, email_enabled)` for a recipient, as the caller's client may read it. -/
def effectivePreference (viewer : Option UUID) (recipientId : UUID) (notificationType : NotificationType) :
    Service (Bool × Bool) := do
  let configured ← orTranslate (.getPreferences viewer recipientId)
  match configured.find? fun preference => preference.notificationType == notificationType with
  | some preference => return (preference.inAppEnabled, preference.emailEnabled)
  | none => return (true, true)

/-- A field that is not given keeps its current effective value. -/
def updatePreference (client : Option UUID) (identity : AuthenticatedIdentity) (notificationType : NotificationType)
    (inAppEnabled emailEnabled : Option Bool) : Service NotificationPreferenceRecord := do
  let (currentInApp, currentEmail) ← effectivePreference client identity.userId notificationType
  orTranslate (.upsertPreference client identity.userId notificationType (inAppEnabled.getD currentInApp)
    (emailEnabled.getD currentEmail))

def attemptEmailDispatch (notification : NotificationRecord) : Service NotificationRecord := do
  let mailer ← ask .readMailer
  if mailer.sender.isNone then return notification
  match ← ask (.sendEmail notification) with
  | .raised => return notification
  | .sent => orRaise (.markEmailSent notification.id)
  | .refused => return notification

def createAndDispatch (viewer : Option UUID) (recipientId : UUID) (requestId : Option UUID)
    (notificationType : NotificationType) (message : String) : Service (Option NotificationRecord) := do
  let (inAppEnabled, emailEnabled) ← effectivePreference viewer recipientId notificationType
  if !inAppEnabled then return none
  let created ← orTranslate (.createNotification recipientId notificationType message requestId)
  if !emailEnabled then return some created
  let mailer ← ask .readMailer
  if mailer.background then
    ask (.submitEmail created)
    return some created
  return some (← attemptEmailDispatch created)

def notifyAssignment (viewer : Option UUID) (recipientId requestId : UUID) (message : String) :=
  createAndDispatch viewer recipientId (some requestId) .assignment message

def notifyReminder (viewer : Option UUID) (recipientId requestId : UUID) (message : String) :=
  createAndDispatch viewer recipientId (some requestId) .reminder message

def notifyEscalation (viewer : Option UUID) (recipientId requestId : UUID) (message : String) :=
  createAndDispatch viewer recipientId (some requestId) .escalation message

def notifyDecision (viewer : Option UUID) (recipientId requestId : UUID) (message : String) :=
  createAndDispatch viewer recipientId (some requestId) .decision message

def notifyCompletion (viewer : Option UUID) (recipientId requestId : UUID) (message : String) :=
  createAndDispatch viewer recipientId (some requestId) .completion message

end AutomationHub.Services
