import Mathlib.Data.Rat.Floor
import Mathlib.Data.List.Sort

/-!
Enumerations, identifiers, text and time shared by every layer.

Instants are whole microseconds since the first instant a `datetime` can hold.
-/

set_option autoImplicit false

namespace AutomationHub.Model

inductive UserRole where
  | employee
  | approver
  | admin
deriving DecidableEq

inductive RequestStatus where
  | pending
  | inReview
  | approved
  | rejected
  | completed
deriving DecidableEq

inductive StageStatus where
  | pending
  | approved
  | rejected
  | skipped
deriving DecidableEq

def UserRole.value : UserRole → String
  | .employee => "employee"
  | .approver => "approver"
  | .admin => "admin"

def RequestStatus.value : RequestStatus → String
  | .pending => "pending"
  | .inReview => "in_review"
  | .approved => "approved"
  | .rejected => "rejected"
  | .completed => "completed"

def StageStatus.value : StageStatus → String
  | .pending => "pending"
  | .approved => "approved"
  | .rejected => "rejected"
  | .skipped => "skipped"

inductive AssignmentStrategy where
  | specificUser
  | departmentQueue
  | requesterManager
deriving DecidableEq

inductive NotificationType where
  | assignment
  | reminder
  | escalation
  | decision
  | completion
  | system
deriving DecidableEq

def NotificationType.value : NotificationType → String
  | .assignment => "assignment"
  | .reminder => "reminder"
  | .escalation => "escalation"
  | .decision => "decision"
  | .completion => "completion"
  | .system => "system"

/-- The audit action codes. -/
inductive AuditAction where
  | requestCreated
  | requestWithdrawn
  | stageApproved
  | stageRejected
  | stageEscalated
  | workflowDefinitionActivated
  | commentCreated
  | commentRemoved
  | attachmentUploaded
  | attachmentRemoved
  | profileUpdated
  | profileDeactivated
  | profileReactivated
  | profileErased
  | invitationCreated
  | invitationResent
  | invitationRevoked
  | invitationAccepted
  | jobRetried
  | scheduledJobEnabled
  | scheduledJobDisabled
  | scheduledJobTriggered
  | companyCreated
  | companySuspended
  | companyReactivated
  | companyDeleted
  | companyRestored
  | companySettingsUpdated
  | companyLicenseUpdated
  | featureFlagUpdated
deriving DecidableEq

def AuditAction.value : AuditAction → String
  | .requestCreated => "REQUEST_CREATED"
  | .requestWithdrawn => "REQUEST_WITHDRAWN"
  | .stageApproved => "STAGE_APPROVED"
  | .stageRejected => "STAGE_REJECTED"
  | .stageEscalated => "STAGE_ESCALATED"
  | .workflowDefinitionActivated => "WORKFLOW_DEFINITION_ACTIVATED"
  | .commentCreated => "COMMENT_CREATED"
  | .commentRemoved => "COMMENT_REMOVED"
  | .attachmentUploaded => "ATTACHMENT_UPLOADED"
  | .attachmentRemoved => "ATTACHMENT_REMOVED"
  | .profileUpdated => "PROFILE_UPDATED"
  | .profileDeactivated => "PROFILE_DEACTIVATED"
  | .profileReactivated => "PROFILE_REACTIVATED"
  | .profileErased => "PROFILE_ERASED"
  | .invitationCreated => "INVITATION_CREATED"
  | .invitationResent => "INVITATION_RESENT"
  | .invitationRevoked => "INVITATION_REVOKED"
  | .invitationAccepted => "INVITATION_ACCEPTED"
  | .jobRetried => "JOB_RETRIED"
  | .scheduledJobEnabled => "SCHEDULED_JOB_ENABLED"
  | .scheduledJobDisabled => "SCHEDULED_JOB_DISABLED"
  | .scheduledJobTriggered => "SCHEDULED_JOB_TRIGGERED"
  | .companyCreated => "COMPANY_CREATED"
  | .companySuspended => "COMPANY_SUSPENDED"
  | .companyReactivated => "COMPANY_REACTIVATED"
  | .companyDeleted => "COMPANY_DELETED"
  | .companyRestored => "COMPANY_RESTORED"
  | .companySettingsUpdated => "COMPANY_SETTINGS_UPDATED"
  | .companyLicenseUpdated => "COMPANY_LICENSE_UPDATED"
  | .featureFlagUpdated => "FEATURE_FLAG_UPDATED"

inductive JobPriority where
  | high
  | normal
  | low
deriving DecidableEq

def JobPriority.value : JobPriority → String
  | .high => "high"
  | .normal => "normal"
  | .low => "low"

inductive JobStatus where
  | queued
  | running
  | retrying
  | succeeded
  | deadLettered
deriving DecidableEq

def JobStatus.value : JobStatus → String
  | .queued => "queued"
  | .running => "running"
  | .retrying => "retrying"
  | .succeeded => "succeeded"
  | .deadLettered => "dead_lettered"

inductive AttachmentScanStatus where
  | skipped
  | clean
  | infected
  | scanError
deriving DecidableEq

abbrev UUID := Nat

abbrev Datetime := Nat

/-- The last microsecond of year 9999. -/
def Datetime.max : Datetime := 315537897599999999

def microsecondsPerHour : Nat := 3600000000

/-- The longest `timedelta`, 999999999 days and all but a microsecond of the next. -/
def timedeltaMax : Int := 86399999999999999999

/-- Round to the nearest integer, ties to the even neighbour. -/
def roundHalfEven (value : ℚ) : Int :=
  let below := value.floor
  let rest := value - below
  if rest < 1 / 2 then below
  else if 1 / 2 < rest then below + 1
  else if below % 2 = 0 then below else below + 1

/-- A positive duration in hours as `Field(gt=0)` admits it: a float, infinity included. -/
inductive Hours where
  | finite (hours : ℚ)
  | infinite
deriving DecidableEq

def Hours.Positive : Hours → Prop
  | .finite hours => 0 < hours
  | .infinite => True

instance (duration : Hours) : Decidable duration.Positive :=
  match duration with
  | .finite hours => inferInstanceAs (Decidable (0 < hours))
  | .infinite => inferInstanceAs (Decidable True)

/-- `value + timedelta(hours=duration)`; `none` is an `OverflowError`. -/
def addHours (value : Datetime) : Hours → Option Datetime
  | .infinite => none
  | .finite hours =>
      let offset := roundHalfEven (hours * microsecondsPerHour)
      let sum := (value : Int) + offset
      if timedeltaMax < offset.natAbs ∨ sum < 0 ∨ (Datetime.max : Int) < sum then none else some sum.toNat

/-- `value - timedelta(hours=duration)`; `none` is an `OverflowError`. -/
def subtractHours (value : Datetime) : Hours → Option Datetime
  | .infinite => none
  | .finite hours =>
      let offset := roundHalfEven (hours * microsecondsPerHour)
      let difference := (value : Int) - offset
      if timedeltaMax < offset.natAbs ∨ difference < 0 ∨ (Datetime.max : Int) < difference then none
      else some difference.toNat

def isPast (value reference : Datetime) : Bool := value < reference

/-- The calendar date of a day counted from the first of March of year 0. -/
def civilFromDays (days : Nat) : Nat × Nat × Nat :=
  let era := days / 146097
  let dayOfEra := days % 146097
  let yearOfEra := (dayOfEra - dayOfEra / 1460 + dayOfEra / 36524 - dayOfEra / 146096) / 365
  let dayOfYear := dayOfEra - (365 * yearOfEra + yearOfEra / 4 - yearOfEra / 100)
  let shifted := (5 * dayOfYear + 2) / 153
  let day := dayOfYear - (153 * shifted + 2) / 5 + 1
  let month := if shifted < 10 then shifted + 3 else shifted - 9
  (yearOfEra + era * 400 + (if month ≤ 2 then 1 else 0), month, day)

/-- A decimal numeral with leading zeros up to `width` digits. -/
def padded (width value : Nat) : String :=
  let digits := (Nat.toDigits 10 value)
  String.ofList (List.replicate (width - digits.length) '0' ++ digits)

def formatIso8601 (value : Datetime) : String :=
  let seconds := value / 1000000
  let fraction := value % 1000000
  -- The first of January of year 1 is 306 days after the first of March of year 0.
  let (year, month, day) := civilFromDays (seconds / 86400 + 306)
  padded 4 year ++ "-" ++ padded 2 month ++ "-" ++ padded 2 day ++ "T" ++ padded 2 (seconds % 86400 / 3600) ++ ":"
    ++ padded 2 (seconds % 3600 / 60) ++ ":" ++ padded 2 (seconds % 60)
    ++ (if fraction = 0 then "" else "." ++ padded 6 fraction) ++ "Z"

/-- The characters `str.strip` removes. -/
def isSpace (c : Char) : Bool :=
  c.toNat ∈ [0x09, 0x0a, 0x0b, 0x0c, 0x0d, 0x1c, 0x1d, 0x1e, 0x1f, 0x20, 0x85, 0xa0, 0x1680, 0x2000, 0x2001, 0x2002,
    0x2003, 0x2004, 0x2005, 0x2006, 0x2007, 0x2008, 0x2009, 0x200a, 0x2028, 0x2029, 0x202f, 0x205f, 0x3000]

def strip (text : String) : String :=
  String.ofList ((text.toList.dropWhile isSpace).reverse.dropWhile isSpace).reverse

/-- A note the API accepts with a decision: 1 to 1000 characters once stripped. -/
structure DecisionNote where
  text : String
  stripped : strip text = text
  nonempty : 1 ≤ text.length
  bounded : text.length ≤ 1000

end AutomationHub.Model
