import AutomationHub.System.Footprints

/-!
Reminders in every run of the Reminder Dispatch job, of the jobs that it queues and of
whatever else writes notifications.

A run of the job looks at one page of the recipient's notifications; the reminder is
inserted later, by the run itself or by a worker.
-/

set_option autoImplicit false

namespace AutomationHub.System

open Foundation Model Database Services Jobs Scheduler Program Table

inductive ReminderTask where
  | tick (dispatcher : JobDispatcher)
  | attempt (position : Nat) (recipientId requestId : UUID) (message : String)

/-- A tick of the job, or a worker's attempt at a job that a tick has queued. -/
def ReminderTask.program (settings : ReminderSettings) : ReminderTask → Service Unit
  | .tick dispatcher => reminderJobWith settings dispatcher
  | .attempt _ recipientId requestId message => executeJob (.sendReminder recipientId requestId message)

/-- The page that the duplicate check looks at. -/
def firstPage (world : World) (recipientId : UUID) : List NotificationRecord :=
  slice 50 0 (world.notificationsForRecipient recipientId)

/-- No reminder of the request on the page is within the cooldown. -/
def ShowsNone (settings : ReminderSettings) (page : List NotificationRecord) (requestId : UUID) (now : Datetime) : Prop :=
  ∀ notification ∈ page, notification.notificationType = .reminder → notification.requestId = some requestId →
    settings.duplicateCooldownHours < hoursBetween notification.createdAt now

/-- How far a tick is with its duplicate check: the page listed, and the instant it is compared with. -/
structure DuplicateCheck where
  listed : Option (UUID × List NotificationRecord)
  readAt : Option Datetime

namespace DuplicateCheck

def unmade : DuplicateCheck := ⟨none, none⟩

def after (check : DuplicateCheck) : (call : Call) → call.Reply → DuplicateCheck
  | .query (.listNotificationsForRecipient recipientId _), .ok result => ⟨some (recipientId, result.items), none⟩
  | .query (.listNotificationsForRecipient ..), .error _ => unmade
  | .utcNow, now => { check with readAt := some now }
  | _, _ => check

def Passed (settings : ReminderSettings) (check : DuplicateCheck) (recipientId requestId : UUID) : Prop :=
  ∃ page now, check.listed = some (recipientId, page) ∧ check.readAt = some now ∧ ShowsNone settings page requestId now

end DuplicateCheck

/-- A tick looks at the first page of 50, and inserts or queues a reminder only behind a check that passed; an attempt
inserts only the reminder of its job. -/
def ReminderTask.Permits (settings : ReminderSettings) (check : DuplicateCheck) : ReminderTask → Call → Prop
  | .tick _, .query (.createNotification recipientId _ _ requestId) =>
      ∃ request, requestId = some request ∧ check.Passed settings recipientId request
  | .tick _, .query (.enqueueJob _ payload _ _ _) =>
      ∃ recipientId requestId message, payload = .sendReminder recipientId requestId message ∧
        check.Passed settings recipientId requestId
  | .attempt _ recipientId requestId _, .query (.createNotification recipient _ _ request) =>
      recipient = recipientId ∧ request = some requestId
  | .tick _, .query (.listNotificationsForRecipient _ page) => page.size = 50 ∧ page.number = 1
  | .attempt .., .query (.enqueueJob ..) | .attempt .., .query (.listNotificationsForRecipient ..) => False
  | _, _ => True

def reminderDiscipline (settings : ReminderSettings) (task : ReminderTask) : Protocol hubSignature DuplicateCheck where
  permits := fun check call => task.Permits settings check call
  answers := fun check call reply after => after = check.after call reply

section Programs

variable {settings : ReminderSettings} {check : DuplicateCheck} {recipientId requestId : UUID}

theorem scanning_permitted {task : ReminderTask} {call : Call} (scanning : ScanningCall call) :
    task.Permits settings check call := by
  cases task with
  | tick dispatcher =>
      cases call with
      | query statement => cases statement <;> trivial
      | _ => trivial
  | attempt position recipientId requestId message =>
      cases call with
      | query statement => cases statement <;> trivial
      | _ => trivial

theorem delivering_passed {dispatcher : JobDispatcher} {kind : NotificationType} {call : Call}
    (passed : check.Passed settings recipientId requestId) (delivering : DeliveryCall recipientId (some requestId) kind call) :
    (ReminderTask.tick dispatcher).Permits settings check call ∧ ∀ reply, check.after call reply = check := by
  cases call with
  | query statement =>
      cases statement with
      | createNotification recipient type message request =>
          obtain ⟨rfl, -, rfl⟩ := delivering
          exact ⟨⟨requestId, rfl, passed⟩, fun _ => rfl⟩
      | getPreferences => exact ⟨trivial, fun _ => rfl⟩
      | markEmailSent => exact ⟨trivial, fun _ => rfl⟩
      | _ => cases delivering
  | utcNow => cases delivering
  | log line => cases delivering
  | readMailer => exact ⟨trivial, fun _ => rfl⟩
  | sendEmail notification => exact ⟨trivial, fun _ => rfl⟩
  | submitEmail notification => exact ⟨trivial, fun _ => rfl⟩

theorem ensures_enqueue_passed (dispatcher : JobDispatcher) (message : String)
    (passed : check.Passed settings recipientId requestId) :
    (dispatcher.enqueue "escalation" (.sendReminder recipientId requestId message) .low 3 requestId).Ensures
      (reminderDiscipline settings (.tick dispatcher)) (fun _ _ => True) check := by
  cases dispatcher with
  | queued =>
      refine (ensures_bind ..).mpr ((ensures_orRaise ..).mpr ⟨⟨_, _, _, rfl, passed⟩, ?_⟩)
      intro reply after _
      cases reply <;> trivial
  | synchronous =>
      have delivered : (notifyReminder none recipientId requestId message).Ensures
          (reminderDiscipline settings (.tick .synchronous)) (fun _ final => final.Passed settings recipientId requestId)
          check := by
        refine (delivering_createAndDispatch none message).ensures _ ?_ passed
        intro check call passed delivering
        obtain ⟨permitted, still⟩ := @delivering_passed _ _ _ _ .synchronous _ _ passed delivering
        refine ⟨permitted, ?_⟩
        intro reply after answered
        rw [show after = check.after call reply from answered, still]
        exact passed
      refine (ensures_tryCatch ..).mpr ((ensures_bind ..).mpr ((ensures_bind ..).mpr (delivered.mono ?_)))
      intro result final _
      cases result with
      | ok created => trivial
      | error error => exact ⟨trivial, fun _ _ _ => trivial⟩

theorem ensures_recentlyReminded (dispatcher : JobDispatcher) (stage : WorkflowStageRecord) :
    (recentlyReminded settings stage recipientId).Ensures (reminderDiscipline settings (.tick dispatcher))
      (fun result final => result = .ok false → final.Passed settings recipientId stage.requestId) check := by
  refine (ensures_bind ..).mpr ((ensures_orRaise ..).mpr ⟨⟨rfl, rfl⟩, ?_⟩)
  intro reply after listed
  cases reply with
  | error error =>
      intro raised
      cases raised
  | ok page =>
      obtain rfl : after = ⟨some (recipientId, page.items), none⟩ := listed
      refine (ensures_bind ..).mpr ((ensures_utcNow ..).mpr ⟨trivial, ?_⟩)
      intro now after read
      obtain rfl : after = ⟨some (recipientId, page.items), some now⟩ := read
      intro answer
      refine ⟨page.items, now, rfl, rfl, ?_⟩
      intro notification member reminder request
      have unrecent := List.any_eq_false.mp (Except.ok.inj answer) notification member
      rw [reminder, request] at unrecent
      simpa using unrecent

theorem ensures_remindIfDue (dispatcher : JobDispatcher) (stage : WorkflowStageRecord) (context : StageContext) :
    (remindIfDue settings dispatcher stage recipientId context).Ensures
      (reminderDiscipline settings (.tick dispatcher)) (fun _ _ => True) check := by
  have scanned : (isStageEscalationEligible stage context.stageDefinition.escalationHours).Ensures
      (reminderDiscipline settings (.tick dispatcher)) (fun _ _ => True) check :=
    (only_isStageEscalationEligible ..).ensures (fun _ => True)
      (fun _ _ _ scanning => ⟨scanning_permitted scanning, fun _ _ _ => trivial⟩) trivial
  refine (ensures_bind ..).mpr (scanned.mono ?_)
  intro result final _
  cases result with
  | error error => trivial
  | ok eligible =>
      cases eligible with
      | true => trivial
      | false =>
          refine (ensures_bind ..).mpr ((ensures_utcNow ..).mpr ⟨trivial, ?_⟩)
          intro now after _
          change Ensures _ (if _ then _ else _) _ _
          split
          · trivial
          · refine (ensures_bind ..).mpr ((ensures_recentlyReminded dispatcher stage).mono ?_)
            intro answer last passed
            cases answer with
            | error error => trivial
            | ok reminded =>
                cases reminded with
                | true => trivial
                | false => exact ensures_enqueue_passed dispatcher _ (passed rfl)

theorem ensures_reminderTask (task : ReminderTask) :
    (task.program settings).Ensures (reminderDiscipline settings task) (fun _ _ => True) check := by
  cases task with
  | tick dispatcher =>
      refine safe_reminderJobWith (compositional_ensures (reminderDiscipline settings (.tick dispatcher)) fun _ => True)
        ?_ settings dispatcher ?_ check trivial
      · intro call scanning check _
        exact ⟨scanning_permitted scanning, fun _ _ _ => trivial⟩
      · intro stage recipientId context check _
        exact ensures_remindIfDue dispatcher stage context
  | attempt position recipientId requestId message =>
      have delivered : (notifyReminder none recipientId requestId message).Ensures
          (reminderDiscipline settings (.attempt position recipientId requestId message)) (fun _ _ => True) check := by
        refine (delivering_createAndDispatch none message).ensures _ ?_ trivial
        intro check call _ delivering
        refine ⟨?_, fun _ _ _ => trivial⟩
        cases call with
        | query statement =>
            cases statement with
            | createNotification recipient type message request =>
                obtain ⟨rfl, -, rfl⟩ := delivering
                exact ⟨rfl, rfl⟩
            | enqueueJob => cases delivering
            | listNotificationsForRecipient => cases delivering
            | _ => trivial
        | _ => trivial
      refine (ensures_tryCatch ..).mpr ((ensures_bind ..).mpr ((ensures_bind ..).mpr (delivered.mono ?_)))
      intro result final _
      cases result with
      | ok created => trivial
      | error error => exact ⟨trivial, fun _ _ _ => trivial⟩

end Programs

section Runs

variable {ι : Type} [DecidableEq ι]

/-- The same notification, whatever has become of its flags. -/
structure SameNotification (left right : NotificationRecord) : Prop where
  id : left.id = right.id
  recipientId : left.recipientId = right.recipientId
  requestId : left.requestId = right.requestId
  notificationType : left.notificationType = right.notificationType
  createdAt : left.createdAt = right.createdAt

/-- What happens beside the tasks: notifications are read, archived and restored, others are inserted, and anything else
may change; the clock does not go back. -/
structure Drifts (before after : World) : Prop where
  later : before.now ≤ after.now
  kept : ∀ row ∈ before.notifications.rows, ∃ left ∈ after.notifications.rows, SameNotification row left
  others : ∀ left ∈ after.notifications.rows, left.notificationType = .reminder →
    ∃ row ∈ before.notifications.rows, SameNotification row left

/-- The call is answered, or failed by the database; what it asked for may have been done all the same. -/
def striking (world : World) (call : Call) (reply : call.Reply) (after : World) : Prop :=
  environment call world = (reply, after) ∨
    ∃ error, call.failed error = some reply ∧ (after = world.tick ∨ after = (environment call world).2)

/-- A job that a tick has queued, with the state in which the tick had made its check. -/
structure QueuedReminder where
  payload : TaskPayload
  checked : World

/-- A notification that a task has inserted, with the table that it was inserted into and the state in which the check for
it was made. -/
structure Creation where
  notification : NotificationRecord
  earlier : List NotificationRecord
  checked : World

structure ReminderRun (ι : Type) where
  world : World
  checks : ι → DuplicateCheck
  checked : ι → World
  queue : List QueuedReminder
  creations : List Creation

/-- An attempt is at a job that is there. -/
def ReminderTask.Runnable (queue : List QueuedReminder) : ReminderTask → Prop
  | .tick _ => True
  | .attempt position recipientId requestId message =>
      ∃ job, queue[position]? = some job ∧ job.payload = .sendReminder recipientId requestId message

/-- The state in which the check behind a task was made. -/
def ReminderTask.checkedIn (queue : List QueuedReminder) (own : World) : ReminderTask → World
  | .tick _ => own
  | .attempt position .. => (queue[position]?.map QueuedReminder.checked).getD own

def lists : Call → Bool
  | .query (.listNotificationsForRecipient ..) => true
  | _ => false

def inserted (before after : World) : Call → List NotificationRecord
  | .query (.createNotification ..) => after.notifications.rows.drop before.notifications.rows.length
  | _ => []

def enqueued (before after : World) : Call → List TaskPayload
  | .query (.enqueueJob _ payload _ _ _) => (after.jobs.rows.drop before.jobs.rows.length).map fun _ => payload
  | _ => []

def reminding (tasks : ι → ReminderTask) : Effect hubSignature (ReminderRun ι) ι := fun thread state call reply after =>
  ∃ found : World, Drifts state.world found ∧ striking found call reply after.world ∧ found.now ≤ after.world.now ∧
    (tasks thread).Runnable state.queue ∧
    after.checks = Function.update state.checks thread ((state.checks thread).after call reply) ∧
    after.checked = (if lists call then Function.update state.checked thread found else state.checked) ∧
    after.queue = state.queue ++ (enqueued found after.world call).map (fun payload =>
      ⟨payload, state.checked thread⟩) ∧
    after.creations = state.creations ++ (inserted found after.world call).map fun notification =>
      ⟨notification, found.notifications.rows, (tasks thread).checkedIn state.queue (state.checked thread)⟩

def launchReminders (settings : ReminderSettings) (tasks : ι → ReminderTask) (start : World) :
    Pool hubSignature AppError (ReminderRun ι) ι where
  shared := { world := start, checks := fun _ => DuplicateCheck.unmade, checked := fun _ => start, queue := [],
              creations := [] }
  threads := fun thread => (tasks thread).program settings

/-- Every reminder on its way, or inserted, has passed a check in a state before. -/
structure Deduplicated (settings : ReminderSettings) (state : ReminderRun ι) : Prop where
  listed : ∀ thread recipientId page, (state.checks thread).listed = some (recipientId, page) →
    page = firstPage (state.checked thread) recipientId
  read : ∀ thread now, (state.checks thread).readAt = some now → now ≤ state.world.now
  queued : ∀ job ∈ state.queue, ∀ recipientId requestId message, job.payload = .sendReminder recipientId requestId message →
    ∃ now, now ≤ state.world.now ∧ ShowsNone settings (firstPage job.checked recipientId) requestId now
  created : ∀ creation ∈ state.creations, ∃ requestId, creation.notification.requestId = some requestId ∧
    ShowsNone settings (firstPage creation.checked creation.notification.recipientId) requestId
      creation.notification.createdAt

variable {settings : ReminderSettings} {tasks : ι → ReminderTask} {thread : ι} {state after : ReminderRun ι} {call : Call}
  {reply : call.Reply}

theorem hoursBetween_le {start finish last : Datetime} (later : finish ≤ last) :
    hoursBetween start finish ≤ hoursBetween start last := by
  unfold hoursBetween
  have hours : (0 : ℚ) ≤ microsecondsPerHour := by
    unfold microsecondsPerHour
    norm_num
  have instants : (finish : ℚ) ≤ last := by exact_mod_cast later
  gcongr

theorem ShowsNone.later {page : List NotificationRecord} {requestId : UUID} {now later : Datetime}
    (none : ShowsNone settings page requestId now) (after : now ≤ later) : ShowsNone settings page requestId later := by
  intro notification member reminder request
  exact lt_of_lt_of_le (none notification member reminder request) (hoursBetween_le after)

theorem left_by_striking {world left : World} (struck : striking world call reply left) :
    left = world.tick ∨ left = (environment call world).2 := by
  rcases struck with answered | ⟨error, -, left⟩
  · right
    rw [answered]
  · exact left

theorem inserted_of_striking {world left : World} (struck : striking world call reply left) {notification : NotificationRecord}
    (member : notification ∈ inserted world left call) :
    ∃ recipientId kind message requestId, call = .query (.createNotification recipientId kind message requestId) ∧
      notification.recipientId = recipientId ∧ notification.requestId = requestId ∧ notification.createdAt = world.now := by
  cases call with
  | query statement =>
      cases statement with
      | createNotification recipientId kind message requestId =>
          refine ⟨recipientId, kind, message, requestId, rfl, ?_⟩
          have rows : left.notifications = world.notifications ∨
              left.notifications = world.notifications.insert (world.newNotification recipientId kind message requestId) := by
            rcases left_by_striking struck with rfl | rfl
            · exact .inl rfl
            · change (world.createNotification _).2.notifications = _ ∨ (world.createNotification _).2.notifications = _
              unfold World.createNotification
              rcases outcome : insertRow "notifications" world.notifications _ _ with ⟨answer, extended⟩
              cases answer with
              | error error => exact .inl (insertRow_error outcome)
              | ok created => exact .inr (insertRow_ok_iff.mp outcome).2.2
          rcases rows with same | grown
          · simp [inserted, same] at member
          · rw [inserted, grown, insert_rows, List.drop_left] at member
            rw [List.mem_singleton.mp member]
            exact ⟨rfl, rfl, rfl⟩
      | _ => cases member
  | _ => cases member

theorem enqueued_of_member {world left : World} {payload : TaskPayload} (member : payload ∈ enqueued world left call) :
    ∃ queueName priority maxAttempts requestId,
      call = .query (.enqueueJob queueName payload priority maxAttempts requestId) := by
  cases call with
  | query statement =>
      cases statement with
      | enqueueJob queueName asked priority maxAttempts requestId =>
          obtain ⟨row, -, rfl⟩ := List.mem_map.mp member
          exact ⟨queueName, priority, maxAttempts, requestId, rfl⟩
      | _ => cases member
  | _ => cases member

theorem listed_after (check : DuplicateCheck) (call : Call) (reply : call.Reply) :
    (lists call = false ∧ (check.after call reply).listed = check.listed) ∨
      ∃ recipientId page, call = .query (.listNotificationsForRecipient recipientId page) := by
  cases call with
  | query statement =>
      cases statement with
      | listNotificationsForRecipient recipientId page => exact .inr ⟨recipientId, page, rfl⟩
      | _ => exact .inl ⟨rfl, rfl⟩
  | _ => exact .inl ⟨rfl, rfl⟩

theorem Deduplicated.listed_step (held : Deduplicated settings state)
    (permitted : (tasks thread).Permits settings (state.checks thread) call)
    (reminded : reminding tasks thread state call reply after) (other : ι) (recipientId : UUID)
    (page : List NotificationRecord) (listed : (after.checks other).listed = some (recipientId, page)) :
    page = firstPage (after.checked other) recipientId := by
  obtain ⟨found, -, struck, -, -, checks, checked, -⟩ := reminded
  by_cases own : other = thread
  · subst own
    rw [checks, Function.update_self] at listed
    rcases listed_after (state.checks other) call reply with ⟨unlisted, same⟩ | ⟨recipient, asked, rfl⟩
    · rw [same] at listed
      rw [checked, unlisted]
      exact held.listed other recipientId page listed
    · rw [checked, lists, if_pos rfl, Function.update_self]
      cases task : tasks other with
      | attempt => rw [task] at permitted; cases permitted
      | tick dispatcher =>
          rw [task] at permitted
          obtain ⟨size, number⟩ := permitted
          rcases struck with answered | ⟨error, failed, -⟩
          · obtain rfl : Except.ok (paginate (found.notificationsForRecipient recipient) asked) = reply :=
              congrArg Prod.fst answered
            obtain ⟨rfl, rfl⟩ := Prod.mk.inj (Option.some.inj listed)
            unfold firstPage paginate
            rw [size, number]
          · obtain rfl : Except.error error = reply := Option.some.inj failed
            cases listed
  · rw [checks, Function.update_of_ne own] at listed
    have same : after.checked other = state.checked other := by
      rw [checked]
      split
      · exact Function.update_of_ne own _ _
      · rfl
    rw [same]
    exact held.listed other recipientId page listed

theorem Deduplicated.read_step (held : Deduplicated settings state)
    (reminded : reminding tasks thread state call reply after) (other : ι) (now : Datetime)
    (read : (after.checks other).readAt = some now) : now ≤ after.world.now := by
  obtain ⟨found, drifts, struck, onward, -, checks, -⟩ := reminded
  have before : ∀ thread, (state.checks thread).readAt = some now → now ≤ after.world.now := by
    intro thread same
    exact (held.read thread now same).trans (drifts.later.trans onward)
  rw [checks] at read
  by_cases own : other = thread
  · subst own
    rw [Function.update_self] at read
    cases call with
    | utcNow =>
        rcases struck with answered | ⟨error, failed, -⟩
        · obtain rfl : found.now = reply := congrArg Prod.fst answered
          obtain rfl := Option.some.inj read
          exact onward
        · cases failed
    | query statement =>
        cases statement with
        | listNotificationsForRecipient => cases reply <;> cases read
        | _ => exact before other read
    | _ => exact before other read
  · rw [Function.update_of_ne own] at read
    exact before other read

omit [DecidableEq ι] in
theorem Deduplicated.passed (held : Deduplicated settings state) {recipientId requestId : UUID}
    (passed : (state.checks thread).Passed settings recipientId requestId) :
    ∃ now, now ≤ state.world.now ∧ ShowsNone settings (firstPage (state.checked thread) recipientId) requestId now := by
  obtain ⟨page, now, listed, read, none⟩ := passed
  rw [held.listed thread recipientId page listed] at none
  exact ⟨now, held.read thread now read, none⟩

theorem Deduplicated.queued_step (held : Deduplicated settings state)
    (permitted : (tasks thread).Permits settings (state.checks thread) call)
    (reminded : reminding tasks thread state call reply after) (job : QueuedReminder) (member : job ∈ after.queue)
    (recipientId requestId : UUID) (message : String) (payload : job.payload = .sendReminder recipientId requestId message) :
    ∃ now, now ≤ after.world.now ∧ ShowsNone settings (firstPage job.checked recipientId) requestId now := by
  obtain ⟨found, drifts, -, onward, -, -, -, queue, -⟩ := reminded
  have later : state.world.now ≤ after.world.now := drifts.later.trans onward
  rw [queue] at member
  rcases List.mem_append.mp member with before | new
  · obtain ⟨now, past, none⟩ := held.queued job before recipientId requestId message payload
    exact ⟨now, past.trans later, none⟩
  · obtain ⟨asked, asking, rfl⟩ := List.mem_map.mp new
    obtain ⟨queueName, priority, maxAttempts, request, rfl⟩ := enqueued_of_member asking
    cases task : tasks thread with
    | attempt => rw [task] at permitted; cases permitted
    | tick dispatcher =>
        rw [task] at permitted
        obtain ⟨recipient, requestOf, text, same, passed⟩ := permitted
        obtain ⟨rfl, rfl, -⟩ := TaskPayload.sendReminder.inj (same.symm.trans payload)
        obtain ⟨now, past, none⟩ := held.passed passed
        exact ⟨now, past.trans later, none⟩

theorem Deduplicated.created_step (held : Deduplicated settings state)
    (permitted : (tasks thread).Permits settings (state.checks thread) call)
    (reminded : reminding tasks thread state call reply after) (creation : Creation)
    (member : creation ∈ after.creations) :
    ∃ requestId, creation.notification.requestId = some requestId ∧
      ShowsNone settings (firstPage creation.checked creation.notification.recipientId) requestId
        creation.notification.createdAt := by
  obtain ⟨found, drifts, struck, -, runnable, -, -, -, creations⟩ := reminded
  rw [creations] at member
  rcases List.mem_append.mp member with before | new
  · exact held.created creation before
  · obtain ⟨notification, inserted, rfl⟩ := List.mem_map.mp new
    obtain ⟨recipientId, kind, message, requestId, rfl, recipient, request, created⟩ := inserted_of_striking struck inserted
    have behind : ∃ requestOf now, requestId = some requestOf ∧ now ≤ state.world.now ∧
        ShowsNone settings (firstPage ((tasks thread).checkedIn state.queue (state.checked thread)) recipientId) requestOf
          now := by
      cases task : tasks thread with
      | tick dispatcher =>
          rw [task] at permitted
          obtain ⟨requestOf, same, passed⟩ := permitted
          obtain ⟨now, past, none⟩ := held.passed passed
          exact ⟨requestOf, now, same, past, none⟩
      | attempt position recipientOf requestOf text =>
          rw [task] at permitted runnable
          obtain ⟨rfl, rfl⟩ := permitted
          obtain ⟨job, there, payload⟩ := runnable
          obtain ⟨now, past, none⟩ := held.queued job (List.mem_of_getElem? there) _ _ _ payload
          refine ⟨requestOf, now, rfl, past, ?_⟩
          simp only [ReminderTask.checkedIn, there, Option.map_some, Option.getD_some]
          exact none
    obtain ⟨requestOf, now, same, past, none⟩ := behind
    refine ⟨requestOf, request.trans same, ?_⟩
    dsimp only
    rw [recipient, created]
    exact none.later (past.trans drifts.later)

theorem Deduplicated.step (held : Deduplicated settings state)
    (permitted : (tasks thread).Permits settings (state.checks thread) call)
    (reminded : reminding tasks thread state call reply after) : Deduplicated settings after where
  listed := held.listed_step permitted reminded
  read := held.read_step reminded
  queued := held.queued_step permitted reminded
  created := held.created_step permitted reminded

/-- Another reminder for the request and the recipient of a creation. -/
structure Repeats (earlier creation : NotificationRecord) : Prop where
  reminder : earlier.notificationType = .reminder
  recipientId : earlier.recipientId = creation.recipientId
  requestId : earlier.requestId = creation.requestId

/-- The notification is on the page that the check looks at: not archived, and among the newest. -/
def OnPage (world : World) (notification : NotificationRecord) : Prop :=
  ∃ row ∈ firstPage world notification.recipientId, SameNotification notification row

/-- Reminders are the cooldown apart just in case each reminder that is within the cooldown when another one is inserted
was on the page that the other one was checked against. -/
theorem reminders_apart_iff (settings : ReminderSettings) (tasks : ι → ReminderTask) (start : World)
    {last : Pool hubSignature AppError (ReminderRun ι) ι} {events : List (Event hubSignature ι)}
    (run : Pool.Run (reminding tasks) (launchReminders settings tasks start) events last) :
    (∀ creation ∈ last.shared.creations, ∀ earlier ∈ creation.earlier, Repeats earlier creation.notification →
        settings.duplicateCooldownHours ≤ hoursBetween earlier.createdAt creation.notification.createdAt) ↔
      ∀ creation ∈ last.shared.creations, ∀ earlier ∈ creation.earlier, Repeats earlier creation.notification →
        hoursBetween earlier.createdAt creation.notification.createdAt < settings.duplicateCooldownHours →
        OnPage creation.checked earlier := by
  have launched : Deduplicated settings (launchReminders settings tasks start).shared := by
    constructor
    · intro thread recipientId page listed
      cases listed
    · intro thread now read
      cases read
    · intro job member
      cases member
    · intro creation member
      cases member
  obtain ⟨-, held⟩ := @Pool.Run.tracked hubSignature AppError (ReminderRun ι) DuplicateCheck ι _ (reminding tasks)
    (fun thread => reminderDiscipline settings (tasks thread)) (fun _ _ _ => True) ReminderRun.checks
    (Deduplicated settings)
    (by
      intro thread state call reply after held permitted reminded
      have checks : after.checks = Function.update state.checks thread ((state.checks thread).after call reply) := by
        obtain ⟨found, -, -, -, -, checks, -⟩ := reminded
        exact checks
      refine ⟨?_, ?_, held.step permitted reminded⟩
      · change after.checks thread = _
        rw [checks, Function.update_self]
      · intro other apart
        rw [checks, Function.update_of_ne apart])
    _ _ _ run (fun thread => ensures_reminderTask (tasks thread)) launched
  constructor
  · intro apart creation member earlier before repeats recent
    exact absurd recent (not_lt.mpr (apart creation member earlier before repeats))
  · intro seen creation member earlier before repeats
    by_contra recent
    obtain ⟨row, shown, same⟩ := seen creation member earlier before repeats (not_le.mp recent)
    obtain ⟨requestId, request, none⟩ := held.created creation member
    rw [repeats.recipientId] at shown
    have old := none row shown (same.notificationType ▸ repeats.reminder)
      (same.requestId ▸ repeats.requestId.trans request)
    rw [← same.createdAt] at old
    exact recent old.le

omit [DecidableEq ι] in
theorem Drifts.refl (world : World) : Drifts world world where
  later := le_rfl
  kept := fun row member => ⟨row, member, rfl, rfl, rfl, rfl, rfl⟩
  others := fun row member _ => ⟨row, member, rfl, rfl, rfl, rfl, rfl⟩

/-- A call of a task that nothing disturbs. -/
def reminderHandler (tasks : ι → ReminderTask) (thread : ι) (_ : Unit) : Handler hubSignature (ReminderRun ι) :=
  fun call state =>
    let (reply, world) := environment call state.world
    (reply,
      { world
        checks := Function.update state.checks thread ((state.checks thread).after call reply)
        checked := if lists call then Function.update state.checked thread state.world else state.checked
        queue := state.queue ++ (enqueued state.world world call).map fun payload => ⟨payload, state.checked thread⟩
        creations := state.creations ++ (inserted state.world world call).map fun notification =>
          ⟨notification, state.world.notifications.rows, (tasks thread).checkedIn state.queue (state.checked thread)⟩ })

def ReminderTask.runs (queue : List QueuedReminder) : ReminderTask → Bool
  | .tick _ => true
  | .attempt position recipientId requestId message =>
      queue[position]?.any fun job => job.payload == .sendReminder recipientId requestId message

def timely (tasks : ι → ReminderTask) (thread : ι) (_ : Unit) (state : ReminderRun ι) (call : Call) : Bool :=
  decide (state.world.now ≤ (environment call state.world).2.now) && (tasks thread).runs state.queue

theorem reminding_of_timely (tasks : ι → ReminderTask) (thread : ι) (choice : Unit) (state : ReminderRun ι) (call : Call)
    (passed : timely tasks thread choice state call = true) :
    reminding tasks thread state call (reminderHandler tasks thread choice call state).1
      (reminderHandler tasks thread choice call state).2 := by
  obtain ⟨onward, runs⟩ := Bool.and_eq_true_iff.mp passed
  refine ⟨state.world, .refl _, .inl rfl, of_decide_eq_true onward, ?_, rfl, rfl, rfl, rfl⟩
  cases task : tasks thread with
  | tick => trivial
  | attempt position recipientId requestId message =>
      rw [task] at runs
      obtain ⟨job, there, payload⟩ := (Option.any_eq_true _ _).mp runs
      exact ⟨job, there, eq_of_beq payload⟩

end Runs

section Samples

/-- The hub with a request whose stage is three hours from its threshold; each call comes a minute after the one before. -/
def nearingHub : World :=
  { hubWithRequest "travel" with clock := fun tick => 334800000000 + tick * 60000000, ticks := 0 }

def nearingMessage : String :=
  "The stage 'Sign-off' on request 'Laptop' has been awaiting your decision since 0001-01-04T00:00:00Z and is nearing its " ++
    "escalation deadline."

/-- Two ticks that queue their reminders, and one attempt at each of two jobs. -/
def reminderTasks : Bool × Bool → ReminderTask
  | (false, _) => .tick .queued
  | (true, later) => .attempt later.toNat 2 1 nearingMessage

def reminderPool : Pool hubSignature AppError (ReminderRun (Bool × Bool)) (Bool × Bool) :=
  launchReminders defaultReminderSettings reminderTasks nearingHub

/-- One tick, and the attempt at its job. -/
def remindedOnce : List ((Bool × Bool) × Unit) :=
  List.replicate 9 ((false, false), ()) ++ List.replicate 5 ((true, false), ())

/-- A second tick comes before the worker. -/
def workerDelayed : List ((Bool × Bool) × Unit) :=
  List.replicate 9 ((false, false), ()) ++ List.replicate 9 ((false, true), ()) ++
    List.replicate 5 ((true, false), ()) ++ List.replicate 5 ((true, true), ())

theorem reminders_apart_iff_sample :
    ∃ last events, Pool.Run (reminding reminderTasks) reminderPool events last ∧ last.shared.creations ≠ [] ∧
      ∀ creation ∈ last.shared.creations, ∀ earlier ∈ creation.earlier, Repeats earlier creation.notification →
        defaultReminderSettings.duplicateCooldownHours ≤
          hoursBetween earlier.createdAt creation.notification.createdAt := by
  have run := Pool.enact_runs (reminding_of_timely reminderTasks) reminderPool remindedOnce (by decide +kernel)
  have one : (reminderPool.enact (reminderHandler reminderTasks) remindedOnce).shared.creations.length = 1 := by
    decide +kernel
  have first : (reminderPool.enact (reminderHandler reminderTasks) remindedOnce).shared.creations.all (fun creation =>
      creation.earlier.all fun earlier => earlier.notificationType != .reminder) = true := by decide +kernel
  refine ⟨_, _, run, List.ne_nil_of_length_pos (one.symm ▸ Nat.one_pos), ?_⟩
  apply (reminders_apart_iff defaultReminderSettings reminderTasks nearingHub run).mpr
  intro creation member earlier before repeats
  have other := List.all_eq_true.mp (List.all_eq_true.mp first creation member) earlier before
  rw [repeats.reminder] at other
  cases other

/-- The reminder of the first tick is still queued when the second one looks for it. -/
theorem queued_reminder_repeated :
    ¬ ∀ (last : Pool hubSignature AppError (ReminderRun (Bool × Bool)) (Bool × Bool))
        (events : List (Event hubSignature (Bool × Bool))), Pool.Run (reminding reminderTasks) reminderPool events last →
      ∀ creation ∈ last.shared.creations, ∀ earlier ∈ creation.earlier, Repeats earlier creation.notification →
        defaultReminderSettings.duplicateCooldownHours ≤
          hoursBetween earlier.createdAt creation.notification.createdAt := by
  intro apart
  have run := Pool.enact_runs (reminding_of_timely reminderTasks) reminderPool workerDelayed (by decide +kernel)
  have repeated : (reminderPool.enact (reminderHandler reminderTasks) workerDelayed).shared.creations.any (fun creation =>
      creation.earlier.any fun earlier =>
        earlier.notificationType == .reminder && earlier.recipientId == creation.notification.recipientId &&
          earlier.requestId == creation.notification.requestId &&
          decide (hoursBetween earlier.createdAt creation.notification.createdAt < 24)) = true := by decide +kernel
  obtain ⟨creation, member, found⟩ := List.any_eq_true.mp repeated
  obtain ⟨earlier, before, found⟩ := List.any_eq_true.mp found
  simp only [Bool.and_eq_true, beq_iff_eq, decide_eq_true_eq] at found
  obtain ⟨⟨⟨reminder, recipient⟩, request⟩, recent⟩ := found
  exact absurd recent (not_lt.mpr (apart _ _ run creation member earlier before ⟨reminder, recipient, request⟩))

end Samples

end AutomationHub.System
