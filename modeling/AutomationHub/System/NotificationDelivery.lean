import AutomationHub.Foundation.Failures
import AutomationHub.System.NotificationContexts

/-!
What happens to a notification once it has been inserted, any statement of the database
failing.

The e-mail is sent by the caller or in the background; the flag is recorded after the
sender has reported.
-/

set_option autoImplicit false

namespace AutomationHub.System

open Foundation Model Auth Database Services Program Table

/-- Any statement may fail with any error. -/
def statementStruck (_ : Query) (_ : DatabaseError) : Bool := true

abbrev StatementFailures := Failures statementStruck

def faultyEnvironment (failures : StatementFailures) : Handler hubSignature World
  | .query statement, world =>
      failures.handler (fun statement world => ((world.execute statement).1, (world.execute statement).2.tick)) World.tick
        statement world
  | other, world => environment other world

/-- The sender, if there is one, reports that the e-mail has been sent. -/
def reportsSuccess (mailer : Mailer) (notification : NotificationRecord) : Bool :=
  mailer.sender.any fun send => send notification == .sent

def emailSentOf (world : World) (notificationId : UUID) : Bool :=
  (world.notifications.find? notificationId).any (·.emailSent)

/-- What precedes the dispatch: the preference and the insert. -/
def insertNotification (viewer : Option UUID) (recipientId : UUID) (requestId : Option UUID)
    (notificationType : NotificationType) (message : String) : Service (Option (Bool × NotificationRecord)) := do
  let (inAppEnabled, emailEnabled) ← effectivePreference viewer recipientId notificationType
  if !inAppEnabled then return none
  let created ← orTranslate (.createNotification recipientId notificationType message requestId)
  return some (emailEnabled, created)

theorem createAndDispatch_eq (viewer : Option UUID) (recipientId : UUID) (requestId : Option UUID)
    (notificationType : NotificationType) (message : String) :
    createAndDispatch viewer recipientId requestId notificationType message =
      (insertNotification viewer recipientId requestId notificationType message >>= fun inserted =>
        match inserted with
        | some (emailEnabled, created) => dispatchNotification emailEnabled created
        | none => return none) := by
  unfold createAndDispatch insertNotification
  rw [bind_assoc]
  congr 1
  funext preference
  obtain ⟨inAppEnabled, emailEnabled⟩ := preference
  cases inAppEnabled with
  | false => rfl
  | true =>
      simp only [Bool.not_true, Bool.false_eq_true, if_false]
      rw [bind_assoc]
      rfl

section Runs

variable {failures : StatementFailures} {world : World} {created : NotificationRecord}

theorem run_orTranslate_faulty (statement : Query) :
    (orTranslate statement).run (faultyEnvironment failures) world =
      ((faultyEnvironment failures (.query statement) world).1.mapError translateDatabaseError,
        (faultyEnvironment failures (.query statement) world).2) := by
  rw [orTranslate, attempt, ask, call_bind, run_call, done_bind]
  cases (faultyEnvironment failures (.query statement) world).1 <;> rfl

theorem run_orRaise_faulty (statement : Query) :
    (orRaise statement).run (faultyEnvironment failures) world =
      ((faultyEnvironment failures (.query statement) world).1.mapError .database,
        (faultyEnvironment failures (.query statement) world).2) := by
  rw [orRaise, attempt, ask, call_bind, run_call, done_bind]
  cases (faultyEnvironment failures (.query statement) world).1 <;> rfl

theorem notifications_markEmailSent (notificationId : UUID) :
    (faultyEnvironment failures (.query (.markEmailSent notificationId)) world).2.notifications = world.notifications ∨
      (faultyEnvironment failures (.query (.markEmailSent notificationId)) world).2.notifications =
        world.notifications.modify notificationId world.emailSentEdit := by
  rcases @Failures.handler_state _ _ _ _ _ failures
    (fun statement world => ((world.execute statement).1, (world.execute statement).2.tick)) World.tick
    (.markEmailSent notificationId) world with same | same
  · rw [faultyEnvironment, same]
    simp only [World.execute, World.markEmailSent]
    split
    · exact .inl rfl
    · exact .inr rfl
  · rw [faultyEnvironment, same]
    exact .inl rfl

theorem reply_markEmailSent {notificationId : UUID} (present : (world.notifications.find? notificationId).isSome = true) :
    (faultyEnvironment failures (.query (.markEmailSent notificationId)) world).1.toBool =
      failures.answers (.markEmailSent notificationId) := by
  cases answered : failures.answers (.markEmailSent notificationId) with
  | true =>
      obtain ⟨row, found⟩ := Option.isSome_iff_exists.mp present
      rw [faultyEnvironment, Failures.handler_of_answers answered]
      simp only [World.execute, World.markEmailSent, found]
      rfl
  | false =>
      obtain ⟨error, -, replied⟩ := @Failures.handler_of_struck _ _ _ _ _ failures
        (fun statement world => ((world.execute statement).1, (world.execute statement).2.tick)) World.tick
        (.markEmailSent notificationId) world answered
      rw [faultyEnvironment, replied]
      rfl

/-- The attempt to send an e-mail: the flag is recorded only behind a reported success, and only its failure is raised. -/
structure Dispatched (failures : StatementFailures) (created : NotificationRecord) (world : World)
    (result : Except AppError NotificationRecord) (final : World) : Prop where
  returns : (world.notifications.find? created.id).isSome = true → (result.toBool = false ↔
    reportsSuccess world.mailer created = true ∧ failures.answers (.markEmailSent created.id) = false)
  unsent : reportsSuccess world.mailer created = false → final.notifications = world.notifications
  recorded : final.notifications = world.notifications ∨
    ∃ edit, final.notifications = world.notifications.modify created.id edit

theorem run_ask {α : Type} (request : Call) (next : request.Reply → Service α) :
    (ask request >>= next).run (faultyEnvironment failures) world =
      (next (faultyEnvironment failures request world).1).run (faultyEnvironment failures)
        (faultyEnvironment failures request world).2 := rfl

theorem faulty_sendEmail {send : NotificationRecord → EmailOutcome} (sender : world.mailer.sender = some send) :
    faultyEnvironment failures (.sendEmail created) world = (send created, world.tick) := by
  simp only [faultyEnvironment, environment, sender]

theorem run_unreported (unreported : reportsSuccess world.mailer created = false) :
    ∃ final, (attemptEmailDispatch created).run (faultyEnvironment failures) world = (.ok created, final) ∧
      final.notifications = world.notifications := by
  rw [attemptEmailDispatch, run_ask]
  change ∃ final, Program.run _ (if world.mailer.sender.isNone then _ else _) world.tick = _ ∧ _
  cases sender : world.mailer.sender with
  | none => exact ⟨world.tick, rfl, rfl⟩
  | some send =>
      rw [reportsSuccess, sender, Option.any_some] at unreported
      have present : world.tick.mailer.sender = some send := sender
      refine ⟨world.tick.tick, ?_, rfl⟩
      rw [Option.isNone_some, if_neg Bool.false_ne_true, run_ask, faulty_sendEmail present]
      cases outcome : send created with
      | sent =>
          rw [outcome] at unreported
          cases unreported
      | refused => rfl
      | raised => rfl

theorem run_reported (reported : reportsSuccess world.mailer created = true) :
    (attemptEmailDispatch created).run (faultyEnvironment failures) world =
      (orRaise (.markEmailSent created.id)).run (faultyEnvironment failures) world.tick.tick := by
  obtain ⟨send, sender, sent⟩ := (Option.any_eq_true ..).mp reported
  have present : world.tick.mailer.sender = some send := sender
  rw [attemptEmailDispatch, run_ask]
  change Program.run _ (if world.mailer.sender.isNone then _ else _) world.tick = _
  rw [sender, Option.isNone_some, if_neg Bool.false_ne_true, run_ask, faulty_sendEmail present, beq_iff_eq.mp sent]

theorem dispatched : Dispatched failures created world
    ((attemptEmailDispatch created).run (faultyEnvironment failures) world).1
    ((attemptEmailDispatch created).run (faultyEnvironment failures) world).2 := by
  cases reported : reportsSuccess world.mailer created with
  | false =>
      obtain ⟨final, ran, same⟩ := @run_unreported failures world created reported
      rw [ran]
      constructor
      · intro _
        simp [reported, Except.toBool]
      · intro _
        exact same
      · exact .inl same
  | true =>
      rw [run_reported reported, run_orRaise_faulty]
      constructor
      · intro present
        have replied := @reply_markEmailSent failures world.tick.tick created.id present
        rw [reported, ← replied]
        cases (faultyEnvironment failures (.query (.markEmailSent created.id)) world.tick.tick).1 <;> simp [Except.mapError,
          Except.toBool]
      · intro unreported
        rw [reported] at unreported
        cases unreported
      · rcases @notifications_markEmailSent failures world.tick.tick created.id with same | edited
        · exact .inl same
        · exact .inr ⟨_, edited⟩

end Runs

section Delivery

variable {failures : StatementFailures} {world inserted : World} {created : NotificationRecord} {emailEnabled : Bool}
  {viewer : Option UUID} {recipientId : UUID} {requestId : Option UUID} {notificationType : NotificationType}
  {message : String}

/-- The notification has been inserted: the preference allows it, and the insert has replied with it. -/
def Inserted (failures : StatementFailures) (viewer : Option UUID) (recipientId : UUID) (requestId : Option UUID)
    (notificationType : NotificationType) (message : String) (world : World) (emailEnabled : Bool)
    (created : NotificationRecord) (inserted : World) : Prop :=
  (insertNotification viewer recipientId requestId notificationType message).run (faultyEnvironment failures) world =
    (.ok (some (emailEnabled, created)), inserted)

theorem run_after_insertion
    (notified : Inserted failures viewer recipientId requestId notificationType message world emailEnabled created inserted) :
    (createAndDispatch viewer recipientId requestId notificationType message).run (faultyEnvironment failures) world =
      (dispatchNotification emailEnabled created).run (faultyEnvironment failures) inserted := by
  rw [createAndDispatch_eq, run_bind, notified]
  rfl

theorem found_inserted
    (notified : Inserted failures viewer recipientId requestId notificationType message world emailEnabled created inserted) :
    inserted.notifications.find? created.id = some created ∧ created.emailSent = false := by
  rw [Inserted, insertNotification, run_bind] at notified
  rcases preferred : (effectivePreference viewer recipientId notificationType).run (faultyEnvironment failures) world with
    ⟨_ | ⟨inAppEnabled, email⟩, read⟩
  · rw [preferred] at notified
    cases notified
  rw [preferred, continueRun_ok] at notified
  cases inAppEnabled with
  | false => cases notified
  | true =>
      simp only [Bool.not_true, Bool.false_eq_true, if_false] at notified
      rw [run_bind, run_orTranslate_faulty] at notified
      cases answered : failures.answers (.createNotification recipientId notificationType message requestId) with
      | false =>
          obtain ⟨error, -, replied⟩ := @Failures.handler_of_struck _ _ _ _ _ failures
            (fun statement world => ((world.execute statement).1, (world.execute statement).2.tick)) World.tick
            (.createNotification recipientId notificationType message requestId) read answered
          rw [faultyEnvironment, replied] at notified
          cases notified
      | true =>
          rw [faultyEnvironment, Failures.handler_of_answers answered] at notified
          simp only [World.execute, World.createNotification] at notified
          rcases written : insertRow "notifications" read.notifications
            (read.newNotification recipientId notificationType message requestId) _ with ⟨_ | row, extended⟩
          · rw [written] at notified
            cases notified
          · rw [written] at notified
            obtain ⟨-, rfl, rfl⟩ := insertRow_ok_iff.mp written
            cases notified
            exact ⟨(find?_insert ..).trans (if_pos rfl), rfl⟩

theorem find?_modify_isSome {table : Table NotificationRecord} {id : UUID} (edited : UUID) (edit : Edit NotificationRecord)
    (present : (table.find? id).isSome = true) : ((table.modify edited edit).find? id).isSome = true := by
  rw [find?_modify]
  by_cases own : id = edited
  · subst own
    rwa [if_pos rfl, Option.isSome_map]
  · rwa [if_neg own]

/-- Flags are set by a dispatch of the notification only where the sender has reported success. -/
theorem emailSentOf_dispatched {before final : World} {result : Except AppError NotificationRecord}
    (dispatched : Dispatched failures created before result final) {id : UUID} (sent : emailSentOf final id = true) :
    emailSentOf before id = true ∨ id = created.id ∧ reportsSuccess before.mailer created = true := by
  cases reported : reportsSuccess before.mailer created with
  | false =>
      left
      rwa [emailSentOf, dispatched.unsent reported] at sent
  | true =>
      by_cases own : id = created.id
      · exact .inr ⟨own, rfl⟩
      · left
        rcases dispatched.recorded with same | ⟨edit, same⟩
        · rwa [emailSentOf, same] at sent
        · rwa [emailSentOf, same, find?_modify, if_neg own] at sent

theorem present_dispatched {before final : World} {result : Except AppError NotificationRecord}
    (dispatched : Dispatched failures created before result final) {id : UUID}
    (present : (before.notifications.find? id).isSome = true) : (final.notifications.find? id).isSome = true := by
  rcases dispatched.recorded with same | ⟨edit, same⟩
  · rwa [same]
  · rw [same]
    exact find?_modify_isSome created.id edit present

/-- The notification stays, and flags are set only behind a reported success. -/
def Settled (created : NotificationRecord) (before final : World) : Prop :=
  (final.notifications.find? created.id).isSome = true ∧
    ∀ id, emailSentOf final id = true →
      emailSentOf before id = true ∨ id = created.id ∧ reportsSuccess before.mailer created = true

theorem settled_dispatched {before final : World} {result : Except AppError NotificationRecord}
    (present : (before.notifications.find? created.id).isSome = true)
    (dispatched : Dispatched failures created before result final) : Settled created before final :=
  ⟨present_dispatched dispatched present, fun _ sent => emailSentOf_dispatched dispatched sent⟩

/-- The dispatch in the caller's thread meets a failure of the statement that records the flag. -/
def recordingFails (failures : StatementFailures) (emailEnabled : Bool) (created : NotificationRecord) (mailer : Mailer) :
    Bool :=
  emailEnabled && !mailer.background && reportsSuccess mailer created && !failures.answers (.markEmailSent created.id)

theorem dispatch_settles {result : Except AppError (Option NotificationRecord)} {final : World}
    (present : (inserted.notifications.find? created.id).isSome = true)
    (finished : (dispatchNotification emailEnabled created).run (faultyEnvironment failures) inserted = (result, final)) :
    result.toBool = !recordingFails failures emailEnabled created inserted.mailer ∧ Settled created inserted final := by
  unfold dispatchNotification at finished
  cases emailEnabled with
  | false =>
      cases finished
      exact ⟨rfl, present, fun id sent => .inl sent⟩
  | true =>
      rw [Bool.not_true, if_neg Bool.false_ne_true, run_ask] at finished
      change Program.run _ (if inserted.mailer.background = true then _ else _) inserted.tick = _ at finished
      cases background : inserted.mailer.background with
      | true =>
          rw [background, if_pos rfl] at finished
          cases finished
          refine ⟨?_, present, fun id sent => .inl sent⟩
          rw [recordingFails, background]
          rfl
      | false =>
          have dispatch := @dispatched failures inserted.tick created
          have there : (inserted.tick.notifications.find? created.id).isSome = true := present
          have settled := settled_dispatched there dispatch
          have returns := dispatch.returns there
          rw [background, if_neg Bool.false_ne_true, run_bind] at finished
          have failing : recordingFails failures true created inserted.mailer =
              (reportsSuccess inserted.mailer created && !failures.answers (.markEmailSent created.id)) := by
            rw [recordingFails, background]
            rfl
          rcases sent : (attemptEmailDispatch created).run (faultyEnvironment failures) inserted.tick with
            ⟨outcome, left⟩
          rw [sent] at finished settled returns
          cases outcome with
          | ok notification =>
              cases finished
              refine ⟨?_, settled⟩
              have recorded : ¬ (reportsSuccess inserted.mailer created = true ∧
                  failures.answers (.markEmailSent created.id) = false) := by
                intro failed
                cases returns.mpr failed
              rw [failing]
              cases reported : reportsSuccess inserted.mailer created with
              | false => rfl
              | true =>
                  have answered : failures.answers (.markEmailSent created.id) = true := by
                    by_contra struck
                    exact recorded ⟨reported, (Bool.not_eq_true _).mp struck⟩
                  rw [answered]
                  rfl
          | error error =>
              cases finished
              refine ⟨?_, settled⟩
              obtain ⟨reported, unanswered⟩ := returns.mp rfl
              have success : reportsSuccess inserted.mailer created = true := reported
              rw [failing, success, unanswered]
              rfl

/-- Once a notification has been inserted, the call returns, the notification stays and its flag is set only behind a
reported success, exactly if the flag can be recorded where the caller's own thread has sent the e-mail; an e-mail sent
later in the background keeps to the same. -/
theorem delivery_after_insertion_iff (failures : StatementFailures) (viewer : Option UUID) (recipientId : UUID)
    (requestId : Option UUID) (notificationType : NotificationType) (message : String) (world : World)
    (notified : Inserted failures viewer recipientId requestId notificationType message world emailEnabled created inserted)
    {result : Except AppError (Option NotificationRecord)} {final : World}
    (finished : (createAndDispatch viewer recipientId requestId notificationType message).run (faultyEnvironment failures)
      world = (result, final)) :
    (result.toBool = true ∧ Settled created inserted final ↔
      recordingFails failures emailEnabled created inserted.mailer = false) ∧
    ∀ (others : StatementFailures) (later : World), (later.notifications.find? created.id).isSome = true →
      Settled created later ((attemptEmailDispatch created).run (faultyEnvironment others) later).2 := by
  have present : (inserted.notifications.find? created.id).isSome = true := by
    rw [(found_inserted notified).1]
    rfl
  rw [run_after_insertion notified] at finished
  obtain ⟨returned, settled⟩ := dispatch_settles present finished
  constructor
  · rw [returned, and_iff_left settled, Bool.not_eq_true']
  · intro others later stays
    exact settled_dispatched stays dispatched

end Delivery

section Sample

/-- The sample hub with a sender that works in the caller's thread. -/
def mailingHub : World :=
  { hubWithTrip with mailer := { sender := some fun _ => .sent, background := false } }

def reviewNotice : NotificationRecord :=
  { id := 1, recipientId := 2, requestId := some 1, notificationType := .assignment, message := "Review it.",
    isRead := false, readAt := none, emailSent := false, emailSentAt := none, archivedAt := none, createdAt := 86400000000 }

/-- The flag cannot be recorded. -/
def flagFails : StatementFailures where
  strike := fun statement =>
    match statement with
    | .markEmailSent _ => some (.connection "connection lost", false)
    | _ => none
  possible := fun _ _ _ _ => rfl

/-- What the insert of the notice leaves. -/
def noticeInserted (failures : StatementFailures) : World :=
  ((insertNotification none 2 (some 1) .assignment "Review it.").run (faultyEnvironment failures) mailingHub).2

theorem notice_inserted (failures : StatementFailures)
    (replied : ((insertNotification none 2 (some 1) .assignment "Review it.").run (faultyEnvironment failures)
      mailingHub).1.toOption = some (some (true, reviewNotice))) :
    Inserted failures none 2 (some 1) .assignment "Review it." mailingHub true reviewNotice (noticeInserted failures) := by
  rw [Inserted, noticeInserted]
  rcases ran : (insertNotification none 2 (some 1) .assignment "Review it.").run (faultyEnvironment failures) mailingHub with
    ⟨_ | outcome, left⟩
  · rw [ran] at replied
    cases replied
  · rw [ran] at replied
    rw [Option.some.inj replied]

theorem delivery_after_insertion_iff_sample :
    ∃ result final, (createAndDispatch none 2 (some 1) .assignment "Review it.").run (faultyEnvironment (.none _))
        mailingHub = (result, final) ∧ emailSentOf final 1 = true ∧ result.toBool = true ∧
      Settled reviewNotice (noticeInserted (.none _)) final := by
  have notified := notice_inserted (.none _) (by decide +kernel)
  have ends := (delivery_after_insertion_iff (.none _) none 2 (some 1) .assignment "Review it." mailingHub notified rfl).1
  exact ⟨_, _, rfl, by decide +kernel, ends.mpr (by decide +kernel)⟩

/-- The notification is inserted and its e-mail sent, and the call raises because the flag cannot be recorded. -/
theorem notification_raised_after_insertion :
    ¬ ∀ (failures : StatementFailures) (created : NotificationRecord) (inserted : World),
        Inserted failures none 2 (some 1) .assignment "Review it." mailingHub true created inserted →
        ((createAndDispatch none 2 (some 1) .assignment "Review it.").run (faultyEnvironment failures)
          mailingHub).1.toBool = true := by
  intro returns
  have returned := returns flagFails _ _ (notice_inserted flagFails (by decide +kernel))
  revert returned
  decide +kernel

end Sample

end AutomationHub.System
