import AutomationHub.Foundation.Failures
import AutomationHub.Foundation.TwoRuns
import AutomationHub.Users.Erasure
import AutomationHub.Users.UserWrites

/-!
The account, the profile and the audit entries of a user over retried erasures, any
call of which may fail.

The account is anonymized before the version is checked, and the entry is written
after the profile; a replay writes neither.
-/

set_option autoImplicit false

namespace AutomationHub.Users

open Foundation Model Auth Database Program Table History

/-- The store, and the users named by the `PROFILE_ERASED` entries. -/
structure ErasureRun where
  store : UserStore
  entries : List UUID

abbrev UserFailures := Failures UserCall.struck

def UserCall.entry? : UserCall → Option UUID
  | .recordEvent .profileErased _ _ userId => some userId
  | _ => none

def UserFault.isConflict : UserFault → Bool
  | .database (.concurrentUpdate ..) => true
  | _ => false

/-- `ConcurrencyError`. -/
def UserFault.isConcurrency : UserFault → Bool
  | .app (.concurrency _) => true
  | _ => false

namespace ErasureRun

def execute (call : UserCall) (run : ErasureRun) : Except UserFault call.Result × ErasureRun :=
  ((run.store.execute call).1,
    { store := (run.store.execute call).2.tick, entries := run.entries ++ call.entry?.toList })

def pass (run : ErasureRun) : ErasureRun := { run with store := run.store.tick }

def scrubbed (run : ErasureRun) (userId : UUID) : Bool := decide (userId ∈ run.store.anonymized)

def entriesOf (run : ErasureRun) (userId : UUID) : Nat := run.entries.count userId

/-- The profile has one entry if it is erased, and none otherwise. -/
def Accounted (userId : UUID) (run : ErasureRun) : Prop :=
  run.entriesOf userId = if run.store.isErased userId then 1 else 0

def current (run : ErasureRun) (userId : UUID) (expectedVersion : Nat) : Bool :=
  (run.store.profiles.find? userId).any (·.version == expectedVersion)

end ErasureRun

/-- A call of the service, with the failures that strike its calls. -/
structure UserAttempt where
  operation : UserOperation
  failures : UserFailures

namespace UserAttempt

def finish (placeholders : Placeholders) (run : ErasureRun) (attempt : UserAttempt) : Except UserFault Unit × ErasureRun :=
  (attempt.operation.program placeholders).run (attempt.failures.handler ErasureRun.execute ErasureRun.pass) run

/-- The state that the attempt leaves. -/
def next (placeholders : Placeholders) (run : ErasureRun) (attempt : UserAttempt) : ErasureRun :=
  (attempt.finish placeholders run).2

end UserAttempt

section Erasure

variable (failures : UserFailures) (placeholders : Placeholders) (identity : AuthenticatedIdentity) (userId : UUID)
  (expectedVersion : Nat) (run : ErasureRun)

def anonymizing : UserCall := .anonymizeUser userId (placeholders.email userId)

def erasing : UserCall := .erase userId expectedVersion identity.userId (placeholders.fullName userId)

def recording : UserCall := .recordEvent .profileErased identity.userId identity.companyId userId

/-- The erasure finds a live profile that the caller may erase. -/
def reachesAccount : Bool := failures.answers (.getProfile userId) && run.store.mayErase identity userId

/-- The erasure asks for its write. -/
def reachesWrite : Bool :=
  reachesAccount failures identity userId run && failures.answers (anonymizing placeholders userId)

/-- The write replies that the row has another version. -/
def writeConflicts : Bool :=
  (failures.strike (erasing placeholders identity userId expectedVersion)).elim (!run.current userId expectedVersion)
    (·.1.isConflict)

/-- The profile is erased. -/
def writes : Bool :=
  reachesWrite failures placeholders identity userId run && run.current userId expectedVersion &&
    failures.carriesOut (erasing placeholders identity userId expectedVersion)

/-- The entry of the erasure is written. -/
def records : Bool :=
  reachesWrite failures placeholders identity userId run && run.current userId expectedVersion &&
    failures.answers (erasing placeholders identity userId expectedVersion) && failures.carriesOut (recording identity userId)

/-- What an erasure makes of the account, the profile and the entries of its user. -/
structure EraseEnds (result : Except UserFault ProfileRecord) (final : ErasureRun) : Prop where
  scrubbed : final.scrubbed userId =
    (run.scrubbed userId ||
      reachesAccount failures identity userId run && failures.carriesOut (anonymizing placeholders userId))
  erased : final.store.isErased userId =
    (run.store.isErased userId || writes failures placeholders identity userId expectedVersion run)
  entries : final.entriesOf userId =
    run.entriesOf userId + (records failures placeholders identity userId expectedVersion run).toNat
  conflicts : reachesAccount failures identity userId run = true →
    ((∃ fault, result = .error fault ∧ fault.isConcurrency = true) ↔
      failures.answers (anonymizing placeholders userId) = true ∧
        writeConflicts failures placeholders identity userId expectedVersion run = true)
  returns : ∀ profile, result = .ok profile → final.store.isErased userId = true

end Erasure

section Calls

variable {failures : UserFailures} {placeholders : Placeholders} {identity : AuthenticatedIdentity}
  {userId expectedVersion : Nat} {run : ErasureRun} {call : UserCall}

abbrev strikingHandler (failures : UserFailures) : Handler userSignature ErasureRun :=
  failures.handler ErasureRun.execute ErasureRun.pass

theorem striking_kept {β : Type} (part : ErasureRun → β) (executed : part (ErasureRun.execute call run).2 = part run)
    (passed : part run.pass = part run) : part (strikingHandler failures call run).2 = part run :=
  Failures.handler_kept part executed passed

theorem striking_carried {β : Type} (part : ErasureRun → β) (passed : part run.pass = part run) :
    part (strikingHandler failures call run).2 =
      if failures.carriesOut call then part (ErasureRun.execute call run).2 else part run :=
  Failures.handler_carried part passed

theorem entries_kept (unnamed : call.entry? = none) : (strikingHandler failures call run).2.entries = run.entries := by
  apply striking_kept (·.entries) _ rfl
  rw [ErasureRun.execute, unnamed]
  exact List.append_nil _

theorem anonymized_write (store : UserStore) (profileId expectedVersion : Nat) (edit : Edit ProfileRecord) :
    (store.write profileId expectedVersion edit).2.anonymized = store.anonymized := by
  unfold UserStore.write
  cases updateWithOptimisticLock "profiles" store.profiles profileId expectedVersion edit fun _ => none
  rfl

theorem scrubbed_erasing :
    (strikingHandler failures (erasing placeholders identity userId expectedVersion) run).2.scrubbed userId =
      run.scrubbed userId := by
  apply striking_kept (·.scrubbed userId) _ rfl
  exact congrArg (fun users => decide (userId ∈ users)) (anonymized_write run.store userId expectedVersion
    (eraseEdit run.store.now identity.userId (placeholders.fullName userId)))

theorem scrubbed_anonymizing : (strikingHandler failures (anonymizing placeholders userId) run).2.scrubbed userId =
    (run.scrubbed userId || failures.carriesOut (anonymizing placeholders userId)) := by
  rw [striking_carried (·.scrubbed userId) rfl]
  cases failures.carriesOut (anonymizing placeholders userId) with
  | false => exact (Bool.or_false _).symm
  | true =>
      rw [if_pos rfl, Bool.or_true]
      exact decide_eq_true (List.mem_append_right _ (List.mem_singleton_self userId))

theorem isErased_write (edit : Edit ProfileRecord) (erases : ∀ profile, (edit.apply profile).deletedAt.isSome = true) :
    ((run.store.write userId expectedVersion edit).2.isErased userId) =
      (run.store.isErased userId || run.current userId expectedVersion) := by
  cases outcome : updateWithOptimisticLock "profiles" run.store.profiles userId expectedVersion edit fun _ => none with
  | mk reply profiles =>
      cases reply with
      | error error =>
          have stale : run.current userId expectedVersion = false := by
            cases current : run.current userId expectedVersion with
            | false => rfl
            | true =>
                obtain ⟨written, after, succeeded⟩ := @write_ok run.store userId expectedVersion edit current
                simp [UserStore.write, outcome, Except.mapError] at succeeded
          simp only [UserStore.write, outcome, UserStore.isErased, updateWithOptimisticLock_error outcome, stale,
            Bool.or_false]
      | ok written =>
          obtain ⟨row, found, version, -, -, same⟩ := updateWithOptimisticLock_ok_iff.mp outcome
          have current : run.current userId expectedVersion = true :=
            (Option.any_eq_true ..).mpr ⟨row, found, beq_iff_eq.mpr version⟩
          have reached : profiles.find? userId = some ((stamped edit expectedVersion).apply row) := by
            rw [same, find?_modify, if_pos rfl, found]
            rfl
          rw [current, Bool.or_true]
          simp only [UserStore.write, outcome]
          exact (Option.any_eq_true ..).mpr ⟨_, reached, erases row⟩

theorem isErased_erasing :
    (strikingHandler failures (erasing placeholders identity userId expectedVersion) run).2.store.isErased userId =
      (run.store.isErased userId || run.current userId expectedVersion &&
        failures.carriesOut (erasing placeholders identity userId expectedVersion)) := by
  rw [striking_carried (·.store.isErased userId) rfl]
  cases failures.carriesOut (erasing placeholders identity userId expectedVersion) with
  | false => simp
  | true =>
      rw [if_pos rfl, Bool.and_true]
      exact isErased_write _ fun _ => rfl

theorem entriesOf_recording : (strikingHandler failures (recording identity userId) run).2.entriesOf userId =
    run.entriesOf userId + (failures.carriesOut (recording identity userId)).toNat := by
  rw [striking_carried (·.entriesOf userId) rfl]
  cases failures.carriesOut (recording identity userId) with
  | false => rfl
  | true =>
      rw [if_pos rfl]
      exact (List.count_append ..).trans (congrArg _ List.count_singleton_self)

end Calls

section Attempts

variable {failures : UserFailures} {placeholders : Placeholders} {identity : AuthenticatedIdentity}
  {userId expectedVersion : Nat} {run : ErasureRun} {call : UserCall} {α : Type}

def UserFault.translated : UserFault → UserFault
  | .database error => .app (translateDatabaseError error)
  | fault => fault

theorem ensures_performed {post : Except UserFault call.Result → ErasureRun → Prop} :
    (perform call).Ensures (.ofHandler (strikingHandler failures)) post run ↔
      post (strikingHandler failures call run).1 (strikingHandler failures call run).2 :=
  ensures_fallible_ofHandler (fun reply => by cases reply <;> rfl) post

theorem ensures_translated {program : UserProgram α} {post : Except UserFault α → ErasureRun → Prop} :
    (translating program).Ensures (.ofHandler (strikingHandler failures)) post run ↔
      program.Ensures (.ofHandler (strikingHandler failures))
        (fun result final => post (result.mapError UserFault.translated) final) run := by
  apply (ensures_tryCatch ..).trans
  constructor <;> intro ensured <;> apply ensured.mono <;> intro result final held <;> cases result with
  | ok value => exact held
  | error fault => cases fault <;> exact held

theorem ends_unreached {result : Except UserFault ProfileRecord} {final : ErasureRun}
    (unreached : reachesAccount failures identity userId run = false)
    (profiles : final.store.profiles = run.store.profiles) (anonymized : final.store.anonymized = run.store.anonymized)
    (entries : final.entries = run.entries)
    (returned : ∀ profile, result = .ok profile → run.store.isErased userId = true) :
    EraseEnds failures placeholders identity userId expectedVersion run result final := by
  have same : final.store.isErased userId = run.store.isErased userId := by
    rw [UserStore.isErased, UserStore.isErased, profiles]
  constructor
  · rw [unreached, ErasureRun.scrubbed, anonymized]
    exact (Bool.or_false _).symm
  · rw [same, writes, reachesWrite, unreached]
    exact (Bool.or_false _).symm
  · rw [records, reachesWrite, unreached, ErasureRun.entriesOf, entries]
    rfl
  · intro reached
    rw [unreached] at reached
    cases reached
  · intro profile succeeded
    rw [same]
    exact returned profile succeeded

theorem struck_recording {fault : UserFault} (struck : (recording identity userId).struck fault = true) :
    fault.isConcurrency = false := by
  cases fault <;> first | rfl | cases struck

theorem struck_anonymizing {fault : UserFault} (struck : (anonymizing placeholders userId).struck fault = true) :
    fault.isConcurrency = false := by
  cases fault <;> first | rfl | cases struck

theorem isConcurrency_translated {fault : UserFault}
    (struck : (erasing placeholders identity userId expectedVersion).struck fault = true) :
    fault.translated.isConcurrency = fault.isConflict := by
  cases fault with
  | database error => cases error <;> rfl
  | _ => cases struck

/-- The reply to the write of an erasure: the row, a conflict where the version is stale, or the fault that struck it. -/
theorem reply_erasing :
    (∃ written, (strikingHandler failures (erasing placeholders identity userId expectedVersion) run).1 = .ok written ∧
      failures.answers (erasing placeholders identity userId expectedVersion) = true ∧
        run.current userId expectedVersion = true) ∨
    ∃ fault, (strikingHandler failures (erasing placeholders identity userId expectedVersion) run).1 = .error fault ∧
      fault.translated.isConcurrency = writeConflicts failures placeholders identity userId expectedVersion run ∧
        (run.current userId expectedVersion &&
          failures.answers (erasing placeholders identity userId expectedVersion)) = false := by
  cases strike : failures.strike (erasing placeholders identity userId expectedVersion) with
  | some failure =>
      right
      have struck := failures.possible _ failure.1 failure.2 strike
      refine ⟨failure.1, ?_, ?_, ?_⟩
      · simp [strikingHandler, Failures.handler, strike]
      · rw [isConcurrency_translated struck, writeConflicts, strike]
        rfl
      · simp [Failures.answers, strike]
  | none =>
      have answered : failures.answers (erasing placeholders identity userId expectedVersion) = true := by
        simp [Failures.answers, strike]
      have executed : (strikingHandler failures (erasing placeholders identity userId expectedVersion) run).1 =
          (run.store.write userId expectedVersion
            (eraseEdit run.store.now identity.userId (placeholders.fullName userId))).1 := by
        simp only [strikingHandler, Failures.handler, strike]
        rfl
      cases current : run.current userId expectedVersion with
      | true =>
          obtain ⟨written, after, succeeded⟩ := @write_ok run.store userId expectedVersion
            (eraseEdit run.store.now identity.userId (placeholders.fullName userId)) current
          exact .inl ⟨written, executed.trans (congrArg Prod.fst succeeded), answered, rfl⟩
      | false =>
          right
          refine ⟨.database (.concurrentUpdate "profiles" userId expectedVersion), ?_, ?_, rfl⟩
          · rw [executed]
            unfold UserStore.write updateWithOptimisticLock
            cases attempted : run.store.profiles.updateIfVersion userId expectedVersion
                (eraseEdit run.store.now identity.userId (placeholders.fullName userId)) with
            | none => rfl
            | some outcome =>
                obtain ⟨row, found, version, -⟩ := (updateIfVersion_eq_some_iff ..).mp attempted
                rw [ErasureRun.current, found, Option.any_some] at current
                exact absurd version (beq_eq_false_iff_ne.mp current)
          · rw [writeConflicts, strike, Option.elim_none, current]
            rfl

theorem current_congr {other : ErasureRun} (profiles : other.store.profiles = run.store.profiles) :
    other.current userId expectedVersion = run.current userId expectedVersion := by
  rw [ErasureRun.current, ErasureRun.current, profiles]

theorem ends_scrubbed (writing : reachesWrite failures placeholders identity userId run = true) {scrub : ErasureRun}
    (scrubbed : scrub.scrubbed userId = (run.scrubbed userId ||
      reachesAccount failures identity userId run && failures.carriesOut (anonymizing placeholders userId)))
    (unwritten : scrub.store.profiles = run.store.profiles) (unrecorded : scrub.entries = run.entries) :
    (do
      let erased : ProfileRecord ← translating (perform (erasing placeholders identity userId expectedVersion))
      perform (recording identity userId)
      return erased : UserProgram ProfileRecord).Ensures (.ofHandler (strikingHandler failures))
      (EraseEnds failures placeholders identity userId expectedVersion run) scrub := by
  have answered : failures.answers (anonymizing placeholders userId) = true := (Bool.and_eq_true_iff.mp writing).2
  have current := @current_congr userId expectedVersion run scrub unwritten
  have erased : (strikingHandler failures (erasing placeholders identity userId expectedVersion) scrub).2.store.isErased
      userId = (run.store.isErased userId || writes failures placeholders identity userId expectedVersion run) := by
    rw [isErased_erasing, writes, writing, Bool.true_and, current, UserStore.isErased, UserStore.isErased, unwritten]
  have conflicts : writeConflicts failures placeholders identity userId expectedVersion scrub =
      writeConflicts failures placeholders identity userId expectedVersion run := by
    rw [writeConflicts, writeConflicts, current]
  have scrubbed : (strikingHandler failures (erasing placeholders identity userId expectedVersion) scrub).2.scrubbed
      userId = _ := scrubbed_erasing.trans scrubbed
  have unrecorded : (strikingHandler failures (erasing placeholders identity userId expectedVersion) scrub).2.entries =
      run.entries := (entries_kept rfl).trans unrecorded
  apply (ensures_bind ..).mpr
  apply ensures_translated.mpr
  apply ensures_performed.mpr
  rcases @reply_erasing failures placeholders identity userId expectedVersion scrub with
    ⟨written, replied, unstruck, fresh⟩ | ⟨fault, replied, conflicting, failing⟩
  · rw [replied]
    generalize (strikingHandler failures (erasing placeholders identity userId expectedVersion) scrub).2 = erasure
      at erased scrubbed unrecorded ⊢
    rw [current] at fresh
    have erasing : writes failures placeholders identity userId expectedVersion run = true := by
      rw [writes, writing, fresh, Failures.carriesOut_of_answers unstruck]
      rfl
    have unconflicting : writeConflicts failures placeholders identity userId expectedVersion run = false := by
      rw [writeConflicts, Option.isNone_iff_eq_none.mp unstruck, Option.elim_none, fresh]
      rfl
    have ends : ∀ result : Except UserFault ProfileRecord,
        (∀ fault, result = .error fault → fault.isConcurrency = false) →
        EraseEnds failures placeholders identity userId expectedVersion run result
          (strikingHandler failures (recording identity userId) erasure).2 := by
      intro result raises
      constructor
      · exact (striking_kept (·.scrubbed userId) rfl rfl).trans scrubbed
      · exact (striking_kept (·.store.isErased userId) rfl rfl).trans erased
      · rw [entriesOf_recording, records, writing, fresh, unstruck, ErasureRun.entriesOf, unrecorded]
        rfl
      · intro _
        rw [unconflicting]
        constructor
        · rintro ⟨fault, same, concurrency⟩
          rw [raises fault same] at concurrency
          cases concurrency
        · rintro ⟨-, never⟩
          cases never
      · intro profile _
        rw [striking_kept (·.store.isErased userId) rfl rfl, erased, erasing]
        exact Bool.or_true _
    apply (ensures_bind ..).mpr
    apply ensures_performed.mpr
    cases answered : failures.answers (recording identity userId) with
    | true =>
        have reply : (strikingHandler failures (recording identity userId) erasure).1 = .ok () :=
          congrArg Prod.fst (Failures.handler_of_answers answered)
        rw [reply]
        apply ends
        intro fault same
        cases same
    | false =>
        obtain ⟨fault, struck, failed⟩ := @Failures.handler_of_struck _ _ _ _ _ failures ErasureRun.execute
          ErasureRun.pass (recording identity userId) erasure answered
        have reply : (strikingHandler failures (recording identity userId) erasure).1 = .error fault :=
          congrArg Prod.fst failed
        rw [reply]
        apply ends
        intro raised same
        cases same
        exact struck_recording struck
  · rw [replied]
    rw [current] at failing
    rw [conflicts] at conflicting
    constructor
    · exact scrubbed
    · exact erased
    · rw [records, writing, Bool.true_and, failing, Bool.false_and, ErasureRun.entriesOf, unrecorded]
      rfl
    · intro _
      constructor
      · rintro ⟨raised, same, concurrency⟩
        cases same
        exact ⟨answered, conflicting.symm.trans concurrency⟩
      · rintro ⟨-, conflict⟩
        exact ⟨fault.translated, rfl, conflicting.trans conflict⟩
    · intro profile succeeded
      cases succeeded

theorem ends_reached (reached : reachesAccount failures identity userId run = true) {middle : ErasureRun}
    (profiles : middle.store.profiles = run.store.profiles) (anonymized : middle.store.anonymized = run.store.anonymized)
    (entries : middle.entries = run.entries) :
    (do
      perform (anonymizing placeholders userId)
      let erased : ProfileRecord ← translating (perform (erasing placeholders identity userId expectedVersion))
      perform (recording identity userId)
      return erased : UserProgram ProfileRecord).Ensures (.ofHandler (strikingHandler failures))
      (EraseEnds failures placeholders identity userId expectedVersion run) middle := by
  have scrubbed : (strikingHandler failures (anonymizing placeholders userId) middle).2.scrubbed userId =
      (run.scrubbed userId ||
        reachesAccount failures identity userId run && failures.carriesOut (anonymizing placeholders userId)) := by
    rw [scrubbed_anonymizing, reached, Bool.true_and, ErasureRun.scrubbed, anonymized]
    rfl
  have unwritten : (strikingHandler failures (anonymizing placeholders userId) middle).2.store.profiles =
      run.store.profiles :=
    (striking_kept (·.store.profiles) rfl rfl).trans profiles
  have unrecorded : (strikingHandler failures (anonymizing placeholders userId) middle).2.entries = run.entries :=
    (entries_kept rfl).trans entries
  apply (ensures_bind ..).mpr
  apply ensures_performed.mpr
  cases answered : failures.answers (anonymizing placeholders userId) with
  | false =>
      obtain ⟨fault, struck, failed⟩ := @Failures.handler_of_struck _ _ _ _ _ failures ErasureRun.execute ErasureRun.pass
        (anonymizing placeholders userId) middle answered
      have reply : (strikingHandler failures (anonymizing placeholders userId) middle).1 = .error fault :=
        congrArg Prod.fst failed
      rw [reply]
      constructor
      · exact scrubbed
      · rw [writes, reachesWrite, answered, UserStore.isErased, UserStore.isErased, unwritten]
        simp
      · rw [records, reachesWrite, answered, ErasureRun.entriesOf, ErasureRun.entriesOf, unrecorded]
        simp
      · intro _
        rw [answered]
        simp [struck_anonymizing struck]
      · intro profile succeeded
        cases succeeded
  | true =>
      have reply : (strikingHandler failures (anonymizing placeholders userId) middle).1 = .ok () :=
        congrArg Prod.fst (Failures.handler_of_answers answered)
      rw [reply]
      exact ends_scrubbed (Bool.and_eq_true_iff.mpr ⟨reached, answered⟩) scrubbed unwritten unrecorded

theorem eraseUser_ends :
    (eraseUser placeholders identity userId expectedVersion).Ensures (.ofHandler (strikingHandler failures))
      (EraseEnds failures placeholders identity userId expectedVersion run) run := by
  have refused : ∀ fault, canManageUserRoles identity.role = false ∨ userId = identity.userId →
      EraseEnds failures placeholders identity userId expectedVersion run (.error fault) run := by
    intro fault forbidden
    apply ends_unreached _ rfl rfl rfl
    · intro profile same
      cases same
    · rcases forbidden with unprivileged | own
      · simp [reachesAccount, UserStore.mayErase, unprivileged]
      · simp [reachesAccount, UserStore.mayErase, own]
  unfold eraseUser
  apply (ensures_bind ..).mpr
  unfold authorize
  split
  swap
  · rename_i unprivileged
    exact refused _ (.inl (Bool.eq_false_iff.mpr unprivileged))
  rename_i privileged
  change Ensures _ (if userId = identity.userId then _ else _) _ run
  split
  · rename_i own
    exact refused _ (.inr own)
  rename_i other
  have profiles : (strikingHandler failures (.getProfile userId) run).2.store.profiles = run.store.profiles :=
    striking_kept (·.store.profiles) rfl rfl
  have anonymized : (strikingHandler failures (.getProfile userId) run).2.store.anonymized = run.store.anonymized :=
    striking_kept (·.store.anonymized) rfl rfl
  have entries : (strikingHandler failures (.getProfile userId) run).2.entries = run.entries := entries_kept rfl
  apply (ensures_bind ..).mpr
  apply (ensures_bind ..).mpr
  apply ensures_translated.mpr
  apply ensures_performed.mpr
  cases answered : failures.answers (.getProfile userId) with
  | false =>
      obtain ⟨fault, -, failed⟩ := @Failures.handler_of_struck _ _ _ _ _ failures ErasureRun.execute ErasureRun.pass
        (.getProfile userId) run answered
      have reply : (strikingHandler failures (.getProfile userId) run).1 = .error fault := congrArg Prod.fst failed
      rw [reply]
      apply ends_unreached _ profiles anonymized entries
      · intro profile same
        cases same
      · rw [reachesAccount, answered, Bool.false_and]
  | true =>
      have reply : (strikingHandler failures (.getProfile userId) run).1 =
          (getById "profiles" run.store.profiles userId).mapError .database :=
        congrArg Prod.fst (Failures.handler_of_answers answered)
      rw [reply]
      cases found : run.store.profiles.find? userId with
      | none =>
          rw [getById, found]
          apply ends_unreached _ profiles anonymized entries
          · intro profile same
            cases same
          · simp [reachesAccount, UserStore.mayErase, UserStore.inTenant, found]
      | some existing =>
          rw [getById, found]
          change Ensures _ (if existing.companyId = identity.companyId then _ else _) _ _
          split
          swap
          · rename_i foreign
            apply ends_unreached _ profiles anonymized entries
            · intro profile same
              cases same
            · simp [reachesAccount, UserStore.mayErase, UserStore.inTenant, found, foreign]
          rename_i home
          change Ensures _ (if existing.deletedAt.isSome = true then _ else _) _ _
          split
          · rename_i deleted
            apply ends_unreached _ profiles anonymized entries
            · intro profile _
              rw [UserStore.isErased, found, Option.any_some, deleted]
            · have live : existing.deletedAt.isNone = false := by
                rw [← Option.not_isSome, deleted]
                rfl
              simp [reachesAccount, UserStore.mayErase, UserStore.inTenant, found, home, live]
          · rename_i live
            apply ends_reached _ profiles anonymized entries
            have live : existing.deletedAt.isNone = true := by
              rw [← Option.not_isSome]
              simpa using live
            simp [reachesAccount, UserStore.mayErase, UserStore.inTenant, answered, privileged, other, found, home, live]

/-- A call that may change the account, the erasure or the entries of a user. -/
def UserCall.concerns (userId : UUID) : UserCall → Bool
  | .anonymizeUser target _ | .erase target .. | .recordEvent .profileErased _ _ target => target == userId
  | _ => false

/-- The account, the erasure and the entries of the user are as they were. -/
def Unconcerned (userId : UUID) (run final : ErasureRun) : Prop :=
  final.scrubbed userId = run.scrubbed userId ∧ final.store.isErased userId = run.store.isErased userId ∧
    final.entriesOf userId = run.entriesOf userId

theorem unconcerned_execute (apart : call.concerns userId = false) :
    Unconcerned userId run (ErasureRun.execute call run).2 := by
  refine ⟨?_, ?_, ?_⟩
  · cases call with
    | anonymizeUser target email =>
        have other : userId ≠ target := (beq_eq_false_iff_ne.mp apart).symm
        simp [ErasureRun.scrubbed, ErasureRun.execute, UserStore.execute, UserStore.tick, other]
    | updateProfile profileId expectedVersion role department isActive =>
        simp only [ErasureRun.execute, UserStore.execute, UserStore.updateProfile]
        split
        · rfl
        · simp only [ErasureRun.scrubbed, UserStore.tick, anonymized_write]
    | erase => simp only [ErasureRun.scrubbed, ErasureRun.execute, UserStore.execute, UserStore.tick, anonymized_write]
    | _ => rfl
  · have stepped : userStep run.store call (run.store.execute call).1 (run.store.execute call).2.tick := .inl ⟨rfl, rfl⟩
    rcases find?_step stepped userId with same | ⟨expectedVersion, edit, asked, -, edited⟩
    · exact congrArg (·.any (·.deletedAt.isSome)) same
    · rw [UserStore.isErased, UserStore.isErased, ErasureRun.execute, edited, Option.any_map]
      cases call with
      | updateProfile =>
          cases asked
          rfl
      | erase =>
          cases asked
          rw [UserCall.concerns, BEq.rfl] at apart
          cases apart
      | _ => cases asked
  · cases call with
    | recordEvent action actorId companyId target =>
        cases action with
        | profileErased =>
            have other : target ≠ userId := beq_eq_false_iff_ne.mp apart
            simp [ErasureRun.entriesOf, ErasureRun.execute, UserCall.entry?, other]
        | _ => simp [ErasureRun.entriesOf, ErasureRun.execute, UserCall.entry?]
    | _ => exact congrArg (List.count userId) (List.append_nil _)

theorem unconcerned_striking (apart : call.concerns userId = false) :
    Unconcerned userId run (strikingHandler failures call run).2 := by
  rcases @Failures.handler_state _ _ _ _ _ failures ErasureRun.execute ErasureRun.pass call run with same | same
  · rw [strikingHandler, same]
    exact unconcerned_execute apart
  · rw [strikingHandler, same]
    exact ⟨rfl, rfl, rfl⟩

theorem unconcerned_of_only {program : UserProgram α} (only : program.Only fun call : UserCall => call.concerns userId = false) :
    Unconcerned userId run (program.run (strikingHandler failures) run).2 := by
  apply (ensures_ofHandler (strikingHandler failures) program).mp (only.ensures (Unconcerned userId run) _ ⟨rfl, rfl, rfl⟩)
  rintro state call ⟨scrubbed, erased, entries⟩ apart
  refine ⟨trivial, ?_⟩
  intro reply after answered
  obtain rfl : after = (strikingHandler failures call state).2 := (congrArg Prod.snd answered).symm
  obtain ⟨again, still, yet⟩ := @unconcerned_striking failures userId state call apart
  exact ⟨again.trans scrubbed, still.trans erased, yet.trans entries⟩

/-- The attempt is an erasure of the user by this caller with this version. -/
def UserAttempt.erasure? (attempt : UserAttempt) (userId : UUID) : Option (AuthenticatedIdentity × Nat) :=
  match attempt.operation with
  | .eraseUser identity target expectedVersion => if target = userId then some (identity, expectedVersion) else none
  | .updateProfile .. => none

/-- An attempt either leaves the user unconcerned or is an erasure that ends as `EraseEnds` says. -/
theorem UserAttempt.ends (placeholders : Placeholders) (attempt : UserAttempt) (userId : UUID) (run : ErasureRun) :
    (attempt.erasure? userId = none ∧ Unconcerned userId run (attempt.next placeholders run)) ∨
    ∃ identity expectedVersion result, attempt.erasure? userId = some (identity, expectedVersion) ∧
      (attempt.finish placeholders run).1 = result.map (fun _ => ()) ∧
        EraseEnds attempt.failures placeholders identity userId expectedVersion run result
          (attempt.next placeholders run) := by
  obtain ⟨operation, failures⟩ := attempt
  cases operation with
  | updateProfile identity target expectedVersion role department isActive =>
      refine .inl ⟨rfl, ?_⟩
      apply unconcerned_of_only
      refine Only.bind (only_updateProfile rfl (fun _ => rfl) ?_) fun _ => trivial
      intro action other
      cases action <;> first | rfl | exact absurd rfl other
  | eraseUser identity target expectedVersion =>
      by_cases own : target = userId
      · subst own
        right
        have ends := (ensures_ofHandler ..).mp
          (@eraseUser_ends failures placeholders identity target expectedVersion run)
        have finished : (UserAttempt.mk (.eraseUser identity target expectedVersion) failures).finish placeholders run =
            (((eraseUser placeholders identity target expectedVersion).run (strikingHandler failures) run).1.map fun _ => (),
              ((eraseUser placeholders identity target expectedVersion).run (strikingHandler failures) run).2) :=
          run_replaced ..
        refine ⟨identity, expectedVersion, _, if_pos rfl, congrArg Prod.fst finished, ?_⟩
        rw [UserAttempt.next, finished]
        exact ends
      · refine .inl ⟨if_neg own, ?_⟩
        apply unconcerned_of_only
        have apart : (target == userId) = false := beq_eq_false_iff_ne.mpr own
        exact Only.bind (only_eraseUser rfl apart (fun _ => apart) apart) fun _ => trivial

end Attempts

namespace UserAttempt

variable (placeholders : Placeholders) (userId : UUID) (run : ErasureRun) (attempt : UserAttempt)

/-- A `ConcurrencyError` for a stale version leaves the account as it was. -/
def SparesAccount : Prop :=
  ∀ identity expectedVersion, attempt.erasure? userId = some (identity, expectedVersion) →
    run.current userId expectedVersion = false →
      (∃ fault, (attempt.finish placeholders run).1 = .error fault ∧ fault.isConcurrency = true) →
        (attempt.next placeholders run).scrubbed userId = run.scrubbed userId

/-- A `ConcurrencyError` for a stale version leaves the profile and its entries as they were; the account is scrubbed if
the attempt reached it. -/
def SettlesStale : Prop :=
  ∀ identity expectedVersion, attempt.erasure? userId = some (identity, expectedVersion) →
    run.current userId expectedVersion = false →
      (∃ fault, (attempt.finish placeholders run).1 = .error fault ∧ fault.isConcurrency = true) →
        (attempt.next placeholders run).scrubbed userId =
            (run.scrubbed userId || reachesAccount attempt.failures identity userId run) ∧
          (attempt.next placeholders run).store.isErased userId = run.store.isErased userId ∧
            (attempt.next placeholders run).entriesOf userId = run.entriesOf userId

def Succeeds : Prop := (attempt.erasure? userId).isSome = true ∧ (attempt.finish placeholders run).1 = .ok ()

/-- The profile is erased, and the entry is not written. -/
def losesEntry : Bool :=
  (attempt.erasure? userId).any fun (identity, expectedVersion) =>
    writes attempt.failures placeholders identity userId expectedVersion run &&
      !records attempt.failures placeholders identity userId expectedVersion run

variable {placeholders userId run attempt}

theorem settlesStale : attempt.SettlesStale placeholders userId run := by
  intro identity expectedVersion asked stale raised
  rcases attempt.ends placeholders userId run with ⟨other, -⟩ | ⟨_, _, result, same, finished, ends⟩
  · rw [other] at asked
    cases asked
  cases same.symm.trans asked
  have unwritten : writes attempt.failures placeholders identity userId expectedVersion run = false := by
    simp [writes, stale]
  have unrecorded : records attempt.failures placeholders identity userId expectedVersion run = false := by
    simp [records, stale]
  refine ⟨?_, ?_, ?_⟩
  · rw [ends.scrubbed]
    cases reached : reachesAccount attempt.failures identity userId run with
    | false => rfl
    | true =>
        have conflict : ∃ fault, result = .error fault ∧ fault.isConcurrency = true := by
          obtain ⟨fault, failed, concurrency⟩ := raised
          rw [finished] at failed
          cases result with
          | ok profile => cases failed
          | error other =>
              cases failed
              exact ⟨_, rfl, concurrency⟩
        obtain ⟨answered, -⟩ := (ends.conflicts reached).mp conflict
        rw [Failures.carriesOut_of_answers answered]
        rfl
  · rw [ends.erased, unwritten, Bool.or_false]
  · rw [ends.entries, unrecorded]
    rfl

theorem live_of_reaches {failures : UserFailures} {identity : AuthenticatedIdentity}
    (reached : reachesAccount failures identity userId run = true) : run.store.isErased userId = false := by
  obtain ⟨-, permitted⟩ := Bool.and_eq_true_iff.mp reached
  obtain ⟨-, live⟩ := Bool.and_eq_true_iff.mp permitted
  obtain ⟨profile, found, undeleted⟩ := (Option.any_eq_true ..).mp live
  rw [UserStore.isErased, (Option.filter_eq_some_iff.mp found).1, Option.any_some]
  simpa using undeleted

/-- The entries of a user, once it is erased, are one unless an attempt lost it. -/
structure Tallied (userId : UUID) (lost : Prop) (run : ErasureRun) : Prop where
  erased : lost → run.store.isErased userId = true
  single : run.store.isErased userId = true → (run.entriesOf userId = 1 ↔ ¬ lost)
  none : run.store.isErased userId = false → run.entriesOf userId = 0

theorem tallied_next {lost : Prop} (tallied : Tallied userId lost run) :
    Tallied userId (lost ∨ attempt.losesEntry placeholders userId run = true) (attempt.next placeholders run) := by
  rcases attempt.ends placeholders userId run with
    ⟨other, -, erased, entries⟩ | ⟨identity, expectedVersion, result, asked, finished, ends⟩
  · have losing : attempt.losesEntry placeholders userId run = false := by
      rw [losesEntry, other]
      rfl
    constructor
    · rintro (earlier | now)
      · exact erased.trans (tallied.erased earlier)
      · rw [losing] at now
        cases now
    · intro gone
      rw [entries, tallied.single (erased.symm.trans gone), losing]
      simp
    · intro live
      exact entries.trans (tallied.none (erased.symm.trans live))
  have losing : attempt.losesEntry placeholders userId run =
      (writes attempt.failures placeholders identity userId expectedVersion run &&
        !records attempt.failures placeholders identity userId expectedVersion run) := by
    rw [losesEntry, asked]
    rfl
  cases before : run.store.isErased userId with
  | true =>
      have unreached : reachesAccount attempt.failures identity userId run = false := by
        by_contra reached
        rw [live_of_reaches ((Bool.not_eq_false _).mp reached)] at before
        cases before
      have unwritten : writes attempt.failures placeholders identity userId expectedVersion run = false := by
        rw [writes, reachesWrite, unreached]
        rfl
      have unrecorded : records attempt.failures placeholders identity userId expectedVersion run = false := by
        rw [records, reachesWrite, unreached]
        rfl
      have erased : (attempt.next placeholders run).store.isErased userId = true := by
        rw [ends.erased, before]
        rfl
      constructor
      · intro _
        exact erased
      · intro _
        rw [ends.entries, unrecorded, losing, unwritten]
        simpa using tallied.single before
      · intro live
        rw [erased] at live
        cases live
  | false =>
      have unlost : ¬ lost := by
        intro lost
        rw [tallied.erased lost] at before
        cases before
      have implied : records attempt.failures placeholders identity userId expectedVersion run = true →
          writes attempt.failures placeholders identity userId expectedVersion run = true := by
        intro recorded
        simp only [records, Bool.and_eq_true] at recorded
        simp [writes, recorded, Failures.carriesOut_of_answers recorded.1.2]
      have erased := ends.erased
      have entries := ends.entries
      rw [before, Bool.false_or] at erased
      rw [tallied.none before, Nat.zero_add] at entries
      rw [losing]
      constructor
      · intro either
        have now := either.resolve_left unlost
        exact erased.trans (Bool.and_eq_true_iff.mp now).1
      · intro gone
        have written := erased.symm.trans gone
        rw [entries, written, Bool.true_and]
        cases records attempt.failures placeholders identity userId expectedVersion run <;> simp [unlost]
      · intro live
        have unwritten := erased.symm.trans live
        rw [entries]
        cases recorded : records attempt.failures placeholders identity userId expectedVersion run with
        | false => rfl
        | true =>
            rw [implied recorded] at unwritten
            cases unwritten

/-- An erasure that returns leaves the profile erased, and every attempt keeps it so. -/
theorem isErased_next (erased : run.store.isErased userId = true ∨ attempt.Succeeds placeholders userId run) :
    (attempt.next placeholders run).store.isErased userId = true := by
  rcases attempt.ends placeholders userId run with
    ⟨other, -, same, -⟩ | ⟨identity, expectedVersion, result, asked, finished, ends⟩
  · rcases erased with already | ⟨asked, -⟩
    · exact same.trans already
    · rw [other] at asked
      cases asked
  · rcases erased with already | ⟨-, returned⟩
    · rw [ends.erased, already]
      rfl
    · rw [finished] at returned
      cases result with
      | error fault => cases returned
      | ok profile => exact ends.returns profile rfl

theorem isErased_of_succeeded {start : ErasureRun} {history : List UserAttempt}
    (succeeded : Occurs (next placeholders) (Succeeds placeholders userId) start history) :
    (reached (next placeholders) start history).store.isErased userId = true := by
  induction history using List.reverseRecOn with
  | nil => exact absurd succeeded not_occurs_nil
  | append_singleton earlier last recurse =>
      rw [reached_concat]
      apply isErased_next
      rcases occurs_concat.mp succeeded with before | now
      · exact .inl (recurse before)
      · exact .inr now

theorem tallied_reached {start : ErasureRun} (accounted : start.Accounted userId) (history : List UserAttempt) :
    Tallied userId (Occurs (next placeholders) (fun run attempt => attempt.losesEntry placeholders userId run = true)
      start history) (reached (next placeholders) start history) := by
  induction history using List.reverseRecOn with
  | nil =>
      constructor
      · intro lost
        exact absurd lost not_occurs_nil
      · intro erased
        have single : start.entriesOf userId = 1 := accounted.trans (if_pos erased)
        simp [single]
      · intro live
        exact accounted.trans (if_neg (Bool.eq_false_iff.mp live))
  | append_singleton earlier last recurse =>
      rw [occurs_concat, reached_concat]
      exact tallied_next recurse

/-- The profiles of two administrators, none of them erased. -/
def beforeErasure : ErasureRun where
  store := administeredByTwo
  entries := []

def erasingSecond (expectedVersion : Nat) (failures : UserFailures) : UserAttempt where
  operation := .eraseUser (administratorIdentity 1) 2 expectedVersion
  failures := failures

/-- The entry is not written. -/
def entryFails : UserFailures where
  strike := fun call =>
    match call with
    | .recordEvent .. => some (.database (.connection "connection lost"), false)
    | _ => none
  possible := by
    intro call fault carried same
    cases call <;> cases same
    rfl

def retriedErasure (failures : UserFailures) : List UserAttempt :=
  [] ++ [erasingSecond 1 failures] ++ [erasingSecond 1 (.none _)]

theorem retried_succeeds (failures : UserFailures)
    (returned : ((erasingSecond 1 (.none _)).finish plainPlaceholders
      ((erasingSecond 1 failures).next plainPlaceholders beforeErasure)).1 = .ok ()) :
    Occurs (next plainPlaceholders) (Succeeds plainPlaceholders 2) beforeErasure (retriedErasure failures) :=
  occurs_concat.mpr (.inr ⟨rfl, returned⟩)

theorem accounted_before : beforeErasure.Accounted 2 := by
  rw [ErasureRun.Accounted]
  decide +kernel

end UserAttempt

end AutomationHub.Users
