import AutomationHub.Foundation.TwoRuns
import AutomationHub.Services.ServiceRules

/-!
How the steps from which the services are built run alone, and in pairs.
-/

set_option autoImplicit false

namespace AutomationHub.Services

open Foundation Model Database Auth Program

section Runs

variable (statement : Query) {world : World}

@[simp] theorem run_attempt (world : World) : (attempt statement).run environment world =
    (.ok (world.execute statement).1, (world.execute statement).2.tick) := rfl

@[simp] theorem run_orRaise (world : World) : (orRaise statement).run environment world =
    ((world.execute statement).1.mapError .database, (world.execute statement).2.tick) := by
  simp only [orRaise, run_bind, run_attempt, continueRun_ok]
  cases (world.execute statement).1 with
  | error error => rfl
  | ok result => rfl

@[simp] theorem run_orTranslate (world : World) : (orTranslate statement).run environment world =
    ((world.execute statement).1.mapError translateDatabaseError, (world.execute statement).2.tick) := by
  simp only [orTranslate, run_bind, run_attempt, continueRun_ok]
  cases (world.execute statement).1 with
  | error error => rfl
  | ok result => rfl

@[simp] theorem run_orNotFound (world : World) : (orNotFound statement).run environment world =
    ((world.execute statement).1.mapError notFoundOrDatabase, (world.execute statement).2.tick) := by
  simp only [orNotFound, run_bind, run_attempt, continueRun_ok]
  cases (world.execute statement).1 with
  | error error => cases error <;> rfl
  | ok result => rfl

@[simp] theorem run_utcNow (world : World) : utcNow.run environment world = (.ok world.now, world.tick) := rfl

@[simp] theorem run_ofExcept {α : Type} (result : Except AppError α) (world : World) :
    (Program.ofExcept result : Service α).run environment world = (result, world) := by
  cases result with
  | error error => rfl
  | ok value => rfl

theorem run_profiles {α : Type} (program : Service α) (world : World) :
    (program.run environment world).2.profiles = world.profiles := by
  have only : program.Only fun _ => True := by
    induction program with
    | done value => trivial
    | raised error => trivial
    | call request next recurse => exact ⟨trivial, recurse⟩
  refine only.run (fun after : World => after.profiles = world.profiles) ?_ rfl
  intro after request same _
  cases request with
  | query statement => exact (World.execute_change (Prod.eta (after.execute statement)).symm).profiles.trans same
  | _ => exact same

theorem permitted_of_authorize {identity : AuthenticatedIdentity} {permitted : Bool} {resource : String}
    (granted : ((authorize identity permitted resource).run environment world).1 = .ok (.ok ())) :
    permitted = true := by
  cases permitted with
  | true => rfl
  | false =>
      unfold authorize isExpired at granted
      cases expiry : identity.expiresAt with
      | none =>
          rw [expiry] at granted
          cases granted
      | some expiresAt =>
          simp only [expiry, run_bind, run_utcNow, continueRun_ok, pure_eq, run_done] at granted
          split at granted <;> cases granted

theorem run_requestOfCompany {identity : AuthenticatedIdentity} {requestId : UUID} {record : RequestRecord}
    (found : world.requests.find? requestId = some record) :
    (requestOfCompany identity requestId).run environment world =
      (if record.companyId = identity.companyId then .ok record else .error (.notFound "request" requestId),
        world.tick) := by
  have reply : (orNotFound (.getRequest requestId) : Service RequestRecord).run environment world =
      ((getById "requests" world.requests requestId).mapError notFoundOrDatabase, world.tick) :=
    run_orNotFound (.getRequest requestId) world
  rw [requestOfCompany, run_bind, reply, getById, found]
  by_cases own : record.companyId = identity.companyId
  · simp [Except.mapError, own]
  · simp [Except.mapError, own]

theorem run_requestOfCompany_missing {identity : AuthenticatedIdentity} {requestId : UUID}
    (missing : world.requests.find? requestId = none) :
    (requestOfCompany identity requestId).run environment world =
      (.error (.notFound "requests" requestId), world.tick) := by
  have reply : (orNotFound (.getRequest requestId) : Service RequestRecord).run environment world =
      ((getById "requests" world.requests requestId).mapError notFoundOrDatabase, world.tick) :=
    run_orNotFound (.getRequest requestId) world
  rw [requestOfCompany, run_bind, reply, getById, missing]
  rfl

theorem getRequest_ok {identity : AuthenticatedIdentity} {requestId : UUID} {record : RequestRecord}
    (returned : ((getRequest identity requestId).run environment world).1 = .ok record) :
    world.requests.find? requestId = some record ∧ record.companyId = identity.companyId := by
  cases found : world.requests.find? requestId with
  | none =>
      have failed := congrArg Prod.fst (@run_requestOfCompany_missing _ identity _ found)
      rw [getRequest, run_bind_of_error failed] at returned
      cases returned
  | some row =>
      have fetched := congrArg Prod.fst (@run_requestOfCompany _ identity _ _ found)
      by_cases own : row.companyId = identity.companyId
      · rw [if_pos own] at fetched
        rw [getRequest, run_bind_of_ok fetched, run_bind] at returned
        rcases asked : (isAssignedToAnyStage row.id identity.userId identity.role).run environment
          ((requestOfCompany identity requestId).run environment world).2 with ⟨_ | assigned, middle⟩
        · rw [asked] at returned
          cases returned
        · rw [asked, continueRun_ok, run_bind] at returned
          rcases decided : (authorizeRequestView identity (row.requesterId == identity.userId) assigned).run environment
            middle with ⟨_ | (_ | _), last⟩ <;> rw [decided] at returned
          · cases returned
          · cases returned
          · cases returned
            exact ⟨rfl, own⟩
      · rw [if_neg own] at fetched
        rw [getRequest, run_bind_of_error fetched] at returned
        cases returned

end Runs

section Reads

variable {world : World} {α β : Type}

/-- Whenever it runs, the program returns the value and leaves the database as it is. -/
def Reads (world : World) (program : Service α) (value : α) : Prop :=
  ∀ ticks, ∃ later, program.run environment (world.atTick ticks) = (.ok value, world.atTick later)

theorem Reads.run {program : Service α} {value : α} (reads : Reads world program value) :
    (program.run environment world).1 = .ok value := by
  obtain ⟨later, returned⟩ := reads world.ticks
  exact congrArg Prod.fst returned

theorem reads_done (value : α) : Reads world (.done value) value :=
  fun ticks => ⟨ticks, rfl⟩

theorem reads_bind {program : Service α} {next : α → Service β} {value : α} {result : β}
    (first : Reads world program value) (rest : Reads world (next value) result) :
    Reads world (program >>= next) result := by
  intro ticks
  obtain ⟨middle, returned⟩ := first ticks
  obtain ⟨later, ended⟩ := rest middle
  rw [run_bind, returned]
  exact ⟨later, ended⟩

theorem reads_attempt {statement : Query} {reply : Except DatabaseError statement.Result}
    (executed : ∀ ticks, (world.atTick ticks).execute statement = (reply, world.atTick ticks)) :
    Reads world (attempt statement) reply := by
  intro ticks
  rw [run_attempt, executed]
  exact ⟨ticks + 1, rfl⟩

variable {statement : Query} {value : statement.Result}

theorem reads_orRaise (executed : ∀ ticks, (world.atTick ticks).execute statement = (.ok value, world.atTick ticks)) :
    Reads world (orRaise statement) value :=
  reads_bind (reads_attempt executed) (reads_done value)

theorem reads_orTranslate
    (executed : ∀ ticks, (world.atTick ticks).execute statement = (.ok value, world.atTick ticks)) :
    Reads world (orTranslate statement) value :=
  reads_bind (reads_attempt executed) (reads_done value)

theorem reads_orNotFound
    (executed : ∀ ticks, (world.atTick ticks).execute statement = (.ok value, world.atTick ticks)) :
    Reads world (orNotFound statement) value :=
  reads_bind (reads_attempt executed) (reads_done value)

end Reads

section Pairs

variable {related : World → World → Prop} {statement : Query}

/-- The statement has equal replies in related states, and leaves related states. -/
def Indifferent (related : World → World → Prop) (statement : Query) : Prop :=
  ∀ left right, related left right → (left.execute statement).1 = (right.execute statement).1 ∧
    related (left.execute statement).2.tick (right.execute statement).2.tick

theorem compositional_coupled_service (related : World → World → Prop) :
    Compositional fun {α} (program : Service α) => Coupled environment related program :=
  compositional_coupled environment related

theorem coupled_attempt (indifferent : Indifferent related statement) :
    Coupled environment related (attempt statement) :=
  coupled_ask indifferent

theorem coupled_orRaise (indifferent : Indifferent related statement) :
    Coupled environment related (orRaise statement) := by
  refine (compositional_coupled_service related).bind (coupled_attempt indifferent) ?_
  intro reply
  cases reply with
  | error error => exact (compositional_coupled_service related).raised _
  | ok result => exact (compositional_coupled_service related).done _

theorem coupled_orTranslate (indifferent : Indifferent related statement) :
    Coupled environment related (orTranslate statement) := by
  refine (compositional_coupled_service related).bind (coupled_attempt indifferent) ?_
  intro reply
  cases reply with
  | error error => exact (compositional_coupled_service related).raised _
  | ok result => exact (compositional_coupled_service related).done _

theorem coupled_utcNow
    (clocked : ∀ left right, related left right → left.now = right.now ∧ related left.tick right.tick) :
    Coupled environment related utcNow :=
  coupled_ask clocked

end Pairs

end AutomationHub.Services
