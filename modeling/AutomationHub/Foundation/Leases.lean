import Mathlib.Logic.Function.Basic

/-!
Named locks on a server, each held under the token of its holder and for a time.

A service is known by the commands it takes and by who holds each lock at each
instant; a token-fenced service grants a free lock for its time and lets nobody
else's command disturb it.
-/

set_option autoImplicit false

namespace AutomationHub.Foundation

structure LeaseService (κ τ : Type) where
  Store : Type
  holder : Store → κ → Nat → Option τ
  grant : Store → Nat → κ → τ → Nat → Bool × Store
  release : Store → Nat → κ → τ → Bool × Store
  extend : Store → Nat → κ → τ → Nat → Bool × Store

namespace LeaseService

variable {κ τ : Type}

/-- What is relied on: a lock is granted when it is free, for the time asked; a refusal and a command under another
token or on another lock change nothing that can be seen of a lock. -/
structure TokenFenced (service : LeaseService κ τ) : Prop where
  grant_free : ∀ {store now key token ttl}, (service.grant store now key token ttl).1 = true →
    service.holder store key now = none ∧
      ∀ instant, now ≤ instant → instant < now + ttl →
        service.holder (service.grant store now key token ttl).2 key instant = some token
  grant_refused : ∀ {store now key token ttl}, (service.grant store now key token ttl).1 = false →
    ∀ other instant, now ≤ instant →
      service.holder (service.grant store now key token ttl).2 other instant = service.holder store other instant
  grant_other : ∀ {store now key token ttl other instant}, other ≠ key → now ≤ instant →
    service.holder (service.grant store now key token ttl).2 other instant = service.holder store other instant
  release_fenced : ∀ {store now key token}, service.holder store key now ≠ some token → ∀ instant, now ≤ instant →
    service.holder (service.release store now key token).2 key instant = service.holder store key instant
  release_other : ∀ {store now key token other instant}, other ≠ key → now ≤ instant →
    service.holder (service.release store now key token).2 other instant = service.holder store other instant
  extend_other : ∀ {store now key token ttl other instant}, other ≠ key → now ≤ instant →
    service.holder (service.extend store now key token ttl).2 other instant = service.holder store other instant

/-- What a holder that extends its lock relies on besides. -/
structure Renewable (service : LeaseService κ τ) : Prop where
  extend_held : ∀ {store now key token ttl}, (service.extend store now key token ttl).1 = true →
    service.holder store key now = some token ∧
      ∀ instant, now ≤ instant → instant < now + ttl →
        service.holder (service.extend store now key token ttl).2 key instant = some token
  extend_refused : ∀ {store now key token ttl}, (service.extend store now key token ttl).1 = false →
    ∀ instant, now ≤ instant →
      service.holder (service.extend store now key token ttl).2 key instant = service.holder store key instant

/-- What those that wait for a lock rely on: it is free again when its time is over or it was released, and a free lock is
granted. -/
structure Lapsing (service : LeaseService κ τ) : Prop where
  grant_free : ∀ {store now key token ttl}, service.holder store key now = none →
    (service.grant store now key token ttl).1 = true
  grant_lapses : ∀ {store now key token ttl instant own}, now ≤ instant →
    service.holder (service.grant store now key token ttl).2 key instant = some own →
      service.holder store key instant = some own ∨ own = token ∧ instant < now + ttl
  extend_lapses : ∀ {store now key token ttl instant own}, now ≤ instant →
    service.holder (service.extend store now key token ttl).2 key instant = some own →
      service.holder store key instant = some own ∨ own = token ∧ instant < now + ttl
  release_frees : ∀ {store now key token instant own}, now ≤ instant →
    service.holder (service.release store now key token).2 key instant = some own →
      service.holder store key instant = some own ∧ ((service.release store now key token).1 = true → own ≠ token)

/-- The lock is held under the token from one instant until another. -/
def Held (service : LeaseService κ τ) (store : service.Store) (key : κ) (token : τ) (since until_ : Nat) : Prop :=
  ∀ instant, since ≤ instant → instant < until_ → service.holder store key instant = some token

section Rules

variable {service : LeaseService κ τ} {store : service.Store} {key other : κ} {token own : τ} {now moment until_ ttl : Nat}

theorem Held.later (held : service.Held store key token now until_) (passed : now ≤ moment) :
    service.Held store key token moment until_ :=
  fun instant reached within => held instant (Nat.le_trans passed reached) within

theorem Held.of_eq {after : service.Store} (held : service.Held store key token now until_)
    (same : ∀ instant, now ≤ instant → service.holder after key instant = service.holder store key instant) :
    service.Held after key token now until_ :=
  fun instant reached within => (same instant reached).trans (held instant reached within)

/-- One holder at a time. -/
theorem Held.unique {second : Nat} (held : service.Held store key token now until_)
    (also : service.Held store key own now second) (first : now < until_) (within : now < second) : token = own :=
  Option.some.inj ((held now (Nat.le_refl _) first).symm.trans (also now (Nat.le_refl _) within))

/-- A held lock is granted to nobody else. -/
theorem TokenFenced.held_grant (fenced : service.TokenFenced) (held : service.Held store key token now until_) :
    service.Held (service.grant store now other own ttl).2 key token now until_ := by
  by_cases same : key = other
  · subst same
    cases granted : (service.grant store now key own ttl).1 with
    | false => exact held.of_eq (fenced.grant_refused granted key)
    | true =>
        intro instant reached within
        have free := (fenced.grant_free granted).1
        rw [held now (Nat.le_refl _) (Nat.lt_of_le_of_lt reached within)] at free
        cases free
  · exact held.of_eq fun _ reached => fenced.grant_other same reached

/-- A release under another token leaves the lock held. -/
theorem TokenFenced.held_release (fenced : service.TokenFenced) (held : service.Held store key token now until_)
    (foreign : key = other → own ≠ token) : service.Held (service.release store now other own).2 key token now until_ := by
  intro instant reached within
  by_cases same : key = other
  · subst same
    have present := held now (Nat.le_refl _) (Nat.lt_of_le_of_lt reached within)
    have fence : service.holder store key now ≠ some own := by
      rw [present]
      exact fun equal => foreign rfl (Option.some.inj equal).symm
    rw [fenced.release_fenced fence instant reached]
    exact held instant reached within
  · rw [fenced.release_other same reached]
    exact held instant reached within

theorem TokenFenced.held_extend (fenced : service.TokenFenced) (held : service.Held store key token now until_)
    (apart : key ≠ other) : service.Held (service.extend store now other own ttl).2 key token now until_ :=
  held.of_eq fun _ reached => fenced.extend_other apart reached

/-- An extension of a held lock under its own token holds it no shorter than before. -/
theorem Renewable.held_extend (renewable : service.Renewable)
    (held : service.Held store key token now until_) (longer : until_ ≤ now + ttl) :
    service.Held (service.extend store now key token ttl).2 key token now until_ := by
  cases extended : (service.extend store now key token ttl).1 with
  | true => exact fun instant reached within =>
      (renewable.extend_held extended).2 instant reached (Nat.lt_of_lt_of_le within longer)
  | false => exact held.of_eq (renewable.extend_refused extended)

theorem Renewable.held_foreign (renewable : service.Renewable)
    (held : service.Held store key token now until_) (foreign : own ≠ token) :
    service.Held (service.extend store now key own ttl).2 key token now until_ := by
  cases extended : (service.extend store now key own ttl).1 with
  | false => exact held.of_eq (renewable.extend_refused extended)
  | true =>
      intro instant reached within
      have present := held now (Nat.le_refl _) (Nat.lt_of_le_of_lt reached within)
      exact absurd (Option.some.inj ((renewable.extend_held extended).1.symm.trans present)) foreign

end Rules

section Timed

variable [DecidableEq κ] [DecidableEq τ]

/-- Who holds a lock in a table of tokens and of the instants at which they end. -/
def timedHolder (store : κ → Option (τ × Nat)) (key : κ) (now : Nat) : Option τ :=
  (store key).bind fun lease => if now < lease.2 then some lease.1 else none

omit [DecidableEq τ] in
theorem timedHolder_granted (store : κ → Option (τ × Nat)) (key : κ) (token : τ) {until_ instant : Nat}
    (within : instant < until_) : timedHolder (Function.update store key (some (token, until_))) key instant = some token := by
  simp [timedHolder, within]

omit [DecidableEq τ] in
theorem timedHolder_other (store : κ → Option (τ × Nat)) {key other : κ} (lease : Option (τ × Nat)) (instant : Nat)
    (apart : other ≠ key) : timedHolder (Function.update store key lease) other instant = timedHolder store other instant := by
  simp [timedHolder, apart]

def timed (κ τ : Type) [DecidableEq κ] [DecidableEq τ] : LeaseService κ τ where
  Store := κ → Option (τ × Nat)
  holder := timedHolder
  grant := fun store now key token ttl =>
    match timedHolder store key now with
    | none => (true, Function.update store key (some (token, now + ttl)))
    | some _ => (false, store)
  release := fun store now key token =>
    if timedHolder store key now = some token then (true, Function.update store key none) else (false, store)
  extend := fun store now key token ttl =>
    if timedHolder store key now = some token then (true, Function.update store key (some (token, now + ttl)))
    else (false, store)

theorem timed_fenced : (timed κ τ).TokenFenced where
  grant_free := by
    intro store now key token ttl granted
    dsimp only [timed] at granted ⊢
    split at granted
    · rename_i free
      exact ⟨free, fun instant _ within => timedHolder_granted _ _ _ within⟩
    · cases granted
  grant_refused := by
    intro store now key token ttl refused other instant _
    dsimp only [timed] at refused ⊢
    split at refused
    · cases refused
    · rfl
  grant_other := by
    intro store now key token ttl other instant apart _
    dsimp only [timed]
    split
    · exact timedHolder_other _ _ _ apart
    · rfl
  release_fenced := by
    intro store now key token fence instant _
    dsimp only [timed] at fence ⊢
    rw [if_neg fence]
  release_other := by
    intro store now key token other instant apart _
    dsimp only [timed]
    split
    · exact timedHolder_other _ _ _ apart
    · rfl
  extend_other := by
    intro store now key token ttl other instant apart _
    dsimp only [timed]
    split
    · exact timedHolder_other _ _ _ apart
    · rfl

theorem timed_renewable : (timed κ τ).Renewable where
  extend_held := by
    intro store now key token ttl extended
    dsimp only [timed] at extended ⊢
    split at extended
    · rename_i holding
      rw [if_pos holding]
      exact ⟨holding, fun instant _ within => timedHolder_granted _ _ _ within⟩
    · cases extended
  extend_refused := by
    intro store now key token ttl refused instant _
    dsimp only [timed] at refused ⊢
    split at refused
    · cases refused
    · rename_i foreign
      rw [if_neg foreign]

omit [DecidableEq τ] in
theorem timedHolder_lapses {store : κ → Option (τ × Nat)} {key : κ} {token own : τ} {until_ instant : Nat}
    (holding : timedHolder (Function.update store key (some (token, until_))) key instant = some own) :
    own = token ∧ instant < until_ := by
  unfold timedHolder at holding
  rw [Function.update_self] at holding
  dsimp only [Option.bind] at holding
  split at holding
  · rename_i within
    exact ⟨(Option.some.inj holding).symm, within⟩
  · cases holding

omit [DecidableEq τ] in
theorem timedHolder_free (store : κ → Option (τ × Nat)) (key : κ) (instant : Nat) :
    timedHolder (Function.update store key none) key instant = none := by
  simp [timedHolder]

theorem timed_lapsing : (timed κ τ).Lapsing where
  grant_free := by
    intro store now key token ttl free
    dsimp only [timed] at free ⊢
    rw [free]
  grant_lapses := by
    intro store now key token ttl instant own _ holding
    dsimp only [timed] at holding ⊢
    split at holding
    · exact .inr (timedHolder_lapses holding)
    · exact .inl holding
  extend_lapses := by
    intro store now key token ttl instant own _ holding
    dsimp only [timed] at holding ⊢
    split at holding
    · exact .inr (timedHolder_lapses holding)
    · exact .inl holding
  release_frees := by
    intro store now key token instant own passed holding
    dsimp only [timed] at holding ⊢
    split at holding
    · exact absurd (holding.symm.trans (timedHolder_free store key instant)) nofun
    · rename_i foreign
      refine ⟨holding, fun released => ?_⟩
      rw [if_neg foreign] at released
      cases released

end Timed

end LeaseService

end AutomationHub.Foundation
