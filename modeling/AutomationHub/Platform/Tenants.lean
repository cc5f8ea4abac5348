import AutomationHub.Platform.CompanyService
import Mathlib.Data.List.Chain

/-!
What holds of the companies over any interleaving of the operations on them.
-/

set_option autoImplicit false

namespace AutomationHub.Platform

open Foundation Model Auth Database Program Table Pool

section SlugTexts

/-- Words of letters and digits, joined by single hyphens. -/
structure SlugText (text : List Char) : Prop where
  nonempty : text ≠ []
  letters : ∀ c ∈ text, isSlugChar c = true ∨ c = '-'
  spaced : text.IsChain fun left right => left = '-' → right ≠ '-'
  starts : text.head? ≠ some '-'
  ends : text.getLast? ≠ some '-'

theorem mem_hyphenate {text : List Char} {c : Char} : ∀ within, c ∈ hyphenate within text →
    isSlugChar c = true ∨ c = '-' := by
  induction text with
  | nil =>
      intro within member
      cases member
  | cons first rest recurse =>
      intro within member
      rw [hyphenate] at member
      split at member
      · rename_i letter
        rcases List.mem_cons.mp member with same | later
        · exact .inl (same ▸ letter)
        · exact recurse false later
      · split at member
        · exact recurse true member
        · rcases List.mem_cons.mp member with same | later
          · exact .inr same
          · exact recurse true later

theorem head?_hyphenate (text : List Char) : (hyphenate true text).head? ≠ some '-' := by
  induction text with
  | nil =>
      intro starts
      cases starts
  | cons first rest recurse =>
      rw [hyphenate]
      split
      · rename_i letter
        intro starts
        cases Option.some.inj starts
        exact absurd letter (by decide)
      · exact recurse

theorem spaced_hyphenate (text : List Char) :
    ∀ within, (hyphenate within text).IsChain fun left right => left = '-' → right ≠ '-' := by
  induction text with
  | nil => exact fun _ => .nil
  | cons first rest recurse =>
      intro within
      rw [hyphenate]
      split
      · rename_i letter
        rw [List.isChain_cons]
        refine ⟨?_, recurse false⟩
        rintro next - rfl
        exact absurd letter (by decide)
      · split
        · exact recurse true
        · rw [List.isChain_cons]
          refine ⟨?_, recurse true⟩
          rintro next starts - rfl
          exact head?_hyphenate rest starts

theorem stripHyphens_within (text : List Char) : stripHyphens text <:+: text :=
  (List.rdropWhile_prefix _ _).isInfix.trans (List.dropWhile_suffix _).isInfix

theorem head?_stripHyphens (text : List Char) : (stripHyphens text).head? ≠ some '-' := by
  intro starts
  have kept := List.head?_dropWhile_not (· == '-') text
  obtain ⟨rest, split⟩ := List.rdropWhile_prefix (· == '-') (text.dropWhile (· == '-'))
  have first : (text.dropWhile (· == '-')).head? = some '-' := by
    rw [← split, List.head?_append, show (List.rdropWhile _ _).head? = some '-' from starts]
    rfl
  rw [first] at kept
  cases kept

theorem getLast?_stripHyphens (text : List Char) : (stripHyphens text).getLast? ≠ some '-' := by
  intro ends
  have nonempty : stripHyphens text ≠ [] := by
    intro empty
    rw [empty] at ends
    cases ends
  rw [List.getLast?_eq_some_getLast nonempty] at ends
  exact absurd (beq_iff_eq.mpr (Option.some.inj ends)) (List.rdropWhile_last_not _ _ nonempty)

theorem slugText_base {text : List Char} (nonempty : stripHyphens (hyphenate false text) ≠ []) :
    SlugText (stripHyphens (hyphenate false text)) where
  nonempty := nonempty
  letters := fun _ member => mem_hyphenate false ((stripHyphens_within _).subset member)
  spaced := by
    obtain ⟨before, after, split⟩ := stripHyphens_within (hyphenate false text)
    have whole := spaced_hyphenate text false
    rw [← split] at whole
    exact (List.isChain_append.mp (List.isChain_append.mp whole).1).2.1
  starts := head?_stripHyphens _
  ends := getLast?_stripHyphens _

theorem SlugText.join {left right : List Char} (before : SlugText left) (after : SlugText right) :
    SlugText (left ++ '-' :: right) where
  nonempty := by simp
  letters := by
    intro c member
    rcases List.mem_append.mp member with earlier | later
    · exact before.letters c earlier
    · rcases List.mem_cons.mp later with same | later
      · exact .inr same
      · exact after.letters c later
  spaced := by
    rw [List.isChain_append]
    refine ⟨before.spaced, List.isChain_cons.mpr ⟨?_, after.spaced⟩, ?_⟩
    · rintro next starts - rfl
      exact after.starts starts
    · rintro last ends next - rfl
      exact absurd ends before.ends
  starts := by
    rw [List.head?_append_of_ne_nil _ before.nonempty]
    exact before.starts
  ends := by
    rw [List.getLast?_append_cons, List.getLast?_cons_of_ne_nil after.nonempty]
    exact after.ends

theorem isSlugChar_hex : ∀ digit ∈ hexAlphabet, isSlugChar digit = true := List.all_eq_true.mp (by decide)

theorem slugText_of_letters {text : List Char} (nonempty : text ≠ []) (letters : ∀ c ∈ text, isSlugChar c = true) :
    SlugText text := by
  have apart : '-' ∉ text := fun member => absurd (letters _ member) (by decide)
  refine ⟨nonempty, fun c member => .inl (letters c member), ?_, ?_, ?_⟩
  · refine List.Pairwise.isChain (List.pairwise_of_forall_mem_list ?_)
    rintro left - right member - rfl
    exact apart member
  · exact fun starts => apart (List.mem_of_head? starts)
  · exact fun ends => apart (List.mem_of_getLast? ends)

theorem slugText_suffix (drawn : UUID) : SlugText ((hexDigits drawn).take 8) := by
  apply slugText_of_letters
  · intro empty
    have short := congrArg List.length empty
    rw [List.length_take, List.length_nil, hexDigits, List.length_append, List.length_replicate] at short
    omega
  · intro c member
    exact isSlugChar_hex c (mem_hexDigits (List.mem_of_mem_take member))

theorem slugText_slugify (lower : List Char → List Char) (name : String) (drawn : UUID) :
    SlugText (slugify lower name drawn).toList := by
  rw [slugify, String.toList_ofList]
  split
  · exact slugText_suffix drawn
  · rename_i nonempty
    exact (slugText_base nonempty).join (slugText_suffix drawn)

end SlugTexts

section Writes

variable {state after : CompanyStore} {companyId expectedVersion : Nat}

/-- The company is there, active and not deleted. -/
def InService (companyId : UUID) (state : CompanyStore) : Prop :=
  ∃ company, state.companies.find? companyId = some company ∧ company.isActive = true ∧ company.deletedAt = none

instance (companyId : UUID) (state : CompanyStore) : Decidable (InService companyId state) :=
  match found : state.companies.find? companyId with
  | none => isFalse (by simp [InService, found])
  | some company => decidable_of_iff (company.isActive = true ∧ company.deletedAt = none) (by simp [InService, found])

/-- The call asks to take the company out of service. -/
def CompanyCall.withdraws (companyId : UUID) : CompanyCall → Bool
  | .updateCompany target _ given => target == companyId && given.isActive == some false
  | .softDelete target _ _ => target == companyId
  | _ => false

/-- The slug of a company that the call asks to create. -/
def CompanyCall.slug? : CompanyCall → Option String
  | .createCompany _ slug => some slug
  | _ => none

theorem write_companies (state : CompanyStore) (companyId expectedVersion : Nat) (edit : Edit CompanyRecord) :
    (state.write companyId expectedVersion edit).2.companies = state.companies ∨
      (state.write companyId expectedVersion edit).2.companies =
        state.companies.modify companyId (stamped edit expectedVersion) := by
  rcases outcome : updateWithOptimisticLock "companies" state.companies companyId expectedVersion edit
      fun company => World.firstViolated [CompanyStore.nameCheck company] with ⟨_ | written, companies⟩
  · left
    simp only [CompanyStore.write, outcome]
    exact updateWithOptimisticLock_error outcome
  · right
    obtain ⟨_, _, _, _, _, same⟩ := updateWithOptimisticLock_ok_iff.mp outcome
    simp only [CompanyStore.write, outcome, same]

theorem insert_companies (state : CompanyStore) (name slug : String) :
    (state.insert name slug).2.companies = state.companies ∨
      (∀ other ∈ state.companies.rows, other.slug ≠ slug) ∧
        (state.insert name slug).2.companies = state.companies.insert (state.newCompany name slug) := by
  rcases outcome : insertRow "companies" state.companies (state.newCompany name slug) fun company =>
      World.firstViolated [CompanyStore.nameCheck company,
        ("unique", state.companies.rows.all fun other => other.slug != company.slug)] with ⟨_ | created, companies⟩
  · left
    simp only [CompanyStore.insert, outcome]
    exact insertRow_error outcome
  · right
    obtain ⟨accepted, named, extended⟩ := insertRow_ok_iff.mp outcome
    have unique := (World.firstViolated_eq_none_iff _).mp accepted _ (List.mem_cons_of_mem _ (List.mem_singleton_self _))
    subst named
    refine ⟨?_, by simp only [CompanyStore.insert, outcome, extended]⟩
    intro other member
    exact bne_iff_ne.mp (List.all_eq_true.mp unique other member)

theorem write_keeps_service {edit : Edit CompanyRecord} {target : UUID} (usable : InService companyId state)
    (harmless : target = companyId → ∀ company, company.isActive = true → company.deletedAt = none →
      (edit.apply company).isActive = true ∧ (edit.apply company).deletedAt = none) :
    InService companyId (state.write target expectedVersion edit).2 := by
  obtain ⟨company, found, active, live⟩ := usable
  rcases write_companies state target expectedVersion edit with same | same
  · exact ⟨company, by rw [same]; exact found, active, live⟩
  · rw [InService, same, find?_modify]
    by_cases named : companyId = target
    · rw [if_pos named, ← named, found]
      obtain ⟨kept, present⟩ := harmless named.symm company active live
      exact ⟨_, rfl, kept, present⟩
    · rw [if_neg named]
      exact ⟨company, found, active, live⟩

theorem execute_keeps_service {call : CompanyCall} (usable : InService companyId state)
    (spares : call.withdraws companyId = false) : InService companyId (state.execute call).2 := by
  cases call with
  | createCompany name slug =>
      obtain ⟨company, found, active, live⟩ := usable
      change InService companyId (state.insert name slug).2
      rcases insert_companies state name slug with same | ⟨-, same⟩
      · exact ⟨company, by rw [same]; exact found, active, live⟩
      · refine ⟨company, ?_, active, live⟩
        rw [same, find?_insert, if_neg, found]
        rintro rfl
        cases state.companies.find?_next.symm.trans found
  | updateCompany target expectedVersion given =>
      change InService companyId (state.update target expectedVersion given).2
      unfold CompanyStore.update
      split
      · exact usable
      · apply write_keeps_service usable
        intro named company active live
        refine ⟨?_, live⟩
        change given.isActive.getD company.isActive = true
        rw [CompanyCall.withdraws, named, beq_self_eq_true, Bool.true_and, beq_eq_false_iff_ne] at spares
        cases asked : given.isActive with
        | none => exact active
        | some value =>
            cases value with
            | true => rfl
            | false => exact absurd asked spares
  | softDelete target expectedVersion deletedBy =>
      apply write_keeps_service usable
      intro named
      exact absurd named (beq_eq_false_iff_ne.mp spares)
  | restore target expectedVersion =>
      apply write_keeps_service usable
      intro _ company active _
      exact ⟨active, rfl⟩
  | _ => exact usable

/-- The identifiers and slugs of the companies, in the order of their creation. -/
def addresses (state : CompanyStore) : List (UUID × String) :=
  state.companies.rows.map fun company => (company.id, company.slug)

theorem write_addresses {edit : Edit CompanyRecord} (keeps : ∀ company, (edit.apply company).slug = company.slug) :
    addresses (state.write companyId expectedVersion edit).2 = addresses state := by
  rcases write_companies state companyId expectedVersion edit with same | same
  · rw [addresses, same, addresses]
  · rw [addresses, same, modify_rows, List.map_map, addresses]
    apply List.map_congr_left
    intro company _
    refine Prod.ext (key_editRow companyId (stamped edit expectedVersion) company) ?_
    change (editRow companyId (stamped edit expectedVersion) company).slug = company.slug
    unfold editRow
    split
    · exact keeps company
    · rfl

theorem execute_addresses (state : CompanyStore) (call : CompanyCall) :
    addresses (state.execute call).2 = addresses state ∨
      ∃ slug, call.slug? = some slug ∧ (∀ other ∈ state.companies.rows, other.slug ≠ slug) ∧
        addresses (state.execute call).2 = addresses state ++ [(state.companies.next, slug)] := by
  cases call with
  | createCompany name slug =>
      rcases insert_companies state name slug with same | ⟨unused, same⟩
      · exact .inl (congrArg (fun table => table.rows.map fun company => (company.id, company.slug)) same)
      · refine .inr ⟨slug, rfl, unused, ?_⟩
        change addresses (state.insert name slug).2 = _
        rw [addresses, same, insert_rows, List.map_append]
        rfl
  | updateCompany target expectedVersion given =>
      left
      change addresses (state.update target expectedVersion given).2 = _
      unfold CompanyStore.update
      split
      · rfl
      · exact write_addresses fun _ => rfl
  | softDelete => exact .inl (write_addresses fun _ => rfl)
  | restore => exact .inl (write_addresses fun _ => rfl)
  | _ => exact .inl rfl

end Writes

section Runs

variable {ι : Type} {companyId : UUID} {lower : List Char → List Char}

/-- The calls that an operation may make: all but the clock's need a platform admin, a company is withdrawn by callers of
other companies, and a new company gets a slug made of its name. -/
def Permitted (lower : List Char → List Char) (identity : PlatformIdentity) (call : CompanyCall) : Prop :=
  (call = .utcNow ∨ identity.isPlatformAdmin = true) ∧ call.withdraws identity.companyId = false ∧
    ∀ slug, call.slug? = some slug → ∃ name drawn, slug = slugify lower name drawn

theorem permitted_plain {identity : PlatformIdentity} {call : CompanyCall} (admin : identity.isPlatformAdmin = true)
    (spares : call.withdraws identity.companyId = false) (creates : call.slug? = none) : Permitted lower identity call := by
  refine ⟨.inr admin, spares, ?_⟩
  intro slug asked
  rw [creates] at asked
  cases asked

theorem CompanyOperation.only_permitted (operation : CompanyOperation) :
    (operation.program lower).Only (Permitted lower operation.identity) := by
  have read (identity : PlatformIdentity) : Permitted lower identity .utcNow := by
    refine ⟨.inl rfl, rfl, ?_⟩
    intro slug asked
    cases asked
  have recorded (identity : PlatformIdentity) (admin : identity.isPlatformAdmin = true) (action : AuditAction)
      (target : Option UUID) : Permitted lower identity (.recordEvent action identity.userId target) :=
    permitted_plain admin rfl rfl
  cases operation with
  | createCompany identity name =>
      apply Only.bind
      · apply only_authorized (read identity)
        intro admin
        apply Only.bind (only_perform (permitted_plain admin rfl rfl))
        intro drawn
        apply Only.bind
        · apply only_translating
          refine ⟨.inr admin, rfl, ?_⟩
          intro slug asked
          cases asked
          exact ⟨name, drawn, rfl⟩
        · intro created
          exact Only.bind (only_perform (recorded identity admin _ _)) fun _ => trivial
      · exact fun _ => trivial
  | getCompany identity target =>
      apply Only.bind
      · apply only_authorized (read identity)
        intro admin
        exact only_translating (permitted_plain admin rfl rfl)
      · exact fun _ => trivial
  | updateCompany identity target expectedVersion given =>
      apply Only.bind
      · apply only_authorized (read identity)
        intro admin
        have updates (spares : given.isActive = some false → target ≠ identity.companyId) :
            (translating (perform (.updateCompany target expectedVersion given)) >>= fun updated =>
              recordUpdate identity target given >>= fun _ => return updated).Only (Permitted lower identity) := by
          apply Only.bind
          · apply only_translating
            refine permitted_plain admin ?_ rfl
            rw [CompanyCall.withdraws, Bool.and_eq_false_iff, beq_eq_false_iff_ne, beq_eq_false_iff_ne]
            by_cases suspends : given.isActive = some false
            · exact .inl (spares suspends)
            · exact .inr suspends
          · intro updated
            exact Only.bind (only_recordUpdate fun action => recorded identity admin action _) fun _ => trivial
        by_cases suspends : given.isActive = some false
        · rw [if_pos suspends]
          exact only_guarded fun apart => updates fun _ => apart
        · rw [if_neg suspends]
          exact updates fun asked => absurd asked suspends
      · exact fun _ => trivial
  | softDeleteCompany identity target expectedVersion =>
      apply Only.bind
      · apply only_authorized (read identity)
        intro admin
        apply only_guarded
        intro apart
        apply Only.bind
        · apply only_translating
          exact permitted_plain admin (beq_eq_false_iff_ne.mpr apart) rfl
        · intro deleted
          exact Only.bind (only_perform (recorded identity admin _ _)) fun _ => trivial
      · exact fun _ => trivial
  | restoreCompany identity target expectedVersion =>
      apply Only.bind
      · apply only_authorized (read identity)
        intro admin
        apply Only.bind (only_translating (permitted_plain admin rfl rfl))
        intro restored
        exact Only.bind (only_perform (recorded identity admin _ _)) fun _ => trivial
      · exact fun _ => trivial

def launchCompanies (lower : List Char → List Char) (operations : ι → CompanyOperation) (store : CompanyStore) :
    Pool companySignature CompanyFault CompanyStore ι where
  shared := store
  threads := fun thread => (operations thread).program lower

theorem companyStep_after {thread : ι} {state after : CompanyStore} {call : CompanyCall}
    {reply : Except CompanyFault call.Result} (step : companyStep thread state call reply after) :
    after = state.tick ∨ after = (state.execute call).2.tick := by
  rcases step with ⟨-, same⟩ | ⟨_, -, -, same⟩
  · exact .inr same
  · exact same

variable [DecidableEq ι]

/-- A company goes out of service only by a call of a platform admin of another company. -/
theorem withdrawn_from_outside (operations : ι → CompanyOperation) (store : CompanyStore)
    (usable : InService companyId store) {last : Pool companySignature CompanyFault CompanyStore ι}
    {events : List (Event companySignature ι)}
    (run : Pool.Run companyStep (launchCompanies lower operations store) events last)
    (gone : ¬ InService companyId last.shared) :
    ∃ event ∈ events, event.request.withdraws companyId = true ∧
      (operations event.thread).identity.isPlatformAdmin = true ∧
      (operations event.thread).identity.companyId ≠ companyId := by
  have permitted (thread : ι) : ((launchCompanies lower operations store).threads thread).Only
      (Permitted lower (operations thread).identity) := (operations thread).only_permitted
  have kept := run.confined_log (fun (events : List (Event companySignature ι)) state => InService companyId state ∨
    ∃ event ∈ events, event.request.withdraws companyId = true ∧
      (operations event.thread).identity.isPlatformAdmin = true ∧
      (operations event.thread).identity.companyId ≠ companyId) ?_ permitted (.inl usable)
  · exact kept.resolve_left gone
  · intro events thread state call reply after held permitted step
    obtain ⟨admin, spares, -⟩ := permitted
    rcases held with usable | ⟨event, member, withdrawn⟩
    · cases asked : call.withdraws companyId with
      | false =>
          left
          rcases companyStep_after step with same | same
          · exact same ▸ usable
          · exact same ▸ execute_keeps_service usable asked
      | true =>
          right
          refine ⟨_, List.mem_append_right events (List.mem_singleton_self _), asked, ?_, ?_⟩
          · rcases admin with clock | admin
            · rw [clock] at asked
              cases asked
            · exact admin
          · intro own
            rw [own, asked] at spares
            cases spares
    · exact .inr ⟨event, List.mem_append_left _ member, withdrawn⟩

/-- Slugs are distinct and well formed. -/
structure Addressed (state : CompanyStore) : Prop where
  distinct : ((addresses state).map Prod.snd).Nodup
  wellFormed : ∀ address ∈ addresses state, SlugText address.2.toList

theorem Addressed.execute {state : CompanyStore} {call : CompanyCall} {identity : PlatformIdentity}
    (addressed : Addressed state) (permitted : Permitted lower identity call) : Addressed (state.execute call).2 := by
  rcases execute_addresses state call with same | ⟨slug, asked, unused, extended⟩
  · exact ⟨same ▸ addressed.distinct, same ▸ addressed.wellFormed⟩
  · obtain ⟨name, drawn, made⟩ := permitted.2.2 slug asked
    constructor
    · rw [extended, List.map_append, List.nodup_append]
      refine ⟨addressed.distinct, List.nodup_singleton _, ?_⟩
      intro used member last named same
      rw [List.map_singleton, List.mem_singleton] at named
      obtain ⟨address, recorded, isUsed⟩ := List.mem_map.mp member
      obtain ⟨company, stored, isAddress⟩ := List.mem_map.mp recorded
      subst isAddress
      exact unused company stored (isUsed.trans (same.trans named))
    · intro address member
      rw [extended] at member
      rcases List.mem_append.mp member with earlier | last
      · exact addressed.wellFormed address earlier
      · rw [List.mem_singleton.mp last, made]
        exact slugText_slugify lower name drawn

/-- Companies are never lost, each keeps the slug that it was created with, and no two share one. -/
theorem slugs_permanent (operations : ι → CompanyOperation) (store : CompanyStore) (addressed : Addressed store)
    {last : Pool companySignature CompanyFault CompanyStore ι} {events : List (Event companySignature ι)}
    (run : Pool.Run companyStep (launchCompanies lower operations store) events last) :
    addresses store <+: addresses last.shared ∧ Addressed last.shared := by
  have permitted (thread : ι) : ((launchCompanies lower operations store).threads thread).Only
      (Permitted lower (operations thread).identity) := (operations thread).only_permitted
  refine (run.confined (fun state => addresses store <+: addresses state ∧ Addressed state) ?_ permitted
    ⟨List.prefix_rfl, addressed⟩).1
  intro thread state call reply after held permitted step
  obtain ⟨kept, addressed⟩ := held
  rcases companyStep_after step with same | same
  · subst same
    exact ⟨kept, addressed.distinct, addressed.wellFormed⟩
  · subst same
    have added : Addressed (state.execute call).2 := addressed.execute permitted
    refine ⟨?_, added.distinct, added.wellFormed⟩
    rcases execute_addresses state call with same | ⟨slug, -, -, extended⟩
    · exact same ▸ kept
    · exact extended ▸ kept.trans (List.prefix_append _ _)

end Runs

section Samples

def platformAdmin (userId companyId : UUID) : PlatformIdentity where
  userId := userId
  role := .admin
  companyId := companyId
  expiresAt := none
  isPlatformAdmin := true

def tenant (id : UUID) (name slug : String) : CompanyRecord where
  id := id
  name := name
  slug := slug
  isActive := true
  contactEmail := none
  notes := none
  version := 1
  createdAt := 0
  updatedAt := 0
  deletedAt := none
  deletedBy := none

def twoTenants : CompanyStore where
  clock := fun instant => instant
  identifiers := fun _ => 0x123e4567e89b12d3a456426614174000
  ticks := 0
  companies := ⟨[tenant 1 "Default Organization" "default-organization", tenant 2 "Acme" "acme-0a1b2c3d"], 3, by decide,
    by decide⟩
  audit := []

def suspendOther (thread : Fin 2) : CompanyOperation :=
  if thread = 0 then .softDeleteCompany (platformAdmin 7 1) 2 1
  else .createCompany (platformAdmin 8 2) "Two, Two"

theorem companyHandler_steps {ι : Type} (thread : ι) (state : CompanyStore) (call : CompanyCall) :
    companyStep thread state call (companyHandler call state).1 (companyHandler call state).2 :=
  .inl ⟨rfl, rfl⟩

/-- A company is deleted by a caller from another one. -/
theorem withdrawn_from_outside_deletion :
    ∃ last events, Run companyStep (launchCompanies (·.map Char.toLower) suspendOther twoTenants) events last ∧
      ∃ event ∈ events, CompanyCall.withdraws 2 event.request = true ∧
        (suspendOther event.thread).identity.isPlatformAdmin = true ∧
        (suspendOther event.thread).identity.companyId ≠ 2 := by
  have run := play_runs companyHandler companyHandler_steps
    (launchCompanies (·.map Char.toLower) suspendOther twoTenants) [0, 1, 0]
  exact ⟨_, _, run, withdrawn_from_outside suspendOther twoTenants (by decide +kernel) run (by decide +kernel)⟩

theorem addressed_twoTenants : Addressed twoTenants := by
  refine ⟨by decide +kernel, ?_⟩
  have each : ∀ address ∈ addresses twoTenants, address.2.toList ≠ [] ∧
      (address.2.toList.all fun c => isSlugChar c || c == '-') = true ∧
      (address.2.toList.IsChain fun left right => left = '-' → right ≠ '-') ∧ address.2.toList.head? ≠ some '-' ∧
      address.2.toList.getLast? ≠ some '-' := by
    decide +kernel
  intro address member
  obtain ⟨nonempty, letters, spaced, starts, ends⟩ := each address member
  refine ⟨nonempty, ?_, spaced, starts, ends⟩
  intro c member
  simpa using List.all_eq_true.mp letters c member

/-- A company is created under a slug of its own while another is deleted. -/
theorem slugs_permanent_creation :
    ∃ last events, Run companyStep (launchCompanies (·.map Char.toLower) suspendOther twoTenants) events last ∧
      (addresses last.shared).getLast? = some (3, "two-two-123e4567") ∧
      addresses twoTenants <+: addresses last.shared ∧ Addressed last.shared := by
  have run := play_runs companyHandler companyHandler_steps
    (launchCompanies (·.map Char.toLower) suspendOther twoTenants) [1, 0, 1, 1, 0]
  exact ⟨_, _, run, by decide +kernel, slugs_permanent suspendOther twoTenants addressed_twoTenants run⟩

end Samples

end AutomationHub.Platform
