import AutomationHub.Database.World
import AutomationHub.Foundation.OffsetSweep

/-!
The loops that fetch every page of a query, one query for each page.

A query sorts its rows by a column that may repeat, and may order rows of equal keys
differently each time.
-/

set_option autoImplicit false

namespace AutomationHub.Database

open Foundation Model

section Loops

variable {α : Type}

def pageOf (size : Nat) (positive : 1 ≤ size) (bounded : size ≤ maxPageSize) (index : Nat) : Page where
  number := index + 1
  size := size
  number_pos := Nat.succ_pos index
  size_pos := positive
  size_le := bounded

/-- The loop of `_fetch_all` from the page numbered `index + 1` on; `none` is a loop that has not ended. -/
def fetchPagesFrom (fetchPage : Page → PagedResult α) : (fuel index : Nat) → Option (List α)
  | 0, _ => none
  | fuel + 1, index =>
      let result := fetchPage (pageOf 100 one_le_hundred hundred_le_maxPageSize index)
      if result.items.isEmpty then some []
      else if result.totalPages ≤ index + 1 then some result.items
      else (fetchPagesFrom fetchPage fuel (index + 1)).map (result.items ++ ·)

namespace AnalyticsEngine

/-- `AnalyticsEngine._fetch_all`. -/
def fetchAll (fetchPage : Page → PagedResult α) (fuel : Nat) : Option (List α) :=
  fetchPagesFrom fetchPage fuel 0

end AnalyticsEngine

namespace OperationalAnalyticsEngine

/-- `OperationalAnalyticsEngine._fetch_all`, a copy of the other. -/
def fetchAll (fetchPage : Page → PagedResult α) (fuel : Nat) : Option (List α) :=
  fetchPagesFrom fetchPage fuel 0

end OperationalAnalyticsEngine

/-- The loop of `fetch_all_profiles` over the pages of one role. -/
def fetchRoleFrom (listByRole : Page → PagedResult ProfileRecord) : (fuel index : Nat) → Option (List ProfileRecord)
  | 0, _ => none
  | fuel + 1, index =>
      let result := listByRole (pageOf maxPageSize one_le_maxPageSize (Nat.le_refl maxPageSize) index)
      if result.totalRecords ≤ (index + 1) * maxPageSize || result.items.isEmpty then some result.items
      else (fetchRoleFrom listByRole fuel (index + 1)).map (result.items ++ ·)

def userRoles : List UserRole := [.employee, .approver, .admin]

def fetchAllProfiles (listByRole : UserRole → Page → PagedResult ProfileRecord) (fuel : Nat) :
    Option (List ProfileRecord) :=
  (userRoles.mapM fun role => fetchRoleFrom (listByRole role) fuel 0).map List.flatten

end Loops

section Sweeps

variable {α : Type} {arranged : Nat → List α} {count : Nat}

/-- Each page is cut out of what its own query returns. -/
def pagesOf (arranged : Nat → List α) (page : Page) : PagedResult α :=
  paginate (arranged (page.number - 1)) page

theorem items_pagesOf (size : Nat) (positive : 1 ≤ size) (bounded : size ≤ maxPageSize) (index : Nat) :
    (pagesOf arranged (pageOf size positive bounded index)).items = slice size index (arranged index) := rfl

theorem total_le_of_empty_slice {size index : Nat} {rows : List α} (positive : 1 ≤ size)
    (empty : slice size index rows = []) : rows.length ≤ (index + 1) * size := by
  rw [slice, List.take_eq_nil_iff, List.drop_eq_nil_iff] at empty
  rw [Nat.succ_mul]
  omega

theorem fetchPagesFrom_eq (lengths : ∀ page, (arranged page).length = count) (fuel : Nat) :
    ∀ index, 0 < fuel → count ≤ (index + fuel) * 100 →
      fetchPagesFrom (pagesOf arranged) fuel index = some (sweep 100 arranged fuel index) := by
  induction fuel with
  | zero => exact fun _ positive => absurd positive (Nat.lt_irrefl 0)
  | succ fuel ih =>
      intro index _ enough
      have pages : (pagesOf arranged (pageOf 100 one_le_hundred hundred_le_maxPageSize index)).totalPages ≤ index + 1 ↔
          (arranged index).length ≤ (index + 1) * 100 := pageCount_le_iff one_le_hundred
      rw [fetchPagesFrom]
      simp only [items_pagesOf, pages]
      by_cases last : (arranged index).length ≤ (index + 1) * 100
      · rw [sweep_last fuel last]
        cases shown : slice 100 index (arranged index) with
        | nil => rfl
        | cons row rows => simp [last]
      · rw [sweep_more fuel last]
        have some : (slice 100 index (arranged index)).isEmpty = false := by
          by_contra empty
          apply last
          apply total_le_of_empty_slice one_le_hundred
          simpa using empty
        have length := lengths index
        simp [some, last, ih (index + 1) (by omega) (by omega)]

theorem fetchRoleFrom_eq {arranged : Nat → List ProfileRecord} (lengths : ∀ page, (arranged page).length = count)
    (fuel : Nat) : ∀ index, 0 < fuel → count ≤ (index + fuel) * maxPageSize →
      fetchRoleFrom (pagesOf arranged) fuel index = some (sweep maxPageSize arranged fuel index) := by
  induction fuel with
  | zero => exact fun _ positive => absurd positive (Nat.lt_irrefl 0)
  | succ fuel ih =>
      intro index _ enough
      have total : (pagesOf arranged (pageOf maxPageSize one_le_maxPageSize (Nat.le_refl _) index)).totalRecords
          = (arranged index).length := rfl
      rw [fetchRoleFrom]
      simp only [items_pagesOf, total]
      by_cases last : (arranged index).length ≤ (index + 1) * maxPageSize
      · rw [sweep_last fuel last]
        simp [last]
      · rw [sweep_more fuel last]
        have some : (slice maxPageSize index (arranged index)).isEmpty = false := by
          by_contra empty
          apply last
          apply total_le_of_empty_slice one_le_maxPageSize
          simpa using empty
        have length := lengths index
        have least := one_le_maxPageSize
        have next : count ≤ (index + 1 + fuel) * maxPageSize := by
          rwa [Nat.add_right_comm, Nat.add_assoc]
        have room : 0 < fuel := by
          by_contra none
          obtain rfl : fuel = 0 := Nat.eq_zero_of_not_pos none
          exact last (by rw [length]; exact enough)
        simp [some, last, ih (index + 1) room next]

end Sweeps

section Fetches

variable {α κ : Type} [LinearOrder κ]

/-- However the database orders equal keys for each page, the loop ends, and returns every row once and nothing else. -/
def FetchesOnce (fetch : (Page → PagedResult α) → Nat → Option (List α)) (key : α → κ) (rows : List α) : Prop :=
  ∀ arranged : Nat → List α, (∀ page, Arranges key rows (arranged page)) →
    ∃ fetched : List α, fetched.Perm rows ∧ ∀ fuel, rows.length < fuel → fetch (pagesOf arranged) fuel = some fetched

/-- The rows of `list_by_role`. -/
def profilesIn (profiles : Table ProfileRecord) (companyId : UUID) (role : UserRole) : List ProfileRecord :=
  profiles.rows.filter fun profile => profile.companyId == companyId && profile.deletedAt.isNone && profile.role == role

/-- However the database orders equal names for each page of each role, the loops end, and return every profile of the
company that is not erased once and nothing else. -/
def FetchesProfilesOnce (name : String → κ) (profiles : Table ProfileRecord) (companyId : UUID) : Prop :=
  ∀ arranged : UserRole → Nat → List ProfileRecord,
    (∀ role page, Arranges (name ∘ ProfileRecord.fullName) (profilesIn profiles companyId role) (arranged role page)) →
    ∃ fetched : List ProfileRecord,
      fetched.Perm (profiles.rows.filter fun profile => profile.companyId == companyId && profile.deletedAt.isNone) ∧
        ∀ fuel, profiles.rows.length < fuel → fetchAllProfiles (fun role => pagesOf (arranged role)) fuel = some fetched

theorem fetchesOnce_iff {key : α → κ} {rows : List α} (distinct : rows.Nodup) :
    FetchesOnce (fun fetchPage fuel => fetchPagesFrom fetchPage fuel 0) key rows ↔ TiesKeepPages key 100 rows := by
  have fits : rows.length ≤ (rows.length + 1) * 100 := by omega
  rw [← sweep_perm_iff distinct fits]
  refine forall_congr' fun arranged => imp_congr_right fun arranges => ?_
  have fetched : ∀ fuel, rows.length < fuel →
      fetchPagesFrom (pagesOf arranged) fuel 0 = some (sweep 100 arranged (rows.length + 1) 0) := by
    intro fuel enough
    rw [fetchPagesFrom_eq (fun page => (arranges page).perm.length_eq) fuel 0 (by omega) (by omega),
      sweep_fuel arranges one_le_hundred enough]
  constructor
  · intro found
    obtain ⟨result, whole, returned⟩ := found
    obtain rfl := Option.some.inj ((fetched _ (Nat.lt_succ_self _)).symm.trans (returned _ (Nat.lt_succ_self _)))
    exact whole
  · exact fun whole => ⟨_, whole, fetched⟩

theorem fetchAllProfiles_eq {name : String → κ} {profiles : Table ProfileRecord} {companyId : UUID}
    {arranged : UserRole → Nat → List ProfileRecord}
    (arranges : ∀ role page,
      Arranges (name ∘ ProfileRecord.fullName) (profilesIn profiles companyId role) (arranged role page))
    {fuel : Nat} (enough : profiles.rows.length < fuel) :
    fetchAllProfiles (fun role => pagesOf (arranged role)) fuel
      = some (userRoles.map fun role =>
          sweep maxPageSize (arranged role) ((profilesIn profiles companyId role).length + 1) 0).flatten := by
  have ofRole : ∀ role, fetchRoleFrom (pagesOf (arranged role)) fuel 0
      = some (sweep maxPageSize (arranged role) ((profilesIn profiles companyId role).length + 1) 0) := by
    intro role
    have fewer : (profilesIn profiles companyId role).length < fuel :=
      Nat.lt_of_le_of_lt (List.length_filter_le _ _) enough
    have fits : (profilesIn profiles companyId role).length ≤ (0 + fuel) * maxPageSize := by
      rw [Nat.zero_add]
      exact fewer.le.trans (Nat.le_mul_of_pos_right fuel one_le_maxPageSize)
    rw [fetchRoleFrom_eq (fun page => (arranges role page).perm.length_eq) fuel 0 (by omega) fits,
      sweep_fuel (arranges role) one_le_maxPageSize fewer]
  simp [fetchAllProfiles, userRoles, ofRole]

theorem perm_userRoles (profiles : List ProfileRecord) :
    (userRoles.map fun role => profiles.filter fun profile => profile.role == role).flatten.Perm profiles := by
  induction profiles with
  | nil => exact .refl _
  | cons profile rest ih =>
      simp only [userRoles, List.map_cons, List.map_nil, List.flatten_cons, List.flatten_nil, List.append_nil] at ih ⊢
      cases role : profile.role with
      | employee => simpa [List.filter_cons, role] using ih.cons profile
      | approver => simpa [List.filter_cons, role] using List.perm_middle.trans (ih.cons profile)
      | admin =>
          simp only [List.filter_cons, role, ← List.append_assoc] at ih ⊢
          simpa using List.perm_middle.trans (ih.cons profile)

theorem perm_flatten_userRoles_iff {profiles : Table ProfileRecord} {companyId : UUID}
    {fetched : UserRole → List ProfileRecord} (members : ∀ role, ∀ profile ∈ fetched role, profile.role = role) :
    (userRoles.map fetched).flatten.Perm
        (profiles.rows.filter fun profile => profile.companyId == companyId && profile.deletedAt.isNone) ↔
      ∀ role, (fetched role).Perm (profilesIn profiles companyId role) := by
  have ofRole : ∀ role, (userRoles.map fetched).flatten.filter (fun profile => profile.role == role) = fetched role := by
    intro role
    have own : ∀ other, (fetched other).filter (fun profile => profile.role == role)
        = if other = role then fetched other else [] := by
      intro other
      split
      · rename_i same
        rw [List.filter_eq_self]
        exact fun profile member => by simp [members other profile member, same]
      · rename_i apart
        rw [List.filter_eq_nil_iff]
        exact fun profile member => by simp [members other profile member, apart]
    simp only [userRoles, List.map_cons, List.map_nil, List.flatten_cons, List.flatten_nil, List.append_nil,
      List.filter_append, own]
    cases role <;> simp
  have selected : ∀ role, (profiles.rows.filter fun profile => profile.companyId == companyId
      && profile.deletedAt.isNone).filter (fun profile => profile.role == role) = profilesIn profiles companyId role := by
    intro role
    rw [List.filter_filter, profilesIn]
    congr 1
    funext profile
    exact Bool.and_comm _ _
  constructor
  · intro whole role
    have part := whole.filter fun profile => profile.role == role
    rwa [ofRole, selected] at part
  · intro parts
    refine .trans ?_ (perm_userRoles _)
    simp only [selected, userRoles, List.map_cons, List.map_nil, List.flatten_cons, List.flatten_nil]
    exact (parts _).append ((parts _).append ((parts _).append (.refl _)))

theorem profilesIn_nodup (profiles : Table ProfileRecord) (companyId : UUID) (role : UserRole) :
    (profilesIn profiles companyId role).Nodup :=
  (List.Nodup.of_map _ profiles.distinct).filter _

theorem fetchesProfilesOnce_iff (name : String → κ) (profiles : Table ProfileRecord) (companyId : UUID) :
    FetchesProfilesOnce name profiles companyId ↔
      ∀ role, TiesKeepPages (name ∘ ProfileRecord.fullName) maxPageSize (profilesIn profiles companyId role) := by
  have fits : ∀ role, (profilesIn profiles companyId role).length
      ≤ ((profilesIn profiles companyId role).length + 1) * maxPageSize := fun role =>
    (Nat.le_succ _).trans (Nat.le_mul_of_pos_right _ one_le_maxPageSize)
  have parts : ∀ arranged : UserRole → Nat → List ProfileRecord, (∀ role page,
      Arranges (name ∘ ProfileRecord.fullName) (profilesIn profiles companyId role) (arranged role page)) →
      ((∃ fetched : List ProfileRecord,
          fetched.Perm (profiles.rows.filter fun profile => profile.companyId == companyId && profile.deletedAt.isNone) ∧
            ∀ fuel, profiles.rows.length < fuel →
              fetchAllProfiles (fun role => pagesOf (arranged role)) fuel = some fetched) ↔
        ∀ role, (sweep maxPageSize (arranged role) ((profilesIn profiles companyId role).length + 1) 0).Perm
          (profilesIn profiles companyId role)) := by
    intro arranged arranges
    have members : ∀ role, ∀ profile ∈ sweep maxPageSize (arranged role)
        ((profilesIn profiles companyId role).length + 1) 0, profile.role = role := by
      intro role profile listed
      have selected := (List.mem_filter.1 (mem_of_mem_sweep (arranges role) listed)).2
      exact beq_iff_eq.1 (Bool.and_eq_true_iff.1 selected).2
    rw [← perm_flatten_userRoles_iff members]
    constructor
    · intro found
      obtain ⟨result, whole, returned⟩ := found
      have fetched := fetchAllProfiles_eq arranges (Nat.lt_succ_self _)
      obtain rfl := Option.some.inj (fetched.symm.trans (returned _ (Nat.lt_succ_self _)))
      exact whole
    · exact fun whole => ⟨_, whole, fun fuel enough => fetchAllProfiles_eq arranges enough⟩
  constructor
  · intro fetches role
    rw [← sweep_perm_iff (profilesIn_nodup profiles companyId role) (fits role)]
    intro own arranges
    have everywhere : ∀ other page, Arranges (name ∘ ProfileRecord.fullName) (profilesIn profiles companyId other)
        (if other = role then own page else sortedBy (name ∘ ProfileRecord.fullName)
          (profilesIn profiles companyId other)) := by
      intro other page
      split
      · rename_i same
        exact same ▸ arranges page
      · exact arranges_sortedBy _ _
    have each := (parts (fun other page => if other = role then own page else
      sortedBy (name ∘ ProfileRecord.fullName) (profilesIn profiles companyId other)) everywhere).1
        (fetches _ everywhere) role
    simpa using each
  · intro apart arranged arranges
    apply (parts arranged arranges).2
    intro role
    exact (sweep_perm_iff (profilesIn_nodup profiles companyId role) (fits role)).2 (apart role) _ (arranges role)

/-- The fetches return every row exactly once, whatever order the database gives rows of equal keys for each page, exactly if
no two rows of equal keys are on different sides of a page boundary. -/
theorem fetches_once_iff {α κ μ : Type} [LinearOrder κ] [LinearOrder μ] (key : α → κ) (rows : List α)
    (distinct : rows.Nodup) (name : String → μ) (profiles : Table ProfileRecord) (companyId : UUID) :
    (FetchesOnce AnalyticsEngine.fetchAll key rows ↔ TiesKeepPages key 100 rows) ∧
    (FetchesOnce OperationalAnalyticsEngine.fetchAll key rows ↔ TiesKeepPages key 100 rows) ∧
    (FetchesProfilesOnce name profiles companyId ↔
      ∀ role, TiesKeepPages (name ∘ ProfileRecord.fullName) maxPageSize (profilesIn profiles companyId role)) :=
  ⟨fetchesOnce_iff distinct, fetchesOnce_iff distinct, fetchesProfilesOnce_iff name profiles companyId⟩

end Fetches

section Samples

def createdTogether (id : UUID) : WorkflowStageRecord where
  id := id
  requestId := id
  stageOrder := 1
  stageName := "Review"
  assignedRole := some .approver
  assignedTo := none
  status := .pending
  decidedBy := none
  decidedAt := none
  decisionNote := none
  version := 1
  createdAt := 0
  companyId := 1

def noProfiles : Table ProfileRecord where
  rows := []
  next := 0
  distinct := List.nodup_nil
  fresh := fun _ listed => absurd listed List.not_mem_nil

/-- Three stages of one instant are on one page. -/
theorem fetches_once_sample :
    FetchesOnce AnalyticsEngine.fetchAll WorkflowStageRecord.createdAt ((List.range 3).map createdTogether) := by
  have distinct : ((List.range 3).map createdTogether).Nodup := by decide
  apply (fetches_once_iff WorkflowStageRecord.createdAt _ distinct String.length noProfiles 1).1.2
  intro row _ page
  have few : asOld WorkflowStageRecord.createdAt ((List.range 3).map createdTogether) row ≤ 3 :=
    (List.length_filter_le _ _).trans (by simp)
  cases page with
  | zero => exact .inr (by simp)
  | succ page => exact .inl (by omega)

def hundredAndOne : List WorkflowStageRecord := (List.range 101).map createdTogether

/-- The stages are listed in the opposite order from the second page on. -/
def turning (page : Nat) : List WorkflowStageRecord :=
  if page = 0 then hundredAndOne else hundredAndOne.reverse

/-- Of 101 stages of one instant, the second page shows the first stage again, and the last one is on no page. -/
theorem stage_fetched_twice :
    ¬FetchesOnce AnalyticsEngine.fetchAll WorkflowStageRecord.createdAt hundredAndOne := by
  intro fetches
  have together : hundredAndOne.Pairwise fun left right => left.createdAt ≤ right.createdAt := by decide +kernel
  have reversed : hundredAndOne.reverse.Pairwise fun left right => left.createdAt ≤ right.createdAt := by decide +kernel
  have arranges : ∀ page, Arranges WorkflowStageRecord.createdAt hundredAndOne (turning page) := by
    intro page
    cases page with
    | zero => exact ⟨.refl _, together⟩
    | succ page => exact ⟨List.reverse_perm _, reversed⟩
  obtain ⟨fetched, whole, returned⟩ := fetches turning arranges
  have listed : (AnalyticsEngine.fetchAll (pagesOf turning) 102).map (List.map WorkflowStageRecord.id)
      = some (List.range 100 ++ [0]) := by decide +kernel
  have length : hundredAndOne.length < 102 := by decide
  rw [returned 102 length] at listed
  have ids : fetched.map WorkflowStageRecord.id = List.range 100 ++ [0] := Option.some.inj listed
  have distinct : (hundredAndOne.map WorkflowStageRecord.id).Nodup := by decide +kernel
  rw [← (whole.map WorkflowStageRecord.id).nodup_iff, ids] at distinct
  exact absurd distinct (by decide +kernel)

end Samples

end AutomationHub.Database
