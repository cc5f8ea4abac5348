import Mathlib.Data.List.Induction
import Mathlib.Order.Lattice

/-!
Limiters that accept or refuse calls, and the limiter that counts the accepted
calls of a key in a window that slides with time.

What a window counts at one instant it counted at every earlier one.
-/

set_option autoImplicit false

namespace AutomationHub.Foundation

structure Limiter (γ ρ : Type) where
  State : Type
  initial : State
  check : State → γ → Except ρ Unit × State

namespace Limiter

variable {γ ρ : Type}

def verdictsFrom (limiter : Limiter γ ρ) (state : limiter.State) : List γ → List (γ × Except ρ Unit)
  | [] => []
  | call :: rest => (call, (limiter.check state call).1) :: limiter.verdictsFrom (limiter.check state call).2 rest

def verdicts (limiter : Limiter γ ρ) (calls : List γ) : List (γ × Except ρ Unit) :=
  limiter.verdictsFrom limiter.initial calls

def after (limiter : Limiter γ ρ) (calls : List γ) : limiter.State :=
  calls.foldl (fun state call => (limiter.check state call).2) limiter.initial

/-- The verdict on a call that comes after others. -/
def verdict (limiter : Limiter γ ρ) (before : List γ) (call : γ) : Except ρ Unit :=
  (limiter.check (limiter.after before) call).1

def accepted (limiter : Limiter γ ρ) (calls : List γ) : List γ :=
  ((limiter.verdicts calls).filter fun entry => entry.2.toBool).map Prod.fst

theorem after_append_singleton (limiter : Limiter γ ρ) (before : List γ) (call : γ) :
    limiter.after (before ++ [call]) = (limiter.check (limiter.after before) call).2 := by
  simp [after]

theorem verdictsFrom_append (limiter : Limiter γ ρ) (state : limiter.State) (before rest : List γ) :
    limiter.verdictsFrom state (before ++ rest) = limiter.verdictsFrom state before ++
      limiter.verdictsFrom (before.foldl (fun state call => (limiter.check state call).2) state) rest := by
  induction before generalizing state with
  | nil => rfl
  | cons call before ih => simp [verdictsFrom, ih]

theorem verdicts_append_singleton (limiter : Limiter γ ρ) (before : List γ) (call : γ) :
    limiter.verdicts (before ++ [call]) = limiter.verdicts before ++ [(call, limiter.verdict before call)] := by
  simp [verdicts, verdictsFrom_append, verdictsFrom, verdict, after]

theorem map_fst_verdicts (limiter : Limiter γ ρ) (calls : List γ) : (limiter.verdicts calls).map Prod.fst = calls := by
  unfold verdicts
  generalize limiter.initial = state
  induction calls generalizing state with
  | nil => rfl
  | cons call rest ih => simp [verdictsFrom, ih]

theorem accepted_append_singleton (limiter : Limiter γ ρ) (before : List γ) (call : γ) :
    limiter.accepted (before ++ [call]) =
      limiter.accepted before ++ if (limiter.verdict before call).toBool then [call] else [] := by
  rw [accepted, verdicts_append_singleton, List.filter_append, List.map_append]
  congr 1
  by_cases passed : (limiter.verdict before call).toBool = true <;> simp [passed]

theorem verdict_of_split (limiter : Limiter γ ρ) {calls : List γ} {before rest : List (γ × Except ρ Unit)} {call : γ}
    {outcome : Except ρ Unit} (parts : limiter.verdicts calls = before ++ (call, outcome) :: rest) :
    calls = before.map Prod.fst ++ call :: rest.map Prod.fst ∧
      outcome = limiter.verdict (before.map Prod.fst) call := by
  have split : calls = before.map Prod.fst ++ call :: rest.map Prod.fst := by
    rw [← map_fst_verdicts limiter calls, parts]
    simp
  have again : limiter.verdicts calls = limiter.verdicts (before.map Prod.fst) ++
      (call, limiter.verdict (before.map Prod.fst) call) ::
        limiter.verdictsFrom (limiter.check (limiter.after (before.map Prod.fst)) call).2 (rest.map Prod.fst) := by
    rw [split, verdicts, verdictsFrom_append]
    rfl
  have length : before.length = (limiter.verdicts (before.map Prod.fst)).length := by
    rw [← List.length_map Prod.fst, ← List.length_map Prod.fst, map_fst_verdicts]
  have tails := (List.append_inj (parts.symm.trans again) length).2
  exact ⟨split, (Prod.mk.inj (List.cons.inj tails).1).2⟩

theorem verdict_congr {left right : Limiter γ ρ} {before : List γ} {call : γ}
    (same : left.verdicts (before ++ [call]) = right.verdicts (before ++ [call])) :
    left.verdict before call = right.verdict before call := by
  rw [verdicts_append_singleton, verdicts_append_singleton] at same
  obtain ⟨-, last⟩ := List.append_inj' same rfl
  exact (Prod.mk.inj (List.cons.inj last).1).2

theorem accepted_congr {left right : Limiter γ ρ} {calls : List γ} (same : left.verdicts calls = right.verdicts calls) :
    left.accepted calls = right.accepted calls := by
  rw [accepted, accepted, same]

section Simulation

variable {left right : Limiter γ ρ} {admissible : List γ → Prop}

/-- Two limiters in lockstep agree, if a relation that holds at first is kept by every admissible call. -/
theorem verdicts_eq_of_lockstep (related : List γ → left.State → right.State → Prop)
    (closed : ∀ before call, admissible (before ++ [call]) → admissible before)
    (start : related [] left.initial right.initial)
    (step : ∀ before call first second, admissible (before ++ [call]) → related before first second →
      (left.check first call).1 = (right.check second call).1 ∧
        related (before ++ [call]) (left.check first call).2 (right.check second call).2)
    (calls : List γ) (allowed : admissible calls) :
    left.verdicts calls = right.verdicts calls ∧ related calls (left.after calls) (right.after calls) := by
  induction calls using List.reverseRecOn with
  | nil => exact ⟨rfl, start⟩
  | append_singleton before call ih =>
      obtain ⟨same, kept⟩ := ih (closed before call allowed)
      obtain ⟨agreed, onward⟩ := step before call _ _ allowed kept
      constructor
      · rw [verdicts_append_singleton, verdicts_append_singleton, same, verdict, verdict, agreed]
      · rw [after_append_singleton, after_append_singleton]
        exact onward

end Simulation

section Windows

variable {κ τ : Type} [DecidableEq κ]

def hitsOf (key : γ → κ) (time : γ → τ) (log : List γ) (own : κ) : List τ :=
  (log.filter fun hit => key hit = own).map time

/-- Accept while fewer than `limit` accepted calls of the key count; `counts now hit` says what the window at `now` takes
in. -/
def slidingWindow (key : γ → κ) (time : γ → τ) (counts : τ → τ → Bool) (limit : ℕ) (refusal : τ → List τ → ρ) :
    Limiter γ ρ where
  State := List γ
  initial := []
  check := fun log call =>
    let recent := (hitsOf key time log (key call)).filter (counts (time call))
    if recent.length < limit then (.ok (), log ++ [call]) else (.error (refusal (time call) recent), log)

variable {key : γ → κ} {time : γ → τ} {counts : τ → τ → Bool} {limit : ℕ} {refusal : τ → List τ → ρ}

theorem slidingWindow_check {log : List γ} {call : γ} {recent : List τ}
    (counted : (hitsOf key time log (key call)).filter (counts (time call)) = recent) :
    (slidingWindow key time counts limit refusal).check log call =
      if recent.length < limit then (.ok (), log ++ [call]) else (.error (refusal (time call) recent), log) := by
  subst counted
  rfl

theorem hitsOf_append (left right : List γ) (own : κ) :
    hitsOf key time (left ++ right) own = hitsOf key time left own ++ hitsOf key time right own := by
  simp [hitsOf]

theorem hitsOf_singleton (call : γ) (own : κ) :
    hitsOf key time [call] own = if key call = own then [time call] else [] := by
  by_cases same : key call = own <;> simp [hitsOf, same]

theorem mem_hitsOf {log : List γ} {own : κ} {instant : τ} :
    instant ∈ hitsOf key time log own ↔ ∃ hit ∈ log, key hit = own ∧ time hit = instant := by
  simp [hitsOf, and_assoc]

/-- The log of a sliding window holds the accepted calls. -/
theorem slidingWindow_after (calls : List γ) :
    (slidingWindow key time counts limit refusal).after calls =
      (slidingWindow key time counts limit refusal).accepted calls := by
  induction calls using List.reverseRecOn with
  | nil => rfl
  | append_singleton before call ih =>
      rw [after_append_singleton, accepted_append_singleton, ← ih, verdict]
      simp only [slidingWindow]
      split <;> simp [Except.toBool]

theorem slidingWindow_verdict (before : List γ) (call : γ) :
    (slidingWindow key time counts limit refusal).verdict before call =
      let recent := (hitsOf key time ((slidingWindow key time counts limit refusal).accepted before) (key call)).filter
        (counts (time call))
      if recent.length < limit then .ok () else .error (refusal (time call) recent) := by
  rw [verdict, slidingWindow_after]
  generalize (slidingWindow key time counts limit refusal).accepted before = log
  dsimp only [slidingWindow]
  split <;> rfl

/-- A refused call finds the limit reached in its window. -/
theorem full_of_refused {before : List γ} {call : γ} {reason : ρ}
    (refused : (slidingWindow key time counts limit refusal).verdict before call = .error reason) :
    limit ≤ ((hitsOf key time ((slidingWindow key time counts limit refusal).accepted before) (key call)).filter
        (counts (time call))).length ∧
      reason = refusal (time call) ((hitsOf key time ((slidingWindow key time counts limit refusal).accepted before)
        (key call)).filter (counts (time call))) := by
  rw [slidingWindow_verdict] at refused
  dsimp only at refused
  split at refused
  · cases refused
  · exact ⟨by omega, (Except.error.inj refused).symm⟩

theorem accepted_sublist (limiter : Limiter γ ρ) (calls : List γ) : (limiter.accepted calls).Sublist calls := by
  have filtered := (List.filter_sublist (p := fun entry : γ × Except ρ Unit => entry.2.toBool)
    (l := limiter.verdicts calls)).map Prod.fst
  rwa [map_fst_verdicts] at filtered

theorem hitsOf_check (log : List γ) (call : γ) (own : κ) :
    hitsOf key time ((slidingWindow key time counts limit refusal).check log call).2 own =
      hitsOf key time log own ++
        if key call = own ∧ ((slidingWindow key time counts limit refusal).check log call).1.toBool = true then [time call]
        else [] := by
  dsimp only [slidingWindow]
  split
  · by_cases same : key call = own <;> simp [hitsOf_append, hitsOf_singleton, same, Except.toBool]
  · simp [Except.toBool]

theorem check_congr {log other : List γ} {call : γ}
    (same : hitsOf key time log (key call) = hitsOf key time other (key call)) :
    ((slidingWindow key time counts limit refusal).check log call).1 =
      ((slidingWindow key time counts limit refusal).check other call).1 := by
  dsimp only [slidingWindow]
  rw [same]
  split <;> rfl

/-- Leaving out calls that are refused or of other keys leaves the verdicts on the key's other calls as they are. -/
theorem verdictsFrom_of_kept (own : κ) (calls : List γ) {kept : List (γ × Except ρ Unit)} {log other : List γ}
    (same : hitsOf key time log own = hitsOf key time other own)
    (part : kept.Sublist ((slidingWindow key time counts limit refusal).verdictsFrom log calls))
    (complete : kept.filter (fun entry => key entry.1 = own ∧ entry.2.toBool = true) =
      ((slidingWindow key time counts limit refusal).verdictsFrom log calls).filter
        fun entry => key entry.1 = own ∧ entry.2.toBool = true) :
    ((slidingWindow key time counts limit refusal).verdictsFrom other (kept.map Prod.fst)).filter
        (fun entry => key entry.1 = own) = kept.filter fun entry => key entry.1 = own := by
  induction calls generalizing kept log other with
  | nil =>
      rw [List.sublist_nil.mp part]
      rfl
  | cons call rest ih =>
      have logged := @hitsOf_check _ ρ _ _ _ key time counts limit refusal log call own
      have noted := @hitsOf_check _ ρ _ _ _ key time counts limit refusal other call own
      simp only [verdictsFrom] at part complete
      cases part with
      | cons _ part =>
          by_cases counted : key call = own ∧
              ((slidingWindow key time counts limit refusal).check log call).1.toBool = true
          · rw [List.filter_cons_of_pos (by simpa using counted)] at complete
            have fewer := (part.filter fun entry => decide (key entry.1 = own ∧ entry.2.toBool = true)).length_le
            rw [complete, List.length_cons] at fewer
            omega
          · rw [List.filter_cons_of_neg (by simpa using counted)] at complete
            rw [if_neg counted, List.append_nil] at logged
            exact ih (logged.trans same) part complete
      | @cons_cons kept _ _ part =>
          have remaining : kept.filter (fun entry => key entry.1 = own ∧ entry.2.toBool = true) =
              ((slidingWindow key time counts limit refusal).verdictsFrom
                ((slidingWindow key time counts limit refusal).check log call).2 rest).filter
                fun entry => key entry.1 = own ∧ entry.2.toBool = true := by
            by_cases counted : key call = own ∧
                ((slidingWindow key time counts limit refusal).check log call).1.toBool = true
            · rw [List.filter_cons_of_pos (by simpa using counted), List.filter_cons_of_pos (by simpa using counted)]
                at complete
              exact (List.cons.inj complete).2
            · rw [List.filter_cons_of_neg (by simpa using counted), List.filter_cons_of_neg (by simpa using counted)]
                at complete
              exact complete
          simp only [List.map_cons, verdictsFrom]
          by_cases mine : key call = own
          · subst mine
            have agreed := @check_congr _ ρ _ _ _ key time counts limit refusal _ _ _ same
            rw [agreed, same, ← noted] at logged
            rw [List.filter_cons_of_pos (by simp), List.filter_cons_of_pos (by simp), ih logged part remaining, agreed]
          · rw [if_neg (fun both => mine both.1), List.append_nil] at logged noted
            rw [List.filter_cons_of_neg (by simpa using mine), List.filter_cons_of_neg (by simpa using mine)]
            exact ih (logged.trans (same.trans noted.symm)) part remaining

theorem verdicts_of_kept (own : κ) (calls : List γ) {kept : List (γ × Except ρ Unit)}
    (part : kept.Sublist ((slidingWindow key time counts limit refusal).verdicts calls))
    (complete : kept.filter (fun entry => key entry.1 = own ∧ entry.2.toBool = true) =
      ((slidingWindow key time counts limit refusal).verdicts calls).filter
        fun entry => key entry.1 = own ∧ entry.2.toBool = true) :
    ((slidingWindow key time counts limit refusal).verdicts (kept.map Prod.fst)).filter
        (fun entry => key entry.1 = own) = kept.filter fun entry => key entry.1 = own :=
  verdictsFrom_of_kept own calls rfl part complete

variable [LinearOrder τ]

/-- Calls in the order of their times. -/
def Ordered (time : γ → τ) (calls : List γ) : Prop := calls.Pairwise fun earlier later => time earlier ≤ time later

theorem Ordered.before {before : List γ} {call : γ} (ordered : Ordered time (before ++ [call])) : Ordered time before :=
  (List.pairwise_append.mp ordered).1

theorem Ordered.le_last {before : List γ} {call : γ} (ordered : Ordered time (before ++ [call])) {hit : γ}
    (member : hit ∈ before) : time hit ≤ time call :=
  (List.pairwise_append.mp ordered).2.2 hit member call (List.mem_singleton_self call)

theorem hit_le_last {before : List γ} {call : γ} (ordered : Ordered time (before ++ [call])) (limiter : Limiter γ ρ)
    {own : κ} {hit : τ} (member : hit ∈ hitsOf key time (limiter.accepted before) own) : hit ≤ time call := by
  obtain ⟨earlier, present, -, rfl⟩ := mem_hitsOf.mp member
  exact ordered.le_last ((limiter.accepted_sublist before).subset present)

/-- At most `limit` calls of a key are accepted among times that are in one window of each other. -/
theorem accepted_within (within : τ → Bool)
    (spans : ∀ hit now, hit ≤ now → within hit = true → within now = true → counts now hit = true) (own : κ)
    (calls : List γ) (ordered : Ordered time calls) :
    ((hitsOf key time ((slidingWindow key time counts limit refusal).accepted calls) own).filter within).length ≤
      limit := by
  induction calls using List.reverseRecOn with
  | nil => simp [accepted, verdicts, verdictsFrom, hitsOf]
  | append_singleton before call ih =>
      have bounded := ih ordered.before
      rw [accepted_append_singleton, slidingWindow_verdict]
      dsimp only
      split
      · rename_i room
        rw [if_pos (by rfl), hitsOf_append, hitsOf_singleton, List.filter_append, List.length_append]
        by_cases same : key call = own
        · subst same
          rw [if_pos rfl]
          by_cases inside : within (time call) = true
          · have counted : ∀ hit ∈ hitsOf key time ((slidingWindow key time counts limit refusal).accepted before)
                (key call), within hit = true → counts (time call) hit = true := by
              intro hit member held
              exact spans hit (time call) (hit_le_last ordered _ member) held inside
            have fewer := List.countP_mono_left counted
            rw [List.countP_eq_length_filter, List.countP_eq_length_filter] at fewer
            have single : ([time call].filter within).length = 1 := by simp [inside]
            omega
          · have none : ([time call].filter within).length = 0 := by simp [inside]
            omega
        · rw [if_neg same]
          simpa using bounded
      · simpa [Except.toBool] using bounded

/-- What a window counts it has counted since. -/
def Sliding (counts : τ → τ → Bool) : Prop :=
  ∀ hit earlier now, hit ≤ earlier → earlier ≤ now → counts now hit = true → counts earlier hit = true

/-- A window never counts more than `limit` accepted calls. -/
theorem recent_le (sliding : Sliding counts) {before : List γ} {call : γ} (ordered : Ordered time (before ++ [call]))
    (own : κ) :
    ((hitsOf key time ((slidingWindow key time counts limit refusal).accepted before) own).filter
      (counts (time call))).length ≤ limit := by
  have bounded := @accepted_within _ ρ _ _ _ key time counts limit refusal _
    (fun hit => counts (time call) hit && decide (hit ≤ time call)) ?_ own before ordered.before
  · have same : (hitsOf key time ((slidingWindow key time counts limit refusal).accepted before) own).filter
        (fun hit => counts (time call) hit && decide (hit ≤ time call)) =
        (hitsOf key time ((slidingWindow key time counts limit refusal).accepted before) own).filter
          (counts (time call)) := by
      refine List.filter_congr ?_
      intro hit member
      simp [hit_le_last ordered _ member]
    rwa [same] at bounded
  · intro hit now earlier counted within
    simp only [Bool.and_eq_true, decide_eq_true_eq] at counted within
    exact sliding hit now (time call) earlier within.2 counted.1

/-- After a refusal, the key's next call is accepted once the oldest call in the window no longer counts. -/
theorem accepted_after_refusal (sliding : Sliding counts) (positive : 0 < limit) {before between : List γ}
    {first second : γ} {reason : ρ} (ordered : Ordered time (before ++ first :: between ++ [second]))
    (refused : (slidingWindow key time counts limit refusal).verdict before first = .error reason)
    (others : ∀ call ∈ between, key call ≠ key first) (same : key second = key first)
    (aged : ∀ oldest, ((hitsOf key time ((slidingWindow key time counts limit refusal).accepted before)
      (key first)).filter (counts (time first))).head? = some oldest → counts (time second) oldest = false) :
    (slidingWindow key time counts limit refusal).verdict (before ++ first :: between) second = .ok () := by
  have full := (full_of_refused refused).1
  have start : Ordered time (before ++ [first]) := by
    have parts : before ++ first :: between ++ [second] = before ++ [first] ++ (between ++ [second]) := by simp
    rw [parts] at ordered
    exact (List.pairwise_append.mp ordered).1
  have bounded : ((hitsOf key time ((slidingWindow key time counts limit refusal).accepted before)
      (key first)).filter (counts (time first))).length ≤ limit := recent_le sliding start _
  have later : time first ≤ time second := ordered.le_last (by simp)
  have unchanged : ∀ between : List γ, (∀ call ∈ between, key call ≠ key first) →
      hitsOf key time ((slidingWindow key time counts limit refusal).accepted (before ++ first :: between)) (key first) =
        hitsOf key time ((slidingWindow key time counts limit refusal).accepted before) (key first) := by
    intro between
    induction between using List.reverseRecOn with
    | nil =>
        intro _
        rw [accepted_append_singleton, refused]
        simp [Except.toBool]
    | append_singleton between call ih =>
        intro others
        have parts : before ++ first :: (between ++ [call]) = (before ++ first :: between) ++ [call] := by simp
        have apart : key call ≠ key first := others call (by simp)
        rw [parts, accepted_append_singleton, hitsOf_append, ih fun other member => others other (by simp [member])]
        split
        · simp [hitsOf_singleton, apart]
        · simp [hitsOf]
  rw [slidingWindow_verdict, same, unchanged between others]
  generalize stored : hitsOf key time ((slidingWindow key time counts limit refusal).accepted before) (key first) = hits
    at full bounded aged
  have fewer : (hits.filter (counts (time second))).length < limit := by
    have within : (hits.filter (counts (time second))).Sublist (hits.filter (counts (time first))) := by
      have narrowed : hits.filter (counts (time second)) =
          (hits.filter (counts (time first))).filter (counts (time second)) := by
        rw [List.filter_filter]
        refine List.filter_congr ?_
        intro hit member
        rw [← stored] at member
        have counted := sliding hit (time first) (time second) (hit_le_last start _ member) later
        cases second : counts (time second) hit with
        | false => simp
        | true => simp [counted second]
      rw [narrowed]
      exact List.filter_sublist
    cases recent : hits.filter (counts (time first)) with
    | nil =>
        rw [recent] at full
        simp at full
        omega
    | cons oldest rest =>
        have gone := aged oldest (by rw [recent]; rfl)
        rw [recent] at within bounded
        have smaller : (hits.filter (counts (time second))).Sublist rest := by
          cases split : hits.filter (counts (time second)) with
          | nil => exact List.nil_sublist _
          | cons head tail =>
              rw [split] at within
              cases within with
              | cons _ within => exact within
              | cons_cons _ within =>
                  have counted : counts (time second) oldest = true :=
                    (List.mem_filter.mp (split ▸ List.mem_cons_self : oldest ∈ hits.filter (counts (time second)))).2
                  cases gone.symm.trans counted
        have short := smaller.length_le
        simp only [List.length_cons] at bounded
        omega
  dsimp only
  rw [if_pos fewer]

section Margins

variable {inner outer : τ → τ → Bool}

/-- The call finds the limit reached in the outer window, but with an accepted call that only the outer window counts. -/
def OnMargin (key : γ → κ) (time : γ → τ) (inner outer : τ → τ → Bool) (limit : ℕ) (log : List γ) (call : γ) : Prop :=
  limit ≤ ((hitsOf key time log (key call)).filter (outer (time call))).length ∧
    ∃ hit ∈ hitsOf key time log (key call), outer (time call) hit = true ∧ inner (time call) hit = false

omit [LinearOrder τ] in
/-- On one log that fits the outer window, two windows agree about a call exactly if it is not on the margin. -/
theorem check_agrees_iff (narrower : ∀ now hit, inner now hit = true → outer now hit = true) {log : List γ} {call : γ}
    (bounded : ((hitsOf key time log (key call)).filter (outer (time call))).length ≤ limit) :
    ((slidingWindow key time outer limit refusal).check log call).1 =
      ((slidingWindow key time inner limit refusal).check log call).1 ↔
      ¬ OnMargin key time inner outer limit log call := by
  have narrowed : (hitsOf key time log (key call)).filter (inner (time call)) =
      ((hitsOf key time log (key call)).filter (outer (time call))).filter (inner (time call)) := by
    rw [List.filter_filter]
    refine List.filter_congr ?_
    intro hit _
    cases counted : inner (time call) hit with
    | false => simp
    | true => simp [narrower _ _ counted]
  have fewer : ((hitsOf key time log (key call)).filter (inner (time call))).length ≤
      ((hitsOf key time log (key call)).filter (outer (time call))).length := by
    rw [narrowed]
    exact List.length_filter_le _ _
  dsimp only [slidingWindow]
  unfold OnMargin
  generalize recent : (hitsOf key time log (key call)).filter (outer (time call)) = wide at bounded narrowed fewer
  by_cases room : wide.length < limit
  · rw [if_pos room, if_pos (by omega)]
    simp only [true_iff]
    rintro ⟨full, -⟩
    omega
  · rw [if_neg room]
    by_cases all : ∀ hit ∈ wide, inner (time call) hit = true
    · rw [List.filter_eq_self.mpr all] at narrowed
      rw [narrowed, if_neg room]
      simp only [true_iff]
      rintro ⟨-, hit, member, counted, dropped⟩
      have kept := all hit (recent ▸ List.mem_filter.mpr ⟨member, counted⟩)
      cases dropped.symm.trans kept
    · have less : (wide.filter (inner (time call))).length < wide.length := List.length_filter_lt_length_iff_exists.mpr
        (by simpa using all)
      rw [← narrowed] at less
      rw [if_pos (by omega)]
      simp only [reduceCtorEq, false_iff, not_not]
      refine ⟨by omega, ?_⟩
      simp only [not_forall, Bool.not_eq_true] at all
      obtain ⟨hit, member, dropped⟩ := all
      rw [← recent] at member
      exact ⟨hit, (List.mem_filter.mp member).1, (List.mem_filter.mp member).2, dropped⟩

/-- Two windows, one within the other, agree on calls in order exactly if no call is on the margin. -/
theorem windows_agree_iff (narrower : ∀ now hit, inner now hit = true → outer now hit = true) (sliding : Sliding outer)
    {calls : List γ} (ordered : Ordered time calls) :
    (slidingWindow key time outer limit refusal).verdicts calls = (slidingWindow key time inner limit refusal).verdicts calls ↔
      ∀ before call, before ++ [call] <+: calls →
        ¬ OnMargin key time inner outer limit ((slidingWindow key time outer limit refusal).accepted before) call := by
  induction calls using List.reverseRecOn with
  | nil =>
      simp only [List.prefix_nil, List.append_eq_nil_iff, List.cons_ne_self, and_false, false_imp_iff, implies_true, iff_true]
      rfl
  | append_singleton before call ih =>
      have earlier := ih ordered.before
      have bounded : ((hitsOf key time ((slidingWindow key time outer limit refusal).accepted before)
          (key call)).filter (outer (time call))).length ≤ limit := recent_le sliding ordered _
      have agrees := @check_agrees_iff _ ρ _ _ _ key time limit refusal inner outer narrower _ call bounded
      have onward : (slidingWindow key time outer limit refusal).verdicts before =
            (slidingWindow key time inner limit refusal).verdicts before →
          ((slidingWindow key time outer limit refusal).verdict before call =
            (slidingWindow key time inner limit refusal).verdict before call ↔
          ¬ OnMargin key time inner outer limit ((slidingWindow key time outer limit refusal).accepted before) call) := by
        intro previous
        rw [verdict, verdict, slidingWindow_after, slidingWindow_after, ← accepted_congr previous]
        exact agrees
      simp only [List.prefix_concat_iff, or_imp, forall_and, verdicts_append_singleton]
      constructor
      · intro same
        obtain ⟨previous, last⟩ := List.append_inj' same rfl
        have agreed := (onward previous).mp (Prod.mk.inj (List.cons.inj last).1).2
        constructor
        · intro other next parts
          obtain ⟨rfl, rest⟩ := List.append_inj' parts rfl
          obtain rfl := (List.cons.inj rest).1
          exact agreed
        · exact earlier.mp previous
      · rintro ⟨last, previous⟩
        have same := earlier.mpr previous
        rw [same, (onward same).mpr (last before call rfl)]

end Margins

end Windows

end Limiter

end AutomationHub.Foundation
