import AutomationHub.Foundation.Program

/-!
Threads over a shared state.

A step is one call of one thread; an effect says which replies and states may
follow it.  Each thread is proved against a protocol over phases of its own, and
an invariant relates the phases of all threads to the shared state.
-/

set_option autoImplicit false

namespace AutomationHub.Foundation

structure Pool (sig : Signature) (ε σ ι : Type) where
  shared : σ
  threads : ι → Program sig ε Unit

/-- One call made in a run, with the thread that made it and the reply. -/
structure Event (sig : Signature) (ι : Type) where
  thread : ι
  request : sig.Call
  reply : sig.Reply request

/-- What a call of a thread may do to the shared state. -/
abbrev Effect (sig : Signature) (σ ι : Type) :=
  ι → σ → (request : sig.Call) → sig.Reply request → σ → Prop

/-- A program that has no call left to make. -/
def Program.Halted {sig : Signature} {ε α : Type} : Program sig ε α → Prop
  | .call .. => False
  | _ => True

theorem Program.Ensures.halted {sig : Signature} {σ ε α : Type} {protocol : Protocol sig σ} {program : Program sig ε α}
    {post : Except ε α → σ → Prop} {state : σ} (ensured : program.Ensures protocol post state)
    (halted : program.Halted) : ∃ result, post result state := by
  cases program with
  | done value => exact ⟨.ok value, ensured⟩
  | raised error => exact ⟨.error error, ensured⟩
  | call request next => exact halted.elim

/-- What a program that has ended without raising returned. -/
def Program.returned? {sig : Signature} {ε α : Type} : Program sig ε α → Option α
  | .done value => some value
  | _ => none

theorem Program.returned?_eq_some_iff {sig : Signature} {ε α : Type} {program : Program sig ε α} {value : α} :
    program.returned? = some value ↔ program = .done value := by
  cases program <;> simp [Program.returned?]

namespace Pool

variable {sig : Signature} {ε σ φ ι : Type} [DecidableEq ι]

inductive Step (effect : Effect sig σ ι) : Pool sig ε σ ι → Event sig ι → Pool sig ε σ ι → Prop
  | call {pool : Pool sig ε σ ι} {thread : ι} {request : sig.Call} {next : sig.Reply request → Program sig ε Unit}
      {reply : sig.Reply request} {after : σ} (calling : pool.threads thread = .call request next)
      (answered : effect thread pool.shared request reply after) :
      Step effect pool ⟨thread, request, reply⟩ ⟨after, Function.update pool.threads thread (next reply)⟩

/-- The runs of a pool, with their events in order. -/
inductive Run (effect : Effect sig σ ι) : Pool sig ε σ ι → List (Event sig ι) → Pool sig ε σ ι → Prop
  | refl (pool : Pool sig ε σ ι) : Run effect pool [] pool
  | step {first middle last : Pool sig ε σ ι} {events : List (Event sig ι)} {event : Event sig ι}
      (before : Run effect first events middle) (move : Step effect middle event last) :
      Run effect first (events ++ [event]) last

theorem Run.trans {effect : Effect sig σ ι} {first middle last : Pool sig ε σ ι} {left right : List (Event sig ι)}
    (before : Run effect first left middle) (after : Run effect middle right last) :
    Run effect first (left ++ right) last := by
  induction after with
  | refl => simpa using before
  | step earlier move recurse =>
      rw [← List.append_assoc]
      exact .step recurse move

/-- A run under a stronger effect is a run under a weaker one. -/
theorem Run.mono {strong weak : Effect sig σ ι} {first last : Pool sig ε σ ι} {events : List (Event sig ι)}
    (run : Run strong first events last)
    (implies : ∀ thread state request reply after, strong thread state request reply after →
      weak thread state request reply after) : Run weak first events last := by
  induction run with
  | refl => exact .refl _
  | step before move recurse =>
      cases move with
      | call calling answered => exact .step recurse (.call calling (implies _ _ _ _ _ answered))

/-- A run can be accompanied by notes on its calls. -/
theorem Run.annotated {γ : Type} {effect : Effect sig σ ι} {first last : Pool sig ε σ ι} {events : List (Event sig ι)}
    (run : Run effect first events last) (note : ι → γ → (request : sig.Call) → sig.Reply request → γ) (notes : γ) :
    ∃ final, Run (fun thread state request reply after => effect thread state.1 request reply after.1 ∧
        after.2 = note thread state.2 request reply)
      ⟨(first.shared, notes), first.threads⟩ events ⟨(last.shared, final), last.threads⟩ := by
  induction run with
  | refl => exact ⟨notes, .refl _⟩
  | step before move recurse =>
      obtain ⟨reached, run⟩ := recurse
      cases move with
      | @call thread request next reply after calling answered =>
          exact ⟨note thread reached request reply, .step run (.call calling ⟨answered, rfl⟩)⟩

/-- The invariant rule.  Every thread keeps to its protocol; each permitted call that takes effect leads to some
phase that the protocol foresees and keeps the invariant. -/
theorem Run.invariant {effect : Effect sig σ ι} {protocol : ι → Protocol sig φ} {post : ι → Except ε Unit → φ → Prop}
    (inv : List (Event sig ι) → (ι → φ) → σ → Prop)
    (preserved : ∀ events phases state thread request reply after, inv events phases state →
      (protocol thread).permits (phases thread) request → effect thread state request reply after →
      ∃ phase, (protocol thread).answers (phases thread) request reply phase ∧
        inv (events ++ [⟨thread, request, reply⟩]) (Function.update phases thread phase) after)
    {first last : Pool sig ε σ ι} {events : List (Event sig ι)} (run : Run effect first events last) (phases : ι → φ)
    (holds : inv [] phases first.shared)
    (follows : ∀ thread, (first.threads thread).Ensures (protocol thread) (post thread) (phases thread)) :
    ∃ phases, inv events phases last.shared ∧
      ∀ thread, (last.threads thread).Ensures (protocol thread) (post thread) (phases thread) := by
  induction run with
  | refl => exact ⟨phases, holds, follows⟩
  | step before move recurse =>
      obtain ⟨phases, holds, follows⟩ := recurse
      cases move with
      | @call thread request next reply after calling answered =>
          have ensured := follows thread
          rw [calling] at ensured
          obtain ⟨phase, foreseen, kept⟩ := preserved _ phases _ thread request reply after holds ensured.1 answered
          refine ⟨Function.update phases thread phase, kept, fun other => ?_⟩
          by_cases same : other = thread
          · subst same
            simpa using ensured.2 reply phase foreseen
          · simpa [same] using follows other

/-- The invariant rule for threads whose phases are part of the shared state: each call moves the phase of its own thread,
as the thread's protocol foresees. -/
theorem Run.recorded {effect : Effect sig σ ι} {protocol : ι → Protocol sig φ} {post : ι → Except ε Unit → φ → Prop}
    (phase : σ → ι → φ) (inv : List (Event sig ι) → σ → Prop)
    (step : ∀ events thread state request reply after, inv events state →
      (protocol thread).permits (phase state thread) request → effect thread state request reply after →
      (protocol thread).answers (phase state thread) request reply (phase after thread) ∧
        (∀ other, other ≠ thread → phase after other = phase state other) ∧
        inv (events ++ [⟨thread, request, reply⟩]) after)
    {first last : Pool sig ε σ ι} {events : List (Event sig ι)} (run : Run effect first events last)
    (follows : ∀ thread, (first.threads thread).Ensures (protocol thread) (post thread) (phase first.shared thread))
    (holds : inv [] first.shared) :
    (∀ thread, (last.threads thread).Ensures (protocol thread) (post thread) (phase last.shared thread)) ∧
      inv events last.shared := by
  have kept := run.invariant (fun events phases state => phases = phase state ∧ inv events state) ?_ (phase first.shared)
    ⟨rfl, holds⟩ follows
  · obtain ⟨phases, ⟨rfl, holds⟩, follows⟩ := kept
    exact ⟨follows, holds⟩
  · rintro events _ state thread request reply after ⟨rfl, holds⟩ permitted answered
    obtain ⟨foreseen, others, kept⟩ := step events thread state request reply after holds permitted answered
    refine ⟨phase after thread, foreseen, ?_, kept⟩
    funext other
    by_cases same : other = thread
    · subst same
      simp
    · simp [same, others other same]

/-- The same rule for an invariant of the shared state alone. -/
theorem Run.tracked {effect : Effect sig σ ι} {protocol : ι → Protocol sig φ} {post : ι → Except ε Unit → φ → Prop}
    (phase : σ → ι → φ) (inv : σ → Prop)
    (step : ∀ thread state request reply after, inv state → (protocol thread).permits (phase state thread) request →
      effect thread state request reply after →
      (protocol thread).answers (phase state thread) request reply (phase after thread) ∧
        (∀ other, other ≠ thread → phase after other = phase state other) ∧ inv after)
    {first last : Pool sig ε σ ι} {events : List (Event sig ι)} (run : Run effect first events last)
    (follows : ∀ thread, (first.threads thread).Ensures (protocol thread) (post thread) (phase first.shared thread))
    (holds : inv first.shared) :
    (∀ thread, (last.threads thread).Ensures (protocol thread) (post thread) (phase last.shared thread)) ∧
      inv last.shared :=
  run.recorded phase (fun _ => inv) (fun _ => step) follows holds

/-- The invariant rule for facts of the shared state that every effect keeps, whatever the programs are. -/
theorem Run.shared_invariant {effect : Effect sig σ ι} (inv : σ → Prop)
    (preserved : ∀ thread state request reply after, inv state → effect thread state request reply after → inv after)
    {first last : Pool sig ε σ ι} {events : List (Event sig ι)} (run : Run effect first events last)
    (holds : inv first.shared) : inv last.shared := by
  induction run with
  | refl => exact holds
  | step before move recurse =>
      cases move with
      | call calling answered => exact preserved _ _ _ _ _ recurse answered

/-- The invariant rule for threads each of which makes only allowed calls. -/
theorem Run.confined {effect : Effect sig σ ι} {allowed : ι → sig.Call → Prop} (inv : σ → Prop)
    (preserved : ∀ thread state request reply after, inv state → allowed thread request →
      effect thread state request reply after → inv after)
    {first last : Pool sig ε σ ι} {events : List (Event sig ι)} (run : Run effect first events last)
    (only : ∀ thread, (first.threads thread).Only (allowed thread)) (holds : inv first.shared) :
    inv last.shared ∧ ∀ thread, (last.threads thread).Only (allowed thread) := by
  induction run with
  | refl => exact ⟨holds, only⟩
  | step before move recurse =>
      obtain ⟨kept, confined⟩ := recurse
      cases move with
      | @call thread request next reply after calling answered =>
          have current := confined thread
          rw [calling] at current
          refine ⟨preserved _ _ _ _ _ kept current.1 answered, ?_⟩
          intro other
          by_cases same : other = thread
          · subst same
            simpa using current.2 reply
          · simpa [same] using confined other

/-- The same rule for an invariant that also speaks of the calls made so far. -/
theorem Run.confined_log {effect : Effect sig σ ι} {allowed : ι → sig.Call → Prop} (inv : List (Event sig ι) → σ → Prop)
    (preserved : ∀ events thread state request reply after, inv events state → allowed thread request →
      effect thread state request reply after → inv (events ++ [⟨thread, request, reply⟩]) after)
    {first last : Pool sig ε σ ι} {events : List (Event sig ι)} (run : Run effect first events last)
    (only : ∀ thread, (first.threads thread).Only (allowed thread)) (holds : inv [] first.shared) :
    inv events last.shared := by
  induction run with
  | refl => exact holds
  | @step middle last events event before move recurse =>
      have confined := (before.confined (fun _ => True) (fun _ _ _ _ _ _ _ _ => trivial) only trivial).2
      cases move with
      | @call thread request next reply after calling answered =>
          have current := confined thread
          rw [calling] at current
          exact preserved _ _ _ _ _ _ recurse current.1 answered

/-- Let one thread make its next call. -/
def perform (handler : Handler sig σ) (pool : Pool sig ε σ ι) (thread : ι) : Pool sig ε σ ι :=
  match pool.threads thread with
  | .call request next =>
      ⟨(handler request pool.shared).2, Function.update pool.threads thread (next (handler request pool.shared).1)⟩
  | _ => pool

theorem perform_step {effect : Effect sig σ ι} (handler : Handler sig σ) (pool : Pool sig ε σ ι) {thread : ι}
    {request : sig.Call} {next : sig.Reply request → Program sig ε Unit}
    (calling : pool.threads thread = .call request next)
    (offered : effect thread pool.shared request (handler request pool.shared).1 (handler request pool.shared).2) :
    Step effect pool ⟨thread, request, (handler request pool.shared).1⟩ (pool.perform handler thread) := by
  unfold perform
  rw [calling]
  exact .call calling offered

/-- The schedule that names the thread of each call in turn. -/
def play (handler : Handler sig σ) (pool : Pool sig ε σ ι) (schedule : List ι) : Pool sig ε σ ι :=
  schedule.foldl (perform handler) pool

/-- The calls that a schedule makes, in order. -/
def trace (handler : Handler sig σ) (pool : Pool sig ε σ ι) : List ι → List (Event sig ι)
  | [] => []
  | thread :: rest =>
      (match pool.threads thread with
        | .call request _ => [⟨thread, request, (handler request pool.shared).1⟩]
        | _ => []) ++ trace handler (pool.perform handler thread) rest

/-- Every call that a schedule makes passes the check. -/
def checked (handler : Handler sig σ) (check : ι → σ → sig.Call → Bool) (pool : Pool sig ε σ ι) : List ι → Bool
  | [] => true
  | thread :: rest =>
      (match pool.threads thread with
        | .call request _ => check thread pool.shared request
        | _ => true) && checked handler check (pool.perform handler thread) rest

/-- A schedule whose calls pass a check is a run under every effect that allows the calls that do. -/
theorem play_runs_of_checked {effect : Effect sig σ ι} {handler : Handler sig σ} {check : ι → σ → sig.Call → Bool}
    (offered : ∀ thread state request, check thread state request = true →
      effect thread state request (handler request state).1 (handler request state).2)
    (pool : Pool sig ε σ ι) (schedule : List ι) (passed : pool.checked handler check schedule = true) :
    Run effect pool (pool.trace handler schedule) (pool.play handler schedule) := by
  induction schedule generalizing pool with
  | nil => exact .refl pool
  | cons thread rest recurse =>
      obtain ⟨first, others⟩ := Bool.and_eq_true_iff.mp passed
      have run := recurse (pool.perform handler thread) others
      unfold trace
      cases calling : pool.threads thread with
      | done value =>
          have unmoved : pool.perform handler thread = pool := by simp [perform, calling]
          rw [unmoved] at run
          simpa [play, unmoved] using run
      | raised error =>
          have unmoved : pool.perform handler thread = pool := by simp [perform, calling]
          rw [unmoved] at run
          simpa [play, unmoved] using run
      | call request next =>
          rw [calling] at first
          have step : Step effect pool _ _ := perform_step handler pool calling (offered _ _ _ first)
          exact Run.trans (.step (.refl pool) step) run

theorem play_runs {effect : Effect sig σ ι} (handler : Handler sig σ)
    (offered : ∀ thread state request, effect thread state request (handler request state).1 (handler request state).2)
    (pool : Pool sig ε σ ι) (schedule : List ι) :
    Run effect pool (pool.trace handler schedule) (pool.play handler schedule) := by
  have all : ∀ thread state request, (fun _ _ _ => true : ι → σ → sig.Call → Bool) thread state request = true →
      effect thread state request (handler request state).1 (handler request state).2 :=
    fun thread state request _ => offered thread state request
  refine play_runs_of_checked all pool schedule ?_
  induction schedule generalizing pool with
  | nil => rfl
  | cons thread rest recurse =>
      unfold checked
      rw [recurse]
      cases pool.threads thread <;> rfl

section Enacted

variable {χ : Type}

/-- A schedule that names, for each call, the thread that makes it and what the surroundings choose for it. -/
def enact (handlers : ι → χ → Handler sig σ) (pool : Pool sig ε σ ι) (schedule : List (ι × χ)) : Pool sig ε σ ι :=
  schedule.foldl (fun pool turn => pool.perform (handlers turn.1 turn.2) turn.1) pool

def enactTrace (handlers : ι → χ → Handler sig σ) (pool : Pool sig ε σ ι) : List (ι × χ) → List (Event sig ι)
  | [] => []
  | turn :: rest =>
      (match pool.threads turn.1 with
        | .call request _ => [⟨turn.1, request, (handlers turn.1 turn.2 request pool.shared).1⟩]
        | _ => []) ++ enactTrace handlers (pool.perform (handlers turn.1 turn.2) turn.1) rest

def enactChecked (handlers : ι → χ → Handler sig σ) (check : ι → χ → σ → sig.Call → Bool) (pool : Pool sig ε σ ι) :
    List (ι × χ) → Bool
  | [] => true
  | turn :: rest =>
      (match pool.threads turn.1 with
        | .call request _ => check turn.1 turn.2 pool.shared request
        | _ => true) && enactChecked handlers check (pool.perform (handlers turn.1 turn.2) turn.1) rest

/-- A schedule whose calls pass a check is a run under every effect that allows the calls that do. -/
theorem enact_runs {effect : Effect sig σ ι} {handlers : ι → χ → Handler sig σ} {check : ι → χ → σ → sig.Call → Bool}
    (offered : ∀ thread choice state request, check thread choice state request = true →
      effect thread state request (handlers thread choice request state).1 (handlers thread choice request state).2)
    (pool : Pool sig ε σ ι) (schedule : List (ι × χ)) (passed : pool.enactChecked handlers check schedule = true) :
    Run effect pool (pool.enactTrace handlers schedule) (pool.enact handlers schedule) := by
  induction schedule generalizing pool with
  | nil => exact .refl pool
  | cons turn rest recurse =>
      obtain ⟨first, others⟩ := Bool.and_eq_true_iff.mp passed
      have run := recurse (pool.perform (handlers turn.1 turn.2) turn.1) others
      unfold enactTrace
      cases calling : pool.threads turn.1 with
      | call request next =>
          rw [calling] at first
          have step : Step effect pool _ _ :=
            perform_step (handlers turn.1 turn.2) pool calling (offered _ _ _ _ first)
          exact Run.trans (.step (.refl pool) step) run
      | _ =>
          have unmoved : pool.perform (handlers turn.1 turn.2) turn.1 = pool := by simp [perform, calling]
          rw [unmoved] at run
          simpa [enact, unmoved] using run

end Enacted

section Crews

/-! Named, so that the crews of all modules number their threads with the same terms. -/

instance pairOfThreads : @NeZero Nat Zero.ofOfNat0 2 := ⟨by decide⟩

instance trioOfThreads : @NeZero Nat Zero.ofOfNat0 3 := ⟨by decide⟩

instance quartetOfThreads : @NeZero Nat Zero.ofOfNat0 4 := ⟨by decide⟩

end Crews

end Pool

end AutomationHub.Foundation
