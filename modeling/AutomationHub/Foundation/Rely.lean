import AutomationHub.Foundation.Compensation
import AutomationHub.Foundation.Pool

/-!
Threads that rely on what the others guarantee.

Between two calls of a thread the shared state goes on as the other threads
drive it.  What a thread once learned stays true, and every permitted call keeps
the invariant.
-/

set_option autoImplicit false

namespace AutomationHub.Foundation

variable {sig : Signature} {σ ε α : Type}

/-- How a shared state goes on, what holds of it at any time, and which calls keep that. -/
structure Reliance (sig : Signature) (σ : Type) where
  onward : σ → σ → Prop
  inv : σ → Prop
  permits : σ → sig.Call → Prop
  effect : σ → (request : sig.Call) → sig.Reply request → σ → Prop
  refl : ∀ state, onward state state
  trans : ∀ {first second third}, onward first second → onward second third → onward first third
  lasting : ∀ {known state request}, onward known state → permits known request → permits state request
  kept : ∀ {state request reply after}, inv state → permits state request → effect state request reply after → inv after
  proceeds : ∀ {state request reply after}, effect state request reply after → onward state after

namespace Reliance

variable (reliance : Reliance sig σ)

/-- A call made on the knowledge of an earlier state: the others have gone on since then. -/
def protocol : Protocol sig σ where
  permits := reliance.permits
  answers := fun known request reply after =>
    ∃ state, reliance.onward known state ∧ reliance.inv state ∧ reliance.effect state request reply after ∧
      reliance.inv after

variable {reliance} {known state : σ}

theorem onward_of_answers {request : sig.Call} {reply : sig.Reply request} {after : σ}
    (answered : reliance.protocol.answers known request reply after) : reliance.onward known after := by
  obtain ⟨state, gone, -, step, -⟩ := answered
  exact reliance.trans gone (reliance.proceeds step)

theorem answers_of_onward {request : sig.Call} {reply : sig.Reply request} {after : σ}
    (gone : reliance.onward known state) (answered : reliance.protocol.answers state request reply after) :
    reliance.protocol.answers known request reply after := by
  obtain ⟨current, later, rest⟩ := answered
  exact ⟨current, reliance.trans gone later, rest⟩

/-- The program keeps to its permissions from what is known on. -/
def Sound (reliance : Reliance sig σ) (known : σ) (program : Program sig ε α) : Prop :=
  program.Ensures reliance.protocol (fun _ _ => True) known

theorem Sound.later {program : Program sig ε α} (sound : reliance.Sound known program)
    (gone : reliance.onward known state) : reliance.Sound state program := by
  induction program generalizing known state with
  | done value => trivial
  | raised error => trivial
  | call request next recurse =>
      refine ⟨reliance.lasting gone sound.1, ?_⟩
      intro reply after answered
      exact recurse reply (sound.2 reply after (answers_of_onward gone answered)) (reliance.refl after)

theorem ensures_onward {program : Program sig ε α} {post : Except ε α → σ → Prop}
    (ensured : program.Ensures reliance.protocol post known) :
    program.Ensures reliance.protocol (fun result final => post result final ∧ reliance.onward known final) known := by
  induction program generalizing known with
  | done value => exact ⟨ensured, reliance.refl known⟩
  | raised error => exact ⟨ensured, reliance.refl known⟩
  | call request next recurse =>
      refine ⟨ensured.1, ?_⟩
      intro reply after answered
      apply (recurse reply (ensured.2 reply after answered)).mono
      intro result final reached
      exact ⟨reached.1, reliance.trans (onward_of_answers answered) reached.2⟩

theorem compositional_sound (reliance : Reliance sig σ) :
    Program.Compositional fun {α} (program : Program sig ε α) => ∀ known, reliance.Sound known program where
  done := fun _ _ => trivial
  raised := fun _ _ => trivial
  bind := by
    intro α β program next first rest known
    apply (Program.ensures_bind ..).mpr
    apply (first known).mono
    intro result final _
    cases result with
    | error error => trivial
    | ok value => exact rest value final
  tryCatch := by
    intro α program handle first handled known
    apply (Program.ensures_tryCatch ..).mpr
    apply (first known).mono
    intro result final _
    cases result with
    | error error => exact handled error final
    | ok value => trivial

section Calls

variable {harmless : sig.Call → Prop}

/-- A program whose calls are always permitted keeps to its permissions. -/
theorem sound_of_only (always : ∀ state request, harmless request → reliance.permits state request)
    {program : Program sig ε α} (only : program.Only harmless) : reliance.Sound known program :=
  only.ensures (fun _ => True) (fun state request _ allowed => ⟨always state request allowed, fun _ _ _ => trivial⟩) trivial

/-- The compensations registered so far keep to their permissions. -/
def Covered (reliance : Reliance sig σ) (registered : List (Program sig ε Unit)) (known : σ) : Prop :=
  ∀ compensation ∈ registered, reliance.Sound known compensation

variable {registered : List (Program sig ε Unit)}

theorem covered_nil : reliance.Covered ([] : List (Program sig ε Unit)) known :=
  fun _ member => absurd member List.not_mem_nil

theorem Covered.cons {compensation : Program sig ε Unit} (covered : reliance.Covered registered known)
    (sound : reliance.Sound known compensation) : reliance.Covered (compensation :: registered) known := by
  intro other member
  rcases List.mem_cons.mp member with rfl | earlier
  · exact sound
  · exact covered other earlier

theorem Covered.later (covered : reliance.Covered registered known) (gone : reliance.onward known state) :
    reliance.Covered registered state :=
  fun compensation member => (covered compensation member).later gone

/-- A body that leaves its compensations covered. -/
def Covers (reliance : Reliance sig σ) (registered : List (Program sig ε Unit)) (known : σ)
    (body : Transaction sig ε α) : Prop :=
  Transaction.Ensures reliance.protocol (fun _ later final => reliance.Covered later final) registered known body

theorem covers_of_only (always : ∀ state request, harmless request → reliance.permits state request)
    {body : Transaction sig ε α} (only : body.Only harmless) (covered : reliance.Covered registered known) :
    reliance.Covers registered known body := by
  induction body generalizing registered known with
  | done value => exact covered
  | raised error => exact covered
  | call request next recurse =>
      refine ⟨always known request only.1, ?_⟩
      intro reply after answered
      exact recurse reply (only.2 reply) (covered.later (onward_of_answers answered))
  | register compensation next recurse =>
      exact recurse only.2 (covered.cons (sound_of_only always only.1))

theorem covers_bind {β : Type} {body : Transaction sig ε α} {next : α → Transaction sig ε β}
    (first : reliance.Covers registered known body)
    (rest : ∀ value later final, reliance.Covered later final → reliance.Covers later final (next value)) :
    reliance.Covers registered known (body >>= next) := by
  apply (Transaction.ensures_bind body next _).mpr
  apply first.mono
  intro result later final covered
  cases result with
  | error error => exact covered
  | ok value => exact rest value later final covered

theorem sound_rollback {report : RollbackReport sig} (failed : ∀ state, reliance.permits state report.failed) (error : ε)
    (covered : reliance.Covered registered known) :
    reliance.Sound known (Transaction.rollback report error registered : Program sig ε α) := by
  induction registered generalizing known with
  | nil => trivial
  | cons compensation earlier recurse =>
      apply (Program.ensures_bind ..).mpr
      have undone : reliance.Sound known
          (tryCatch compensation fun _ => Program.call report.failed fun _ => Program.done ()) := by
        apply (Program.ensures_tryCatch ..).mpr
        apply Program.Ensures.mono (covered compensation List.mem_cons_self)
        intro result final _
        cases result with
        | error error => exact ⟨failed final, fun _ _ _ => trivial⟩
        | ok value => trivial
      apply (ensures_onward undone).mono
      intro result final reached
      cases result with
      | error error => trivial
      | ok value =>
          apply recurse
          intro other member
          exact (covered other (List.mem_cons_of_mem _ member)).later reached.2

/-- A transaction whose body leaves its compensations covered keeps to its permissions. -/
theorem Covers.sound {report : RollbackReport sig} {body : Transaction sig ε α}
    (began : ∀ state count, reliance.permits state (report.began count))
    (failed : ∀ state, reliance.permits state report.failed) (covers : reliance.Covers [] known body) :
    reliance.Sound known (body.enact report []) := by
  apply (Transaction.ensures_enact report body _).mpr
  apply covers.mono
  intro result later final covered
  cases result with
  | ok value => trivial
  | error error =>
      refine ⟨began final later.length, ?_⟩
      intro reply after answered
      exact sound_rollback failed error (covered.later (onward_of_answers answered))

end Calls

/-- Threads that keep to their permissions keep the invariant, in every run. -/
theorem relied (reliance : Reliance sig σ) {ι : Type} [DecidableEq ι] {effect : Effect sig σ ι}
    (real : ∀ {thread state request reply after}, effect thread state request reply after →
      reliance.effect state request reply after)
    {first last : Pool sig ε σ ι} {events : List (Event sig ι)} (run : Pool.Run effect first events last)
    (sound : ∀ thread, reliance.Sound first.shared (first.threads thread)) (holds : reliance.inv first.shared) :
    reliance.inv last.shared := by
  have reached := run.invariant
    (fun _ (phases : ι → σ) state => reliance.inv state ∧ ∀ thread, reliance.onward (phases thread) state) ?_
    (fun _ => first.shared) ⟨holds, fun _ => reliance.refl _⟩ sound
  · obtain ⟨phases, ⟨kept, -⟩, -⟩ := reached
    exact kept
  · intro events phases state thread request reply after known permitted answered
    obtain ⟨current, gone⟩ := known
    have step := real answered
    have kept := reliance.kept current (reliance.lasting (gone thread) permitted) step
    refine ⟨after, ⟨state, gone thread, current, step, kept⟩, kept, ?_⟩
    intro other
    by_cases same : other = thread
    · subst same
      rw [Function.update_self]
      exact reliance.refl after
    · rw [Function.update_of_ne same]
      exact reliance.trans (gone other) (reliance.proceeds step)

end Reliance

end AutomationHub.Foundation
