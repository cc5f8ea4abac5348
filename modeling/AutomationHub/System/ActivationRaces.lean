import AutomationHub.System.Activations

/-!
Activations side by side.

The index on the versions in use refuses a second one, and a stale row version is
refused too; an activation that has already taken the version in use out of use
may be the one that is refused.
-/

set_option autoImplicit false

namespace AutomationHub.System

open Foundation Model Database Services Auth Workflow Program Table

section Together

variable {ι : Type} [DecidableEq ι]

def Activation.program (activation : Activation) : Service Unit :=
  forEffect (activateVersion activation.client activation.administrator activation.definitionId)

/-- Activations about to run side by side, with how far each has come. -/
def launchActivations (operations : ι → Activation) (world : World) :
    Pool hubSignature AppError (World × (ι → Course)) ι where
  shared := (world, fun _ => Course.initial)
  threads := fun thread => (operations thread).program

/-- Any call, which the database may fail, of one activation among others. -/
def noting : Effect hubSignature (World × (ι → Course)) ι := fun thread state request reply after =>
  mayFail thread state.1 request reply after.1 ∧
    after.2 = Function.update state.2 thread ((state.2 thread).after request reply)

/-- The activation has put its version in use, or has taken the one in use out of use and no other is in use since. -/
def Exposed (world : World) (definitionId : UUID) (course : Course) : Prop :=
  course.activated = true ∨ course.cleared = true ∧ ∀ candidate, world.definitions.find? definitionId = some candidate →
    ∀ row, ¬ActiveIn world (scope candidate) row

/-- No statement of an exposed activation is refused. -/
def unbroken (operations : ι → Activation) : Effect hubSignature (World × (ι → Course)) ι :=
  fun thread state request reply after => noting thread state request reply after ∧
    (refuses request reply = true → ¬Exposed state.1 (operations thread).definitionId (state.2 thread))

/-- The partial unique index on the versions in use. -/
def AtMostOneActive (world : World) : Prop :=
  ∀ group first second, ActiveIn world group first → ActiveIn world group second → first = second

/-- The activation is of a version for the company and the request type. -/
def Activation.Targets (start : World) (group : UUID × String) (activation : Activation) : Prop :=
  ∃ row, start.definitions.find? activation.definitionId = some row ∧ scope row = group

end Together

section Contest

variable {ι : Type} {operations : ι → Activation} {start world after : World} {courses : ι → Course}

theorem Activation.Targets.unique {activation : Activation} {left right : UUID × String}
    (first : activation.Targets start left) (second : activation.Targets start right) : left = right := by
  obtain ⟨row, found, same⟩ := first
  obtain ⟨other, located, equal⟩ := second
  obtain rfl := Option.some.inj (found.symm.trans located)
  exact same.symm.trans equal

theorem ActiveIn.eq_of_id {group other : UUID × String} {first second : WorkflowDefinition}
    (left : ActiveIn world group first) (right : ActiveIn world other second) (same : first.id = second.id) :
    first = second ∧ group = other := by
  obtain rfl : first = second := world.definitions.eq_of_key_eq left.1 right.1 same
  exact ⟨rfl, left.2.2.symm.trans right.2.2⟩

theorem Framed.targets (framed : Framed start world) {activation : Activation} {row : WorkflowDefinition}
    (found : world.definitions.find? activation.definitionId = some row) : activation.Targets start (scope row) := by
  have same := framed activation.definitionId
  rw [found] at same
  obtain ⟨old, located, grouped⟩ := Option.map_eq_some_iff.mp same.symm
  exact ⟨old, located, grouped⟩

/-- What an activation remembers, whatever the others do. -/
structure Recalls (start : World) (activation : Activation) (course : Course) (world : World) : Prop where
  candidate : ∀ candidate, course.candidate = some candidate → activation.Targets start (scope candidate)
  active : ∀ active, course.active = some active →
    Seen world.definitions active ∧ active.isActive = true ∧ activation.Targets start (scope active)
  struck : course.struck = true → course.cleared = true

theorem Recalls.initial (start : World) (activation : Activation) : Recalls start activation Course.initial start where
  candidate := fun _ fetched => nomatch fetched
  active := fun _ fetched => nomatch fetched
  struck := fun struck => nomatch struck

theorem Recalls.evolves {activation : Activation} {course : Course} (recalls : Recalls start activation course world)
    (evolved : Evolves world.definitions after.definitions) : Recalls start activation course after where
  candidate := recalls.candidate
  active := by
    intro active fetched
    obtain ⟨seen, inUse, targets⟩ := recalls.active active fetched
    exact ⟨seen.evolves evolved, inUse, targets⟩
  struck := recalls.struck

/-- Taking a version out of use that is as it was read takes the one in use out of use. -/
theorem Recalls.inUse {activation : Activation} {course : Course} (recalls : Recalls start activation course world)
    {active row : WorkflowDefinition} (fetched : course.active = some active)
    (found : world.definitions.find? active.id = some row) (current : row.rowVersion = active.rowVersion) :
    ActiveIn world (scope active) active := by
  obtain ⟨seen, inUse, -⟩ := recalls.active active fetched
  obtain ⟨member, keyed⟩ := (find?_eq_some_iff ..).mp found
  obtain rfl : active = row := (seen.later row member keyed).2 current.symm
  exact ⟨member, inUse, rfl⟩

theorem Recalls.step {activation : Activation} {course : Course} {request : Call} {reply : request.Reply}
    (recalls : Recalls start activation course world) (framed : Framed start world)
    (move : Move activation.definitionId course world request reply after)
    (evolved : Evolves world.definitions after.definitions) :
    Recalls start activation (course.after request reply) after := by
  have later := recalls.evolves evolved
  cases move with
  | other same noted unrecorded =>
      rw [noted]
      refine ⟨later.candidate, later.active, ?_⟩
      intro struck
      rcases Bool.or_eq_true_iff.mp struck with earlier | now
      · exact recalls.struck earlier
      · exact (Bool.and_eq_true_iff.mp now).1
  | candidate row same found early first noted =>
      rw [noted]
      refine ⟨?_, later.active, later.struck⟩
      intro candidate fetched
      obtain rfl := Option.some.inj fetched
      exact framed.targets found
  | active row candidate same fetched shown early noted =>
      rw [noted]
      refine ⟨later.candidate, ?_, later.struck⟩
      intro active found
      obtain ⟨member, inUse, grouped⟩ := shown active found
      exact ⟨(seen_of_mem member).evolves evolved, inUse, grouped ▸ recalls.candidate candidate fetched⟩
  | cleared active row fetched found current different early written noted =>
      rw [noted]
      exact ⟨later.candidate, later.active, fun _ => rfl⟩
  | activated row version found alone early written noted =>
      rw [noted]
      exact ⟨later.candidate, later.active, later.struck⟩

theorem AtMostOneActive.step {definitionId : UUID} {course : Course} {request : Call} {reply : request.Reply}
    (unique : AtMostOneActive world) (move : Move definitionId course world request reply after) :
    AtMostOneActive after := by
  have unmoved : after.definitions = world.definitions → AtMostOneActive after := by
    intro same group first second left right
    exact unique group first second (left.of_eq same.symm) (right.of_eq same.symm)
  cases move with
  | other same => exact unmoved same
  | candidate _ same => exact unmoved same
  | active _ _ same => exact unmoved same
  | cleared active row fetched found current different early written noted =>
      intro group first second left right
      rcases (activeIn_modify written).mp left with ⟨earlier, -⟩ | ⟨_, _, _, contrary, _⟩
      · rcases (activeIn_modify written).mp right with ⟨other, -⟩ | ⟨_, _, _, contrary, _⟩
        · exact unique group first second earlier other
        · cases contrary
      · cases contrary
  | activated row version found alone early written noted =>
      obtain ⟨member, keyed⟩ := (find?_eq_some_iff ..).mp found
      have only : ∀ old ∈ world.definitions.rows, old.id = definitionId → old = row :=
        fun old present named => world.definitions.eq_of_key_eq present member (named.trans keyed.symm)
      intro group first second left right
      rcases (activeIn_modify written).mp left with ⟨earlier, other⟩ | ⟨old, present, named, -, grouped, same⟩
      · rcases (activeIn_modify written).mp right with ⟨later, -⟩ | ⟨old, present, named, -, grouped, -⟩
        · exact unique group first second earlier later
        · obtain rfl := only old present named
          exact absurd (alone first (grouped ▸ earlier)) other
      · obtain rfl := only old present named
        rcases (activeIn_modify written).mp right with ⟨later, different⟩ | ⟨again, present, named, -, -, equal⟩
        · exact absurd (alone second (grouped ▸ later)) different
        · obtain rfl := only again present named
          exact same.trans equal.symm

end Contest

section Race

variable {ι : Type} [DecidableEq ι] {operations : ι → Activation} {start world after : World} {courses : ι → Course}
  {thread : ι}

/-- The version in use is out of use, and the next one is not in use yet. -/
structure Course.Between (course : Course) : Prop where
  cleared : course.cleared = true
  activated : course.activated = false
  struck : course.struck = false

/-- A version in use is the one that an activation put in use, unless none has written; once one was put in use there is
one in use, unless an activation is about to follow. -/
structure Attended (operations : ι → Activation) (start : World) (courses : ι → Course) (world : World) : Prop where
  won : ∀ group row, ActiveIn world group row →
    (∃ thread, (operations thread).definitionId = row.id ∧ (courses thread).activated = true) ∨
      ∀ thread, (operations thread).Targets start group →
        (courses thread).cleared = false ∧ (courses thread).activated = false
  covered : ∀ group thread, (operations thread).Targets start group → (courses thread).activated = true →
    (∃ row, ActiveIn world group row) ∨ ∃ other, (operations other).Targets start group ∧ (courses other).Between

theorem Attended.unmoved {next : Course} (attended : Attended operations start courses world)
    (same : after.definitions = world.definitions) (cleared : next.cleared = (courses thread).cleared)
    (activated : next.activated = (courses thread).activated)
    (between : (courses thread).Between → next.Between ∨
      ∀ group, (operations thread).Targets start group → ∃ row, ActiveIn world group row) :
    Attended operations start (Function.update courses thread next) after := by
  have flags : ∀ other, (Function.update courses thread next other).cleared = (courses other).cleared ∧
      (Function.update courses thread next other).activated = (courses other).activated := by
    intro other
    by_cases own : other = thread
    · subst own
      rw [Function.update_self]
      exact ⟨cleared, activated⟩
    · rw [Function.update_of_ne own]
      exact ⟨rfl, rfl⟩
  constructor
  · intro group row active
    rcases attended.won group row (active.of_eq same.symm) with ⟨winner, named, wrote⟩ | idle
    · exact .inl ⟨winner, named, (flags winner).2.trans wrote⟩
    · refine .inr ?_
      intro other targets
      rw [(flags other).1, (flags other).2]
      exact idle other targets
  · intro group winner targets wrote
    rw [(flags winner).2] at wrote
    rcases attended.covered group winner targets wrote with ⟨row, active⟩ | ⟨other, aims, held⟩
    · exact .inl ⟨row, active.of_eq same⟩
    · by_cases own : other = thread
      · subst own
        rcases between held with later | present
        · exact .inr ⟨other, aims, by rwa [Function.update_self]⟩
        · obtain ⟨row, active⟩ := present group aims
          exact .inl ⟨row, active.of_eq same⟩
      · exact .inr ⟨other, aims, by rwa [Function.update_of_ne own]⟩

theorem Attended.cleared {active : WorkflowDefinition} {version : Nat} (attended : Attended operations start courses world)
    (unique : AtMostOneActive world) (inUse : ActiveIn world (scope active) active)
    (targets : (operations thread).Targets start (scope active)) (early : (courses thread).activated = false)
    (unstruck : (courses thread).struck = false)
    (written : after.definitions = world.definitions.modify active.id (stamped (World.activityEdit false) version)) :
    Attended operations start (Function.update courses thread { courses thread with cleared := true }) after := by
  have flags : ∀ other, (Function.update courses thread { courses thread with cleared := true } other).activated =
      (courses other).activated := by
    intro other
    by_cases own : other = thread
    · subst own
      rw [Function.update_self]
    · rw [Function.update_of_ne own]
  have apart : ∀ other group, group ≠ scope active → (operations other).Targets start group → other ≠ thread := by
    intro other group distinct aims own
    subst own
    exact distinct (aims.unique targets)
  constructor
  · intro group row held
    rcases (activeIn_modify written).mp held with ⟨earlier, different⟩ | ⟨_, _, _, contrary, _⟩
    · have distinct : group ≠ scope active := by
        intro same
        subst same
        exact different (congrArg WorkflowDefinition.id (unique _ _ _ earlier inUse))
      rcases attended.won group row earlier with ⟨winner, named, wrote⟩ | idle
      · exact .inl ⟨winner, named, (flags winner).trans wrote⟩
      · refine .inr ?_
        intro other aims
        rw [Function.update_of_ne (apart other group distinct aims)]
        exact idle other aims
    · cases contrary
  · intro group winner aims wrote
    rw [flags winner] at wrote
    by_cases same : group = scope active
    · subst same
      refine .inr ⟨thread, targets, ?_⟩
      rw [Function.update_self]
      exact ⟨rfl, early, unstruck⟩
    · rcases attended.covered group winner aims wrote with ⟨row, held⟩ | ⟨other, others, between⟩
      · refine .inl ⟨row, (activeIn_modify written).mpr (.inl ⟨held, ?_⟩)⟩
        intro named
        exact same (held.eq_of_id inUse named).2
      · refine .inr ⟨other, others, ?_⟩
        rw [Function.update_of_ne (apart other group same others)]
        exact between

theorem Attended.activated {row : WorkflowDefinition} {version : Nat} (attended : Attended operations start courses world)
    (found : world.definitions.find? (operations thread).definitionId = some row)
    (alone : ∀ other, ActiveIn world (scope row) other → other.id = (operations thread).definitionId)
    (targets : (operations thread).Targets start (scope row))
    (written : after.definitions =
      world.definitions.modify (operations thread).definitionId (stamped (World.activityEdit true) version)) :
    Attended operations start (Function.update courses thread { courses thread with activated := true }) after := by
  obtain ⟨member, keyed⟩ := (find?_eq_some_iff ..).mp found
  have apart : ∀ other group, group ≠ scope row → (operations other).Targets start group → other ≠ thread := by
    intro other group distinct aims own
    subst own
    exact distinct (aims.unique targets)
  have now : ActiveIn after (scope row) ((stamped (World.activityEdit true) version).apply row) :=
    (activeIn_modify written).mpr (.inr ⟨row, member, keyed, rfl, rfl, rfl⟩)
  constructor
  · intro group held active
    rcases (activeIn_modify written).mp active with ⟨earlier, different⟩ | ⟨old, present, named, -, -, same⟩
    · have distinct : group ≠ scope row := by
        intro same
        subst same
        exact different (alone held earlier)
      rcases attended.won group held earlier with ⟨winner, names, wrote⟩ | idle
      · refine .inl ⟨winner, names, ?_⟩
        by_cases own : winner = thread
        · subst own
          rw [Function.update_self]
        · rw [Function.update_of_ne own]
          exact wrote
      · refine .inr ?_
        intro other aims
        rw [Function.update_of_ne (apart other group distinct aims)]
        exact idle other aims
    · refine .inl ⟨thread, ?_, by rw [Function.update_self]⟩
      subst same
      exact named.symm
  · intro group winner aims wrote
    by_cases same : group = scope row
    · subst same
      exact .inl ⟨_, now⟩
    · rw [Function.update_of_ne (apart winner group same aims)] at wrote
      rcases attended.covered group winner aims wrote with ⟨held, active⟩ | ⟨other, others, between⟩
      · refine .inl ⟨held, (activeIn_modify written).mpr (.inl ⟨active, ?_⟩)⟩
        intro named
        have isRow : held = row := world.definitions.eq_of_key_eq active.1 member (Eq.trans named keyed.symm)
        subst isRow
        exact same active.2.2.symm
      · refine .inr ⟨other, others, ?_⟩
        rw [Function.update_of_ne (apart other group same others)]
        exact between

theorem Attended.step {request : Call} {reply : request.Reply} (attended : Attended operations start courses world)
    (unique : AtMostOneActive world) (framed : Framed start world)
    (recalls : Recalls start (operations thread) (courses thread) world)
    (move : Move (operations thread).definitionId (courses thread) world request reply after)
    (sheltered : refuses request reply = true → ¬Exposed world (operations thread).definitionId (courses thread)) :
    Attended operations start (Function.update courses thread ((courses thread).after request reply)) after := by
  cases move with
  | other same noted unrecorded =>
      rw [noted]
      refine attended.unmoved same rfl rfl ?_
      intro held
      cases refused : refuses request reply with
      | false => exact .inl ⟨held.cleared, held.activated, by simp [held.struck]⟩
      | true =>
          refine .inr ?_
          intro group targets
          by_contra absent
          refine sheltered refused (.inr ⟨held.cleared, ?_⟩)
          intro candidate found row active
          obtain rfl := targets.unique (framed.targets found)
          exact absent ⟨row, active⟩
  | candidate row same found early first noted =>
      rw [noted]
      exact attended.unmoved same rfl rfl fun held => .inl ⟨held.cleared, held.activated, held.struck⟩
  | active row candidate same fetched shown early noted =>
      rw [noted]
      exact attended.unmoved same rfl rfl fun held => .inl ⟨held.cleared, held.activated, held.struck⟩
  | cleared active row fetched found current different early written noted =>
      rw [noted]
      have unstruck : (courses thread).struck = false := by
        by_contra struck
        have cleared := recalls.struck (by simpa using struck)
        rw [early.1] at cleared
        cases cleared
      exact attended.cleared unique (recalls.inUse fetched found current) (recalls.active active fetched).2.2 early.2
        unstruck written
  | activated row version found alone early written noted =>
      rw [noted]
      exact attended.activated found alone (framed.targets found) written

/-- What the steps of activations side by side keep, refusals included. -/
structure Rivals (operations : ι → Activation) (start : World) (courses : ι → Course) (world : World) : Prop where
  unique : AtMostOneActive world
  framed : Framed start world
  recalls : ∀ thread, Recalls start (operations thread) (courses thread) world

theorem Rivals.step {request : Call} {reply : request.Reply} (rivals : Rivals operations start courses world)
    (move : Move (operations thread).definitionId (courses thread) world request reply after)
    (evolved : Evolves world.definitions after.definitions) :
    Rivals operations start (Function.update courses thread ((courses thread).after request reply)) after := by
  refine ⟨rivals.unique.step move, rivals.framed.step move, ?_⟩
  intro other
  by_cases own : other = thread
  · subst own
    rw [Function.update_self]
    exact (rivals.recalls other).step rivals.framed move evolved
  · rw [Function.update_of_ne own]
    exact (rivals.recalls other).evolves evolved

theorem ensures_program (activation : Activation) :
    activation.program.Ensures (activationDiscipline activation.definitionId) Course.Ended Course.initial := by
  refine (ensures_bind ..).mpr ((ensures_activateVersion ..).mono ?_)
  intro result course ended
  cases result with
  | ok written => exact ended
  | error error => exact ended

theorem Rivals.run {events : List (Event hubSignature ι)}
    {last : Pool hubSignature AppError (World × (ι → Course)) ι} (unique : AtMostOneActive start)
    (run : Pool.Run noting (launchActivations operations start) events last) :
    Rivals operations start last.shared.2 last.shared.1 := by
  obtain ⟨phases, ⟨same, rivals⟩, -⟩ := @Pool.Run.invariant _ _ _ _ _ _ noting
    (fun thread => activationDiscipline (operations thread).definitionId) (fun _ => Course.Ended)
    (fun _ phases state => state.2 = phases ∧ Rivals operations start phases state.1)
    (by
      intro events phases state thread request reply after held permitted step
      obtain ⟨same, rivals⟩ := held
      subst same
      obtain ⟨executed, noted⟩ := step
      refine ⟨_, ⟨fetches_of_mayFail executed, rfl⟩, noted, ?_⟩
      exact rivals.step (move_of_mayFail permitted executed) (World.evolves_definitions_of_mayFail executed))
    _ _ _ run (fun _ => Course.initial)
    ⟨rfl, unique, fun _ => rfl, fun thread => .initial start (operations thread)⟩
    (fun thread => ensures_program (operations thread))
  exact same ▸ rivals

theorem Attended.run {events : List (Event hubSignature ι)}
    {last : Pool hubSignature AppError (World × (ι → Course)) ι} (unique : AtMostOneActive start)
    (run : Pool.Run (unbroken operations) (launchActivations operations start) events last) :
    Attended operations start last.shared.2 last.shared.1 ∧ ∀ thread,
      (last.threads thread).Ensures (activationDiscipline (operations thread).definitionId) Course.Ended
        (last.shared.2 thread) ∧ (last.shared.2 thread).unrecorded = false := by
  obtain ⟨phases, ⟨same, rivals, attended, recorded⟩, follows⟩ := @Pool.Run.invariant _ _ _ _ _ _ (unbroken operations)
    (fun thread => activationDiscipline (operations thread).definitionId) (fun _ => Course.Ended)
    (fun _ phases state => state.2 = phases ∧ Rivals operations start phases state.1 ∧
      Attended operations start phases state.1 ∧ ∀ thread, (phases thread).unrecorded = false)
    (by
      intro events phases state thread request reply after held permitted step
      obtain ⟨same, rivals, attended, recorded⟩ := held
      subst same
      obtain ⟨⟨executed, noted⟩, sheltered⟩ := step
      have move := move_of_mayFail permitted executed
      refine ⟨_, ⟨fetches_of_mayFail executed, rfl⟩, noted,
        rivals.step move (World.evolves_definitions_of_mayFail executed),
        attended.step rivals.unique rivals.framed (rivals.recalls thread) move sheltered, ?_⟩
      intro other
      by_cases own : other = thread
      · subst own
        rw [Function.update_self]
        by_contra unrecorded
        have marked : ((state.2 other).after request reply).unrecorded = true := by simpa using unrecorded
        rcases move.unrecorded marked with earlier | ⟨wrote, refused⟩
        · rw [recorded other] at earlier
          cases earlier
        · exact sheltered refused (.inl wrote)
      · rw [Function.update_of_ne own]
        exact recorded other)
    _ _ _ run (fun _ => Course.initial)
    ⟨rfl, ⟨unique, fun _ => rfl, fun thread => .initial start (operations thread)⟩,
      ⟨fun _ _ _ => .inr fun _ _ => ⟨rfl, rfl⟩, fun _ _ _ wrote => nomatch wrote⟩, fun _ => rfl⟩
    (fun thread => ensures_program (operations thread))
  subst same
  exact ⟨attended, fun thread => ⟨follows thread, recorded thread⟩⟩

/-- Of activations side by side the index keeps at most one version in use; and if no statement of an exposed one is
refused, then when all have ended and one has succeeded, the version in use is that of one that has succeeded. -/
theorem one_active_after_activations (operations : ι → Activation) (start : World) (unique : AtMostOneActive start) :
    (∀ events last, Pool.Run noting (launchActivations operations start) events last → AtMostOneActive last.shared.1) ∧
      ∀ events last, Pool.Run (unbroken operations) (launchActivations operations start) events last →
        (∀ thread, (last.threads thread).Halted) → ∀ group thread, (operations thread).Targets start group →
          last.threads thread = .done () → ∃ row, ActiveIn last.shared.1 group row ∧
            (∀ other, ActiveIn last.shared.1 group other → other = row) ∧
              ∃ winner, (operations winner).definitionId = row.id ∧ last.threads winner = .done () := by
  refine ⟨fun events last run => (Rivals.run unique run).unique, ?_⟩
  intro events last run ended group thread targets succeeded
  have weaker : Pool.Run noting (launchActivations operations start) events last :=
    run.mono fun _ _ _ _ _ step => step.1
  have single := (Rivals.run unique weaker).unique
  obtain ⟨attended, follows⟩ := Attended.run unique run
  have wrote : (last.shared.2 thread).activated = true := by
    have ensured := (follows thread).1
    rw [succeeded] at ensured
    exact ensured.1
  have settled : ∀ other, ¬(last.shared.2 other).Between := by
    intro other between
    have ensured := (follows other).1
    have halted := ended other
    cases outcome : last.threads other with
    | done value =>
        rw [outcome] at ensured
        have put := ensured.1
        rw [between.activated] at put
        cases put
    | raised error =>
        rw [outcome] at ensured
        have struck := ensured.1 between.cleared
        rw [between.struck] at struck
        cases struck
    | call request next =>
        rw [outcome] at halted
        exact halted
  rcases attended.covered group thread targets wrote with ⟨row, active⟩ | ⟨other, -, between⟩
  · refine ⟨row, active, fun other held => single group other row held active, ?_⟩
    rcases attended.won group row active with ⟨winner, named, put⟩ | idle
    · refine ⟨winner, named, ?_⟩
      have ensured := (follows winner).1
      have halted := ended winner
      cases outcome : last.threads winner with
      | done value => rfl
      | raised error =>
          rw [outcome] at ensured
          have unrecorded := ensured.2 put
          rw [(follows winner).2] at unrecorded
          cases unrecorded
      | call request next =>
          rw [outcome] at halted
          exact halted.elim
    · rw [(idle thread targets).2] at wrote
      cases wrote
  · exact absurd between (settled other)

end Race

section Contestants

/-- The sample hub with two drafts of the `expense` workflow. -/
def contestedHub : World :=
  ((createDefinition (some 3) sampleAdmin "expense" [administratorsStage 1]).run environment draftedHub).2

/-- One activation for each of the drafts named. -/
def contestants (drafts : List UUID) (thread : Fin drafts.length) : Activation :=
  { client := some 3, administrator := sampleAdmin, definitionId := drafts[thread] }

/-- The threads of these activations. -/
def contest (drafts : List UUID) : Pool hubSignature AppError World (Fin drafts.length) where
  shared := contestedHub
  threads := fun thread => (contestants drafts thread).program

def noteCourse {ι : Type} [DecidableEq ι] (thread : ι) (courses : ι → Course) (request : Call) (reply : request.Reply) :
    ι → Course :=
  Function.update courses thread ((courses thread).after request reply)

theorem atMostOneActive_of_rows {world : World}
    (pairs : world.definitions.rows.all (fun first => world.definitions.rows.all fun second =>
      !first.isActive || !second.isActive || scope first != scope second || first.id == second.id) = true) :
    AtMostOneActive world := by
  intro group first second left right
  have holds := List.all_eq_true.mp (List.all_eq_true.mp pairs first left.1) second right.1
  rw [left.2.1, right.2.1, left.2.2, right.2.2] at holds
  have same : first.id = second.id := by simpa using holds
  exact (left.eq_of_id right same).1

theorem atMostOneActive_contestedHub : AtMostOneActive contestedHub :=
  atMostOneActive_of_rows (by decide +kernel)

variable (drafts : List UUID) (schedule : List (Fin drafts.length))

theorem noting_of_play : ∃ courses, Pool.Run noting (launchActivations (contestants drafts) contestedHub)
    ((contest drafts).trace environment schedule)
    ⟨(((contest drafts).play environment schedule).shared, courses), ((contest drafts).play environment schedule).threads⟩ :=
  (play_runs_mayFail (contest drafts) schedule).annotated noteCourse fun _ => Course.initial

theorem unbroken_of_play (accepted : (contest drafts).checked environment
      (fun _ world request => !refuses request (environment request world).1) schedule = true) :
    ∃ courses, Pool.Run (unbroken (contestants drafts)) (launchActivations (contestants drafts) contestedHub)
      ((contest drafts).trace environment schedule)
      ⟨(((contest drafts).play environment schedule).shared, courses),
        ((contest drafts).play environment schedule).threads⟩ := by
  have run : Pool.Run (fun thread world request reply after => mayFail thread world request reply after ∧
      refuses request reply = false) (contest drafts) _ _ := Pool.play_runs_of_checked (by
    intro thread world request passed
    exact ⟨mayFail_environment thread world request, by simpa using passed⟩) (contest drafts) schedule accepted
  obtain ⟨courses, annotated⟩ := run.annotated noteCourse fun _ => Course.initial
  refine ⟨courses, annotated.mono ?_⟩
  intro thread state request reply after step
  obtain ⟨⟨executed, accepted⟩, noted⟩ := step
  refine ⟨⟨executed, noted⟩, ?_⟩
  intro refused
  rw [accepted] at refused
  cases refused

/-- Which threads have returned. -/
def returned {ι : Type} (pool : Pool hubSignature AppError World ι) (thread : ι) : Option Bool :=
  match pool.threads thread with
  | .done _ => some true
  | .raised _ => some false
  | .call .. => none

theorem halted_of_returned {ι : Type} {pool : Pool hubSignature AppError World ι} {thread : ι}
    (ended : (returned pool thread).isSome = true) : (pool.threads thread).Halted := by
  unfold returned at ended
  cases outcome : pool.threads thread with
  | done value => trivial
  | raised error => trivial
  | call request next =>
      rw [outcome] at ended
      cases ended

theorem done_of_returned {ι : Type} {pool : Pool hubSignature AppError World ι} {thread : ι}
    (succeeded : returned pool thread = some true) : pool.threads thread = .done () := by
  unfold returned at succeeded
  cases outcome : pool.threads thread with
  | done value => rfl
  | raised error =>
      rw [outcome] at succeeded
      cases succeeded
  | call request next =>
      rw [outcome] at succeeded
      cases succeeded

theorem targets_of_row {ι : Type} {operations : ι → Activation} {thread : ι} {group : UUID × String} {start : World}
    (named : (start.definitions.find? (operations thread).definitionId).map scope = some group) :
    (operations thread).Targets start group :=
  Option.map_eq_some_iff.mp named

/-- Two activations, one after the other: the version of the second is in use. -/
theorem one_active_after_activations_sample : ∃ events last,
    Pool.Run (unbroken (contestants [3, 4])) (launchActivations (contestants [3, 4]) contestedHub) events last ∧
      ∃ row, ActiveIn last.shared.1 (9, "expense") row ∧
        (∀ other, ActiveIn last.shared.1 (9, "expense") other → other = row) ∧
          ∃ winner, (contestants [3, 4] winner).definitionId = row.id ∧ last.threads winner = .done () := by
  obtain ⟨courses, run⟩ := unbroken_of_play [3, 4] (List.replicate 6 0 ++ List.replicate 6 1) (by decide +kernel)
  have ended : ∀ thread, (returned ((contest [3, 4]).play environment
      (List.replicate 6 0 ++ List.replicate 6 1)) thread).isSome = true := by decide +kernel
  refine ⟨_, _, run, (one_active_after_activations _ _ atMostOneActive_contestedHub).2 _ _ run
    (fun thread => halted_of_returned (ended thread)) (9, "expense") 1 (targets_of_row ?_) (done_of_returned ?_)⟩
  · decide +kernel
  · decide +kernel

/-- A call that read its draft early takes the winner out of use and is then refused: two calls have succeeded, and no
version is in use. -/
theorem none_active_after_activations : ∃ events last,
    Pool.Run noting (launchActivations (contestants [3, 3, 4]) contestedHub) events last ∧
      AtMostOneActive contestedHub ∧ (∀ thread, (last.threads thread).Halted) ∧
        (contestants [3, 3, 4] 2).Targets contestedHub (9, "expense") ∧ last.threads 2 = .done () ∧
          ∀ row, ¬ActiveIn last.shared.1 (9, "expense") row := by
  obtain ⟨courses, run⟩ := noting_of_play [3, 3, 4]
    (List.replicate 2 0 ++ List.replicate 6 1 ++ List.replicate 6 2 ++ List.replicate 5 0)
  have ended : ∀ thread, (returned ((contest [3, 3, 4]).play environment
      (List.replicate 2 0 ++ List.replicate 6 1 ++ List.replicate 6 2 ++ List.replicate 5 0)) thread).isSome = true := by
    decide +kernel
  have idle : ((contest [3, 3, 4]).play environment
      (List.replicate 2 0 ++ List.replicate 6 1 ++ List.replicate 6 2 ++ List.replicate 5 0)).shared.definitions.rows.all
        (fun row => !row.isActive || scope row != (9, "expense")) = true := by decide +kernel
  refine ⟨_, _, run, atMostOneActive_contestedHub, fun thread => halted_of_returned (ended thread), targets_of_row ?_,
    done_of_returned ?_, ?_⟩
  · decide +kernel
  · decide +kernel
  · intro row active
    have excluded := List.all_eq_true.mp idle row active.1
    simp [active.2.1, active.2.2] at excluded

end Contestants

end AutomationHub.System
