import AutomationHub.Invitations.TokenWrites
import AutomationHub.Model.Identifiers

/-!
What becomes of the token of an invitation, over any interleaving of creations,
resends, revocations, checks and acceptances.
-/

set_option autoImplicit false

namespace AutomationHub.Invitations.Issuing

open Foundation Model Auth Database Program Table

section Runs

variable {ι : Type} {rules : TextRules} {config : IssuingConfig}

def launchIssuing (rules : TextRules) (config : IssuingConfig) (processes : ι → IssuingProcess) (start : Registry) :
    Pool issuingSignature InvitationFault Registry ι where
  shared := start
  threads := fun thread => (processes thread).program rules config

/-- Any call, struck or not. -/
def issuing (rules : TextRules) : Effect issuingSignature Registry ι := fun _ state call reply after =>
  issuingStep rules state call reply after

/-- The same with what each process knows. -/
def tracing [DecidableEq ι] (rules : TextRules) : Effect issuingSignature (Registry × (ι → TokenPhase)) ι :=
  fun thread state call reply after => issuingStep rules state.1 call reply after.1 ∧
    after.2 = Function.update state.2 thread ((state.2 thread).after call reply)

/-- No two draws have one hash, and no draw to come has the hash of an invitation. -/
structure Unguessed (rules : TextRules) (start : Registry) : Prop where
  distinct : ∀ first second, rules.hash (start.secrets first) = rules.hash (start.secrets second) → first = second
  unused : ∀ row ∈ start.directory.invitations.rows, ∀ draw, row.tokenHash ≠ rules.hash (start.secrets draw)

/-- The token was stored or mailed. -/
def Spent (state : Registry × (ι → TokenPhase)) (token : String) : Prop :=
  (∃ thread record, (state.2 thread).stored = some (record, token)) ∨ ∃ email ∈ state.1.mailed, email.token = token

/-- The token opens at most the invitation with this identifier and address. -/
def Opens (rules : TextRules) (state : Registry) (invitationId : UUID) (address token : String) : Prop :=
  ∀ row ∈ state.directory.invitations.rows, row.tokenHash = rules.hash token → row.id = invitationId ∧ row.email = address

/-- The hash was that of an invitation, or of a token drawn since. -/
def Known (rules : TextRules) (start : Registry) (drawn : Nat) (tokenHash : String) : Prop :=
  (∃ old ∈ start.directory.invitations.rows, old.tokenHash = tokenHash) ∨
    ∃ draw < drawn, tokenHash = rules.hash (start.secrets draw)

/-- What holds of the tokens held, stored and mailed. -/
structure Tidy (rules : TextRules) (start : Registry) (state : Registry × (ι → TokenPhase)) : Prop where
  orderly : Orderly rules state.1.directory.invitations
  secrets : state.1.secrets = start.secrets
  seen : ∀ thread record, (state.2 thread).read = some record → Seen state.1.directory.invitations record
  drawn : ∀ thread token, (state.2 thread).held = some token → ∃ draw < state.1.drawn, token = start.secrets draw
  apart : ∀ thread other token, (state.2 thread).held = some token → (state.2 other).held = some token → thread = other
  known : ∀ row ∈ state.1.directory.invitations.rows, Known rules start state.1.drawn row.tokenHash
  unstored : ∀ thread token, (state.2 thread).held = some token → ∀ row ∈ state.1.directory.invitations.rows,
    row.tokenHash ≠ rules.hash token
  spent : ∀ token, Spent state token → ∃ draw < state.1.drawn, token = start.secrets draw
  unspent : ∀ thread token, (state.2 thread).held = some token → ¬ Spent state token
  stored : ∀ thread record token, (state.2 thread).stored = some (record, token) →
    Opens rules state.1 record.id record.email token
  mailed : ∀ email ∈ state.1.mailed, Opens rules state.1 email.invitationId email.toEmail email.token

section Step

variable {start : Registry} {processes : ι → IssuingProcess} {state after : Registry × (ι → TokenPhase)} {thread : ι}
  {call : IssuingCall} {reply : Except InvitationFault call.Result} {presented : Option String}

/-- A phase after a step is one from before, or that of the process that made the call. -/
theorem phase_after [DecidableEq ι] (traced : tracing rules thread state call reply after) (other : ι) :
    (other ≠ thread ∧ after.2 other = state.2 other) ∨
      other = thread ∧ after.2 other = (state.2 thread).after call reply := by
  by_cases own : other = thread
  · subst own
    exact .inr ⟨rfl, by rw [traced.2, Function.update_self]⟩
  · exact .inl ⟨own, by rw [traced.2, Function.update_of_ne own]⟩

/-- A token held after a step was held before, by a process that has not written since, or has just been drawn. -/
theorem held_step [DecidableEq ι] (traced : tracing rules thread state call reply after) {other : ι} {token : String}
    (held : (after.2 other).held = some token) :
    ((state.2 other).held = some token ∧ (other = thread → call.writes = false)) ∨
      other = thread ∧ call.writes = false ∧ token = state.1.secrets state.1.drawn ∧ after.1.drawn = state.1.drawn + 1 := by
  rcases phase_after traced other with ⟨different, same⟩ | ⟨own, same⟩
  · rw [same] at held
    exact .inl ⟨held, fun own => absurd own different⟩
  · rw [same] at held
    subst own
    rcases held_after traced.1 held with ⟨kept, silent⟩ | ⟨draws, named, counted⟩
    · exact .inl ⟨kept, fun _ => silent⟩
    · subst draws
      exact .inr ⟨rfl, rfl, named, counted⟩

variable (tidy : Tidy rules start state) (unguessed : Unguessed rules start)

include tidy unguessed in
theorem Tidy.fresh {tokenHash : String} (known : Known rules start state.1.drawn tokenHash) :
    tokenHash ≠ rules.hash (state.1.secrets state.1.drawn) := by
  rw [tidy.secrets]
  intro same
  rcases known with ⟨old, stored, sameHash⟩ | ⟨draw, earlier, sameHash⟩
  · exact unguessed.unused old stored state.1.drawn (sameHash.trans same)
  · exact Nat.ne_of_lt earlier (unguessed.distinct _ _ (sameHash.symm.trans same))

include tidy unguessed in
theorem Tidy.undrawn {token : String} (drawn : ∃ draw < state.1.drawn, token = start.secrets draw) :
    rules.hash token ≠ rules.hash (state.1.secrets state.1.drawn) := by
  rw [tidy.secrets]
  obtain ⟨draw, earlier, named⟩ := drawn
  subst named
  intro same
  exact Nat.ne_of_lt earlier (unguessed.distinct _ _ same)

include unguessed in
theorem same_of_hash {first second : String} (left : ∃ draw < state.1.drawn, first = start.secrets draw)
    (right : ∃ draw < state.1.drawn, second = start.secrets draw) (same : rules.hash first = rules.hash second) :
    first = second := by
  obtain ⟨draw, -, named⟩ := left
  obtain ⟨other, -, otherNamed⟩ := right
  subst named otherNamed
  rw [unguessed.distinct _ _ same]

variable [DecidableEq ι] (permitted : (state.2 thread).Permits rules.hash presented call)
  (traced : tracing rules thread state call reply after)

include tidy permitted traced in
theorem Tidy.source {row : InvitationRecord} (member : row ∈ after.1.directory.invitations.rows) :
    (∃ old ∈ state.1.directory.invitations.rows, SameInvitee old row ∧ old.tokenHash = row.tokenHash) ∨
      call.writes = true ∧ ∃ token, (state.2 thread).held = some token ∧ row.tokenHash = rules.hash token :=
  row_source permitted (tidy.seen thread) (written_step traced.1) member

include traced in
theorem drawn_step {token : String} (before : ∃ draw < state.1.drawn, token = start.secrets draw) :
    ∃ draw < after.1.drawn, token = start.secrets draw := by
  obtain ⟨draw, earlier, named⟩ := before
  exact ⟨draw, Nat.lt_of_lt_of_le earlier (secrets_step traced.1).2, named⟩

include traced in
theorem known_step {tokenHash : String} (before : Known rules start state.1.drawn tokenHash) :
    Known rules start after.1.drawn tokenHash := by
  rcases before with first | ⟨draw, earlier, named⟩
  · exact .inl first
  · exact .inr ⟨draw, Nat.lt_of_lt_of_le earlier (secrets_step traced.1).2, named⟩

include tidy permitted traced unguessed in
theorem Tidy.unstored_step {other : ι} {token : String} (held : (after.2 other).held = some token)
    {row : InvitationRecord} (member : row ∈ after.1.directory.invitations.rows) : row.tokenHash ≠ rules.hash token := by
  rcases tidy.source permitted traced member with ⟨old, stored, -, sameHash⟩ | ⟨writes, written, drawn, given⟩
  · rw [← sameHash]
    rcases held_step traced held with ⟨kept, -⟩ | ⟨-, -, named, -⟩
    · exact tidy.unstored other token kept old stored
    · rw [named]
      exact tidy.fresh unguessed (tidy.known old stored)
  · rw [given]
    intro same
    rcases held_step traced held with ⟨kept, silent⟩ | ⟨-, silent, -, -⟩
    · have sameToken := same_of_hash unguessed (tidy.drawn thread written drawn) (tidy.drawn other token kept) same
      rw [sameToken] at drawn
      rw [silent (tidy.apart other thread token kept drawn)] at writes
      cases writes
    · rw [silent] at writes
      cases writes

include tidy permitted traced in
/-- A token spent after a step was spent before, or was held by the process that writes it now. -/
theorem Tidy.spent_step {token : String} (spent : Spent after token) :
    Spent state token ∨ call.writes = true ∧ (state.2 thread).held = some token := by
  rcases spent with ⟨other, record, stored⟩ | ⟨email, member, named⟩
  · rcases phase_after traced other with ⟨-, same⟩ | ⟨own, same⟩
    · rw [same] at stored
      exact .inl (.inl ⟨other, record, stored⟩)
    · rw [same] at stored
      rcases stored_after permitted (tidy.seen thread) traced.1 stored with ⟨earlier, -⟩ | ⟨writes, held, -, -⟩
      · exact .inl (.inl ⟨thread, record, earlier⟩)
      · exact .inr ⟨writes, held⟩
  · rcases mailed_step traced.1 member with earlier | sends
    · exact .inl (.inr ⟨email, earlier, named⟩)
    · subst sends
      obtain ⟨record, stored, -, -⟩ := permitted
      exact .inl (.inl ⟨thread, record, named ▸ stored⟩)

include tidy permitted traced unguessed in
theorem Tidy.unspent_step {other : ι} {token : String} (held : (after.2 other).held = some token) :
    ¬ Spent after token := by
  intro spent
  rcases tidy.spent_step permitted traced spent with earlier | ⟨writes, written⟩
  · rcases held_step traced held with ⟨kept, -⟩ | ⟨-, -, named, -⟩
    · exact tidy.unspent other token kept earlier
    · exact tidy.undrawn unguessed (tidy.spent token earlier) (congrArg rules.hash named)
  · rcases held_step traced held with ⟨kept, silent⟩ | ⟨-, silent, -, -⟩
    · rw [silent (tidy.apart other thread token kept written)] at writes
      cases writes
    · rw [silent] at writes
      cases writes

include tidy permitted traced unguessed in
theorem Tidy.opens_step {invitationId : UUID} {address token : String} (spent : Spent state token)
    (opens : Opens rules state.1 invitationId address token) : Opens rules after.1 invitationId address token := by
  intro row member sameHash
  rcases tidy.source permitted traced member with ⟨old, stored, same, oldHash⟩ | ⟨-, drawn, held, given⟩
  · obtain ⟨named, addressed⟩ := opens old stored (oldHash.trans sameHash)
    exact ⟨same.id.trans named, same.email.trans addressed⟩
  · have sameToken := same_of_hash unguessed (tidy.drawn thread drawn held) (tidy.spent token spent) (given.symm.trans sameHash)
    rw [sameToken] at held
    exact absurd spent (tidy.unspent thread token held)

include tidy permitted traced unguessed in
theorem Tidy.step : Tidy rules start after where
  orderly := tidy.orderly.written permitted (tidy.seen thread) (written_step traced.1)
  secrets := (secrets_step traced.1).1.trans tidy.secrets
  seen := by
    intro other record read
    rcases phase_after traced other with ⟨-, same⟩ | ⟨own, same⟩
    · rw [same] at read
      exact (tidy.seen other record read).evolves (written_step traced.1).evolves
    · rw [same] at read
      exact seen_after (tidy.seen thread) traced.1 record read
  drawn := by
    intro other token held
    rcases held_step traced held with ⟨kept, -⟩ | ⟨-, -, named, counted⟩
    · exact drawn_step traced (tidy.drawn other token kept)
    · rw [tidy.secrets] at named
      exact ⟨state.1.drawn, by rw [counted]; exact Nat.lt_succ_self _, named⟩
  apart := by
    intro first second token held alsoHeld
    rcases held_step traced held with ⟨kept, -⟩ | ⟨own, -, named, -⟩ <;>
      rcases held_step traced alsoHeld with ⟨alsoKept, -⟩ | ⟨alsoOwn, -, alsoNamed, -⟩
    · exact tidy.apart first second token kept alsoKept
    · exact absurd (congrArg rules.hash alsoNamed) (tidy.undrawn unguessed (tidy.drawn first token kept))
    · exact absurd (congrArg rules.hash named) (tidy.undrawn unguessed (tidy.drawn second token alsoKept))
    · exact own.trans alsoOwn.symm
  known := by
    intro row member
    rcases tidy.source permitted traced member with ⟨old, stored, -, sameHash⟩ | ⟨-, token, held, given⟩
    · rw [← sameHash]
      exact known_step traced (tidy.known old stored)
    · obtain ⟨draw, earlier, named⟩ := drawn_step traced (tidy.drawn thread token held)
      exact .inr ⟨draw, earlier, by rw [given, named]⟩
  unstored := fun other token held row member => tidy.unstored_step unguessed permitted traced held member
  spent := by
    intro token spent
    rcases tidy.spent_step permitted traced spent with earlier | ⟨-, held⟩
    · exact drawn_step traced (tidy.spent token earlier)
    · exact drawn_step traced (tidy.drawn thread token held)
  unspent := fun other token held => tidy.unspent_step unguessed permitted traced held
  stored := by
    intro other record token stored
    have earlier (before : ∃ other record, (state.2 other).stored = some (record, token))
        (opens : Opens rules state.1 record.id record.email token) : Opens rules after.1 record.id record.email token :=
      tidy.opens_step unguessed permitted traced (.inl before) opens
    rcases phase_after traced other with ⟨-, same⟩ | ⟨own, same⟩
    · rw [same] at stored
      exact earlier ⟨other, record, stored⟩ (tidy.stored other record token stored)
    · rw [same] at stored
      rcases stored_after permitted (tidy.seen thread) traced.1 stored with ⟨before, -⟩ | ⟨-, -, member, given⟩
      · exact earlier ⟨thread, record, before⟩ (tidy.stored thread record token before)
      · intro row rowMember sameHash
        have orderly : Orderly rules after.1.directory.invitations :=
          tidy.orderly.written permitted (tidy.seen thread) (written_step traced.1)
        have same := orderly.hashes record member row rowMember (sameHash.trans given.symm)
        rw [same]
        exact ⟨rfl, rfl⟩
  mailed := by
    intro email member
    rcases mailed_step traced.1 member with earlier | sends
    · exact tidy.opens_step unguessed permitted traced (.inr ⟨email, earlier, rfl⟩) (tidy.mailed email earlier)
    · subst sends
      have sent := permitted
      obtain ⟨record, stored, named, addressed⟩ := sent
      rw [named, addressed]
      exact tidy.opens_step unguessed permitted traced (.inl ⟨thread, record, stored⟩)
        (tidy.stored thread record email.token stored)

include tidy traced unguessed in
theorem Tidy.unheld_step {tokenHash : String} (known : Known rules start state.1.drawn tokenHash)
    (unheld : ∀ thread token, (state.2 thread).held = some token → tokenHash ≠ rules.hash token) :
    ∀ thread token, (after.2 thread).held = some token → tokenHash ≠ rules.hash token := by
  intro other token held
  rcases held_step traced held with ⟨kept, -⟩ | ⟨-, -, named, -⟩
  · exact unheld other token kept
  · rw [named]
    exact tidy.fresh unguessed known

end Step

/-- What becomes of an invitation: whom it is for never changes, a closed one stays as it is, and one that is accepted is
so through a process that presents its token. -/
structure Carried (rules : TextRules) (processes : ι → IssuingProcess) (row later : InvitationRecord) : Prop where
  invitee : SameInvitee row later
  closed : row.status ≠ .pending → later = row
  accepted : later.status = .accepted → row.status = .accepted ∨
    ∃ thread token, (processes thread).presented = some token ∧ later.tokenHash = rules.hash token

section Onward

variable [DecidableEq ι] {start : Registry} {processes : ι → IssuingProcess} {state after : Registry × (ι → TokenPhase)}
  {thread : ι} {call : IssuingCall} {reply : Except InvitationFault call.Result}

omit [DecidableEq ι] in
theorem carried_update {row stored : InvitationRecord} {change : StatusChange} {phase : TokenPhase} (version : Nat)
    (carried : Carried rules processes row stored) (pending : stored.status = .pending)
    (moves : phase.Moves rules.hash (processes thread).presented stored change) :
    Carried rules processes row ((stamped change.edit version).apply stored) where
  invitee := carried.invitee.trans (sameInvitee_stamped change version stored)
  closed := by
    intro settled
    rw [carried.closed settled] at pending
    exact absurd pending settled
  accepted := by
    intro accepted
    right
    have asked : change.status = .accepted := accepted
    unfold TokenPhase.Moves at moves
    rw [asked] at moves
    obtain ⟨-, absent, -, presents⟩ := moves
    obtain ⟨token, presented, given⟩ := Option.map_eq_some_iff.mp presents
    refine ⟨thread, token, presented, ?_⟩
    change change.tokenHash.getD stored.tokenHash = _
    rw [absent, given]
    rfl

theorem Tidy.carried_step (tidy : Tidy rules start state)
    (permitted : (state.2 thread).Permits rules.hash (processes thread).presented call)
    (traced : tracing rules thread state call reply after) {row : InvitationRecord}
    (before : ∃ later ∈ state.1.directory.invitations.rows, Carried rules processes row later) :
    ∃ later ∈ after.1.directory.invitations.rows, Carried rules processes row later := by
  obtain ⟨stored, member, carried⟩ := before
  have written := written_step traced.1
  generalize after.1.directory.invitations = invitations at written ⊢
  cases written with
  | kept => exact ⟨stored, member, carried⟩
  | @updated invitationId expectedVersion change current found isCurrent unique =>
      by_cases named : stored.id = invitationId
      · obtain ⟨present, keyed⟩ := (find?_eq_some_iff ..).mp found
        have same := eq_of_key_eq _ member present (named.trans keyed.symm)
        subst same
        obtain ⟨pending, moves⟩ := moves_of_updated permitted (tidy.seen thread) found isCurrent
        exact ⟨_, (mem_modify ..).mpr (.inr ⟨stored, member, named, rfl⟩),
          carried_update expectedVersion carried pending moves⟩
      · exact ⟨stored, (mem_modify ..).mpr (.inl ⟨member, named⟩), carried⟩
  | created unique => exact ⟨stored, (mem_insert ..).mpr (.inl member), carried⟩

/-- What holds, of a row seen at one moment, from then on. -/
structure Onward (rules : TextRules) (processes : ι → IssuingProcess) (start : Registry) (row : InvitationRecord)
    (state : Registry × (ι → TokenPhase)) : Prop where
  carried : ∃ later ∈ state.1.directory.invitations.rows, Carried rules processes row later
  owner : ∀ other ∈ state.1.directory.invitations.rows, other.tokenHash = row.tokenHash → other.id = row.id
  known : Known rules start state.1.drawn row.tokenHash
  unheld : ∀ thread token, (state.2 thread).held = some token → row.tokenHash ≠ rules.hash token

omit [DecidableEq ι] in
theorem Tidy.onward {row : InvitationRecord} (tidy : Tidy rules start state)
    (member : row ∈ state.1.directory.invitations.rows) : Onward rules processes start row state where
  carried := ⟨row, member, SameInvitee.refl row, fun _ => rfl, .inl⟩
  owner := fun other otherMember sameHash => congrArg InvitationRecord.id (tidy.orderly.hashes row member other otherMember sameHash)
  known := tidy.known row member
  unheld := fun thread token held => tidy.unstored thread token held row member

theorem Onward.step {row : InvitationRecord} (onward : Onward rules processes start row state)
    (tidy : Tidy rules start state) (unguessed : Unguessed rules start)
    (permitted : (state.2 thread).Permits rules.hash (processes thread).presented call)
    (traced : tracing rules thread state call reply after) : Onward rules processes start row after where
  carried := tidy.carried_step permitted traced onward.carried
  owner := by
    intro other member sameHash
    rcases tidy.source permitted traced member with ⟨old, stored, same, oldHash⟩ | ⟨-, token, held, given⟩
    · exact same.id.trans (onward.owner old stored (oldHash.trans sameHash))
    · exact absurd (sameHash.symm.trans given) (onward.unheld thread token held)
  known := known_step traced onward.known
  unheld := tidy.unheld_step unguessed traced onward.known onward.unheld

/-- A hash that no row has and no process can store. -/
structure Retired (rules : TextRules) (start : Registry) (tokenHash : String) (state : Registry × (ι → TokenPhase)) :
    Prop where
  absent : ∀ row ∈ state.1.directory.invitations.rows, row.tokenHash ≠ tokenHash
  known : Known rules start state.1.drawn tokenHash
  unheld : ∀ thread token, (state.2 thread).held = some token → tokenHash ≠ rules.hash token

theorem Retired.step {tokenHash : String} (retired : Retired rules start tokenHash state)
    (tidy : Tidy rules start state) (unguessed : Unguessed rules start)
    (permitted : (state.2 thread).Permits rules.hash (processes thread).presented call)
    (traced : tracing rules thread state call reply after) : Retired rules start tokenHash after where
  absent := by
    intro row member same
    rcases tidy.source permitted traced member with ⟨old, stored, -, oldHash⟩ | ⟨-, token, held, given⟩
    · exact retired.absent old stored (oldHash.trans same)
    · exact retired.unheld thread token held (same.symm.trans given)
  known := known_step traced retired.known
  unheld := tidy.unheld_step unguessed traced retired.known retired.unheld

/-- The rule for what the calls of processes keep, from a moment of a run to a later one. -/
theorem tidy_run {first last : Pool issuingSignature InvitationFault Registry ι} {events : List (Event issuingSignature ι)}
    (unguessed : Unguessed rules start) (run : Pool.Run (issuing rules) first events last) {phases : ι → TokenPhase}
    (inv : Registry × (ι → TokenPhase) → Prop)
    (preserved : ∀ (state after : Registry × (ι → TokenPhase)) (thread : ι) (call : IssuingCall)
      (reply : Except InvitationFault call.Result), Tidy rules start state → inv state →
      (state.2 thread).Permits rules.hash (processes thread).presented call → tracing rules thread state call reply after →
      inv after)
    (tidy : Tidy rules start (first.shared, phases)) (holds : inv (first.shared, phases))
    (follows : ∀ thread, (first.threads thread).Ensures (tokenDiscipline rules.hash (processes thread).presented)
      (fun _ _ => True) (phases thread)) :
    ∃ phases, Tidy rules start (last.shared, phases) ∧ inv (last.shared, phases) ∧
      ∀ thread, (last.threads thread).Ensures (tokenDiscipline rules.hash (processes thread).presented)
        (fun _ _ => True) (phases thread) := by
  obtain ⟨final, traced⟩ := run.annotated
    (fun thread phases call reply => Function.update phases thread ((phases thread).after call reply)) phases
  have kept := traced.tracked (fun state thread => state.2 thread) (fun state => Tidy rules start state ∧ inv state) ?_
    follows ⟨tidy, holds⟩
  · exact ⟨final, kept.2.1, kept.2.2, kept.1⟩
  · intro thread state call reply after held permitted step
    obtain ⟨tidy, holds⟩ := held
    refine ⟨⟨foreseen_step step.1, ?_⟩, ?_, tidy.step unguessed permitted step,
      preserved state after thread call reply tidy holds permitted step⟩
    · rw [step.2, Function.update_self]
    · intro other different
      rw [step.2, Function.update_of_ne different]

end Onward

section Results

variable [DecidableEq ι] (processes : ι → IssuingProcess) {start : Registry}

omit [DecidableEq ι] in
theorem tidy_launch (orderly : Orderly rules start.directory.invitations) (unmailed : start.mailed = []) :
    Tidy rules start (start, fun _ : ι => TokenPhase.idle) where
  orderly := orderly
  secrets := rfl
  seen := by
    intro thread record read
    cases read
  drawn := by
    intro thread token held
    cases held
  apart := by
    intro thread other token held
    cases held
  known := fun row member => .inl ⟨row, member, rfl⟩
  unstored := by
    intro thread token held
    cases held
  spent := by
    intro token spent
    rcases spent with ⟨thread, record, stored⟩ | ⟨email, member, -⟩
    · cases stored
    · rw [unmailed] at member
      cases member
  unspent := by
    intro thread token held
    cases held
  stored := by
    intro thread record token stored
    cases stored
  mailed := by
    intro email member
    rw [unmailed] at member
    cases member

/-- An invitation seen at one moment is there ever after, for the same person; once closed it stays as it is, and it becomes
accepted only by the token that it has then.  Its token belongs to no other, and once replaced never returns. -/
theorem invitations_follow_tokens (unguessed : Unguessed rules start)
    (orderly : Orderly rules start.directory.invitations) (unmailed : start.mailed = [])
    {first second third : Pool issuingSignature InvitationFault Registry ι}
    {earlier between later : List (Event issuingSignature ι)}
    (opening : Pool.Run (issuing rules) (launchIssuing rules config processes start) earlier first)
    (middle : Pool.Run (issuing rules) first between second) (closing : Pool.Run (issuing rules) second later third)
    {row : InvitationRecord} (member : row ∈ first.shared.directory.invitations.rows) :
    (∃ now ∈ second.shared.directory.invitations.rows, Carried rules processes row now) ∧
      (∀ other ∈ second.shared.directory.invitations.rows, other.tokenHash = row.tokenHash → other.id = row.id) ∧
      ((∀ other ∈ second.shared.directory.invitations.rows, other.tokenHash ≠ row.tokenHash) →
        ∀ other ∈ third.shared.directory.invitations.rows, other.tokenHash ≠ row.tokenHash) := by
  obtain ⟨phases, tidy, -, follows⟩ := tidy_run unguessed opening (fun _ => True)
    (fun _ _ _ _ _ _ _ _ _ => trivial) (tidy_launch orderly unmailed) trivial
    (fun thread => ensures_process (processes thread))
  obtain ⟨phases, tidy, onward, follows⟩ := tidy_run unguessed middle (Onward rules processes start row)
    (fun _ _ _ _ _ tidy onward permitted traced => onward.step tidy unguessed permitted traced) tidy
    (tidy.onward member) follows
  refine ⟨onward.carried, onward.owner, ?_⟩
  intro absent
  obtain ⟨phases, -, retired, -⟩ := tidy_run unguessed closing (Retired rules start row.tokenHash)
    (fun _ _ _ _ _ tidy retired permitted traced => retired.step tidy unguessed permitted traced) tidy
    ⟨absent, onward.known, onward.unheld⟩ follows
  exact retired.absent

/-- Two invitations never share a token, two pending ones of a company never an address, versions count resends, and a
token that was mailed opens at most the invitation that it was mailed for, at the address it was mailed to. -/
theorem mailed_tokens_open_their_invitations (unguessed : Unguessed rules start)
    (orderly : Orderly rules start.directory.invitations) (unmailed : start.mailed = [])
    {last : Pool issuingSignature InvitationFault Registry ι} {events : List (Event issuingSignature ι)}
    (run : Pool.Run (issuing rules) (launchIssuing rules config processes start) events last) :
    Orderly rules last.shared.directory.invitations ∧
      ∀ email ∈ last.shared.mailed, Opens rules last.shared email.invitationId email.toEmail email.token := by
  obtain ⟨phases, tidy, -, -⟩ := tidy_run unguessed run (fun _ => True) (fun _ _ _ _ _ _ _ _ _ => trivial)
    (tidy_launch orderly unmailed) trivial (fun thread => ensures_process (processes thread))
  exact ⟨tidy.orderly, tidy.mailed⟩

end Results

end Runs

section Samples

def plainRules : TextRules where
  lower := fun text => text
  ilike := fun pattern text => pattern == text
  hash := fun token => "sha256:" ++ token

def threeDays : IssuingConfig where
  expiry := 72 * microsecondsPerHour
  hasSender := true

def inviter : ProfileRecord where
  id := 3
  fullName := "Alice"
  role := .admin
  department := none
  version := 1
  createdAt := 0
  updatedAt := 0
  companyId := 1
  isPlatformAdmin := false
  isActive := true
  deletedAt := none
  deletedBy := none

def inviterIdentity : AuthenticatedIdentity where
  userId := 3
  role := .admin
  companyId := 1
  expiresAt := none

def nobodyInvited : Registry where
  directory :=
    { clock := fun instant => instant
      ticks := 0
      invitations := Table.empty
      accounts := Table.empty
      profiles := Table.empty.place inviter }
  secrets := fun draw => String.ofList (hexDigits draw)
  drawn := 0
  delivers := fun _ => true
  mailed := []

/-- Carol is invited, her invitation is sent again, and she presents the second token. -/
def inviteResendAccept : Fin 3 → IssuingProcess := fun thread =>
  if thread = 0 then .create inviterIdentity false "carol@example.com" "Carol" .employee none none
  else if thread = 1 then .resend inviterIdentity 1
  else .accept (String.ofList (hexDigits 1)) "secret"

def issuingHandler (rules : TextRules) : Handler issuingSignature Registry :=
  fun call state => ((state.execute rules call).1, (state.execute rules call).2.tick)

theorem issuingHandler_issuing {ι : Type} (rules : TextRules) (thread : ι) (state : Registry) (call : IssuingCall) :
    issuing rules thread state call (issuingHandler rules call state).1 (issuingHandler rules call state).2 :=
  .inl ⟨rfl, rfl⟩

theorem unguessed_nobodyInvited : Unguessed plainRules nobodyInvited where
  distinct := by
    intro first second same
    have texts := congrArg String.toList same
    simp only [plainRules, nobodyInvited, String.toList_append, String.toList_ofList, List.append_cancel_left_eq] at texts
    exact hexDigits_inj texts
  unused := by
    intro row member
    cases member

theorem orderly_nobodyInvited : Orderly plainRules nobodyInvited.directory.invitations where
  hashes := by
    intro row member
    cases member
  addresses := by
    intro row member
    cases member
  counted := by
    intro row member
    cases member

/-- The first token of a resent invitation is not found again, and the second one is accepted. -/
theorem invitations_follow_tokens_resent :
    ∃ (first second third : Pool issuingSignature InvitationFault Registry (Fin 3))
      (earlier between later : List (Event issuingSignature (Fin 3))) (row : InvitationRecord),
      Pool.Run (issuing plainRules) (launchIssuing plainRules threeDays inviteResendAccept nobodyInvited) earlier first ∧
      Pool.Run (issuing plainRules) first between second ∧ Pool.Run (issuing plainRules) second later third ∧
      row ∈ first.shared.directory.invitations.rows ∧ row.tokenHash = plainRules.hash (nobodyInvited.secrets 0) ∧
      (∃ now ∈ third.shared.directory.invitations.rows, now.status = .accepted) ∧
      (∃ now ∈ second.shared.directory.invitations.rows, Carried plainRules inviteResendAccept row now) ∧
      ∀ other ∈ third.shared.directory.invitations.rows, other.tokenHash ≠ row.tokenHash := by
  have opening := Pool.play_runs (issuingHandler plainRules) (issuingHandler_issuing plainRules)
    (launchIssuing plainRules threeDays inviteResendAccept nobodyInvited) [0, 0, 0, 0, 0, 0]
  have middle := Pool.play_runs (issuingHandler plainRules) (issuingHandler_issuing plainRules)
    (Pool.play (issuingHandler plainRules) (launchIssuing plainRules threeDays inviteResendAccept nobodyInvited)
      [0, 0, 0, 0, 0, 0]) [1, 1, 1, 1, 1, 1]
  have closing := Pool.play_runs (issuingHandler plainRules) (issuingHandler_issuing plainRules)
    (Pool.play (issuingHandler plainRules) (Pool.play (issuingHandler plainRules)
      (launchIssuing plainRules threeDays inviteResendAccept nobodyInvited) [0, 0, 0, 0, 0, 0]) [1, 1, 1, 1, 1, 1])
    [2, 2, 2, 2, 2, 2, 2]
  have present : ∃ row ∈ (Pool.play (issuingHandler plainRules) (launchIssuing plainRules threeDays inviteResendAccept
      nobodyInvited) [0, 0, 0, 0, 0, 0]).shared.directory.invitations.rows,
      row.tokenHash = plainRules.hash (nobodyInvited.secrets 0) := by
    decide +kernel
  obtain ⟨row, member, hashed⟩ := present
  obtain ⟨carried, -, retired⟩ := invitations_follow_tokens inviteResendAccept unguessed_nobodyInvited
    orderly_nobodyInvited rfl opening middle closing member
  refine ⟨_, _, _, _, _, _, row, opening, middle, closing, member, hashed, by decide +kernel, carried, retired ?_⟩
  rw [hashed]
  decide +kernel

/-- Both tokens that were mailed open one invitation at most. -/
theorem mailed_tokens_open_their_invitations_resent :
    ∃ last events, Pool.Run (issuing plainRules)
      (launchIssuing plainRules threeDays inviteResendAccept nobodyInvited) events last ∧
      last.shared.mailed.length = 2 ∧ Orderly plainRules last.shared.directory.invitations ∧
      ∀ email ∈ last.shared.mailed, Opens plainRules last.shared email.invitationId email.toEmail email.token := by
  have run := Pool.play_runs (issuingHandler plainRules) (issuingHandler_issuing plainRules)
    (launchIssuing plainRules threeDays inviteResendAccept nobodyInvited) [0, 0, 0, 0, 0, 0, 1, 1, 1, 1, 1, 1]
  have results := mailed_tokens_open_their_invitations inviteResendAccept unguessed_nobodyInvited orderly_nobodyInvited rfl
    run
  exact ⟨_, _, run, by decide +kernel, results⟩

end Samples

end AutomationHub.Invitations.Issuing
