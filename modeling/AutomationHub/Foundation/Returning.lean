import AutomationHub.Foundation.Program

/-!
What programs lead to when they return; nothing is asked of a program that raises.
-/

set_option autoImplicit false

namespace AutomationHub.Foundation.Program

section Rules

variable {sig : Signature} {σ ε α β : Type} {protocol : Protocol sig σ} {state : σ}

/-- Every call made from `state` on is permitted, and `post` holds of the value returned, if one is. -/
def Leads (protocol : Protocol sig σ) (program : Program sig ε α) (post : α → σ → Prop) (state : σ) : Prop :=
  program.Ensures protocol (fun result final => ∀ value, result = .ok value → post value final) state

theorem leads_done {value : α} {post : α → σ → Prop} (holds : post value state) :
    (.done value : Program sig ε α).Leads protocol post state := by
  intro returned same
  cases same
  exact holds

theorem leads_raised (error : ε) (post : α → σ → Prop) :
    (.raised error : Program sig ε α).Leads protocol post state := by
  intro returned same
  cases same

theorem Leads.bind {program : Program sig ε α} {next : α → Program sig ε β} {post : β → σ → Prop}
    (leads : program.Leads protocol (fun value final => (next value).Leads protocol post final) state) :
    (program >>= next).Leads protocol post state := by
  refine (ensures_bind ..).mpr (Ensures.mono leads ?_)
  intro result final held
  cases result with
  | ok value => exact held value rfl
  | error error =>
      intro returned same
      cases same

/-- An exception handler that raises changes nothing of what its program leads to. -/
theorem Leads.tryCatch {program : Program sig ε α} {handle : ε → Program sig ε α} {post : α → σ → Prop}
    (leads : program.Leads protocol post state)
    (handled : ∀ error final, (handle error).Leads protocol post final) :
    (tryCatch program handle).Leads protocol post state := by
  refine (ensures_tryCatch ..).mpr (Ensures.mono leads ?_)
  intro result final held
  cases result with
  | ok value => exact held
  | error error => exact handled error final

theorem Leads.mono {program : Program sig ε α} {post weaker : α → σ → Prop} (leads : program.Leads protocol post state)
    (implies : ∀ value final, post value final → weaker value final) : program.Leads protocol weaker state :=
  Ensures.mono leads fun _ final held value same => implies value final (held value same)

theorem Leads.ensures {program : Program sig ε α} {post : α → σ → Prop} (leads : program.Leads protocol post state) :
    program.Ensures protocol (fun _ _ => True) state :=
  Ensures.mono leads fun _ _ _ => trivial

end Rules

section Fallible

variable {Call ε σ : Type} {Result : Call → Type} {protocol : Protocol ⟨Call, fun call => Except ε (Result call)⟩ σ}
  {state : σ}

/-- A call that returns its result and raises its fault. -/
theorem leads_fallible {request : Call}
    {next : Except ε (Result request) → Program ⟨Call, fun call => Except ε (Result call)⟩ ε (Result request)}
    {post : Result request → σ → Prop} (raising : ∀ reply, next reply = ofExcept reply)
    (permitted : protocol.permits state request)
    (answered : ∀ result after, protocol.answers state request (.ok result) after → post result after) :
    (Program.call request next).Leads protocol post state := by
  refine (ensures_fallible raising _).mpr ⟨permitted, ?_⟩
  intro reply after possible value same
  cases same
  exact answered value after possible

end Fallible

end AutomationHub.Foundation.Program
