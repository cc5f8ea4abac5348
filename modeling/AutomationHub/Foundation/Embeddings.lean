import AutomationHub.Foundation.Program

/-!
Programs over the calls of one environment, run in one that offers more.
-/

set_option autoImplicit false

namespace AutomationHub.Foundation

/-- Where the calls of one signature stand among those of another, and how their replies are read. -/
structure Signature.Embedding (inner outer : Signature) where
  call : inner.Call → outer.Call
  reply : (request : inner.Call) → outer.Reply (call request) → inner.Reply request

/-- The protocol that a program of the inner signature must keep to, for its embedding to keep to one of the outer. -/
def Protocol.pulled {inner outer : Signature} {σ : Type} (protocol : Protocol outer σ)
    (embedding : inner.Embedding outer) : Protocol inner σ where
  permits := fun state request => protocol.permits state (embedding.call request)
  answers := fun state request reply after =>
    ∃ answer, embedding.reply request answer = reply ∧ protocol.answers state (embedding.call request) answer after

namespace Program

variable {inner outer : Signature} {σ ε α β : Type}

def embed (embedding : inner.Embedding outer) : Program inner ε α → Program outer ε α
  | .done value => .done value
  | .raised error => .raised error
  | .call request next =>
      .call (embedding.call request) fun answer => (next (embedding.reply request answer)).embed embedding

variable {embedding : inner.Embedding outer}

theorem ensures_embed {protocol : Protocol outer σ} {post : Except ε α → σ → Prop} {state : σ}
    {program : Program inner ε α} (ensured : program.Ensures (protocol.pulled embedding) post state) :
    (program.embed embedding).Ensures protocol post state := by
  induction program generalizing state with
  | done value => exact ensured
  | raised error => exact ensured
  | call request next recurse =>
      exact ⟨ensured.1, fun answer after answered => recurse _ (ensured.2 _ _ ⟨answer, rfl, answered⟩)⟩

theorem only_embed {allowed : outer.Call → Prop} {program : Program inner ε α}
    (only : program.Only fun request => allowed (embedding.call request)) :
    (program.embed embedding).Only allowed := by
  induction program with
  | done value => trivial
  | raised error => trivial
  | call request next recurse => exact ⟨only.1, fun answer => recurse _ (only.2 _)⟩

end Program

end AutomationHub.Foundation
