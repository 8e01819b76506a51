/-
# How stable the states of a controlled session are

A candidate of the controller makes the runtime await a transport selection, whatever its state is. So it
revives a runtime that has been closed or has failed, and one that comes while the controller's key exchange or
key confirmation is awaited makes the runtime refuse them (`late_candidates`).

A runtime that is closed or has failed stays so and begins no exchange, if the controller sends it no authorized
candidate. Once a runtime is ready, its answer to a key message depends on the message alone, whatever candidates
have come, until another exchange is begun (`controlled_states_stable`).
-/
import Rctl.Desktop.VerifiedSessions

namespace Rctl.Desktop

open Result StateRun ControlledSignalRuntime

variable {V : Type} {W : Wire V} {P : Primitives} {accepted r : ControlledSignalRuntime}

def Terminal (r : ControlledSignalRuntime) : Prop := r.state = .closed ∨ r.state = .failed

/-- No key message is awaited. -/
def Over (r : ControlledSignalRuntime) : Prop :=
  r.state ≠ .awaitingPeerKeyExchange ∧ r.state ≠ .awaitingPeerKeyConfirm

/-- The answer to a key message that is not awaited. -/
def refusal (r : ControlledSignalRuntime) (message : SessionPeerMessage V) (now : UInt64) :
    ControlledSignalRuntimeError :=
  if r.sessionExpiresAtEpochMillis ≤ now then .sessionExpired
  else match r.validatePeerMessage message with
  | .error e => e
  | .ok () => if message.kind = .keyConfirm then .invalidState else .transportSelectionRequired

theorem keyMessage_refused (ho : Over r) (msg : SessionPeerMessage V)
    (hk : msg.kind ≠ .connectionCandidate) (now : UInt64) :
    (runtimeStep W P r (.handlePeerMessage msg now)).1 = .error (refusal r msg now) := by
  simp only [runtimeStep, handlePeerMessage, refusal]
  split
  · rfl
  cases r.validatePeerMessage msg with
  | error => rfl
  | ok =>
    cases hki : msg.kind with
    | connectionCandidate => exact absurd hki hk
    | keyExchangeMessage => simp [handleKeyExchange, ho.1, respond, Except.map]
    | keyConfirm => simp [handleKeyConfirm, ho.2, respond, Except.map]

section Conditions

variable (W : Wire V) (P : Primitives)

/-- A candidate that the controller sends in time, with its authorization. -/
def OffersCandidate (r : ControlledSignalRuntime) (call : RuntimeCall V) : Prop :=
  ∃ message now payload, call = .handlePeerMessage message now ∧ FromController r message now ∧
    message.kind = .connectionCandidate ∧ W.candidatePayload message.payload = some payload ∧ Authorized P r payload now

/-- An exchange for a selected path, with keys that make a handshake. -/
def StartsExchange (r : ControlledSignalRuntime) (call : RuntimeCall V) : Prop :=
  ∃ config path identity key signed, call = .beginKeyExchange config path identity key ∧
    r.selects config path = true ∧ signedHandshake P config identity key = .ok signed

end Conditions

/-- What a call does to a runtime that awaits no key message. -/
theorem over_step (hs : SameSession accepted r) (ho : Over r) (call : RuntimeCall V) :
    ¬ Terminal r ∧ StartsExchange P r call ∨
      ¬ BeginsExchange (entry (runtimeStep W P) r call) ∧ SameSession accepted (runtimeStep W P r call).2 ∧
        Over (runtimeStep W P r call).2 ∧
        (Terminal r → Terminal (runtimeStep W P r call).2 ∨ OffersCandidate W P r call) := by
  have hsp := runtimeStep_spec (W := W) (P := P) (r := r) call
  simp only [BeginsExchange, entry]
  generalize hout : (runtimeStep W P r call).1 = out at hsp ⊢
  generalize (runtimeStep W P r call).2 = r' at hsp ⊢
  cases hsp with
  | refused | nothing | keySet | taken => exact .inr ⟨by simp, hs.update, ho, .inl⟩
  | failed => exact .inr ⟨by simp, hs.update, by simp [Over, fail], fun _ => .inl (.inr rfl)⟩
  | closed => exact .inr ⟨by simp, hs.update, by simp [Over, close], fun _ => .inl (.inl rfl)⟩
  | begun hse hg =>
    refine .inl ⟨?_, _, _, _, _, _, rfl, hse, hg⟩
    simp only [selects] at hse
    rintro (h | h) <;> simp [h] at hse
  | candidate hfm hk hrd haz =>
    exact .inr ⟨by simp, hs.update, by simp [Over], fun _ => .inr ⟨_, _, _, rfl, hfm, hk, hrd, haz⟩⟩
  | @exchanged message now _ _ _ _ _ _ hk =>
    cases hout.symm.trans (keyMessage_refused ho message (by simp [hk]) now)
  | confirmed _ _ _ hst => exact absurd hst ho.2

/-- **States of a controlled session.** A runtime that is closed or has failed stays so and begins no exchange, if the
controller sends it no authorized candidate. A runtime that is ready answers every key message in the same way,
whatever candidates come, until an exchange is begun for a selected path. -/
theorem controlled_states_stable (W : Wire V) (P : Primitives) (r : ControlledSignalRuntime)
    (calls : List (RuntimeCall V)) :
    ((∀ e ∈ trace (runtimeStep W P) r calls, Terminal e.pre → ¬ OffersCandidate W P e.pre e.call) →
      (trace (runtimeStep W P) r calls).Pairwise fun e e' =>
        Terminal e.post → Terminal e'.post ∧ ¬ BeginsExchange e') ∧
    (r.state = .ready → (∀ e ∈ trace (runtimeStep W P) r calls, ¬ StartsExchange P e.pre e.call) →
      ∀ e ∈ trace (runtimeStep W P) r calls, ∀ message now, e.call = .handlePeerMessage message now →
        message.kind ≠ .connectionCandidate → e.out = .error (refusal r message now)) := by
  refine ⟨fun hcs => ?_, fun hr hcs e he message now hcl hk => ?_⟩
  · have hst (s : ControlledSignalRuntime) (c : RuntimeCall V) (hc : Terminal s → ¬ OffersCandidate W P s c)
        (hs : Terminal s) : Terminal (runtimeStep W P s c).2 ∧ ¬ BeginsExchange (entry (runtimeStep W P) s c) := by
      have hov : Over s := by rcases hs with hs | hs <;> simp [Over, hs]
      rcases over_step ⟨rfl, rfl, rfl, rfl, rfl⟩ hov c with ⟨h, -⟩ | ⟨hb, -, -, h⟩
      · exact absurd hs h
      · exact ⟨(h hs).resolve_right (hc hs), hb⟩
    refine pairwise_trace (runtimeStep W P) (I := fun _ => True)
      (Q := fun e => Terminal e.pre → ¬ OffersCandidate W P e.pre e.call) (fun _ _ _ => id)
      (fun s c cs _ _ hQ e he ht => ?_) calls trivial hcs
    obtain ⟨heq, hp, hpo⟩ := forall_trace_of (runtimeStep W P)
      (Q := fun e => Terminal e.pre → ¬ OffersCandidate W P e.pre e.call)
      (fun s c hc hs => (hst s c hc hs).1) cs ht hQ e he
    have hb := (hst _ _ (hQ e he) hp).2
    rw [← heq] at hb
    exact ⟨hpo, hb⟩
  · have hst (s : ControlledSignalRuntime) (c : RuntimeCall V) (hc : ¬ StartsExchange P s c)
        (hs : SameSession r s ∧ Over s) : SameSession r (runtimeStep W P s c).2 ∧ Over (runtimeStep W P s c).2 := by
      rcases over_step hs.1 hs.2 c with ⟨-, h⟩ | ⟨-, hsm, hov, -⟩
      · exact absurd h hc
      · exact ⟨hsm, hov⟩
    obtain ⟨heq, ⟨hsm, hov⟩, -⟩ := forall_trace_of (runtimeStep W P) (Q := fun e => ¬ StartsExchange P e.pre e.call)
      hst calls ⟨⟨rfl, rfl, rfl, rfl, rfl⟩, by simp [Over, hr]⟩ hcs e he
    rw [heq, hcl]
    refine (keyMessage_refused hov message hk now).trans (congrArg Except.error ?_)
    simp only [refusal, validatePeerMessage, hsm.sessionId, hsm.controllerDeviceId, hsm.expires]

open Sample SessionHandshake in
/-- The controller's messages to a closed runtime, and to a ready one after another candidate. -/
theorem controlled_states_stable_exchange :
    ((trace (runtimeStep wire Exchange.primitives) Sample.accepted
      [.close, fromController .keyExchangeMessage 2100, fromController .keyConfirm 2200]).Pairwise fun e e' =>
        Terminal e.post → Terminal e'.post ∧ ¬ BeginsExchange e') ∧
    ∀ e ∈ trace (runtimeStep wire Exchange.primitives)
        (final (runtimeStep wire Exchange.primitives) Sample.accepted exchange)
        [fromController .connectionCandidate 2300, fromController .keyConfirm 2400],
      ∀ message now, e.call = .handlePeerMessage message now → message.kind ≠ .connectionCandidate →
        e.out = .error (refusal
          (final (runtimeStep wire Exchange.primitives) Sample.accepted exchange) message now) := by
  refine ⟨(controlled_states_stable _ _ _ _).1 ?_, (controlled_states_stable _ _ _ _).2 (by decide +kernel) ?_⟩
  · simp [OffersCandidate, fromController]
  · simp [StartsExchange, fromController]

open Sample SessionHandshake in
/-- An exchange succeeds after a close, and a candidate after its begin makes it fail. -/
theorem late_candidates :
    ((trace (runtimeStep wire Exchange.primitives) Sample.accepted (.close :: exchange)).map fun e =>
      (e.out.isOk, e.post.state)) =
      [(true, .closed), (true, .awaitingTransportSelection), (true, .awaitingTransportSelection),
        (true, .awaitingPeerKeyExchange), (true, .awaitingPeerKeyConfirm), (true, .ready)] ∧
    ((trace (runtimeStep wire Exchange.primitives) Sample.accepted (exchange.take 3 ++
      fromController .connectionCandidate 1000 :: exchange.drop 3)).map fun e => (e.out.isOk, e.post.state)) =
      [(true, .awaitingTransportSelection), (true, .awaitingTransportSelection), (true, .awaitingPeerKeyExchange),
        (true, .awaitingTransportSelection), (false, .awaitingTransportSelection),
        (false, .awaitingTransportSelection)] := by
  decide +kernel

end Rctl.Desktop
