/-
# No nonce is used twice

Each channel's next sequence number only grows, and a successful seal uses it and
moves it past, so along any run of a session the sequence numbers sealed on a
channel strictly increase; with the injectivity of `buildNonce` no two messages
of a session are encrypted under one nonce. A seal or a restore that fails leaves
the session as it was.
-/
import Rctl.Core.SecureSession

namespace Rctl
namespace SecureSession

open ByteString StateRun

def sealedHeader (e : RunEntry) : Option MessageHeader :=
  match e.out with
  | .ok (.sealed header _) => some header
  | _ => none

def sealNonce (e : RunEntry) : Option (ByteArr 12) :=
  (sealedHeader e).bind fun header =>
    (buildNonce (e.pre.keys.noncePrefix e.pre.sendDirection) header.channelId header.sequence).toOption

variable {e : RunEntry} {header : MessageHeader}

theorem sealedHeader_eq_some :
    sealedHeader e = some header ↔ ∃ ct, e.out = .ok (.sealed header ct) := by
  unfold sealedHeader
  split <;> simp_all

/-! ### One step -/

theorem lt_succ_of_le_max {n : UInt64} (h : n ≤ MAX_SECURE_SEQUENCE) : n < n + 1 := by
  have hx : MAX_SECURE_SEQUENCE.toNat = 2 ^ 48 - 1 := by decide
  have := UInt64.le_iff_toNat_le.mp h
  rw [UInt64.lt_iff_toNat_lt, UInt64.toNat_add, UInt64.toNat_one]
  omega

theorem le_update {f : ChannelId → UInt64} {moved : ChannelId} {next : UInt64} (h : f moved ≤ next)
    (channel : ChannelId) : f channel ≤ Function.update f moved next channel := by
  by_cases hc : channel = moved
  · subst hc
    rwa [Function.update_self]
  · rw [Function.update_of_ne hc]
    exact UInt64.le_refl _

section Step

variable {P : Primitives} {s s' : SecureSession} {c : Call}
  {out : Except SecureSessionError Response}

theorem Outcome.sendSequences_le (h : Outcome P s c out s') (channel : ChannelId) :
    s.sendSequences channel ≤ s'.sendSequences channel := by
  cases h with
  | sealed _ _ hx => exact le_update (UInt64.le_of_lt (lt_succ_of_le_max hx)) channel
  | restored _ hge => exact le_update hge channel
  | _ => exact UInt64.le_refl _

theorem Outcome.of_sealed {ciphertext : Bytes} (h : Outcome P s c (.ok (.sealed header ciphertext)) s') :
    header.sequence = s.sendSequences header.channelId ∧ header.sequence ≤ MAX_SECURE_SEQUENCE ∧ s'.sendSequences
      header.channelId = header.sequence + 1 ∧ ∃ pt nc, c = .sealMessage header.kind header.channelId
      header.flags pt ∧ s.Encrypts P header nc pt ciphertext := by
  cases h with
  | sealed _ _ hx hk hc hf _ hs he =>
    subst hk hc hf
    exact ⟨hs, hs ▸ hx, by simp [hs], _, _, rfl, he⟩

theorem Outcome.unchanged_of_error {e : SecureSessionError} (h : Outcome P s c (.error e) s')
    (hc : (∃ kind chan flags pt, c = .sealMessage kind chan flags pt) ∨
      ∃ chan next, c = .restoreSendSequence chan next) : s' = s := by
  obtain ⟨kind, chan, flags, pt, rfl⟩ | ⟨chan, next, rfl⟩ := hc <;> cases h <;> rfl

end Step

/-! ### Whole runs -/

/-- **Along a run the sequence numbers sealed on a channel strictly increase.** -/
theorem sealed_headers_increasing (P : Primitives) (s : SecureSession) (cs : List Call) :
    ((trace (step P) s cs).filterMap sealedHeader).Pairwise
      fun a b => a.channelId = b.channelId → a.sequence < b.sequence := by
  -- a header is spent once its channel's counter is past its number
  refine pairwise_emitted (step P) (I := fun _ => True)
    (S := fun s header => header.sequence < s.sendSequences header.channelId)
    (fun _ _ _ => trivial) ?_ ?_ ?_ cs trivial
  · intro s c header _ hs
    exact UInt64.lt_of_lt_of_le hs ((step_outcome P s c).sendSequences_le header.channelId)
  · intro s c header _ he hs
    obtain ⟨ct, ho⟩ := sealedHeader_eq_some.mp he
    have h := step_outcome P s c
    rw [show (step P s c).1 = _ from ho] at h
    rw [h.of_sealed.1] at hs
    exact UInt64.lt_irrefl _ hs
  · intro s c a b _ he hR
    obtain ⟨ct, ho⟩ := sealedHeader_eq_some.mp he
    have h := step_outcome P s c
    rw [show (step P s c).1 = _ from ho] at h
    obtain ⟨-, hx, hn, -⟩ := h.of_sealed
    rw [Classical.not_imp, UInt64.not_lt] at hR
    rw [← hR.1, hn]
    exact UInt64.lt_of_le_of_lt hR.2 (lt_succ_of_le_max hx)

theorem sealNonce_eq_some {P : Primitives} {s : SecureSession} {cs : List Call} (he : e ∈ trace (step P) s cs)
    {nonce : ByteArr 12} (hn : sealNonce e = some nonce) :
    ∃ header, sealedHeader e = some header ∧ buildNonce (s.keys.noncePrefix s.sendDirection) header.channelId
      header.sequence = .ok nonce := by
  obtain ⟨header, hhd, hno⟩ := Option.bind_eq_some_iff.mp hn
  have hcr := (mem_trace_outcome he).2
  have hks : e.pre.keys = s.keys := congrArg (·.keys) hcr
  have hrl : e.pre.localRole = s.localRole := congrArg (·.localRole) hcr
  refine ⟨header, hhd, ?_⟩
  rw [sendDirection, hks, hrl] at hno
  cases hb : buildNonce (s.keys.noncePrefix s.sendDirection) header.channelId header.sequence with
  | ok =>
    rw [sendDirection] at hb
    rw [hb] at hno
    rw [Option.some.inj hno]
  | error =>
    rw [sendDirection] at hb
    rw [hb] at hno
    cases hno

theorem seal_nonces_nodup (P : Primitives) (s : SecureSession) (cs : List Call) :
    ((trace (step P) s cs).filterMap sealNonce).Nodup := by
  have hi := List.pairwise_filterMap.mp (sealed_headers_increasing P s cs)
  refine List.pairwise_filterMap.mpr (hi.imp_of_mem ?_)
  intro e e' he he' hlt nc hn nc' hn' heq
  subst heq
  obtain ⟨header, hh, hb⟩ := sealNonce_eq_some he hn
  obtain ⟨head', hh', hb'⟩ := sealNonce_eq_some he' hn'
  obtain ⟨hc, hs⟩ := buildNonce_inj hb hb'
  have := hlt header hh head' hh' hc
  rw [hs] at this
  exact UInt64.lt_irrefl _ this

/-- **Nonce uniqueness.** In every run of a session from its creation, a sealed
message has a sequence number of 48 bits and is encrypted under the nonce built
from its header; on each channel the numbers strictly increase; the nonces are
pairwise distinct, as `buildNonce` is injective for a fixed prefix; and a seal or
restore that fails leaves the whole session unchanged. -/
theorem sealed_nonces_unique (P : Primitives) {sessionId : U128} {localRole : SessionRole}
    {permissions : SessionPermissions} {digest : Digest} {path : TransportPath} {pair : U128}
    {relay : Option String} {hash : Digest} {keys : DerivedSessionKeys} {s : SecureSession}
    (hnew : new sessionId localRole permissions digest path pair relay hash keys = .ok s)
    (cs : List Call) :
    (∀ e ∈ trace (step P) s cs, ∀ header ciphertext, e.out = .ok (.sealed header ciphertext) →
      header.sequence.toNat ≤ 2 ^ 48 - 1 ∧
      ∃ plaintext nonce,
        e.call = .sealMessage header.kind header.channelId header.flags plaintext ∧
        buildNonce (keys.noncePrefix (.fromSenderRole localRole)) header.channelId header.sequence =
          .ok nonce ∧
        P.aeadEncrypt (keys.trafficKey (.fromSenderRole localRole)) nonce
          (buildAad header digest (.fromSenderRole localRole)) plaintext = some ciphertext ∧
        sealNonce e = some nonce) ∧
    ((trace (step P) s cs).filterMap sealedHeader).Pairwise
      (fun a b => a.channelId = b.channelId → a.sequence < b.sequence) ∧
    ((trace (step P) s cs).filterMap sealNonce).Nodup ∧
    (∀ p channel channel' sequence sequence' nonce, buildNonce p channel sequence = .ok nonce →
      buildNonce p channel' sequence' = .ok nonce → channel = channel' ∧ sequence = sequence') ∧
    (∀ e ∈ trace (step P) s cs, ∀ error, e.out = .error error →
      ((∃ kind channel flags plaintext, e.call = .sealMessage kind channel flags plaintext) ∨
        ∃ channel next, e.call = .restoreSendSequence channel next) → e.post = e.pre) := by
  refine ⟨?_, sealed_headers_increasing P s cs, seal_nonces_nodup P s cs, fun _ _ _ _ _ _ => buildNonce_inj, ?_⟩
  · intro e he header ciphertext ho
    obtain ⟨h, hcr⟩ := mem_trace_outcome he
    obtain ⟨-, -, hrl, -, hd, hks, -⟩ := asCreated_of_new hnew
    rw [ho] at h
    obtain ⟨-, hx, -, plaintext, nonce, hcl, hno, hen⟩ := h.of_sealed
    have hself : sealNonce e = some nonce := by
      rw [sealNonce, sealedHeader_eq_some.mpr ⟨ciphertext, ho⟩, Option.bind_some, hno]
      rfl
    rw [show e.pre.sendDirection = .fromSenderRole localRole from
        congrArg TrafficDirection.fromSenderRole ((congrArg (·.localRole) hcr).trans hrl),
      show e.pre.keys = keys from (congrArg (·.keys) hcr).trans hks] at hno hen
    rw [show e.pre.permissionsDigest = digest from (congrArg (·.permissionsDigest) hcr).trans hd] at hen
    exact ⟨UInt64.le_iff_toNat_le.mp hx, plaintext, nonce, hcl, hno, hen, hself⟩
  · intro e he error ho hcl
    have h := (mem_trace_outcome he).1
    rw [ho] at h
    exact h.unchanged_of_error hcl

/-- The controller confirms, seals two messages around a failing seal, and may not
go back to a used number. -/
def sealingRun : List Call :=
  [.createLocalKeyConfirm "controller" 2000,
   .verifyPeerKeyConfirm (Sample.confirm .controlled) "controlled" 2200,
   .sealMessage .inputEvent .inputReliable 0 [1, 2, 3],
   .sealMessage .inputEvent .video 0 [1, 2, 3],
   .restoreSendSequence .inputReliable 0,
   .sealMessage .inputEvent .inputReliable 0 [4, 5]]

theorem sealed_nonces_unique_sealingRun :
    Sample.session .controller = .ok (Sample.sides .controller) ∧
      (trace (step Sample.primitives) (Sample.sides .controller) sealingRun).filterMap sealNonce =
        [.ofNat 12 0xe055d26e0001000000000000, .ofNat 12 0xe055d26e0001000000000001] ∧
      ((trace (step Sample.primitives) (Sample.sides .controller) sealingRun).filterMap sealNonce).Nodup :=
  ⟨rfl, by decide +kernel, (sealed_nonces_unique Sample.primitives
    (show Sample.session .controller = .ok (Sample.sides .controller) from rfl) sealingRun).2.2.1⟩

end SecureSession
end Rctl
