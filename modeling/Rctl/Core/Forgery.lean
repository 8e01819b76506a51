/-
# Packets that are refused

`open` checks the replay window, decrypts, and only then records the number of the packet. A
packet that it refuses leaves the session as it was, the one exception being a packet that
decrypts and is of a kind the permissions do not allow (`openMessage_unchanged`).

A packet is forged if the other side did not seal it (`forged`). Where of the packets that a session
is given only those decrypt that the other side encrypted (`Authentic`), a forged packet never
decrypts, so whatever else the session does, it does as if the forged packets had not come.
-/
import Rctl.Core.Delivery

namespace Rctl
namespace SecureSession

open ByteString Result StateRun

variable {P : Primitives} {header : MessageHeader} {ciphertext : Bytes}

section Open

variable {s : SecureSession} {e : SecureSessionError}

theorem ensureReady_error (h : s.ensureReady = .error e) : e ≠ .permissionDenied := by
  have hp : Post s.ensureReady (· ≠ .permissionDenied) fun _ => _ :=
    post_bind (post_ensure fun _ => by simp) fun _ _ => post_ensure fun _ => by simp
  rw [h] at hp
  exact hp

/-- The permission error is raised after the packet was decrypted, any other error before
anything was changed. -/
theorem openMessage_error (h : (s.openMessage P header ciphertext).1 = .error e) :
    (e = .permissionDenied ∧ ∃ nc pt, s.Decrypts P header nc ciphertext pt) ∨
      (e ≠ .permissionDenied ∧ (s.openMessage P header ciphertext).2 = s) := by
  unfold openMessage at h ⊢
  cases hr : s.ensureReady with
  | error =>
    simp only [hr, bind, Except.bind] at h ⊢
    cases h
    exact .inr ⟨ensureReady_error hr, trivial⟩
  | ok =>
    by_cases hs : header.sessionId = s.sessionId
    · cases hd : decryptPayload P (s.keys.trafficKey s.receiveDirection) (s.keys.noncePrefix s.receiveDirection)
          s.permissionsDigest s.receiveDirection header ciphertext s.receiveReplayGuard with
      | error =>
        simp only [hr, hs, hd, ensure, decide_true, if_true, bind, Except.bind, Except.mapError] at h ⊢
        cases h
        exact .inr ⟨by simp, trivial⟩
      | ok opened =>
        simp only [hr, hs, hd, bind, Except.bind, Except.mapError] at h ⊢
        obtain ⟨-, -, nc, hdecrypts⟩ := decryptPayload_eq_ok hd
        refine .inl ⟨?_, nc, opened.1, hdecrypts⟩
        cases hal : s.allowed header.kind with
        | true => simp [authorize, ensure, hal, Except.map] at h
        | false =>
          simp only [authorize, hal] at h
          cases h
          rfl
    · simp only [hr, hs, ensure, decide_false, Bool.false_eq_true, if_false, bind, Except.bind] at h ⊢
      cases h
      exact .inr ⟨by simp, trivial⟩

theorem openMessage_unchanged (h : (s.openMessage P header ciphertext).1 = .error e)
    (he : e ≠ .permissionDenied) : (s.openMessage P header ciphertext).2 = s := by
  obtain ⟨rfl, -⟩ | ⟨-, hs⟩ := openMessage_error h
  · exact absurd rfl he
  · exact hs

/-- A packet that does not decrypt changes nothing. -/
theorem openMessage_of_not_decrypts (h : ∀ nc pt, ¬ s.Decrypts P header nc ciphertext pt) :
    (s.openMessage P header ciphertext).2 = s := by
  have ho := openMessage_outcome (P := P) (s := s) header ciphertext
  cases hout : (s.openMessage P header ciphertext).1 with
  | ok pt =>
    have hs : (step P s (.openMessage header ciphertext)).1 = .ok (.opened pt) :=
      congrArg (Except.map Response.opened) hout
    rw [hs] at ho
    generalize (step P s (.openMessage header ciphertext)).2 = s' at ho
    cases ho with
    | opened _ _ _ _ hd => exact absurd hd (h _ pt)
  | error =>
    obtain ⟨-, nc, pt, hd⟩ | ⟨-, hsm⟩ := openMessage_error hout
    · exact absurd hd (h nc pt)
    · exact hsm

end Open

/-! ### Forged packets -/

/-- The cipher is ideal on the packets that `s` is given by `calls`: one that decrypts was encrypted,
with the key, nonce and associated data it is decrypted with. -/
def Authentic (P : Primitives) (s : SecureSession) (encryptions : List Encryption) (calls : List Call) : Prop :=
  ∀ header ciphertext, .openMessage header ciphertext ∈ calls →
    ∀ nonce plaintext, s.Decrypts P header nonce ciphertext plaintext →
      ∃ u ∈ encryptions, u.key = s.keys.trafficKey s.receiveDirection ∧ u.nonce = nonce ∧
        u.aad = buildAad header s.permissionsDigest s.receiveDirection ∧ u.ciphertext = ciphertext

/-- A packet that is given to `openMessage` and is not among those sent. -/
def forged (sent : List Message) : Call → Bool
  | .openMessage header ciphertext => !sent.any fun m => m.header = header && m.ciphertext = ciphertext
  | _ => false

section Peer

variable {s peer : SecureSession} {sends calls : List Call}

/-- With an ideal cipher only what the other side sealed decrypts. -/
theorem Authentic.not_decrypts (h : Authentic P s ((trace (step P) peer sends).filterMap encryptionOf) calls)
    (hmem : .openMessage header ciphertext ∈ calls)
    (hf : forged ((trace (step P) peer sends).filterMap sealedMessage) (.openMessage header ciphertext) = true)
    (nonce : ByteArr 12) (plaintext : Bytes) : ¬ s.Decrypts P header nonce ciphertext plaintext := by
  intro hd
  obtain ⟨u, hu, -, -, haad, hc⟩ := h header ciphertext hmem nonce plaintext hd
  obtain ⟨e, he, hue⟩ := List.mem_filterMap.mp hu
  obtain ⟨m, hm, huse⟩ := Option.bind_eq_some_iff.mp hue
  obtain ⟨_, -, rfl⟩ := Option.map_eq_some_iff.mp huse
  -- the associated data tell the header
  have hhd : m.header = header := buildAad_inj haad
  have hsealed : m ∈ (trace (step P) peer sends).filterMap sealedMessage := List.mem_filterMap.mpr ⟨e, he, hm⟩
  simp only [forged, Bool.not_eq_true', List.any_eq_false, Bool.and_eq_true, decide_eq_true_eq, not_and] at hf
  exact hf m hsealed hhd hc

/-- What decrypts is told by the parts of a session that never change. -/
theorem decrypts_of_asCreated {s' : SecureSession} (hs : s'.asCreated = s.asCreated) {nonce : ByteArr 12}
    {plaintext : Bytes} (h : s'.Decrypts P header nonce ciphertext plaintext) :
    s.Decrypts P header nonce ciphertext plaintext := by
  have hk : s'.keys = s.keys := congrArg (fun s => s.keys) hs
  have hr : s'.localRole = s.localRole := congrArg (fun s => s.localRole) hs
  have hd : s'.permissionsDigest = s.permissionsDigest := congrArg (fun s => s.permissionsDigest) hs
  unfold Decrypts receiveDirection at h ⊢
  rwa [hk, hr, hd] at h

theorem Authentic.forged_idle (h : Authentic P s ((trace (step P) peer sends).filterMap encryptionOf) calls)
    {s' : SecureSession} (hs : s'.asCreated = s.asCreated) {c : Call} (hc : c ∈ calls)
    (hf : forged ((trace (step P) peer sends).filterMap sealedMessage) c = true) : (step P s' c).2 = s' := by
  cases c with
  | openMessage =>
    exact openMessage_of_not_decrypts fun nonce plaintext hd =>
      h.not_decrypts hc hf nonce plaintext (decrypts_of_asCreated hs hd)
  | _ => cases hf

end Peer

/-- **Refused packets do no harm.** An error of `open` other than the permission error leaves the
session as it was, and the permission error is raised only after the packet was decrypted. With an
ideal cipher, in any run of a session, whatever it is given, the calls other than those with forged
packets are made in the same states, with the same answers, as in the run without the forged
packets. -/
theorem refused_packets_harmless (P : Primitives) (s : SecureSession) :
    (∀ header ciphertext e, (s.openMessage P header ciphertext).1 = .error e →
      (e ≠ .permissionDenied → (s.openMessage P header ciphertext).2 = s) ∧
      (e = .permissionDenied → ∃ nonce plaintext, s.Decrypts P header nonce ciphertext plaintext)) ∧
    ∀ (peer : SecureSession) (sends calls : List Call),
      Authentic P s ((trace (step P) peer sends).filterMap encryptionOf) calls →
        (trace (step P) s calls).filter
            (fun e => !forged ((trace (step P) peer sends).filterMap sealedMessage) e.call) =
          trace (step P) s
            (calls.filter fun c => !forged ((trace (step P) peer sends).filterMap sealedMessage) c) := by
  refine ⟨fun header ciphertext e h => ⟨openMessage_unchanged h, ?_⟩, fun peer sends calls hi => ?_⟩
  · rintro rfl
    obtain ⟨-, hd⟩ | ⟨hne, -⟩ := openMessage_error h
    · exact hd
    · exact absurd rfl hne
  · refine filter_trace (step P) (I := fun s' => s'.asCreated = s.asCreated)
      (fun c => !forged ((trace (step P) peer sends).filterMap sealedMessage) c) ?_ calls ?_ rfl
    · intro s' c hs'
      exact (step_outcome P s' c).asCreated_eq.trans hs'
    · intro c hc s' hs' hk
      exact hi.forged_idle hs' hc (by simpa using hk)

namespace Sample

/-- The controller confirms and seals two messages. -/
def sends : List Call :=
  [.createLocalKeyConfirm "controller" 2000, .verifyPeerKeyConfirm (confirm .controlled) "controlled" 2200,
   .sealMessage .inputEvent .inputReliable 0 [1, 2, 3], .sealMessage .inputEvent .inputReliable 0 [4, 5]]

/-- The controlled side, ready to open. -/
def receiver : SecureSession :=
  final (step primitives) (sides .controlled)
    [.createLocalKeyConfirm "controlled" 2100, .verifyPeerKeyConfirm (confirm .controller) "controller" 2200]

/-- A packet with the largest number and the ciphertext of the first, then the first. -/
def packets : List Call :=
  [.openMessage (inputHeader MAX_SECURE_SEQUENCE 19) inputCiphertext, .openMessage (inputHeader 0 19) inputCiphertext]

theorem authentic_receiver : Authentic primitives receiver
    ((trace (step primitives) (sides .controller) sends).filterMap encryptionOf) packets := by
  have hs : (trace (step primitives) (sides .controller) sends).filterMap encryptionOf = encryptions.take 2 := by
    decide +kernel
  have hr : receiver.keys.trafficKey receiver.receiveDirection = keys.controllerToControlledKey := by
    decide +kernel
  have hk : ∀ u ∈ encryptions, u.key = keys.controllerToControlledKey → u ∈ encryptions.take 2 := by decide +kernel
  rintro header ciphertext - nonce plaintext ⟨-, hd⟩
  rw [hr] at hd ⊢
  obtain ⟨u, hu, -⟩ := Option.map_eq_some_iff.mp hd
  have hmt := List.find?_some hu
  simp only [Bool.and_eq_true, decide_eq_true_eq] at hmt
  obtain ⟨⟨⟨hu₁, hu₂⟩, hu₃⟩, hu₄⟩ := hmt
  rw [hs]
  exact ⟨u, hk u (List.mem_of_find?_eq_some hu) hu₁, hu₁, hu₂, hu₃, hu₄⟩

end Sample

/-- The forged packet is refused, and the first one is opened as if it had come alone. -/
theorem refused_packets_harmless_first :
    (trace (step Sample.primitives) Sample.receiver Sample.packets).map Entry.out =
        [.error (.crypto .authenticationFailed), .ok (.opened [1, 2, 3])] ∧
      (trace (step Sample.primitives) Sample.receiver Sample.packets).filter
          (fun e => !forged ((trace (step Sample.primitives) (Sample.sides .controller) Sample.sends).filterMap
            sealedMessage) e.call) =
        trace (step Sample.primitives) Sample.receiver (Sample.packets.filter fun c =>
          !forged ((trace (step Sample.primitives) (Sample.sides .controller) Sample.sends).filterMap
            sealedMessage) c) :=
  ⟨by decide +kernel, (refused_packets_harmless Sample.primitives Sample.receiver).2 (Sample.sides .controller)
    Sample.sends Sample.packets Sample.authentic_receiver⟩

end SecureSession
end Rctl
