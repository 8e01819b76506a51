/-
# Encrypted payloads and the replay window

`remote-crypto/src/e2ee.rs`: the nonce of a message is a direction prefix, the
channel and 48 bits of the sequence number; its associated data is the header,
the permissions digest and the direction; a receiver keeps, per channel, the
highest sequence number it accepted and a bitmap of the 64 up to it.
-/
import Rctl.Lib.Word
import Rctl.Protocol.Header
import Rctl.Protocol.Security
import Rctl.Crypto.Identity

namespace Rctl

open ByteString Result Word

def AUTH_TAG_LEN : ℕ := 16
def REPLAY_WINDOW_BITS : UInt64 := 64

/-! ### Nonces and associated data -/

def buildNonce (directionNoncePrefix : ByteArr 4) (channelId : ChannelId) (sequence : UInt64) :
    Except CryptoError (ByteArr 12) :=
  if sequence > MAX_SECURE_SEQUENCE then .error .sequenceExhausted
  else .ok ⟨(directionNoncePrefix.toList ++ toBeBytes 2 channelId.code.toNat ++
    (toBeBytes 8 sequence.toNat).drop 2).toArray, by simp⟩

variable {p : ByteArr 4} {channel : ChannelId} {sequence : UInt64} {n : ByteArr 12}

theorem buildNonce_eq_ok :
    buildNonce p channel sequence = .ok n ↔ sequence ≤ MAX_SECURE_SEQUENCE ∧ n.toList = p.toList ++ toBeBytes 2
      channel.code.toNat ++ toBeBytes 6 sequence.toNat := by
  have hd := drop_toBeBytes 2 6 sequence.toNat
  unfold buildNonce
  split_ifs with h
  · simp [UInt64.not_le.mpr h]
  · rw [Except.ok.injEq, ← Vector.toList_inj, Vector.toList_mk, hd]
    simp [UInt64.not_lt.mp h, eq_comm]

/-- **Distinct channels or sequence numbers give distinct nonces**: the two bytes
of the sequence number that are cut off are zero. -/
theorem buildNonce_inj {channel chan' : ChannelId} {sequence sequence' : UInt64}
    (h : buildNonce p channel sequence = .ok n) (h' : buildNonce p chan' sequence' = .ok n) :
    channel = chan' ∧ sequence = sequence' := by
  obtain ⟨hs, hn⟩ := buildNonce_eq_ok.mp h
  obtain ⟨hs', hn'⟩ := buildNonce_eq_ok.mp h'
  have hlt : ∀ {s : UInt64}, s ≤ MAX_SECURE_SEQUENCE → s.toNat < 256 ^ 6 := by
    intro s hs
    have hx : MAX_SECURE_SEQUENCE.toNat = 2 ^ 48 - 1 := by decide
    have := UInt64.le_iff_toNat_le.mp hs
    omega
  rw [hn, List.append_assoc, List.append_assoc] at hn'
  obtain ⟨hc, hq⟩ := List.append_inj (List.append_cancel_left hn') (by simp)
  exact ⟨ChannelId.code_inj (u16Bytes_inj hc), UInt64.toNat_inj.mp (toBeBytes_inj (hlt hs) (hlt hs') hq)⟩

def buildAad (header : MessageHeader) (permissionsDigest : Digest) (direction : TrafficDirection) :
    Bytes :=
  encodeHeader header ++ permissionsDigest.toList ++ utf8 direction.asStr

/-- The associated data determine the header. -/
theorem buildAad_inj {h h' : MessageHeader} {d d' : Digest} {dir dir' : TrafficDirection}
    (he : buildAad h d dir = buildAad h' d' dir') : h = h' := by
  simp only [buildAad, List.append_assoc] at he
  exact encodeHeader_inj (List.append_inj he (by rw [length_encodeHeader, length_encodeHeader])).1

/-! ### The replay window -/

structure ReplayWindow where
  highest : Option UInt64
  bitmap : UInt64
  deriving DecidableEq

namespace ReplayWindow

def default : ReplayWindow := ⟨none, 0⟩

def check (w : ReplayWindow) (sequence : UInt64) : Except CryptoError Unit :=
  match w.highest with
  | none => .ok ()
  | some highest =>
    if sequence > highest then .ok ()
    else if highest - sequence ≥ REPLAY_WINDOW_BITS then .error .messageTooOld
    else if hasBit w.bitmap (highest - sequence) then .error .replayDetected
    else .ok ()

def record (w : ReplayWindow) (sequence : UInt64) : ReplayWindow :=
  match w.highest with
  | none => ⟨some sequence, 1⟩
  | some highest =>
    if sequence > highest then
      let shift := sequence - highest
      ⟨some sequence, if shift ≥ REPLAY_WINDOW_BITS then 1 else (w.bitmap <<< shift) ||| 1⟩
    else ⟨some highest, w.bitmap ||| ((1 : UInt64) <<< (highest - sequence))⟩

variable {w : ReplayWindow}

/-- A number is accepted if it is above the highest, or in the window with its
bit clear. -/
theorem check_eq_ok : w.check sequence = .ok () ↔ ∀ highest, w.highest = some highest →
      highest < sequence ∨ (highest - sequence < 64 ∧ hasBit w.bitmap (highest - sequence) = false) := by
  unfold check
  cases hh : w.highest with
  | none => simp
  | some highest =>
    simp only [Option.some.injEq, forall_eq', REPLAY_WINDOW_BITS]
    by_cases h1 : highest < sequence
    · simp [h1]
    · by_cases h2 : highest - sequence < 64
      · cases hb : hasBit w.bitmap (highest - sequence) <;> simp [h2, UInt64.not_le.mpr h2]
      · simp [UInt64.not_lt.mp h2]

theorem check_record_self (hok : w.check sequence = .ok ()) : (w.record sequence).check sequence ≠ .ok () := by
  rw [check_eq_ok] at hok
  rw [ne_eq, check_eq_ok]
  intro h
  unfold record at h
  cases hw : w.highest with
  | none => simp [hw, hasBit_one_zero] at h
  | some highest =>
    by_cases hlt : highest < sequence
    · -- the new bit is bit 0 of the moved window
      have h0 : hasBit (if sequence - highest ≥ REPLAY_WINDOW_BITS then 1
          else w.bitmap <<< (sequence - highest) ||| 1) 0 = true := by
        split_ifs with hs
        · exact hasBit_one_zero
        · rw [hasBit_shiftLeft_or_one (by decide) (UInt64.not_le.mp hs)]
          simp
      simp [hw, hlt, h0] at h
    · obtain h1 | ⟨h1, -⟩ := hok highest hw
      · exact hlt h1
      · have hself : hasBit (w.bitmap ||| 1 <<< (highest - sequence)) (highest - sequence) = true := by
          rw [hasBit_or_bit h1 h1]
          simp
        simp [hw, hlt, hself] at h

theorem check_record_of_refused {old : UInt64} (hok : w.check sequence = .ok ())
    (hold : w.check old ≠ .ok ()) : (w.record sequence).check old ≠ .ok () := by
  rw [check_eq_ok] at hok
  rw [ne_eq, check_eq_ok] at hold ⊢
  intro h
  apply hold
  intro highest hw
  have hok := hok highest hw
  unfold record at h
  by_cases hlt : highest < sequence
  · -- the window moves up: the distance of `old` grows by the shift
    simp only [hw, hlt, ite_true, Option.some.injEq, forall_eq'] at h
    by_cases hle : highest < old
    · exact .inl hle
    · have hle' := UInt64.le_iff_toNat_le.mp (UInt64.not_lt.mp hle)
      have hlt' := UInt64.lt_iff_toNat_lt.mp hlt
      have hd : (sequence - old).toNat = sequence.toNat - old.toNat :=
        UInt64.toNat_sub_of_le _ _ (UInt64.le_iff_toNat_le.mpr (by omega))
      have hs : (sequence - highest).toNat = sequence.toNat - highest.toNat :=
        UInt64.toNat_sub_of_le _ _ (UInt64.le_iff_toNat_le.mpr (by omega))
      have hh : (highest - old).toNat = highest.toNat - old.toNat :=
        UInt64.toNat_sub_of_le _ _ (UInt64.not_lt.mp hle)
      obtain h1 | ⟨h1, h2⟩ := h
      · exact absurd (UInt64.lt_iff_toNat_lt.mp h1) (by omega)
      · have h1' : (sequence - old).toNat < 64 := h1
        have hshift : sequence - highest < REPLAY_WINDOW_BITS :=
          UInt64.lt_iff_toNat_lt.mpr (by show _ < 64; omega)
        obtain ⟨hge, hsub⟩ := sub_sub_sub (UInt64.not_lt.mp hle) (UInt64.le_of_lt hlt)
        rw [if_neg (UInt64.not_le.mpr hshift), hasBit_shiftLeft_or_one h1 hshift, hsub] at h2
        simp only [hge, Bool.or_eq_false_iff] at h2
        exact .inr ⟨UInt64.lt_iff_toNat_lt.mpr (by show _ < 64; omega), h2.1⟩
  · simp only [hw, hlt, ite_false, Option.some.injEq, forall_eq'] at h
    obtain h1 | ⟨h1, h2⟩ := h
    · exact .inl h1
    · obtain h3 | ⟨h3, -⟩ := hok
      · exact absurd h3 hlt
      · rw [hasBit_or_bit h1 h3, Bool.or_eq_false_iff] at h2
        exact .inr ⟨h1, h2.1⟩

end ReplayWindow

structure ReplayGuard where
  channels : ChannelId → ReplayWindow

namespace ReplayGuard

def default : ReplayGuard := ⟨fun _ => ReplayWindow.default⟩

def check (g : ReplayGuard) (channel : ChannelId) (sequence : UInt64) : Except CryptoError Unit :=
  if sequence > MAX_SECURE_SEQUENCE then .error .sequenceExhausted
  else (g.channels channel).check sequence

def record (g : ReplayGuard) (channel : ChannelId) (sequence : UInt64) : ReplayGuard :=
  ⟨Function.update g.channels channel ((g.channels channel).record sequence)⟩

variable {g : ReplayGuard}

theorem check_eq_ok : g.check channel sequence = .ok () ↔
      sequence ≤ MAX_SECURE_SEQUENCE ∧ (g.channels channel).check sequence = .ok () := by
  unfold check
  split_ifs with h
  · simp [UInt64.not_le.mpr h]
  · simp [UInt64.not_lt.mp h]

theorem check_record_self (hok : g.check channel sequence = .ok ()) :
    (g.record channel sequence).check channel sequence ≠ .ok () := by
  rw [ne_eq, check_eq_ok, not_and]
  intro _
  simpa [record] using ReplayWindow.check_record_self (check_eq_ok.mp hok).2

/-- What is refused on some channel stays refused when another number is
recorded on any. -/
theorem check_record_of_refused {c : ChannelId} {old : UInt64} (hok : g.check channel sequence = .ok ())
    (hd : g.check c old ≠ .ok ()) : (g.record channel sequence).check c old ≠ .ok () := by
  rw [ne_eq, check_eq_ok, not_and] at hd ⊢
  intro hx
  by_cases hc : c = channel
  · subst hc
    simpa [record] using ReplayWindow.check_record_of_refused (check_eq_ok.mp hok).2 (hd hx)
  · simpa [record, hc] using hd hx

end ReplayGuard

/-! ### Encryption and decryption -/

section Payload

variable (P : Primitives) (key : ByteArr 32) (directionNoncePrefix : ByteArr 4)
  (permissionsDigest : Digest) (direction : TrafficDirection)

/-- The header as sent, with the length of the ciphertext, and the ciphertext. -/
def encryptPayload (header : MessageHeader) (plaintext : Bytes) :
    Except CryptoError (MessageHeader × Bytes) := do
  header.validateKindChannel.mapError fun _ => .invalidChannel
  ensure (plaintext.length + AUTH_TAG_LEN < 2 ^ 32) .invalidPayloadLength
  let header := { header with payloadLen := UInt32.ofNat (plaintext.length + AUTH_TAG_LEN) }
  let nonce ← buildNonce directionNoncePrefix header.channelId header.sequence
  let aad := buildAad header permissionsDigest direction
  let ciphertext ← okOr (P.aeadEncrypt key nonce aad plaintext) .authenticationFailed
  return (header, ciphertext)

/-- The plaintext and the replay guard after it; a failure leaves the guard as it
was. -/
def decryptPayload (header : MessageHeader) (ciphertext : Bytes) (replayGuard : ReplayGuard) :
    Except CryptoError (Bytes × ReplayGuard) := do
  header.validateKindChannel.mapError fun _ => .invalidChannel
  ensure (header.payloadLen.toNat = ciphertext.length) .invalidPayloadLength
  replayGuard.check header.channelId header.sequence
  let nonce ← buildNonce directionNoncePrefix header.channelId header.sequence
  let aad := buildAad header permissionsDigest direction
  let plaintext ← okOr (P.aeadDecrypt key nonce aad ciphertext) .authenticationFailed
  return (plaintext, replayGuard.record header.channelId header.sequence)

variable {P key directionNoncePrefix permissionsDigest direction}

theorem encryptPayload_eq_ok {header sent : MessageHeader} {pt ciphertext : Bytes}
    (h : encryptPayload P key directionNoncePrefix permissionsDigest direction header pt =
      .ok (sent, ciphertext)) : (∃ len, sent = { header with payloadLen := len }) ∧
    ∃ nc, buildNonce directionNoncePrefix sent.channelId sent.sequence = .ok nc ∧
      P.aeadEncrypt key nc (buildAad sent permissionsDigest direction) pt =
        some ciphertext := by
  simp only [encryptPayload, bind_eq_ok, okOr_eq_ok] at h
  obtain ⟨_, _, _, _, nc, hno, c, hc, rfl, rfl⟩ := h
  exact ⟨⟨_, rfl⟩, nc, hno, hc⟩

theorem decryptPayload_eq_ok {header : MessageHeader} {ct plaintext : Bytes} {g g' : ReplayGuard}
    (h : decryptPayload P key directionNoncePrefix permissionsDigest direction header ct g =
      .ok (plaintext, g')) : g.check header.channelId header.sequence = .ok () ∧
    g' = g.record header.channelId header.sequence ∧
    ∃ nc, buildNonce directionNoncePrefix header.channelId header.sequence = .ok nc ∧
      P.aeadDecrypt key nc (buildAad header permissionsDigest direction) ct = some plaintext := by
  simp only [decryptPayload, bind_eq_ok, okOr_eq_ok] at h
  obtain ⟨_, _, _, _, _, hc, nc, hno, p, hp, rfl, rfl⟩ := h
  exact ⟨hc, rfl, nc, hno, hp⟩

end Payload

end Rctl
