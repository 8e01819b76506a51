/-
# Opening a relay once

`RelayOpenReplayGuard` of `remote-transport/src/binding.rs` checks an opening against its allocation and
a snapshot of its authorization, and then the token, the role and the nonce against those it has seen.
No opening is accepted twice, and none after its token has expired. The time of issue is only compared
with the time of expiry, and the difference saturates: a token that is dated in the future passes.
-/
import Rctl.Lib.Run
import Rctl.Transport.Messages

namespace Rctl

open Result StateRun

inductive RelaySessionStatus
  | canConnect
  | connected
  | closed
  deriving DecidableEq

structure RelayAuthorizationSnapshot where
  sessionId : U128
  deviceId : String
  role : SessionRole
  status : RelaySessionStatus
  allowRelay : Bool
  permissionsDigest : Digest
  relayTokenEpoch : UInt64
  allowedRelayNodeIds : List String
  devicePublicKey : ByteArr 32
  devicePublicKeyVersion : UInt64
  expectedDevicePublicKeyVersion : UInt64
  deviceKeyRevoked : Bool
  expiresAtEpochMillis : UInt64

def RELAY_TOKEN_MAX_TTL_MILLIS : UInt64 := 60000

def relayOpenMatchesAllocation (o : RelayOpen) (a : RelayAllocation) : Bool :=
  o.sessionId = a.sessionId && o.deviceId = a.deviceId && o.role = a.role &&
  o.controllerDeviceId = a.controllerDeviceId && o.controlledDeviceId = a.controlledDeviceId &&
  o.relayNodeId = a.relayNodeId && o.transport = a.transport && o.permissionsDigest = a.permissionsDigest &&
  o.relayTokenEpoch = a.relayTokenEpoch && o.issuedAtEpochMillis = a.issuedAtEpochMillis &&
  o.expiresAtEpochMillis = a.expiresAtEpochMillis && o.relayTokenId = a.relayTokenId &&
  o.sessionRelayToken = a.sessionRelayToken

structure RelayOpenReplayGuard where
  seen : List (String × SessionRole × Digest)

structure RelayOpening where
  relayOpen : RelayOpen
  allocation : RelayAllocation
  authorization : RelayAuthorizationSnapshot
  tokenSignatureValid : Bool
  nowEpochMillis : UInt64

/-- What the guard remembers of an opening. -/
def RelayOpening.key (c : RelayOpening) : String × SessionRole × Digest :=
  (c.relayOpen.relayTokenId, c.relayOpen.role, c.relayOpen.relayOpenNonce)

namespace RelayOpenReplayGuard

variable (P : Primitives)

def check (c : RelayOpening) : Except BindingError Unit := do
  let { relayOpen, allocation, authorization, tokenSignatureValid, nowEpochMillis } := c
  ensure tokenSignatureValid .tokenSignatureInvalid
  ensure (nowEpochMillis ≤ authorization.expiresAtEpochMillis) .authorizationExpired
  ensure (authorization.status ≠ .closed) .sessionClosed
  ensure authorization.allowRelay .relayNotAllowed
  ensure (!authorization.deviceKeyRevoked) .deviceKeyRevoked
  ensure (authorization.devicePublicKeyVersion = authorization.expectedDevicePublicKeyVersion) .deviceKeyVersionMismatch
  ensure (nowEpochMillis ≤ relayOpen.expiresAtEpochMillis) .tokenExpired
  ensure (saturatingSub relayOpen.expiresAtEpochMillis relayOpen.issuedAtEpochMillis ≤ RELAY_TOKEN_MAX_TTL_MILLIS)
    .tokenTtlExceeded
  ensure (authorization.allowedRelayNodeIds.contains relayOpen.relayNodeId) .relayNodeNotAllowed
  ensure (relayOpen.sessionId = authorization.sessionId && relayOpen.deviceId = authorization.deviceId &&
    relayOpen.role = authorization.role) .deviceMismatch
  ensure (relayOpen.permissionsDigest = authorization.permissionsDigest) .permissionsMismatch
  ensure (relayOpen.relayTokenEpoch = authorization.relayTokenEpoch) .relayEpochMismatch
  ensure (relayOpenMatchesAllocation relayOpen allocation) .tokenMismatch
  let expectedBinding ← relayTokenBindingHash P allocation
  ensure (expectedBinding = relayOpen.tokenBindingHash && expectedBinding = allocation.tokenBindingHash)
    .tokenBindingMismatch
  let signature ← okOr (toByteArr 64 relayOpen.deviceSignature) .deviceSignatureInvalid
  let canonical ← relayOpenCanonicalBytes relayOpen
  (verifyCanonicalSignature P authorization.devicePublicKey canonical signature).mapError
    fun _ => .deviceSignatureInvalid

def validate (guard : RelayOpenReplayGuard) (c : RelayOpening) : Except BindingError Unit × RelayOpenReplayGuard :=
  match check P c with
  | .error e => (.error e, guard)
  | .ok () =>
    if guard.seen.contains c.key then (.error .nonceReplay, guard) else (.ok (), ⟨c.key :: guard.seen⟩)

def acceptedKey (e : Entry RelayOpenReplayGuard RelayOpening (Except BindingError Unit)) :
    Option (String × SessionRole × Digest) :=
  if e.out = .ok () then some e.call.key else none

/-- A call is rejected and changes nothing, or is accepted before the expiry and remembered. -/
theorem validate_cases (guard : RelayOpenReplayGuard) (c : RelayOpening) :
    ((validate P guard c).1 ≠ .ok () ∧ (validate P guard c).2 = guard) ∨
      (validate P guard c = (.ok (), ⟨c.key :: guard.seen⟩) ∧ c.key ∉ guard.seen ∧
        c.nowEpochMillis ≤ c.relayOpen.expiresAtEpochMillis ∧ c.relayOpen.expiresAtEpochMillis.toNat ≤
          c.relayOpen.issuedAtEpochMillis.toNat + RELAY_TOKEN_MAX_TTL_MILLIS.toNat) := by
  unfold validate
  split
  · exact .inl ⟨nofun, rfl⟩
  · rename_i hc
    split_ifs with hn
    · exact .inl ⟨nofun, rfl⟩
    · simp only [check, bind_eq_ok, ensure_eq_ok, decide_eq_true_eq] at hc
      obtain ⟨_, -, _, -, _, -, _, -, _, -, _, -, _, hx, _, httl, -⟩ := hc
      rw [UInt64.le_iff_toNat_le, saturatingSub_toNat] at httl
      exact .inr ⟨rfl, by simpa using hn, hx, by omega⟩

/-- **Openings are single use and bounded in time**, those of a token that is not dated in the future also by
its time of issue. -/
theorem relay_opens_bounded (cs : List RelayOpening) :
    ((trace (validate P) ⟨[]⟩ cs).filterMap acceptedKey).Nodup ∧ ∀ e ∈ trace (validate P) ⟨[]⟩ cs,
      (e.out ≠ .ok () → e.post = e.pre) ∧ (e.out = .ok () →
        e.call.nowEpochMillis ≤ e.call.relayOpen.expiresAtEpochMillis ∧
        e.call.relayOpen.expiresAtEpochMillis.toNat ≤
          e.call.relayOpen.issuedAtEpochMillis.toNat + RELAY_TOKEN_MAX_TTL_MILLIS.toNat ∧
        (e.call.relayOpen.issuedAtEpochMillis ≤ e.call.nowEpochMillis →
          e.call.relayOpen.issuedAtEpochMillis.toNat ≤ e.call.nowEpochMillis.toNat + 5000 ∧
          e.call.relayOpen.issuedAtEpochMillis ≤ e.call.relayOpen.expiresAtEpochMillis)) := by
  constructor
  · refine pairwise_emitted (validate P) (I := fun _ => True) (S := fun guard key => key ∈ guard.seen)
      (fun _ _ => id) (fun guard c key _ hk => ?_) (fun guard c key _ hmi => ?_)
      (fun guard c a key _ hmi hR => ?_) cs trivial
    · rcases validate_cases P guard c with ⟨-, hsm⟩ | ⟨heq, -⟩
      · rwa [hsm]
      · rw [heq]
        exact List.mem_cons_of_mem _ hk
    · obtain ⟨ho, hk⟩ := Option.ite_none_right_eq_some.mp hmi
      cases hk
      rcases validate_cases P guard c with ⟨hno, -⟩ | ⟨-, hn, -⟩
      · exact absurd ho hno
      · exact hn
    · obtain ⟨ho, hk⟩ := Option.ite_none_right_eq_some.mp hmi
      cases hk
      rcases validate_cases P guard c with ⟨hno, -⟩ | ⟨heq, -⟩
      · exact absurd ho hno
      · rw [heq, ← not_not.mp hR]
        exact List.mem_cons_self
  · intro e he
    obtain ⟨before, after, rfl, hen⟩ := mem_trace _ he
    rw [hen]
    rcases validate_cases P (final (validate P) ⟨[]⟩ before) e.call with ⟨hno, hsm⟩ | ⟨heq, -, hx, httl⟩
    · exact ⟨fun _ => hsm, fun ho => absurd ho hno⟩
    · exact ⟨fun hno => absurd (congrArg Prod.fst heq) hno, fun _ => ⟨hx, httl, fun hissued =>
        ⟨Nat.le_add_right_of_le (UInt64.le_iff_toNat_le.mp hissued), UInt64.le_trans hissued hx⟩⟩⟩

/-! ### Tokens dated in the future -/

namespace Sample

def primitives : Primitives :=
  { CanonicalMessage.constantPrimitives with ed25519Key := fun _ => true, ed25519Verify := fun _ _ _ => true }

/-- An opening of a token for the time from `issuedAt` to `expiresAt`. -/
def opening (issuedAt expiresAt : UInt64) (nonce : ℕ) (now : UInt64) : RelayOpening where
  relayOpen := ⟨1, "a", .controller, "a", "b", "node", .quicRelay, ByteArr.ofNat 32 0, 1, issuedAt, expiresAt, "token",
    ByteArr.ofNat 32 nonce, [1], ByteArr.ofNat 32 4, List.replicate 64 0⟩
  allocation := ⟨1, "a", .controller, "a", "b", "node", .quicRelay, "endpoint", ByteArr.ofNat 32 0, 1, issuedAt,
    expiresAt, "token", [1], ByteArr.ofNat 32 4⟩
  authorization := ⟨1, "a", .controller, .canConnect, true, ByteArr.ofNat 32 0, 1, ["node"], ByteArr.ofNat 32 0, 1, 1,
    false, expiresAt⟩
  tokenSignatureValid := true
  nowEpochMillis := now

end Sample

open Sample

theorem relay_opens_bounded_sample :
    (trace (validate primitives) ⟨[]⟩ [opening 0 60000 1 5, opening 0 60000 1 6]).map Entry.out =
      [.ok (), .error .nonceReplay] ∧
    ((trace (validate primitives) ⟨[]⟩ [opening 0 60000 1 5, opening 0 60000 1 6]).filterMap acceptedKey).Nodup :=
  ⟨by decide +kernel, (relay_opens_bounded primitives _).1⟩

/-- A token that is issued long after it expires opens the relay for as long as it has not expired. -/
theorem future_token_accepted :
    (trace (validate primitives) ⟨[]⟩ [opening 20000000 10000000 1 0, opening 20000000 10000000 2 10000000]).map
      Entry.out = [.ok (), .ok ()] ∧ RELAY_TOKEN_MAX_TTL_MILLIS < 10000000 := by
  decide +kernel

end RelayOpenReplayGuard

end Rctl
