/-
# The sessions a controlled desktop hands out

A secure session leaves `ControlledSignalRuntime` only at the end of a chain of calls: an
authorized candidate of the controller was received, an exchange was begun for a path to that
candidate, the controller's key exchange was verified under the controller's key and then its key
confirmation. The runtime did not fail and was not closed in between, no other exchange was begun
and no other session was handed out (`RuntimeInv`, kept by every call).

Messages that are not the controller's change nothing before the session expires. From then on
every message fails the runtime, whoever it is from (`stranger_fails_runtime`).
-/
import Rctl.Core.Lifecycle
import Rctl.Desktop.SignalRuntime
import Rctl.Lib.Past
import Rctl.Runtime.Agreement

namespace Rctl.Desktop

open ByteString Result StateRun Past ControlledSignalRuntime SessionHandshake

abbrev RuntimeEntry (V : Type) :=
  Entry ControlledSignalRuntime (RuntimeCall V) (Except ControlledSignalRuntimeError (RuntimeResponse V))

variable {V : Type}

/-! ### The calls so far -/

/-- The runtime is failed or closed. -/
def Resets (e : RuntimeEntry V) : Prop := e.post.state = .failed ∨ e.post.state = .closed

def SetsKey (e : RuntimeEntry V) (key : ByteArr 32) : Prop :=
  (∃ deviceId, e.call = .setControllerPublicKey deviceId key) ∧ e.out = .ok .done

def BeginsExchange (e : RuntimeEntry V) : Prop := ∃ action, e.out = .ok (.action action)

def HandsOutSession (e : RuntimeEntry V) : Prop := ∃ session, e.out = .ok (.session (some session))

/-- Neither a failure nor a close, no other exchange and no session handed out. -/
def SameAttempt (e : RuntimeEntry V) : Prop := ¬ Resets e ∧ ¬ BeginsExchange e ∧ ¬ HandsOutSession e

/-- The controller's key is the one that was set last. -/
def KeySet (key : ByteArr 32) (log : List (RuntimeEntry V)) : Prop :=
  Since (SetsKey · key) (fun e => ∀ key, ¬ SetsKey e key) log

section History

variable (W : Wire V) (P : Primitives) (accepted : ControlledSignalRuntime)

def Handles (e : RuntimeEntry V) (kind : SessionSignalMessageKind) (message : SessionPeerMessage V) (now : UInt64) :
    Prop :=
  e.call = .handlePeerMessage message now ∧ FromController accepted message now ∧ message.kind = kind ∧
    ∃ actions, e.out = .ok (.actions actions)

/-- After the last failure or close, the candidate was received in an authorized message. -/
def Received (id : U128) (log : List (RuntimeEntry V)) : Prop :=
  Since (fun e => ∃ message now payload, Handles accepted e .connectionCandidate message now ∧
    W.candidatePayload message.payload = some payload ∧ Authorized P accepted payload now ∧
    payload.candidate.candidateId = id) (fun e => ¬ Resets e) log

def Begun (path : ValidatedCandidatePath) (handshake : SessionHandshake) (log : List (RuntimeEntry V)) : Prop :=
  SinceAt (fun before e => Received W P accepted path.controllerCandidateId before ∧
    ∃ config identity key message, e.call = .beginKeyExchange config path identity key ∧ BeginsExchange e ∧
      e.pre.selects config path = true ∧
      ControlledSignalRuntime.signedHandshake P config identity key = .ok (message, handshake)) SameAttempt log

/-- Then the controller's key exchange was verified under its key. -/
def Exchanged (path : ValidatedCandidatePath) (secure : SecureSession) (log : List (RuntimeEntry V)) : Prop :=
  SinceAt (fun before e => ∃ handshake, Begun W P accepted path handshake before ∧
    ∃ message now peerMessage key ready, Handles accepted e .keyExchangeMessage message now ∧
      W.signedKeyExchange message.payload = some peerMessage ∧ KeySet key before ∧
      (handshake.verifyPeerMessage P peerMessage key now).1 = .ok () ∧
      (handshake.verifyPeerMessage P peerMessage key now).2.finish P now = .ok ready ∧
      ready.secureSession = secure) SameAttempt log

/-- Then its key confirmation was verified. -/
def Confirmed (path : ValidatedCandidatePath) (secure : SecureSession) (log : List (RuntimeEntry V)) : Prop :=
  SinceAt (fun before e => ∃ exchanged, Exchanged W P accepted path exchanged before ∧
    ∃ message now confirm, Handles accepted e .keyConfirm message now ∧
      W.keyConfirm message.payload = some confirm ∧
      exchanged.verifyPeerKeyConfirm P confirm accepted.controllerDeviceId now = (.ok (), secure)) SameAttempt log

structure SameSession (r : ControlledSignalRuntime) : Prop where
  sessionId : r.sessionId = accepted.sessionId
  sessionIdU128 : r.sessionIdU128 = accepted.sessionIdU128
  controllerDeviceId : r.controllerDeviceId = accepted.controllerDeviceId
  controlledDeviceId : r.controlledDeviceId = accepted.controlledDeviceId
  expires : r.sessionExpiresAtEpochMillis = accepted.sessionExpiresAtEpochMillis

/-- What the calls so far were, by what the runtime holds. -/
structure RuntimeInv (log : List (RuntimeEntry V)) (r : ControlledSignalRuntime) : Prop where
  same : SameSession accepted r
  key : ∀ key, r.controllerPublicKey = some key → KeySet key log
  cleared : r.state = .failed ∨ r.state = .closed →
    r.receivedCandidateIds = ∅ ∧ r.handshake = none ∧ r.secureSession = none
  candidates : ∀ id ∈ r.receivedCandidateIds, Received W P accepted id log
  handshake : ∀ h, r.handshake = some h → r.secureSession = none ∧ ∃ path, Begun W P accepted path h log
  exchanged : r.state = .awaitingPeerKeyConfirm → ∀ secure, r.secureSession = some secure →
    ∃ path, Exchanged W P accepted path secure log
  ready : r.state = .ready → ∀ secure, r.secureSession = some secure →
    ∃ path, Confirmed W P accepted path secure log

end History

variable {W : Wire V} {P : Primitives} {log : List (RuntimeEntry V)} {r : ControlledSignalRuntime}
  {config : SessionHandshakeConfig}

section Steps

variable {accepted : ControlledSignalRuntime} {e : RuntimeEntry V} {state : ControlledSignalState}

theorem KeySet.kept {key : ByteArr 32} (h : KeySet key log) (he : ∀ key, ¬ SetsKey e key) : KeySet key (log ++ [e]) :=
  since_snoc.mpr (.inr ⟨he, h⟩)

theorem Received.kept {id : U128} (h : Received W P accepted id log) (he : ¬ Resets e) :
    Received W P accepted id (log ++ [e]) :=
  since_snoc.mpr (.inr ⟨he, h⟩)

theorem SameAttempt.since {Q : List (RuntimeEntry V) → RuntimeEntry V → Prop} (he : SameAttempt e)
    (h : SinceAt Q SameAttempt log) : SinceAt Q SameAttempt (log ++ [e]) :=
  sinceAt_snoc.mpr (.inr ⟨he, h⟩)

theorem SameSession.update (h : SameSession accepted r) {controllerPublicKey : Option (ByteArr 32)}
    {receivedCandidateIds : Finset U128} {handshake : Option SessionHandshake}
    {secureSession : Option SecureSession} : SameSession accepted
      { r with state, controllerPublicKey, receivedCandidateIds, handshake, secureSession } :=
  ⟨h.sessionId, h.sessionIdU128, h.controllerDeviceId, h.controlledDeviceId, h.expires⟩

/-- A call that changes nothing but the controller's key. -/
theorem RuntimeInv.quiet {pk : Option (ByteArr 32)} (hI : RuntimeInv W P accepted log r)
    (hpost : e.post = { r with controllerPublicKey := pk }) (hbegins : ¬ BeginsExchange e)
    (hhands : ¬ HandsOutSession e) (hk : ∀ key, pk = some key → KeySet key (log ++ [e])) :
    RuntimeInv W P accepted (log ++ [e]) { r with controllerPublicKey := pk } := by
  have hsame : SameSession accepted { r with controllerPublicKey := pk } := hI.same.update
  by_cases hr : Resets e
  · -- the runtime was failed or closed before: it holds nothing
    have hstate : r.state = .failed ∨ r.state = .closed := by
      rw [Resets, hpost] at hr
      exact hr
    obtain ⟨hids, hhandshake, hsecure⟩ := hI.cleared hstate
    refine ⟨hsame, hk, fun _ => ⟨hids, hhandshake, hsecure⟩, fun id hid => ?_, fun h hh => ?_, fun _ s hs => ?_,
      fun _ s hs => ?_⟩
    · simp [hids] at hid
    · cases hhandshake.symm.trans hh
    · cases hsecure.symm.trans hs
    · cases hsecure.symm.trans hs
  · have he : SameAttempt e := ⟨hr, hbegins, hhands⟩
    refine ⟨hsame, hk, hI.cleared, fun id hid => (hI.candidates id hid).kept hr, fun h hh => ?_,
      fun hstate s hs => ?_, fun hstate s hs => ?_⟩
    · obtain ⟨hnone, path, hb⟩ := hI.handshake h hh
      exact ⟨hnone, path, he.since hb⟩
    · obtain ⟨path, hexchanged⟩ := hI.exchanged hstate s hs
      exact ⟨path, he.since hexchanged⟩
    · obtain ⟨path, hconfirmed⟩ := hI.ready hstate s hs
      exact ⟨path, he.since hconfirmed⟩

theorem RuntimeInv.reset (hI : RuntimeInv W P accepted log r) (hk : ∀ key, ¬ SetsKey e key) :
    RuntimeInv W P accepted (log ++ [e])
      { r with handshake := none, secureSession := none, receivedCandidateIds := ∅, state } := by
  exact ⟨hI.same.update, fun key h => (hI.key key h).kept hk, fun _ => ⟨rfl, rfl, rfl⟩, by simp, by simp, by simp,
    by simp⟩

/-- What is left of a call that goes on with the attempt, other than the new state. -/
theorem RuntimeInv.goesOn (hI : RuntimeInv W P accepted log e.pre)
    (hsame : SameSession accepted e.post) (hk : e.post.controllerPublicKey = e.pre.controllerPublicKey)
    (hsets : ∀ key, ¬ SetsKey e key) (hr : ¬ Resets e) (hc : ∀ id ∈ e.post.receivedCandidateIds,
      id ∈ e.pre.receivedCandidateIds ∨ Received W P accepted id (log ++ [e]))
    (hhandshake : ∀ h, e.post.handshake = some h →
      e.post.secureSession = none ∧ ∃ path, Begun W P accepted path h (log ++ [e]))
    (he : e.post.state = .awaitingPeerKeyConfirm → ∀ secure, e.post.secureSession = some secure →
      ∃ path, Exchanged W P accepted path secure (log ++ [e]))
    (hready : e.post.state = .ready → ∀ secure, e.post.secureSession = some secure →
      ∃ path, Confirmed W P accepted path secure (log ++ [e])) : RuntimeInv W P accepted (log ++ [e]) e.post := by
  refine ⟨hsame, fun key h => ?_, fun h => absurd h hr, fun id hid => ?_, hhandshake, he, hready⟩
  · rw [hk] at h
    exact (hI.key key h).kept hsets
  · rcases hc id hid with hd | hn
    · exact (hI.candidates id hd).kept hr
    · exact hn

theorem selects_eq_true {path : ValidatedCandidatePath} (h : r.selects config path = true) :
    r.secureSession = none ∧ path.controllerCandidateId ∈ r.receivedCandidateIds ∧
      config.context.selectedTransportPath = path.binding.transportPath ∧ config.context.selectedCandidatePairId =
      path.binding.candidatePairId ∧ config.context.relayNodeId = path.binding.relayNodeId ∧
      config.context.permissionsDigest = path.binding.permissionsDigest := by
  simp only [selects, Bool.and_eq_true, decide_eq_true_eq, Option.isNone_iff_eq_none] at h
  obtain ⟨⟨⟨⟨⟨⟨⟨⟨⟨⟨⟨⟨⟨⟨⟨⟨⟨⟨-, -⟩, hs⟩, -⟩, -⟩, -⟩, -⟩, -⟩, -⟩, -⟩, -⟩, -⟩, -⟩, -⟩, hid⟩, hp⟩, hpair⟩, hr⟩, hd⟩ := h
  exact ⟨hs, hid, hp, hpair, hr, hd⟩

theorem RuntimeStep.runtimeInv {call : RuntimeCall V} {out : Except ControlledSignalRuntimeError (RuntimeResponse V)}
    {r' : ControlledSignalRuntime} (h : RuntimeStep W P r call out r') (hI : RuntimeInv W P accepted log r) :
    RuntimeInv W P accepted (log ++ [⟨r, call, out, r'⟩]) r' := by
  obtain ⟨hid, hid128, hc, hcontrolled, hx⟩ := hI.same
  have hfromController {message : SessionPeerMessage V} {now : UInt64} (h : FromController r message now) :
      FromController accepted message now :=
    ⟨hx ▸ h.unexpired, hid ▸ h.sessionId, hc ▸ h.device, h.role⟩
  cases h with
  | refused | nothing =>
    exact hI.quiet rfl (by simp [BeginsExchange]) (by simp [HandsOutSession])
      fun key h => (hI.key key h).kept (by simp [SetsKey])
  | failed | closed => exact hI.reset (by simp [SetsKey])
  | keySet =>
    refine hI.quiet rfl (by simp [BeginsExchange]) (by simp [HandsOutSession]) fun key h => ?_
    cases h
    exact since_snoc.mpr (.inl ⟨⟨_, rfl⟩, rfl⟩)
  | @begun config path identity key signed action hselects hg =>
    obtain ⟨hnone, hreceived, -⟩ := selects_eq_true hselects
    refine RuntimeInv.goesOn hI hI.same.update rfl (by simp [SetsKey]) (by simp [Resets]) (fun id h => .inl h)
      (fun h hh => ⟨hnone, path, sinceAt_snoc.mpr (.inl ?_)⟩) (by simp) (by simp)
    cases hh
    exact ⟨hI.candidates _ hreceived, config, identity, key, signed.1, rfl, ⟨action, rfl⟩, hselects, hg⟩
  | @candidate message now payload hfrom hkind hread hauthorized =>
    have he : SameAttempt ⟨r, .handlePeerMessage message now, .ok (.actions []),
        { r with receivedCandidateIds := insert payload.candidate.candidateId r.receivedCandidateIds
                 state := .awaitingTransportSelection }⟩ :=
      ⟨by simp [Resets], by simp [BeginsExchange], by simp [HandsOutSession]⟩
    refine RuntimeInv.goesOn hI hI.same.update rfl (by simp [SetsKey]) he.1 (fun id h => ?_) (fun h hh => ?_)
      (by simp) (by simp)
    · rcases Finset.mem_insert.mp h with rfl | hd
      · exact .inr (since_snoc.mpr (.inl ⟨message, now, payload, ⟨rfl, hfromController hfrom, hkind, [], rfl⟩, hread,
          ⟨hid128 ▸ hauthorized.sessionId, hc ▸ hauthorized.device, hauthorized.role, hauthorized.authorization⟩, rfl⟩))
      · exact .inl hd
    · obtain ⟨hnone, path, hb⟩ := hI.handshake h hh
      exact ⟨hnone, path, he.since hb⟩
  | @exchanged message now peerKey peerMessage handshake ready actions hfrom hkind hread hk hhs hverify
      hf =>
    obtain ⟨-, path, hb⟩ := hI.handshake handshake hhs
    refine RuntimeInv.goesOn hI hI.same.update rfl (by simp [SetsKey]) (by simp [Resets]) (fun id h => .inl h) (by simp)
      (fun _ secure hs => ⟨path, sinceAt_snoc.mpr (.inl ?_)⟩) (by simp)
    cases hs
    exact ⟨handshake, hb, message, now, peerMessage, peerKey, ready,
      ⟨rfl, hfromController hfrom, hkind, actions, rfl⟩, hread, hI.key _ hk, hverify, hf, rfl⟩
  | @confirmed message now confirm secure secure' hfrom hkind hread hstate hs hverify =>
    obtain ⟨path, hexchanged⟩ := hI.exchanged hstate secure hs
    refine RuntimeInv.goesOn hI hI.same.update rfl (by simp [SetsKey]) (by simp [Resets]) (fun id h => .inl h)
      (fun h hh => ?_) (by simp) (fun _ secure hs => ⟨path, sinceAt_snoc.mpr (.inl ?_)⟩)
    · cases (hI.handshake h hh).1.symm.trans hs
    · cases hs
      exact ⟨_, hexchanged, message, now, confirm, ⟨rfl, hfromController hfrom, hkind, _, rfl⟩, hread, hc ▸ hverify⟩
  | @taken secure hstate hs =>
    refine RuntimeInv.goesOn hI hI.same.update rfl (by simp [SetsKey]) (by simp [Resets, hstate]) (fun id h => .inl h)
      (fun h hh => ?_) (by simp) (by simp)
    cases (hI.handshake h hh).1.symm.trans hs

theorem runtimeInv_run (cs : List (RuntimeCall V)) {snapshot : SessionSnapshot V}
    (ha : fromAccepted W snapshot = .ok accepted) :
    RuntimeInv W P accepted (trace (runtimeStep W P) accepted cs) (final (runtimeStep W P) accepted cs) := by
  refine history_inv (runtimeStep W P) (fun log r call hI => (runtimeStep_spec call).runtimeInv hI) cs [] accepted ?_
  simp only [fromAccepted, bind_eq_ok, pure_eq_ok] at ha
  obtain ⟨_, -, _, -, _, -, rfl⟩ := ha
  exact ⟨⟨rfl, rfl, rfl, rfl, rfl⟩, by simp, by simp, by simp, by simp, by simp, by simp⟩

end Steps

/-! ### What is handed out -/

section HandOut

variable {accepted : ControlledSignalRuntime} {path : ValidatedCandidatePath} {secure : SecureSession}
  {handshake : SessionHandshake}

def BoundToPath (secure : SecureSession) (path : ValidatedCandidatePath) : Prop :=
  secure.BoundTo path.binding.permissionsDigest path.binding.transportPath path.binding.candidatePairId
    path.binding.relayNodeId

theorem signedHandshake_config {identity : DeviceIdentity}
    {key : EphemeralKeyPair} {msg : SignedKeyExchange}
    (h : signedHandshake P config identity key = .ok (msg, handshake)) :
    handshake.config = { config with localDevicePublicKey := identity.publicKey } := by
  simp only [signedHandshake, bind_eq_ok] at h
  obtain ⟨fresh, hfresh, digest, -, _, hg, rfl, rfl⟩ := h
  obtain ⟨_, -, rfl, -⟩ := withEphemeralKey_eq_ok hfresh
  rw [(setLocalSignature_eq_ok hg).2]

theorem Begun.binding (h : Begun W P accepted path handshake log) :
    handshake.config.context.selectedTransportPath = path.binding.transportPath ∧
      handshake.config.context.selectedCandidatePairId = path.binding.candidatePairId ∧
      handshake.config.context.relayNodeId = path.binding.relayNodeId ∧
      handshake.config.context.permissionsDigest = path.binding.permissionsDigest := by
  obtain ⟨_, _, _, -, ⟨-, config, identity, key, msg, -, -, hs, hg⟩, -⟩ := h
  rw [signedHandshake_config hg]
  exact (selects_eq_true hs).2.2

theorem Exchanged.created (h : Exchanged W P accepted path secure log) :
    BoundToPath secure path ∧ secure.invalidated = false ∧ secure.localConfirmSent = true := by
  obtain ⟨_, _, _, -, ⟨handshake, hbegun, msg, now, peerMessage, key, ready, -, -, -, hverify, hf, rfl⟩, -⟩ := h
  obtain ⟨hpath, hpair, hr, hd⟩ := hbegun.binding
  rw [(verifyPeerMessage_eq_ok hverify).2] at hf
  obtain ⟨_, _, _, _, session, -, -, -, -, -, hn, -, hready⟩ := finish_eq_ok hf
  have hb := SecureSession.boundTo_of_new hn
  have hcr := (SecureSession.asCreated_of_new hn).1
  rw [hready, BoundToPath, ← hpath, ← hpair, ← hr, ← hd]
  exact ⟨hb, by rw [← hcr]; rfl, rfl⟩

theorem Confirmed.ready (h : Confirmed W P accepted path secure log) : secure.Ready ∧ BoundToPath secure path := by
  obtain ⟨_, _, _, -, ⟨exchanged, he, msg, now, confirm, -, -, hverify⟩, -⟩ := h
  obtain ⟨hb, hl, hs⟩ := he.created
  obtain ⟨-, g, rfl⟩ := SecureSession.verifyPeerKeyConfirm_eq_ok hverify
  exact ⟨⟨hl, hs, rfl⟩, hb⟩

/-- Between the exchange a session comes from and its last confirmation nothing was handed out. -/
theorem Confirmed.once (h : Confirmed W P accepted path secure log) :
    Since BeginsExchange (fun e => ¬ HandsOutSession e) log := by
  have hh {e : RuntimeEntry V} {kind : SessionSignalMessageKind} {msg : SessionPeerMessage V} {now : UInt64}
      (h : Handles accepted e kind msg now) : ¬ HandsOutSession e := by
    obtain ⟨-, -, -, acts, ho⟩ := h
    rintro ⟨session, hs⟩
    cases ho.symm.trans hs
  have hkp (e : RuntimeEntry V) (he : SameAttempt e) : ¬ HandsOutSession e := he.2.2
  refine since_of_sinceAt h (fun before e => ?_) hkp
  rintro ⟨exchanged, hexchanged, _, _, _, hc, -⟩
  refine ⟨since_of_sinceAt hexchanged (fun before e => ?_) hkp, hh hc⟩
  rintro ⟨handshake, ⟨first, begins, rest, rfl, ⟨-, _, _, _, _, -, hbegins, -⟩, hrs⟩, _, _, _, _, _, hexchange, -⟩
  exact ⟨⟨first, begins, rest, rfl, hbegins, fun e he => hkp e (hrs e he)⟩, hh hexchange⟩

theorem handlePeerMessage_stranger {msg : SessionPeerMessage V} {now : UInt64}
    (hnow : now < r.sessionExpiresAtEpochMillis) (hs : ¬ FromController r msg now) :
    (r.handlePeerMessage W P msg now).2 = r := by
  unfold handlePeerMessage
  rw [if_neg (UInt64.not_le.mpr hnow)]
  split
  · rfl
  · rename_i hv
    obtain ⟨hsession, hdevice, hr⟩ := validatePeerMessage_eq_ok.mp hv
    exact absurd ⟨hnow, hsession, hdevice, hr⟩ hs

end HandOut

/-- What a call may hand out, and what a message that is not the controller's may change. -/
structure HandsOut (W : Wire V) (P : Primitives) (accepted : ControlledSignalRuntime) (log : List (RuntimeEntry V))
    (e : RuntimeEntry V) : Prop where
  verified : ∀ secure, e.out = .ok (.session (some secure)) →
    secure.Ready ∧ ∃ path, Confirmed W P accepted path secure log ∧ BoundToPath secure path
  /-- No session was handed out since the exchange that this one comes from was begun. -/
  once : HandsOutSession e → Since BeginsExchange (fun e => ¬ HandsOutSession e) log
  stranger : ∀ message now, e.call = .handlePeerMessage message now → now < accepted.sessionExpiresAtEpochMillis →
    ¬ FromController accepted message now → e.post = e.pre
  expired : ∀ message now, e.call = .handlePeerMessage message now → accepted.sessionExpiresAtEpochMillis ≤ now →
    e.post = e.pre.fail

/-- Every session that is handed out is ready and comes from a verified exchange for a path to a
candidate that the controller announced, and before the session expires only the controller's
messages change the runtime. -/
theorem hands_out_verified_sessions (W : Wire V) (P : Primitives) (snapshot : SessionSnapshot V)
    (accepted : ControlledSignalRuntime) (haccepted : ControlledSignalRuntime.fromAccepted W snapshot = .ok accepted)
    (calls : List (RuntimeCall V)) (call : RuntimeCall V) :
    HandsOut W P accepted (trace (runtimeStep W P) accepted calls)
      (entry (runtimeStep W P) (final (runtimeStep W P) accepted calls) call) := by
  have hI := runtimeInv_run (P := P) calls haccepted
  generalize final (runtimeStep W P) accepted calls = r at hI ⊢
  generalize trace (runtimeStep W P) accepted calls = log at hI ⊢
  have hcf (secure : SecureSession) (ho : (runtimeStep W P r call).1 = .ok (.session (some secure))) :
      ∃ path, Confirmed W P accepted path secure log := by
    have hst := runtimeStep_spec (W := W) (P := P) (r := r) call
    rw [ho] at hst
    generalize (runtimeStep W P r call).2 = r' at hst
    cases hst with
    | taken hs hsecure => exact hI.ready hs secure hsecure
  refine ⟨fun secure ho => ?_, ?_, ?_, ?_⟩
  · obtain ⟨path, hpath⟩ := hcf secure ho
    exact ⟨hpath.ready.1, path, hpath, hpath.ready.2⟩
  · rintro ⟨secure, ho⟩
    obtain ⟨path, hpath⟩ := hcf secure ho
    exact hpath.once
  · rintro msg now rfl hnow hstranger
    refine handlePeerMessage_stranger (hI.same.expires ▸ hnow) fun hfrom => hstranger ?_
    exact ⟨hnow, hI.same.sessionId ▸ hfrom.sessionId, hI.same.controllerDeviceId ▸ hfrom.device, hfrom.role⟩
  · rintro msg now rfl hnow
    show (r.handlePeerMessage W P msg now).2 = r.fail
    unfold ControlledSignalRuntime.handlePeerMessage
    rw [if_pos (hI.same.expires ▸ hnow)]

/-! ### A session

The controlled side of the exchange of `SessionHandshake.Exchange`. -/

namespace Sample

open SessionHandshake

def candidate : ConnectionCandidateDto :=
  { candidateId := 0, sessionId := 1, deviceId := "controller", role := .controller, kind := .lanDirect
    endpoint := "192.168.1.20:50000", source := .localInterface, observeResultId := none, priority := 1
    rttMs := none, lossPpm := none, jitterMs := none, relayNodeId := none }

def sessionId : String := "00000000-0000-0000-0000-000000000001"

/-- JSON in which every value reads as what the controller of the sample exchange sends. -/
def wire : Wire Unit where
  uuid text := if text = sessionId then some 1 else none
  sessionExpiresAt _ := some 10000
  candidatePayload _ := some ⟨candidate, ⟨[1, 2, 3], .ofNat 32 0, 5000⟩⟩
  signedKeyExchange _ := some (Exchange.message .controller)
  keyConfirm _ := some (SecureSession.Sample.confirm .controller)
  ofSignedKeyExchange _ := ()
  ofKeyConfirm _ := ()

def snapshot : SessionSnapshot Unit := ⟨sessionId, "accepted", "controller", "controlled", ()⟩

def accepted : ControlledSignalRuntime :=
  { sessionId := sessionId, sessionIdU128 := 1, controllerDeviceId := "controller", controlledDeviceId := "controlled"
    sessionExpiresAtEpochMillis := 10000, state := .awaitingCandidates, controllerPublicKey := none
    receivedCandidateIds := ∅, handshake := none, secureSession := none }

def identity : DeviceIdentity :=
  ⟨Exchange.deviceKey .controlled, fun _ => ⟨(Exchange.signature .controlled).toArray, by decide +kernel⟩⟩

def path : ValidatedCandidatePath :=
  { controllerCandidateId := 0, controlledCandidateId := 12, remoteCandidate := candidate
    binding := ⟨.lanDirect, 9, none, SecureSession.Sample.digest⟩ }

def fromController (kind : SessionSignalMessageKind) (now : UInt64) : RuntimeCall Unit :=
  .handlePeerMessage ⟨kind, sessionId, .controller, "controller", ()⟩ now

/-- The calls from the first candidate to the confirmed session. -/
def exchange : List (RuntimeCall Unit) :=
  [fromController .connectionCandidate 1000,
   .setControllerPublicKey "controller" (Exchange.deviceKey .controller),
   .beginKeyExchange (Exchange.config .controlled) path identity
     ⟨Exchange.secret .controlled, Exchange.ephemeralPublicKey .controlled⟩,
   fromController .keyExchangeMessage 2100,
   fromController .keyConfirm 2200]

/-- A message of another session, when the session has expired. -/
def stranger : RuntimeCall Unit := .handlePeerMessage ⟨.keyConfirm, "other", .controller, "controller", ()⟩ 10000

end Sample

theorem hands_out_verified_sessions_exchange :
    ControlledSignalRuntime.fromAccepted Sample.wire Sample.snapshot = .ok Sample.accepted ∧
      (final (runtimeStep Sample.wire Exchange.primitives) Sample.accepted Sample.exchange).takeSecureSession.1.isSome =
        true ∧
      HandsOut Sample.wire Exchange.primitives Sample.accepted
        (trace (runtimeStep Sample.wire Exchange.primitives) Sample.accepted Sample.exchange)
        (entry (runtimeStep Sample.wire Exchange.primitives)
          (final (runtimeStep Sample.wire Exchange.primitives) Sample.accepted Sample.exchange) .takeSecureSession) :=
  ⟨rfl, by decide +kernel, hands_out_verified_sessions _ _ Sample.snapshot _ rfl _ _⟩

theorem stranger_fails_runtime :
    Sample.accepted.sessionId ≠ "other" ∧ Sample.accepted.state = .awaitingCandidates ∧
      (runtimeStep Sample.wire Exchange.primitives Sample.accepted Sample.stranger).2.state = .failed := by
  decide +kernel

end Rctl.Desktop
