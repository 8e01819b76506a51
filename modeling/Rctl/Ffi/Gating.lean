/-
# What the foreign interface does under which keys

What the calls so far must have been when there is a handshake or a secure session
(`SecurityInv`): since the last start, each stage of the key exchange is preceded by the one
before, and no other handshake was configured in between. So the session streams, packets go out
and frames come in only under the keys of a handshake that went through all the stages.
-/
import Rctl.Ffi.Steps
import Rctl.Lib.Past

namespace Rctl.Ffi

open ByteString Controller StateRun Past SessionHandshake

variable {P : Primitives}

/-! ### The calls so far -/

def Starts (e : FfiEntry P) : Prop := ∃ c ∈ made e, c.isStart = true

variable {log : List (FfiEntry P)} {e : FfiEntry P} {op : Op}

section History

variable (J : Json)

/-- The call was made with these arguments and returned `RESULT_OK`. -/
def Returned (e : FfiEntry P) (op : Op) : Prop := readCall J e.call = .ok op ∧ e.out = .ok ()

def Configures (e : FfiEntry P) : Prop := ∃ config key, Returned J e (.configureHandshake config key)

/-- Neither a start nor another handshake. -/
def SameHandshake (e : FfiEntry P) : Prop := ¬ Starts e ∧ ¬ Configures J e

def Started (log : List (FfiEntry P)) : Prop := Since Starts (fun e => ¬ Starts e) log

/-- After the last start a handshake was configured, and no other one since. -/
def Configured (config : SessionHandshakeConfig) (key : EphemeralKeyPair) (log : List (FfiEntry P)) : Prop :=
  SinceAt (fun before e => Started before ∧ Returned J e (.configureHandshake config key)) (SameHandshake J) log

def Signed (config : SessionHandshakeConfig) (key : EphemeralKeyPair) (log : List (FfiEntry P)) : Prop :=
  SinceAt (fun before e => Configured J config key before ∧
    ∃ signature, Returned J e (.submitKeyExchangeSignature signature)) (SameHandshake J) log

/-- Then the peer's key exchange was received, which left a secure session. -/
def Exchanged (config : SessionHandshakeConfig) (key : EphemeralKeyPair) (secure : SecureSession)
    (log : List (FfiEntry P)) : Prop :=
  SinceAt (fun before e => Signed J config key before ∧
    (∃ message peerKey now timestamp, Returned J e (.receivePeerKeyExchange message peerKey now timestamp)) ∧
    e.post.session.security.secureSession.map (·.asCreated) = some secure) (SameHandshake J) log

def Confirmed (config : SessionHandshakeConfig) (key : EphemeralKeyPair) (secure : SecureSession)
    (log : List (FfiEntry P)) : Prop :=
  SinceAt (fun before e => Exchanged J config key secure before ∧
    ∃ confirm now, Returned J e (.receivePeerKeyConfirm confirm now)) (SameHandshake J) log

/-- What the calls so far were, by what there is of the key exchange. -/
structure SecurityInv (log : List (FfiEntry P)) (s : FfiSession P) : Prop where
  started : s.state ≠ .idle → s.state ≠ .closed → Started log
  handshake : ∀ h, s.security.handshake = some h → Configured J h.config h.ephemeralKey log ∧
    s.security.expiresAtEpochMillis = some h.config.context.sessionExpiresAtEpochMillis ∧
    (h.localMessage.isSome = true → Signed J h.config h.ephemeralKey log)
  secure : ∀ secure, s.security.secureSession.map (·.asCreated) = some secure → s.security.handshake = none ∧
    ∃ config key, Exchanged J config key secure log ∧
      s.security.expiresAtEpochMillis = some config.context.sessionExpiresAtEpochMillis
  streaming : s.state = .streaming → ∃ config key secure, Confirmed J config key secure log ∧
    s.security.secureSession.map (·.asCreated) = some secure ∧
    s.security.expiresAtEpochMillis = some config.context.sessionExpiresAtEpochMillis

variable {J} {s s' : FfiSession P} {handshake : SessionHandshake}

theorem SameHandshake.since {Q : List (FfiEntry P) → FfiEntry P → Prop} (he : SameHandshake J e)
    (h : SinceAt Q (SameHandshake J) log) : SinceAt Q (SameHandshake J) (log ++ [e]) :=
  sinceAt_snoc.mpr (.inr ⟨he, h⟩)

theorem SameHandshake.started (he : SameHandshake J e) (h : Started log) : Started (log ++ [e]) :=
  since_snoc.mpr (.inr ⟨he.1, h⟩)

section

variable (hinv : SecurityInv J log s)
include hinv

theorem SecurityInv.kept (he : SameHandshake J e) (hkp : Kept s.security s'.security)
    (hstate : s'.state = s.state ∨ s'.state = .closed) : SecurityInv J (log ++ [e]) s' := by
  constructor
  · intro hil hcl
    have hsm := hstate.resolve_right hcl
    rw [hsm] at hil hcl
    exact he.started (hinv.started hil hcl)
  · intro h hh
    rcases hkp.handshake with hsm | hno
    · rw [hsm] at hh
      obtain ⟨hc, hx, hg⟩ := hinv.handshake h hh
      exact ⟨he.since hc, hkp.expires.trans hx, fun hl => he.since (hg hl)⟩
    · rw [hno] at hh
      cases hh
  · intro sec hs
    rw [hkp.secure] at hs
    obtain ⟨hno, cfg, key, hexchanged, hx⟩ := hinv.secure sec hs
    refine ⟨?_, cfg, key, he.since hexchanged, hkp.expires.trans hx⟩
    rcases hkp.handshake with hsm | hnone'
    · rw [hsm]
      exact hno
    · exact hnone'
  · intro hst
    have hsm := hstate.resolve_right (by rw [hst]; decide)
    obtain ⟨cfg, key, sec, hcf, hs, hx⟩ := hinv.streaming (hsm.symm.trans hst)
    exact ⟨cfg, key, sec, he.since hcf, hkp.secure.trans hs, hkp.expires.trans hx⟩

theorem SecurityInv.not_streaming (hhs : s.security.handshake = some handshake) : s.state ≠ .streaming := by
  intro hs
  obtain ⟨-, -, sec, -, hsecure, -⟩ := hinv.streaming hs
  obtain ⟨hn, -⟩ := hinv.secure sec hsecure
  rw [hn] at hhs
  cases hhs

theorem SecurityInv.started_of_attempt (hs : s.state = .connecting ∨ s.state = .reconnecting) : Started log := by
  apply hinv.started
  · rcases hs with h | h <;> rw [h] <;> decide
  · rcases hs with h | h <;> rw [h] <;> decide

end

theorem SecurityInv.reset (ht : Starts e) (hy : s'.security = .default) (hstate : s'.state ≠ .streaming) :
    SecurityInv J (log ++ [e]) s' := by
  refine ⟨fun _ _ => since_snoc.mpr (.inl ht), fun h hh => ?_, fun sec hs => ?_, fun h => absurd h hstate⟩
  · rw [hy] at hh
    cases hh
  · rw [hy] at hs
    cases hs

theorem SecurityInv.configured (hinv : SecurityInv J log s) {cfg : SessionHandshakeConfig} {key : EphemeralKeyPair}
    (hqt : ¬ Starts e) (hr : Returned J e (.configureHandshake cfg key))
    (hs : s.state = .connecting ∨ s.state = .reconnecting) (hno : s.security.secureSession = none)
    (hhs : withEphemeralKey P cfg key = .ok handshake)
    (hy : s'.security = { s.security with
      handshake := some handshake
      expiresAtEpochMillis := some cfg.context.sessionExpiresAtEpochMillis
      selectedTransportPath := some cfg.context.selectedTransportPath })
    (hsm : s'.state = s.state) : SecurityInv J (log ++ [e]) s' := by
  have hsr := hinv.started_of_attempt hs
  obtain ⟨_, _, rfl, _⟩ := withEphemeralKey_eq_ok hhs
  refine ⟨fun _ _ => since_snoc.mpr (.inr ⟨hqt, hsr⟩), fun h hh => ?_, fun sec hsecure => ?_, fun hstreaming => ?_⟩
  · rw [hy] at hh ⊢
    cases hh
    exact ⟨sinceAt_snoc.mpr (.inl ⟨hsr, hr⟩), rfl, nofun⟩
  · rw [hy] at hsecure
    simp only [hno] at hsecure
    cases hsecure
  · rw [← hsm, hstreaming] at hs
    rcases hs with h | h <;> cases h

variable {message : SignedKeyExchange}

theorem SecurityInv.signed (hinv : SecurityInv J log s) (he : SameHandshake J e) {sig : Bytes}
    (hr : Returned J e (.submitKeyExchangeSignature sig)) (hhs : s.security.handshake = some handshake)
    (hy : s'.security = { s.security with handshake := some { handshake with localMessage := some message } })
    (hsm : s'.state = s.state) : SecurityInv J (log ++ [e]) s' := by
  obtain ⟨hc, hx, -⟩ := hinv.handshake handshake hhs
  refine ⟨fun hil hcl => ?_, fun h hh => ?_, fun sec hs => ?_, fun hstreaming => ?_⟩
  · rw [hsm] at hil hcl
    exact he.started (hinv.started hil hcl)
  · rw [hy] at hh ⊢
    cases hh
    exact ⟨he.since hc, hx, fun _ => sinceAt_snoc.mpr (.inl ⟨hc, sig, hr⟩)⟩
  · rw [hy] at hs
    obtain ⟨hno, -⟩ := hinv.secure sec hs
    rw [hno] at hhs
    cases hhs
  · exact absurd (hsm.symm.trans hstreaming) (hinv.not_streaming hhs)

theorem SecurityInv.exchanged (hinv : SecurityInv J log e.pre.session) (he : SameHandshake J e) {key :
    ByteArr 32} {now ts : UInt64}
    (hr : Returned J e (.receivePeerKeyExchange message key now ts))
    {ready : SessionHandshakeReady} (hhs : e.pre.session.security.handshake = some handshake)
    (hf : finish P { handshake with peerMessage := some message } ts = .ok ready)
    (hy : e.post.session.security = { e.pre.session.security with
      handshake := none
      secureSession := some ready.secureSession
      peerDeviceId := some message.payload.deviceId })
    (hsm : e.post.session.state = e.pre.session.state) : SecurityInv J (log ++ [e]) e.post.session := by
  obtain ⟨-, hx, hg⟩ := hinv.handshake handshake hhs
  -- the handshake was finished with its own message
  obtain ⟨own, -, -, -, -, ho, -⟩ := finish_eq_ok hf
  have hg := hg (by rw [show handshake.localMessage = some own from ho]; rfl)
  refine ⟨fun hil hcl => ?_, fun h hh => ?_, fun sec hs => ?_, fun hstreaming => ?_⟩
  · rw [hsm] at hil hcl
    exact he.started (hinv.started hil hcl)
  · rw [hy] at hh
    cases hh
  · refine ⟨by rw [hy], handshake.config, handshake.ephemeralKey,
      sinceAt_snoc.mpr (.inl ⟨hg, ⟨message, key, now, ts, hr⟩, hs⟩), ?_⟩
    rw [hy]
    exact hx
  · exact absurd (hsm.symm.trans hstreaming) (hinv.not_streaming hhs)

theorem SecurityInv.confirmed (hinv : SecurityInv J log s) (he : SameHandshake J e) {confirm : KeyConfirm}
    {now : UInt64} (hr : Returned J e (.receivePeerKeyConfirm confirm now)) {sec : SecureSession}
    (hs : s.security.secureSession = some sec) (hkp : Kept s.security s'.security)
    (hstate : s.state = .connecting ∨ s.state = .reconnecting) : SecurityInv J (log ++ [e]) s' := by
  obtain ⟨hno, cfg, key, hec, hx⟩ := hinv.secure sec.asCreated (by rw [hs]; rfl)
  have hs' : s'.security.secureSession.map (·.asCreated) = some sec.asCreated := by
    rw [hkp.secure, hs]
    rfl
  have hnone' : s'.security.handshake = none := by
    rcases hkp.handshake with hsm | hnone'
    · rw [hsm, hno]
    · exact hnone'
  refine ⟨fun _ _ => he.started (hinv.started_of_attempt hstate), fun h hh => ?_, fun sec' h' => ?_, fun _ => ?_⟩
  · rw [hnone'] at hh
    cases hh
  · rw [hs'] at h'
    cases h'
    exact ⟨hnone', cfg, key, he.since hec, hkp.expires.trans hx⟩
  · exact ⟨cfg, key, _, sinceAt_snoc.mpr (.inl ⟨hec, confirm, now, hr⟩), hs', hkp.expires.trans hx⟩

theorem sameHandshake_of (hr : readCall J e.call = .ok op) (hn : ∀ c ∈ made e, c.isStart = false)
    (hf : op.configures = true → e.out ≠ .ok ()) : SameHandshake J e := by
  constructor
  · rintro ⟨c, hc, ht⟩
    rw [hn c hc] at ht
    cases ht
  · rintro ⟨cfg, key, hread', ho⟩
    rw [hr] at hread'
    cases hread'
    exact hf rfl ho

theorem Completed.securityInv (h : Completed J e op) (hinv : SecurityInv J log e.pre.session) :
    SecurityInv J (log ++ [e]) e.post.session := by
  obtain ⟨hrd, hst, ho, hy, hpo, -⟩ := h
  generalize hma : made e = new at hst
  have hqt' (h : ∀ c ∈ new, c.quiet = true) : ∀ c ∈ made e, c.isStart = false :=
    fun c hc => Callback.isStart_of_quiet (h c (hma ▸ hc))
  cases hst with
  | kept hkp hs hqt hfails =>
    rw [← hy] at hkp
    rw [← hpo] at hs
    rw [← ho] at hfails
    exact hinv.kept (sameHandshake_of hrd (hqt' hqt) hfails) hkp hs
  | started hd hs =>
    refine .reset ?_ (hy.trans hd) (hpo ▸ hs)
    rwa [Starts, hma]
  | configured hs hno hhs hconfigured hsm hqt hok =>
    refine hinv.configured ?_ ⟨hrd, ho.trans hok⟩ hs hno hhs (hy.trans hconfigured) (hpo.trans hsm)
    rintro ⟨c, hc, ht⟩
    rw [hqt' hqt c hc] at ht
    cases ht
  | signed hhs hg hsm hqt hok =>
    exact hinv.signed (sameHandshake_of hrd (hqt' hqt) nofun) ⟨hrd, ho.trans hok⟩ hhs (hy.trans hg) (hpo.trans hsm)
  | exchanged hhs _ hf hexchanged hsm hqt hok =>
    exact hinv.exchanged (sameHandshake_of hrd (hqt' hqt) nofun) ⟨hrd, ho.trans hok⟩
      hhs hf (hy.trans hexchanged) (hpo.trans hsm)
  | confirmed hsecure _ hkp hs hn hok =>
    have he : SameHandshake J e := by
      refine sameHandshake_of hrd (fun c hc => ?_) nofun
      rw [hn c (hma ▸ hc)]
      rfl
    rw [← hy] at hkp
    rcases hs with hsm | hs
    · exact hinv.kept he hkp (.inl (hpo.trans hsm))
    · exact hinv.confirmed he ⟨hrd, ho.trans hok⟩ hsecure hkp hs
  | sealedPacket _ _ hkp hsm hother =>
    rw [← hy] at hkp
    refine hinv.kept (sameHandshake_of hrd ?_ fun h => ?_) hkp (.inl (hpo.trans hsm))
    · rw [hma]
      simp [Callback.isStart]
    · rw [hother] at h
      cases h
  | frame _ _ _ _ _ _ _ _ hkp hs =>
    rw [← hy] at hkp
    refine hinv.kept (sameHandshake_of hrd ?_ nofun) hkp (.inl (hpo.trans hs))
    rw [hma]
    simp [Callback.isStart]

end History

variable {J : Json} {sessionId : U128}

section Calls

variable {handle : Handle P}

/-- What holds of a handle as long as it is known. -/
structure HandleInv (J : Json) (sessionId : U128) (log : List (FfiEntry P)) (handle : Handle P) : Prop where
  gate : handle.session.transport.closing = false
  events : handle.session.events = []
  sessionId : handle.session.sessionId = sessionId
  security : SecurityInv J log handle.session

/-- A call that changes nothing and does not succeed. -/
theorem SecurityInv.refused (hinv : SecurityInv J log e.pre.session) (hp : e.post = e.pre)
    (ho : e.out ≠ .ok ()) : SecurityInv J (log ++ [e]) e.post.session := by
  have he : SameHandshake J e := by
    refine ⟨?_, ?_⟩
    · rintro ⟨c, hc, -⟩
      rw [made_of_post_eq hp] at hc
      cases hc
    · rintro ⟨-, -, -, hok⟩
      exact ho hok
  rw [hp]
  exact hinv.kept he (.refl _) (.inl rfl)

theorem handleInv_step (log : List (FfiEntry P)) (handle : Handle P) (call : FfiCall)
    (hinv : handle.known = true → HandleInv J sessionId log handle) :
    (ffiStep J handle call).2.known = true → HandleInv J sessionId (log ++ [entry (ffiStep J) handle call])
      (ffiStep J handle call).2 := by
  intro hkn'
  have hkn : handle.known = true := by
    by_contra hu
    rw [Bool.not_eq_true] at hu
    rw [ffiStep_unknown hu, hu] at hkn'
    cases hkn'
  obtain ⟨hga, hev, hid, hy⟩ := hinv hkn
  cases ffiStep_callStep hkn hga hev call with
  | refused hpo ho =>
    have hy' := hy.refused hpo ho
    have hpo : (ffiStep J handle call).2 = handle := hpo
    rw [entry_post, hpo] at hy'
    rw [hpo]
    exact ⟨hga, hev, hid, hy'⟩
  | destroyed _ hde =>
    rw [entry_post, hkn'] at hde
    cases hde
  | completed _ h => exact ⟨h.gate, h.events, h.sessionId.trans hid, h.securityInv hy⟩

theorem handleInv_run (J : Json) (sessionId : U128) (cs : List FfiCall) :
    (final (ffiStep J) (Handle.create P sessionId) cs).known = true →
      HandleInv J sessionId (trace (ffiStep J) (Handle.create P sessionId) cs)
        (final (ffiStep J) (Handle.create P sessionId) cs) := by
  refine history_inv (ffiStep J)
    handleInv_step cs [] (Handle.create P sessionId) fun _ => ⟨rfl, rfl, rfl, ⟨fun h => absurd rfl h, ?_, ?_, ?_⟩⟩
  · intro h hh
    cases hh
  · intro sec hs
    cases hs
  · intro hstreaming
    cases hstreaming

end Calls

/-! ### The gate -/

/-- What must have come before the callbacks that a call makes. -/
structure Gated (J : Json) (sessionId : U128) (log : List (FfiEntry P)) (e : FfiEntry P) : Prop where
  /-- The session streams when the key exchange is confirmed. -/
  streaming : .event (.stateChanged .streaming) ∈ made e → ∃ config key secure confirm now,
    Exchanged J config key secure log ∧ Returned J e (.receivePeerKeyConfirm confirm now)
  packet : ∀ epoch delivery payload, .command .sendSecurePacket epoch delivery payload ∈ made e →
    ∃ config key secure, Confirmed J config key secure.asCreated log ∧
      e.pre.session.security.secureSession = some secure ∧ secure.Ready ∧
      (∃ kind channel plaintext header ciphertext,
        (secure.sealMessage P kind channel 0 plaintext).1 = .ok (header, ciphertext) ∧
        payload = encodeHeader header ++ ciphertext) ∧
      ∃ op now, readCall J e.call = .ok op ∧ op.clock = some now ∧ now < config.context.sessionExpiresAtEpochMillis
  frame : ∀ u, .event (.h264 u) ∈ made e → ∃ config key secure infoPacket dataPacket clock infoJson info,
    Confirmed J config key secure.asCreated log ∧ e.pre.session.security.secureSession = some secure ∧
    readCall J e.call = .ok (.receiveSecureVideoFrame infoPacket dataPacket clock) ∧
    Opened P secure infoPacket .videoFrameInfo infoJson ∧
    (∃ secure', secure'.asCreated = secure.asCreated ∧ Opened P secure' dataPacket .videoFrameData u.data) ∧
    J.videoFrameInfo infoJson = some info ∧ info.sessionId = sessionId ∧ info.frameBytesLen.toNat = u.data.length
  /-- A transport cannot report that it is connected. -/
  connected : ∀ epoch reason, e.call = .transportEvent epoch 1 reason → e.post = e.pre

theorem gated_of_made_nil (hm : made e = [])
    (hcd : ∀ ep reason, e.call = .transportEvent ep 1 reason → e.post = e.pre) :
    Gated J sessionId log e := by
  refine ⟨fun h => ?_, fun _ _ _ h => ?_, fun _ h => ?_, hcd⟩ <;> rw [hm] at h <;> cases h

theorem Completed.gated (h : Completed J e op) (hinv : SecurityInv J log e.pre.session)
    (hid : e.pre.session.sessionId = sessionId) : Gated J sessionId log e := by
  obtain ⟨hrd, hst, ho, -⟩ := h
  have hcd : ∀ ep reason, e.call = .transportEvent ep 1 reason → e.post = e.pre := by
    intro ep reason hcl
    obtain ⟨code, he⟩ := readCall_connected J ep reason
    rw [hcl, he] at hrd
    cases hrd
  generalize hma : made e = new at hst
  have hqt' (h : ∀ c ∈ new, c.isStart = true ∨ c.quiet = true) : Gated J sessionId log e := by
    refine ⟨fun hc => ?_, fun _ _ _ hc => ?_, fun _ hc => ?_, hcd⟩ <;> rw [hma] at hc <;>
      rcases h _ hc with h | h <;> cases h
  cases hst with
  | kept _ _ hqt | configured _ _ _ _ _ hqt | signed _ _ _ hqt
  | exchanged _ _ _ _ _ hqt => exact hqt' fun c hc => .inr (hqt c hc)
  | started _ _ _ hn => exact hqt' hn
  | @confirmed confirm now sec _ _ _ _ hs _ _ _ hn hok =>
    obtain ⟨-, cfg, key, hexchanged, -⟩ := hinv.secure sec.asCreated (by rw [hs]; rfl)
    refine ⟨fun _ => ⟨cfg, key, _, confirm, now, hexchanged, hrd, ho.trans hok⟩, fun _ _ _ hc => ?_,
      fun _ hc => ?_, hcd⟩ <;> cases hn _ (hma ▸ hc)
  | sealedPacket hstreams hsl =>
    obtain ⟨cfg, key, created, hcf, hcr, hx⟩ := hinv.streaming hstreams
    obtain ⟨sec, kind, chan, pt, header, ct, hs, hr, hsealed, hp⟩ :=
      hsl.exists_seal
    obtain ⟨now, expires, hclock, hx', hlt⟩ := hsl.active
    rw [hs] at hcr
    rw [hx] at hx'
    cases hcr
    cases hx'
    refine ⟨fun hc => ?_, fun ep delivery payload hc => ?_, fun _ hc => ?_, hcd⟩
    · rw [hma] at hc
      cases List.mem_singleton.mp hc
    · rw [hma] at hc
      cases List.mem_singleton.mp hc
      exact ⟨cfg, key, sec, hcf, hs, hr, ⟨kind, chan, pt, header, ct, hsealed, hp⟩, op, now, hrd, hclock, hlt⟩
    · rw [hma] at hc
      cases List.mem_singleton.mp hc
  | @frame infoPacket dataPacket clock _ _ sec sec' infoJson annexB info u format
      _ hstreams _ _ hs hinfo hsm
      hdata hunit =>
    obtain ⟨cfg, key, created, hcf, hcr, -⟩ := hinv.streaming hstreams
    obtain ⟨hjson, hsession, hl, rfl⟩ := accessUnitOf_eq_ok hunit
    rw [hs] at hcr
    cases hcr
    refine ⟨fun hc => ?_, fun _ _ _ hc => ?_, fun u' hc => ?_, hcd⟩
    · rw [hma] at hc
      simp at hc
    · rw [hma] at hc
      simp at hc
    · rw [hma] at hc
      simp only [List.mem_cons, reduceCtorEq, Callback.event.injEq, ControllerSessionEvent.h264.injEq, List.not_mem_nil,
        or_false, false_or] at hc
      subst hc
      exact ⟨cfg, key, sec, infoPacket, dataPacket, clock, infoJson, info, hcf, hs, hrd, hinfo,
        ⟨sec', hsm, hdata⟩, hjson, hsession.trans hid, hl⟩

/-- The session streams, packets go out and frames come in only under the keys of a handshake that
was configured, signed, exchanged and confirmed since the last start. -/
theorem ffi_gates_security (J : Json) (sessionId : U128) (calls : List FfiCall) (call : FfiCall) :
    Gated (P := P) J sessionId (trace (ffiStep J) (Handle.create P sessionId) calls)
      (entry (ffiStep J) (final (ffiStep J) (Handle.create P sessionId) calls) call) := by
  have hinv := handleInv_run (P := P) J sessionId calls
  generalize final (ffiStep J) (Handle.create P sessionId) calls = handle at hinv
  have hcd : ∀ ep reason, call = .transportEvent ep 1 reason → (ffiStep J handle call).2 = handle := by
    rintro ep reason rfl
    obtain ⟨code, hrd⟩ := readCall_connected J ep reason
    unfold ffiStep
    rw [hrd]
  cases hkn : handle.known with
  | false => exact gated_of_made_nil (made_of_post_eq (ffiStep_unknown hkn call)) hcd
  | true =>
    obtain ⟨hga, hev, hid, hy⟩ := hinv hkn
    cases ffiStep_callStep hkn hga hev call with
    | refused hpo => exact gated_of_made_nil (made_of_post_eq hpo) hcd
    | destroyed _ _ hma => exact gated_of_made_nil hma hcd
    | completed _ h => exact h.gated hy hid

end Rctl.Ffi
