/-
# What an entry point of the foreign interface does

What an entry point does to the state of the key exchange, and which callbacks it makes, is said
once (`OpStep`). A start resets the key exchange; then a handshake is configured, signed and
exchanged, which leaves a secure session; confirming it makes the session stream, packets are
sealed and frames opened with it; everything else keeps what there is.
-/
import Rctl.Ffi.Session
import Rctl.Runtime.Agreement

namespace Rctl.Ffi

open ByteString Controller StateRun ControllerSession SecureSession Result

/-! ### Callbacks by what they tell -/

namespace Callback

def isStart : Callback → Bool
  | command .start _ _ _ => true
  | _ => false

def isClose : Callback → Bool
  | command .close _ _ _ => true
  | _ => false

/-- Callbacks that are no start, carry no packet, report no frame and no stream. -/
def quiet : Callback → Bool
  | command .start _ _ _ | command .sendSecurePacket _ _ _ => false
  | event (.stateChanged .streaming) | event (.h264 _) => false
  | _ => true

end Callback

/-- How often the transport is told to close. -/
def closes (callbacks : List Callback) : ℕ := callbacks.countP Callback.isClose

theorem closes_append (l l' : List Callback) : closes (l ++ l') = closes l + closes l' := List.countP_append

open Callback

theorem closes_events (evs : List ControllerSessionEvent) : closes (evs.map .event) = 0 := by
  rw [closes, List.countP_eq_zero]
  intro c hc
  obtain ⟨e, -, rfl⟩ := List.mem_map.mp hc
  simp [isClose]

variable {P : Primitives} {secure : SecureSession} {s s' : FfiSession P}

/-! ### The state of the key exchange -/

/-- The handshake is the same or gone, and the secure session is as it was created. -/
structure Kept (security security' : SessionSecurity) : Prop where
  handshake : security'.handshake = security.handshake ∨ security'.handshake = none
  secure : security'.secureSession.map (·.asCreated) = security.secureSession.map (·.asCreated)
  expires : security'.expiresAtEpochMillis = security.expiresAtEpochMillis

theorem Kept.refl (security : SessionSecurity) : Kept security security := ⟨.inl rfl, rfl, rfl⟩

variable {security : SessionSecurity}

theorem Kept.of_handshake {handshake : Option SessionHandshake}
    (h : handshake = security.handshake ∨ handshake = none) :
    Kept security { security with handshake } := ⟨h, rfl, rfl⟩

theorem Kept.of_secure {sec' : SecureSession}
    (hs : security.secureSession = some secure) (hsm : sec'.asCreated = secure.asCreated) :
    Kept security { security with secureSession := some sec' } := by
  refine ⟨.inl rfl, ?_, rfl⟩
  rw [hs, Option.map_some, Option.map_some, hsm]

section Security

variable (security : SessionSecurity) {clock : Option UInt64} {channel : ChannelId}
  {kind : MessageKind}

/-- A key exchange whose time is over is given up. -/
theorem ensureSessionActive_cases (now : UInt64) :
    (∃ e security', security.ensureSessionActive now = (.error e, security') ∧ Kept security security') ∨
      (security.ensureSessionActive now = (.ok (), security) ∧
        ∃ expires, security.expiresAtEpochMillis = some expires ∧ now < expires) := by
  unfold SessionSecurity.ensureSessionActive
  cases hx : security.expiresAtEpochMillis with
  | none => exact .inl ⟨_, _, rfl, .refl security⟩
  | some expires =>
    by_cases hnow : now ≥ expires
    · refine .inl ⟨_, _, if_pos hnow, .inr rfl, ?_, hx.symm⟩
      rw [Option.map_map]
      rfl
    · exact .inr ⟨if_neg hnow, expires, rfl, UInt64.not_le.mp hnow⟩

theorem ensureActiveNow_cases (clock : Option UInt64) :
    (∃ e security', security.ensureActiveNow clock = (.error e, security') ∧ Kept security security') ∨
      (security.ensureActiveNow clock = (.ok (), security) ∧
        ∃ now expires, clock = some now ∧ security.expiresAtEpochMillis = some expires ∧ now < expires) := by
  cases clock with
  | none => exact .inl ⟨_, _, rfl, .refl security⟩
  | some now =>
    refine (ensureSessionActive_cases security now).imp_right ?_
    rintro ⟨hok, expires, ha⟩
    exact ⟨hok, now, expires, rfl, ha⟩

/-- A packet is a header and the ciphertext that the secure session sealed, before it expires. -/
structure SealedNow (P : Primitives) (security : SessionSecurity) (clock : Option UInt64) (packet : Bytes) :
    Prop where
  exists_seal : ∃ secure kind channel plaintext header ciphertext, security.secureSession = some secure ∧
    secure.Ready ∧ (secure.sealMessage P kind channel 0 plaintext).1 = .ok (header, ciphertext) ∧
    packet = encodeHeader header ++ ciphertext
  active : ∃ now expires, clock = some now ∧ security.expiresAtEpochMillis = some expires ∧ now < expires

theorem sealMessage_asCreated (secure : SecureSession) (kind : MessageKind) (channel : ChannelId) (flags : UInt16)
    (pt : Bytes) : (secure.sealMessage P kind channel flags pt).2.asCreated = secure.asCreated :=
  (sealMessage_outcome kind channel flags pt).asCreated_eq

theorem sealMessage_ready {flags : UInt16} {pt : Bytes} {sealed : MessageHeader × Bytes}
    (h : (secure.sealMessage P kind channel flags pt).1 = .ok sealed) : secure.Ready := by
  have ho := sealMessage_outcome (P := P) (s := secure) kind channel flags pt
  have hout : (step P secure (.sealMessage kind channel flags pt)).1 = .ok (.sealed sealed.1 sealed.2) := by
    show (secure.sealMessage P kind channel flags pt).1.map _ = _
    rw [h]
    rfl
  rw [hout] at ho
  generalize (step P secure (.sealMessage kind channel flags pt)).2 = sec' at ho
  cases ho with
  | sealed hr => exact hr

theorem sealPacket_cases (clock : Option UInt64) (kind : MessageKind) (channel : ChannelId) (pt : Bytes) :
    ∃ res security', security.sealPacket P clock kind channel pt = (res, security') ∧
      Kept security security' ∧ ∀ packet, res = .ok packet → SealedNow P security clock packet := by
  unfold SessionSecurity.sealPacket
  rcases ensureActiveNow_cases security clock with ⟨e, security', ha, hk⟩ | ⟨ha, hnow⟩
  · rw [ha]
    exact ⟨.error e, security', rfl, hk, nofun⟩
  · rw [ha]
    cases hs : security.secureSession with
    | none => exact ⟨.error .invalidState, security, by simp only [hs], .refl security, nofun⟩
    | some secure =>
      have hk := Kept.of_secure hs (sealMessage_asCreated (P := P) secure kind channel 0 pt)
      simp only [hs]
      split
      · exact ⟨_, _, rfl, hk, nofun⟩
      · rename_i header ct hsl
        refine ⟨_, _, rfl, hk, ?_⟩
        rintro _ ⟨⟩
        exact ⟨⟨secure, kind, channel, pt, header, ct, hs, sealMessage_ready hsl, hsl, rfl⟩, hnow⟩

end Security

def Opened (P : Primitives) (secure : SecureSession) (packet : Bytes) (kind : MessageKind) (plaintext : Bytes) :
    Prop :=
  ∃ header, decodeHeader (packet.take HEADER_LEN) = .ok header ∧ header.kind = kind ∧ secure.Ready ∧
    (secure.openMessage P header (packet.drop HEADER_LEN)).1 = .ok plaintext

theorem openMessage_asCreated (secure : SecureSession) (header : MessageHeader) (ct : Bytes) :
    (secure.openMessage P header ct).2.asCreated = secure.asCreated :=
  (openMessage_outcome header ct).asCreated_eq

theorem openMessage_ready {header : MessageHeader} {ct pt : Bytes}
    (h : (secure.openMessage P header ct).1 = .ok pt) : secure.Ready := by
  have ho := openMessage_outcome (P := P) (s := secure) header ct
  have hout : (step P secure (.openMessage header ct)).1 = .ok (.opened pt) := by
    show (secure.openMessage P header ct).1.map _ = _
    rw [h]
    rfl
  rw [hout] at ho
  generalize (step P secure (.openMessage header ct)).2 = sec' at ho
  cases ho with
  | opened hr => exact hr

theorem openPacket_asCreated (secure : SecureSession) (pkt : Bytes) (kind : MessageKind) :
    (openPacket P secure pkt kind).2.asCreated = secure.asCreated := by
  unfold openPacket
  split
  · rfl
  · split
    · rfl
    · simp only
      split
      · rfl
      · exact openMessage_asCreated secure _ _

theorem openPacket_eq_ok {pkt plaintext : Bytes} {kind : MessageKind}
    (h : (openPacket P secure pkt kind).1 = .ok plaintext) : Opened P secure pkt kind plaintext := by
  unfold openPacket at h
  split at h
  · cases h
  · split at h
    · cases h
    · rename_i header hhd
      simp only at h
      split at h
      · cases h
      · rename_i hmt
        rw [not_or, not_not] at hmt
        have ho := (mapError_eq_ok).mp h
        exact ⟨header, hhd, hmt.1, openMessage_ready ho, ho⟩

theorem openFrame_asCreated (secure : SecureSession) (info data : Bytes) :
    (openFrame (P := P) secure info data).2.asCreated = secure.asCreated := by
  unfold openFrame
  simp only
  split
  · exact openPacket_asCreated secure info _
  · exact (openPacket_asCreated _ data _).trans (openPacket_asCreated secure info _)

/-- Both packets of a frame are opened by the session, the second one after the first. -/
theorem openFrame_eq_ok {info data infoJson annexB : Bytes}
    (h : (openFrame (P := P) secure info data).1 = .ok (infoJson, annexB)) :
    Opened P secure info .videoFrameInfo infoJson ∧
      ∃ sec', sec'.asCreated = secure.asCreated ∧ Opened P sec' data .videoFrameData annexB := by
  unfold openFrame at h
  simp only at h
  split at h
  · cases h
  · rename_i hinfo
    cases hdata : (openPacket P (openPacket P secure info .videoFrameInfo).2 data .videoFrameData).1 with
    | error =>
      rw [hdata] at h
      cases h
    | ok =>
      rw [hdata] at h
      cases h
      exact ⟨openPacket_eq_ok hinfo, _, openPacket_asCreated secure info _, openPacket_eq_ok hdata⟩

/-! ### What the controller's acts do to the callbacks -/

/-- The commands that are made and the events that are queued on the way from `s` to `s'`, while
the gate is open: either the key exchange is untouched, or there was a start. -/
structure ActsTo (s s' : FfiSession P) (commands : List Callback) (events : List ControllerSessionEvent) : Prop where
  delivered : s'.transport.delivered = s.transport.delivered ++ commands
  queued : s'.events = s.events ++ events
  gate : s'.transport.closing = false
  sessionId : s'.sessionId = s.sessionId
  closed : s.closeStarted.toNat + closes commands = s'.closeStarted.toNat
  quiet : ∀ e ∈ events, (Callback.event e).quiet = true
  effect : (s'.security = s.security ∧ (s'.state = s.state ∨ s'.state = .closed) ∧ ∀ c ∈ commands, c.quiet = true) ∨
    (s'.security = .default ∧ s'.state ≠ .streaming ∧ (∃ c ∈ commands, c.isStart = true) ∧
      ∀ c ∈ commands, c.isStart = true ∨ c.quiet = true)

theorem transitionTo_quiet (s : FfiSession P) (st : ControllerSessionState) (hs : st ≠ .streaming) :
    ∃ evs, (s.transitionTo st).events = s.events ++ evs ∧ ∀ e ∈ evs, (event e).quiet = true := by
  refine ⟨_, s.transitionTo_events st, fun e he => ?_⟩
  split at he
  · cases he
  · rw [List.mem_singleton.mp he]
    cases st with
    | streaming => exact absurd rfl hs
    | _ => rfl

theorem ActsTo.trans {s'' : FfiSession P} {cmds cmds' : List Callback}
    {evs evs' : List ControllerSessionEvent} (h : ActsTo s s' cmds evs)
    (h' : ActsTo s' s'' cmds' evs') : ActsTo s s'' (cmds ++ cmds') (evs ++ evs') := by
  refine ⟨by rw [h'.delivered, h.delivered, List.append_assoc], by rw [h'.queued, h.queued, List.append_assoc], h'.gate,
    h'.sessionId.trans h.sessionId, by rw [closes_append, ← h'.closed, ← h.closed, Nat.add_assoc],
      fun e he => (List.mem_append.mp he).elim (h.quiet e) (h'.quiet e), ?_⟩
  rcases h.effect with ⟨hy, hs, hqt⟩ | ⟨hy, hs, ⟨c, hc, ht⟩, hco⟩
  · rcases h'.effect with ⟨hy', hs', hqt'⟩ | ⟨hy', hs', ⟨c, hc, ht⟩, hc'⟩
    · refine .inl ⟨hy'.trans hy, ?_, fun c hc => (List.mem_append.mp hc).elim (hqt c) (hqt' c)⟩
      rcases hs' with hsm | hcl
      · rw [hsm]
        exact hs
      · exact .inr hcl
    · exact .inr ⟨hy', hs', ⟨c, List.mem_append_right _ hc, ht⟩,
        fun c hc => (List.mem_append.mp hc).elim (fun hc => .inr (hqt c hc)) (hc' c)⟩
  · refine .inr ?_
    rcases h'.effect with ⟨hy', hs', hqt'⟩ | ⟨hy', hs', -, hc'⟩
    · refine ⟨hy'.trans hy, ?_, ⟨c, List.mem_append_left _ hc, ht⟩,
        fun c hc => (List.mem_append.mp hc).elim (hco c) fun hc => .inr (hqt' c hc)⟩
      rcases hs' with hsm | hcl
      · rwa [hsm]
      · rw [hcl]
        decide
    · exact ⟨hy', hs', ⟨c, List.mem_append_left _ hc, ht⟩, fun c hc => (List.mem_append.mp hc).elim (hco c) (hc' c)⟩

theorem actsTo_refl (hg : s.transport.closing = false) : ActsTo s s [] [] :=
  ⟨by simp, by simp, hg, rfl, rfl, by simp, .inl ⟨rfl, .inl rfl, by simp⟩⟩

variable {t : CallbackTransport P}

theorem emitCommand_delivered (hg : t.closing = false) (kind : Command) (epoch : UInt64)
    (delivery : Option InputDelivery) (payload : Bytes) : t.emitCommand kind epoch delivery payload =
      (.ok (), { t with delivered := t.delivered ++ [.command kind epoch delivery payload] }) := by
  unfold CallbackTransport.emitCommand CallbackTransport.deliver
  rw [hg]
  rfl

theorem act_actsTo (hg : s.transport.closing = false) (ha : Act s s') :
    ∃ commands events, ActsTo s s' commands events := by
  cases ha with
  | recoverable reason =>
    exact ⟨[], [.recoverableTransportError reason], by simp [push], rfl, hg, rfl, rfl, by simp [quiet],
      .inl ⟨rfl, .inl rfl, by simp⟩⟩
  | fatal message =>
    exact ⟨[], [.fatalTransportError message], by simp [push], rfl, hg, rfl, rfl, by simp [quiet],
      .inl ⟨rfl, .inl rfl, by simp⟩⟩
  | started state hop hattempt =>
    have hs : state ≠ .streaming := hattempt.ne_streaming
    have htp : (s.attempt state).transport = s.transport := transitionTo_transport _ _
    obtain ⟨events, hev, hqt⟩ := transitionTo_quiet s.nextEpoch state hs
    have ht : (ControllerTransport.start (s.attempt state).transport (s.attempt state).connectionEpoch).2 =
        { s.transport with
          security := .default
          delivered := s.transport.delivered ++ [.command .start (s.attempt state).connectionEpoch none []] } := by
      rw [htp]
      exact congrArg Prod.snd (emitCommand_delivered (t := { s.transport with security := .default }) hg _ _ _ _)
    refine ⟨[.command .start (s.attempt state).connectionEpoch none []], events, ?_, hev, ?_,
      transitionTo_sessionId _ _, ?_, hqt, .inr ⟨?_, ?_, ?_, ?_⟩⟩
    · exact congrArg CallbackTransport.delivered ht
    · exact (congrArg CallbackTransport.closing ht).trans hg
    · exact congrArg Bool.toNat (transitionTo_closeStarted s.nextEpoch state).symm
    · exact congrArg CallbackTransport.security ht
    · rw [attempt, transitionTo_state]
      exact hs
    · exact ⟨_, List.mem_singleton.mpr rfl, rfl⟩
    · intro c hc
      rw [List.mem_singleton.mp hc]
      exact .inl rfl
  | closed hop =>
    rw [close, if_neg (by rw [hop]; decide)]
    have hcs := emitCommand_delivered hg .close 0 none []
    obtain ⟨events, hev, hqt⟩ := transitionTo_quiet
      { s with closeStarted := true, connectionEpoch := saturatingSucc s.connectionEpoch,
               transport := (s.transport.emitCommand .close 0 none []).2 } .closed (by decide)
    refine ⟨[.command .close 0 none []], events, ?_, hev, ?_, transitionTo_sessionId _ _, ?_, hqt,
      .inl ⟨?_, .inr (transitionTo_state _ _), ?_⟩⟩
    · rw [transitionTo_transport]
      exact congrArg (fun r => r.2.delivered) hcs
    · rw [transitionTo_transport]
      exact (congrArg (fun r => r.2.closing) hcs).trans hg
    · rw [transitionTo_closeStarted, hop]
      rfl
    · rw [FfiSession.security, transitionTo_transport]
      exact congrArg (fun r => r.2.security) hcs
    · intro c hc
      rw [List.mem_singleton.mp hc]
      rfl

theorem acts_actsTo (hg : s.transport.closing = false) (ha : Acts s s') :
    ∃ cmds events, ActsTo s s' cmds events := by
  induction ha with
  | refl => exact ⟨[], [], actsTo_refl hg⟩
  | tail _ hac ih =>
    obtain ⟨cmds, events, hto⟩ := ih
    obtain ⟨cmds', evs', hto'⟩ := act_actsTo hto.gate hac
    exact ⟨_, _, hto.trans hto'⟩

/-! ### What one entry point does -/

/-- The callbacks that an entry point makes, under the lock and after it, while the gate is open.
No event is left to wait. -/
structure Effects (s : FfiSession P) (entered : Entered P) (new : List Callback) : Prop where
  delivered : entered.session.transport.delivered ++ entered.callbacks = s.transport.delivered ++ new
  gate : entered.session.transport.closing = false
  events : entered.session.events = []
  sessionId : entered.session.sessionId = s.sessionId
  closed : s.closeStarted.toNat + closes new = entered.session.closeStarted.toNat

def Op.configures : Op → Bool
  | .configureHandshake _ _ => true
  | _ => false

/-- The system's time during the call, where it is asked for. -/
def Op.clock : Op → Option UInt64
  | .sendInput _ clock | .sendKeyframeRequest _ _ clock | .receiveSecureVideoFrame _ _ clock => clock
  | _ => none

/-- All that an entry point can do to the key exchange, with the callbacks it makes. -/
inductive OpStep (J : Json) (s : FfiSession P) : Op → Entered P → List Callback → Prop
  | kept {op entered new} (hkept : Kept s.security entered.session.security)
      (hstate : entered.session.state = s.state ∨ entered.session.state = .closed)
      (hquiet : ∀ c ∈ new, c.quiet = true) (hfails : op.configures = true → entered.result ≠ .ok ()) :
      OpStep J s op entered new
  | started {op entered new} (hdefault : entered.session.security = .default)
      (hstate : entered.session.state ≠ .streaming) (hstart : ∃ c ∈ new, c.isStart = true)
      (hnew : ∀ c ∈ new, c.isStart = true ∨ c.quiet = true) (hother : op.configures = false) :
      OpStep J s op entered new
  | configured {config key handshake entered new} (hstate : s.state = .connecting ∨ s.state = .reconnecting)
      (hnone : s.security.secureSession = none)
      (hhandshake : SessionHandshake.withEphemeralKey P config key = .ok handshake)
      (hsecurity : entered.session.security = { s.security with
        handshake := some handshake
        expiresAtEpochMillis := some config.context.sessionExpiresAtEpochMillis
        selectedTransportPath := some config.context.selectedTransportPath })
      (hsame : entered.session.state = s.state) (hquiet : ∀ c ∈ new, c.quiet = true) (hok : entered.result = .ok ()) :
      OpStep J s (.configureHandshake config key) entered new
  | signed {signature handshake message entered new} (hhandshake : s.security.handshake = some handshake)
      (hsecurity : entered.session.security =
        { s.security with handshake := some { handshake with localMessage := some message } })
      (hsame : entered.session.state = s.state) (hquiet : ∀ c ∈ new, c.quiet = true) (hok : entered.result = .ok ()) :
      OpStep J s (.submitKeyExchangeSignature signature) entered new
  | exchanged {message key now timestamp handshake ready entered new}
      (hhandshake : s.security.handshake = some handshake) (haccepts : handshake.Accepts P message key)
      (hfinish : SessionHandshake.finish P { handshake with peerMessage := some message } timestamp = .ok ready)
      (hsecurity : entered.session.security = { s.security with
        handshake := none
        secureSession := some ready.secureSession
        peerDeviceId := some message.payload.deviceId })
      (hsame : entered.session.state = s.state) (hquiet : ∀ c ∈ new, c.quiet = true) (hok : entered.result = .ok ()) :
      OpStep J s (.receivePeerKeyExchange message key now timestamp) entered new
  | confirmed {confirm now secure peerDeviceId u entered new} (hsecure : s.security.secureSession = some secure)
      (hverify : (secure.verifyPeerKeyConfirm P confirm peerDeviceId now).1 = .ok u)
      (hkept : Kept s.security entered.session.security)
      (hstate : entered.session.state = s.state ∨ s.state = .connecting ∨ s.state = .reconnecting)
      (hnew : ∀ c ∈ new, c = .event (.stateChanged .streaming)) (hok : entered.result = .ok ()) :
      OpStep J s (.receivePeerKeyConfirm confirm now) entered new
  | sealedPacket {op entered delivery packet} (hstreams : s.state = .streaming)
      (hseal : SealedNow P s.security op.clock packet) (hkept : Kept s.security entered.session.security)
      (hsame : entered.session.state = s.state) (hother : op.configures = false) :
      OpStep J s op entered [.command .sendSecurePacket 0 delivery packet]
  | frame {infoPacket dataPacket clock now expires secure secure' infoJson annexB info accessUnit format entered}
      (hstreams : s.state = .streaming) (hclock : clock = some now)
      (hactive : s.security.expiresAtEpochMillis = some expires ∧ now < expires)
      (hsecure : s.security.secureSession = some secure)
      (hinfo : Opened P secure infoPacket .videoFrameInfo infoJson)
      (hsame : secure'.asCreated = secure.asCreated) (hdata : Opened P secure' dataPacket .videoFrameData annexB)
      (hunit : accessUnitOf J s infoJson annexB = .ok (info, accessUnit))
      (hkept : Kept s.security entered.session.security) (hstate : entered.session.state = s.state) :
      OpStep J s (.receiveSecureVideoFrame infoPacket dataPacket clock) entered
        [.videoFormat format, .event (.h264 accessUnit)]

/-- An entry point makes some callbacks, and does what it can do. -/
abbrev Enters (J : Json) (s : FfiSession P) (op : Op) (entered : Entered P) : Prop :=
  ∃ new, Effects s entered new ∧ OpStep J s op entered new

def frameEvents (accessUnit : Option H264AccessUnit) : List ControllerSessionEvent := (accessUnit.map .h264).toList

/-- How an entry point ends. -/
inductive Ends (J : Json) (s : FfiSession P) : Op → Entered P → Prop
  | failed {op security} (hkept : Kept s.security security) (code : Code) :
      Ends J s op (failWith (s.setSecurity security) code)
  | commanded {op security kind delivery payload} (hkind : kind ≠ .close)
      (hstep : OpStep J s op (thenCommand (s.setSecurity security) kind delivery payload)
        [.command kind 0 delivery payload]) :
      Ends J s op (thenCommand (s.setSecurity security) kind delivery payload)
  | acted {op r} (hother : op.configures = false) (hacts : Acts s r.2) : Ends J s op (runSession r)
  | handled {op epoch event} (security : SessionSecurity)
      (hstep : s.transport.closing = false → s.events = [] → ∀ call, readCall J call = .ok op →
        Enters J s op (runSession ((s.setSecurity security).handleTransportEvent epoch event))) :
      Ends J s op (runSession ((s.setSecurity security).handleTransportEvent epoch event))
  | input {input clock} : Ends J s (.sendInput input clock) (enter J s (.sendInput input clock))
  | framed {op security} (format : Bytes) (accessUnit : Option H264AccessUnit)
      (hstep : OpStep J s op ⟨drain (s.setSecurity security), true,
          .videoFormat format :: (s.events ++ frameEvents accessUnit).map .event, .ok (), .error .invalidHandle⟩
        (.videoFormat format :: (frameEvents accessUnit).map .event)) :
      Ends J s op ⟨drain (s.setSecurity security), true,
        .videoFormat format :: (s.events ++ frameEvents accessUnit).map .event, .ok (), .error .invalidHandle⟩

section Entries

variable {J : Json} {s : FfiSession P} {op : Op}
  {r : Except ControllerSessionError Unit × FfiSession P} {event : ControllerTransportEvent}

theorem runSession_step (hg : s.transport.closing = false) (hev : s.events = [])
    (ho : op.configures = false) (has : Acts s r.2) : Enters J s op (runSession r) := by
  obtain ⟨cmds, events, hto⟩ := acts_actsTo hg has
  have hq : r.2.events = events := by rw [hto.queued, hev, List.nil_append]
  have hqt : ∀ c ∈ events.map event, c.quiet = true := by
    intro c hc
    obtain ⟨e, he, rfl⟩ := List.mem_map.mp hc
    exact hto.quiet e he
  refine ⟨cmds ++ events.map .event, ⟨?_, hto.gate, rfl, hto.sessionId, ?_⟩, ?_⟩
  · show r.2.transport.delivered ++ r.2.events.map .event = _
    rw [hq, hto.delivered, List.append_assoc]
  · rw [closes_append, closes_events]
    exact hto.closed
  · rcases hto.effect with ⟨hy, hs, hco⟩ | ⟨hy, hs, ⟨c, hc, ht⟩, hco⟩
    · refine .kept ?_ hs (fun c hc => (List.mem_append.mp hc).elim (hco c) (hqt c)) ?_
      · show Kept s.security r.2.security
        rw [hy]
        exact .refl _
      · rw [ho]
        exact nofun
    · exact .started hy hs ⟨c, List.mem_append_left _ hc, ht⟩
        (fun c hc => (List.mem_append.mp hc).elim (hco c) fun hc => .inr (hqt c hc)) ho

variable (hg : s.transport.closing = false) (hev : s.events = [])

include hg hev

theorem connected_step {confirm : KeyConfirm} {peerDeviceId : String} {now : UInt64} {u : Unit}
    (hs : s.security.secureSession = some secure)
    (hvf : (secure.verifyPeerKeyConfirm P confirm peerDeviceId now).1 = .ok u) (hkp : Kept s.security security)
    (hr : (s.setSecurity security).handleTransportEvent s.connectionEpoch .connected = r) (hok : r.1 = .ok ()) :
    Enters J s (.receivePeerKeyConfirm confirm now) (runSession r) := by
  have hre : (runSession r).result = .ok () := by
    unfold runSession
    rw [hok]
    rfl
  unfold handleTransportEvent at hr
  split at hr
  · subst hr
    refine ⟨[], ⟨?_, hg, rfl, rfl, rfl⟩, .confirmed hs hvf hkp (.inl rfl) (by simp) hre⟩
    show s.transport.delivered ++ s.events.map .event = _
    rw [hev]
    rfl
  · simp only at hr
    split_ifs at hr with href
    · subst hr
      cases hok
    · subst hr
      have hst : s.state = .connecting ∨ s.state = .reconnecting := or_iff_not_and_not.mpr href
      refine ⟨if s.state = .streaming then [] else [.event (.stateChanged .streaming)],
        ⟨?_, ?_, rfl, transitionTo_sessionId _ _, ?_⟩, .confirmed hs hvf ?_
        (.inr hst) ?_ hre⟩
      · show ((s.setSecurity security).transitionTo .streaming).transport.delivered ++
          ((s.setSecurity security).transitionTo .streaming).events.map .event = _
        rw [transitionTo_transport, transitionTo_events]
        show s.transport.delivered ++ (s.events ++ if s.state = _ then [] else _).map _ = _
        rw [hev]
        split <;> rfl
      · show ((s.setSecurity security).transitionTo .streaming).transport.closing = false
        rw [transitionTo_transport]
        exact hg
      · show _ = ((s.setSecurity security).transitionTo .streaming).closeStarted.toNat
        rw [transitionTo_closeStarted]
        split <;> rfl
      · show Kept s.security ((s.setSecurity security).transitionTo .streaming).transport.security
        rw [transitionTo_transport]
        exact hkp
      · intro c hc
        split at hc
        · cases hc
        · exact List.mem_singleton.mp hc

omit hg hev in
theorem CallbackTransport.sendInput_cases (hg : t.closing = false) (payload : Bytes) (delivery : InputDelivery) :
    Kept t.security (t.sendInput payload delivery).2.security ∧ (t.sendInput payload delivery).2.closing = false ∧
      ((t.sendInput payload delivery).2.delivered = t.delivered ∨ ∃ pkt, SealedNow P t.security t.clock pkt ∧
        (t.sendInput payload delivery).2.delivered =
          t.delivered ++ [.command .sendSecurePacket 0 (some delivery) pkt]) := by
  obtain ⟨res, security, hs, hk, hsealed⟩ :=
    sealPacket_cases t.security t.clock .inputEvent (inputChannel delivery) payload
  unfold CallbackTransport.sendInput
  rw [hs]
  cases res with
  | error => exact ⟨hk, hg, .inl rfl⟩
  | ok pkt =>
    simp only [emitCommand_delivered (t := { t with security }) hg]
    exact ⟨hk, hg, .inr ⟨pkt, hsealed pkt rfl, rfl⟩⟩

theorem sendInput_step (inp : InputEvent) (clock : Option UInt64) :
    Enters J s (.sendInput inp clock) (enter J s (.sendInput inp clock)) := by
  have hc := sendInput_cases (fun e => some (J.ofInputEvent e)) (s.atTime clock) inp
  show Enters J s _ (runSession ((s.atTime clock).sendInput _ inp))
  generalize (s.atTime clock).sendInput (fun e => some (J.ofInputEvent e)) inp = r at hc
  obtain ⟨res, s'⟩ := r
  have hno (delivered : List Callback) : delivered ++ s.events.map .event = delivered := by
    rw [hev, List.map_nil, List.append_nil]
  rcases hc with rfl | ⟨payload, delivery, -, hs, -, -, rfl⟩
  · refine ⟨[], ⟨?_, hg, rfl, rfl, rfl⟩, .kept (.refl _) (.inl rfl) (by simp) (nofun)⟩
    exact (hno _).trans (List.append_nil _).symm
  · obtain ⟨hkp, hgate', hst⟩ := CallbackTransport.sendInput_cases (t := (s.atTime clock).transport) hg payload delivery
    rcases hst with hsm | ⟨pkt, hsl, hst⟩
    · refine ⟨[], ⟨?_, hgate', rfl, rfl, rfl⟩, .kept hkp (.inl rfl) (by simp) (nofun)⟩
      exact ((hno _).trans hsm).trans (List.append_nil _).symm
    · exact ⟨_, ⟨(hno _).trans hst, hgate', rfl, rfl, rfl⟩, .sealedPacket hs hsl hkp rfl rfl⟩

omit hg hev in
theorem transportEventOf_eq_ok {kind : Int} {reason : String} (h : transportEventOf kind reason = .ok event) :
    (∃ rec reason, event = .disconnected rec reason) ∨ event = .closed := by
  unfold transportEventOf at h
  split at h
  · cases h
  split at h
  · cases h
    exact .inl ⟨true, reason, rfl⟩
  split at h
  · cases h
    exact .inl ⟨false, reason, rfl⟩
  split at h
  · cases h
    exact .inr rfl
  · cases h

variable {call : FfiCall} {epoch : UInt64}

omit hg hev in
/-- A transport reports no connection and no frame. -/
theorem readCall_transportEvent (hr : readCall J call = .ok (.transportEvent epoch event)) :
    (∃ rec reason, event = .disconnected rec reason) ∨ event = .closed := by
  cases call with
  | connect | close | destroy => cases hr
  | transportEvent _ _ reason =>
    simp only [readCall, bind_eq_ok, pure_eq_ok] at hr
    obtain ⟨-, -, reason, -, ev', he, heq⟩ := hr
    obtain ⟨-, rfl⟩ := Op.transportEvent.inj heq
    exact transportEventOf_eq_ok he
  | _ =>
    simp only [readCall, bind_eq_ok, pure_eq_ok, reduceCtorEq, and_false, exists_false] at hr

theorem transportEvent_step (hr : readCall J call = .ok (.transportEvent epoch event)) :
    Enters J s (.transportEvent epoch event) (runSession (s.handleTransportEvent epoch event)) := by
  refine runSession_step hg hev rfl ?_
  have hmv := handleTransportEvent_moved (fun e => some (J.ofInputEvent e)) s epoch event
  rcases readCall_transportEvent hr with ⟨rec, reason, rfl⟩ | rfl
  · cases hmv with
    | acts _ ha => exact ha
  · cases hmv with
    | acts _ ha => exact ha

omit hg hev

theorem configureHandshake_ends (cfg : SessionHandshakeConfig) (key : EphemeralKeyPair) :
    Ends J s (.configureHandshake cfg key) (configureHandshake s cfg key) := by
  have hfail (code : Code) : Ends J s (.configureHandshake cfg key) (failWith s code) := .failed (.refl s.security) code
  unfold configureHandshake
  split
  · exact hfail .invalidState
  · rename_i hr
    split_ifs with hbusy
    · exact hfail .invalidState
    · split
      · exact hfail .securityError
      · rename_i hhs
        split
        · exact hfail .securityError
        · simp only [not_or, Bool.not_eq_true, Option.isSome_eq_false_iff, Option.isNone_iff_eq_none] at hr hbusy
          have hs : s.state = .connecting ∨ s.state = .reconnecting := or_iff_not_and_not.mpr hr.2
          exact .commanded (by decide) (.configured hs hbusy.2 hhs rfl rfl (by simp [quiet]) rfl)

theorem submitKeyExchangeSignature_ends (signature : Bytes) :
    Ends J s (.submitKeyExchangeSignature signature) (submitKeyExchangeSignature J s signature) := by
  unfold submitKeyExchangeSignature
  split
  · exact .failed (.refl s.security) _
  · rename_i handshake hhs
    simp only
    split
    · rename_i he
      rw [show (handshake.setLocalSignature P signature).2 = handshake from commit_of_error he]
      exact .failed (.of_handshake (.inl hhs.symm)) _
    · rename_i hm
      obtain ⟨-, hs⟩ := SessionHandshake.setLocalSignature_eq_ok hm
      rw [hs]
      exact .commanded (by decide) (.signed hhs rfl rfl (by simp [quiet]) rfl)

theorem receivePeerKeyExchange_ends (message : SignedKeyExchange) (key : ByteArr 32) (now timestamp : UInt64) :
    Ends J s (.receivePeerKeyExchange message key now timestamp)
      (receivePeerKeyExchange J s message key now timestamp) := by
  unfold receivePeerKeyExchange
  rcases ensureSessionActive_cases s.security now with ⟨e, security, ha, hk⟩ | ⟨ha, -⟩
  · rw [ha]
    exact .failed hk e
  · rw [ha]
    rcases ensureSessionActive_cases s.security timestamp with ⟨e, security, ha, hk⟩ | ⟨ha, -⟩
    · simp only [ha]
      exact .failed hk e
    · simp only [ha]
      split
      · exact .failed (.refl _) _
      · rename_i handshake hhs
        split
        · rename_i he
          rw [show (handshake.verifyPeerMessage P message key now).2 = handshake from commit_of_error he]
          exact .failed (.of_handshake (.inl hhs.symm)) _
        · rename_i hvf
          obtain ⟨haccepts, hs⟩ := SessionHandshake.verifyPeerMessage_eq_ok hvf
          rw [hs]
          unfold finishHandshake
          split
          · exact .failed (.of_handshake (.inr rfl)) _
          · rename_i hf
            exact .commanded (by decide) (.exchanged hhs haccepts hf rfl rfl (by simp [quiet]) rfl)

theorem verifyPeerKeyConfirm_asCreated (secure : SecureSession) (confirm : KeyConfirm) (deviceId : String)
    (now : UInt64) : (secure.verifyPeerKeyConfirm P confirm deviceId now).2.asCreated = secure.asCreated :=
  (verifyPeerKeyConfirm_outcome confirm deviceId now).asCreated_eq

theorem receivePeerKeyConfirm_ends (confirm : KeyConfirm) (now : UInt64) :
    Ends J s (.receivePeerKeyConfirm confirm now) (receivePeerKeyConfirm s confirm now) := by
  unfold receivePeerKeyConfirm
  rcases ensureSessionActive_cases s.security now with ⟨e, security, hai, hkp⟩ | ⟨hai, -⟩
  · rw [hai]
    exact .failed hkp e
  · simp only [hai]
    split
    · exact .failed (.refl _) _
    · rename_i peerDeviceId hpe
      split
      · exact .failed (.refl _) _
      · rename_i secure hs
        have hve := Kept.of_secure hs (verifyPeerKeyConfirm_asCreated (P := P) secure confirm peerDeviceId now)
        split
        · exact .failed hve _
        · rename_i hvf
          split
          · rename_i he
            rw [handleTransportEvent_connected_of_error _ he]
            exact .failed hve _
          · rename_i hcd
            exact .handled _ fun hg hev _ _ =>
              connected_step hg hev hs hvf hve rfl hcd

theorem sendKeyframeRequest_ends (payload : Bytes) (req : KeyframeRequest) (clock : Option UInt64) :
    Ends J s (.sendKeyframeRequest payload req clock) (sendKeyframeRequest s payload req clock) := by
  unfold sendKeyframeRequest
  split_ifs with hr
  · exact .failed (.refl s.security) _
  · rw [not_or, not_not] at hr
    obtain ⟨res, security, hs, hk, hse⟩ := sealPacket_cases s.security clock .keyframeRequest .mediaControl payload
    rw [hs]
    cases res with
    | error e => exact .failed hk e
    | ok pkt => exact .commanded (by decide) (.sealedPacket hr.1 (hse pkt rfl) hk rfl rfl)

theorem receiveSecureVideoFrame_ends (infoPacket data : Bytes) (clock : Option UInt64) :
    Ends J s (.receiveSecureVideoFrame infoPacket data clock)
      (receiveSecureVideoFrame J s infoPacket data clock) := by
  unfold receiveSecureVideoFrame
  rcases ensureActiveNow_cases s.security clock with ⟨e, security, hai, hkp⟩ | ⟨hai, now, expires, hc, hx⟩
  · rw [hai]
    exact .failed hkp e
  · simp only [hai]
    split
    · exact .failed (.refl _) _
    · rename_i secure hsecure
      have ho := Kept.of_secure hsecure (openFrame_asCreated (P := P) secure infoPacket data)
      split
      · exact .failed ho _
      · rename_i hf
        obtain ⟨hinfo, sec', hsm, hdata⟩ := openFrame_eq_ok hf
        split
        · exact .failed ho _
        · rename_i info accessUnit hunit
          generalize hs : s.setSecurity { s.security with
            secureSession := some (openFrame secure infoPacket data).2 } = s' at hunit ⊢
          have hh264 := s'.handleTransportEvent_h264 s'.connectionEpoch accessUnit
          generalize s'.handleTransportEvent s'.connectionEpoch (.h264 accessUnit) = r at hh264 ⊢
          obtain ⟨res, after⟩ := r
          subst hs
          rcases hh264 with rfl | ⟨hstate, hq⟩
          · cases res with
            | error => exact .failed ho _
            | ok =>
              have h : Ends J s (.receiveSecureVideoFrame infoPacket data clock) _ :=
                .framed (J.ofVideoFormat ⟨info.displayId, info.width, info.height⟩) none
                  (.kept ho (.inl rfl) (by simp [quiet, frameEvents]) nofun)
              rw [show frameEvents none = [] from rfl, List.append_nil] at h
              exact h
          · cases hq
            exact .framed _ (some accessUnit) (.frame hstate hc hx hsecure hinfo hsm hdata hunit ho rfl)

theorem enter_ends (hl : op.destroys = false) : Ends J s op (enter J s op) := by
  cases op with
  | connect => exact .acted rfl (connect_acts s)
  | configureHandshake cfg key => exact configureHandshake_ends cfg key
  | submitKeyExchangeSignature sig => exact submitKeyExchangeSignature_ends sig
  | receivePeerKeyExchange msg key now ts => exact receivePeerKeyExchange_ends msg key now ts
  | receivePeerKeyConfirm confirm now => exact receivePeerKeyConfirm_ends confirm now
  | sendInput => exact .input
  | sendKeyframeRequest payload req clock => exact sendKeyframeRequest_ends payload req clock
  | transportEvent epoch event =>
    exact .handled s.security fun hg hev _ hr => transportEvent_step hg hev hr
  | receiveSecureVideoFrame info data clock =>
    exact receiveSecureVideoFrame_ends info data clock
  | close => exact .acted rfl (close_acts s)
  | destroy => cases hl

include hg hev in
theorem enter_opStep (hrd : readCall J call = .ok op) (hl : op.destroys = false) :
    Enters J s op (enter J s op) := by
  have hed := enter_ends (J := J) (s := s) hl
  generalize enter J s op = entered at hed ⊢
  cases hed with
  | failed hkp =>
    refine ⟨[], ⟨rfl, hg, hev, rfl, rfl⟩, .kept hkp (.inl rfl) (by simp) fun _ h => ?_⟩
    cases h
  | @commanded _ _ kind _ _ hki hst =>
    refine ⟨_, ⟨rfl, hg, hev, rfl, ?_⟩, hst⟩
    cases kind with
    | close => exact absurd rfl hki
    | _ => rfl
  | acted ho has => exact runSession_step hg hev ho has
  | handled _ hst => exact hst hg hev call hrd
  | @input input clock => exact sendInput_step hg hev input clock
  | framed format accessUnit hst =>
    refine ⟨_, ⟨?_, hg, rfl, rfl, ?_⟩, hst⟩
    · rw [hev]
      rfl
    · cases accessUnit <;> rfl

end Entries

/-! ### Calls -/

abbrev FfiEntry (P : Primitives) := Entry (Handle P) FfiCall (Except Code Unit)

def made (e : FfiEntry P) : List Callback :=
  e.post.session.transport.delivered.drop e.pre.session.transport.delivered.length

theorem Callback.isStart_of_quiet {c : Callback} (h : c.quiet = true) : c.isStart = false := by
  cases c with
  | command kind => cases kind <;> first | rfl | cases h
  | _ => rfl

theorem accessUnitOf_eq_ok {J : Json} {infoJson annexB : Bytes} {info : VideoFrameInfo} {u : H264AccessUnit}
    (h : accessUnitOf J s infoJson annexB = .ok (info, u)) :
    J.videoFrameInfo infoJson = some info ∧ info.sessionId = s.sessionId ∧
      info.frameBytesLen.toNat = annexB.length ∧ u.data = annexB := by
  simp only [accessUnitOf, bind_eq_ok, okOr_eq_ok, ensure_eq_ok, Bool.and_eq_true, decide_eq_true_eq] at h
  obtain ⟨info, hinfo, -, ⟨⟨hid, hl⟩, -⟩, -, -, rfl, rfl⟩ := h
  exact ⟨hinfo, hid, hl, rfl⟩

theorem readCall_connected (J : Json) (epoch : UInt64) (reason : Arg) :
    ∃ code, readCall J (.transportEvent epoch 1 reason) = .error code := by
  cases hr : readCall J (.transportEvent epoch 1 reason) with
  | error code => exact ⟨code, rfl⟩
  | ok =>
    simp only [readCall, bind_eq_ok] at hr
    obtain ⟨_, _, _, _, event, he, _⟩ := hr
    cases he

/-- A call whose arguments were read, on a known handle with an open gate. -/
structure Completed (J : Json) (e : FfiEntry P) (op : Op) : Prop where
  read : readCall J e.call = .ok op
  step : OpStep J e.pre.session op (enter J e.pre.session op) (made e)
  out : e.out = (enter J e.pre.session op).result
  security : e.post.session.security = (enter J e.pre.session op).session.security
  state : e.post.session.state = (enter J e.pre.session op).session.state
  sessionId : e.post.session.sessionId = e.pre.session.sessionId
  gate : e.post.session.transport.closing = false
  events : e.post.session.events = []
  delivered : e.post.session.transport.delivered = e.pre.session.transport.delivered ++ made e
  closed : e.pre.session.closeStarted.toNat + closes (made e) = e.post.session.closeStarted.toNat

inductive CallStep (J : Json) (e : FfiEntry P) : Prop
  | refused (hpost : e.post = e.pre) (hout : e.out ≠ .ok ())
  | destroyed (hread : readCall J e.call = .ok .destroy) (hknown : e.post.known = false) (hmade : made e = [])
  | completed {op : Op} (hknown : e.post.known = true) (h : Completed J e op)

section Calls

variable {J : Json} {handle : Handle P}

theorem made_of_post_eq {e : FfiEntry P} (h : e.post = e.pre) : made e = [] := by
  rw [made, h, List.drop_length]

/-- Closing the session behind a closed gate makes no callback. -/
theorem destroySession_complete (s : FfiSession P) :
    (destroySession s).complete.2.transport.delivered = s.transport.delivered := by
  unfold Entered.complete CallbackTransport.deliver
  split
  · exact destroySession_delivered s
  · exact (List.append_nil _).trans (destroySession_delivered s)

theorem Effects.complete_eq {entered : Entered P} {new : List Callback} (h : Effects s entered new) :
    entered.complete = (entered.result, { entered.session with
      transport := { entered.session.transport with delivered := s.transport.delivered ++ new } }) := by
  have ho : ¬ entered.session.transport.closing = true := by
    rw [h.gate]
    decide
  unfold Entered.complete CallbackTransport.deliver
  rw [if_neg ho, if_neg ho, h.delivered]

theorem ffiStep_callStep (hkn : handle.known = true) (hg : handle.session.transport.closing = false)
    (hev : handle.session.events = []) (call : FfiCall) : CallStep J (entry (ffiStep J) handle call) := by
  cases hrd : readCall J call with
  | error code =>
    have hst : ffiStep J handle call = (.error code, handle) := by
      unfold ffiStep
      rw [hrd]
    refine .refused (congrArg Prod.snd hst) ?_
    rw [entry_out, hst]
    exact nofun
  | ok op =>
    have hst : ffiStep J handle call = ((enter J handle.session op).complete.1,
        ⟨(enter J handle.session op).complete.2, !op.destroys⟩) := by
      unfold ffiStep
      rw [hrd, hkn]
      rfl
    cases hd : op.destroys with
    | true =>
      cases op with
      | destroy =>
        refine .destroyed hrd (congrArg (fun r => r.2.known) hst) ?_
        rw [made, entry_post, hst]
        show List.drop _ ((destroySession handle.session).complete.2.transport.delivered) = []
        rw [destroySession_complete, entry_pre, List.drop_length]
      | _ => cases hd
    | false =>
      obtain ⟨new, he, hop⟩ := enter_opStep hg hev hrd hd
      rw [he.complete_eq, hd] at hst
      have hma : made (entry (ffiStep J) handle call) = new := by
        rw [made, entry_post, hst]
        exact List.drop_left
      refine .completed (congrArg (fun r => r.2.known) hst) ⟨hrd, ?_, congrArg Prod.fst hst, ?_, ?_, ?_, ?_, ?_, ?_, ?_⟩
      · rw [hma]
        exact hop
      · exact congrArg (fun r => r.2.session.security) hst
      · exact congrArg (fun r => r.2.session.state) hst
      · exact (congrArg (fun r => r.2.session.sessionId) hst).trans he.sessionId
      · exact (congrArg (fun r => r.2.session.transport.closing) hst).trans he.gate
      · exact (congrArg (fun r => r.2.session.events) hst).trans he.events
      · rw [hma]
        exact congrArg (fun r => r.2.session.transport.delivered) hst
      · rw [hma]
        exact he.closed.trans (congrArg (fun r => r.2.session.closeStarted.toNat) hst).symm

theorem ffiStep_unknown (hkn : handle.known = false) (call : FfiCall) : (ffiStep J handle call).2 = handle := by
  unfold ffiStep
  split
  · rfl
  · rw [hkn]
    rfl

end Calls

/-! ### A session

The controller's side of the exchange of `SessionHandshake.Exchange`. -/

namespace Sample

open SessionHandshake

/-- JSON in which every text reads as the values of the sample exchange. -/
def json : Json where
  handshakeConfig _ := some {
    sessionId := 1
    accountId := "account"
    controllerDeviceId := "controller"
    controlledDeviceId := "controlled"
    permissions := SecureSession.Sample.permissions
    permissionsDigest := SecureSession.Sample.digest.toList
    protocolVersion := 1
    sessionExpiresAtEpochMillis := 10000
    selectedTransportPath := .lanDirect
    selectedCandidatePairId := "00000000000000000000000000000009"
    relayNodeId := none
    localDevicePublicKey := (Exchange.deviceKey .controller).toList
    keyExchangeNonce := List.replicate 32 3
    timestampEpochMillis := 1000 }
  signedKeyExchange _ := some (Exchange.message .controlled)
  keyConfirm _ := some (SecureSession.Sample.confirm .controlled)
  inputEvent _ := none
  keyframeRequest _ := some ⟨1⟩
  videoFrameInfo _ := none
  ofSignedKeyExchange _ := []
  ofKeyConfirm _ := []
  ofInputEvent _ := []
  ofVideoFormat _ := []

def after (calls : List FfiCall) : Handle Exchange.primitives := final (ffiStep json) (.create _ 1) calls

end Sample

end Rctl.Ffi
