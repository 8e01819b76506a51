/-
# Frames on the wire

`remote-transport/src/channel.rs` and the video streams of `quic.rs`. A frame is a header and a
payload of the length the header gives; on the wire the one follows the other. A stream of video
frames is parsed frame by frame. `slice` is `none` where the code would index out of bounds, and
the loop has more turns than the stream has bytes, so `none` is a parser that panics or does not
end; `parseVideoStream_sound` says that there is none.

Lengths are natural numbers: a byte string in memory is shorter than `2^63`, so the additions of
the code, checked or not, do not overflow.

The encoder does not look at the version of a header, the decoder accepts `PROTOCOL_VERSION` only,
and ignores what follows the first `HEADER_LEN` bytes.
-/
import Rctl.Lib.Result
import Rctl.Protocol.Header

namespace Rctl

open ByteString Result

inductive DataChannelFailure
  | cancelled
  | timeout
  | invalidAddress
  | authentication
  | connection
  | closed
  | protocol
  | frameTooLarge
  | resourceLimit
  | datagramUnavailable
  | backpressure
  | invalidConfiguration
  | io
  deriving DecidableEq, Repr

/-- The name that `{:?}` writes. -/
def DataChannelFailure.name : DataChannelFailure → String
  | cancelled => "Cancelled"
  | timeout => "Timeout"
  | invalidAddress => "InvalidAddress"
  | authentication => "Authentication"
  | connection => "Connection"
  | closed => "Closed"
  | protocol => "Protocol"
  | frameTooLarge => "FrameTooLarge"
  | resourceLimit => "ResourceLimit"
  | datagramUnavailable => "DatagramUnavailable"
  | backpressure => "Backpressure"
  | invalidConfiguration => "InvalidConfiguration"
  | io => "Io"

structure DataChannelError where
  kind : DataChannelFailure
  operation : String
  deriving DecidableEq, Repr

def DataChannelError.toText (error : DataChannelError) : String := error.kind.name ++ " during " ++ error.operation

structure DataChannelLimits where
  maxFramePayloadBytes : ℕ
  maxVideoStreamMessages : ℕ
  deriving DecidableEq, Repr

/-- A frame as `OpaqueFrame::new` lets it be made. -/
structure OpaqueFrame where
  header : MessageHeader
  payload : Bytes
  valid : header.validateKindChannel = .ok ()
  length : header.payloadLen.toNat = payload.length
  sequence : header.sequence ≤ MAX_SECURE_SEQUENCE
  deriving DecidableEq

namespace OpaqueFrame

def new (header : MessageHeader) (payload : Bytes) : Except DataChannelError OpaqueFrame :=
  if hvalid : header.validateKindChannel = .ok () then
    if h : header.payloadLen.toNat = payload.length ∧ header.sequence ≤ MAX_SECURE_SEQUENCE then
      .ok ⟨header, payload, hvalid, h.1, h.2⟩
    else .error ⟨.protocol, "validate_frame"⟩
  else .error ⟨.protocol, "validate_frame"⟩

def toWireBytes (frame : OpaqueFrame) : Bytes := encodeHeader frame.header ++ frame.payload

def validateFor (frame : OpaqueFrame) (sessionId : U128) (limits : DataChannelLimits) :
    Except DataChannelError Unit := do
  ensure (frame.header.sessionId = sessionId) ⟨.protocol, "validate_session"⟩
  ensure (frame.payload.length ≤ limits.maxFramePayloadBytes) ⟨.frameTooLarge, "validate_frame"⟩

def fromWireBytes (bytes : Bytes) (sessionId : U128) (limits : DataChannelLimits) :
    Option (Except DataChannelError OpaqueFrame) :=
  if bytes.length < HEADER_LEN then some (.error ⟨.protocol, "decode_frame"⟩)
  else do
    let front ← slice bytes 0 HEADER_LEN
    match decodeHeader front with
    | .error _ => some (.error ⟨.protocol, "decode_frame_header"⟩)
    | .ok header =>
      let payloadLen := header.payloadLen.toNat
      if limits.maxFramePayloadBytes < payloadLen then some (.error ⟨.frameTooLarge, "decode_frame_length"⟩)
      else if bytes.length ≠ HEADER_LEN + payloadLen then some (.error ⟨.protocol, "decode_frame_length"⟩)
      else do
        let payload ← slice bytes HEADER_LEN bytes.length
        some do
          let frame ← new header payload
          frame.validateFor sessionId limits
          return frame

end OpaqueFrame

open OpaqueFrame

/-- The frames of a video stream, from the one at `index` on. -/
def validateVideoFramesFrom (sessionId : U128) (limits : DataChannelLimits) :
    ℕ → List OpaqueFrame → Except DataChannelError Unit
  | _, [] => .ok ()
  | index, frame :: frames => do
    frame.validateFor sessionId limits
    let expectedKind := if index = 0 then MessageKind.videoFrameInfo else MessageKind.videoFrameData
    ensure (frame.header.channelId = .video && frame.header.kind = expectedKind) ⟨.protocol, "validate_video_stream"⟩
    validateVideoFramesFrom sessionId limits (index + 1) frames

def validateVideoFrames (frames : List OpaqueFrame) (sessionId : U128) (limits : DataChannelLimits) :
    Except DataChannelError Unit :=
  if frames.length < 2 ∨ limits.maxVideoStreamMessages < frames.length then
    .error ⟨.resourceLimit, "validate_video_stream"⟩
  else validateVideoFramesFrom sessionId limits 0 frames

/-- The loop of `parse_video_stream`, for at most as many turns as the first number. -/
def parseVideoStreamLoop (bytes : Bytes) (sessionId : U128) (limits : DataChannelLimits) :
    ℕ → ℕ → List OpaqueFrame → Option (Except DataChannelError (List OpaqueFrame))
  | 0, _, _ => none
  | turns + 1, offset, frames =>
    if offset < bytes.length then
      if limits.maxVideoStreamMessages ≤ frames.length ∨ bytes.length - offset < HEADER_LEN then
        some (.error ⟨.resourceLimit, "parse_video_stream"⟩)
      else do
        let front ← slice bytes offset (offset + HEADER_LEN)
        match decodeHeader front with
        | .error _ => some (.error ⟨.protocol, "parse_video_stream"⟩)
        | .ok header =>
          let stop := offset + HEADER_LEN + header.payloadLen.toNat
          if stop ≤ bytes.length then do
            let part ← slice bytes offset stop
            match ← fromWireBytes part sessionId limits with
            | .error e => some (.error e)
            | .ok frame => parseVideoStreamLoop bytes sessionId limits turns stop (frames ++ [frame])
          else some (.error ⟨.protocol, "parse_video_stream"⟩)
    else some (.ok frames)

def parseVideoStream (bytes : Bytes) (sessionId : U128) (limits : DataChannelLimits) :
    Option (Except DataChannelError (List OpaqueFrame)) :=
  parseVideoStreamLoop bytes sessionId limits (bytes.length + 1) 0 []

def wireBytes (frames : List OpaqueFrame) : Bytes := frames.flatMap toWireBytes

/-! ### One frame -/

variable {frame : OpaqueFrame} {sessionId : U128} {u : Unit}

namespace OpaqueFrame

variable {limits : DataChannelLimits} {bytes rest : Bytes}

theorem new_self (frame : OpaqueFrame) : new frame.header frame.payload = .ok frame := by
  rw [new, dif_pos frame.valid, dif_pos ⟨frame.length, frame.sequence⟩]

theorem new_eq_ok {header : MessageHeader} {payload : Bytes} (h : new header payload = .ok frame) :
    frame.header = header ∧ frame.payload = payload := by
  unfold new at h
  split at h
  · split at h
    · cases h
      exact ⟨rfl, rfl⟩
    · cases h
  · cases h

theorem length_toWireBytes (frame : OpaqueFrame) :
    frame.toWireBytes.length = HEADER_LEN + frame.header.payloadLen.toNat := by
  rw [toWireBytes, List.length_append, length_encodeHeader, frame.length]

theorem validateFor_eq_ok :
    frame.validateFor sessionId limits = .ok u ↔ frame.header.sessionId = sessionId ∧ frame.payload.length ≤
      limits.maxFramePayloadBytes := by
  simp [validateFor, bind_eq_ok, ensure_eq_ok]

/-- The header tells where the payload ends. -/
theorem selfDelimiting_toWireBytes : SelfDelimiting (fun _ : OpaqueFrame => True) toWireBytes := by
  intro a b x y _ _ h
  simp only [toWireBytes, List.append_assoc] at h
  obtain ⟨hhd, h⟩ := List.append_inj h (by rw [length_encodeHeader, length_encodeHeader])
  have hhd := encodeHeader_inj hhd
  have hl : a.payload.length = b.payload.length := by rw [← a.length, ← b.length, hhd]
  obtain ⟨hp, hxy⟩ := List.append_inj h hl
  obtain ⟨header, pl, _, _, _⟩ := a
  cases hhd
  cases hp
  exact ⟨rfl, hxy⟩

theorem slice_header {off : ℕ} (h : bytes.drop off = frame.toWireBytes ++ rest) :
    slice bytes off (off + HEADER_LEN) = some (encodeHeader frame.header) := by
  have hl := congrArg List.length h
  rw [List.length_drop, List.length_append, length_toWireBytes] at hl
  have hpos : 0 < HEADER_LEN := by decide
  rw [slice_eq (by omega) (by omega), h, Nat.add_sub_cancel_left, toWireBytes, List.append_assoc,
    List.take_left' (length_encodeHeader _)]

theorem slice_frame {off : ℕ} (h : bytes.drop off = frame.toWireBytes ++ rest) :
    slice bytes off (off + frame.toWireBytes.length) = some frame.toWireBytes := by
  have hl := congrArg List.length h
  rw [List.length_drop, List.length_append] at hl
  have hpos : 0 < frame.toWireBytes.length := by
    rw [length_toWireBytes]
    exact Nat.add_pos_left (by decide) _
  rw [slice_eq (by omega) (by omega), h, Nat.add_sub_cancel_left, List.take_left' rfl]

theorem fromWireBytes_toWireBytes (hversion : frame.header.version = PROTOCOL_VERSION)
    (hv : frame.validateFor sessionId limits = .ok ()) :
    fromWireBytes frame.toWireBytes sessionId limits = some (.ok frame) := by
  have hl := length_toWireBytes frame
  have hf : slice frame.toWireBytes 0 HEADER_LEN = some (encodeHeader frame.header) := by
    rw [slice_eq (Nat.zero_le _) (by omega), List.drop_zero, Nat.sub_zero, toWireBytes,
      List.take_left' (length_encodeHeader _)]
  have hp : slice frame.toWireBytes HEADER_LEN frame.toWireBytes.length = some frame.payload := by
    rw [slice_eq (by omega) (Nat.le_refl _), toWireBytes, List.drop_left' (length_encodeHeader _), List.length_append,
      length_encodeHeader, Nat.add_sub_cancel_left, List.take_length]
  have hd : decodeHeader (encodeHeader frame.header) = .ok frame.header := by
    have := decodeHeader_encodeHeader hversion frame.valid []
    rwa [List.append_nil] at this
  have hx := (validateFor_eq_ok.mp hv).2
  rw [← frame.length] at hx
  unfold fromWireBytes
  rw [if_neg (by omega), hf]
  simp only [Option.bind_eq_bind, Option.bind_some, hd]
  rw [if_neg (by omega), if_neg (not_not.mpr hl), hp]
  simp only [Option.bind_some, new_self, hv, bind, Except.bind, pure, Except.pure]

/-- Parsing one frame never panics, and accepts nothing but the bytes of a frame. -/
theorem fromWireBytes_spec (bytes : Bytes) (sessionId : U128) (limits : DataChannelLimits) :
    ∃ r, fromWireBytes bytes sessionId limits = some r ∧ ∀ frame, r = .ok frame →
      bytes = frame.toWireBytes ∧ frame.validateFor sessionId limits = .ok () := by
  unfold fromWireBytes
  by_cases hs : bytes.length < HEADER_LEN
  · exact ⟨_, if_pos hs, by simp⟩
  · have hlong : HEADER_LEN ≤ bytes.length := Nat.le_of_not_lt hs
    rw [if_neg hs, slice_eq (Nat.zero_le _) hlong]
    simp only [Option.bind_eq_bind, Option.bind_some, List.drop_zero]
    cases hd : decodeHeader (bytes.take HEADER_LEN) with
    | error => exact ⟨_, rfl, by simp⟩
    | ok header =>
      simp only
      obtain ⟨he, -⟩ := decodeHeader_eq_ok hd
      rw [List.take_take, Nat.min_self] at he
      by_cases hl : limits.maxFramePayloadBytes < header.payloadLen.toNat
      · exact ⟨_, if_pos hl, by simp⟩
      rw [if_neg hl]
      by_cases hlength : bytes.length = HEADER_LEN + header.payloadLen.toNat
      · rw [if_neg (not_not.mpr hlength), slice_eq hlong (Nat.le_refl _)]
        refine ⟨_, rfl, fun frame hf => ?_⟩
        simp only [bind_eq_ok, pure_eq_ok] at hf
        obtain ⟨f, hn, _, hv, rfl⟩ := hf
        obtain ⟨hhd, hp⟩ := new_eq_ok hn
        refine ⟨?_, hv⟩
        have ha : (bytes.drop HEADER_LEN).take (bytes.length - HEADER_LEN) = bytes.drop HEADER_LEN :=
          List.take_of_length_le (by rw [List.length_drop])
        rw [toWireBytes, hhd, hp, he, ha, List.take_append_drop]
      · exact ⟨_, if_pos hlength, by simp⟩

end OpaqueFrame

/-! ### A stream of frames -/

theorem wireBytes_cons (frame : OpaqueFrame) (frames : List OpaqueFrame) :
    wireBytes (frame :: frames) = frame.toWireBytes ++ wireBytes frames := List.flatMap_cons

/-- **Different lists of frames have different bytes.** -/
theorem wireBytes_inj {frames frames' : List OpaqueFrame} (h : wireBytes frames = wireBytes frames') :
    frames = frames' := by
  refine selfDelimiting_toWireBytes.flatMap_inj (fun frame _ hnil => ?_) frames frames' (fun _ _ => trivial)
    (fun _ _ => trivial) h
  have hl := length_toWireBytes frame
  rw [hnil, List.length_nil, HEADER_LEN] at hl
  omega

section Stream

variable {bytes : Bytes} {limits : DataChannelLimits} {frames : List OpaqueFrame}

theorem parseVideoStreamLoop_frame {rest : Bytes} {turns off : ℕ}
    (h : bytes.drop off = frame.toWireBytes ++ rest) (hx : frames.length < limits.maxVideoStreamMessages)
    (hversion : frame.header.version = PROTOCOL_VERSION) (hv : frame.validateFor sessionId limits = .ok ()) :
    parseVideoStreamLoop bytes sessionId limits (turns + 1) off frames = parseVideoStreamLoop bytes sessionId
      limits turns (off + frame.toWireBytes.length) (frames ++ [frame]) := by
  have hl := congrArg List.length h
  rw [List.length_drop, List.length_append] at hl
  have hf := length_toWireBytes frame
  have hpos : 0 < HEADER_LEN := by decide
  have hd : decodeHeader (encodeHeader frame.header) = .ok frame.header := by
    have := decodeHeader_encodeHeader hversion frame.valid []
    rwa [List.append_nil] at this
  have hstop : off + HEADER_LEN + frame.header.payloadLen.toNat = off + frame.toWireBytes.length := by omega
  rw [parseVideoStreamLoop, if_pos (by omega), if_neg (by omega), slice_header h]
  simp only [Option.bind_eq_bind, Option.bind_some, hd, hstop]
  rw [if_pos (by omega), slice_frame h]
  simp only [Option.bind_some, fromWireBytes_toWireBytes hversion hv]

theorem parseVideoStreamLoop_wireBytes : ∀ (rest : List OpaqueFrame) {turns off : ℕ} {frames : List OpaqueFrame},
    bytes.drop off = wireBytes rest → rest.length < turns →
    frames.length + rest.length ≤ limits.maxVideoStreamMessages →
    (∀ frame ∈ rest, frame.header.version = PROTOCOL_VERSION ∧ frame.validateFor sessionId limits = .ok ()) →
      parseVideoStreamLoop bytes sessionId limits turns off frames = some (.ok (frames ++ rest))
  | [], turns + 1, off, frames, hd, _, _, _ => by
    have he : ¬ off < bytes.length := by
      have := congrArg List.length hd
      rw [List.length_drop, wireBytes, List.flatMap_nil, List.length_nil] at this
      omega
    rw [parseVideoStreamLoop, if_neg he, List.append_nil]
  | frame :: rest, turns + 1, off, frames, hd, ht, hx, ha => by
    rw [List.forall_mem_cons] at ha
    rw [List.length_cons] at ht hx
    rw [wireBytes_cons] at hd
    rw [parseVideoStreamLoop_frame hd (by omega) ha.1.1 ha.1.2]
    have hn : bytes.drop (off + frame.toWireBytes.length) = wireBytes rest := by
      rw [← List.drop_drop, hd, List.drop_left' rfl]
    rw [parseVideoStreamLoop_wireBytes rest hn (by omega)
      (by rw [List.length_append, List.length_singleton]; omega) ha.2, List.append_assoc, List.singleton_append]

/-- The loop ends, without a panic, and what it returns is what it has read. -/
theorem parseVideoStreamLoop_sound (bytes : Bytes) (sessionId : U128) (limits : DataChannelLimits) :
    ∀ (turns off : ℕ) (frames : List OpaqueFrame), bytes.length < off + turns → off ≤ bytes.length →
      ∃ r, parseVideoStreamLoop bytes sessionId limits turns off frames = some r ∧ ∀ all, r = .ok all →
        ∃ rest, all = frames ++ rest ∧ bytes.drop off = wireBytes rest ∧
          ∀ frame ∈ rest, frame.validateFor sessionId limits = .ok ()
  | 0, off, frames, ht, hle => by omega
  | turns + 1, off, frames, ht, hle => by
    unfold parseVideoStreamLoop
    by_cases he : off < bytes.length
    swap
    · refine ⟨_, if_neg he, fun all ha => ⟨[], ?_, ?_, by simp⟩⟩
      · rw [List.append_nil, Except.ok.inj ha]
      · exact List.drop_eq_nil_of_le (Nat.le_of_not_lt he)
    rw [if_pos he]
    by_cases hl : limits.maxVideoStreamMessages ≤ frames.length ∨ bytes.length - off < HEADER_LEN
    · exact ⟨_, if_pos hl, by simp⟩
    rw [if_neg hl]
    rw [slice_eq (Nat.le_add_right _ _) (by omega)]
    simp only [Option.bind_eq_bind, Option.bind_some]
    cases hd : decodeHeader ((bytes.drop off).take (off + HEADER_LEN - off)) with
    | error => exact ⟨_, rfl, by simp⟩
    | ok header =>
      simp only
      by_cases hstop : off + HEADER_LEN + header.payloadLen.toNat ≤ bytes.length
      swap
      · exact ⟨_, if_neg hstop, by simp⟩
      rw [if_pos hstop, slice_eq (by omega) hstop, Option.bind_some]
      obtain ⟨r, hr, hsp⟩ := fromWireBytes_spec ((bytes.drop off).take
        (off + HEADER_LEN + header.payloadLen.toNat - off)) sessionId limits
      rw [hr]
      cases r with
      | error => exact ⟨_, rfl, by simp⟩
      | ok frame =>
        obtain ⟨hpr, hv⟩ := hsp frame rfl
        have hpos : 0 < HEADER_LEN := by decide
        obtain ⟨r, hr, hrs⟩ := parseVideoStreamLoop_sound bytes sessionId limits turns
          (off + HEADER_LEN + header.payloadLen.toNat)
          (frames ++ [frame]) (by omega) hstop
        refine ⟨r, hr, fun all ha => ?_⟩
        obtain ⟨rest, ha, hdr, hval⟩ := hrs all ha
        refine ⟨frame :: rest, by rw [ha, List.append_assoc, List.singleton_append], ?_,
          List.forall_mem_cons.mpr ⟨hv, hval⟩⟩
        rw [wireBytes_cons, ← hdr, ← hpr, Nat.add_assoc, Nat.add_sub_cancel_left, ← List.drop_drop,
          List.take_append_drop]

theorem parseVideoStream_wireBytes (hx : frames.length ≤ limits.maxVideoStreamMessages)
    (ha : ∀ frame ∈ frames, frame.header.version = PROTOCOL_VERSION ∧ frame.validateFor sessionId limits = .ok ()) :
    parseVideoStream (wireBytes frames) sessionId limits = some (.ok frames) := by
  have hl : ∀ frames : List OpaqueFrame, frames.length ≤ (wireBytes frames).length := by
    intro frames
    induction frames with
    | nil => exact Nat.zero_le _
    | cons =>
      rw [wireBytes_cons, List.length_append, length_toWireBytes, List.length_cons, HEADER_LEN]
      omega
  have ht := hl frames
  exact parseVideoStreamLoop_wireBytes frames rfl (by omega) (by simpa using hx) ha

theorem parseVideoStream_sound (bytes : Bytes) (sessionId : U128) (limits : DataChannelLimits) :
    ∃ r, parseVideoStream bytes sessionId limits = some r ∧ ∀ frames, r = .ok frames →
      wireBytes frames = bytes ∧ ∀ frame ∈ frames, frame.validateFor sessionId limits = .ok () := by
  obtain ⟨r, hr, hs⟩ := parseVideoStreamLoop_sound bytes sessionId limits (bytes.length + 1) 0 [] (by omega)
    (Nat.zero_le _)
  refine ⟨r, hr, fun frames hf => ?_⟩
  obtain ⟨rest, rfl, hd, hv⟩ := hs frames hf
  exact ⟨hd.symm, hv⟩

theorem validateVideoFramesFrom_eq_ok :
    ∀ {ix : ℕ} {frames : List OpaqueFrame}, validateVideoFramesFrom sessionId limits ix frames = .ok u → ∀ frame
      ∈ frames, frame.validateFor sessionId limits = .ok ()
  | _, [], _ => by simp
  | ix, frame :: frames, h => by
    simp only [validateVideoFramesFrom, bind_eq_ok] at h
    obtain ⟨_, hv, _, -, hr⟩ := h
    exact List.forall_mem_cons.mpr ⟨hv, validateVideoFramesFrom_eq_ok hr⟩

theorem validateVideoFrames_eq_ok (h : validateVideoFrames frames sessionId limits = .ok u) :
    frames.length ≤ limits.maxVideoStreamMessages ∧ ∀ frame ∈ frames, frame.validateFor sessionId limits = .ok () := by
  unfold validateVideoFrames at h
  split at h
  · cases h
  · rename_i hl
    exact ⟨by omega, validateVideoFramesFrom_eq_ok h⟩

end Stream

/-- **Wire framing.** A header of the protocol's version that is valid is read back from its bytes,
and the bytes a header was decoded from are, up to `HEADER_LEN`, those it encodes to. A list of
frames of the protocol's version that is accepted for sending is what its bytes are parsed to. The
parser ends without an index out of bounds on every byte string; if it accepts one, the frames it
returns have exactly these bytes, and each has the session and keeps to the limit. Different lists
of frames have different bytes. -/
theorem wire_framing :
    (∀ h : MessageHeader, h.version = PROTOCOL_VERSION → h.validateKindChannel = .ok () →
      decodeHeader (encodeHeader h) = .ok h) ∧
    (∀ (b : Bytes) (h : MessageHeader), decodeHeader b = .ok h → encodeHeader h = b.take HEADER_LEN) ∧
    (∀ (frames : List OpaqueFrame) (sessionId : U128) (limits : DataChannelLimits),
      validateVideoFrames frames sessionId limits = .ok () →
      (∀ frame ∈ frames, frame.header.version = PROTOCOL_VERSION) →
        parseVideoStream (wireBytes frames) sessionId limits = some (.ok frames)) ∧
    (∀ (bytes : Bytes) (sessionId : U128) (limits : DataChannelLimits),
      ∃ r, parseVideoStream bytes sessionId limits = some r ∧ ∀ frames, r = .ok frames →
        wireBytes frames = bytes ∧ ∀ frame ∈ frames, frame.header.sessionId = sessionId ∧
          frame.payload.length ≤ limits.maxFramePayloadBytes) ∧
    ∀ frames frames' : List OpaqueFrame, wireBytes frames = wireBytes frames' → frames = frames' := by
  refine ⟨fun h hve hv => ?_, fun b h hd => (decodeHeader_eq_ok hd).1,
    fun frames sessionId limits hv hve => ?_, fun bytes sessionId limits => ?_, fun _ _ => wireBytes_inj⟩
  · have := decodeHeader_encodeHeader hve hv []
    rwa [List.append_nil] at this
  · obtain ⟨hx, ha⟩ := validateVideoFrames_eq_ok hv
    exact parseVideoStream_wireBytes hx fun frame hf => ⟨hve frame hf, ha frame hf⟩
  · obtain ⟨r, hr, hsp⟩ := parseVideoStream_sound bytes sessionId limits
    refine ⟨r, hr, fun frames hframes => ?_⟩
    obtain ⟨hby, hv⟩ := hsp frames hframes
    exact ⟨hby, fun frame hf => validateFor_eq_ok.mp (hv frame hf)⟩

namespace FrameSample

def header (version : UInt16) (kind : MessageKind) : MessageHeader :=
  { MessageHeader.new kind 7 0 2 with version }

def limits : DataChannelLimits := ⟨16, 8⟩

/-- A video stream of two frames whose headers have that version. -/
def frames (version : UInt16) : List OpaqueFrame :=
  have hsequence : (0 : UInt64) ≤ MAX_SECURE_SEQUENCE := by decide
  [⟨header version .videoFrameInfo, [1, 2], rfl, rfl, hsequence⟩,
   ⟨header version .videoFrameData, [3, 4], rfl, rfl, hsequence⟩]

end FrameSample

theorem wire_framing_stream :
    validateVideoFrames (FrameSample.frames 1) 7 FrameSample.limits = .ok () ∧
      parseVideoStream (wireBytes (FrameSample.frames 1)) 7 FrameSample.limits = some (.ok (FrameSample.frames 1)) :=
  ⟨by decide +kernel, wire_framing.2.2.1 (FrameSample.frames 1) 7 FrameSample.limits (by decide +kernel)
    (by decide +kernel)⟩

/-- What follows a header is ignored by its decoder, and frames of another version are accepted
for sending and refused by the parser. -/
theorem framing_one_way :
    (decodeHeader (encodeHeader (FrameSample.header 1 .videoFrameInfo) ++ [0]) =
        .ok (FrameSample.header 1 .videoFrameInfo)) ∧
      encodeHeader (FrameSample.header 1 .videoFrameInfo) ≠ encodeHeader (FrameSample.header 1 .videoFrameInfo) ++ [0] ∧
      validateVideoFrames (FrameSample.frames 2) 7 FrameSample.limits = .ok () ∧
      parseVideoStream (wireBytes (FrameSample.frames 2)) 7 FrameSample.limits =
        some (.error ⟨.protocol, "parse_video_stream"⟩) := by
  decide +kernel

end Rctl
