/-
# The message header

`remote-protocol/src/header.rs`: the channels and message kinds with their wire
codes, which kind goes on which channel, and the 40 bytes of a header. The
header's bytes determine it (`encodeHeader_inj`), so authenticating them
authenticates every field; and the decoder reads back what was encoded, and
accepts nothing else (`decodeHeader_encodeHeader`, `decodeHeader_eq_ok`).
-/
import Rctl.Protocol.Canonical

namespace Rctl

open ByteString

def HEADER_LEN : ℕ := 40
def PROTOCOL_VERSION : UInt16 := 1
def MAX_SECURE_SEQUENCE : UInt64 := ((1 : UInt64) <<< (48 : UInt64)) - 1

def MAGIC : Bytes := [0x52, 0x43, 0x54, 0x4c]

inductive ChannelId
  | secureControl
  | inputReliable
  | inputRealtime
  | mediaControl
  | video
  | clipboard
  | fileTransfer
  | deviceControl
  | telemetry
  deriving DecidableEq, Repr

namespace ChannelId

def code : ChannelId → UInt16
  | secureControl => 0
  | inputReliable => 1
  | inputRealtime => 2
  | mediaControl => 3
  | video => 4
  | clipboard => 5
  | fileTransfer => 6
  | deviceControl => 7
  | telemetry => 8

def ofCode (value : UInt16) : Option ChannelId :=
  [secureControl, inputReliable, inputRealtime, mediaControl, video, clipboard, fileTransfer,
    deviceControl, telemetry].find? fun channel => channel.code == value

theorem ofCode_code (channel : ChannelId) : ofCode channel.code = some channel := by
  cases channel <;> decide

theorem code_of_ofCode {value : UInt16} {chan : ChannelId} (h : ofCode value = some chan) :
    chan.code = value := by
  have := List.find?_some h
  simpa using this

theorem code_inj {a b : ChannelId} (h : a.code = b.code) : a = b := by
  revert h; cases a <;> cases b <;> decide

end ChannelId

inductive MessageKind
  | keyExchangeMessage
  | keyConfirm
  | mediaCapabilities
  | mediaConfigRequest
  | mediaConfigState
  | mediaQualityRequest
  | mediaQualityState
  | keyframeRequest
  | videoFrameInfo
  | videoFrameData
  | inputEvent
  | clipboardPermissionRequest
  | clipboardPermissionState
  | clipboardText
  | displayList
  | displaySelect
  | displayChanged
  | fileTransferRequest
  | fileTransferAck
  | fileChunk
  | fileTransferCancel
  | privacyModeRequest
  | privacyModeState
  | privacyModeRestore
  | rebootRequest
  | rebootState
  | rebootCancel
  | rebootResumeHint
  | stats
  | errorReport
  deriving DecidableEq, Repr

namespace MessageKind

def code : MessageKind → UInt16
  | keyExchangeMessage => 0x0001
  | keyConfirm => 0x0002
  | mediaCapabilities => 0x0100
  | mediaConfigRequest => 0x0101
  | mediaConfigState => 0x0102
  | mediaQualityRequest => 0x0103
  | mediaQualityState => 0x0104
  | keyframeRequest => 0x0105
  | videoFrameInfo => 0x0110
  | videoFrameData => 0x0111
  | inputEvent => 0x0200
  | clipboardPermissionRequest => 0x0300
  | clipboardPermissionState => 0x0301
  | clipboardText => 0x0302
  | displayList => 0x0400
  | displaySelect => 0x0401
  | displayChanged => 0x0402
  | fileTransferRequest => 0x0500
  | fileTransferAck => 0x0501
  | fileChunk => 0x0502
  | fileTransferCancel => 0x0503
  | privacyModeRequest => 0x0600
  | privacyModeState => 0x0601
  | privacyModeRestore => 0x0602
  | rebootRequest => 0x0700
  | rebootState => 0x0701
  | rebootCancel => 0x0702
  | rebootResumeHint => 0x0703
  | stats => 0x0800
  | errorReport => 0xffff

/-- The kinds in the order of their codes. -/
def all : List MessageKind :=
  [keyExchangeMessage, keyConfirm, mediaCapabilities, mediaConfigRequest, mediaConfigState,
    mediaQualityRequest, mediaQualityState, keyframeRequest, videoFrameInfo, videoFrameData,
    inputEvent, clipboardPermissionRequest, clipboardPermissionState, clipboardText, displayList,
    displaySelect, displayChanged, fileTransferRequest, fileTransferAck, fileChunk,
    fileTransferCancel, privacyModeRequest, privacyModeState, privacyModeRestore, rebootRequest,
    rebootState, rebootCancel, rebootResumeHint, stats, errorReport]

def ofCode (value : UInt16) : Option MessageKind := all.find? fun kind => kind.code == value

theorem ofCode_code (kind : MessageKind) : ofCode kind.code = some kind := by
  cases kind <;> decide

theorem code_of_ofCode {value : UInt16} {kind : MessageKind} (h : ofCode value = some kind) : kind.code = value := by
  have := List.find?_some h
  simpa using this

theorem code_inj {a b : MessageKind} (h : a.code = b.code) : a = b := by
  have := ofCode_code a
  rw [h, ofCode_code b] at this
  exact (Option.some.inj this).symm

def defaultChannel : MessageKind → ChannelId
  | keyExchangeMessage | keyConfirm | errorReport => .secureControl
  | mediaCapabilities | mediaConfigRequest | mediaConfigState | mediaQualityRequest
  | mediaQualityState | keyframeRequest => .mediaControl
  | videoFrameInfo | videoFrameData => .video
  | inputEvent => .inputReliable
  | clipboardPermissionRequest | clipboardPermissionState | clipboardText => .clipboard
  | fileTransferRequest | fileTransferAck | fileChunk | fileTransferCancel => .fileTransfer
  | displayList | displaySelect | displayChanged | privacyModeRequest | privacyModeState
  | privacyModeRestore | rebootRequest | rebootState | rebootCancel | rebootResumeHint =>
    .deviceControl
  | stats => .telemetry

/-- `InputEvent` is the one kind with two channels. -/
def acceptsChannel (kind : MessageKind) (channel : ChannelId) : Bool :=
  if kind = inputEvent then channel = .inputReliable || channel = .inputRealtime
  else kind.defaultChannel.code = channel.code

end MessageKind

inductive ProtocolError
  | invalidMagic
  | incompleteHeader
  | unsupportedVersion (version : UInt16)
  | payloadTooLarge
  | unknownMessageKind (value : UInt16)
  | unknownChannel (value : UInt16)
  | invalidChannel (kind : MessageKind) (channel : ChannelId)
  | sequenceExhausted
  deriving DecidableEq, Repr

@[ext] structure MessageHeader where
  version : UInt16
  kind : MessageKind
  flags : UInt16
  channelId : ChannelId
  sessionId : U128
  sequence : UInt64
  payloadLen : UInt32
  deriving DecidableEq

namespace MessageHeader

def new (kind : MessageKind) (sessionId : U128) (sequence : UInt64) (payloadLen : UInt32) :
    MessageHeader :=
  { version := PROTOCOL_VERSION, kind, flags := 0, channelId := kind.defaultChannel, sessionId,
    sequence, payloadLen }

def validateKindChannel (h : MessageHeader) : Except ProtocolError Unit :=
  if h.kind.acceptsChannel h.channelId then .ok ()
  else .error (.invalidChannel h.kind h.channelId)

def newOnChannel (kind : MessageKind) (channelId : ChannelId) (sessionId : U128)
    (sequence : UInt64) (payloadLen : UInt32) : Except ProtocolError MessageHeader :=
  let header := { new kind sessionId sequence payloadLen with channelId }
  match header.validateKindChannel with
  | .ok () => .ok header
  | .error e => .error e

theorem newOnChannel_eq_ok {kind : MessageKind} {channelId : ChannelId} {sid : U128}
    {sequence : UInt64} {payloadLen : UInt32} {h : MessageHeader}
    (he : newOnChannel kind channelId sid sequence payloadLen = .ok h) :
    h = { new kind sid sequence payloadLen with channelId } := by
  simp only [newOnChannel] at he
  split at he
  · exact (Except.ok.inj he).symm
  · cases he

end MessageHeader

def encodeHeader (h : MessageHeader) : Bytes :=
  MAGIC ++ toBeBytes 2 h.version.toNat ++ toBeBytes 2 h.kind.code.toNat ++
    toBeBytes 2 h.flags.toNat ++ toBeBytes 2 h.channelId.code.toNat ++
    toBeBytes 16 h.sessionId.toNat ++ toBeBytes 8 h.sequence.toNat ++
    toBeBytes 4 h.payloadLen.toNat

/-- `input[from..to]` as a big-endian number. -/
def readBe (input : Bytes) (start stop : ℕ) : ℕ :=
  fromBeBytes ((input.drop start).take (stop - start))

def decodeHeader (input : Bytes) : Except ProtocolError MessageHeader :=
  if input.length < HEADER_LEN then .error .incompleteHeader
  else if input.take 4 ≠ MAGIC then .error .invalidMagic
  else
    let version := UInt16.ofNat (readBe input 4 6)
    if version ≠ PROTOCOL_VERSION then .error (.unsupportedVersion version)
    else
      let kindCode := UInt16.ofNat (readBe input 6 8)
      match MessageKind.ofCode kindCode with
      | none => .error (.unknownMessageKind kindCode)
      | some kind =>
        let channelCode := UInt16.ofNat (readBe input 10 12)
        match ChannelId.ofCode channelCode with
        | none => .error (.unknownChannel channelCode)
        | some channelId =>
          let header : MessageHeader :=
            { version, kind, flags := UInt16.ofNat (readBe input 8 10), channelId,
              sessionId := BitVec.ofNat 128 (readBe input 12 28),
              sequence := UInt64.ofNat (readBe input 28 36),
              payloadLen := UInt32.ofNat (readBe input 36 40) }
          match header.validateKindChannel with
          | .ok () => .ok header
          | .error e => .error e

theorem length_encodeHeader (h : MessageHeader) : (encodeHeader h).length = HEADER_LEN := by
  simp [encodeHeader, MAGIC, HEADER_LEN]

/-- **The header is read back from its bytes.** -/
theorem encodeHeader_inj {h h' : MessageHeader} (he : encodeHeader h = encodeHeader h') : h = h' := by
  simp only [encodeHeader, List.append_assoc] at he
  have he := List.append_cancel_left he
  obtain ⟨hv, he⟩ := List.append_inj he (by simp)
  obtain ⟨hki, he⟩ := List.append_inj he (by simp)
  obtain ⟨hf, he⟩ := List.append_inj he (by simp)
  obtain ⟨hc, he⟩ := List.append_inj he (by simp)
  obtain ⟨hs, he⟩ := List.append_inj he (by simp)
  obtain ⟨hsequence, hl⟩ := List.append_inj he (by simp)
  exact MessageHeader.ext (u16Bytes_inj hv) (MessageKind.code_inj (u16Bytes_inj hki))
    (u16Bytes_inj hf) (ChannelId.code_inj (u16Bytes_inj hc)) (u128Bytes_inj hs)
    (u64Bytes_inj hsequence) (u32Bytes_inj hl)

/-! ### Decoding -/

/-- The parts of a header, by their offsets. -/
theorem take_header (input : Bytes) : input.take HEADER_LEN =
    input.take 4 ++ (input.drop 4).take 2 ++ (input.drop 6).take 2 ++ (input.drop 8).take 2 ++
      (input.drop 10).take 2 ++ (input.drop 12).take 16 ++ (input.drop 28).take 8 ++ (input.drop 36).take 4 := by
  simp only [← List.take_add, HEADER_LEN]

variable {input : Bytes} {h : MessageHeader}

theorem length_part {start n : ℕ} (h : start + n ≤ input.length) : ((input.drop start).take n).length = n := by
  rw [List.length_take, List.length_drop]
  omega

theorem toBeBytes_readBe (start n : ℕ) (h : start + n ≤ input.length) :
    toBeBytes n (readBe input start (start + n)) = (input.drop start).take n := by
  have := toBeBytes_fromBeBytes ((input.drop start).take n)
  rw [length_part h] at this
  rwa [readBe, Nat.add_sub_cancel_left]

theorem readBe_lt (input : Bytes) (start n : ℕ) : readBe input start (start + n) < 256 ^ n := by
  refine lt_of_lt_of_le (fromBeBytes_lt _) (Nat.pow_le_pow_right (by decide) ?_)
  rw [List.length_take]
  omega

theorem readBe_last {start n v : ℕ} {before before' : Bytes} (hl : start + n ≤ input.length) (hv : v < 256 ^ n)
    (h : before ++ (input.drop start).take n = before' ++ toBeBytes n v) :
    before = before' ∧ readBe input start (start + n) = v := by
  obtain ⟨hbf, h⟩ := List.append_inj' h (by rw [length_part hl, length_toBeBytes])
  rw [readBe, Nat.add_sub_cancel_left, h, fromBeBytes_toBeBytes, Nat.mod_eq_of_lt hv]
  exact ⟨hbf, rfl⟩

/-- **What was encoded is read back**, whatever follows it. -/
theorem decodeHeader_encodeHeader (hv : h.version = PROTOCOL_VERSION)
    (hval : h.validateKindChannel = .ok ()) (rest : Bytes) : decodeHeader (encodeHeader h ++ rest) = .ok h := by
  generalize hi : encodeHeader h ++ rest = input
  have hl : 40 ≤ input.length := by
    rw [← hi, List.length_append, length_encodeHeader]
    exact Nat.le_add_right _ _
  have hpr : input.take HEADER_LEN = encodeHeader h := by
    rw [← hi]
    exact List.take_left' (length_encodeHeader h)
  -- the parts, from the last to the first
  rw [take_header] at hpr
  obtain ⟨hpr, h36⟩ := readBe_last (by omega) h.payloadLen.toNat_lt hpr
  obtain ⟨hpr, h28⟩ := readBe_last (by omega) h.sequence.toNat_lt hpr
  obtain ⟨hpr, h12⟩ := readBe_last (by omega) h.sessionId.isLt hpr
  obtain ⟨hpr, h10⟩ := readBe_last (by omega) h.channelId.code.toNat_lt hpr
  obtain ⟨hpr, h8⟩ := readBe_last (by omega) h.flags.toNat_lt hpr
  obtain ⟨hpr, h6⟩ := readBe_last (by omega) h.kind.code.toNat_lt hpr
  obtain ⟨hm, h4⟩ := readBe_last (by omega) h.version.toNat_lt hpr
  unfold decodeHeader
  have hl' : ¬ input.length < HEADER_LEN := Nat.not_lt.mpr hl
  rw [if_neg hl', if_neg (not_not.mpr hm)]
  simp only [h4, h6, h8, h10, h12, h28, h36, UInt16.ofNat_toNat, UInt32.ofNat_toNat, UInt64.ofNat_toNat,
    BitVec.ofNat_toNat, BitVec.setWidth_eq, MessageKind.ofCode_code, ChannelId.ofCode_code, hval]
  rw [if_neg (not_not.mpr hv)]

/-- **Nothing else is accepted**: what is decoded encodes to the bytes it was decoded from. -/
theorem decodeHeader_eq_ok (hd : decodeHeader input = .ok h) :
    encodeHeader h = input.take HEADER_LEN ∧ HEADER_LEN ≤ input.length ∧ h.version = PROTOCOL_VERSION ∧
      h.validateKindChannel = .ok () := by
  unfold decodeHeader at hd
  split at hd
  · cases hd
  rename_i hl
  split at hd
  · cases hd
  rename_i hm
  simp only at hd
  split at hd
  · cases hd
  rename_i hv
  split at hd
  · cases hd
  rename_i hki
  split at hd
  · cases hd
  rename_i hc
  split at hd
  · rename_i hval
    cases hd
    rw [not_not] at hm hv
    have hl' : 40 ≤ input.length := Nat.le_of_not_lt hl
    have h16 (start : ℕ) : (UInt16.ofNat (readBe input start (start + 2))).toNat = readBe input start (start + 2) := by
      exact Nat.mod_eq_of_lt (readBe_lt input start 2)
    have h128 : (BitVec.ofNat 128 (readBe input 12 28)).toNat = readBe input 12 28 := by
      exact Nat.mod_eq_of_lt (readBe_lt input 12 16)
    have h64 : (UInt64.ofNat (readBe input 28 36)).toNat = readBe input 28 36 := by
      exact Nat.mod_eq_of_lt (readBe_lt input 28 8)
    have h32 : (UInt32.ofNat (readBe input 36 40)).toNat = readBe input 36 40 := by
      exact Nat.mod_eq_of_lt (readBe_lt input 36 4)
    refine ⟨?_, hl', hv, hval⟩
    rw [take_header, encodeHeader, MessageKind.code_of_ofCode hki, ChannelId.code_of_ofCode hc, h128, h64, h32,
      h16 4, h16 6, h16 8, h16 10, hm, toBeBytes_readBe 4 2 (by omega), toBeBytes_readBe 6 2 (by omega),
      toBeBytes_readBe 8 2 (by omega), toBeBytes_readBe 10 2 (by omega), toBeBytes_readBe 12 16 (by omega),
      toBeBytes_readBe 28 8 (by omega), toBeBytes_readBe 36 4 (by omega)]
  · cases hd

end Rctl
