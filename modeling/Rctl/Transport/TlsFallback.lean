/-
# Frames over the TLS fallback

`remote-transport/src/tls_fallback.rs`, one direction of a channel: one end sends, the other
receives. TLS delivers the bytes that were written, in their order and without a gap, but in chunks
of any size, and either end can be stopped at any byte by its timer, by an error of the connection
or by a cancellation. A sender that is stopped cancels its channel, so nothing follows a frame that
was written in part. A receiver that is stopped does not, and the bytes it has taken are gone: the
next call reads from the middle of the frame.
-/
import Mathlib.Data.List.Infix
import Rctl.Lib.Run
import Rctl.Transport.Frames

namespace Rctl

open ByteString OpaqueFrame Result StateRun

structure TlsFallbackEnd where
  sessionId : U128
  limits : DataChannelLimits
  deriving DecidableEq, Repr

/-- What stops an operation under `run_with_deadline`. -/
inductive Interruption
  | cancelled
  | timeout
  | io
  deriving DecidableEq, Repr

def Interruption.failure : Interruption → DataChannelFailure
  | cancelled => .cancelled
  | timeout => .timeout
  | io => .io

/-- How a `read_exact` goes: the sizes of the chunks that arrive, and what stops it if they are not
enough. -/
structure Reading where
  chunks : List ℕ
  ending : Interruption
  deriving DecidableEq, Repr

/-- How much of a buffer for `count` bytes is filled by chunks of the `available` bytes. -/
def filledBy (available count : ℕ) : ℕ → List ℕ → ℕ
  | filled, [] => filled
  | filled, chunk :: chunks => filledBy available count (min (filled + chunk) (min available count)) chunks

/-- The bytes read, if all of them came, and how many were taken from the stream. -/
def Reading.readExact (reading : Reading) (available : Bytes) (count : ℕ) : Except Interruption Bytes × ℕ :=
  let filled := filledBy available.length count 0 reading.chunks
  if filled = count then (.ok (available.take count), count) else (.error reading.ending, filled)

/-- What a `receive_frame` returns, how many bytes it takes from the stream, and whether the channel
is cancelled after it. -/
structure Receipt where
  out : Except DataChannelError OpaqueFrame
  taken : ℕ
  cancelled : Bool

/-- `receive_frame` on a channel that is not cancelled before it. -/
def TlsFallbackEnd.receiveFrom (receiver : TlsFallbackEnd) (available : Bytes) (head body : Reading) : Receipt :=
  match head.readExact available HEADER_LEN with
  | (.error ending, taken) =>
    ⟨.error ⟨ending.failure, "receive_tls_fallback_header"⟩, taken, ending = .cancelled⟩
  | (.ok headerBytes, taken) =>
    match decodeHeader headerBytes with
    | .error _ => ⟨.error ⟨.protocol, "decode_tls_fallback_header"⟩, taken, false⟩
    | .ok header =>
      let payloadLen := header.payloadLen.toNat
      if receiver.limits.maxFramePayloadBytes < payloadLen then
        ⟨.error ⟨.frameTooLarge, "receive_tls_fallback_frame"⟩, taken, true⟩
      else match body.readExact (available.drop taken) payloadLen with
        | (.error ending, more) =>
          ⟨.error ⟨ending.failure, "receive_tls_fallback_payload"⟩, taken + more, ending = .cancelled⟩
        | (.ok payload, more) =>
          let out : Except DataChannelError OpaqueFrame := do
            let frame ← OpaqueFrame.new header payload
            frame.validateFor receiver.sessionId receiver.limits
            return frame
          ⟨out, taken + more, false⟩

structure TlsFallbackLink where
  /-- The frames that `send_frame` has begun to write. -/
  begun : List OpaqueFrame
  written : Bytes
  /-- How many of them the receiver has taken. -/
  taken : ℕ
  senderCancelled : Bool
  receiverCancelled : Bool

inductive LinkCall
  /-- `send_frame`, which may be stopped after some bytes. -/
  | sendFrame (frame : OpaqueFrame) (stopped : Option (ℕ × Interruption))
  | receiveFrame (head body : Reading)
  /-- The sender's channel is closed, dropped or otherwise cancelled. -/
  | cancelSender
  | cancelReceiver

namespace TlsFallbackLink

def new : TlsFallbackLink := ⟨[], [], 0, false, false⟩

def sendFrame (sender : TlsFallbackEnd) (link : TlsFallbackLink) (frame : OpaqueFrame)
    (stopped : Option (ℕ × Interruption)) : Except DataChannelError Unit × TlsFallbackLink :=
  match frame.validateFor sender.sessionId sender.limits with
  | .error e => (.error e, link)
  | .ok () =>
    -- The cancellation is polled before the write.
    if link.senderCancelled then (.error ⟨.cancelled, "send_tls_fallback_frame"⟩, link)
    else match stopped with
      | some (count, ending) =>
        (.error ⟨ending.failure, "send_tls_fallback_frame"⟩,
          { link with
            begun := link.begun ++ [frame]
            written := link.written ++ frame.toWireBytes.take count
            senderCancelled := true })
      | none =>
        (.ok (), { link with begun := link.begun ++ [frame], written := link.written ++ frame.toWireBytes })

def receiveFrame (receiver : TlsFallbackEnd) (link : TlsFallbackLink) (head body : Reading) :
    Except DataChannelError OpaqueFrame × TlsFallbackLink :=
  if link.receiverCancelled then (.error ⟨.cancelled, "receive_tls_fallback_header"⟩, link)
  else
    let receipt := receiver.receiveFrom (link.written.drop link.taken) head body
    (receipt.out, { link with taken := link.taken + receipt.taken, receiverCancelled := receipt.cancelled })

/-- A call on one of the two ends; `receive_frame` is the only one that returns a frame. -/
def step (sender receiver : TlsFallbackEnd) (link : TlsFallbackLink) :
    LinkCall → Except DataChannelError (Option OpaqueFrame) × TlsFallbackLink
  | .sendFrame frame stopped =>
    let r := sendFrame sender link frame stopped
    (r.1.map fun _ => none, r.2)
  | .receiveFrame head body =>
    let r := receiveFrame receiver link head body
    (r.1.map some, r.2)
  | .cancelSender => (.ok none, { link with senderCancelled := true })
  | .cancelReceiver => (.ok none, { link with receiverCancelled := true })

end TlsFallbackLink

abbrev LinkEntry := Entry TlsFallbackLink LinkCall (Except DataChannelError (Option OpaqueFrame))

def returnedFrame (e : LinkEntry) : Option OpaqueFrame := e.out.toOption.join

def LinkCall.isReceive : LinkCall → Bool
  | receiveFrame _ _ => true
  | _ => false

/-- The operations in which a `receive_frame` can fail between the first and the last byte of a
frame. -/
def partialReads : List String :=
  ["receive_tls_fallback_header", "decode_tls_fallback_header", "receive_tls_fallback_payload"]

/-- A call that took bytes from the stream and then failed before it had read a whole frame. -/
def breaksOff (e : LinkEntry) : Bool :=
  e.post.taken != e.pre.taken &&
    match e.out with
    | .error error => partialReads.contains error.operation
    | .ok _ => false

/-- Once a `receive_frame` has failed within a frame, the caller does not call it again. -/
def NoReceiveAfterBreak (log : List LinkEntry) : Prop :=
  log.Pairwise fun e e' => breaksOff e = true → e'.call.isReceive = false

instance : DecidablePred NoReceiveAfterBreak := fun log =>
  inferInstanceAs (Decidable (log.Pairwise fun e e' => breaksOff e = true → e'.call.isReceive = false))

/-! ### One call -/

theorem filledBy_le (available count : ℕ) : ∀ {filled : ℕ} (chunks : List ℕ), filled ≤ min available count →
    filledBy available count filled chunks ≤ min available count
  | _, [], h => h
  | _, _ :: chunks, _ => filledBy_le available count chunks (Nat.min_le_right _ _)

/-- A reading that is not stopped has its bytes from the beginning of what is there. -/
theorem Reading.readExact_ok {reading : Reading} {available bs : Bytes} {count taken : ℕ}
    (h : reading.readExact available count = (.ok bs, taken)) :
    taken = count ∧ bs.length = count ∧ available = bs ++ available.drop count := by
  simp only [Reading.readExact] at h
  have hle := filledBy_le available.length count reading.chunks (Nat.zero_le _)
  split_ifs at h with hf
  · cases h
    refine ⟨rfl, ?_, (List.take_append_drop _ _).symm⟩
    rw [hf] at hle
    rw [List.length_take, Nat.min_eq_left (le_trans hle (Nat.min_le_left _ _))]
  · cases h

variable {link : TlsFallbackLink} {sender receiver : TlsFallbackEnd} {after : List OpaqueFrame}

/-- **What a `receive_frame` does to the stream.** It fails in one of the operations that can leave
it within a frame, or it cancels the channel, or it takes a header and as many bytes as the header
tells, and a frame it returns is made of these. -/
theorem TlsFallbackEnd.receiveFrom_cases (receiver : TlsFallbackEnd) (available : Bytes) (head body : Reading) :
    (∃ error, (receiver.receiveFrom available head body).out = .error error ∧ error.operation ∈ partialReads) ∨
    (∃ error, (receiver.receiveFrom available head body).out = .error error ∧
      (receiver.receiveFrom available head body).cancelled = true) ∨
    ∃ header payload rest, available = encodeHeader header ++ payload ++ rest ∧
      payload.length = header.payloadLen.toNat ∧
      (receiver.receiveFrom available head body).taken = HEADER_LEN + payload.length ∧
      ∀ fr, (receiver.receiveFrom available head body).out = .ok fr →
        fr.header = header ∧ fr.payload = payload := by
  unfold TlsFallbackEnd.receiveFrom
  cases hh : head.readExact available HEADER_LEN with
  | mk read taken =>
  cases read with
  | error => exact .inl ⟨_, rfl, by simp [partialReads]⟩
  | ok headerBytes =>
    obtain ⟨rfl, hlength, hsp⟩ := Reading.readExact_ok hh
    cases hd : decodeHeader headerBytes with
    | error =>
      refine .inl ⟨⟨.protocol, "decode_tls_fallback_header"⟩, ?_, by simp [partialReads]⟩
      simp only [hd]
    | ok header =>
      simp only [hd]
      by_cases hl : receiver.limits.maxFramePayloadBytes < header.payloadLen.toNat
      · exact .inr (.inl ⟨_, by rw [if_pos hl], by rw [if_pos hl]⟩)
      rw [if_neg hl]
      cases hbo : body.readExact (available.drop HEADER_LEN) header.payloadLen.toNat with
      | mk read more =>
      cases read with
      | error => exact .inl ⟨_, rfl, by simp [partialReads]⟩
      | ok payload =>
        obtain ⟨rfl, hp, hrs⟩ := Reading.readExact_ok hbo
        have he := (decodeHeader_eq_ok hd).1
        rw [List.take_of_length_le (Nat.le_of_eq hlength)] at he
        refine .inr (.inr ⟨header, payload, (available.drop HEADER_LEN).drop header.payloadLen.toNat, ?_, hp, ?_,
          fun fr hf => ?_⟩)
        · rw [he, List.append_assoc, ← hrs, ← hsp]
        · simp only [hp]
        · simp only [bind_eq_ok, pure_eq_ok] at hf
          obtain ⟨f, hn, _, -, rfl⟩ := hf
          exact new_eq_ok hn

theorem OpaqueFrame.ext_parts {a b : OpaqueFrame} (hhd : a.header = b.header) (hp : a.payload = b.payload) :
    a = b := by
  obtain ⟨header, pl, _, _, _⟩ := a
  obtain ⟨head', payload', _, _, _⟩ := b
  cases hhd
  cases hp
  rfl

/-- At the beginning of a frame, a header that is read whole is that of the frame. -/
theorem frame_at_boundary {header : MessageHeader} {payload rest : Bytes}
    (hb : encodeHeader header ++ payload ++ rest <+: wireBytes after)
    (hp : payload.length = header.payloadLen.toNat) :
    ∃ fr after', after = fr :: after' ∧ fr.header = header ∧ fr.payload = payload := by
  obtain ⟨more, hm⟩ := hb
  cases after with
  | nil =>
    have hl := congrArg List.length hm
    simp only [List.length_append, length_encodeHeader, wireBytes, List.flatMap_nil, List.length_nil, HEADER_LEN] at hl
    omega
  | cons fr after' =>
    rw [wireBytes_cons, toWireBytes] at hm
    simp only [List.append_assoc] at hm
    obtain ⟨hhd, hm⟩ := List.append_inj hm (by rw [length_encodeHeader, length_encodeHeader])
    have hhd := encodeHeader_inj hhd
    obtain ⟨hby, -⟩ := List.append_inj hm (by rw [hp, hhd, fr.length])
    exact ⟨fr, after', rfl, hhd.symm, hby.symm⟩

/-- At the beginning of a frame, a `receive_frame` that is not stopped takes that frame. -/
theorem TlsFallbackEnd.receiveFrom_at_boundary (receiver : TlsFallbackEnd) {available : Bytes}
    (head body : Reading) (hb : available <+: wireBytes after) :
    (∃ error, (receiver.receiveFrom available head body).out = .error error ∧ error.operation ∈ partialReads) ∨
    (∃ error, (receiver.receiveFrom available head body).out = .error error ∧
      (receiver.receiveFrom available head body).cancelled = true) ∨ ∃ frame after', after = frame :: after' ∧
      (receiver.receiveFrom available head body).taken = frame.toWireBytes.length ∧
      ∀ f, (receiver.receiveFrom available head body).out = .ok f → f = frame := by
  obtain h | h | ⟨header, payload, rest, hby, hp, ht, hframe⟩ :=
    receiver.receiveFrom_cases available head body
  · exact .inl h
  · exact .inr (.inl h)
  · rw [hby] at hb
    obtain ⟨frame, after', haf, hhd, hbo⟩ := frame_at_boundary hb hp
    refine .inr (.inr ⟨frame, after', haf, ?_, fun f hf => ?_⟩)
    · rw [ht, toWireBytes, List.length_append, length_encodeHeader, hbo]
    · obtain ⟨hhd', hbody'⟩ := hframe f hf
      exact OpaqueFrame.ext_parts (hhd'.trans hhd.symm) (hbody'.trans hbo.symm)

/-! ### Whole runs -/

/-- The receiver is at the beginning of a frame, and the frames returned are among those before it,
in their order. -/
def AtBoundary (log : List LinkEntry) (link : TlsFallbackLink) : Prop :=
  ∃ before after, link.begun = before ++ after ∧ link.taken = (wireBytes before).length ∧
    (log.filterMap returnedFrame).Sublist before

/-- What a run keeps. Only the last frame can be written in part, and then the sender writes no
more; the receiver is at a boundary until it breaks off or cancels. -/
structure LinkInv (log : List LinkEntry) (link : TlsFallbackLink) : Prop where
  written : link.written <+: wireBytes link.begun
  whole : link.senderCancelled = false → link.written = wireBytes link.begun
  place : (∃ e ∈ log, breaksOff e = true) ∨ link.receiverCancelled = true ∨ AtBoundary log link

theorem wireBytes_append (frs frames' : List OpaqueFrame) :
    wireBytes (frs ++ frames') = wireBytes frs ++ wireBytes frames' := List.flatMap_append

theorem wireBytes_singleton (fr : OpaqueFrame) : wireBytes [fr] = fr.toWireBytes := by
  rw [wireBytes, List.flatMap_singleton]

/-- What the receiver has not taken yet begins with the bytes of the frames behind the boundary. -/
theorem bytes_after {before : List OpaqueFrame} (hw : link.written <+: wireBytes link.begun)
    (hb : link.begun = before ++ after) (ht : link.taken = (wireBytes before).length) :
    link.written.drop link.taken <+: wireBytes after := by
  have h := hw.drop link.taken
  rwa [hb, wireBytes_append, ht, List.drop_left, ← ht] at h

namespace LinkInv

variable {log : List LinkEntry}

section

variable (h : LinkInv log link)
include h

theorem place_of_idle {e : LinkEntry} {link' : TlsFallbackLink} {more : List OpaqueFrame}
    (ho : returnedFrame e = none) (hb : link'.begun = link.begun ++ more) (ht : link'.taken = link.taken)
    (hc : link.receiverCancelled = true → link'.receiverCancelled = true) :
    (∃ d ∈ log ++ [e], breaksOff d = true) ∨ link'.receiverCancelled = true ∨ AtBoundary (log ++ [e]) link' := by
  obtain ⟨d, hd, hbreaks⟩ | h | ⟨before, after, hsp, hat, hs⟩ := h.place
  · exact .inl ⟨d, List.mem_append_left _ hd, hbreaks⟩
  · exact .inr (.inl (hc h))
  · refine .inr (.inr ⟨before, after ++ more, by rw [hb, hsp, List.append_assoc], by rw [ht, hat], ?_⟩)
    rwa [filterMap_snoc, ho, Option.toList_none, List.append_nil]

theorem sendFrame (fr : OpaqueFrame) (stopped : Option (ℕ × Interruption)) :
    LinkInv (log ++ [entry (TlsFallbackLink.step sender receiver) link (.sendFrame fr stopped)])
      (TlsFallbackLink.sendFrame sender link fr stopped).2 := by
  have hi : returnedFrame (entry (TlsFallbackLink.step sender receiver) link (.sendFrame fr stopped)) = none := by
    simp only [returnedFrame, entry_out, TlsFallbackLink.step]
    cases (TlsFallbackLink.sendFrame sender link fr stopped).1 <;> rfl
  have hs := h.place_of_idle hi (List.append_nil link.begun).symm rfl id
  unfold TlsFallbackLink.sendFrame
  cases fr.validateFor sender.sessionId sender.limits with
  | error => exact ⟨h.written, h.whole, hs⟩
  | ok =>
    cases hc : link.senderCancelled with
    | true =>
      simp only [if_true]
      exact ⟨h.written, h.whole, hs⟩
    | false =>
      simp only [Bool.false_eq_true, if_false]
      have hw := h.whole hc
      cases stopped with
      | none =>
        have ha : link.written ++ fr.toWireBytes = wireBytes (link.begun ++ [fr]) := by
          rw [wireBytes_append, wireBytes_singleton, hw]
        exact ⟨ha ▸ List.prefix_rfl, fun _ => ha, h.place_of_idle hi rfl rfl id⟩
      | some =>
        refine ⟨?_, fun ho => absurd ho (by simp), h.place_of_idle hi rfl rfl id⟩
        simp only [wireBytes_append, wireBytes_singleton, hw]
        exact List.prefix_append_right_inj _ |>.mpr ⟨_, List.take_append_drop _ _⟩

theorem receiveFrame (head body : Reading) :
    LinkInv (log ++ [entry (TlsFallbackLink.step sender receiver) link (.receiveFrame head body)])
      (TlsFallbackLink.receiveFrame receiver link head body).2 := by
  have ho : (entry (TlsFallbackLink.step sender receiver) link (.receiveFrame head body)).out =
      (TlsFallbackLink.receiveFrame receiver link head body).1.map some := rfl
  have hpo : (entry (TlsFallbackLink.step sender receiver) link (.receiveFrame head body)).post =
      (TlsFallbackLink.receiveFrame receiver link head body).2 := rfl
  have hp : (entry (TlsFallbackLink.step sender receiver) link (.receiveFrame head body)).pre = link := rfl
  generalize entry (TlsFallbackLink.step sender receiver) link (.receiveFrame head body) = e at ho hpo hp ⊢
  unfold TlsFallbackLink.receiveFrame at ho hpo ⊢
  cases hcn : link.receiverCancelled with
  | true =>
    simp only [if_true] at ho ⊢
    exact ⟨h.written, h.whole, .inr (.inl hcn)⟩
  | false =>
    simp only [hcn, Bool.false_eq_true, if_false] at ho hpo ⊢
    refine ⟨h.written, h.whole, ?_⟩
    obtain ⟨d, hd, hb⟩ | hc | ⟨before, after, hsp, hat, hs⟩ := h.place
    · exact .inl ⟨d, List.mem_append_left _ hd, hb⟩
    · rw [hcn] at hc
      cases hc
    have haf := bytes_after h.written hsp hat
    generalize receiver.receiveFrom_at_boundary head body haf = hcases at ho hpo ⊢
    generalize receiver.receiveFrom (link.written.drop link.taken) head body = receipt at ho hpo hcases ⊢
    obtain ⟨error, he, hoperation⟩ | ⟨error, -, hc⟩ | ⟨fr, after', rfl, ht, hf⟩ := hcases
    · -- Stopped: at the boundary still if no byte was taken.
      rw [he] at ho
      by_cases hno : receipt.taken = 0
      · refine .inr (.inr ⟨before, after, hsp, by rw [hno, Nat.add_zero, hat], ?_⟩)
        rw [filterMap_snoc, returnedFrame, ho]
        simpa [Except.map, Except.toOption] using hs
      · refine .inl ⟨e, List.mem_append_right _ (List.mem_singleton_self _), ?_⟩
        simp only [breaksOff, ho, hpo, hp, Except.map, Bool.and_eq_true, bne_iff_ne, List.contains_eq_mem,
          decide_eq_true_eq]
        exact ⟨by omega, hoperation⟩
    · exact .inr (.inl hc)
    · refine .inr (.inr ⟨before ++ [fr], after', by rw [hsp, List.append_assoc, List.singleton_append], ?_, ?_⟩)
      · rw [ht, hat, wireBytes_append, wireBytes_singleton, List.length_append]
      · rw [filterMap_snoc]
        refine hs.append ?_
        cases hr : receipt.out with
        | error =>
          rw [hr] at ho
          simp [returnedFrame, ho, Except.map, Except.toOption]
        | ok f =>
          rw [hr] at ho
          rw [returnedFrame, ho, hf f hr]
          exact List.Sublist.refl _

theorem step (call : LinkCall) :
    LinkInv (log ++ [entry (TlsFallbackLink.step sender receiver) link call])
      (TlsFallbackLink.step sender receiver link call).2 := by
  cases call with
  | sendFrame fr stopped => exact h.sendFrame fr stopped
  | receiveFrame head body => exact h.receiveFrame head body
  | cancelSender =>
    exact ⟨h.written, fun ho => absurd ho (by simp [TlsFallbackLink.step]),
      h.place_of_idle rfl (List.append_nil _).symm rfl id⟩
  | cancelReceiver => exact ⟨h.written, h.whole, .inr (.inl rfl)⟩

end

end LinkInv

theorem linkInv_new : LinkInv [] TlsFallbackLink.new :=
  ⟨List.prefix_rfl, fun _ => rfl, .inr (.inr ⟨[], [], rfl, rfl, List.Sublist.slnil⟩)⟩

theorem linkInv_run (sender receiver : TlsFallbackEnd) (cs : List LinkCall) :
    LinkInv (trace (TlsFallbackLink.step sender receiver) .new cs)
      (final (TlsFallbackLink.step sender receiver) .new cs) := by
  have h := history_inv (TlsFallbackLink.step sender receiver) (fun _ _ call h => h.step call) cs [] .new linkInv_new
  rwa [List.nil_append] at h

theorem receive_of_returned {call : LinkCall} {fr : OpaqueFrame}
    (h : (TlsFallbackLink.step sender receiver link call).1 = .ok (some fr)) :
    ∃ head body, call = .receiveFrame head body ∧ link.receiverCancelled = false ∧
      (receiver.receiveFrom (link.written.drop link.taken) head body).out = .ok fr ∧
      (TlsFallbackLink.step sender receiver link call).2.taken =
        link.taken + (receiver.receiveFrom (link.written.drop link.taken) head body).taken := by
  cases call with
  | sendFrame f stopped =>
    simp only [TlsFallbackLink.step] at h
    cases hsend : (TlsFallbackLink.sendFrame sender link f stopped).1 <;> rw [hsend] at h <;> cases h
  | receiveFrame head body =>
    simp only [TlsFallbackLink.step, TlsFallbackLink.receiveFrame] at h ⊢
    cases hc : link.receiverCancelled with
    | true =>
      rw [hc] at h
      cases h
    | false =>
      simp only [hc] at h ⊢
      refine ⟨head, body, rfl, trivial, ?_, rfl⟩
      cases ho : (receiver.receiveFrom (link.written.drop link.taken) head body).out with
      | error =>
        rw [ho] at h
        cases h
      | ok =>
        rw [ho] at h
        cases h
        rfl
  | cancelSender | cancelReceiver => cases h

/-- **Frames stay aligned as long as nobody reads on after a broken-off call.** Whatever is sent,
however the bytes are split and whatever calls are stopped: if `receive_frame` is not called again
after it has failed within a frame, each frame it returns was read from the beginning of a frame
that the peer sent, is that frame, and comes after all frames returned before, in sending order. -/
theorem received_in_order (sender receiver : TlsFallbackEnd) (calls : List LinkCall)
    (hbreak : NoReceiveAfterBreak (trace (TlsFallbackLink.step sender receiver) .new calls)) :
    ∀ log e later frame, trace (TlsFallbackLink.step sender receiver) .new calls = log ++ e :: later →
      e.out = .ok (some frame) →
        ∃ before after, e.pre.begun = before ++ frame :: after ∧ e.pre.taken = (wireBytes before).length ∧
          e.post.taken = (wireBytes (before ++ [frame])).length ∧ (log.filterMap returnedFrame).Sublist before := by
  intro log e later frame hl ho
  rw [NoReceiveAfterBreak, hl, List.pairwise_append] at hbreak
  obtain ⟨before, call, -, -, rfl, rfl⟩ := trace_eq_append_cons _ hl
  have hI := linkInv_run sender receiver before
  obtain ⟨head, body, rfl, hop, hr, ht⟩ := receive_of_returned ho
  obtain ⟨d, hd, hb⟩ | hc | ⟨past, after, hsp, hat, hs⟩ := hI.place
  · have hn := hbreak.2.2 d hd _ List.mem_cons_self hb
    cases hn
  · rw [hop] at hc
    cases hc
  · obtain ⟨error, he, -⟩ | ⟨error, he, -⟩ | ⟨next, after', rfl, hnx, hf⟩ :=
      receiver.receiveFrom_at_boundary head body (bytes_after hI.written hsp hat)
    · rw [hr] at he
      cases he
    · rw [hr] at he
      cases he
    · cases hf frame hr
      refine ⟨past, after', hsp, hat, ?_, hs⟩
      rw [entry_post, ht, hnx, hat, wireBytes_append, wireBytes_singleton, List.length_append]

namespace TlsSample

def endpoint : TlsFallbackEnd := ⟨7, 64, 8⟩

def nested : OpaqueFrame :=
  ⟨MessageHeader.new .clipboardText 7 1 2, [1, 2], rfl, rfl, by decide⟩

/-- A frame whose payload is the bytes of another frame. -/
def outer : OpaqueFrame :=
  ⟨MessageHeader.new .clipboardText 7 0 42, nested.toWireBytes, rfl, by decide +kernel, by decide⟩

def prompt : Reading := ⟨[64], .timeout⟩

/-- Nothing comes before the timer. -/
def late : Reading := ⟨[], .timeout⟩

def calls : List LinkCall :=
  [.sendFrame outer none, .receiveFrame late late, .receiveFrame ⟨[10, 30], .timeout⟩ prompt, .sendFrame nested none]

end TlsSample

open TlsSample in
/-- A call that is stopped before the first byte may be repeated. -/
theorem received_in_order_retried :
    ∃ before after, [outer, nested] = before ++ nested :: after ∧ ([outer] : List OpaqueFrame).Sublist before := by
  obtain ⟨before, after, hsp, -, -, hs⟩ := received_in_order endpoint endpoint (calls ++ [.receiveFrame prompt prompt])
    (by decide +kernel) _ _ [] nested (trace_append _ _ calls [_]) (by decide +kernel)
  have hb : (final (TlsFallbackLink.step endpoint endpoint) .new calls).begun = [outer, nested] := by decide +kernel
  have hr : (trace (TlsFallbackLink.step endpoint endpoint) .new calls).filterMap returnedFrame = [outer] := by
    decide +kernel
  rw [hr] at hs
  exact ⟨before, after, hb.symm.trans hsp, hs⟩

open TlsSample in
/-- **A frame that was never sent.** The timer stops a call between the header and the payload of
the only frame; the next call reads the payload as a frame. -/
theorem payload_received_as_frame :
    (trace (TlsFallbackLink.step endpoint endpoint) .new
      [.sendFrame outer none, .receiveFrame prompt late, .receiveFrame prompt prompt]).map Entry.out =
        [.ok none, .error ⟨.timeout, "receive_tls_fallback_payload"⟩, .ok (some nested)] ∧ nested ≠ outer := by
  decide +kernel

end Rctl
