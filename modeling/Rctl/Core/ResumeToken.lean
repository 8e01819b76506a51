/-
# The token that resumes a session after a reboot

`remote-core/src/reboot.rs`: a token is the identifier, a dot and the secret in hexadecimal, of
which only the hash is kept. `decode_hex` slices at even byte offsets, which panics inside a longer
character, and reads `+a` as `0a` (`resume_token_misread`). A string is verified as it should be, with
an answer that accepts exactly the spellings of the issued token, if and only if it is neither cut in
such a place nor spells the secret with a plus sign for a zero (`resume_token_exact`).

A `str` is its UTF-8 bytes, and a computation that panics has no result.

Key definitions: `decodeHex`, `ResumeToken.verify`, `Misread`.
Key theorems: `decodeHexLoop_spec`, `resume_token_exact`.
-/
import Rctl.Protocol.CanonicalTarget

namespace Rctl

open ByteString

inductive ResumeTokenError
  | malformed
  | mismatch
  | consumed
  deriving DecidableEq

structure ResumeToken where
  id : Bytes
  secretHash : Digest
  deriving DecidableEq

/-- Every byte as `{byte:02x}`. -/
def hex (bytes : Bytes) : Bytes :=
  let digit (n : UInt8) : UInt8 := if n < 10 then 0x30 + n else 0x61 + (n - 10)
  bytes.flatMap fun byte : UInt8 => [digit (byte >>> 4), digit (byte &&& 0x0f)]

/-- `u8::from_str_radix(_, 16)` of two bytes: a leading plus sign is skipped. -/
def fromStrRadix (a b : UInt8) : Option UInt8 :=
  if a = 0x2b then hexNibble b else do return (← hexNibble a) * 16 + (← hexNibble b)

/-- A byte before which a `str` cannot be cut. -/
def isContinuation (b : UInt8) : Bool := 0x80 ≤ b && b < 0xc0

/-- The loop of `decode_hex` from an even offset on; it stops at the first slice that is no number. -/
def decodeHexLoop : Bytes → Option (Option Bytes)
  | a :: b :: rest =>
    if isContinuation a || rest.head?.any isContinuation then none
    else match fromStrRadix a b with
      | none => some none
      | some byte => (decodeHexLoop rest).map (Option.map (byte :: ·))
  | _ => some (some [])

def decodeHex (value : Bytes) : Option (Option Bytes) :=
  if value.length % 2 = 0 then decodeHexLoop value else some none

namespace ResumeToken

variable (sha256 : Bytes → Digest)

def issue (id secret : Bytes) : Except ResumeTokenError (ResumeToken × Bytes) :=
  if id = [] ∨ secret = [] ∨ 0x2e ∈ id then .error .malformed
  else .ok (⟨id, sha256 secret⟩, id ++ 0x2e :: hex secret)

def verify (t : ResumeToken) (token : Bytes) : Option (Except ResumeTokenError Unit) :=
  match splitOnce 0x2e token with
  | none => some (.error .malformed)
  | some (id, secret) =>
    if id ≠ t.id ∨ secret = [] then some (.error .mismatch)
    else (decodeHex secret).map fun
      | none => .error .malformed
      | some decoded => if t.secretHash = sha256 decoded then .ok () else .error .mismatch

end ResumeToken

/-- The two strings differ at most in the case of their letters. -/
def EqIgnoreCase (a b : Bytes) : Prop := a.map toAsciiUppercase = b.map toAsciiUppercase

/-- Two digits, in either case, are read as the byte they say. -/
theorem fromStrRadix_eq_some {a b byte : UInt8} (hplus : a ≠ 0x2b) :
    fromStrRadix a b = some byte ↔ EqIgnoreCase [a, b] (hex [byte]) := by
  have hd : ∀ n < 16, ∀ c : UInt8, hexNibble c = some (UInt8.ofNat n) ↔
      toAsciiUppercase c = hexDigit (UInt8.ofNat n) := by
    intro n hn
    refine forall_byte ?_
    revert n
    decide +kernel
  have hall : ∀ c : UInt8, (hexNibble c).all (· < 16) = true := forall_byte (by decide +kernel)
  have hs : ∀ c n : UInt8, hexNibble c = some n → n < 16 := fun c n hn => by simpa [hn] using hall c
  have hby : ∀ byte : UInt8, (hex [byte]).map toAsciiUppercase = [hexDigit (byte >>> 4), hexDigit (byte &&& 0x0f)] ∧
      (byte >>> 4) * 16 + (byte &&& 0x0f) = byte ∧ byte >>> 4 < 16 ∧ byte &&& 0x0f < 16 :=
    forall_byte (by decide +kernel)
  have hsp : ∀ m < 16, ∀ n < 16, (UInt8.ofNat m * 16 + UInt8.ofNat n) >>> 4 = UInt8.ofNat m ∧
      (UInt8.ofNat m * 16 + UInt8.ofNat n) &&& 0x0f = UInt8.ofNat n := by decide +kernel
  obtain ⟨hhex, hjoin, hh, hl⟩ := hby byte
  have hh' := hd (byte >>> 4).toNat hh a
  have hl' := hd (byte &&& 0x0f).toNat hl b
  simp only [UInt8.ofNat_toNat] at hh' hl'
  simp only [EqIgnoreCase, hhex, List.map_cons, List.map_nil, List.cons.injEq, and_true, ← hh', ← hl',
    fromStrRadix, if_neg hplus]
  constructor
  · intro h
    simp only [Option.bind_eq_bind, Option.bind_eq_some_iff, Option.pure_def, Option.some.injEq] at h
    obtain ⟨m, hm, n, hn, rfl⟩ := h
    have h := hsp m.toNat (hs a m hm) n.toNat (hs b n hn)
    simp only [UInt8.ofNat_toNat] at h
    exact ⟨by rw [h.1, hm], by rw [h.2, hn]⟩
  · rintro ⟨ha, hb⟩
    simp [ha, hb, hjoin]

theorem fromStrRadix_plusAsZero (a b : UInt8) : fromStrRadix (if a = 0x2b then 0x30 else a) b = fromStrRadix a b := by
  split_ifs with ha
  · rw [ha, fromStrRadix, fromStrRadix, if_pos rfl, if_neg (by decide), show hexNibble 0x30 = some 0 from rfl]
    cases hexNibble b <;> simp
  · rfl

/-! ### Where the decoder goes wrong -/

/-- Two digits, or a plus sign and a digit. -/
def readsPair (a b : UInt8) : Bool := (a = 0x2b || (hexNibble a).isSome) && (hexNibble b).isSome

/-- The text is cut inside a character, behind pairs that are all read. -/
def cutsCharacter : Bytes → Bool
  | a :: b :: rest => isContinuation a || rest.head?.any isContinuation || (readsPair a b && cutsCharacter rest)
  | _ => false

/-- The text with a zero for each plus sign in the place of a first digit. -/
def plusAsZero : Bytes → Bytes
  | a :: b :: rest => (if a = 0x2b then 0x30 else a) :: b :: plusAsZero rest
  | rest => rest

/-- The text makes the decoder panic, or spells the secret with a plus sign for a zero. -/
def Misread (secret text : Bytes) : Prop :=
  text.length % 2 = 0 ∧ cutsCharacter text = true ∨
    plusAsZero text ≠ text ∧ EqIgnoreCase (plusAsZero text) (hex secret)

theorem readsPair_eq (a b : UInt8) : readsPair a b = (fromStrRadix a b).isSome := by
  unfold readsPair fromStrRadix
  split_ifs with ha
  · simp [ha]
  · cases hexNibble a <;> cases hexNibble b <;> simp [ha]

theorem length_plusAsZero : ∀ text : Bytes, (plusAsZero text).length = text.length
  | [] | [_] => rfl
  | _ :: _ :: rest => by simp [plusAsZero, length_plusAsZero rest]

theorem plusAsZero_of_not_mem : ∀ {text : Bytes}, 0x2b ∉ text → plusAsZero text = text
  | [], _ | [_], _ => rfl
  | a :: b :: rest, h => by
    simp only [List.mem_cons, not_or] at h
    rw [plusAsZero, if_neg (Ne.symm h.1), plusAsZero_of_not_mem h.2.2]

theorem length_hex (secret : Bytes) : (hex secret).length = 2 * secret.length := by
  simp [hex, Nat.mul_comm]

theorem cutsCharacter_of_ascii : ∀ {text : Bytes}, (∀ b ∈ text, b < 0x80) → cutsCharacter text = false
  | [], _ | [_], _ => rfl
  | a :: b :: rest, h => by
    simp only [List.forall_mem_cons] at h
    have ha (b : UInt8) (hb : b < 0x80) : isContinuation b = false := by simp [isContinuation, UInt8.not_le.mpr hb]
    rw [cutsCharacter, ha a h.1, cutsCharacter_of_ascii h.2.2]
    cases rest with
    | nil => simp
    | cons c => simp [ha c (h.2.2 c List.mem_cons_self)]

/-- A spelling has no plus sign. -/
theorem plusAsZero_of_spells {secret text : Bytes} (h : EqIgnoreCase text (hex secret)) : plusAsZero text = text := by
  have hby : ∀ byte : UInt8, (hex [byte]).all (toAsciiUppercase · ≠ 0x2b) = true := forall_byte (by decide +kernel)
  refine plusAsZero_of_not_mem fun hm => ?_
  have hup : (0x2b : UInt8) ∈ (hex secret).map toAsciiUppercase := h ▸ List.mem_map.mpr ⟨_, hm, rfl⟩
  obtain ⟨digit, hd, hu⟩ := List.mem_map.mp hup
  obtain ⟨byte, -, hd⟩ := List.mem_flatMap.mp hd
  simpa [hu] using List.all_eq_true.mp (hby byte) digit (by simpa [hex] using hd)

/-- The loop panics exactly where the text is cut, and reads a plus sign as a zero. -/
theorem decodeHexLoop_spec : ∀ {text : Bytes}, text.length % 2 = 0 →
    (cutsCharacter text = true → decodeHexLoop text = none) ∧
      (cutsCharacter text = false → (decodeHexLoop text).isSome ∧
        ∀ secret, decodeHexLoop text = some (some secret) ↔ EqIgnoreCase (plusAsZero text) (hex secret))
  | [], _ => by
    refine ⟨nofun, fun _ => ⟨rfl, fun secret => ?_⟩⟩
    cases secret <;> simp [decodeHexLoop, plusAsZero, EqIgnoreCase, hex]
  | [_], h => by simp at h
  | a :: b :: rest, heven => by
    have heven' : rest.length % 2 = 0 := by
      simp only [List.length_cons] at heven
      omega
    obtain ⟨ihcut, ih⟩ := decodeHexLoop_spec heven'
    have hpair (byte : UInt8) : fromStrRadix a b = some byte ↔
        EqIgnoreCase [if a = 0x2b then 0x30 else a, b] (hex [byte]) := by
      rw [← fromStrRadix_plusAsZero, fromStrRadix_eq_some (by split_ifs <;> simp_all)]
    have hcons (byte : UInt8) (secret : Bytes) : EqIgnoreCase (plusAsZero (a :: b :: rest)) (hex (byte :: secret)) ↔
        fromStrRadix a b = some byte ∧ EqIgnoreCase (plusAsZero rest) (hex secret) := by
      rw [hpair]
      simp [EqIgnoreCase, hex, plusAsZero, and_assoc]
    rw [decodeHexLoop, cutsCharacter, readsPair_eq]
    cases isContinuation a || rest.head?.any isContinuation with
    | true => exact ⟨fun _ => rfl, nofun⟩
    | false =>
      cases hr : fromStrRadix a b with
      | none =>
        refine ⟨nofun, fun _ => ⟨rfl, fun secret => ⟨nofun, fun h => ?_⟩⟩⟩
        cases secret with
        | nil => simp [EqIgnoreCase, hex, plusAsZero] at h
        | cons byte secret => cases hr.symm.trans ((hcons byte secret).mp h).1
      | some byte' =>
        simp only [Option.isSome_some, Bool.true_and, Bool.false_or, Bool.false_eq_true, if_false]
        refine ⟨fun h => by rw [ihcut h]; rfl, fun h => ⟨by simp [(ih h).1], fun secret => ?_⟩⟩
        cases secret with
        | nil => simp [EqIgnoreCase, hex, plusAsZero]
        | cons byte secret =>
          rw [hcons, hr, ← (ih h).2]
          simp [and_comm]

theorem decodeHex_spec (text : Bytes) :
    (text.length % 2 = 0 ∧ cutsCharacter text = true → decodeHex text = none) ∧
      (¬ (text.length % 2 = 0 ∧ cutsCharacter text = true) → (decodeHex text).isSome ∧
        ∀ secret, decodeHex text = some (some secret) ↔ EqIgnoreCase (plusAsZero text) (hex secret)) := by
  unfold decodeHex
  split_ifs with heven
  · obtain ⟨hcut, hread⟩ := decodeHexLoop_spec heven
    exact ⟨fun h => hcut h.2, fun h => hread (by simpa [heven] using h)⟩
  · refine ⟨fun h => absurd h.1 heven, fun _ => ⟨rfl, fun secret => ⟨nofun, fun h => ?_⟩⟩⟩
    have hl := congrArg List.length h
    rw [List.length_map, List.length_map, length_plusAsZero, length_hex] at hl
    omega

namespace ResumeToken

variable (sha256 : Bytes → Digest) {id secret w : Bytes} {t : ResumeToken}

/-- What follows the identifier and the dot is verified as it should be, unless it is misread. -/
theorem verify_exact (text : Bytes) (hid : 0x2e ∉ id) (hs : secret ≠ [])
    (hsh : ∀ decoded, sha256 decoded = sha256 secret → decoded = secret) :
    (verify sha256 ⟨id, sha256 secret⟩ (id ++ 0x2e :: text)).isSome ∧
      (verify sha256 ⟨id, sha256 secret⟩ (id ++ 0x2e :: text) = some (.ok ()) ↔ EqIgnoreCase text (hex secret)) ↔
    ¬ Misread secret text := by
  obtain ⟨hcut, hread⟩ := decodeHex_spec text
  by_cases he : text = []
  · have hne : hex secret ≠ [] := fun h => hs (by simpa [h] using length_hex secret)
    simp [verify, splitOnce_append hid, he, Misread, cutsCharacter, plusAsZero, EqIgnoreCase,
      eq_comm (a := ([] : Bytes)), hne]
  have hv : (verify sha256 ⟨id, sha256 secret⟩ (id ++ 0x2e :: text)).isSome = (decodeHex text).isSome := by
    simp [verify, splitOnce_append hid, he]
  by_cases hc : text.length % 2 = 0 ∧ cutsCharacter text = true
  · simp [hv, hcut hc, Misread, hc]
  obtain ⟨hso, hde⟩ := hread hc
  have hok : verify sha256 ⟨id, sha256 secret⟩ (id ++ 0x2e :: text) = some (.ok ()) ↔
      EqIgnoreCase (plusAsZero text) (hex secret) := by
    simp only [verify, splitOnce_append hid]
    rw [if_neg (by simp [he]), Option.map_eq_some_iff, ← hde]
    refine ⟨?_, fun h => ⟨some secret, h, if_pos rfl⟩⟩
    rintro ⟨_ | decoded, hd, hok⟩
    · cases hok
    · by_cases heq : sha256 secret = sha256 decoded
      · rw [hd, hsh decoded heq.symm]
      · simp [heq] at hok
  rw [hv, hok, Misread, or_iff_right hc]
  refine ⟨fun h hm => hm.1 (plusAsZero_of_spells (h.2.mp hm.2)), fun h => ⟨hso, fun hz => ?_, fun hx => ?_⟩⟩
  · rwa [not_not.mp fun hne => h ⟨hne, hz⟩] at hz
  · rwa [plusAsZero_of_spells hx]

/-- **Verification of a resume token.** For an issued token the wire token is accepted, and a string
is verified with an answer that accepts exactly the hexadecimal spellings of the secret behind the
identifier and a dot, in either case, if and only if what stands behind them is not misread. -/
theorem resume_token_exact (hissue : issue sha256 id secret = .ok (t, w))
    (hsha256 : ∀ decoded, sha256 decoded = sha256 secret → decoded = secret) :
    w = id ++ 0x2e :: hex secret ∧ t.verify sha256 w = some (.ok ()) ∧ ∀ s,
      ((t.verify sha256 s).isSome ∧ (t.verify sha256 s = some (.ok ()) ↔
        ∃ text, s = id ++ 0x2e :: text ∧ EqIgnoreCase text (hex secret))) ↔
      ∀ text, s = id ++ 0x2e :: text → ¬ Misread secret text := by
  rw [issue, Result.ite_error_eq_ok, not_or, not_or, Except.ok.injEq, Prod.mk.injEq] at hissue
  obtain ⟨⟨-, hs, hid⟩, rfl, rfl⟩ := hissue
  have hx (text : Bytes) := verify_exact sha256 text hid hs hsha256
  have hw : ¬ Misread secret (hex secret) := by
    have hby : ∀ byte : UInt8, (hex [byte]).all (· < 0x80) = true := forall_byte (by decide +kernel)
    have ha : cutsCharacter (hex secret) = false := cutsCharacter_of_ascii fun b hb => by
      obtain ⟨byte, -, hb⟩ := List.mem_flatMap.mp hb
      simpa using List.all_eq_true.mp (hby byte) b (by simpa [hex] using hb)
    simp [Misread, ha, plusAsZero_of_spells (show EqIgnoreCase (hex secret) (hex secret) from rfl)]
  refine ⟨rfl, ((hx _).mpr hw).2.mpr rfl, fun s => ?_⟩
  by_cases hs' : ∃ text, s = id ++ 0x2e :: text
  · obtain ⟨text, rfl⟩ := hs'
    simpa using hx text
  · -- no identifier and dot: the string is refused, and it spells nothing
    have hvf : ∃ e, verify sha256 ⟨id, sha256 secret⟩ s = some (.error e) := by
      obtain ⟨-, hsp⟩ | ⟨a, text, rfl, -, hsp⟩ := splitOnce_spec 0x2e s
      · exact ⟨.malformed, by rw [verify, hsp]⟩
      · have hne : a ≠ id := fun h => hs' ⟨text, by rw [h]⟩
        exact ⟨.mismatch, by simp [verify, hsp, hne]⟩
    obtain ⟨e, he⟩ := hvf
    refine ⟨fun _ text h => absurd ⟨text, h⟩ hs', fun _ => ⟨by rw [he]; rfl, by rw [he]; nofun, ?_⟩⟩
    rintro ⟨text, h, -⟩
    exact absurd ⟨text, h⟩ hs'

def sampleSha256 (bytes : Bytes) : Digest := ByteArr.ofNat 32 (if bytes = [0x0a] then 1 else 0)

theorem resume_token_exact_upper : verify sampleSha256 ⟨[0x69], sampleSha256 [0x0a]⟩ [0x69, 0x2e, 0x30, 0x41] =
    some (.ok ()) := by
  have hs : ∀ decoded, sampleSha256 decoded = sampleSha256 [0x0a] → decoded = [0x0a] := by
    intro decoded h
    by_contra hne
    rw [sampleSha256, if_neg hne] at h
    revert h
    decide +kernel
  have hi : issue sampleSha256 [0x69] [0x0a] = .ok (⟨[0x69], sampleSha256 [0x0a]⟩, [0x69, 0x2e, 0x30, 0x61]) := by
    decide +kernel
  refine (((resume_token_exact sampleSha256 hi hs).2.2 [0x69, 0x2e, 0x30, 0x41]).mpr ?_).2.mpr
    ⟨[0x30, 0x41], rfl, rfl⟩
  intro text h
  obtain rfl : text = [0x30, 0x41] := by simpa using h.symm
  rintro (h | h)
  · exact absurd h.2 (by decide)
  · exact h.1 rfl

/-- `i.+a` is accepted in the place of `i.0a`, and `i.aéb` panics. -/
theorem resume_token_misread :
    issue sampleSha256 [0x69] [0x0a] = .ok (⟨[0x69], sampleSha256 [0x0a]⟩, [0x69, 0x2e, 0x30, 0x61]) ∧
    verify sampleSha256 ⟨[0x69], sampleSha256 [0x0a]⟩ [0x69, 0x2e, 0x2b, 0x61] = some (.ok ()) ∧
    verify sampleSha256 ⟨[0x69], sampleSha256 [0x0a]⟩ [0x69, 0x2e, 0x61, 0xc3, 0xa9, 0x62] = none := by
  decide +kernel

end ResumeToken

end Rctl
