/-
# Hashes, codes and signatures of the API server

The functions of `services/api-server/src/security.rs` that the store calls. Code of
other crates is a parameter, `Env`: hashing, password verification, base32 and
base64, HMAC-SHA1, Ed25519, and the JSON of `serde_json` and of the canonical body.
-/
import Rctl.Api.Model
import Rctl.Lib.Result
import Rctl.Protocol.RequestTarget

namespace Rctl.Api

open ByteString Result

/-- What a registration writes into its audit entry. -/
structure DeviceRegistrationResultSnapshot where
  grantId : String
  registrationRequestBindingHash : String
  deviceId : String
  accountId : String
  displayName : String
  platform : Platform
  osVersion : String
  arch : Architecture
  capabilities : DeviceCapabilities
  publicKeyId : String
  publicKeyFingerprint : String
  publicKeyVersion : UInt32
  publicKeyRevokedAtEpochMillis : Option UInt64
  status : String
  lastSeenEpochMillis : Option UInt64
  createdAtEpochMillis : UInt64
  updatedAtEpochMillis : UInt64
  deriving DecidableEq

/-- The functions of other crates. -/
structure Env where
  sha256 : Bytes → Digest
  /-- `argon2` accepts the candidate password for the stored hash. -/
  verifyPassword : (passwordHash candidate : String) → Bool
  base32Decode : String → Option Bytes
  hmacSha1 : (key message : Bytes) → Option (ByteArr 20)
  base64UrlDecode : String → Option Bytes
  base64StandardDecode : String → Option Bytes
  /-- `VerifyingKey::from_bytes` accepts the key. -/
  ed25519Key : ByteArr 32 → Bool
  ed25519Verify : ByteArr 32 → Digest → ByteArr 64 → Bool
  /-- `remote_protocol::canonical_json_bytes_from_slice`. -/
  canonicalJsonBytesFromSlice : Bytes → Option Bytes
  jsonToVec : List String → Option Bytes
  /-- `serde_json::to_value` and `serde_json::from_value` of a snapshot. -/
  snapshotToValue : DeviceRegistrationResultSnapshot → Option JsonValue
  snapshotFromValue : JsonValue → Option DeviceRegistrationResultSnapshot

/-! ### Arithmetic of `u64` -/

def checkedAddSigned (now : UInt64) (d : ℤ) : Option UInt64 :=
  if 0 ≤ now.toNat + d ∧ now.toNat + d < 2 ^ 64 then some (UInt64.ofNat (now.toNat + d).toNat) else none

def checkedSub (a b : UInt64) : Option UInt64 := if b ≤ a then some (a - b) else none

def saturatingAdd (a b : UInt64) : UInt64 :=
  if a.toNat + b.toNat < 2 ^ 64 then a + b else UInt64.ofNat (2 ^ 64 - 1)

def absDiff (a b : UInt64) : UInt64 := if a ≤ b then b - a else a - b

theorem saturatingAdd_toNat (a b : UInt64) : (saturatingAdd a b).toNat = min (a.toNat + b.toNat) (2 ^ 64 - 1) := by
  unfold saturatingAdd
  split
  · rw [UInt64.toNat_add]
    omega
  · rw [UInt64.toNat_ofNat']
    omega

theorem absDiff_le_iff {a b k : UInt64} :
    absDiff a b ≤ k ↔ a.toNat ≤ b.toNat + k.toNat ∧ b.toNat ≤ a.toNat + k.toNat := by
  unfold absDiff
  rw [UInt64.le_iff_toNat_le]
  split_ifs with h
  · rw [UInt64.toNat_sub_of_le _ _ h]
    rw [UInt64.le_iff_toNat_le] at h
    omega
  · rw [UInt64.not_le] at h
    rw [UInt64.toNat_sub_of_le _ _ (UInt64.le_of_lt h)]
    rw [UInt64.lt_iff_toNat_lt] at h
    omega

theorem le_later (a b : UInt64) : a ≤ if a < b then b else a := by
  split_ifs with h
  · exact UInt64.le_of_lt h
  · exact UInt64.le_refl a

/-! ### Text -/

/-- `char::is_whitespace`: the Unicode property White_Space. -/
def isWhitespace (c : Char) : Bool :=
  let n := c.toNat
  (9 ≤ n && n ≤ 13) || n == 0x20 || n == 0x85 || n == 0xa0 || n == 0x1680 ||
    (0x2000 ≤ n && n ≤ 0x200a) || n == 0x2028 || n == 0x2029 || n == 0x202f || n == 0x205f ||
    n == 0x3000

def trim (s : String) : String :=
  String.ofList ((s.toList.dropWhile isWhitespace).reverse.dropWhile isWhitespace).reverse

def isBlank (s : String) : Bool := trim s == ""

def hexDigit (n : UInt8) : Char := "0123456789abcdef".toList.getD n.toNat '0'

def hexEncode (bytes : Bytes) : String :=
  String.ofList (bytes.flatMap fun (byte : UInt8) => [hexDigit (byte >>> 4), hexDigit (byte &&& 0x0f)])

theorem hexDigit_inj {m n : UInt8} (hm : m < 16) (hn : n < 16) (h : hexDigit m = hexDigit n) : m = n := by
  have hd : ∀ m < 16, ∀ n < 16, hexDigit (UInt8.ofNat m) = hexDigit (UInt8.ofNat n) → m = n := by decide
  refine UInt8.toNat_inj.mp (hd m.toNat hm n.toNat hn ?_)
  rwa [UInt8.ofNat_toNat, UInt8.ofNat_toNat]

theorem eq_of_nibbles {a b : UInt8} (hh : a >>> 4 = b >>> 4) (hl : a &&& 0x0f = b &&& 0x0f) : a = b := by
  have hsp : ∀ a : UInt8, (a >>> 4) <<< 4 ||| (a &&& 0x0f) = a := forall_byte (by decide +kernel)
  rw [← hsp a, hh, hl, hsp b]

theorem hexEncode_inj : ∀ {a b : Bytes}, hexEncode a = hexEncode b → a = b := by
  have hn : ∀ a : UInt8, a >>> 4 < 16 ∧ a &&& 0x0f < 16 := forall_byte (by decide +kernel)
  intro a b h
  replace h := String.ofList_injective h
  induction a generalizing b with
  | nil => cases b with
    | nil => rfl
    | cons => cases h
  | cons x _ ih => cases b with
    | nil => cases h
    | cons y =>
      simp only [List.flatMap_cons, List.cons_append, List.nil_append, List.cons.injEq] at h
      obtain ⟨hh, hl, hr⟩ := h
      rw [ih hr, eq_of_nibbles (hexDigit_inj (hn x).1 (hn y).1 hh) (hexDigit_inj (hn x).2 (hn y).2 hl)]

/-! ### Comparison and hashing -/

/-- The bytes differ nowhere: the differences are collected, not branched on. -/
def constantTimeEq (left right : Bytes) : Bool :=
  left.length == right.length &&
    (left.zip right).foldl (fun difference (p : UInt8 × UInt8) => difference ||| (p.1 ^^^ p.2)) 0 == 0

def constantTimeSha256Eq (left right : Digest) : Bool := constantTimeEq left.toList right.toList

theorem foldl_difference_eq_zero : ∀ (l : List (UInt8 × UInt8)) (d : UInt8),
    l.foldl (fun difference (p : UInt8 × UInt8) => difference ||| (p.1 ^^^ p.2)) d = 0 ↔ d = 0 ∧ ∀ p ∈ l, p.1 = p.2
  | [], d => by simp
  | p :: l, d => by
    rw [List.foldl_cons, foldl_difference_eq_zero l, UInt8.or_eq_zero_iff, UInt8.xor_eq_zero_iff,
      List.forall_mem_cons, and_assoc]

theorem eq_of_zip_eq : ∀ {l r : Bytes}, l.length = r.length → (∀ p ∈ l.zip r, p.1 = p.2) → l = r
  | [], [], _, _ => rfl
  | a :: l, b :: r, hl, h => by
    rw [List.zip_cons_cons, List.forall_mem_cons] at h
    exact congrArg₂ _ h.1 (eq_of_zip_eq (Nat.succ.inj hl) h.2)

theorem zip_self_eq : ∀ {l : Bytes}, ∀ p ∈ l.zip l, p.1 = p.2
  | [], p, hp => by simp at hp
  | a :: l, p, hp => by
    rcases List.mem_cons.mp hp with rfl | hp
    · rfl
    · exact zip_self_eq p hp

@[simp] theorem constantTimeSha256Eq_iff {left right : Digest} :
    constantTimeSha256Eq left right = true ↔ left = right := by
  simp only [constantTimeSha256Eq, constantTimeEq, Bool.and_eq_true, beq_iff_eq, foldl_difference_eq_zero, true_and]
  constructor
  · rintro ⟨hl, h⟩
    exact Vector.toList_inj.mp (eq_of_zip_eq hl h)
  · rintro rfl
    exact ⟨rfl, zip_self_eq⟩

/-- `append_field`: name and value behind their lengths as `u32`. -/
def appendField (name value : Bytes) : Bytes :=
  toBeBytes 4 (name.length % 2 ^ 32) ++ name ++ toBeBytes 4 (value.length % 2 ^ 32) ++ value

def canonicalFields (domain : String) (fields : List (String × Bytes)) : Bytes :=
  appendField (utf8 "domain") (utf8 domain) ++ fields.flatMap fun f => appendField (utf8 f.1) f.2

variable (env : Env) {last : Option UInt64} {secret code : String}

def Env.sha256Hex (bytes : Bytes) : String := hexEncode (env.sha256 bytes).toList

/-! ### One-time codes -/

/-- A number below a million as six digits. -/
def sixDigits (n : ℕ) : String := String.ofList (List.leftpad 6 '0' (Nat.toDigits 10 n))

def totpCode (secretBase32 : String) (timestampMillis : UInt64) : Option (String × UInt64) := do
  let secret ← env.base32Decode secretBase32
  let counter := timestampMillis / 30000
  let digest ← env.hmacSha1 secret (toBeBytes 8 counter.toNat)
  let byte := fun i => (digest.toList.getD i 0).toNat
  let offset := byte 19 &&& 0x0f
  let binary := (byte offset &&& 0x7f) <<< 24 ||| byte (offset + 1) <<< 16 |||
    byte (offset + 2) <<< 8 ||| byte (offset + 3)
  return (sixDigits (binary % 1000000), counter)

/-- The loop of `verify_totp` over the offsets left: an offset that cannot be
computed ends it. -/
def verifyTotpAt (secretBase32 code : String) (now : UInt64) (last : Option UInt64) :
    List ℤ → Option UInt64
  | [] => none
  | offset :: rest => do
    let adjusted ← checkedAddSigned now (offset * 30000)
    let (expected, counter) ← totpCode env secretBase32 adjusted
    if expected == code && last.all (· < counter) then some counter
    else verifyTotpAt secretBase32 code now last rest

def verifyTotp (secretBase32 code : String) (now : UInt64) (last : Option UInt64) : Option UInt64 :=
  verifyTotpAt env secretBase32 code now last [-1, 0, 1]

theorem verifyTotpAt_last {now : UInt64} {c : UInt64} :
    ∀ {offsets : List ℤ}, verifyTotpAt env secret code now last offsets = some c → last.all (· < c) = true
  | [], h => by simp [verifyTotpAt] at h
  | off :: rest, h => by
    simp only [verifyTotpAt, Option.bind_eq_bind, Option.bind_eq_some_iff, Prod.exists] at h
    obtain ⟨adjusted, _, expected, ctr, _, h⟩ := h
    split_ifs at h with hc
    · rw [Bool.and_eq_true] at hc
      cases h
      exact hc.2
    · exact verifyTotpAt_last h

/-- An accepted counter is above the last one. -/
theorem verifyTotp_last {now : UInt64} {c : UInt64} (h : verifyTotp env secret code now last = some c) :
    last.all (· < c) = true :=
  verifyTotpAt_last env h

/-! ### Signed requests -/

def canonicalJsonHash (bytes : Bytes) : Option Digest :=
  if bytes.isEmpty then some (env.sha256 []) else
    (env.canonicalJsonBytesFromSlice bytes).map env.sha256

def canonicalRequestBodyHash (bytes : Bytes) (contentType : Option String) : Option Digest :=
  if bytes.isEmpty then some (env.sha256 []) else
    let mediaType := contentType.map fun value => trim (String.ofList (value.toList.takeWhile (· != ';')))
    if mediaType.any fun value => value.map Char.toLower == "application/json" then
      canonicalJsonHash env bytes
    else some (env.sha256 bytes)

/-- A base64 text, URL-safe or standard. -/
def Env.base64Decode (value : String) : Option Bytes :=
  env.base64UrlDecode value <|> env.base64StandardDecode value

def verifyDeviceSignature (publicKey : ByteArr 32) (method path : String) (body : Bytes)
    (contentType : Option String) (requestId deviceId accountId : String) (timestamp : UInt64)
    (nonce signature : String) : Option Unit := do
  let bodyHash ← canonicalRequestBodyHash env body contentType
  let canonical ← (canonicalApiRequestBytes method path bodyHash requestId deviceId accountId timestamp
    nonce).toOption
  let signatureBytes ← env.base64Decode signature
  let signature ← if h : signatureBytes.length = 64 then some ⟨signatureBytes.toArray, h⟩ else none
  guard (env.ed25519Key publicKey)
  guard (env.ed25519Verify publicKey (env.sha256 canonical) signature)

def boolByte (b : Bool) : Bytes := [if b then 1 else 0]

def deviceRegistrationBindingHash (accountId accountSessionId grantId deviceId displayName platform
    osVersion architecture : String) (controller controlled fileTransfer unattended : Bool)
    (devicePublicKeyFingerprint : Digest) (protocolVersion : UInt16) : Digest :=
  env.sha256 (canonicalFields "rctl-device-registration-v1"
    [("account_id", utf8 accountId),
     ("account_session_id", utf8 accountSessionId),
     ("grant_id", utf8 grantId),
     ("device_id", utf8 deviceId),
     ("display_name", utf8 displayName),
     ("platform", utf8 platform),
     ("os_version", utf8 osVersion),
     ("architecture", utf8 architecture),
     ("controller", boolByte controller),
     ("controlled", boolByte controlled),
     ("file_transfer", boolByte fileTransfer),
     ("unattended", boolByte unattended),
     ("device_public_key_fingerprint", devicePublicKeyFingerprint.toList),
     ("protocol_version", toBeBytes 2 protocolVersion.toNat)])

end Rctl.Api
