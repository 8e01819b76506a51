/-
# Requests signed by a device

What the routes of the API server ask of a request before they act on it,
`verify_signed_device_request` of `routes/mod.rs`: four headers name the device, a
timestamp, a nonce and a signature; the timestamp lies within 30 seconds of the server's
clock; the device is registered, belongs to the account and may act; the signature is the
device's; and the nonce was not used before. The nonces are those of the memory ephemeral
store.

The route reads the clock once, and waits for the store between its checks. Each part
between two waits is a function of its own here.
-/
import Rctl.Api.Security

namespace Rctl.Api

open ByteString Result OrdMap

/-! ### Answers -/

inductive StatusCode
  | badRequest
  | unauthorized
  | forbidden
  | notFound
  | conflict
  | internalServerError
  deriving DecidableEq, Repr

structure ApiError where
  status : StatusCode
  code : String
  message : String
  requestId : String
  deriving DecidableEq, Repr

namespace ApiError

def badRequest (code message requestId : String) : ApiError := ⟨.badRequest, code, message, requestId⟩

def forbidden (code message requestId : String) : ApiError := ⟨.forbidden, code, message, requestId⟩

def notFound (code message requestId : String) : ApiError := ⟨.notFound, code, message, requestId⟩

def conflict (code message requestId : String) : ApiError := ⟨.conflict, code, message, requestId⟩

def internal (requestId : String) : ApiError :=
  ⟨.internalServerError, "internal", "the request could not be completed", requestId⟩

end ApiError

/-! ### The request -/

/-- A request as a route receives it; a header is listed if its value is text. -/
structure HttpRequest where
  method : String
  /-- Path and query. -/
  target : String
  headers : List (String × String)
  body : Bytes
  requestId : String
  deriving DecidableEq

def HttpRequest.contentType (request : HttpRequest) : Option String := request.headers.lookup "content-type"

def requiredHeader (request : HttpRequest) (name : String) : Except ApiError String :=
  okOr ((request.headers.lookup name).filter (· != ""))
    (.badRequest "missing_device_signature_header" ("missing required header " ++ name) request.requestId)

/-- `str::parse::<u64>`: decimal digits, after a sign if there is one. -/
def parseU64 (s : String) : Option UInt64 :=
  let digits := match s.toList with
    | '+' :: rest => rest
    | all => all
  if digits.isEmpty || !(digits.all Char.isDigit) then none
  else
    let n := digits.foldl (fun n c => 10 * n + (c.toNat - '0'.toNat)) 0
    if n < 2 ^ 64 then some (UInt64.ofNat n) else none

structure DeviceSignature where
  deviceId : String
  timestamp : UInt64
  nonce : String
  signature : String
  deriving DecidableEq

def readSignature (request : HttpRequest) : Except ApiError DeviceSignature := do
  let deviceId ← requiredHeader request "x-rctl-device-id"
  let timestamp ← requiredHeader request "x-rctl-timestamp"
  let timestamp ← okOr (parseU64 timestamp)
    (.badRequest "invalid_device_signature" "invalid signature timestamp" request.requestId)
  let nonce ← requiredHeader request "x-rctl-api-nonce"
  let signature ← requiredHeader request "x-rctl-device-signature"
  return ⟨deviceId, timestamp, nonce, signature⟩

/-! ### The checks -/

def checkSignatureTime (request : HttpRequest) (signature : DeviceSignature) (now : UInt64) :
    Except ApiError Unit :=
  ensure (!(decide (30000 < absDiff now signature.timestamp)))
    (.forbidden "device_signature_expired" "device signature timestamp is outside the 30 second window"
      request.requestId)

/-- What is asked of the device once the repository has answered. -/
def checkSignedDevice (env : Env) (accountId : String) (request : HttpRequest) (signature : DeviceSignature)
    (loaded : Option Device) : Except ApiError Device := do
  let device ← okOr loaded (.forbidden "unknown_device" "device is not registered" request.requestId)
  ensure (device.accountId == accountId && device.publicKeyRevokedAtEpochMillis.isNone &&
      device.status.isAuthorizable)
    (.forbidden "device_not_authorized"
      "device does not belong to this account, is inactive, or its key is revoked" request.requestId)
  let _ ← okOr (verifyDeviceSignature env device.publicKey request.method request.target request.body
      request.contentType request.requestId signature.deviceId accountId signature.timestamp signature.nonce
      signature.signature)
    (.forbidden "invalid_device_signature" "device signature verification failed" request.requestId)
  return device

/-! ### Nonces -/

/-- `MemoryEphemeralState::record_nonce`: the nonces with the time each is kept until. -/
def recordNonce (nonces : Table UInt64) (nonceBinding : String) (now ttl : UInt64) : Bool × Table UInt64 :=
  let live := retain nonces (now < ·)
  if live.contains nonceBinding then (false, live)
  else (true, live.insert nonceBinding (saturatingAdd now ttl))

def DeviceSignature.nonceKey (accountId : String) (signature : DeviceSignature) : String :=
  accountId ++ ":" ++ signature.deviceId ++ ":" ++ signature.nonce

def admitNonce (accountId : String) (request : HttpRequest) (signature : DeviceSignature) (now : UInt64)
    (nonces : Table UInt64) : Except ApiError Unit × Table UInt64 :=
  let (recorded, nonces) := recordNonce nonces (signature.nonceKey accountId) now 60000
  (ensure recorded
    (.conflict "device_nonce_replayed" "device request nonce has already been used" request.requestId), nonces)

/-- The checks of a signed request in turn, with the device as the database has it. -/
def checkSignedRequest (env : Env) (db : Database) (accountId : String) (request : HttpRequest) (now : UInt64) :
    Except ApiError (DeviceSignature × Device) := do
  let signature ← readSignature request
  checkSignatureTime request signature now
  let device ← checkSignedDevice env accountId request signature db.devices[signature.deviceId]?
  return (signature, device)

/-- `verify_signed_device_request` for the account `accountId`, from one end to the other. -/
def verifySignedDeviceRequest (env : Env) (db : Database) (nonces : Table UInt64) (accountId : String)
    (request : HttpRequest) (now : UInt64) : Except ApiError Device × Table UInt64 :=
  match checkSignedRequest env db accountId request now with
  | .error e => (.error e, nonces)
  | .ok (signature, device) =>
    let (recorded, nonces) := admitNonce accountId request signature now nonces
    (recorded.map fun _ => device, nonces)

/-! ### What a verified request was asked -/

section Spec

variable {env : Env} {db : Database} {nonces : Table UInt64} {accountId nonceBinding : String}
  {request : HttpRequest} {signature : DeviceSignature} {now ttl : UInt64} {device : Device}

theorem checkSignatureTime_eq_ok :
    checkSignatureTime request signature now = .ok () ↔ absDiff now signature.timestamp ≤ 30000 := by
  rw [checkSignatureTime, ensure_eq_ok, Bool.not_eq_true', decide_eq_false_iff_not, UInt64.not_lt]

theorem recordNonce_fst : (recordNonce nonces nonceBinding now ttl).1 = true ↔
      ∀ expires, nonces[nonceBinding]? = some expires → expires ≤ now := by
  unfold recordNonce
  simp only
  split
  · rename_i h
    obtain ⟨expires, hg, hl⟩ : ∃ expires, nonces[nonceBinding]? = some expires ∧ now < expires := by
      rw [Std.ExtTreeMap.contains_eq_isSome_getElem?, get_retain, Option.isSome_iff_exists] at h
      obtain ⟨expires, h⟩ := h
      rw [Option.filter_eq_some_iff, decide_eq_true_eq] at h
      exact ⟨expires, h⟩
    refine iff_of_false Bool.false_ne_true fun h => ?_
    exact UInt64.lt_irrefl _ (UInt64.lt_of_lt_of_le hl (h expires hg))
  · rename_i h
    rw [Bool.not_eq_true, contains_eq_false, get_retain] at h
    refine iff_of_true rfl fun expires hg => ?_
    rw [hg, Option.filter_eq_none_iff] at h
    have := h expires rfl
    rwa [decide_eq_true_eq, UInt64.not_lt] at this

/-- What is recorded under a key afterwards: the nonce, if it was recorded there, or what
was live before. -/
theorem recordNonce_snd (key : String) : (recordNonce nonces nonceBinding now ttl).2[key]? =
      if nonceBinding = key ∧ (recordNonce nonces nonceBinding now ttl).1 = true
      then some (saturatingAdd now ttl) else nonces[key]?.filter (now < ·) := by
  unfold recordNonce
  simp only
  split
  · rw [if_neg (fun h => Bool.false_ne_true h.2), get_retain]
  · rw [get_insert, get_retain]
    simp only [and_true]

theorem checkSignedRequest_eq_ok (h : checkSignedRequest env db accountId request now = .ok (signature, device)) :
    readSignature request = .ok signature ∧ absDiff now signature.timestamp ≤ 30000 ∧
      checkSignedDevice env accountId request signature db.devices[signature.deviceId]? = .ok device := by
  simp only [checkSignedRequest, bind_eq_ok] at h
  obtain ⟨_, hr, _, ht, _, hdv, rfl, rfl⟩ := h
  exact ⟨hr, checkSignatureTime_eq_ok.mp ht, hdv⟩

theorem verifySignedDeviceRequest_eq_ok
    (h : (verifySignedDeviceRequest env db nonces accountId request now).1 = .ok device) :
    ∃ signature, checkSignedRequest env db accountId request now = .ok (signature, device) ∧
      (recordNonce nonces (signature.nonceKey accountId) now 60000).1 = true ∧
      (verifySignedDeviceRequest env db nonces accountId request now).2 =
        (recordNonce nonces (signature.nonceKey accountId) now 60000).2 := by
  unfold verifySignedDeviceRequest at h ⊢
  cases hc : checkSignedRequest env db accountId request now with
  | error => rw [hc] at h; cases h
  | ok checked =>
    obtain ⟨signature, device'⟩ := checked
    rw [hc] at h
    simp only [admitNonce] at h ⊢
    cases hr : (recordNonce nonces (signature.nonceKey accountId) now 60000).1 with
    | false => rw [hr] at h; cases h
    | true =>
      rw [hr] at h
      cases h
      exact ⟨signature, rfl, hr, rfl⟩

/-- The nonces change only by recording one, at the time of the request. -/
theorem verifySignedDeviceRequest_nonces : (verifySignedDeviceRequest env db nonces accountId request now).2 = nonces ∨
      ∃ nonceBinding, (verifySignedDeviceRequest env db nonces accountId request now).2 =
        (recordNonce nonces nonceBinding now 60000).2 := by
  unfold verifySignedDeviceRequest
  split
  · exact .inl rfl
  · exact .inr ⟨_, rfl⟩

end Spec

end Rctl.Api
