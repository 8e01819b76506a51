/-
# A signed request is accepted once

The nonce of a signed request is recorded for 60 seconds, and the timestamp of a request
may lie 30 seconds on either side of the server's clock. So a request that is stamped
less than 30 seconds ahead outlives its window in the store and is accepted once
(`signed_requests_once`). One that is stamped exactly 30 seconds ahead does not: at the
last millisecond of its window the nonce has just expired, and the request is accepted
again (`signed_request_replayed`).
-/
import Rctl.Api.ChallengeLifecycle
import Rctl.Api.SignedRequests

namespace Rctl.Api

open ByteString Result OrdMap StateRun

/-- A signed request for an account, the clock when it arrives and the database its device
is looked up in. -/
structure Arrival where
  accountId : String
  request : HttpRequest
  now : UInt64
  database : Database

def nonceStep (env : Env) (nonces : Table UInt64) (a : Arrival) : Except ApiError Device × Table UInt64 :=
  verifySignedDeviceRequest env a.database nonces a.accountId a.request a.now

abbrev ArrivalEntry := Entry (Table UInt64) Arrival (Except ApiError Device)

def acceptedRequest (e : ArrivalEntry) : Option (String × DeviceSignature) :=
  match e.out, readSignature e.call.request with
  | .ok _, .ok signature => some (e.call.accountId, signature)
  | _, _ => none

/-- No request is accepted twice: one is accepted in its window and under a nonce that is
not recorded, and the nonce is then recorded for longer than the window is open. -/
structure SignedOnce (log : List ArrivalEntry) : Prop where
  once : (log.filterMap acceptedRequest).Pairwise (· ≠ ·)
  window : ∀ e ∈ log, ∀ accountId signature, acceptedRequest e = some (accountId, signature) →
    absDiff e.call.now signature.timestamp ≤ 30000 ∧
      ∀ expires, e.pre[signature.nonceKey accountId]? = some expires → expires ≤ e.call.now
  outlives : ∀ e ∈ log, ∀ accountId signature, acceptedRequest e = some (accountId, signature) →
    ∃ expires, e.post[signature.nonceKey accountId]? = some expires ∧
      ∀ t, absDiff t signature.timestamp ≤ 30000 → t < expires

/-- A request inside its window is stamped less than 30 seconds ahead, and more than that before the
end of the clock. -/
def Arrival.Early (a : Arrival) : Prop :=
  ∀ signature, readSignature a.request = .ok signature → absDiff a.now signature.timestamp ≤ 30000 →
    signature.timestamp.toNat < a.now.toNat + 30000 ∧ signature.timestamp.toNat + 30000 < 2 ^ 64 - 1

section Window

variable {env : Env} {nonces : Table UInt64} {a : Arrival} {accountId : String} {signature : DeviceSignature}
  {b : String × DeviceSignature}

/-- What an accepted request was asked, and what is recorded of it. -/
theorem acceptedRequest_spec (h : acceptedRequest (entry (nonceStep env) nonces a) = some (accountId, signature)) :
    readSignature a.request = .ok signature ∧ absDiff a.now signature.timestamp ≤ 30000 ∧
      (∀ expires, nonces[signature.nonceKey accountId]? = some expires → expires ≤ a.now) ∧
      (nonceStep env nonces a).2[signature.nonceKey accountId]? = some (saturatingAdd a.now 60000) := by
  unfold acceptedRequest at h
  split at h
  · rename_i ho hrd
    cases h
    obtain ⟨signature, hc, hr, hn⟩ := verifySignedDeviceRequest_eq_ok ho
    obtain ⟨hread', ht, _⟩ := checkSignedRequest_eq_ok hc
    cases hrd.symm.trans hread'
    refine ⟨hread', ht, recordNonce_fst.mp hr, ?_⟩
    show (verifySignedDeviceRequest env a.database nonces a.accountId a.request a.now).2[_]? = _
    rw [hn, recordNonce_snd]
    exact if_pos ⟨rfl, hr⟩
  · cases h

/-- A recorded nonce stays until the clock has reached the time it is kept until. -/
theorem nonce_kept {key : String} {expires : UInt64} (h : nonces[key]? = some expires) :
    expires ≤ a.now ∨ (nonceStep env nonces a).2[key]? = some expires := by
  have hch : (nonceStep env nonces a).2 = nonces ∨ ∃ binding, (nonceStep env nonces a).2 =
      (recordNonce nonces binding a.now 60000).2 := verifySignedDeviceRequest_nonces
  rcases hch with hn | ⟨binding, hn⟩
  · rw [hn]
    exact .inr h
  · rw [hn, recordNonce_snd]
    split_ifs with hr
    · exact .inl (recordNonce_fst.mp hr.2 expires (hr.1 ▸ h))
    · by_cases hl : a.now < expires
      · rw [h, Option.filter_some, if_pos (decide_eq_true hl)]
        exact .inr rfl
      · exact .inl (UInt64.not_lt.mp hl)

/-- The window of the request is over, or its nonce is recorded for longer than that. -/
def NonceSpent (t : ℕ) (nonces : Table UInt64) (b : String × DeviceSignature) : Prop :=
  b.2.timestamp.toNat + 30000 < t ∨ ∃ expires, nonces[b.2.nonceKey b.1]? = some expires ∧
    b.2.timestamp.toNat + 30000 < expires.toNat

theorem nonceSpent_step {t : ℕ} (ht : t ≤ a.now.toNat) (h : NonceSpent t nonces b) :
    NonceSpent a.now.toNat (nonceStep env nonces a).2 b := by
  rcases h with hl | ⟨expires, hg, hlong⟩
  · exact .inl (Nat.lt_of_lt_of_le hl ht)
  · have hs : expires ≤ a.now ∨ (nonceStep env nonces a).2[b.2.nonceKey b.1]? = some expires :=
      nonce_kept hg
    rcases hs with he | hk
    · exact .inl (Nat.lt_of_lt_of_le hlong he)
    · exact .inr ⟨expires, hk, hlong⟩

theorem not_nonceSpent_of_accepted {t : ℕ} (ht : t ≤ a.now.toNat)
    (h : acceptedRequest (entry (nonceStep env) nonces a) = some b) : ¬ NonceSpent t nonces b := by
  obtain ⟨_, hw, hu, _⟩ := acceptedRequest_spec h
  have hthirty : (30000 : UInt64).toNat = 30000 := rfl
  rw [absDiff_le_iff] at hw
  rintro (hlt | ⟨expires, hg, hlong⟩)
  · omega
  · have he := UInt64.le_iff_toNat_le.mp (hu expires hg)
    omega

/-- The nonce of an early request is kept past the end of its window. -/
theorem Arrival.Early.outlives (h : a.Early) (hr : readSignature a.request = .ok signature)
    (hw : absDiff a.now signature.timestamp ≤ 30000) :
    signature.timestamp.toNat + 30000 < (saturatingAdd a.now 60000).toNat := by
  obtain ⟨ha, he⟩ := h signature hr hw
  have hsix : (60000 : UInt64).toNat = 60000 := rfl
  rw [saturatingAdd_toNat]
  omega

/-- **A signed request is accepted at most once**, in every run of requests that arrive in
the order of the clock and, if inside their window, are stamped less than 30 seconds ahead. -/
theorem signed_requests_once (env : Env) (nonces : Table UInt64) (arrivals : List Arrival)
    (hclock : arrivals.Pairwise (·.now ≤ ·.now)) (hearly : ∀ a ∈ arrivals, a.Early) :
    SignedOnce (trace (nonceStep env) nonces arrivals) := by
  have hes : ∀ e ∈ trace (nonceStep env) nonces arrivals, e = entry (nonceStep env) e.pre e.call ∧ e.call.Early := by
    intro e he
    obtain ⟨before, after, hcs, heq⟩ := mem_trace (nonceStep env) he
    refine ⟨?_, hearly e.call (hcs ▸ List.mem_append_right before List.mem_cons_self)⟩
    rw [show e.pre = final (nonceStep env) nonces before from congrArg Entry.pre heq]
    exact heq
  refine ⟨?_, fun e he accountId signature ha => ?_, fun e he accountId signature ha => ?_⟩
  · refine pairwise_emitted_in_order (nonceStep env) (fun a => a.now.toNat) (I := fun _ => True)
      (fun _ _ _ _ => trivial)
      (fun _ _ _ _ _ _ ht => nonceSpent_step ht)
      (fun _ _ _ _ _ ht => not_nonceSpent_of_accepted ht)
      (fun nonces a b c hearly _ ha hbc => ?_) arrivals trivial (fun e he => (hes e he).2)
      (hclock.imp UInt64.le_iff_toNat_le.mp)
    cases not_not.mp hbc
    obtain ⟨hrd, hw, _, hr⟩ := acceptedRequest_spec ha
    exact .inr ⟨_, hr, Arrival.Early.outlives hearly hrd hw⟩
  · rw [(hes e he).1] at ha ⊢
    obtain ⟨_, hw, hu, _⟩ := acceptedRequest_spec ha
    exact ⟨hw, hu⟩
  · obtain ⟨hen, hearly⟩ := hes e he
    rw [hen] at ha ⊢
    obtain ⟨hrd, hw, _, hr⟩ := acceptedRequest_spec ha
    refine ⟨_, hr, fun t ht => ?_⟩
    have hth : (30000 : UInt64).toNat = 30000 := rfl
    have hlong := hearly.outlives hrd hw
    rw [absDiff_le_iff] at ht
    rw [UInt64.lt_iff_toNat_lt]
    omega

end Window

/-! ### Requests at the edge of the window -/

def sampleRequest : HttpRequest :=
  { method := "POST", target := "/v1/sessions",
    headers := [("x-rctl-device-id", "device"), ("x-rctl-timestamp", "130000"), ("x-rctl-api-nonce", "nonce"),
      ("x-rctl-device-signature", String.ofList (List.replicate 64 's'))]
    body := [], requestId := "request" }

def sampleArrival (now : UInt64) : Arrival := ⟨"account", sampleRequest, now, sampleDatabase⟩

def sampleSignature : DeviceSignature :=
  ⟨"device", 130000, "nonce", String.ofList (List.replicate 64 's')⟩

theorem signed_requests_once_sample :
    SignedOnce (trace (nonceStep sampleEnv) ∅ [sampleArrival 100001, sampleArrival 160000]) ∧
      (trace (nonceStep sampleEnv) ∅ [sampleArrival 100001, sampleArrival 160000]).filterMap
        acceptedRequest = [("account", sampleSignature)] := by
  have hr : readSignature sampleRequest = .ok sampleSignature := by decide +kernel
  have hear : ∀ now : UInt64, 100001 ≤ now.toNat → (sampleArrival now).Early := by
    intro now hnow signature hg _
    cases hr.symm.trans hg
    have hs : sampleSignature.timestamp.toNat = 130000 := rfl
    show sampleSignature.timestamp.toNat < now.toNat + 30000 ∧ _
    omega
  refine ⟨signed_requests_once sampleEnv ∅ _ (by decide) ?_, by decide +kernel⟩
  simp only [List.forall_mem_cons]
  exact ⟨hear 100001 (by decide), hear 160000 (by decide), List.forall_mem_nil _⟩

/-- A request stamped 30 seconds ahead is accepted when it arrives, and again 60 seconds later. -/
theorem signed_request_replayed :
    [sampleArrival 100000, sampleArrival 160000].Pairwise (·.now ≤ ·.now) ∧
      ¬ SignedOnce (trace (nonceStep sampleEnv) ∅ [sampleArrival 100000, sampleArrival 160000]) := by
  have ha : (trace (nonceStep sampleEnv) ∅ [sampleArrival 100000, sampleArrival 160000]).filterMap
      acceptedRequest = [("account", sampleSignature), ("account", sampleSignature)] := by
    decide +kernel
  refine ⟨by decide, fun h => ?_⟩
  have honce := h.once
  rw [ha] at honce
  simp at honce

end Rctl.Api
