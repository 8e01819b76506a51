/-
# Delivering recovery codes

A finished enrolment stores its recovery codes, encrypted, under the account and the hash of an
idempotency key, and revokes the session it was made through: the lookup that repeats the delivery
is authorized by the reason `mfa_enabled` left on that session. Neither is ever written again, and
no other delivery gets the same account and key (`Delivered`), so the answer of a later lookup
depends on the lookup alone.
-/
import Rctl.Api.Authority
import Rctl.Api.SecondFactors

namespace Rctl.Api

open Result OrdMap StateRun

/-- The delivery is stored, as the only one of its account and key, and its session was revoked
by the enrolment. -/
structure Delivered (d : RecoveryCodeDelivery) (db : Database) : Prop where
  stored : db.recoveryCodeDeliveries[d.deliveryId]? = some d
  only : ∀ (id : String) (d' : RecoveryCodeDelivery), db.recoveryCodeDeliveries[id]? = some d' →
    d'.accountId = d.accountId → d'.idempotencyKeyHash = d.idempotencyKeyHash → id = d.deliveryId
  session : ∃ s, db.accountSessions[d.accountSessionId]? = some s ∧ s.accountId = d.accountId ∧
    s.revokedReason = some "mfa_enabled" ∧ s.revokedAtEpochMillis ≠ none

structure RecoveryCodeDelivery.Matches (d : RecoveryCodeDelivery) (lookup : TotpEnrollmentReplayLookup) :
    Prop where
  accountSessionId : lookup.accountSessionId = d.accountSessionId
  factorId : lookup.factorId = d.factorId
  binding : ∀ binding, lookup.finishRequestBindingHash = some binding → binding = d.finishRequestBindingHash
  publicKey : ∀ key, lookup.clientEphemeralPublicKey = some key → key = d.clientEphemeralPublicKey
  token : lookup.nowEpochMillis < lookup.accessTokenExpiresAtEpochMillis
  time : lookup.nowEpochMillis < d.expiresAtEpochMillis

variable {env : Env} {d : RecoveryCodeDelivery}

section Enrolment

variable {db db' : Database} {completion : TotpEnrollmentCompletion}

theorem finishTotpEnrollment_valid (h : (finishTotpEnrollment env db completion).1 = .ok ()) :
    deliveryValid env db completion = true := by
  revert h
  refine merge_post (P := fun reply : Reply Unit => reply.1 = .ok () → _) ?_
  refine post_bind (post_ensure fun _ => nofun) fun _ _ => ?_
  refine post_bind (post_ensure fun _ => nofun) fun _ _ => ?_
  refine post_bind (post_ensure fun _ => nofun) fun _ hv => ?_
  refine post_bind (post_mapError fun _ _ => nofun) fun _ _ => ?_
  exact post_bind (post_mapError fun _ _ => nofun) fun _ _ => post_pure fun _ => hv

/-- What a call does to the deliveries: it adds none, or that of an enrolment. -/
theorem Effect.deliveries {call : Call} {r : Response} (h : Effect env db call r db') :
    db'.recoveryCodeDeliveries = db.recoveryCodeDeliveries ∨ ∃ completion,
      call = .finishTotpEnrollment completion ∧ r = .unit (.ok ()) ∧ db'.recoveryCodeDeliveries =
        db.recoveryCodeDeliveries.insert completion.delivery.deliveryId completion.delivery := by
  cases h with
  | enrolled completion => exact .inr ⟨completion, rfl, rfl, rfl⟩
  | factorUsed _ _ _ _ _ _ hu | factorJudged _ _ _ _ _ _ _ _ _ _ hu
  | verificationJudged _ _ _ _ _ _ _ _ hu =>
    obtain ⟨_, _, rfl⟩ := hu.same
    exact .inl rfl
  | stepUpApplied _ _ _ _ _ _ hd => cases hd <;> exact .inl rfl
  | loginTrustRefused =>
    unfold Database.expireTrusted
    split <;> exact .inl rfl
  | loginCompleted _ _ _ _ _ _ _ hau _ hg htr =>
    rw [completeLogin_eq hg htr]
    exact .inl (congrArg Database.recoveryCodeDeliveries hau.frame :)
  | deviceRegistered _ _ _ _ _ _ _ _ _ _ _ htr => cases htr <;> exact .inl rfl
  | _ => exact .inl rfl

theorem deliveryValid_spec (h : deliveryValid env db completion = true) :
    completion.delivery.accountId = completion.factor.accountId ∧ completion.delivery.acknowledgedAtEpochMillis = none ∧
      recoveryDeliveryBindingIsValid env completion.delivery = true ∧
      (∃ s, db.accountSessions[completion.delivery.accountSessionId]? = some s ∧
        s.accountId = completion.factor.accountId ∧ s.revokedAtEpochMillis = none) ∧
      db.recoveryCodeDeliveries[completion.delivery.deliveryId]? = none ∧
      ∀ (id : String) (d' : RecoveryCodeDelivery), db.recoveryCodeDeliveries[id]? = some d' →
        d'.accountId = completion.delivery.accountId →
        d'.idempotencyKeyHash ≠ completion.delivery.idempotencyKeyHash := by
  simp only [deliveryValid, activeAccountSession, Bool.and_eq_true, beq_iff_eq, Option.isNone_iff_eq_none,
    Bool.not_eq_true', contains_eq_false, anyValue_eq_false, Option.any_eq_true, Bool.and_eq_false_imp] at h
  obtain ⟨⟨⟨⟨⟨h, hack⟩, hbi⟩, s, hs, hlv⟩, hn⟩, honly⟩ := h
  refine ⟨h.1.1.1.1.1, hack, hbi, ⟨s, hs, hlv.1⟩, hn, fun id d' hd' hac hk => ?_⟩
  have hd := honly id d' hd' hac
  rw [constantTimeSha256Eq_iff.mpr hk] at hd
  cases hd

theorem Delivered.of_enrolled (h : (finishTotpEnrollment env db completion).1 = .ok ()) :
    Delivered completion.delivery (finishTotpEnrollment env db completion).2 := by
  obtain ⟨hac, -, -, ⟨s, hs, hsession, hlv⟩, hn, honly⟩ :=
    deliveryValid_spec (finishTotpEnrollment_valid h)
  have he := finishTotpEnrollment_does env db completion
  rw [Does, h] at he
  generalize (finishTotpEnrollment env db completion).2 = db' at he ⊢
  cases he with
  | none _ _ hqt => cases hqt
  | enrolled =>
    refine ⟨(get_insert _ _ _ _).trans (if_pos rfl), fun id d' hd' hsm hk => ?_,
      s.revoke completion.auditEntry.createdAtEpochMillis "mfa_enabled", ?_, hsession.trans hac.symm, rfl, nofun⟩
    · obtain ⟨rfl, -⟩ | hd := of_get_insert hd'
      · rfl
      · exact absurd hk (honly id d' hd hsm)
    · refine (get_mapValues _ _ _).trans ?_
      rw [show (db.storeEnrollment completion).accountSessions[_]? = some s from hs, Option.map_some,
        AccountSession.liveFor, hsession, hlv]
      simp

theorem Delivered.kept (h : Delivered d db) (call : Call) : Delivered d (step env db call).2 := by
  have he := step_effect env db call
  obtain ⟨s, hs, hse⟩ := h.session
  have hkp := he.sessionStep d.accountSessionId
  rw [hs] at hkp
  have hs' := hkp.of_revoked hse.2.2
  obtain hsm | ⟨completion, rfl, hok, hi⟩ := he.deliveries
  · exact ⟨hsm ▸ h.stored, hsm ▸ h.only, s, hs', hse⟩
  · obtain ⟨-, -, -, -, hn, honly⟩ := deliveryValid_spec (finishTotpEnrollment_valid (Response.unit.inj hok))
    refine ⟨?_, fun id d' hd' hac hk => ?_, s, hs', hse⟩
    · rw [hi, get_insert, if_neg, h.stored]
      intro hid
      rw [hid, h.stored] at hn
      cases hn
    · rw [hi] at hd'
      obtain ⟨-, rfl⟩ | hd := of_get_insert hd'
      · exact absurd hk.symm (honly _ _ h.stored hac.symm)
      · exact h.only id d' hd hac hk

end Enrolment

section Lookup

variable {db : Database} {lookup : TotpEnrollmentReplayLookup}

theorem replayTotpEnrollment_eq_replayed : replayTotpEnrollment env db lookup = .ok (.replayed d) ↔
      (∃ id, firstWith db.recoveryCodeDeliveries (fun delivery => delivery.accountId == lookup.accountId &&
        constantTimeSha256Eq delivery.idempotencyKeyHash lookup.idempotencyKeyHash) = some (id, d)) ∧
      d.Matches lookup ∧ recoveryDeliveryBindingIsValid env d = true ∧ d.acknowledgedAtEpochMillis = none ∧
      ∃ s, db.accountSessions[d.accountSessionId]? = some s ∧ s.accountId = lookup.accountId ∧
        s.revokedReason = some "mfa_enabled" ∧ s.revokedAtEpochMillis ≠ none := by
  unfold replayTotpEnrollment
  cases firstWith db.recoveryCodeDeliveries _ with
  | none => simp
  | some found =>
    constructor
    · intro h
      simp only at h
      split at h
      · cases h
      split at h
      · cases h
      split at h
      · cases h
      split at h
      · cases h
      split at h
      · cases h
      cases h
      grind [RecoveryCodeDelivery.Matches, constantTimeSha256Eq_iff, Option.isSome_iff_ne_none, Option.all_eq_true]
    · rintro ⟨⟨_, ⟨⟩⟩, hm, hbi, hack, s, hs, hsession⟩
      grind [RecoveryCodeDelivery.Matches, constantTimeSha256Eq_iff, Option.isSome_iff_ne_none, Option.all_eq_true]

theorem Delivered.replayed_iff (h : Delivered d db) (hack : d.acknowledgedAtEpochMillis = none)
    (hbi : recoveryDeliveryBindingIsValid env d = true) (hac : lookup.accountId = d.accountId)
    (hk : lookup.idempotencyKeyHash = d.idempotencyKeyHash) :
    replayTotpEnrollment env db lookup = .ok (.replayed d) ↔ d.Matches lookup := by
  rw [replayTotpEnrollment_eq_replayed]
  refine ⟨fun hr => hr.2.1, fun hm => ⟨⟨d.deliveryId, ?_⟩, hm, hbi, hack, ?_⟩⟩
  · refine firstWith_of_only h.stored (by simp [hac, hk]) fun id d' hd' hp => ?_
    simp only [Bool.and_eq_true, beq_iff_eq, constantTimeSha256Eq_iff, hac, hk] at hp
    exact h.only id d' hd' hp.1 hp.2
  · rw [hac]
    exact h.session

end Lookup

/-- **Recovery codes are delivered exactly.** After an enrolment, whatever calls follow, a lookup
with the account and key of its delivery returns the delivery exactly if it is made for it and in
time; and whatever a lookup returns is of its account, session and key. -/
theorem recovery_codes_delivered (env : Env) (db : Database) (completion : TotpEnrollmentCompletion)
    (hfinished : (finishTotpEnrollment env db completion).1 = .ok ()) (later : List Call) :
    (∀ lookup : TotpEnrollmentReplayLookup, lookup.accountId = completion.delivery.accountId →
      lookup.idempotencyKeyHash = completion.delivery.idempotencyKeyHash →
      (replayTotpEnrollment env (final (step env) (finishTotpEnrollment env db completion).2 later) lookup =
        .ok (.replayed completion.delivery) ↔ completion.delivery.Matches lookup)) ∧
    ∀ (db : Database) (lookup : TotpEnrollmentReplayLookup) (d : RecoveryCodeDelivery),
      replayTotpEnrollment env db lookup = .ok (.replayed d) → d.accountId = lookup.accountId ∧
        d.accountSessionId = lookup.accountSessionId ∧ d.idempotencyKeyHash = lookup.idempotencyKeyHash := by
  refine ⟨fun lookup hac hk => ?_, fun db lookup d h => ?_⟩
  · obtain ⟨-, hack, hbi, -⟩ := deliveryValid_spec (finishTotpEnrollment_valid hfinished)
    have hd := run_inv (step env) (fun _ call h => h.kept call) later (Delivered.of_enrolled hfinished)
    exact hd.replayed_iff hack hbi hac hk
  · obtain ⟨⟨id, hf⟩, hm, -⟩ := replayTotpEnrollment_eq_replayed.mp h
    have hp := (firstWith_eq_some hf).2
    simp only [Bool.and_eq_true, beq_iff_eq, constantTimeSha256Eq_iff] at hp
    exact ⟨hp.1, hm.accountSessionId.symm, hp.2⟩

def sampleLookup (now : UInt64) : TotpEnrollmentReplayLookup :=
  { accountId := "account", accountSessionId := "first", factorId := "factor",
    idempotencyKeyHash := Vector.replicate 32 5, finishRequestBindingHash := none,
    clientEphemeralPublicKey := some (Vector.replicate 32 6), accessTokenExpiresAtEpochMillis := 90000,
    nowEpochMillis := now }

/-- The sample enrolment, delivered again after a login until it expires. -/
theorem recovery_codes_delivered_sample :
    let db := final (step sampleEnv) .empty [.registerAccount sampleAccount, .issueTokens sampleSession]
    let enrolled := finishTotpEnrollment sampleEnv db (sampleEnrollment 40000)
    enrolled.1 = .ok () ∧
      replayTotpEnrollment sampleEnv (final (step sampleEnv) enrolled.2 (factorCalls.drop 3)) (sampleLookup 40999) =
        .ok (.replayed (sampleEnrollment 40000).delivery) ∧
      replayTotpEnrollment sampleEnv (final (step sampleEnv) enrolled.2 (factorCalls.drop 3)) (sampleLookup 41000) ≠
        .ok (.replayed (sampleEnrollment 40000).delivery) := by
  have hf : (finishTotpEnrollment sampleEnv (final (step sampleEnv) .empty
      [.registerAccount sampleAccount, .issueTokens sampleSession]) (sampleEnrollment 40000)).1 = .ok () := by
    decide +kernel
  have hiff := (recovery_codes_delivered sampleEnv _ _ hf (factorCalls.drop 3)).1
  refine ⟨hf, (hiff (sampleLookup 40999) rfl rfl).mpr ⟨rfl, rfl, nofun, ?_, by decide, by decide⟩,
    fun h => absurd ((hiff (sampleLookup 41000) rfl rfl).mp h).time (by decide)⟩
  rintro _ ⟨⟩
  rfl

end Rctl.Api
