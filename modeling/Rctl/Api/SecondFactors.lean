/-
# Second factors are used once

Three operations accept a one-time code or a recovery code, two insert factors and
codes, and two remove them. `FactorEffect` says what any call does to the two tables,
with what it accepted and what it inserted. From it: the counters accepted for a factor
grow from the enrolment counter on, for the factor carries the last one; a recovery code
is accepted once, for it carries its use, and an identifier that was inserted once never
comes back with an unused code; and an account has one active factor at most.
-/
import Rctl.Api.LoginMfa

namespace Rctl.Api

open ByteString Result OrdMap StateRun

/-! ### What a call accepts and inserts -/

structure Presented where
  accountId : String
  kind : String
  code : String
  now : UInt64

def accepted (call : Call) (r : Response) : Option Presented :=
  match call, r with
  | .verifyFactor _ accountId factorKind code now, .bool (.ok true) => some ⟨accountId, factorKind, code, now⟩
  | .verifyRiskChallenge v, .verification (.ok (.verified _)) =>
    some ⟨v.accountId, v.factorKind, v.factorCode, v.nowEpochMillis⟩
  | .finishLogin command, .login (.ok .completed) =>
    match command.factorKind, command.factorCode with
    | some kind, some code => some ⟨command.accountId, kind, code, command.nowEpochMillis⟩
    | _, _ => none
  | _, _ => none

def enrolledFactor (call : Call) (r : Response) : Option MfaFactor :=
  match call, r with
  | .finishTotpEnrollment completion, .unit (.ok _) => some completion.factor
  | _, _ => none

def insertedCodes (call : Call) (r : Response) : List RecoveryCode :=
  match call, r with
  | .finishTotpEnrollment completion, .unit (.ok _) => completion.recoveryCodes
  | .applyStepUpAction _ (.rotateRecoveryCodes records _), .unit (.ok _) => records
  | _, _ => []

section Uses

variable (env : Env) (db : Database)

/-- The factor and the counter for which a one-time code was accepted. -/
def totpUse (p : Presented) : Option (String × UInt64) :=
  if p.kind = "totp" then
    (firstWith db.mfaFactors (·.activeFor p.accountId)).bind fun first =>
      (verifyTotp env first.2.secretBase32 p.code p.now first.2.lastUsedCounter).map fun counter =>
        (first.1, counter)
  else none

/-- The identifier and the hash of the recovery code that was accepted. -/
def codeUse (p : Presented) : Option (String × Digest) :=
  if p.kind = "recovery_code" then
    (firstWith db.recoveryCodes (usableCode p.accountId (env.sha256 (utf8 p.code)) p.now)).map fun first =>
      (first.1, first.2.codeHash)
  else none

/-- The counter accepted for the factor `f`, by its enrolment or by a later use. -/
def counterOf (f : String) (enrolled : Option MfaFactor) (presented : Option Presented) : Option UInt64 :=
  match enrolled with
  | some factor => if factor.factorId = f then factor.lastUsedCounter else none
  | none => (presented.bind (totpUse env db)).bind fun use => if use.1 = f then some use.2 else none

end Uses

def acceptedCounter (env : Env) (f : String) (e : CallEntry) : Option UInt64 :=
  counterOf env e.pre f (enrolledFactor e.call e.out) (accepted e.call e.out)

def acceptedCode (env : Env) (e : CallEntry) : Option (String × Digest) :=
  (accepted e.call e.out).bind (codeUse env e.pre)

/-! ### What a call does to factors and codes -/

/-- The factors and recovery codes after a call, with what it accepted and inserted. -/
inductive FactorEffect (env : Env) (db : Database) :
    Option Presented → Option MfaFactor → List RecoveryCode → Table MfaFactor → Table RecoveryCode → Prop
  | keep : FactorEffect env db none none [] db.mfaFactors db.recoveryCodes
  | password (p : Presented) (hkind : p.kind = "password") :
      FactorEffect env db (some p) none [] db.mfaFactors db.recoveryCodes
  | use (p : Presented) (marked : Database)
      (huse : FactorUse env db p.accountId p.kind p.code p.now true marked) :
      FactorEffect env db (some p) none [] marked.mfaFactors marked.recoveryCodes
  | enrol (factor : MfaFactor) (counter : UInt64) (records : List RecoveryCode) (q : RecoveryCode → Bool)
      (hcounter : factor.lastUsedCounter = some counter) (hnew : db.mfaFactors[factor.factorId]? = none)
      (hfirst : db.mfaEnabled factor.accountId = false) :
      FactorEffect env db none (some factor) records (db.mfaFactors.insert factor.factorId factor)
        (insertCodes (retain db.recoveryCodes q) records)
  | disable (factorId accountId : String) :
      FactorEffect env db none none [] (db.removeFactor factorId accountId).mfaFactors
        (db.removeFactor factorId accountId).recoveryCodes
  | rotate (records : List RecoveryCode) (q : RecoveryCode → Bool) :
      FactorEffect env db none none records db.mfaFactors (insertCodes (retain db.recoveryCodes q) records)

variable {env : Env} {call : Call} {r : Response} {id : String}

section Effects

variable {db db' : Database}

theorem quiet_accepts_nothing (hqt : r.quiet call = true) :
    accepted call r = none ∧ enrolledFactor call r = none ∧ insertedCodes call r = [] := by
  unfold accepted enrolledFactor insertedCodes
  refine ⟨?_, ?_, ?_⟩
  · split
    · cases hqt
    · cases hqt
    · cases hqt
    · rfl
  · split
    · cases hqt
    · rfl
  · split
    · cases hqt
    · cases hqt
    · rfl

theorem FactorUse.refused_eq {accountId factorKind code : String} {now : UInt64}
    (h : FactorUse env db accountId factorKind code now false db') : db' = db := by
  cases h
  rfl

/-- What a completed login has accepted: nothing, or the factor it has marked. -/
theorem Authenticated.factorEffect {command : LoginFinishCommand} {a : Database} (h : Authenticated env db command a) :
    FactorEffect env db (accepted (.finishLogin command) (.login (.ok .completed))) none [] a.mfaFactors
      a.recoveryCodes := by
  cases h with
  | password _ hf | trusted _ _ _ hf => simp only [accepted, hf]; exact .keep
  | factor kind code marked _ _ hk hc hu =>
    simp only [accepted, hk, hc]
    exact .use ⟨command.accountId, kind, code, command.nowEpochMillis⟩ marked hu

theorem ActionDone.factorEffect {e : StepUpExpectation} {act : StepUpAction} {f : RiskChallenge → RiskChallenge}
    (h : ActionDone (db.modifyChallenge id f) e act db') :
    FactorEffect env db none none (insertedCodes (.applyStepUpAction e act) (.unit (.ok ()))) db'.mfaFactors
      db'.recoveryCodes := by
  cases h with
  | rotated records => exact .rotate records _
  | disabled factorId => exact .disable factorId e.accountId
  | passwordChanged | trustRevoked => exact .keep

/-- **What every call does to the second factors.** -/
theorem Effect.factorEffect (h : Effect env db call r db') :
    FactorEffect env db (accepted call r) (enrolledFactor call r) (insertedCodes call r) db'.mfaFactors
      db'.recoveryCodes := by
  cases h with
  | none _ _ hqt =>
    obtain ⟨ha, henrolled, hi⟩ := quiet_accepts_nothing hqt
    rw [ha, henrolled, hi]
    exact .keep
  | factorUsed accountId factorKind code now ok _ hu
  | factorJudged _ accountId factorKind code now _ ok _ _ _ hu =>
    cases ok with
    | true =>
      have he := FactorEffect.use ⟨accountId, factorKind, code, now⟩ _ hu
      exact he
    | false => rw [hu.refused_eq]; exact .keep
  | verificationJudged v _ ok marked _ _ _ _ hmark hr =>
    cases ok with
    | true =>
      subst hr
      rcases hmark with ⟨rfl, hki⟩ | hu
      · exact .password ⟨v.accountId, v.factorKind, v.factorCode, v.nowEpochMillis⟩ (hki rfl)
      · exact .use ⟨v.accountId, v.factorKind, v.factorCode, v.nowEpochMillis⟩ marked hu
    | false =>
      subst hr
      rcases hmark with ⟨rfl, _⟩ | hu
      · exact .keep
      · rw [hu.refused_eq]; exact .keep
  | stepUpApplied _ _ _ _ _ _ hdn => exact hdn.factorEffect
  | enrolled completion _ ctr _ _ hc hf hfirst =>
    exact .enrol completion.factor ctr completion.recoveryCodes _ hc hf hfirst
  | loginTrustRefused =>
    unfold Database.expireTrusted
    split <;> exact .keep
  | loginCompleted _ _ _ _ _ _ _ hau _ hg htr =>
    rw [completeLogin_eq hg htr]
    exact hau.factorEffect
  | deviceRegistered _ _ _ _ _ _ _ _ _ _ _ htr =>
    cases htr <;> exact .keep
  | _ => exact .keep

end Effects

/-! ### Counters -/

/-- What a call does to the factor `f`: it stays, it is removed, it is enrolled with a
first counter, or a later counter is accepted for it. -/
inductive FactorStep (f : String) :
    Option MfaFactor → Option MfaFactor → Option MfaFactor → Option UInt64 → Prop
  | keep (o enrolled : Option MfaFactor) (hother : ∀ factor, enrolled = some factor → factor.factorId ≠ f) :
      FactorStep f o o enrolled none
  | remove (o : Option MfaFactor) : FactorStep f o none none none
  | enrol (factor : MfaFactor) (counter : UInt64) (hid : factor.factorId = f)
      (hcounter : factor.lastUsedCounter = some counter) :
      FactorStep f none (some factor) (some factor) (some counter)
  | use (factor : MfaFactor) (counter : UInt64)
      (hlast : factor.lastUsedCounter.all (· < counter) = true) :
      FactorStep f (some factor) (some { factor with lastUsedCounter := some counter }) none (some counter)

variable {db : Database} {presented : Option Presented} {enrolled : Option MfaFactor} {records : List RecoveryCode}
  {factors : Table MfaFactor} {codes : Table RecoveryCode} {log : List CallEntry} {db' : Database} {p : Presented}

section Counters

variable {factor : MfaFactor} {e : CallEntry} {f : String}

theorem totpUse_of_kind (hk : p.kind ≠ "totp") : totpUse env db p = none := by
  rw [totpUse, if_neg hk]

theorem totpUse_of_first {factorId : String} {ctr : UInt64} (hk : p.kind = "totp")
    (hf : firstWith db.mfaFactors (·.activeFor p.accountId) = some (factorId, factor))
    (hc : verifyTotp env factor.secretBase32 p.code p.now factor.lastUsedCounter = some ctr) :
    totpUse env db p = some (factorId, ctr) := by
  rw [totpUse, if_pos hk, hf, Option.bind_some, hc]
  rfl

theorem FactorEffect.factorStep (h : FactorEffect env db presented enrolled records factors codes) (f : String) :
    FactorStep f db.mfaFactors[f]? factors[f]? enrolled (counterOf env db f enrolled presented) := by
  cases h with
  | keep => exact .keep _ _ nofun
  | password p hk =>
    simp only [counterOf, Option.bind_some, totpUse_of_kind (hk ▸ by decide : p.kind ≠ "totp")]
    exact .keep _ _ nofun
  | use p _ hu =>
    cases hu with
    | totp factorId factor ctr hk hfirst hc =>
      obtain ⟨hg, _⟩ := firstWith_eq_some hfirst
      simp only [counterOf, Option.bind_some, totpUse_of_first hk hfirst hc, get_modify]
      by_cases hf : factorId = f
      · subst hf
        rw [if_pos rfl, if_pos rfl, hg]
        exact .use factor ctr (verifyTotp_last env hc)
      · rw [if_neg hf, if_neg hf]
        exact .keep _ _ nofun
    | recoveryCode _ _ hk =>
      simp only [counterOf, Option.bind_some, totpUse_of_kind (hk ▸ by decide : p.kind ≠ "totp")]
      exact .keep _ _ nofun
  | enrol factor ctr _ _ hcounter hn =>
    simp only [counterOf, get_insert]
    by_cases hf : factor.factorId = f
    · subst hf
      rw [if_pos rfl, if_pos rfl, hn, hcounter]
      exact .enrol factor ctr rfl hcounter
    · rw [if_neg hf, if_neg hf]
      exact .keep _ _ fun _ h => Option.some.inj h ▸ hf
  | disable =>
    simp only [Database.removeFactor, get_erase]
    split
    · exact .remove _
    · exact .keep _ _ nofun
  | rotate => exact .keep _ _ nofun

/-! The counters accepted so far for `f` grow, the first is that of its enrolment, and the
last is the one the factor carries. -/

def enrolledIds (log : List CallEntry) : List String :=
  log.filterMap fun e => (enrolledFactor e.call e.out).map (·.factorId)

structure CounterInv (env : Env) (f : String) (log : List CallEntry) (db : Database) : Prop where
  increasing : (log.filterMap (acceptedCounter env f)).Pairwise (· < ·)
  carried : ∀ factor, db.mfaFactors[f]? = some factor → f ∈ enrolledIds log ∧
    ∃ last, factor.lastUsedCounter = some last ∧
      last ∈ log.filterMap (acceptedCounter env f) ∧
      ∀ counter ∈ log.filterMap (acceptedCounter env f), counter ≤ last
  unknown : f ∉ enrolledIds log → log.filterMap (acceptedCounter env f) = []
  first : ∀ counter, (log.filterMap (acceptedCounter env f)).head? = some counter →
    ∃ e ∈ log, ∃ factor, enrolledFactor e.call e.out = some factor ∧ factor.factorId = f ∧
      factor.lastUsedCounter = some counter

section

variable (h : CounterInv env f log db)
include h

/-- A call that accepts no counter for `f`, and at most removes the factor. -/
theorem CounterInv.unaccepted (hno : acceptedCounter env f e = none)
    (hg : ∀ factor, db'.mfaFactors[f]? = some factor → db.mfaFactors[f]? = some factor) :
    CounterInv env f (log ++ [e]) db' := by
  have hem : (log ++ [e]).filterMap (acceptedCounter env f) = log.filterMap (acceptedCounter env f) := by
    rw [filterMap_snoc, hno, Option.toList_none, List.append_nil]
  have hids : ∀ {id}, id ∈ enrolledIds log → id ∈ enrolledIds (log ++ [e]) := fun hid => by
    rw [enrolledIds, filterMap_snoc]
    exact List.mem_append_left _ hid
  refine ⟨hem ▸ h.increasing, fun factor hf => ?_, fun hn => ?_, fun c hc => ?_⟩
  · obtain ⟨hid, hla⟩ := h.carried factor (hg factor hf)
    rw [hem]
    exact ⟨hids hid, hla⟩
  · rw [hem]
    exact h.unknown fun hid => hn (hids hid)
  · rw [hem] at hc
    obtain ⟨e', he', hrs⟩ := h.first c hc
    exact ⟨e', List.mem_append_left _ he', hrs⟩

theorem CounterInv.enrol {c : UInt64} (hid : f ∉ enrolledIds log)
    (he : enrolledFactor e.call e.out = some factor) (hf : factor.factorId = f)
    (hc : factor.lastUsedCounter = some c) (ha : acceptedCounter env f e = some c)
    (hpo : db'.mfaFactors[f]? = some factor) : CounterInv env f (log ++ [e]) db' := by
  have hem : (log ++ [e]).filterMap (acceptedCounter env f) = [c] := by
    rw [filterMap_snoc, ha, h.unknown hid]
    rfl
  have hm : f ∈ enrolledIds (log ++ [e]) := by
    rw [enrolledIds, filterMap_snoc, he, ← hf]
    exact List.mem_append_right _ (List.mem_singleton_self _)
  refine ⟨hem ▸ List.pairwise_singleton _ c, fun factor' hg => ?_, fun hn => absurd hm hn, fun x hx => ?_⟩
  · rw [hpo] at hg
    cases hg
    rw [hem]
    refine ⟨hm, c, hc, List.mem_singleton_self c, fun x hx => ?_⟩
    rw [List.mem_singleton.mp hx]
    exact UInt64.le_refl c
  · rw [hem] at hx
    cases hx
    exact ⟨e, List.mem_append_right _ (List.mem_singleton_self e), factor, he, hf, hc⟩

theorem CounterInv.use {c : UInt64} (hp : db.mfaFactors[f]? = some factor)
    (hla : factor.lastUsedCounter.all (· < c) = true) (ha : acceptedCounter env f e = some c)
    (hpo : db'.mfaFactors[f]? = some { factor with lastUsedCounter := some c }) :
    CounterInv env f (log ++ [e]) db' := by
  obtain ⟨hid, last, hc, hin, hle⟩ := h.carried factor hp
  rw [hc, Option.all_some, decide_eq_true_eq] at hla
  have hem : (log ++ [e]).filterMap (acceptedCounter env f) = log.filterMap (acceptedCounter env f) ++ [c] := by
    rw [filterMap_snoc, ha]
    rfl
  have hm : f ∈ enrolledIds (log ++ [e]) := by
    rw [enrolledIds, filterMap_snoc]
    exact List.mem_append_left _ hid
  have hb : ∀ x ∈ log.filterMap (acceptedCounter env f), x < c := fun x hx =>
    UInt64.lt_of_le_of_lt (hle x hx) hla
  refine ⟨?_, fun factor' hg => ?_, fun hn => absurd hm hn, fun x hx => ?_⟩
  · rw [hem, List.pairwise_append]
    refine ⟨h.increasing, List.pairwise_singleton _ c, fun x hx y hy => ?_⟩
    rw [List.mem_singleton.mp hy]
    exact hb x hx
  · rw [hpo] at hg
    cases hg
    rw [hem]
    refine ⟨hm, c, rfl, List.mem_append_right _ (List.mem_singleton_self c), fun x hx => ?_⟩
    rcases List.mem_append.mp hx with hx | hx
    · exact UInt64.le_of_lt (hb x hx)
    · rw [List.mem_singleton.mp hx]
      exact UInt64.le_refl c
  · rw [hem, List.head?_append_of_ne_nil _ (List.ne_nil_of_mem hin)] at hx
    obtain ⟨e', he', hrs⟩ := h.first x hx
    exact ⟨e', List.mem_append_left _ he', hrs⟩

end

theorem counterInv_step (hfr : (enrolledIds (log ++ [entry (step env) db call])).Nodup)
    (h : CounterInv env f log db) : CounterInv env f (log ++ [entry (step env) db call]) (step env db call).2 := by
  have hst := (step_effect env db call).factorEffect.factorStep f
  generalize hp : db.mfaFactors[f]? = pre at hst
  generalize hpo : (step env db call).2.mfaFactors[f]? = post at hst
  generalize he : enrolledFactor call (step env db call).1 = enrolled at hst
  generalize ha : counterOf env db f enrolled (accepted call (step env db call).1) = c at hst
  rw [← he] at ha
  cases hst with
  | keep => exact h.unaccepted ha fun factor hg => hp.trans (hpo.symm.trans hg)
  | remove => exact h.unaccepted ha fun factor hg => by rw [hpo] at hg; cases hg
  | enrol _ _ hid hc =>
    refine h.enrol (fun hm => ?_) he hid hc ha hpo
    rw [enrolledIds, filterMap_snoc, List.nodup_append] at hfr
    refine hfr.2.2 f hm f ?_ rfl
    rw [entry_call, entry_out, he, Option.map_some, hid]
    exact List.mem_singleton_self f
  | use _ _ hla => exact h.use hp hla ha hpo

end Counters

/-! ### Recovery codes -/

/-- A code found after inserting `records` is one of them, under its identifier, or was there. -/
theorem get_insertCodes : ∀ (records : List RecoveryCode) (codes : Table RecoveryCode) (id : String)
    (recovery : RecoveryCode), (insertCodes codes records)[id]? = some recovery →
      (recovery ∈ records ∧ recovery.recoveryCodeId = id) ∨ codes[id]? = some recovery
  | [], _, _, _, h => .inr h
  | rec :: records, codes, id, recovery, h => by
    rcases get_insertCodes records (codes.insert rec.recoveryCodeId rec) id recovery h with h | h
    · exact .inl ⟨List.mem_cons_of_mem _ h.1, h.2⟩
    · rcases of_get_insert h with ⟨hid, rfl⟩ | h
      · exact .inl ⟨List.mem_cons_self, hid⟩
      · exact .inr h

theorem get_of_retain {q : RecoveryCode → Bool} {recovery : RecoveryCode}
    (h : (retain db.recoveryCodes q)[id]? = some recovery) : db.recoveryCodes[id]? = some recovery := by
  rw [get_retain] at h
  exact (Option.filter_eq_some_iff.mp h).1

theorem codeUse_of_kind (hk : p.kind ≠ "recovery_code") : codeUse env db p = none := by
  rw [codeUse, if_neg hk]

/-- A call either accepts a recovery code, which it finds unused and marks, or accepts
none, and leaves only codes that were there or that it inserted. -/
theorem FactorEffect.codeStep (h : FactorEffect env db presented enrolled records factors codes) :
    (∃ id recovery now, presented.bind (codeUse env db) = some (id, recovery.codeHash) ∧ records = [] ∧
      db.recoveryCodes[id]? = some recovery ∧ recovery.usedAtEpochMillis = none ∧
      codes = db.recoveryCodes.modify id fun r => { r with usedAtEpochMillis := some now }) ∨
    (presented.bind (codeUse env db) = none ∧ ∀ (id : String) (recovery : RecoveryCode), codes[id]? = some recovery →
        (recovery ∈ records ∧ recovery.recoveryCodeId = id) ∨ db.recoveryCodes[id]? = some recovery) := by
  cases h with
  | keep => exact .inr ⟨rfl, fun _ _ h => .inr h⟩
  | password _ hk =>
    exact .inr ⟨codeUse_of_kind (hk ▸ by decide), fun _ _ h => .inr h⟩
  | use p _ hu =>
    cases hu with
    | totp _ _ _ hk =>
      exact .inr ⟨codeUse_of_kind (hk ▸ by decide), fun _ _ h => .inr h⟩
    | recoveryCode id recovery hk hf =>
      obtain ⟨hg, husable⟩ := firstWith_eq_some hf
      simp only [usableCode, Bool.and_eq_true, Option.isNone_iff_eq_none] at husable
      refine .inl ⟨id, recovery, p.now, ?_, rfl, hg, husable.1.1.2, rfl⟩
      rw [Option.bind_some, codeUse, if_pos hk, hf]
      rfl
  | enrol _ _ records | rotate records =>
    refine .inr ⟨rfl, fun id recovery h => ?_⟩
    exact (get_insertCodes records _ id recovery h).imp_right get_of_retain
  | disable =>
    refine .inr ⟨rfl, fun id recovery h => .inr ?_⟩
    unfold Database.removeFactor at h
    split at h
    · exact h
    · exact get_of_retain h

def allInserted (log : List CallEntry) : List RecoveryCode :=
  log.flatMap fun e => insertedCodes e.call e.out

theorem allInserted_snoc (log : List CallEntry) (e : CallEntry) :
    allInserted (log ++ [e]) = allInserted log ++ insertedCodes e.call e.out := by
  simp [allInserted]

/-- Every code accepted so far was accepted once, and if it is still stored it carries its use;
codes come from the insertions only. -/
structure CodeInv (env : Env) (log : List CallEntry) (db : Database) : Prop where
  once : ((log.filterMap (acceptedCode env)).map (·.1)).Nodup
  used : ∀ p ∈ log.filterMap (acceptedCode env), ∀ recovery, db.recoveryCodes[p.1]? = some recovery →
    recovery.usedAtEpochMillis ≠ none
  known : ∀ p ∈ log.filterMap (acceptedCode env), ∃ record ∈ allInserted log,
    record.recoveryCodeId = p.1 ∧ record.codeHash = p.2
  stored : ∀ (id : String) (recovery : RecoveryCode), db.recoveryCodes[id]? = some recovery →
    ∃ record ∈ allInserted log, record.recoveryCodeId = id ∧ record.codeHash = recovery.codeHash

theorem codeInv_step (hfr : ((allInserted (log ++ [entry (step env) db call])).map (·.recoveryCodeId)).Nodup)
    (h : CodeInv env log db) : CodeInv env (log ++ [entry (step env) db call]) (step env db call).2 := by
  -- what was inserted before stays inserted
  have hmr : ∀ {Q : RecoveryCode → Prop}, (∃ rec ∈ allInserted log, Q rec) →
      ∃ rec ∈ allInserted (log ++ [entry (step env) db call]), Q rec := by
    rintro Q ⟨rec, hr, hQ⟩
    rw [allInserted_snoc]
    exact ⟨rec, List.mem_append_left _ hr, hQ⟩
  have hem := filterMap_snoc (acceptedCode env) log (entry (step env) db call)
  rcases (step_effect env db call).factorEffect.codeStep with
    ⟨id, recovery, now, hac, hno, hg, hu, hc⟩ | ⟨hac, hc⟩
  · -- the code is unused, so it was not accepted before
    have ha' : acceptedCode env (entry (step env) db call) = some (id, recovery.codeHash) := hac
    rw [ha'] at hem
    have hn : id ∉ (log.filterMap (acceptedCode env)).map (·.1) := fun hm => by
      obtain ⟨p, hp, rfl⟩ := List.mem_map.mp hm
      exact h.used p hp recovery hg hu
    have hkn : ∀ p ∈ (log ++ [entry (step env) db call]).filterMap (acceptedCode env),
        ∃ rec ∈ allInserted log, rec.recoveryCodeId = p.1 ∧ rec.codeHash = p.2 := by
      intro p hp
      rw [hem] at hp
      rcases List.mem_append.mp hp with hp | hp
      · exact h.known p hp
      · rw [List.mem_singleton.mp hp]
        exact h.stored id recovery hg
    refine ⟨?_, fun p hp r hr => ?_, fun p hp => ?_, fun a r hr => ?_⟩
    · rw [hem, List.map_append, List.nodup_append]
      refine ⟨h.once, List.nodup_singleton id, fun a ha b hb hab => hn ?_⟩
      have hb' : b = id := List.mem_singleton.mp hb
      exact hb' ▸ hab ▸ ha
    · rw [hc, get_modify] at hr
      split_ifs at hr with hid
      · rw [← hid, hg] at hr
        cases hr
        exact nofun
      · rw [hem] at hp
        rcases List.mem_append.mp hp with hp | hp
        · exact h.used p hp r hr
        · rw [List.mem_singleton.mp hp] at hid
          exact absurd rfl hid
    · exact hmr (hkn p hp)
    · rw [hc, get_modify] at hr
      split_ifs at hr with hid
      · rw [← hid, hg] at hr
        cases hr
        exact hid ▸ hmr (h.stored id recovery hg)
      · exact hmr (h.stored a r hr)
  · -- a code that is inserted now has an identifier no accepted code has
    have ha' : acceptedCode env (entry (step env) db call) = none := hac
    rw [ha', Option.toList_none, List.append_nil] at hem
    rw [allInserted_snoc, List.map_append, List.nodup_append] at hfr
    refine ⟨hem ▸ h.once, fun p hp r hr => ?_, fun p hp => ?_, fun a r hr => ?_⟩
    · rw [hem] at hp
      rcases hc p.1 r hr with ⟨hin, hid⟩ | hg
      · obtain ⟨rec, hrc, hri, _⟩ := h.known p hp
        exact absurd (hri.trans hid.symm) (hfr.2.2 _ (List.mem_map_of_mem hrc) _ (List.mem_map_of_mem hin))
      · exact h.used p hp r hg
    · rw [hem] at hp
      exact hmr (h.known p hp)
    · rcases hc a r hr with ⟨hin, hid⟩ | hg
      · refine ⟨r, ?_, hid, rfl⟩
        rw [allInserted_snoc]
        exact List.mem_append_right _ hin
      · exact hmr (h.stored a r hg)

/-! ### One active factor -/

def OneActive (factors : Table MfaFactor) : Prop :=
  ∀ (id id' accountId : String) (factor factor' : MfaFactor), factors[id]? = some factor →
    factors[id']? = some factor' → factor.activeFor accountId = true →
    factor'.activeFor accountId = true → id = id'

theorem FactorEffect.oneActive (h : FactorEffect env db presented enrolled records factors codes)
    (hdb : OneActive db.mfaFactors) : OneActive factors := by
  cases h with
  | keep | password | rotate => exact hdb
  | use _ _ hu =>
    cases hu with
    | recoveryCode => exact hdb
    | totp factorId factor ctr =>
      -- a new counter changes neither the account nor whether the factor is active
      have hke : ∀ {id : String} {g : MfaFactor} {accountId : String}, (db.mfaFactors.modify factorId
            fun factor => { factor with lastUsedCounter := some ctr })[id]? = some g →
          g.activeFor accountId = true →
          ∃ g', db.mfaFactors[id]? = some g' ∧ g'.activeFor accountId = true := by
        intro id g accountId hget hac
        rcases of_get_modify hget with ⟨-, g', hg', rfl⟩ | hget
        · exact ⟨g', hg', hac⟩
        · exact ⟨g, hget, hac⟩
      intro id id' accountId g g' hg hg' ha ha'
      obtain ⟨_, hg, ha⟩ := hke hg ha
      obtain ⟨_, hg', ha'⟩ := hke hg' ha'
      exact hdb id id' accountId _ _ hg hg' ha ha'
  | enrol factor ctr records q hc hn hf =>
    rw [Database.mfaEnabled, anyValue_eq_false] at hf
    -- an active factor of the account of the new one is the new one
    have hsole : ∀ {id accountId : String} {g : MfaFactor}, db.mfaFactors[id]? = some g →
        g.activeFor accountId = true → factor.activeFor accountId = true → False := by
      intro id accountId g hget hac hfactor
      simp only [MfaFactor.activeFor, Bool.and_eq_true, beq_iff_eq] at hac hfactor
      have := hf id g hget
      simp only [MfaFactor.activeFor, hac.1, hac.2, hfactor.1, BEq.rfl, Bool.and_self, Bool.true_eq_false] at this
    intro id id' accountId g g' hg hg' ha ha'
    rcases of_get_insert hg with ⟨hid, rfl⟩ | hg <;> rcases of_get_insert hg' with ⟨hid', rfl⟩ | hg'
    · exact hid.symm.trans hid'
    · exact (hsole hg' ha' ha).elim
    · exact (hsole hg ha ha').elim
    · exact hdb id id' accountId g g' hg hg' ha ha'
  | disable _ accountId =>
    intro id id' accountId g g' hg hg' ha ha'
    simp only [Database.removeFactor, get_erase] at hg hg'
    split at hg
    · cases hg
    · split at hg'
      · cases hg'
      · exact hdb id id' accountId g g' hg hg' ha ha'

/-! ### Whole runs -/

structure SecondFactorsKept (env : Env) (log : List CallEntry) : Prop where
  /-- The counters accepted for a factor grow strictly, -/
  counters : ∀ f, (log.filterMap (acceptedCounter env f)).Pairwise (· < ·)
  /-- and the first of them is that of its enrolment. -/
  enrolment : ∀ f counter, (log.filterMap (acceptedCounter env f)).head? = some counter →
    ∃ e ∈ log, ∃ factor, enrolledFactor e.call e.out = some factor ∧ factor.factorId = f ∧
      factor.lastUsedCounter = some counter
  /-- No recovery code is accepted twice, by its identifier or by its hash. -/
  codes : ((log.filterMap (acceptedCode env)).map (·.1)).Nodup ∧
    ((log.filterMap (acceptedCode env)).map (·.2)).Nodup
  complete : ∀ e ∈ log, ∀ p, accepted e.call e.out = some p →
    (totpUse env e.pre p).isSome = true ∨ (acceptedCode env e).isSome = true ∨ p.kind = "password"
  /-- A call that fails marks nothing as used. -/
  failed : ∀ e ∈ log, e.out.isError = true → e.post = e.pre
  active : ∀ e ∈ log, OneActive e.post.mfaFactors

structure FreshFactors (log : List CallEntry) : Prop where
  factors : (enrolledIds log).Nodup
  codes : ((allInserted log).map (·.recoveryCodeId)).Nodup
  hashes : ((allInserted log).map (·.codeHash)).Nodup

theorem FreshFactors.of_snoc (log : List CallEntry) (e : CallEntry) (h : FreshFactors (log ++ [e])) :
    FreshFactors log := by
  obtain ⟨hf, hc, hh⟩ := h
  rw [enrolledIds, List.filterMap_append] at hf
  rw [allInserted_snoc, List.map_append] at hc hh
  exact ⟨(List.nodup_append.mp hf).1, (List.nodup_append.mp hc).1, (List.nodup_append.mp hh).1⟩

theorem Effect.accepted_used (h : Effect env db call r db') (hp : accepted call r = some p) :
    (totpUse env db p).isSome = true ∨ (codeUse env db p).isSome = true ∨ p.kind = "password" := by
  have he := h.factorEffect
  rw [hp] at he
  generalize enrolledFactor call r = enrolled at he
  generalize insertedCodes call r = records at he
  generalize db'.mfaFactors = factors at he
  generalize db'.recoveryCodes = codes at he
  cases he with
  | password _ hk => exact .inr (.inr hk)
  | use _ _ hu =>
    cases hu with
    | totp _ _ _ hk hf hc =>
      rw [totpUse_of_first hk hf hc]
      exact .inl rfl
    | recoveryCode _ _ hk hf =>
      rw [codeUse, if_pos hk, hf]
      exact .inr (.inl rfl)

/-- Accepted codes with one hash are one code, for the hashes that were inserted differ. -/
theorem CodeInv.hashes_nodup (h : CodeInv env log db) (hfr : ((allInserted log).map (·.codeHash)).Nodup) :
    ((log.filterMap (acceptedCode env)).map (·.2)).Nodup := by
  refine List.Nodup.map_on (fun p hp q hq hpq => ?_) h.once.of_map
  obtain ⟨rec, hrc, hid, hha⟩ := h.known p hp
  obtain ⟨record', hrc', hid', hhash'⟩ := h.known q hq
  have heq : rec = record' :=
    List.inj_on_of_nodup_map hfr hrc hrc' (hha.trans (hpq.trans hhash'.symm))
  subst heq
  exact Prod.ext (hid.symm.trans hid') hpq

/-- **Second factors are used once.** In every run of a new store whose insertions are
new, at any times: the counters accepted for a factor grow strictly from that of its
enrolment on, no recovery code is accepted twice, a failing call marks nothing, and no
account has two active factors. -/
theorem second_factors_single_use (env : Env) (calls : List Call)
    (hfresh : FreshFactors (trace (step env) .empty calls)) :
    SecondFactorsKept env (trace (step env) .empty calls) := by
  have hc : ∀ f, CounterInv env f (trace (step env) .empty calls) (final (step env) .empty calls) :=
    fun f => history_inv_of (step env) FreshFactors.of_snoc
      (fun log db call hP h => counterInv_step hP.factors h) calls
      ⟨List.Pairwise.nil, fun factor hg => by simp [Database.empty] at hg, fun _ => rfl, nofun⟩ hfresh
  have hcodes : CodeInv env (trace (step env) .empty calls) (final (step env) .empty calls) :=
    history_inv_of (step env) FreshFactors.of_snoc (fun log db call hP h => codeInv_step hP.codes h) calls
      ⟨List.nodup_nil, nofun, nofun, fun id recovery hg => by simp [Database.empty] at hg⟩ hfresh
  have ha : ∀ e ∈ trace (step env) .empty calls, OneActive e.post.mfaFactors :=
    fun e he => (inv_of_mem he (fun h => h.factorEffect.oneActive)
      fun id id' accountId factor factor' hg => by simp [Database.empty] at hg).2
  refine ⟨fun f => (hc f).increasing, fun f => (hc f).first,
    ⟨hcodes.once, hcodes.hashes_nodup hfresh.hashes⟩, fun e he p hp => ?_, fun e he herr => ?_, ha⟩
  · have hused := (Effect.of_mem he).accepted_used hp
    rwa [acceptedCode, hp]
  · exact (Effect.of_mem he).unchanged_of_error herr

/-! ### A run -/

def sampleCode : RecoveryCode :=
  { recoveryCodeId := "code", accountId := "account", codeHash := sampleEnv.sha256 (utf8 "recovery"),
    usedAtEpochMillis := none, expiresAtEpochMillis := none }

/-- The enrolment of the sample factor through the session `first`. -/
def sampleEnrollment (now : UInt64) : TotpEnrollmentCompletion where
  factor := sampleFactor
  recoveryCodes := [sampleCode]
  delivery :=
    { deliveryId := "delivery", accountId := "account", accountSessionId := "first", factorId := "factor",
      idempotencyKeyHash := Vector.replicate 32 5,
      finishRequestBindingHash := totpEnrollmentFinishBindingHash sampleEnv "account" "first" "factor"
        (Vector.replicate 32 5) (Vector.replicate 32 6)
      clientEphemeralPublicKey := Vector.replicate 32 6, serverEphemeralPublicKey := Vector.replicate 32 8,
      nonce := Vector.replicate 12 0, ciphertext := List.replicate 16 0, recoveryCodeCount := 1,
      createdAtEpochMillis := now, expiresAtEpochMillis := now + 1000, acknowledgedAtEpochMillis := none }
  auditEntry := sampleAudit "enrolled" "mfa_enabled" "success" now

def sampleSession : AccountSession :=
  { accountSessionId := "first", accountId := "account", refreshTokenHash := Vector.replicate 32 1,
    mfaVerified := false, expiresAtEpochMillis := 90000, revokedAtEpochMillis := none, revokedReason := none }

/-- An enrolment, a login with a one-time code, and each factor presented again. -/
def factorCalls : List Call :=
  [.registerAccount sampleAccount,
    .issueTokens sampleSession,
    .finishTotpEnrollment (sampleEnrollment 40000),
    .createLoginChallenge (sampleAuthority 40000 50000)
      (sampleAudit "challenged" "login_challenge_created" "success" 50000),
    .finishLogin (sampleLogin 40000 "000002" 60000),
    .verifyFactor none "account" "totp" "000002" 60000,
    .verifyFactor none "account" "recovery_code" "recovery" 70000,
    .verifyFactor none "account" "recovery_code" "recovery" 30000]

theorem second_factors_single_use_login :
    FreshFactors (trace (step sampleEnv) .empty factorCalls) ∧
      SecondFactorsKept sampleEnv (trace (step sampleEnv) .empty factorCalls) ∧
      (trace (step sampleEnv) .empty factorCalls).filterMap (acceptedCounter sampleEnv "factor") = [1, 2] ∧
      ((trace (step sampleEnv) .empty factorCalls).filterMap (acceptedCode sampleEnv)).map (·.1) =
        ["code"] :=
  have hfr : FreshFactors (trace (step sampleEnv) .empty factorCalls) :=
    ⟨by decide +kernel, by decide +kernel, by decide +kernel⟩
  ⟨hfr, second_factors_single_use sampleEnv factorCalls hfr, by decide +kernel, by decide +kernel⟩

end Rctl.Api
