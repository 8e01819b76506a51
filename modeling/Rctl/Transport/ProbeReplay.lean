/-
# Probes and their authorizations

`P2pProbeReplayGuard` and `ProbeReplayGuard` of `remote-transport` keep each probe they have seen until the
authorization it came with expires. A probe that is refused as a replay is kept anew, until the authorization
of the replay expires: if that is earlier, the probe is forgotten while the first authorization is still
valid, and is accepted again (`probe_accepted_twice`).

Where no probe comes again under an authorization that expires earlier than the one it is kept for, none is
accepted twice as long as its authorization is valid (`probes_accepted_once`).
-/
import Rctl.Lib.Run
import Rctl.Transport.Messages
import Rctl.Transport.P2p

namespace Rctl

open ByteString Result StateRun

structure ProbeReplayGuard where
  seen : List (ProbeKey × UInt64)

structure TokenProbe where
  candidate : ConnectionCandidateDto
  authorization : CandidateAuthorization
  returnedToken : Bytes
  probeRole : SessionRole
  probeNonce : Digest
  nowEpochMillis : UInt64

/-- What a guard does with a probe once it is checked. -/
def remember (seen : List (ProbeKey × UInt64)) (checked : Except BindingError (ProbeKey × UInt64))
    (nowEpochMillis : UInt64) : Except BindingError Unit × List (ProbeKey × UInt64) :=
  match checked with
  | .error e => (.error e, seen)
  | .ok probe =>
    let seen := seen.filter (nowEpochMillis ≤ ·.2)
    (ensure (!seen.any (·.1 = probe.1)) .probeReplay, probe :: seen.filter (·.1 ≠ probe.1))

section Guards

variable (P : Primitives)

/-- The checks, with the key of the probe and the expiry of its authorization. -/
def TokenProbe.check (probe : TokenProbe) : Except BindingError (ProbeKey × UInt64) := do
  validateCandidateAuthorization P probe.candidate probe.authorization probe.nowEpochMillis
  ensure (probe.probeRole ≠ probe.candidate.role) .probeRoleMismatch
  ensure (probe.returnedToken = probe.authorization.candidateToken) .tokenMismatch
  return ((probe.candidate.sessionId, probe.candidate.candidateId, probe.probeRole, probe.probeNonce),
    probe.authorization.expiresAtEpochMillis)

def ProbeReplayGuard.validate (guard : ProbeReplayGuard) (probe : TokenProbe) :
    Except BindingError Unit × ProbeReplayGuard :=
  (remember guard.seen (probe.check P) probe.nowEpochMillis).map id .mk

structure PacketProbe where
  candidate : ConnectionCandidateDto
  authorization : EphemeralCandidateAuthorization
  packet : P2pProbePacket
  nowEpochMillis : UInt64

def PacketProbe.check (probe : PacketProbe) : Except BindingError (ProbeKey × UInt64) :=
  (checkProbe P probe.candidate probe.authorization probe.packet probe.nowEpochMillis).map fun _ =>
    ((probe.packet.sessionId, probe.packet.candidateId, probe.packet.role, probe.packet.probeNonce),
      probe.authorization.expiresAtEpochMillis)

def PacketProbe.validate (guard : P2pProbeReplayGuard) (probe : PacketProbe) :
    Except BindingError Unit × P2pProbeReplayGuard :=
  guard.validate P probe.candidate probe.authorization probe.packet probe.nowEpochMillis

end Guards

/-! ### Runs of a guard -/

section Runs

variable {σ κ : Type} (step : σ → κ → Except BindingError Unit × σ) (seen : σ → List (ProbeKey × UInt64))
  (check : κ → Except BindingError (ProbeKey × UInt64)) (now : κ → UInt64)

/-- The probe that was accepted: its key, the expiry of its authorization, and when it was accepted. -/
def acceptedProbe (e : Entry σ κ (Except BindingError Unit)) : Option (ProbeKey × UInt64 × UInt64) :=
  if e.out = .ok () then (check e.call).toOption.map fun probe => (probe.1, probe.2, now e.call) else none

/-- The probe is not kept for an authorization that expires later than its own. -/
def ExpiresLast (e : Entry σ κ (Except BindingError Unit)) : Prop :=
  ∀ probe ∈ (check e.call).toOption, ∀ kept ∈ seen e.pre, kept.1 = probe.1 → kept.2 ≤ probe.2

/-- A probe is accepted again only after its authorization has expired. -/
def AcceptsOnce (s : σ) : Prop :=
  ∀ calls : List κ, calls.Pairwise (now · ≤ now ·) → (∀ e ∈ trace step s calls, ExpiresLast seen check e) →
    ((trace step s calls).filterMap (acceptedProbe check now)).Pairwise fun a b => a.1 = b.1 → a.2.1 < b.2.2

variable {step seen check now}

theorem acceptsOnce (hst : ∀ s c, ((step s c).1, seen (step s c).2) = remember (seen s) (check c) (now c)) (s : σ) :
    AcceptsOnce step seen check now s := by
  intro cs horder hla
  -- what an accepted call has done
  have ha (s c b) (h : acceptedProbe check now (entry step s c) = some b) : (b.1, b.2.1) ∈ seen (step s c).2 ∧
      b.2.2 = now c ∧ ∀ x, (b.1, x) ∈ seen s → x < now c := by
    obtain ⟨ho, hp⟩ := Option.ite_none_right_eq_some.mp h
    have hs := hst s c
    rw [entry_out] at ho
    cases hc : check c with
    | error => rw [entry_call, hc] at hp; cases hp
    | ok probe =>
      rw [entry_call, hc] at hp
      cases hp
      rw [hc, ho] at hs
      obtain ⟨hn, hsn⟩ := Prod.mk.inj hs
      rw [hsn]
      refine ⟨List.mem_cons_self, rfl, fun x hx => ?_⟩
      simp only [eq_comm (a := Except.ok ()), ensure_eq_ok, Bool.not_eq_true', List.any_eq_false, List.mem_filter,
        decide_eq_true_eq] at hn
      exact UInt64.not_le.mp fun hle => hn _ ⟨hx, hle⟩ rfl
  refine pairwise_emitted_in_order step (fun c => (now c).toNat) (I := fun _ => True)
    (S := fun t s b => b.2.2.toNat < t ∨ ∃ x, (b.1, x) ∈ seen s ∧ b.2.2 ≤ x) (fun _ _ _ => id)
    (fun s c t b hQ _ ht hspent => ?_) (fun s c t b _ ht hmi => ?_) (fun s c a b _ _ hmi hR => ?_) cs trivial hla
    (horder.imp UInt64.le_iff_toNat_le.mp)
  · rcases hspent with hlt | ⟨x, hx, hle⟩
    · exact .inl (hlt.trans_le ht)
    · by_cases hnow : b.2.2 < now c
      · exact .inl (UInt64.lt_iff_toNat_lt.mp hnow)
      · refine .inr ?_
        have hs : seen (step s c).2 = _ := congrArg Prod.snd (hst s c)
        cases hc : check c with
        | error =>
          rw [hc] at hs
          exact ⟨x, by rw [hs]; exact hx, hle⟩
        | ok probe =>
          rw [hc] at hs
          rw [hs]
          by_cases hk : b.1 = probe.1
          · exact ⟨probe.2, by rw [hk]; exact List.mem_cons_self,
            UInt64.le_trans hle (hQ probe (congrArg _ hc) _ hx hk)⟩
          · have hlv : now c ≤ x := UInt64.le_trans (UInt64.not_lt.mp hnow) hle
            exact ⟨x, List.mem_cons_of_mem _ (by simp [hx, hlv, hk]), hle⟩
  · obtain ⟨-, hnow, hn⟩ := ha s c b hmi
    rintro (hlt | ⟨x, hx, hle⟩)
    · exact absurd ht (Nat.not_le.mpr (hnow ▸ hlt))
    · exact absurd (hnow ▸ hle) (UInt64.not_le.mpr (hn x hx))
  · obtain ⟨hm, -⟩ := ha s c a hmi
    rw [Classical.not_imp] at hR
    exact .inr ⟨a.2.1, hR.1 ▸ hm, UInt64.not_lt.mp hR.2⟩

end Runs

/-- **A probe is accepted once per authorization**, by either guard, if no probe comes again under an
authorization that expires earlier than the one it is kept for. -/
theorem probes_accepted_once (P : Primitives) :
    (∀ guard, AcceptsOnce (PacketProbe.validate P) P2pProbeReplayGuard.seen (PacketProbe.check P)
      PacketProbe.nowEpochMillis guard) ∧
    ∀ guard, AcceptsOnce (ProbeReplayGuard.validate P) ProbeReplayGuard.seen (TokenProbe.check P)
      TokenProbe.nowEpochMillis guard := by
  refine ⟨acceptsOnce fun guard probe => ?_, acceptsOnce fun guard probe => ?_⟩
  · unfold PacketProbe.validate P2pProbeReplayGuard.validate PacketProbe.check
    cases checkProbe P probe.candidate probe.authorization probe.packet probe.nowEpochMillis <;> rfl
  · rfl

namespace ProbeSample

def bindingHash : Digest := CanonicalMessage.constantPrimitives.sha256 []

def candidate : ConnectionCandidateDto :=
  { candidateId := hashPrefix bindingHash, sessionId := 1, deviceId := "device", role := .controlled, kind := .lanDirect
    endpoint := "10.0.0.1:50000", source := .localInterface, observeResultId := none, priority := 1, rttMs := none
    lossPpm := none, jitterMs := none, relayNodeId := none }

/-- A probe at `now` under an authorization until `expires`, for one guard and for the other. -/
def packetProbe (expires now : UInt64) : PacketProbe :=
  ⟨candidate, ⟨1, "device", .controlled, candidate.candidateId, [1], bindingHash, expires⟩,
    ⟨1, candidate.candidateId, .controller, [1], bindingHash, .ofNat 32 7⟩, now⟩

def tokenProbe (expires now : UInt64) : TokenProbe :=
  ⟨candidate, ⟨[1], bindingHash, expires⟩, [1], .controller, .ofNat 32 7, now⟩

end ProbeSample

open ProbeSample CanonicalMessage in
/-- A probe is refused under an authorization that expires later, and accepted again after that one. -/
theorem probes_accepted_once_later :
    ((trace (PacketProbe.validate constantPrimitives) ⟨[]⟩
      [packetProbe 10 0, packetProbe 100 5, packetProbe 200 150]).filterMap
        (acceptedProbe (PacketProbe.check constantPrimitives) PacketProbe.nowEpochMillis)).Pairwise
          (fun a b => a.1 = b.1 → a.2.1 < b.2.2) ∧
    ((trace (ProbeReplayGuard.validate constantPrimitives) ⟨[]⟩
      [tokenProbe 10 0, tokenProbe 100 5, tokenProbe 200 150]).filterMap
        (acceptedProbe (TokenProbe.check constantPrimitives) TokenProbe.nowEpochMillis)).Pairwise
          (fun a b => a.1 = b.1 → a.2.1 < b.2.2) :=
  ⟨(probes_accepted_once constantPrimitives).1 ⟨[]⟩ _ (by decide) (by unfold ExpiresLast; decide +kernel),
    (probes_accepted_once constantPrimitives).2 ⟨[]⟩ _ (by decide) (by unfold ExpiresLast; decide +kernel)⟩

open ProbeSample in
/-- **A probe is accepted twice.** It is refused under an authorization that expires earlier, and accepted again
after that. -/
theorem probe_accepted_twice :
    (trace (PacketProbe.validate CanonicalMessage.constantPrimitives) ⟨[]⟩
      [packetProbe 100 0, packetProbe 10 0, packetProbe 100 20]).map Entry.out = [.ok (), .error .probeReplay, .ok ()] ∧
    (trace (ProbeReplayGuard.validate CanonicalMessage.constantPrimitives) ⟨[]⟩
      [tokenProbe 100 0, tokenProbe 10 0, tokenProbe 100 20]).map Entry.out =
        [.ok (), .error .probeReplay, .ok ()] := by
  decide +kernel

end Rctl
