/-
# The lifecycle of a secure session

A session is ready after one successful confirmation in each direction and is
invalidated by a failed or repeated verification, by a changed binding and by a
reboot. The flags of the state are tied to the calls made so far by an invariant
of the history (`LifecycleInv`): each confirmation flag counts the successful
calls of its kind, and a session that is not invalidated has seen no invalidating
call. Invalidation is absorbing.
-/
import Rctl.Core.SecureSession

namespace Rctl
namespace SecureSession

open ByteString StateRun

/-- A successful `createLocalKeyConfirm`. -/
def confirmCreated (e : RunEntry) : Bool :=
  match e.call, e.out with
  | .createLocalKeyConfirm _ _, .ok _ => true
  | _, _ => false

/-- A successful `verifyPeerKeyConfirm`. -/
def peerVerified (e : RunEntry) : Bool :=
  match e.call, e.out with
  | .verifyPeerKeyConfirm _ _ _, .ok _ => true
  | _, _ => false

/-- A call that invalidates a session created with the given binding: a failing
verification of the peer, another binding, a reboot. -/
def Invalidating (digest : Digest) (path : TransportPath) (pair : U128) (relay : Option String)
    (e : RunEntry) : Prop :=
  match e.call with
  | .verifyPeerKeyConfirm _ _ _ => ∃ error, e.out = .error error
  | .invalidateIfBindingChanged digest' path' pair' relay' =>
    ¬ (digest' = digest ∧ path' = path ∧ pair' = pair ∧ relay' = relay)
  | .invalidateForReboot => True
  | _ => False

variable {P : Primitives} {s s' : SecureSession} {c : Call} {out : Except SecureSessionError Response}
  {digest : Digest} {path : TransportPath} {pair : U128} {relay : Option String} {sessionId : U128}
  {localRole : SessionRole} {permissions : SessionPermissions} {hash : Digest} {keys : DerivedSessionKeys}

theorem boundTo_of_new (hn : new sessionId localRole permissions digest path pair relay hash keys = .ok s) :
    s.BoundTo digest path pair relay := by
  simp only [new, Result.bind_eq_ok, Result.pure_eq_ok] at hn
  obtain ⟨_, -, rfl⟩ := hn
  exact ⟨rfl, rfl, rfl, rfl⟩

/-! ### One step -/

section

variable (h : Outcome P s c out s')
include h

theorem Outcome.invalidated_of_invalidating (hs : s.BoundTo digest path pair relay)
    (hi : Invalidating digest path pair relay ⟨s, c, out, s'⟩) : s'.invalidated = true := by
  obtain ⟨rfl, rfl, rfl, rfl⟩ := hs
  cases h with
  | accepted =>
    obtain ⟨error, he⟩ := hi
    cases he
  | kept hb => exact absurd hb hi
  | refused hvf hbi hr =>
    cases c with
    | verifyPeerKeyConfirm => exact absurd rfl (hvf _ _ _)
    | invalidateIfBindingChanged => exact absurd rfl (hbi _ _ _ _)
    | invalidateForReboot => exact absurd rfl hr
    | _ => exact hi.elim
  | rejected | changed | rebooted => rfl
  | _ => exact hi.elim

theorem Outcome.invalidating_of_invalidated (hs : s.BoundTo digest path pair relay) (hl : s.invalidated = false)
    (hd : s'.invalidated = true) : Invalidating digest path pair relay ⟨s, c, out, s'⟩ := by
  obtain ⟨rfl, rfl, rfl, rfl⟩ := hs
  cases h with
  | rejected => exact ⟨_, rfl⟩
  | changed hb => exact hb
  | rebooted => trivial
  | _ => exact absurd (hl.symm.trans hd) Bool.false_ne_true

theorem Outcome.invalidated_of_invalidated (hd : s.invalidated = true) : s'.invalidated = true := by
  cases h with
  | rejected | changed | rebooted => rfl
  | _ => exact hd

/-- On an invalidated session only the two invalidating calls may return `Ok`. -/
theorem Outcome.error_of_invalidated (hd : s.invalidated = true)
    (hbi : ∀ d p i r, c ≠ .invalidateIfBindingChanged d p i r) (hr : c ≠ .invalidateForReboot) :
    ∃ error, out = .error error := by
  have hl : ¬ s.invalidated = false := by simp [hd]
  cases h with
  | created h | accepted h => exact absurd h hl
  | sealed h | opened h => exact absurd h.1 hl
  | restored h => exact absurd h hl
  | kept => exact absurd rfl (hbi _ _ _ _)
  | rebooted => exact absurd rfl hr
  | _ => exact ⟨_, rfl⟩

theorem Outcome.ready_of_message {r : Response} (ho : out = .ok r)
    (hc : (∃ kind chan flags pt, c = .sealMessage kind chan flags pt) ∨ ∃ header ct, c = .openMessage header ct) :
    s.Ready := by
  subst ho
  obtain ⟨_, _, _, _, rfl⟩ | ⟨_, _, rfl⟩ := hc
  · cases h with
    | sealed hr => exact hr
  · cases h with
    | opened hr => exact hr

end

/-! ### The history -/

/-- What the flags say about the calls made so far. -/
structure LifecycleInv (digest : Digest) (path : TransportPath) (pair : U128) (relay : Option String)
    (history : List RunEntry) (s : SecureSession) : Prop where
  bound : s.BoundTo digest path pair relay
  created : history.countP confirmCreated = if s.localConfirmSent then 1 else 0
  verified : history.countP peerVerified = if s.peerConfirmed then 1 else 0
  invalidated : s.invalidated = true ↔ ∃ e ∈ history, Invalidating digest path pair relay e

theorem Outcome.flags (h : Outcome P s c out s') :
    (confirmCreated ⟨s, c, out, s'⟩ = true ∧ s.localConfirmSent = false ∧ s'.localConfirmSent = true ∨
      confirmCreated ⟨s, c, out, s'⟩ = false ∧ s'.localConfirmSent = s.localConfirmSent) ∧
    (peerVerified ⟨s, c, out, s'⟩ = true ∧ s.peerConfirmed = false ∧ s'.peerConfirmed = true ∨
      peerVerified ⟨s, c, out, s'⟩ = false ∧ s'.peerConfirmed = s.peerConfirmed) := by
  cases h with
  | created _ hf => exact ⟨.inl ⟨rfl, hf, rfl⟩, .inr ⟨rfl, rfl⟩⟩
  | accepted _ hf => exact ⟨.inr ⟨rfl, rfl⟩, .inl ⟨rfl, hf, rfl⟩⟩
  | refused => cases c <;> exact ⟨.inr ⟨rfl, rfl⟩, .inr ⟨rfl, rfl⟩⟩
  | _ => exact ⟨.inr ⟨rfl, rfl⟩, .inr ⟨rfl, rfl⟩⟩

theorem lifecycleInv_step {history : List RunEntry} (hi : LifecycleInv digest path pair relay history s) (c : Call) :
    LifecycleInv digest path pair relay (history ++ [entry (step P) s c]) (step P s c).2 := by
  have h := step_outcome P s c
  obtain ⟨hcr, hve⟩ := h.flags
  refine ⟨?_, ?_, ?_, ?_⟩
  · obtain ⟨rfl, rfl, rfl, rfl⟩ := hi.bound
    have hc := h.asCreated_eq
    exact ⟨(congrArg (·.permissionsDigest) hc).symm, (congrArg (·.path) hc).symm,
      (congrArg (·.candidatePairId) hc).symm, (congrArg (·.relayNodeId) hc).symm⟩
  · rw [List.countP_append, hi.created, List.countP_singleton]
    rcases hcr with ⟨h1, h2, h3⟩ | ⟨h1, h2⟩
    · rw [show confirmCreated (entry (step P) s c) = true from h1, h2, h3]
      rfl
    · rw [show confirmCreated (entry (step P) s c) = false from h1, h2]
      rfl
  · rw [List.countP_append, hi.verified, List.countP_singleton]
    rcases hve with ⟨h1, h2, h3⟩ | ⟨h1, h2⟩
    · rw [show peerVerified (entry (step P) s c) = true from h1, h2, h3]
      rfl
    · rw [show peerVerified (entry (step P) s c) = false from h1, h2]
      rfl
  · constructor
    · intro hde
      by_cases hp : s.invalidated = true
      · obtain ⟨e, he, hin⟩ := hi.invalidated.mp hp
        exact ⟨e, List.mem_append_left _ he, hin⟩
      · exact ⟨_, List.mem_append_right _ (List.mem_singleton.mpr rfl),
          h.invalidating_of_invalidated hi.bound (Bool.eq_false_iff.mpr hp) hde⟩
    · rintro ⟨e, he, hin⟩
      rcases List.mem_append.mp he with he | he
      · exact h.invalidated_of_invalidated (hi.invalidated.mpr ⟨e, he, hin⟩)
      · rw [List.mem_singleton.mp he] at hin
        exact h.invalidated_of_invalidating hi.bound hin

theorem Outcome.error_of_confirmed (h : Outcome P s c out s') (hcf : s.peerConfirmed = true)
    {confirm : KeyConfirm} {deviceId : String} {now : UInt64}
    (hc : c = .verifyPeerKeyConfirm confirm deviceId now) : ∃ error, out = .error error := by
  subst hc
  cases h with
  | accepted _ hf => exact absurd (hf.symm.trans hcf) Bool.false_ne_true
  | rejected => exact ⟨_, rfl⟩
  | refused hvf => exact absurd rfl (hvf _ _ _)

theorem state_eq_invalidated : s.state = .invalidated ↔ s.invalidated = true := by
  unfold state
  cases s.invalidated with
  | true => simp
  | false => cases s.localConfirmSent && s.peerConfirmed <;> simp

/-- The flags of a session tell its history, from its creation on. -/
theorem lifecycleInv_of_new (hn : new sessionId localRole permissions digest path pair relay hash keys = .ok s)
    (cs : List Call) : LifecycleInv digest path pair relay (trace (step P) s cs) (final (step P) s cs) := by
  have hcr := (asCreated_of_new hn).1
  have ht : LifecycleInv digest path pair relay [] s :=
    { bound := boundTo_of_new hn
      created := by rw [← hcr]; rfl
      verified := by rw [← hcr]; rfl
      invalidated := by rw [← hcr]; simp [asCreated] }
  exact history_inv (step P) (I := LifecycleInv digest path pair relay)
    (fun _ _ c hi => lifecycleInv_step hi c) cs [] s ht

/-- **Lifecycle of a session.** After any calls `before`: a seal or open succeeds
only if exactly one local confirmation was created, exactly one peer confirmation
was verified and nothing invalidated the session; the session is invalidated
exactly if an invalidating call was made, and the next call invalidates it if it is
one; a verification after a successful one is one; and once invalidated the session
stays so, and no call on it but the two invalidating ones returns `Ok`. -/
theorem secure_session_lifecycle (P : Primitives) {sessionId : U128} {localRole : SessionRole}
    {permissions : SessionPermissions} {digest : Digest} {path : TransportPath} {pair : U128}
    {relay : Option String} {hash : Digest} {keys : DerivedSessionKeys} {s : SecureSession}
    (hnew : new sessionId localRole permissions digest path pair relay hash keys = .ok s)
    (before : List Call) (c : Call) (after : List Call) :
    ((∃ r, (step P (final (step P) s before) c).1 = .ok r) →
      ((∃ kind channel flags plaintext, c = .sealMessage kind channel flags plaintext) ∨
        ∃ header ciphertext, c = .openMessage header ciphertext) →
      (trace (step P) s before).countP confirmCreated = 1 ∧
      (trace (step P) s before).countP peerVerified = 1 ∧
      ∀ e ∈ trace (step P) s before, ¬ Invalidating digest path pair relay e) ∧
    ((final (step P) s before).state = .invalidated ↔
      ∃ e ∈ trace (step P) s before, Invalidating digest path pair relay e) ∧
    (Invalidating digest path pair relay (entry (step P) (final (step P) s before) c) →
      (step P (final (step P) s before) c).2.state = .invalidated) ∧
    ((∃ e ∈ trace (step P) s before, peerVerified e = true) →
      (∃ confirm deviceId now, c = .verifyPeerKeyConfirm confirm deviceId now) →
      Invalidating digest path pair relay (entry (step P) (final (step P) s before) c)) ∧
    ((final (step P) s before).state = .invalidated →
      (final (step P) s (before ++ after)).state = .invalidated ∧
      ∀ e ∈ trace (step P) (final (step P) s before) after,
        (∀ d p i r, e.call ≠ .invalidateIfBindingChanged d p i r) → e.call ≠ .invalidateForReboot →
        ∃ error, e.out = .error error) := by
  have hI := lifecycleInv_of_new (P := P) hnew before
  have ho := step_outcome P (final (step P) s before) c
  have ha : ∀ t c, t.invalidated = true → (step P t c).2.invalidated = true :=
    fun t c ht => (step_outcome P t c).invalidated_of_invalidated ht
  refine ⟨?_, ?_, ?_, ?_, ?_⟩
  · rintro ⟨r, hr⟩ hc
    obtain ⟨hlv, hl, hpe⟩ := ho.ready_of_message hr hc
    refine ⟨by rw [hI.created, hl]; rfl, by rw [hI.verified, hpe]; rfl, fun e he hi => ?_⟩
    exact Bool.false_ne_true (hlv.symm.trans (hI.invalidated.mpr ⟨e, he, hi⟩))
  · rw [state_eq_invalidated]
    exact hI.invalidated
  · intro hi
    exact state_eq_invalidated.mpr (ho.invalidated_of_invalidating hI.bound hi)
  · rintro ⟨e, he, hve⟩ ⟨confirm, deviceId, now, hc⟩
    have hcf : (final (step P) s before).peerConfirmed = true := by
      by_contra hp
      have hcount := hI.verified
      rw [Bool.eq_false_iff.mpr hp] at hcount
      exact List.countP_eq_zero.mp hcount e he hve
    subst hc
    exact ho.error_of_confirmed hcf rfl
  · intro hde
    rw [state_eq_invalidated] at hde
    refine ⟨?_, ?_⟩
    · rw [state_eq_invalidated, final_append]
      exact run_inv (step P) ha after hde
    · exact forall_trace (step P) ha (fun t c ht => (step_outcome P t c).error_of_invalidated ht) hde

/-- The controller is ready after both confirmations, and a second verification
ends the session. -/
theorem secure_session_lifecycle_replayed :
    (final (step Sample.primitives) (Sample.sides .controller)
        [.createLocalKeyConfirm "controller" 2000,
         .verifyPeerKeyConfirm (Sample.confirm .controlled) "controlled" 2200]).state = .ready ∧
      (step Sample.primitives (final (step Sample.primitives) (Sample.sides .controller)
        [.createLocalKeyConfirm "controller" 2000,
         .verifyPeerKeyConfirm (Sample.confirm .controlled) "controlled" 2200])
        (.verifyPeerKeyConfirm (Sample.confirm .controlled) "controlled" 2200)).2.state =
          .invalidated := by
  have hlife := secure_session_lifecycle Sample.primitives
    (show Sample.session .controller = .ok (Sample.sides .controller) from rfl)
    [.createLocalKeyConfirm "controller" 2000, .verifyPeerKeyConfirm (Sample.confirm .controlled) "controlled" 2200]
    (.verifyPeerKeyConfirm (Sample.confirm .controlled) "controlled" 2200) []
  refine ⟨by decide +kernel, hlife.2.2.1 (hlife.2.2.2.1 ?_ ⟨_, _, _, rfl⟩)⟩
  exact ⟨_, List.mem_cons_of_mem _ List.mem_cons_self, by decide +kernel⟩

end SecureSession
end Rctl
