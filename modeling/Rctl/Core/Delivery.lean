/-
# At-most-once authentic delivery

The two sides of a session run side by side, under any schedule of calls: what a
network may do to messages in between (reorder, duplicate, drop, reflect, modify,
invent) is the freedom in the arguments of the `openMessage` calls. With an ideal
cipher, what one side opens is what the other side sealed, each message at most
once.
-/
import Rctl.Core.Nonce

namespace Rctl
namespace SecureSession

open ByteString StateRun Sample

structure Message where
  header : MessageHeader
  plaintext : Bytes
  ciphertext : Bytes
  deriving DecidableEq

def sealedMessage (e : RunEntry) : Option Message :=
  match e.call, e.out with
  | .sealMessage _ _ _ plaintext, .ok (.sealed header ciphertext) =>
    some ⟨header, plaintext, ciphertext⟩
  | _, _ => none

def openedMessage (e : RunEntry) : Option Message :=
  match e.call, e.out with
  | .openMessage header ciphertext, .ok (.opened plaintext) => some ⟨header, plaintext, ciphertext⟩
  | _, _ => none

variable {e : RunEntry} {m : Message}

theorem of_sealedMessage (h : sealedMessage e = some m) :
    (∃ kind chan flags, e.call = .sealMessage kind chan flags m.plaintext) ∧ e.out = .ok
      (.sealed m.header m.ciphertext) := by
  unfold sealedMessage at h
  split at h
  · rename_i kind chan flags pt header ct hc ho
    cases h
    exact ⟨⟨kind, chan, flags, hc⟩, ho⟩
  · cases h

theorem of_openedMessage (h : openedMessage e = some m) :
    e.call = .openMessage m.header m.ciphertext ∧ e.out = .ok (.opened m.plaintext) := by
  unfold openedMessage at h
  split at h
  · rename_i hc ho
    cases h
    exact ⟨hc, ho⟩
  · cases h

/-! ### One side: the replay window -/

section Step

variable {P : Primitives} {s s' : SecureSession} {c : Call}
  {out : Except SecureSessionError Response}

/-- A message is refused once it is recorded, and stays so. -/
theorem Outcome.refused_of_refused (h : Outcome P s c out s') {chan : ChannelId} {sequence : UInt64}
    (hr : s.receiveReplayGuard.check chan sequence ≠ .ok ()) :
    s'.receiveReplayGuard.check chan sequence ≠ .ok () := by
  cases h with
  | opened _ _ _ hc | discarded hc => exact ReplayGuard.check_record_of_refused hc hr
  | _ => exact hr

theorem Outcome.of_opened (h : Outcome P e.pre e.call e.out e.post) (hm : openedMessage e = some m) :
    e.pre.allowed m.header.kind = true ∧ e.pre.receiveReplayGuard.check m.header.channelId m.header.sequence = .ok ()
      ∧ e.post.receiveReplayGuard = e.pre.receiveReplayGuard.record m.header.channelId m.header.sequence ∧ ∃ nc,
      e.pre.Decrypts P m.header nc m.ciphertext m.plaintext := by
  obtain ⟨hc, ho⟩ := of_openedMessage hm
  rw [hc, ho] at h
  generalize e.post = s' at h
  cases h with
  | opened _ hal _ hcheck hd => exact ⟨hal, hcheck, rfl, _, hd⟩

end Step

/-- **No two opened messages have one channel and sequence number.** -/
theorem opened_headers_distinct (P : Primitives) (s : SecureSession) (cs : List Call) :
    ((trace (step P) s cs).filterMap openedMessage).Pairwise fun a b =>
      ¬ (a.header.channelId = b.header.channelId ∧ a.header.sequence = b.header.sequence) := by
  -- a message is spent once the receive window refuses its number
  refine pairwise_emitted (step P) (I := fun _ => True)
    (S := fun s m => s.receiveReplayGuard.check m.header.channelId m.header.sequence ≠ .ok ())
    (fun _ _ _ => trivial) ?_ ?_ ?_ cs trivial
  · intro s c m _ hs
    exact (step_outcome P s c).refused_of_refused hs
  · intro s c m _ he hs
    exact hs (Outcome.of_opened (step_outcome P s c) he).2.1
  · intro s c a b _ he hR
    obtain ⟨-, hc, hg, -⟩ := Outcome.of_opened (step_outcome P s c) he
    obtain ⟨hchannel, hsequence⟩ := not_not.mp hR
    rw [← hchannel, ← hsequence, show (step P s c).2.receiveReplayGuard = _ from hg]
    exact ReplayGuard.check_record_self hc

/-! ### Two sides and an ideal cipher -/

def cipherUse (s : SecureSession) (direction : TrafficDirection) (m : Message) : Option Encryption :=
  (buildNonce (s.keys.noncePrefix direction) m.header.channelId m.header.sequence).toOption.map
    fun nonce =>
      { key := s.keys.trafficKey direction
        nonce
        aad := buildAad m.header s.permissionsDigest direction
        plaintext := m.plaintext
        ciphertext := m.ciphertext }

def encryptionOf (e : RunEntry) : Option Encryption :=
  (sealedMessage e).bind (e.pre.cipherUse e.pre.sendDirection)

def decryptionOf (e : RunEntry) : Option Encryption :=
  (openedMessage e).bind (e.pre.cipherUse e.pre.receiveDirection)

section Pair

variable (P : Primitives) (sides : SessionRole → SecureSession) (cs : List (SessionRole × Call))

def sideTrace (role : SessionRole) : List RunEntry :=
  (trace (familyStep (step P)) sides cs).filterMap (memberEntry role)

def sealedBy (role : SessionRole) : List Message := (sideTrace P sides cs role).filterMap sealedMessage

def openedBy (role : SessionRole) : List Message := (sideTrace P sides cs role).filterMap openedMessage

def encryptionsBy (role : SessionRole) : List Encryption :=
  (sideTrace P sides cs role).filterMap encryptionOf

def decryptionsBy (role : SessionRole) : List Encryption :=
  (sideTrace P sides cs role).filterMap decryptionOf

/-- The cipher is ideal on a run: it decrypts what it encrypted, and a decryption
of the run succeeds only on a ciphertext that an encryption of the run returned,
and only under the key, nonce and associated data of that encryption. -/
structure IdealAead : Prop where
  correct : ∀ key nonce aad plaintext ciphertext,
    P.aeadEncrypt key nonce aad plaintext = some ciphertext →
      P.aeadDecrypt key nonce aad ciphertext = some plaintext
  returned : ∀ role, ∀ d ∈ decryptionsBy P sides cs role,
    ∃ sender, ∃ u ∈ encryptionsBy P sides cs sender, u.ciphertext = d.ciphertext
  bound : ∀ role, ∀ d ∈ decryptionsBy P sides cs role, ∀ sender,
    ∀ u ∈ encryptionsBy P sides cs sender, u.ciphertext = d.ciphertext →
      u.key = d.key ∧ u.nonce = d.nonce ∧ u.aad = d.aad

structure Paired (keys : DerivedSessionKeys) (digest : Digest) : Prop where
  role : ∀ r, (sides r).localRole = r
  keys : ∀ r, (sides r).keys = keys
  digest : ∀ r, (sides r).permissionsDigest = digest

variable {P sides cs} {keys : DerivedSessionKeys} {digest : Digest} {role : SessionRole}

theorem mem_sideTrace (he : e ∈ sideTrace P sides cs role) :
    Outcome P e.pre e.call e.out e.post ∧ e.pre.asCreated = (sides role).asCreated := by
  rw [sideTrace, filterMap_memberEntry] at he
  exact mem_trace_outcome he

theorem Paired.mem_sideTrace (hp : Paired sides keys digest) (he : e ∈ sideTrace P sides cs role) :
    e.pre.sendDirection = .fromSenderRole role ∧ e.pre.receiveDirection = .fromSenderRole role.opposite ∧
      e.pre.keys = keys ∧ e.pre.permissionsDigest = digest := by
  have h := (SecureSession.mem_sideTrace he).2
  have hr : e.pre.localRole = role := (congrArg (·.localRole) h).trans (hp.role role)
  exact ⟨congrArg TrafficDirection.fromSenderRole hr,
    (congrArg (fun r => (TrafficDirection.fromSenderRole r).reverse) hr).trans
      (TrafficDirection.reverse_fromSenderRole role),
    (congrArg (·.keys) h).trans (hp.keys role), (congrArg (·.permissionsDigest) h).trans (hp.digest role)⟩

/-- The use of the cipher behind a message from `sender`. -/
def Message.use (m : Message) (keys : DerivedSessionKeys) (digest : Digest) (sender : SessionRole)
    (nonce : ByteArr 12) : Encryption :=
  { key := keys.trafficKey (.fromSenderRole sender)
    nonce
    aad := buildAad m.header digest (.fromSenderRole sender)
    plaintext := m.plaintext
    ciphertext := m.ciphertext }

theorem cipherUse_of_buildNonce {s : SecureSession} {sndr : SessionRole} {nc : ByteArr 12}
    (h : buildNonce (s.keys.noncePrefix (.fromSenderRole sndr)) m.header.channelId m.header.sequence = .ok nc) :
    s.cipherUse (.fromSenderRole sndr) m = some (m.use s.keys s.permissionsDigest sndr nc) := by
  rw [cipherUse, h]
  rfl

variable (hp : Paired sides keys digest)
include hp

theorem Paired.encryption_of_sealed (he : e ∈ sideTrace P sides cs role) (hm : sealedMessage e = some m) :
    ∃ nc, encryptionOf e = some (m.use keys digest role nc) ∧ P.aeadEncrypt (keys.trafficKey (.fromSenderRole role))
      nc (buildAad m.header digest (.fromSenderRole role)) m.plaintext = some m.ciphertext := by
  obtain ⟨hd, -, rfl, rfl⟩ := hp.mem_sideTrace he
  obtain ⟨⟨kind, chan, flags, hcl⟩, ho⟩ := of_sealedMessage hm
  have h := (SecureSession.mem_sideTrace he).1
  rw [ho] at h
  obtain ⟨-, -, -, pt, nc, hcall', hno, hen⟩ := h.of_sealed
  rw [hcall'] at hcl
  obtain ⟨-, -, -, rfl⟩ := hcl
  rw [hd] at hno hen
  refine ⟨nc, ?_, hen⟩
  rw [encryptionOf, hm, Option.bind_some, hd, cipherUse_of_buildNonce hno]

theorem Paired.decryption_of_opened (he : e ∈ sideTrace P sides cs role) (hm : openedMessage e = some m) :
    ∃ nc, decryptionOf e = some (m.use keys digest role.opposite nc) ∧
      P.aeadDecrypt (keys.trafficKey (.fromSenderRole role.opposite)) nc
        (buildAad m.header digest (.fromSenderRole role.opposite)) m.ciphertext = some m.plaintext := by
  obtain ⟨-, hdi, rfl, rfl⟩ := hp.mem_sideTrace he
  obtain ⟨-, -, -, nc, hno, hd⟩ := (SecureSession.mem_sideTrace he).1.of_opened hm
  rw [hdi] at hno hd
  refine ⟨nc, ?_, hd⟩
  rw [decryptionOf, hm, Option.bind_some, hdi, cipherUse_of_buildNonce hno]

variable (hkeys : keys.trafficKey .controllerToControlled ≠ keys.trafficKey .controlledToController)
include hkeys

omit hp in
theorem trafficKey_inj {r r' : SessionRole} (h : keys.trafficKey (.fromSenderRole r) =
    keys.trafficKey (.fromSenderRole r')) : r = r' := by
  cases r <;> cases r'
  · rfl
  · exact absurd h hkeys
  · exact absurd h.symm hkeys
  · rfl

/-- **Authenticity.** What a side opens is what the other side sealed. -/
theorem opened_mem_sealed (hi : IdealAead P sides cs) (hm : m ∈ openedBy P sides cs role) :
    m ∈ sealedBy P sides cs role.opposite := by
  obtain ⟨e, he, hem⟩ := List.mem_filterMap.mp hm
  obtain ⟨nc, hd, hdecrypt⟩ := hp.decryption_of_opened he hem
  have hmem := List.mem_filterMap.mpr ⟨e, he, hd⟩
  obtain ⟨sndr, u, hu, hc⟩ := hi.returned role _ hmem
  obtain ⟨hk, hno, haad⟩ := hi.bound role _ hmem sndr u hu hc
  obtain ⟨e', he', hue⟩ := List.mem_filterMap.mp hu
  obtain ⟨m', hm', -⟩ := Option.bind_eq_some_iff.mp hue
  obtain ⟨nc', hu', hen⟩ := hp.encryption_of_sealed he' hm'
  rw [hue] at hu'
  cases hu'
  -- equal keys fix the sender, equal associated data the header, and then the plaintext is fixed
  have hs := trafficKey_inj hkeys hk
  have hhd := buildAad_inj haad
  have hplain := hi.correct _ _ _ _ _ hen
  rw [show m'.ciphertext = m.ciphertext from hc, show nc' = nc from hno,
    show buildAad m'.header digest _ = _ from haad, show keys.trafficKey _ = _ from hk] at hplain
  have hplain := hdecrypt.symm.trans hplain
  have heq : m' = m := by
    obtain ⟨header, pt, ct⟩ := m
    cases hhd
    cases hplain
    cases hc
    rfl
  rw [← hs, ← heq]
  exact List.mem_filterMap.mpr ⟨e', he', hm'⟩

theorem opened_ne_own (hi : IdealAead P sides cs) {own : Message} (hm : m ∈ openedBy P sides cs role)
    (ho : own ∈ sealedBy P sides cs role) : m.ciphertext ≠ own.ciphertext := by
  intro hc
  obtain ⟨e, he, hem⟩ := List.mem_filterMap.mp hm
  obtain ⟨e', he', hem'⟩ := List.mem_filterMap.mp ho
  obtain ⟨nc, hd, -⟩ := hp.decryption_of_opened he hem
  obtain ⟨nc', hu, -⟩ := hp.encryption_of_sealed he' hem'
  obtain ⟨hk, -, -⟩ := hi.bound role _ (List.mem_filterMap.mpr ⟨e, he, hd⟩) role _
    (List.mem_filterMap.mpr ⟨e', he', hu⟩) hc.symm
  exact SessionRole.opposite_ne role (trafficKey_inj hkeys hk).symm

omit hp hkeys

theorem openedBy_nodup (role : SessionRole) : (openedBy P sides cs role).Nodup := by
  rw [openedBy, sideTrace, filterMap_memberEntry]
  refine (opened_headers_distinct P (sides role) _).imp fun h heq => ?_
  rw [heq] at h
  exact h ⟨rfl, rfl⟩

theorem sealedBy_nodup (role : SessionRole) : (sealedBy P sides cs role).Nodup := by
  rw [sealedBy, sideTrace, filterMap_memberEntry]
  have hi := List.pairwise_filterMap.mp (sealed_headers_increasing P (sides role) (memberCalls role cs))
  refine List.pairwise_filterMap.mpr (hi.imp ?_)
  intro e e' hlt m hm m' hm' heq
  have hh := sealedHeader_eq_some.mpr ⟨_, (of_sealedMessage hm).2⟩
  have hh' := sealedHeader_eq_some.mpr ⟨_, (of_sealedMessage hm').2⟩
  rw [← heq] at hh'
  exact UInt64.lt_irrefl _ (hlt _ hh _ hh' rfl)

theorem opened_allowed (hm : m ∈ openedBy P sides cs role) : (sides role).allowed m.header.kind = true := by
  obtain ⟨e, he, hem⟩ := List.mem_filterMap.mp hm
  obtain ⟨h, hcr⟩ := SecureSession.mem_sideTrace he
  have hpm : e.pre.permissions = (sides role).permissions := congrArg (·.permissions) hcr
  have hal := (h.of_opened hem).1
  unfold allowed at hal ⊢
  rwa [hpm] at hal

end Pair

/-- **At-most-once authentic delivery.** Two sides of one session run under any
schedule of calls, with any headers and ciphertexts given to `openMessage`. If the
cipher is ideal on the run and the two directions have different keys, every
message a side opens (header, plaintext and ciphertext) is one the other side
sealed; no message is opened twice or sealed twice; its kind is allowed by the
permissions; and no side opens a ciphertext it sealed itself. -/
theorem opens_are_peer_seals (P : Primitives) {sessionId : U128} {permissions : SessionPermissions}
    {digest : Digest} {keys : DerivedSessionKeys} {path : SessionRole → TransportPath}
    {pair : SessionRole → U128} {relay : SessionRole → Option String} {hash : SessionRole → Digest}
    {sides : SessionRole → SecureSession}
    (hnew : ∀ role, new sessionId role permissions digest (path role) (pair role) (relay role)
      (hash role) keys = .ok (sides role))
    (hkeys : keys.trafficKey .controllerToControlled ≠ keys.trafficKey .controlledToController)
    (cs : List (SessionRole × Call)) (hideal : IdealAead P sides cs) (role : SessionRole) :
    (∀ m ∈ openedBy P sides cs role, m ∈ sealedBy P sides cs role.opposite) ∧
    (openedBy P sides cs role).Nodup ∧
    (sealedBy P sides cs role.opposite).Nodup ∧
    (∀ m ∈ openedBy P sides cs role, (sides role).allowed m.header.kind = true) ∧
    (∀ m ∈ openedBy P sides cs role, ∀ own ∈ sealedBy P sides cs role,
      m.ciphertext ≠ own.ciphertext) := by
  have hp : Paired sides keys digest :=
    ⟨fun r => (asCreated_of_new (hnew r)).2.2.1, fun r => (asCreated_of_new (hnew r)).2.2.2.2.2.1,
      fun r => (asCreated_of_new (hnew r)).2.2.2.2.1⟩
  exact ⟨fun _ hm => opened_mem_sealed hp hkeys hideal hm, openedBy_nodup role,
    sealedBy_nodup role.opposite, fun _ hm => opened_allowed hm,
    fun _ hm _ ho => opened_ne_own hp hkeys hideal hm ho⟩

/-- Both sides confirm; the controller's two messages arrive in the other order and
one of them twice, the controlled side's message arrives, and each side is also
given a message of its own. -/
def deliveryRun : List (SessionRole × Call) :=
  [(.controller, .createLocalKeyConfirm "controller" 2000),
   (.controlled, .createLocalKeyConfirm "controlled" 2100),
   (.controller, .verifyPeerKeyConfirm (Sample.confirm .controlled) "controlled" 2200),
   (.controlled, .verifyPeerKeyConfirm (Sample.confirm .controller) "controller" 2200),
   (.controller, .sealMessage .inputEvent .inputReliable 0 [1, 2, 3]),
   (.controller, .sealMessage .inputEvent .inputReliable 0 [4, 5]),
   (.controlled, .sealMessage .stats .telemetry 3 [6]),
   (.controlled, .openMessage (Sample.inputHeader 1 18) Sample.inputCiphertextNext),
   (.controlled, .openMessage (Sample.inputHeader 0 19) Sample.inputCiphertext),
   (.controlled, .openMessage (Sample.inputHeader 0 19) Sample.inputCiphertext),
   (.controller, .openMessage (Sample.inputHeader 0 19) Sample.inputCiphertext),
   (.controlled, .openMessage Sample.statsHeader Sample.statsCiphertext),
   (.controller, .openMessage Sample.statsHeader Sample.statsCiphertext)]

/-- What the sides open in that run, and its uses of the cipher. -/
theorem deliveryRun_log : (openedBy primitives sides deliveryRun .controlled).map (·.plaintext) = [[4, 5], [1, 2, 3]] ∧
    (openedBy primitives sides deliveryRun .controller).map (·.plaintext) = [[6]] ∧
    encryptionsBy primitives sides deliveryRun .controller = encryptions.take 2 ∧
    encryptionsBy primitives sides deliveryRun .controlled = encryptions.drop 2 ∧
    decryptionsBy primitives sides deliveryRun .controller = encryptions.drop 2 ∧
    decryptionsBy primitives sides deliveryRun .controlled = (encryptions.take 2).reverse := by
  decide +kernel

/-- A table of encryptions with no ciphertext twice is an ideal cipher. -/
theorem idealAead_deliveryRun : IdealAead primitives sides deliveryRun where
  correct := by
    intro key nc aad pt ct h
    obtain ⟨u, hu, rfl⟩ := Option.map_eq_some_iff.mp h
    have hm := List.mem_of_find?_eq_some hu
    have hmt := List.find?_some hu
    simp only [Bool.and_eq_true, decide_eq_true_eq] at hmt
    obtain ⟨⟨⟨rfl, rfl⟩, rfl⟩, rfl⟩ := hmt
    have ha : ∀ u ∈ encryptions, primitives.aeadDecrypt u.key u.nonce u.aad u.ciphertext = some u.plaintext := by
      decide +kernel
    exact ha u hm
  returned := by
    obtain ⟨-, -, he, he', hd, hd'⟩ := deliveryRun_log
    intro role d hm
    cases role with
    | controller => exact ⟨.controlled, d, by rwa [he', ← hd], rfl⟩
    | controlled => exact ⟨.controller, d, by rwa [he, ← List.mem_reverse, ← hd'], rfl⟩
  bound := by
    obtain ⟨-, -, he, he', hd, hd'⟩ := deliveryRun_log
    have ht : ∀ d ∈ encryptions, ∀ u ∈ encryptions,
        u.ciphertext = d.ciphertext → u.key = d.key ∧ u.nonce = d.nonce ∧ u.aad = d.aad := by
      decide +kernel
    have hen : ∀ role, ∀ u ∈ encryptionsBy primitives sides deliveryRun role, u ∈ encryptions := by
      rintro (_ | _) u hu
      · exact List.mem_of_mem_take (he ▸ hu)
      · exact List.mem_of_mem_drop (he' ▸ hu)
    have hde : ∀ role, ∀ d ∈ decryptionsBy primitives sides deliveryRun role, d ∈ encryptions := by
      rintro (_ | _) d hm
      · exact List.mem_of_mem_drop (hd ▸ hm)
      · exact List.mem_of_mem_take (List.mem_reverse.mp (hd' ▸ hm))
    exact fun role d hm sndr u hu => ht d (hde role d hm) u (hen sndr u hu)

theorem opens_are_peer_seals_deliveryRun :
    (openedBy Sample.primitives Sample.sides deliveryRun .controlled).map (·.plaintext) =
        [[4, 5], [1, 2, 3]] ∧
      (openedBy Sample.primitives Sample.sides deliveryRun .controller).map (·.plaintext) = [[6]] ∧
      ∀ m ∈ openedBy Sample.primitives Sample.sides deliveryRun .controlled,
        m ∈ sealedBy Sample.primitives Sample.sides deliveryRun .controller := by
  have hn : ∀ role, Sample.session role = .ok (Sample.sides role) := fun _ => rfl
  exact ⟨deliveryRun_log.1, deliveryRun_log.2.1, (opens_are_peer_seals Sample.primitives hn
    (by decide +kernel) deliveryRun idealAead_deliveryRun .controlled).1⟩

end SecureSession
end Rctl
