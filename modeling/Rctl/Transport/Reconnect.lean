/-
# Reconnection reuses keys only on the bound path

`remote-transport/src/reconnect.rs`: the phases of a connection. A path is selected, the
secure session over it is established, and from then on the binding of the path is active.
When the connection breaks, a new path is selected, and the machine decides whether the keys
of the session may go on: the binding must be the active one, and the last authenticated
activity must not be too old.

What is decided depends on the calls made so far, so the invariant reads them: a pending
binding is that of the last selection, and an active binding is that of the selection before
the last establishment (`EstablishedBy`).
-/
import Rctl.Lib.Run
import Rctl.Protocol.Security

namespace Rctl.Reconnect

open StateRun

inductive ConnectionPhase
  | idle
  | preparing
  | gatheringCandidates
  | exchangingCandidates
  | racing
  | establishingSecureSession
  | connected
  | degraded
  | reconnecting
  | closed
  | failed
  deriving DecidableEq, Repr

inductive ReconnectTrigger
  | heartbeatTimeout
  | transportClosed
  | sustainedHighRtt
  | sustainedHighLoss
  | networkInterfaceChanged
  deriving DecidableEq, Repr

inductive KeyReuseDecision
  | resumeExistingKeys
  | rekeyRequired
  deriving DecidableEq, Repr

structure SecurePathBinding where
  transportPath : TransportPath
  candidatePairId : U128
  relayNodeId : Option String
  permissionsDigest : Digest
  deriving DecidableEq

def SecurePathBinding.validate (b : SecurePathBinding) : Bool :=
  b.transportPath.isRelay == b.relayNodeId.isSome

structure ReconnectConfig where
  keyReuseWindowMillis : UInt64
  deriving DecidableEq

inductive ReconnectError
  | invalidState
  | invalidPathBinding
  | reconnectForbidden
  deriving DecidableEq, Repr

structure ConnectionStateMachine where
  phase : ConnectionPhase
  config : ReconnectConfig
  activeBinding : Option SecurePathBinding
  pendingBinding : Option SecurePathBinding
  lastAuthenticatedActivity : Option UInt64
  reconnectForbidden : Bool
  deriving DecidableEq

namespace ConnectionStateMachine

def new (config : ReconnectConfig) : ConnectionStateMachine :=
  ⟨.idle, config, none, none, none, false⟩

variable (m : ConnectionStateMachine)

def transition (expected next : ConnectionPhase) : Except ReconnectError Unit × ConnectionStateMachine :=
  if m.phase ≠ expected then (.error .invalidState, m) else (.ok (), { m with phase := next })

def start : Except ReconnectError Unit × ConnectionStateMachine := m.transition .idle .preparing

def permissionsPrepared : Except ReconnectError Unit × ConnectionStateMachine :=
  m.transition .preparing .gatheringCandidates

def candidatesGathered : Except ReconnectError Unit × ConnectionStateMachine :=
  m.transition .gatheringCandidates .exchangingCandidates

def candidatesExchanged : Except ReconnectError Unit × ConnectionStateMachine :=
  m.transition .exchangingCandidates .racing

def setPendingBinding (binding : SecurePathBinding) : Except ReconnectError Unit × ConnectionStateMachine :=
  if !binding.validate then (.error .invalidPathBinding, m)
  else (.ok (), { m with pendingBinding := some binding })

def initialPathSelected (binding : SecurePathBinding) :
    Except ReconnectError KeyReuseDecision × ConnectionStateMachine :=
  if m.phase ≠ .racing then (.error .invalidState, m)
  else match m.setPendingBinding binding with
    | (.error e, m) => (.error e, m)
    | (.ok _, m) => (.ok .rekeyRequired, { m with phase := .establishingSecureSession })

def secureSessionEstablished (now : UInt64) : Except ReconnectError Unit × ConnectionStateMachine :=
  if m.phase ≠ .establishingSecureSession then (.error .invalidState, m)
  else
    let m := match m.pendingBinding with
      | some binding => { m with pendingBinding := none, activeBinding := some binding }
      | none => m
    if m.activeBinding.isNone then (.error .invalidState, m)
    else (.ok (), { m with lastAuthenticatedActivity := some now, phase := .connected })

def recordAuthenticatedActivity (now : UInt64) : Except ReconnectError Unit × ConnectionStateMachine :=
  if m.phase = .connected ∨ m.phase = .degraded then
    (.ok (), { m with lastAuthenticatedActivity := some now })
  else (.error .invalidState, m)

def markDegraded : Except ReconnectError Unit × ConnectionStateMachine := m.transition .connected .degraded

def beginReconnect (_trigger : ReconnectTrigger) : Except ReconnectError Unit × ConnectionStateMachine :=
  if m.reconnectForbidden then (.error .reconnectForbidden, m)
  else if m.phase = .connected ∨ m.phase = .degraded then (.ok (), { m with phase := .reconnecting })
  else (.error .invalidState, m)

/-- The last authenticated activity is recent; a clock that went back counts as no time. -/
def withinWindow (now : UInt64) : Bool :=
  m.lastAuthenticatedActivity.any fun last => now.toNat - last.toNat ≤ m.config.keyReuseWindowMillis.toNat

def reconnectPathSelected (binding : SecurePathBinding) (now : UInt64) :
    Except ReconnectError KeyReuseDecision × ConnectionStateMachine :=
  if m.reconnectForbidden then (.error .reconnectForbidden, m)
  else if m.phase ≠ .reconnecting then (.error .invalidState, m)
  else if !binding.validate then (.error .invalidPathBinding, m)
  else
    let unchanged := m.activeBinding == some binding
    let decision := if m.withinWindow now && unchanged then KeyReuseDecision.resumeExistingKeys else .rekeyRequired
    (.ok decision, { m with pendingBinding := some binding, phase := .establishingSecureSession })

def forbidReconnectAndClose : ConnectionStateMachine :=
  { m with
    reconnectForbidden := true
    activeBinding := none
    pendingBinding := none
    lastAuthenticatedActivity := none
    phase := .closed }

def closeByLocalOrRemoteUser : ConnectionStateMachine := m.forbidReconnectAndClose

def closeForRemoteReboot : ConnectionStateMachine := m.forbidReconnectAndClose

def fail : ConnectionStateMachine := { m with pendingBinding := none, phase := .failed }

end ConnectionStateMachine

/-! ### The machine -/

inductive Call
  | start
  | permissionsPrepared
  | candidatesGathered
  | candidatesExchanged
  | initialPathSelected (binding : SecurePathBinding)
  | secureSessionEstablished (now : UInt64)
  | recordAuthenticatedActivity (now : UInt64)
  | markDegraded
  | beginReconnect (trigger : ReconnectTrigger)
  | reconnectPathSelected (binding : SecurePathBinding) (now : UInt64)
  | closeByLocalOrRemoteUser
  | closeForRemoteReboot
  | fail
  deriving DecidableEq

inductive Response
  | unit (r : Except ReconnectError Unit)
  | decision (r : Except ReconnectError KeyReuseDecision)
  | done

def Response.isError : Response → Bool
  | .unit (.error _) | .decision (.error _) => true
  | _ => false

def step (m : ConnectionStateMachine) : Call → Response × ConnectionStateMachine
  | .start => (.unit m.start.1, m.start.2)
  | .permissionsPrepared => (.unit m.permissionsPrepared.1, m.permissionsPrepared.2)
  | .candidatesGathered => (.unit m.candidatesGathered.1, m.candidatesGathered.2)
  | .candidatesExchanged => (.unit m.candidatesExchanged.1, m.candidatesExchanged.2)
  | .initialPathSelected b => (.decision (m.initialPathSelected b).1, (m.initialPathSelected b).2)
  | .secureSessionEstablished t => (.unit (m.secureSessionEstablished t).1, (m.secureSessionEstablished t).2)
  | .recordAuthenticatedActivity t =>
    (.unit (m.recordAuthenticatedActivity t).1, (m.recordAuthenticatedActivity t).2)
  | .markDegraded => (.unit m.markDegraded.1, m.markDegraded.2)
  | .beginReconnect trigger => (.unit (m.beginReconnect trigger).1, (m.beginReconnect trigger).2)
  | .reconnectPathSelected b t => (.decision (m.reconnectPathSelected b t).1, (m.reconnectPathSelected b t).2)
  | .closeByLocalOrRemoteUser => (.done, m.closeByLocalOrRemoteUser)
  | .closeForRemoteReboot => (.done, m.closeForRemoteReboot)
  | .fail => (.done, m.fail)

abbrev ReconnectEntry := Entry ConnectionStateMachine Call Response

def Call.closes : Call → Bool
  | .closeByLocalOrRemoteUser | .closeForRemoteReboot => true
  | _ => false

def Call.moves : Call → Bool
  | .start | .permissionsPrepared | .candidatesGathered | .candidatesExchanged | .markDegraded
  | .beginReconnect _ => true
  | _ => false

/-! ### What one call can do -/

namespace ConnectionPhase

/-- The connection is up, or was until it broke. -/
def bound : ConnectionPhase → Bool
  | connected | degraded | reconnecting => true
  | _ => false

/-- The moves that touch nothing but the phase. -/
def moves : List (ConnectionPhase × ConnectionPhase) :=
  [(idle, preparing), (preparing, gatheringCandidates), (gatheringCandidates, exchangingCandidates),
    (exchangingCandidates, racing), (connected, degraded), (connected, reconnecting), (degraded, reconnecting)]

/-- They leave neither end state, and lead neither into a connection nor to its threshold. -/
theorem moves_spec : ∀ move ∈ moves, move.1 ≠ closed ∧ move.1 ≠ failed ∧ move.2 ≠ establishingSecureSession ∧
    move.2 ≠ connected ∧ (move.2.bound = true → move.1.bound = true) := by
  decide

end ConnectionPhase

inductive Moved (m : ConnectionStateMachine) : Call → Response → ConnectionStateMachine → Prop
  | refused (call : Call) (r : Response) (herror : r.isError = true) : Moved m call r m
  | moved (call : Call) (next : ConnectionPhase) (hcall : call.moves = true)
    (hmove : (m.phase, next) ∈ ConnectionPhase.moves) :
    Moved m call (.unit (.ok ())) { m with phase := next }
  | initial (b : SecurePathBinding) (hphase : m.phase = .racing) (hvalid : b.validate = true) :
    Moved m (.initialPathSelected b) (.decision (.ok .rekeyRequired))
      { m with pendingBinding := some b, phase := .establishingSecureSession }
  | established (b : SecurePathBinding) (now : UInt64) (hphase : m.phase = .establishingSecureSession)
    (hb : m.pendingBinding.or m.activeBinding = some b) :
    Moved m (.secureSessionEstablished now) (.unit (.ok ()))
      { m with pendingBinding := none, activeBinding := some b, lastAuthenticatedActivity := some now,
               phase := .connected }
  | activity (now : UInt64) (hphase : m.phase.bound = true) :
    Moved m (.recordAuthenticatedActivity now) (.unit (.ok ())) { m with lastAuthenticatedActivity := some now }
  | reselected (b : SecurePathBinding) (now : UInt64) (decision : KeyReuseDecision)
    (hphase : m.phase = .reconnecting) (hvalid : b.validate = true)
    (hresume : decision = .resumeExistingKeys → m.withinWindow now = true ∧ m.activeBinding = some b) :
    Moved m (.reconnectPathSelected b now) (.decision (.ok decision))
      { m with pendingBinding := some b, phase := .establishingSecureSession }
  | closed (call : Call) (hcall : call.closes = true) : Moved m call .done m.forbidReconnectAndClose
  | failed : Moved m .fail .done m.fail

open ConnectionStateMachine

open ConnectionPhase

variable {call : Call}

section Moves

variable (m : ConnectionStateMachine)

theorem transition_moved {expected next : ConnectionPhase} (hc : call.moves = true)
    (hm : (expected, next) ∈ moves) :
    Moved m call (.unit (m.transition expected next).1) (m.transition expected next).2 := by
  unfold transition
  split_ifs with hph
  · exact .refused call _ rfl
  · have hph : m.phase = expected := not_not.mp hph
    exact .moved call next hc (hph ▸ hm)

theorem initialPathSelected_moved (b : SecurePathBinding) :
    Moved m (.initialPathSelected b) (.decision (m.initialPathSelected b).1) (m.initialPathSelected b).2 := by
  unfold initialPathSelected setPendingBinding
  split
  · exact .refused _ _ rfl
  · rename_i hph
    cases hv : b.validate with
    | false => exact .refused _ _ rfl
    | true => exact .initial b (not_not.mp hph) hv

theorem secureSessionEstablished_moved (now : UInt64) :
    Moved m (.secureSessionEstablished now) (.unit (m.secureSessionEstablished now).1)
      (m.secureSessionEstablished now).2 := by
  unfold secureSessionEstablished
  split_ifs with hph
  · exact .refused _ _ rfl
  · have hph : m.phase = .establishingSecureSession := not_not.mp hph
    cases hp : m.pendingBinding with
    | some b => exact .established b now hph (by rw [hp, Option.some_or])
    | none =>
      cases ha : m.activeBinding with
      | none =>
        simp only [ha]
        exact .refused _ _ rfl
      | some b =>
        have hmv := Moved.established b now hph (by rw [hp, ha, Option.none_or])
        simp only [ha]
        rw [← hp] at hmv
        exact hmv

theorem beginReconnect_moved (trigger : ReconnectTrigger) :
    Moved m (.beginReconnect trigger) (.unit (m.beginReconnect trigger).1) (m.beginReconnect trigger).2 := by
  unfold beginReconnect
  split
  · exact .refused _ _ rfl
  · split_ifs with hph
    · refine .moved _ .reconnecting rfl ?_
      rcases hph with hph | hph <;> rw [hph] <;> decide
    · exact .refused _ _ rfl

theorem recordAuthenticatedActivity_moved (now : UInt64) :
    Moved m (.recordAuthenticatedActivity now) (.unit (m.recordAuthenticatedActivity now).1)
      (m.recordAuthenticatedActivity now).2 := by
  unfold recordAuthenticatedActivity
  split_ifs with hph
  · refine .activity now ?_
    rcases hph with hph | hph <;> rw [hph] <;> rfl
  · exact .refused _ _ rfl

theorem reconnectPathSelected_moved (b : SecurePathBinding) (now : UInt64) :
    Moved m (.reconnectPathSelected b now) (.decision (m.reconnectPathSelected b now).1)
      (m.reconnectPathSelected b now).2 := by
  unfold reconnectPathSelected
  split
  · exact .refused _ _ rfl
  · split
    · exact .refused _ _ rfl
    · rename_i hph
      cases hv : b.validate with
      | false => exact .refused _ _ rfl
      | true =>
        refine .reselected b now _ (not_not.mp hph) hv fun hr => ?_
        split at hr
        · rename_i hb
          rw [Bool.and_eq_true, beq_iff_eq] at hb
          exact hb
        · cases hr

theorem step_moved (call : Call) : Moved m call (step m call).1 (step m call).2 := by
  cases call with
  | start | permissionsPrepared | candidatesGathered | candidatesExchanged | markDegraded =>
    exact transition_moved m rfl (by decide)
  | initialPathSelected b => exact initialPathSelected_moved m b
  | secureSessionEstablished now => exact secureSessionEstablished_moved m now
  | recordAuthenticatedActivity now => exact recordAuthenticatedActivity_moved m now
  | beginReconnect trigger => exact beginReconnect_moved m trigger
  | reconnectPathSelected b now => exact reconnectPathSelected_moved m b now
  | closeByLocalOrRemoteUser | closeForRemoteReboot => exact .closed _ rfl
  | fail => exact .failed

end Moves

/-! ### What the calls so far say -/

def selected (e : ReconnectEntry) : Option SecurePathBinding :=
  match e.call, e.out with
  | .initialPathSelected b, .decision (.ok _) => some b
  | .reconnectPathSelected b _, .decision (.ok _) => some b
  | _, _ => none

def established (e : ReconnectEntry) : Option UInt64 :=
  match e.call, e.out with
  | .secureSessionEstablished t, .unit (.ok _) => some t
  | _, _ => none

def activity (e : ReconnectEntry) : Option UInt64 :=
  match e.call, e.out with
  | .recordAuthenticatedActivity t, .unit (.ok _) => some t
  | _, _ => none

/-- The last establishment was at `t`, and `b` was given to the path selection before it. -/
def EstablishedBy (log : List ReconnectEntry) (b : SecurePathBinding) (t : UInt64) : Prop :=
  ∃ before e after, log = before ++ e :: after ∧ latest selected before = some b ∧
    established e = some t ∧ ∀ e' ∈ after, established e' = none

/-- The later of an establishment at `t` and the last activity that was recorded. -/
def lastSeen (log : List ReconnectEntry) (t : UInt64) : ℕ :=
  max t.toNat ((latest activity log).getD t).toNat

/-- A call that neither selects a path nor establishes a session nor records activity. -/
def Quiet (e : ReconnectEntry) : Prop := selected e = none ∧ established e = none ∧ activity e = none

variable {e : ReconnectEntry}

theorem quiet_of_error (h : e.out.isError = true) : Quiet e := by
  obtain ⟨pre, call, out, post⟩ := e
  cases out with
  | done => cases h
  | unit r | decision r =>
    cases r with
    | ok => cases h
    | error => cases call <;> exact ⟨rfl, rfl, rfl⟩

theorem quiet_of_moves (h : e.call.moves = true) : Quiet e := by
  obtain ⟨pre, call, out, post⟩ := e
  cases call <;> first | exact ⟨rfl, rfl, rfl⟩ | cases h

variable {log : List ReconnectEntry} {b : SecurePathBinding}

section History

variable {t : UInt64}

theorem EstablishedBy.snoc (h : EstablishedBy log b t) (he : established e = none) :
    EstablishedBy (log ++ [e]) b t := by
  obtain ⟨before, est, after, rfl, hs, hes, haf⟩ := h
  refine ⟨before, est, after ++ [e], by simp, hs, hes, fun e' he' => ?_⟩
  rcases List.mem_append.mp he' with he' | he'
  · exact haf e' he'
  · rw [List.mem_singleton.mp he', he]

theorem lastSeen_snoc (he : activity e = none) : lastSeen (log ++ [e]) t = lastSeen log t := by
  rw [lastSeen, lastSeen, latest_snoc, he, Option.none_or]

end History

/-! ### The invariant -/

/-- A machine that is up runs on the binding that its calls have selected and established, and
the activity it remembers is no later than what they have recorded. -/
structure Inv (config : ReconnectConfig) (log : List ReconnectEntry) (m : ConnectionStateMachine) : Prop where
  config : m.config = config
  pending : m.phase = .establishingSecureSession →
    ∃ b, m.pendingBinding = some b ∧ b.validate = true ∧ latest selected log = some b
  active : m.phase.bound = true →
    ∃ b t last, m.activeBinding = some b ∧ b.validate = true ∧ EstablishedBy log b t ∧
      m.lastAuthenticatedActivity = some last ∧ last.toNat ≤ lastSeen log t

variable {config : ReconnectConfig} {m m' : ConnectionStateMachine}

/-- Where nothing is pending or up, nothing is claimed. -/
theorem Inv.down (phase : ConnectionPhase) (hc : m.config = config) (hph : m.phase = phase)
    (hdown : phase ≠ .establishingSecureSession ∧ phase.bound = false) : Inv config log m := by
  subst hph
  refine ⟨hc, fun hph => absurd hph hdown.1, fun hph => ?_⟩
  rw [hdown.2] at hph
  cases hph

/-- The phase moves within what the invariant already says. -/
theorem Inv.moved (h : Inv config log m) (he : Quiet e) {next : ConnectionPhase}
    (hp : next = .establishingSecureSession → m.phase = .establishingSecureSession)
    (hbound : next.bound = true → m.phase.bound = true) : Inv config (log ++ [e]) { m with phase := next } := by
  refine ⟨h.config, fun hph => ?_, fun hph => ?_⟩
  · obtain ⟨b, hb, hv, hs⟩ := h.pending (hp hph)
    refine ⟨b, hb, hv, ?_⟩
    rw [latest_snoc, he.1, Option.none_or, hs]
  · obtain ⟨b, t, last, hb, hv, hes, hla, hle⟩ := h.active (hbound hph)
    refine ⟨b, t, last, hb, hv, hes.snoc he.2.1, hla, ?_⟩
    rw [lastSeen_snoc he.2.2]
    exact hle

theorem Inv.select (h : Inv config log m) (hv : b.validate = true) (he : selected e = some b) :
    Inv config (log ++ [e]) { m with pendingBinding := some b, phase := .establishingSecureSession } := by
  refine ⟨h.config, fun _ => ⟨b, rfl, hv, ?_⟩, nofun⟩
  rw [latest_snoc, he, Option.some_or]

theorem inv_step (h : Inv config log m) (call : Call) : Inv config (log ++ [entry step m call]) (step m call).2 := by
  have hmv := step_moved m call
  have ho : (entry step m call).out = (step m call).1 := rfl
  have hcl : (entry step m call).call = call := rfl
  generalize entry step m call = e at ho hcl
  rcases hst : step m call with ⟨r, m'⟩
  rw [hst] at hmv ho
  cases hmv with
  | refused _ _ herr =>
    have hqt : Quiet e := quiet_of_error (ho ▸ herr)
    exact h.moved hqt id id
  | moved _ next hm hmo =>
    have hqt : Quiet e := quiet_of_moves (hcl ▸ hm)
    obtain ⟨-, -, hp, -, hbound⟩ := moves_spec _ hmo
    exact h.moved hqt (fun hnx => absurd hnx hp) hbound
  | initial _ _ hv | reselected _ _ _ _ hv =>
    refine h.select hv ?_
    rw [selected, hcl, ho]
  | established b now hph hb =>
    obtain ⟨pending, hp, hv, hs⟩ := h.pending hph
    have hpb : pending = b := by
      rw [hp] at hb
      exact Option.some.inj hb
    subst hpb
    have he : established e = some now := by rw [established, hcl, ho]
    refine ⟨h.config, fun hph => noConfusion hph, fun _ => ?_⟩
    refine ⟨pending, now, now, rfl, hv, ⟨log, e, [], rfl, hs, he, by simp⟩, rfl, ?_⟩
    exact Nat.le_max_left _ _
  | activity now hph =>
    obtain ⟨b, t, last, hb, hv, he, -, -⟩ := h.active hph
    have hqt : established e = none := by rw [established, hcl]
    have hai : activity e = some now := by rw [activity, hcl, ho]
    refine ⟨h.config, fun he => ?_, fun _ => ⟨b, t, now, hb, hv, he.snoc hqt, rfl, ?_⟩⟩
    · rw [he] at hph
      cases hph
    · rw [lastSeen, latest_snoc, hai]
      exact Nat.le_max_right _ _
  | closed => exact .down .closed h.config rfl (by decide)
  | failed => exact .down .failed h.config rfl (by decide)

theorem inv_run (config : ReconnectConfig) (cs : List Call) :
    Inv config (trace step (.new config) cs) (final step (.new config) cs) :=
  history_inv step (I := Inv config) (fun _ _ call h => inv_step h call) cs [] _
    (.down .idle rfl rfl (by decide))

/-! ### Closed for good -/

/-- The machine is closed, or failed after that. -/
def Shut (m : ConnectionStateMachine) : Prop :=
  (m.phase = .closed ∨ m.phase = .failed) ∧ m.activeBinding = none

section Shut

variable {r : Response}

theorem shut_of_closes (h : call.closes = true) : Shut (step m call).2 := by
  have hcl : (step m call).2 = m.forbidReconnectAndClose := by
    cases call with
    | closeByLocalOrRemoteUser | closeForRemoteReboot => rfl
    | _ => cases h
  rw [hcl]
  exact ⟨.inl rfl, rfl⟩

theorem Shut.step (hshut : Shut m) (h : Moved m call r m') : Shut m' ∧ ∀ decision, r ≠ .decision (.ok decision) := by
  have hph : m.phase = .closed ∨ m.phase = .failed := hshut.1
  have hno : ∀ phase, m.phase = phase → phase = .closed ∨ phase = .failed := by
    intro phase hp
    rw [← hp]
    exact hph
  cases h with
  | refused _ _ he =>
    refine ⟨hshut, fun decision hr => ?_⟩
    rw [hr] at he
    cases he
  | moved _ _ _ hmo =>
    obtain ⟨hcl, hf, -⟩ := moves_spec _ hmo
    rcases hph with hph | hph
    · exact absurd hph hcl
    · exact absurd hph hf
  | initial _ hracing => exact absurd (hno _ hracing) (by decide)
  | established _ _ hes => exact absurd (hno _ hes) (by decide)
  | activity _ hb =>
    rcases hph with hph | hph <;> rw [hph] at hb <;> cases hb
  | reselected _ _ _ hre => exact absurd (hno _ hre) (by decide)
  | closed => exact ⟨⟨.inl rfl, rfl⟩, fun _ hr => by cases hr⟩
  | failed => exact ⟨⟨.inr rfl, hshut.2⟩, fun _ hr => by cases hr⟩

end Shut

/-! ### Key reuse -/

structure KeyReuseSafe (config : ReconnectConfig) (log : List ReconnectEntry) : Prop where
  /-- A connection that is up, or is being reconnected, is bound to the path that was selected
  before its last establishment. -/
  bound : ∀ before e after, log = before ++ e :: after → e.post.phase.bound = true →
    ∃ b t, e.post.activeBinding = some b ∧ b.transportPath.isRelay = b.relayNodeId.isSome ∧
      EstablishedBy (before ++ [e]) b t
  resumed : ∀ before e after, log = before ++ e :: after → e.out = .decision (.ok .resumeExistingKeys) →
    ∃ b now t, e.call = .reconnectPathSelected b now ∧ e.pre.activeBinding = some b ∧
      EstablishedBy before b t ∧ now.toNat ≤ lastSeen before t + config.keyReuseWindowMillis.toNat
  connected : ∀ before e after, log = before ++ e :: after → e.pre.phase ≠ .connected →
    e.post.phase = .connected → ∃ b t, established e = some t ∧ latest selected before = some b
  closed : ∀ before c after, log = before ++ c :: after → c.call.closes = true → ∀ e ∈ after,
    (∀ decision, e.out ≠ .decision (.ok decision)) ∧ e.post.phase ≠ .connected ∧ e.post.activeBinding = none
  refused : ∀ e ∈ log, e.out.isError = true → e.post = e.pre

section Results

variable {r : Response}

theorem Moved.unchanged_of_error (h : Moved m call r m') (he : r.isError = true) : m' = m := by
  cases h with
  | refused => rfl
  | _ => cases he

theorem Moved.resumed (h : Moved m call r m') (hr : r = .decision (.ok .resumeExistingKeys)) :
    ∃ b now, call = .reconnectPathSelected b now ∧ m.phase = .reconnecting ∧ m.withinWindow now = true ∧
      m.activeBinding = some b := by
  cases h with
  | refused _ _ he =>
    rw [hr] at he
    cases he
  | reselected b now _ hph _ hresume =>
    cases hr
    obtain ⟨hw, ha⟩ := hresume rfl
    exact ⟨b, now, rfl, hph, hw, ha⟩
  | _ => cases hr

theorem Moved.connected (h : Moved m call r m') (hpre : m.phase ≠ .connected) (hp : m'.phase = .connected) :
    m.phase = .establishingSecureSession ∧ ∃ now, call = .secureSessionEstablished now ∧ r = .unit (.ok ()) := by
  cases h with
  | established _ now hph => exact ⟨hph, now, rfl, rfl⟩
  | moved _ _ _ hm =>
    obtain ⟨-, -, -, hcd, -⟩ := moves_spec _ hm
    exact absurd hp hcd
  | refused | activity => exact absurd hp hpre
  | _ => cases hp

theorem Inv.within (h : Inv config log m) {now : UInt64} (hph : m.phase = .reconnecting)
    (hw : m.withinWindow now = true) : ∃ b t, m.activeBinding = some b ∧ EstablishedBy log b t ∧
      now.toNat ≤ lastSeen log t + config.keyReuseWindowMillis.toNat := by
  obtain ⟨b, t, last, hb, -, he, hl, hle⟩ := h.active (by rw [hph]; rfl)
  rw [withinWindow, hl, Option.any_some, decide_eq_true_eq, h.config] at hw
  refine ⟨b, t, hb, he, ?_⟩
  omega

end Results

/-- **Reconnection reuses keys only on the bound path**, whatever calls are made and however
they come out. -/
theorem key_reuse_safe (config : ReconnectConfig) (calls : List Call) :
    KeyReuseSafe config (trace step (.new config) calls) := by
  -- every call is made in a state that the calls before it lead to
  have hat : ∀ before e after, trace step (.new config) calls = before ++ e :: after →
      Inv config before e.pre ∧ Inv config (before ++ [e]) e.post ∧ Moved e.pre e.call e.out e.post := by
    intro before e after hl
    obtain ⟨cs₁, call, cs₂, -, rfl, rfl⟩ := trace_eq_append_cons step hl
    have hp := inv_run config cs₁
    exact ⟨hp, inv_step hp call, step_moved _ _⟩
  constructor
  · intro before e after hl hbo
    obtain ⟨b, t, last, hb, hv, hes, -, -⟩ := (hat before e after hl).2.1.active hbo
    exact ⟨b, t, hb, beq_iff_eq.mp hv, hes⟩
  · intro before e after hl ho
    obtain ⟨hp, -, hmv⟩ := hat before e after hl
    obtain ⟨b, now, hcl, hph, hw, hac⟩ := hmv.resumed ho
    obtain ⟨b', t, hb', hes, hle⟩ := hp.within hph hw
    obtain rfl : b' = b := Option.some.inj (hb'.symm.trans hac)
    exact ⟨b', now, t, hcl, hac, hes, hle⟩
  · intro before e after hl hp hpo
    obtain ⟨hI, -, hmv⟩ := hat before e after hl
    obtain ⟨hph, now, hcl, ho⟩ := hmv.connected hp hpo
    obtain ⟨b, -, -, hs⟩ := hI.pending hph
    refine ⟨b, now, ?_, hs⟩
    rw [established, hcl, ho]
  · intro before c after hl hc e he
    obtain ⟨cs₁, call, cs₂, rfl, rfl, rfl⟩ := trace_eq_append_cons step hl
    rw [trace_append, List.append_cancel_left_eq, trace_cons, List.cons.injEq] at hl
    obtain rfl := hl.2
    have hshut : Shut (step (final step (.new config) cs₁) call).2 := shut_of_closes hc
    have ha := forall_trace step (P := fun e => (∀ decision, e.out ≠ .decision (.ok decision)) ∧ Shut e.post)
      (fun m call h => (h.step (step_moved m call)).1)
      (fun m call h => ((h.step (step_moved m call)).symm)) hshut e he
    refine ⟨ha.1, fun hcd => ?_, ha.2.2⟩
    rcases ha.2.1 with hph | hph <;> rw [hph] at hcd <;> cases hcd
  · intro e he herr
    obtain ⟨before, after, hl⟩ := List.append_of_mem he
    exact (hat before e after hl).2.2.unchanged_of_error herr

end Rctl.Reconnect
