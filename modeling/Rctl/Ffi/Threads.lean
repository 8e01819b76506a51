/-
# Calls on a handle from several threads

Each call on a handle is a task: it finds the session in the table of handles, works under the
session's lock, and makes its callbacks under leases of the handle's gate. The command of a
transport is made under the lock; a call makes at most one. Destroying a handle removes it from
the table, closes the gate, waits until no lease is out and then closes the session.

A step is one task going on to the next point where others can come in between. A callback begins
in one step and ends in another.
-/
import Rctl.Core.Drive
import Rctl.Ffi.Steps
import Rctl.Lib.Gate

namespace Rctl.Ffi

open ByteString Controller StateRun Tasks Gates Walks ControllerSession

structure Pending where
  emits : Bool
  callbacks : List Callback
  result : Except Code Unit
  refused : Except Code Unit

inductive Stage
  /-- The session was found; the call waits for its lock. -/
  | called (op : Op)
  /-- Under the lock and with a lease; `running` says whether a callback runs. -/
  | commanding (left : List Callback) (running : Bool) (pending : Pending)
  /-- Under the lock. -/
  | holding (pending : Pending)
  | released (pending : Pending)
  /-- With a lease. -/
  | emitting (left : List Callback) (running : Bool) (result : Except Code Unit)
  /-- The handle was removed; the session's lock is needed to get at the gate. -/
  | removed
  | found
  /-- The gate is closing, and leases may be out. -/
  | waiting
  | drained

namespace Stage

def leased : Stage → Bool
  | commanding _ _ _ | emitting _ _ _ => true
  | _ => false

def running : Stage → Bool
  | commanding _ running _ | emitting _ running _ => running
  | _ => false

end Stage

/-- A handle with its running calls. The session keeps no record of its callbacks here: they are
in `delivered`, in the order in which they began. -/
structure Threads (P : Primitives) where
  session : FfiSession P
  locked : Bool
  known : Bool
  active : ℕ
  delivered : List Callback
  stages : List Stage

variable {P : Primitives} {s s' : FfiSession P}

def Threads.create (P : Primitives) (sessionId : U128) : Threads P := ⟨.create P sessionId, false, true, 0, [], []⟩

def Threads.gate (t : Threads P) : Gate := ⟨t.session.transport.closing, t.active⟩

def FfiSession.undelivered (s : FfiSession P) : FfiSession P :=
  { s with transport := { s.transport with delivered := [] } }

def FfiSession.closing (s : FfiSession P) : FfiSession P :=
  { s with transport := { s.transport with closing := true } }

/-- A task after a step: what is shared, its next stage, and what the call returned. -/
structure Resumed (P : Primitives) where
  threads : Threads P
  next : Option Stage
  out : Option (Except Code Unit)

section Machine

variable (J : Json) (t : Threads P)

omit J t in
def Entered.pending (entered : Entered P) : Pending :=
  ⟨entered.emits, entered.callbacks, entered.result, entered.refused⟩

/-- The next step of a call, unless it has to wait. -/
def resume : Stage → Option (Resumed P)
  | .called op =>
    if t.locked then none
    else
      let entered := enter J t.session op
      let commands := entered.session.transport.delivered
      let t := { t with session := entered.session.undelivered, locked := true }
      if commands = [] then some ⟨t, some (.holding entered.pending), none⟩
      else some ⟨{ t with active := t.active + 1 }, some (.commanding commands false entered.pending), none⟩
  | .commanding left true pending => some ⟨t, some (.commanding left false pending), none⟩
  | .commanding (c :: left) false pending =>
    some ⟨{ t with delivered := t.delivered ++ [c] }, some (.commanding left true pending), none⟩
  | .commanding [] false pending => some ⟨{ t with active := t.active - 1 }, some (.holding pending), none⟩
  | .holding pending => some ⟨{ t with locked := false }, some (.released pending), none⟩
  | .released pending =>
    if !pending.emits then some ⟨t, none, some pending.result⟩
    else if t.session.transport.closing then some ⟨t, none, some pending.refused⟩
    else some ⟨{ t with active := t.active + 1 }, some (.emitting pending.callbacks false pending.result), none⟩
  | .emitting left true result => some ⟨t, some (.emitting left false result), none⟩
  | .emitting (c :: left) false result =>
    some ⟨{ t with delivered := t.delivered ++ [c] }, some (.emitting left true result), none⟩
  | .emitting [] false result => some ⟨{ t with active := t.active - 1 }, none, some result⟩
  | .removed => if t.locked then none else some ⟨t, some .found, none⟩
  | .found => some ⟨{ t with session := t.session.closing }, some .waiting, none⟩
  | .waiting => if t.active ≠ 0 then none else some ⟨t, some .drained, none⟩
  | .drained =>
    if t.locked then none
    else
      let entered := enter J t.session .destroy
      some ⟨{ t with session := entered.session }, none, some entered.result⟩

def beginCall (call : FfiCall) : Option (Except Code Unit) × Threads P :=
  match readCall J call with
  | .error e => (some (.error e), t)
  | .ok op =>
    if !t.known then (some (.error .invalidHandle), t)
    else if op.destroys then (none, { t with known := false, stages := t.stages ++ [.removed] })
    else (none, { t with stages := t.stages ++ [.called op] })

inductive Input
  | call (call : FfiCall)
  | resume (index : ℕ)

def threadStep : Input → Option (Except Code Unit) × Threads P
  | .call call => beginCall J t call
  | .resume index => match t.stages[index]? with
    | none => (none, t)
    | some stage => match resume J t stage with
      | none => (none, t)
      | some r => (r.out, { r.threads with stages := replaceTask t.stages index r.next })

end Machine

/-! ### What a call does, whether the gate is open or not -/

def Callback.change : Callback → Option ControllerSessionState
  | .event e => e.change
  | _ => none

def told (callbacks : List Callback) : List ControllerSessionState := callbacks.filterMap Callback.change

theorem told_append (l l' : List Callback) : told (l ++ l') = told l ++ told l' := List.filterMap_append

theorem told_events (events : List ControllerSessionEvent) : told (events.map .event) = changes events :=
  List.filterMap_map

/-- A transport after some commands, which report no change and are refused by a closed gate. -/
structure Behind (t t' : CallbackTransport P) : Prop where
  closing : t'.closing = t.closing
  told : told t'.delivered = told t.delivered
  refused : t.closing = true → t'.delivered = t.delivered

theorem Behind.refl (t : CallbackTransport P) : Behind t t := ⟨rfl, rfl, fun _ => rfl⟩

theorem Behind.trans {t t' t'' : CallbackTransport P} (h : Behind t t') (h' : Behind t' t'') : Behind t t'' :=
  ⟨h'.closing.trans h.closing, h'.told.trans h.told, fun hc => (h'.refused (h.closing.trans hc)).trans (h.refused hc)⟩

theorem emitCommand_behind (t : CallbackTransport P) (kind : Command) (ep : UInt64) (delivery : Option InputDelivery)
    (payload : Bytes) : Behind t (t.emitCommand kind ep delivery payload).2 := by
  unfold CallbackTransport.emitCommand CallbackTransport.deliver
  split_ifs with ho
  · exact .refl t
  · exact ⟨rfl, (told_append _ _).trans (List.append_nil _), fun hc => absurd hc ho⟩

/-- The state of the key exchange is not looked at. -/
theorem Behind.of_security {t t' : CallbackTransport P} {security : SessionSecurity}
    (h : Behind { t with security } t') : Behind t t' := ⟨h.closing, h.told, h.refused⟩

theorem act_behind (ha : Act s s') : Behind s.transport s'.transport := by
  cases ha with
  | recoverable | fatal => exact .refl _
  | started state =>
    have htp : (s.attempt state).transport = s.transport := transitionTo_transport _ _
    rw [htp]
    exact (emitCommand_behind { s.transport with security := .default } _ _ _ _).of_security
  | closed ho =>
    rw [close, if_neg (by rw [ho]; decide), transitionTo_transport]
    exact emitCommand_behind s.transport _ _ _ _

theorem acts_behind (ha : Acts s s') : Behind s.transport s'.transport := by
  induction ha with
  | refl => exact .refl _
  | tail _ hac ih => exact ih.trans (act_behind hac)

theorem sendInput_behind (t : CallbackTransport P) (payload : Bytes) (delivery : InputDelivery) :
    Behind t (t.sendInput payload delivery).2 := by
  unfold CallbackTransport.sendInput
  split
  · rename_i security _
    exact .of_security (.refl { t with security })
  · rename_i security _
    exact (emitCommand_behind { t with security } _ _ _ _).of_security

variable {toVec : InputEvent → Option Bytes} {call : Call}

theorem moved_behind (hmv : Moved toVec s call s') : Behind s.transport s'.transport := by
  cases hmv with
  | acts _ ha => exact acts_behind ha
  | streamed =>
    rw [transitionTo_transport]
    exact .refl _
  | queued | polled => exact .refl _
  | sent _ payload delivery => exact sendInput_behind s.transport payload delivery

/-- A call tells of every change of the state, and leaves no event to wait. -/
structure Announced (s : FfiSession P) (entered : Entered P) : Prop where
  behind : Behind s.transport entered.session.transport
  events : entered.session.events = []
  states : entered.session.states = s.states ++ told entered.callbacks
  walk : Walk s.state entered.session.state (told entered.callbacks)
  silent : entered.emits = false → entered.callbacks = []

section Announced

variable {J : Json} {s : FfiSession P} (hev : s.events = [])
  {r : Except ControllerSessionError Unit × FfiSession P}

include hev

/-- What waits after a call of the controller is what the call queued. -/
theorem runSession_announced (hmv : Moved toVec s call r.2) (hc : call ≠ .pollEvent) :
    Announced s (runSession r) := by
  obtain ⟨new, ⟨hn, hs, hw⟩, -⟩ := moved_events _ hmv hc
  have hb : Behind s.transport r.2.transport := moved_behind hmv
  have htold : told (runSession r).callbacks = changes new := by
    rw [hev] at hn
    exact (told_events _).trans (congrArg changes hn)
  refine ⟨hb, rfl, ?_, ?_, fun h => ?_⟩
  · rw [htold]
    exact hs
  · rw [htold]
    exact hw
  · cases h

theorem acts_announced (ha : Acts s r.2) : Announced s (runSession r) := by
  have hc : Call.close ≠ .pollEvent := by simp
  have hmv : Moved (fun _ => none) s .close r.2 := .acts hc ha
  exact runSession_announced hev hmv hc

theorem handled_announced (security : SessionSecurity) (ep : UInt64) (ev : ControllerTransportEvent) :
    Announced s (runSession ((s.setSecurity security).handleTransportEvent ep ev)) := by
  have hmv := handleTransportEvent_moved (fun _ => none) (s.setSecurity security) ep ev
  have hev' : (s.setSecurity security).events = [] := hev
  have h := runSession_announced hev' hmv (by simp)
  exact ⟨⟨h.behind.closing, h.behind.told, h.behind.refused⟩, h.events, h.states, h.walk, h.silent⟩

theorem enter_announced {op : Op} (hl : op.destroys = false) : Announced s (enter J s op) := by
  have he := enter_ends (J := J) (s := s) hl
  generalize enter J s op = entered at he ⊢
  cases he with
  | failed => exact ⟨⟨rfl, rfl, fun _ => rfl⟩, hev, (List.append_nil _).symm, .nil _, fun _ => rfl⟩
  | commanded => exact ⟨⟨rfl, rfl, fun _ => rfl⟩, hev, (List.append_nil _).symm, .nil _, nofun⟩
  | acted _ ha => exact acts_announced hev ha
  | handled => exact handled_announced hev _ _ _
  | @input input clock =>
    have h := runSession_announced (s := s.atTime clock) hev
      (sendInput_moved (fun e => some (J.ofInputEvent e)) (s.atTime clock) input) (by simp)
    exact ⟨⟨h.behind.closing, h.behind.told, h.behind.refused⟩, h.events, h.states, h.walk, h.silent⟩
  | framed _ accessUnit =>
    rw [hev]
    cases accessUnit with
    | none | some => exact ⟨⟨rfl, rfl, fun _ => rfl⟩, rfl, (List.append_nil _).symm, .nil _, nofun⟩

end Announced

/-! ### The tasks and the gate -/

structure ThreadsInv (t : Threads P) : Prop where
  events : t.session.events = []
  delivered : t.session.transport.delivered = []
  called : ∀ op, .called op ∈ t.stages → op.destroys = false

section Moves

variable {J : Json} {t : Threads P} {index : ℕ} {stage : Stage} {r : Resumed P}

theorem destroy_closing (J : Json) (s : FfiSession P) : (enter J s .destroy).session.transport.closing = true :=
  (acts_behind (close_acts s.closing)).closing

inductive Advance (J : Json) (t : Threads P) : Stage → Resumed P → Prop
  | entered {op : Op} (hfree : t.locked = false) (hnone : (enter J t.session op).session.transport.delivered = []) :
      Advance J t (.called op)
        ⟨{ t with session := (enter J t.session op).session.undelivered, locked := true },
          some (.holding (enter J t.session op).pending), none⟩
  | commanded {op : Op} (hfree : t.locked = false)
      (hsome : (enter J t.session op).session.transport.delivered ≠ []) :
      Advance J t (.called op)
        ⟨{ t with session := (enter J t.session op).session.undelivered, locked := true, active := t.active + 1 },
          some (.commanding (enter J t.session op).session.transport.delivered false
            (enter J t.session op).pending), none⟩
  | commandBegan {c : Callback} {left : List Callback} {pending : Pending} :
      Advance J t (.commanding (c :: left) false pending)
        ⟨{ t with delivered := t.delivered ++ [c] }, some (.commanding left true pending), none⟩
  | commandEnded {left : List Callback} {pending : Pending} :
      Advance J t (.commanding left true pending) ⟨t, some (.commanding left false pending), none⟩
  | commandLeft {pending : Pending} :
      Advance J t (.commanding [] false pending) ⟨{ t with active := t.active - 1 }, some (.holding pending), none⟩
  | unlocked {pending : Pending} :
      Advance J t (.holding pending) ⟨{ t with locked := false }, some (.released pending), none⟩
  | silent {pending : Pending} (hsilent : pending.emits = false) :
      Advance J t (.released pending) ⟨t, none, some pending.result⟩
  | refused {pending : Pending} (hclosing : t.session.transport.closing = true) :
      Advance J t (.released pending) ⟨t, none, some pending.refused⟩
  | granted {pending : Pending} (hopen : t.session.transport.closing = false) :
      Advance J t (.released pending)
        ⟨{ t with active := t.active + 1 }, some (.emitting pending.callbacks false pending.result), none⟩
  | callbackBegan {c : Callback} {left : List Callback} {result : Except Code Unit} :
      Advance J t (.emitting (c :: left) false result)
        ⟨{ t with delivered := t.delivered ++ [c] }, some (.emitting left true result), none⟩
  | callbackEnded {left : List Callback} {result : Except Code Unit} :
      Advance J t (.emitting left true result) ⟨t, some (.emitting left false result), none⟩
  | returned {result : Except Code Unit} :
      Advance J t (.emitting [] false result) ⟨{ t with active := t.active - 1 }, none, some result⟩
  | found (hfree : t.locked = false) : Advance J t .removed ⟨t, some .found, none⟩
  | closing : Advance J t .found ⟨{ t with session := t.session.closing }, some .waiting, none⟩
  | drained (hidle : t.active = 0) : Advance J t .waiting ⟨t, some .drained, none⟩
  | destroyed (hfree : t.locked = false) :
      Advance J t .drained ⟨{ t with session := (enter J t.session .destroy).session }, none,
        some (enter J t.session .destroy).result⟩

theorem resume_advance (h : resume J t stage = some r) : Advance J t stage r := by
  cases stage with
  | called op =>
    simp only [resume] at h
    split at h
    · cases h
    · rename_i hf
      split at h <;> cases h
      · exact .entered (Bool.eq_false_iff.mpr hf) (by assumption)
      · exact .commanded (Bool.eq_false_iff.mpr hf) (by assumption)
  | commanding left running =>
    cases running with
    | true =>
      cases h
      exact .commandEnded
    | false => cases left <;> cases h <;> constructor
  | holding =>
    cases h
    exact .unlocked
  | released pending =>
    simp only [resume] at h
    split at h
    · rename_i hs
      cases h
      exact .silent (by simpa using hs)
    · split_ifs at h with hc
      · cases h
        exact .refused hc
      · cases h
        exact .granted (Bool.eq_false_iff.mpr hc)
  | emitting left running =>
    cases running with
    | true =>
      cases h
      exact .callbackEnded
    | false => cases left <;> cases h <;> constructor
  | removed =>
    simp only [resume] at h
    split at h <;> cases h
    exact .found (Bool.eq_false_iff.mpr (by assumption))
  | found =>
    cases h
    exact .closing
  | waiting =>
    simp only [resume] at h
    split at h <;> cases h
    exact .drained (not_not.mp (by assumption))
  | drained =>
    simp only [resume] at h
    split at h <;> cases h
    exact .destroyed (Bool.eq_false_iff.mpr (by assumption))

theorem advance_move (hI : ThreadsInv t) (hst : t.stages[index]? = some stage) (h : Advance J t stage r) :
    Move Stage.leased t.gate t.stages r.threads.gate (replaceTask t.stages index r.next) := by
  have ha (op : Op) (hop : stage = .called op) : Announced t.session (enter J t.session op) :=
    enter_announced hI.events (hI.called op (hop ▸ List.mem_of_getElem? hst))
  have hga (op : Op) (hop : stage = .called op) :
      t.gate = ⟨(enter J t.session op).session.transport.closing, t.active⟩ := by
    rw [(ha op hop).behind.closing]
    rfl
  cases h with
  | @entered op =>
    rw [hga op rfl]
    exact .step hst rfl
  | @commanded op _ hso =>
    -- a closed gate would have refused the command
    have ho : (enter J t.session op).session.transport.closing = false := by
      rw [(ha op rfl).behind.closing, Bool.eq_false_iff]
      intro hc
      exact hso (((ha op rfl).behind.refused hc).trans hI.delivered)
    rw [hga op rfl]
    exact .enter ho hst rfl rfl
  | granted ho => exact .enter ho hst rfl rfl
  | commandLeft | returned => exact .leave hst rfl rfl
  | closing => exact .close hst rfl
  | destroyed =>
    have hcl : ({ t with session := (enter J t.session .destroy).session } : Threads P).gate =
        { t.gate with closing := true } := by
      unfold Threads.gate
      simp only [destroy_closing]
    rw [hcl]
    exact .close hst rfl
  | commandBegan | commandEnded | unlocked | silent | refused | callbackBegan | callbackEnded | found | drained =>
    exact .step hst rfl

theorem advance_inv (hI : ThreadsInv t) (hst : stage ∈ t.stages) (h : Advance J t stage r) :
    r.threads.session.events = [] ∧ r.threads.session.transport.delivered = [] ∧ ∀ op, r.next ≠ some (.called op) := by
  have hk : t.session.events = [] ∧ t.session.transport.delivered = [] := ⟨hI.events, hI.delivered⟩
  cases h with
  | @entered op | @commanded op =>
    exact ⟨(enter_announced hI.events (hI.called op hst)).events, rfl, by simp⟩
  | destroyed => exact ⟨rfl, (destroySession_delivered t.session).trans hI.delivered, by simp⟩
  | _ => exact ⟨hk.1, hk.2, by simp⟩

theorem advance_delivered (h : Advance J t stage r) (ho : stage.leased = false) :
    r.threads.delivered = t.delivered := by
  cases h with
  | commandBegan | callbackBegan => cases ho
  | _ => rfl

inductive ThreadMove (J : Json) (t : Threads P) : Input → Option (Except Code Unit) → Threads P → Prop
  | refused {call : FfiCall} {code : Code} : ThreadMove J t (.call call) (some (.error code)) t
  | destroys {call : FfiCall} (hknown : t.known = true) :
      ThreadMove J t (.call call) none { t with known := false, stages := t.stages ++ [.removed] }
  | called {call : FfiCall} {op : Op} (hknown : t.known = true) (hlives : op.destroys = false) :
      ThreadMove J t (.call call) none { t with stages := t.stages ++ [.called op] }
  | blocked {index : ℕ} (hblocked : ∀ stage, t.stages[index]? = some stage → resume J t stage = none) :
      ThreadMove J t (.resume index) none t
  | advanced {index : ℕ} {stage : Stage} {r : Resumed P} (hstage : t.stages[index]? = some stage)
      (h : Advance J t stage r) :
      ThreadMove J t (.resume index) r.out { r.threads with stages := replaceTask t.stages index r.next }

theorem threadStep_spec (input : Input) : ThreadMove J t input (threadStep J t input).1 (threadStep J t input).2 := by
  cases input with
  | call call =>
    show ThreadMove J t _ (beginCall J t call).1 (beginCall J t call).2
    unfold beginCall
    split
    · exact .refused
    · split
      · exact .refused
      · rename_i hkn
        have hkn : t.known = true := by simpa using hkn
        split_ifs with hl
        · exact .destroys hkn
        · exact .called hkn (Bool.eq_false_iff.mpr hl)
  | resume index =>
    simp only [threadStep]
    split
    · rename_i hn
      refine .blocked fun stage hst => ?_
      rw [hn] at hst
      cases hst
    · rename_i hst
      split
      · rename_i hr
        refine .blocked fun stage' hst' => ?_
        rw [hst] at hst'
        cases hst'
        exact hr
      · rename_i hr
        exact .advanced hst (resume_advance hr)

variable {input : Input} {out : Option (Except Code Unit)} {t' : Threads P} (hm : ThreadMove J t input out t')
include hm

theorem threadsInv_step (hI : ThreadsInv t) : ThreadsInv t' := by
  cases hm with
  | refused | blocked => exact hI
  | destroys =>
    refine ⟨hI.events, hI.delivered, fun op hop => ?_⟩
    rcases List.mem_append.mp hop with hd | hn
    · exact hI.called op hd
    · cases List.mem_singleton.mp hn
  | called _ hl =>
    refine ⟨hI.events, hI.delivered, fun op hop => ?_⟩
    rcases List.mem_append.mp hop with hd | hn
    · exact hI.called op hd
    · cases List.mem_singleton.mp hn
      exact hl
  | advanced hst h =>
    obtain ⟨hev, hdelivered, hnx⟩ := advance_inv hI (List.mem_of_getElem? hst) h
    refine ⟨hev, hdelivered, fun op hop => ?_⟩
    rcases mem_replaceTask hop with hd | hn
    · exact hI.called op hd
    · exact absurd hn (hnx op)

theorem threadStep_move (hI : ThreadsInv t) : Move Stage.leased t.gate t.stages t'.gate t'.stages := by
  cases hm with
  | refused | blocked => exact .idle
  | destroys | called => exact .spawn rfl
  | advanced hst h => exact advance_move hI hst h

theorem threadStep_delivered (hqt : ∀ stage ∈ t.stages, stage.leased = false) : t'.delivered = t.delivered := by
  cases hm with
  | advanced hst h => exact advance_delivered h (hqt _ (List.mem_of_getElem? hst))
  | _ => rfl

end Moves

end Rctl.Ffi
