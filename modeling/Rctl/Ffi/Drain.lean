/-
# Callbacks and the destruction of a handle

`remote_controller_session_destroy` and `remote_controller_quic_transport_destroy` take the handle
out of the table, close the gate of its callbacks and wait until no lease is out. So once such a
call has returned no callback of the handle runs, and none is made again, whatever the other
threads and tasks still do with the handle they have (`quiet_after_destroy`).

A lease is not a running callback: it is taken before the first callback of a group, kept between
two of them and given back after the last. And only the call that took the handle out of the table
waits: another one finds no handle and returns at once (`destroy_does_not_wait`).
-/
import Rctl.Ffi.EventOrder
import Rctl.Ffi.Quic

namespace Rctl.Ffi

open ByteString StateRun Tasks Gates SessionHandshake

def Stage.waits : Stage → Bool
  | .waiting => true
  | _ => false

def Stage.past : Stage → Bool
  | .drained => true
  | _ => false

theorem Stage.leased_of_running (stage : Stage) (h : stage.running = true) : stage.leased = true := by
  cases stage with
  | commanding | emitting => rfl
  | _ => cases h

theorem QuicStage.hasLease_of_running (stage : QuicStage) (h : stage.running = true) : stage.hasLease = true := by
  cases stage with
  | emitting => rfl
  | _ => cases h

open Stage

section Session

variable {P : Primitives} {J : Json} {t t' : Threads P} {stage : Stage} {r : Resumed P}

/-- A call waits only at a closing gate, and gets past its wait only when the gate counts no
lease. -/
theorem Advance.closers {task : Stage} (h : Advance J t stage r) (ht : r.next = some task) :
    (task.waits = true → r.threads.gate.closing = true) ∧ (task.past = true → t.active = 0 ∧ stage.waits = true) := by
  cases h with
  | closing =>
    cases ht
    exact ⟨fun _ => rfl, by simp [past]⟩
  | drained hi =>
    cases ht
    exact ⟨by simp [waits], fun _ => ⟨hi, rfl⟩⟩
  | silent | refused | returned | destroyed => cases ht
  | _ =>
    cases ht
    exact ⟨by simp [waits], by simp [past]⟩

theorem threadStep_closing {inp : Input} {out : Option (Except Code Unit)} (hmo : ThreadMove J t inp out t')
    (hI : ThreadsInv t) {returns : Prop} (hr : returns → ∃ task ∈ t.stages, task.past = true) :
    Closing leased waits past t.gate t.stages t'.gate t'.stages returns := by
  refine .of_new (threadStep_move hmo hI) ?_ hr
  intro task htk
  cases hmo with
  | refused | blocked => exact .inl htk
  | destroys | called =>
    rcases List.mem_append.mp htk with hd | hn
    · exact .inl hd
    · rw [List.mem_singleton.mp hn]
      exact .inr ⟨by simp [waits], by simp [past]⟩
  | @advanced ix stage r hst ha =>
    refine (mem_replaceTask htk).imp_right fun hnx => ⟨(ha.closers hnx).1, fun hpa => .inr ?_⟩
    obtain ⟨hil, hw⟩ := (ha.closers hnx).2 hpa
    exact ⟨hil, stage, List.mem_of_getElem? hst, hw⟩

/-- A call that took the session's handle out of the table returns. -/
def sessionDestroyed (e : ThreadEntry P) : Prop :=
  ∃ index, e.call = .resume index ∧ e.pre.stages[index]? = some .drained ∧ e.out.isSome = true

theorem session_settled (J : Json) (sid : U128) (inputs : List Input) :
    let t := final (threadStep J) (Threads.create P sid) inputs
    ThreadsInv t ∧ Settled leased waits past t.gate t.stages
      (∃ e ∈ trace (threadStep J) (Threads.create P sid) inputs, sessionDestroyed e) := by
  have h := history_inv (threadStep J) (I := fun log t => ThreadsInv t ∧ Settled leased waits past t.gate t.stages
      (∃ e ∈ log, sessionDestroyed e))
    (fun log t inp hI => ?_) inputs [] (Threads.create P sid)
    ⟨⟨rfl, rfl, by simp [Threads.create]⟩, ⟨rfl, by simp [Threads.create], by simp [Threads.create]⟩⟩
  · exact h
  · have hm := threadStep_spec (J := J) (t := t) inp
    refine ⟨threadsInv_step hm hI.1, ?_⟩
    simp only [List.mem_append, List.mem_singleton, or_and_right, exists_or, exists_eq_left]
    refine settled_step hI.2 (threadStep_closing hm hI.1 ?_)
    rintro ⟨ix, -, hst, -⟩
    exact ⟨.drained, List.mem_of_getElem? hst, rfl⟩

end Session

abbrev QuicEntry := Entry QuicTransport QuicInput (Option (Except Code Unit))

/-- A call that took the transport's handle out of the table returns. -/
def quicDestroyed (e : QuicEntry) : Prop :=
  ∃ index inRuntime, e.call = .resume index ∧ e.pre.stages[index]? = some (.aborting inRuntime) ∧ e.out.isSome = true

theorem quic_settled (inputs : List QuicInput) :
    let t := final quicStep .create inputs
    Settled QuicStage.hasLease QuicStage.waits QuicStage.past t.gate t.stages
      (∃ e ∈ trace quicStep .create inputs, quicDestroyed e) := by
  have h := history_inv quicStep
    (I := fun log t => Settled QuicStage.hasLease QuicStage.waits QuicStage.past t.gate t.stages
      (∃ e ∈ log, quicDestroyed e))
    (fun log t inp hI => ?_) inputs [] .create
    ⟨rfl, by simp [QuicTransport.create], by simp [QuicTransport.create]⟩
  · exact h
  · simp only [List.mem_append, List.mem_singleton, or_and_right, exists_or, exists_eq_left]
    refine settled_step hI (quicStep_closing (quicStep_spec t inp) ?_)
    rintro ⟨ix, inRuntime, -, hst, -⟩
    exact ⟨.aborting inRuntime, List.mem_of_getElem? hst, rfl⟩

/-- Whatever the threads did with a session's or a QUIC transport's handle, and whatever is done
next: the gate counts the leases that are out, at least one for each running callback; once it is
closing it grants none; and once a call has destroyed the handle no callback runs or begins. -/
theorem quiet_after_destroy {P : Primitives} :
    (∀ (J : Json) (sessionId : U128) (inputs : List Input) (input : Input),
      let t := final (threadStep J) (Threads.create P sessionId) inputs
      Safe Stage.leased Stage.running
        (∃ e ∈ trace (threadStep J) (Threads.create P sessionId) inputs, sessionDestroyed e) t.gate t.stages
        (threadStep J t input).2.gate ((threadStep J t input).2.delivered ≠ t.delivered)) ∧
    ∀ (inputs : List QuicInput) (input : QuicInput), let t := final quicStep .create inputs
      Safe QuicStage.hasLease QuicStage.running (∃ e ∈ trace quicStep .create inputs, quicDestroyed e) t.gate t.stages
        (quicStep t input).2.gate ((quicStep t input).2.delivered ≠ t.delivered) := by
  refine ⟨fun J sessionId inputs input => ?_, fun inputs input => ?_⟩
  · obtain ⟨hI, hs⟩ := session_settled J sessionId inputs
    have hm := threadStep_spec (J := J) (t := final (threadStep J) (Threads.create P sessionId) inputs) input
    refine hs.safe (threadStep_move hm hI) (fun stage => stage.leased_of_running) fun ho => ?_
    exact not_not.mpr (threadStep_delivered hm ho)
  · have hm := quicStep_spec (final quicStep .create inputs) input
    refine (quic_settled inputs).safe (quicStep_move hm) (fun stage => stage.hasLease_of_running) fun ho => ?_
    exact not_not.mpr (quicStep_delivered hm ho)

/-- A call that has taken its lease for the events, and one that waits to destroy the handle. -/
def destroyWaits : List Input :=
  .call .connect :: List.replicate 6 (.resume 0) ++ .call .destroy :: List.replicate 2 (.resume 1)

/-- While a call waits to destroy the handle a lease is out but no callback runs; and with a
callback running, a second call that is to destroy the handle returns. -/
theorem destroy_does_not_wait :
    ((Sample.threads destroyWaits).stages.any (·.waits) = true ∧ (Sample.threads destroyWaits).active = 1 ∧
      (Sample.threads destroyWaits).stages.countP (·.running) = 0) ∧
    ((Sample.threads (destroyWaits ++ [.resume 0])).stages.any (·.running) = true ∧
      (threadStep Sample.json (Sample.threads (destroyWaits ++ [.resume 0])) (.call .destroy)).1 =
        some (.error .invalidHandle)) := by
  decide +kernel

end Rctl.Ffi
