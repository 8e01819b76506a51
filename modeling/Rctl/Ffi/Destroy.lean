/-
# Destroying a session

A handle's transport is told to close once, when the session closes. Destroying the handle closes
the gate of the callbacks before it closes the session, so a session that is still open is closed
without its transport hearing of it: the transport is told to close exactly if the session was
closed before.
-/
import Rctl.Ffi.Steps

namespace Rctl.Ffi

open ByteString Controller StateRun

variable {P : Primitives} (J : Json)

/-- How often the transport was told to close, as long as the handle is known. -/
structure ClosesInv (handle : Handle P) : Prop where
  gate : handle.session.transport.closing = false
  events : handle.session.events = []
  closes : closes handle.session.transport.delivered = handle.session.closeStarted.toNat

theorem closes_step (handle : Handle P) (call : FfiCall) (hI : handle.known = true → ClosesInv handle) :
    (ffiStep J handle call).2.known = true → ClosesInv (ffiStep J handle call).2 := by
  intro hkn'
  cases hkn : handle.known with
  | false =>
    rw [ffiStep_unknown hkn, hkn] at hkn'
    cases hkn'
  | true =>
    obtain ⟨hga, hev, hc⟩ := hI hkn
    cases ffiStep_callStep hkn hga hev call with
    | refused hpo =>
      have hpo : (ffiStep J handle call).2 = handle := hpo
      rw [hpo]
      exact ⟨hga, hev, hc⟩
    | destroyed _ hde =>
      rw [entry_post, hkn'] at hde
      cases hde
    | completed _ h =>
      refine ⟨h.gate, h.events, ?_⟩
      have hd := h.delivered
      have hcl := h.closed
      simp only [entry_pre, entry_post] at hd hcl
      rw [hd, closes_append, hc, hcl]

theorem closes_run (sid : U128) (cs : List FfiCall) :
    (final (ffiStep J) (Handle.create P sid) cs).known = true →
      ClosesInv (final (ffiStep J) (Handle.create P sid) cs) :=
  run_inv (ffiStep J) (closes_step J) cs
    fun _ => ⟨rfl, rfl, rfl⟩

/-- Destroying a handle makes no callback: the transport has then been told to close once if the session was
closed before, and never if it was not. -/
theorem destroy_closes_transport (sessionId : U128) (calls : List FfiCall)
    (hknown : (final (ffiStep J) (Handle.create P sessionId) calls).known = true) :
    closes (ffiStep J (final (ffiStep J) (Handle.create P sessionId) calls) .destroy).2.session.transport.delivered =
      if (final (ffiStep J) (Handle.create P sessionId) calls).session.closeStarted then 1 else 0 := by
  obtain ⟨-, -, hc⟩ := closes_run J sessionId calls hknown
  generalize final (ffiStep J) (Handle.create P sessionId) calls = handle at hknown hc ⊢
  have hs : (ffiStep J handle .destroy).2.session = (destroySession handle.session).complete.2 := by
    unfold ffiStep readCall
    rw [hknown]
    rfl
  rw [hs, destroySession_complete, hc]
  cases handle.session.closeStarted <;> rfl

theorem destroy_closes_transport_closed :
    (Sample.after [.connect, .close]).known = true ∧
      closes (ffiStep Sample.json (Sample.after [.connect, .close]) .destroy).2.session.transport.delivered = 1 :=
  ⟨by decide +kernel, (destroy_closes_transport Sample.json 1 [.connect, .close] (by decide +kernel)).trans
    (by decide +kernel)⟩

/-- The transport was started, the handle is destroyed and the transport was never told to
close. -/
theorem destroy_leaves_transport_open :
    (Sample.after [.connect, .destroy]).known = false ∧
      (Sample.after [.connect, .destroy]).session.transport.delivered =
        [.command .start 1 none [], .event (.stateChanged .connecting)] ∧
      (ffiStep Sample.json (Sample.after [.connect]) .destroy).1 = .error .transportError := by
  decide +kernel

end Rctl.Ffi
