/-
# The ledger of a file transfer

`remote-core/src/file_transfer.rs`: a `TransferLedger` counts and hashes what is received
of one file. Whatever is called on it, the count is the length of the appended
chunks (`LedgerInv`, kept by every call: `step_inv`), and the transfer completes only
if the chunks together have the declared size and the expected hash.

A hasher is the bytes it was fed. The count is a number that stops at `u64::MAX`.

Key definitions: `TransferLedger.step`, `appended`, `Accepted`.
Key theorems: `step_inv`, `file_transfer_integrity`.
-/
import Rctl.Api.Security
import Rctl.Lib.Run

namespace Rctl

open ByteString StateRun
open Api (isBlank)

def MAX_FILE_TRANSFER_BYTES : UInt64 := 100 * 1024 * 1024

inductive TransferState
  | requested
  | accepted
  | running
  | completed
  | cancelled
  | failed
  deriving DecidableEq

inductive FileTransferError
  | emptyName
  | pathTraversal
  | invalidName
  | tooLarge
  | invalidState
  deriving DecidableEq

/-- `char::is_control`: the Unicode category Cc. -/
def isControl (c : Char) : Bool := c.toNat < 0x20 || (0x7f ≤ c.toNat && c.toNat < 0xa0)

def validateFileName (name : String) (size : UInt64) : Except FileTransferError Unit :=
  if isBlank name then .error .emptyName
  else if MAX_FILE_TRANSFER_BYTES < size then .error .tooLarge
  else if name = "." ∨ name = ".." ∨ '/' ∈ name.toList ∨ '\\' ∈ name.toList then .error .pathTraversal
  else if name.toList.any isControl then .error .invalidName
  else if name.toList.getLast? = some '.' ∨ name.toList.getLast? = some ' ' then .error .invalidName
  else .ok ()

structure TransferLedger where
  state : TransferState
  expectedSize : UInt64
  received : ℕ
  digest : Bytes
  deriving DecidableEq

inductive TransferCall
  | accept
  | append (chunk : Bytes)
  | finish (expectedSha256 : Digest)
  | cancel
  deriving DecidableEq

namespace TransferLedger

def new (name : String) (size : UInt64) : Except FileTransferError TransferLedger := do
  validateFileName name size
  return ⟨.requested, size, 0, []⟩

def accept (s : TransferLedger) : Except FileTransferError Unit × TransferLedger :=
  if s.state ≠ .requested then (.error .invalidState, s) else (.ok (), { s with state := .accepted })

def append (s : TransferLedger) (chunk : Bytes) : Except FileTransferError Unit × TransferLedger :=
  if s.state ≠ .accepted ∧ s.state ≠ .running then (.error .invalidState, s)
  else
    let next := min (s.received + chunk.length) (2 ^ 64 - 1)
    if s.expectedSize.toNat < next then (.error .tooLarge, s)
    else (.ok (), { s with digest := s.digest ++ chunk, received := next, state := .running })

variable (sha256 : Bytes → Digest)

def finish (s : TransferLedger) (expectedSha256 : Digest) : Except FileTransferError Unit × TransferLedger :=
  if s.received ≠ s.expectedSize.toNat ∨ s.state ≠ .running then (.error .invalidState, s)
  else if sha256 s.digest ≠ expectedSha256 then (.error .invalidState, { s with state := .failed })
  else (.ok (), { s with state := .completed })

def cancel (s : TransferLedger) : TransferLedger := { s with state := .cancelled, digest := [] }

def step (s : TransferLedger) : TransferCall → Except FileTransferError Unit × TransferLedger
  | .accept => s.accept
  | .append chunk => s.append chunk
  | .finish expectedSha256 => s.finish sha256 expectedSha256
  | .cancel => (.ok (), s.cancel)

abbrev Call := Entry TransferLedger TransferCall (Except FileTransferError Unit)

/-- What a call appends. -/
def chunkOf (e : Call) : Bytes :=
  match e.out, e.call with
  | .ok (), .append chunk => chunk
  | _, _ => []

def appended (log : List Call) : Bytes := log.flatMap chunkOf

/-- An accept was answered `Ok`, and no cancel came after it. -/
def Accepted (log : List Call) : Prop :=
  ∃ before e after, log = before ++ e :: after ∧ e.call = .accept ∧ e.out = .ok () ∧ ∀ e' ∈ after, e'.call ≠ .cancel

/-- What a call does to a ledger whose declared size is within the limit. -/
inductive LedgerStep (s : TransferLedger) : TransferCall → Except FileTransferError Unit → TransferLedger → Prop
  | refused {call : TransferCall} {error : FileTransferError} (hcall : call ≠ .cancel) :
    LedgerStep s call (.error error) s
  | accepted (hstate : s.state = .requested) : LedgerStep s .accept (.ok ()) { s with state := .accepted }
  | appended {chunk : Bytes} (hstate : s.state = .accepted ∨ s.state = .running)
    (hfits : s.received + chunk.length ≤ s.expectedSize.toNat) :
    LedgerStep s (.append chunk) (.ok ())
      { s with digest := s.digest ++ chunk, received := s.received + chunk.length, state := .running }
  | failed {expected : Digest} {error : FileTransferError} (hstate : s.state = .running) :
    LedgerStep s (.finish expected) (.error error) { s with state := .failed }
  | completed (hcount : s.received = s.expectedSize.toNat) (hstate : s.state = .running) :
    LedgerStep s (.finish (sha256 s.digest)) (.ok ()) { s with state := .completed }
  | cancelled : LedgerStep s .cancel (.ok ()) s.cancel

structure LedgerInv (size : UInt64) (log : List Call) (s : TransferLedger) : Prop where
  expected : s.expectedSize = size
  received : s.received = (appended log).length
  bounded : s.received ≤ size.toNat
  digest : s.state ≠ .cancelled → s.digest = appended log
  accepted : s.state = .accepted ∨ s.state = .running → Accepted log

variable {size : UInt64} {log : List Call} {s : TransferLedger} {e : Call}

theorem step_ledgerStep (he : s.expectedSize = size) (hx : size ≤ MAX_FILE_TRANSFER_BYTES) (call : TransferCall) :
    LedgerStep sha256 s call (step sha256 s call).1 (step sha256 s call).2 := by
  cases call with
  | accept =>
    simp only [step, accept]
    split_ifs with h
    · exact .refused nofun
    · exact .accepted (not_not.mp h)
  | append chunk =>
    simp only [step, append]
    split_ifs with h hl
    · exact .refused nofun
    · exact .refused nofun
    · -- the declared size is far below where the count saturates
      have hs : size.toNat ≤ 104857600 := hx
      rw [he] at hl
      have hn : min (s.received + chunk.length) (2 ^ 64 - 1) = s.received + chunk.length := by omega
      rw [hn] at hl ⊢
      exact .appended (by tauto) (he ▸ Nat.le_of_not_lt hl)
  | finish expected =>
    simp only [step, finish]
    split_ifs with h hh
    · exact .refused nofun
    all_goals rw [not_or, not_not, not_not] at h
    · exact .failed h.2
    · exact not_not.mp hh ▸ .completed h.1 h.2
  | cancel => exact .cancelled

@[simp] theorem appended_snoc : appended (log ++ [e]) = appended log ++ chunkOf e := by
  simp [appended]

theorem Accepted.snoc (h : Accepted log) (hc : e.call ≠ .cancel) : Accepted (log ++ [e]) := by
  obtain ⟨before, a, after, rfl, ha, hok, haf⟩ := h
  refine ⟨before, a, after ++ [e], by simp, ha, hok, ?_⟩
  simpa [or_imp, forall_and] using ⟨haf, hc⟩

theorem ledgerInv_step {call : TransferCall} {out : Except FileTransferError Unit} {s' : TransferLedger}
    (hst : LedgerStep sha256 s call out s') (h : LedgerInv size log s) :
    LedgerInv size (log ++ [⟨s, call, out, s'⟩]) s' := by
  obtain ⟨he, hrc, hb, hd, ha⟩ := h
  cases hst with
  | refused hcl =>
    exact ⟨he, by simpa [chunkOf], hb, by simpa [chunkOf], fun h => (ha h).snoc hcl⟩
  | accepted hs =>
    rw [hs] at hd
    exact ⟨he, by simpa [chunkOf], hb, by simpa [chunkOf] using hd, fun _ => ⟨log, _, [], rfl, rfl, rfl, nofun⟩⟩
  | appended hs hft =>
    have hd := hd (by rcases hs with h | h <;> simp [h])
    exact ⟨he, by simp [chunkOf, hrc], he ▸ hft, by simp [chunkOf, hd], fun _ => (ha hs).snoc nofun⟩
  | failed hs | completed _ hs =>
    rw [hs] at hd
    exact ⟨he, by simpa [chunkOf], hb, by simpa [chunkOf] using hd, nofun⟩
  | cancelled => exact ⟨he, by simpa [chunkOf], hb, fun h => absurd rfl h, nofun⟩

theorem file_transfer_integrity {name : String} {ledger : TransferLedger} (hnew : new name size = .ok ledger)
    (calls : List TransferCall) :
    let log := trace (step sha256) ledger calls
    let s := final (step sha256) ledger calls
    (s.received = (appended log).length ∧ s.received ≤ size.toNat ∧ size.toNat ≤ 100 * 2 ^ 20) ∧
    (∀ e ∈ log, e.out ≠ .ok () → e.post = e.pre ∨
      (∃ expected, e.call = .finish expected) ∧ e.post = { e.pre with state := .failed }) ∧
    ∀ before e after, log = before ++ e :: after → e.pre.state ≠ .completed → e.post.state = .completed →
      e.call = .finish (sha256 (appended before)) ∧ (appended before).length = size.toNat ∧ Accepted before := by
  simp only [new, Result.bind_eq_ok, Result.pure_eq_ok, validateFileName, Result.ite_error_eq_ok] at hnew
  obtain ⟨-, ⟨-, hx, -⟩, rfl⟩ := hnew
  have hx : size ≤ MAX_FILE_TRANSFER_BYTES := UInt64.not_lt.mp hx
  have hI (calls : List TransferCall) := history_inv (step sha256) (I := LedgerInv size)
    (fun _ _ call h => ledgerInv_step sha256 (step_ledgerStep sha256 h.expected hx call) h) calls []
      ⟨.requested, size, 0, []⟩ ⟨rfl, rfl, Nat.zero_le _, fun _ => rfl, nofun⟩
  intro log s
  -- every call is made in a state with the invariant
  have hcs : ∀ before s call out s' after, log = before ++ ⟨s, call, out, s'⟩ :: after →
      LedgerInv size before s ∧ LedgerStep sha256 s call out s' := by
    intro before s call out s' after hl
    obtain ⟨cs, call, -, -, rfl, he⟩ := trace_eq_append_cons _ hl
    cases he
    exact ⟨hI cs, step_ledgerStep sha256 (hI cs).expected hx _⟩
  refine ⟨⟨(hI calls).received, (hI calls).bounded, hx⟩, ?_, ?_⟩
  · rintro ⟨s, call, out, s'⟩ he hf
    obtain ⟨before, after, hl⟩ := List.append_of_mem he
    obtain ⟨-, hst⟩ := hcs before s call out s' after hl
    cases hst with
    | refused => exact .inl rfl
    | failed => exact .inr ⟨⟨_, rfl⟩, rfl⟩
    | accepted | appended | completed | cancelled => exact absurd rfl hf
  · rintro before ⟨s, call, out, s'⟩ after hl hbf haf
    obtain ⟨h, hst⟩ := hcs before s call out s' after hl
    cases hst with
    | refused => exact absurd haf hbf
    | completed hc hs =>
      have hd := h.digest (by simp [hs])
      exact ⟨by rw [← hd], by rw [← h.received, hc, h.expected], h.accepted (.inr hs)⟩
    | accepted | appended | failed | cancelled => cases haf

theorem file_transfer_integrity_three :
    let step := step fun bs => ByteArr.ofNat 32 bs.length
    let calls := [.accept, .append [7], .append [8, 9], .finish (ByteArr.ofNat 32 3)]
    let s := final step ⟨.requested, 3, 0, []⟩ calls
    s.state = .completed ∧ s.received = (appended (trace step ⟨.requested, 3, 0, []⟩ calls)).length := by
  have hn : new "a" 3 = .ok ⟨.requested, 3, 0, []⟩ := by decide +kernel
  exact ⟨by decide +kernel, (file_transfer_integrity _ hn _).1.1⟩

end TransferLedger

end Rctl
