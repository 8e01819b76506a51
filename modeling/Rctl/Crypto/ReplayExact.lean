/-
# What the replay window accepts

The window of a channel stands for the set of all numbers accepted on the channel so far:
its highest number is the largest of them, and its bitmap has those of them that lie within
64 of it (`Represents`). `record` keeps this, so the answer to a number is told by the set
alone: a number is accepted if it is not in the set and not 64 or more below the largest
(`Represents.check_eq_ok`).

Each number is offered to the guard and recorded if it was accepted (`offer`), as
`decryptPayload` does. `checkChecked` and `recordChecked` are `check` and `record` with the
overflow checks of the arithmetic made visible.
-/
import Rctl.Lib.Run
import Rctl.Crypto.E2ee

namespace Rctl

open Word StateRun

namespace ReplayWindow

/-- `check`, which stops if a subtraction or a shift overflows. -/
def checkChecked (w : ReplayWindow) (sequence : UInt64) : Option (Except CryptoError Unit) :=
  match w.highest with
  | none => some (.ok ())
  | some highest =>
    if sequence > highest then some (.ok ())
    else do
      let distance ← checkedSub highest sequence
      if distance ≥ REPLAY_WINDOW_BITS then some (.error .messageTooOld)
      else do
        let mask ← checkedShl 1 distance
        some (if w.bitmap &&& mask != 0 then .error .replayDetected else .ok ())

/-- `record`, which stops if a subtraction or a shift overflows. -/
def recordChecked (w : ReplayWindow) (sequence : UInt64) : Option ReplayWindow :=
  match w.highest with
  | none => some ⟨some sequence, 1⟩
  | some highest =>
    if sequence > highest then do
      let shift ← checkedSub sequence highest
      if shift ≥ REPLAY_WINDOW_BITS then some ⟨some sequence, 1⟩
      else do
        let moved ← checkedShl w.bitmap shift
        some ⟨some sequence, moved ||| 1⟩
    else do
      let distance ← checkedSub highest sequence
      let mask ← checkedShl 1 distance
      some ⟨some highest, w.bitmap ||| mask⟩

theorem checkChecked_eq (w : ReplayWindow) (sequence : UInt64) : w.checkChecked sequence = some (w.check sequence) := by
  unfold checkChecked check
  cases w.highest with
  | none => rfl
  | some highest =>
    by_cases hlt : sequence > highest
    · simp only [hlt, if_true]
    · have hle : sequence ≤ highest := UInt64.not_lt.mp hlt
      simp only [hlt, if_false, checkedSub, hle, if_true, Option.bind_eq_bind, Option.bind_some]
      by_cases hfar : highest - sequence ≥ REPLAY_WINDOW_BITS
      · simp only [hfar, if_true]
      · have hn : highest - sequence < 64 := UInt64.not_le.mp hfar
        simp only [hfar, checkedShl, hn]
        rfl

/-- Recording overflows at no number that was accepted. -/
theorem recordChecked_eq {w : ReplayWindow} {sequence : UInt64} (hok : w.check sequence = .ok ()) :
    w.recordChecked sequence = some (w.record sequence) := by
  have hok := check_eq_ok.mp hok
  unfold recordChecked record
  cases hw : w.highest with
  | none => rfl
  | some highest =>
    by_cases hlt : sequence > highest
    · have hle : highest ≤ sequence := UInt64.le_of_lt hlt
      simp only [hlt, if_true, checkedSub, hle, Option.bind_eq_bind, Option.bind_some]
      by_cases hfar : sequence - highest ≥ REPLAY_WINDOW_BITS
      · simp only [hfar, if_true]
      · have hn : sequence - highest < 64 := UInt64.not_le.mp hfar
        simp only [hfar, if_false, checkedShl, hn, if_true, Option.bind_some]
    · have hle : sequence ≤ highest := UInt64.not_lt.mp hlt
      obtain ha | ⟨hn, -⟩ := hok highest hw
      · exact absurd ha hlt
      · simp only [hlt, if_false, checkedSub, hle, if_true, Option.bind_eq_bind, Option.bind_some, checkedShl, hn]

/-! ### The set a window stands for -/

/-- The window stands for the numbers accepted so far. -/
structure Represents (w : ReplayWindow) (accepted : List UInt64) : Prop where
  empty : w.highest = none → accepted = []
  largest : ∀ highest, w.highest = some highest → highest ∈ accepted ∧ ∀ s ∈ accepted, s ≤ highest
  bits : ∀ highest, w.highest = some highest → ∀ s ≤ highest, highest - s < 64 →
    (hasBit w.bitmap (highest - s) = true ↔ s ∈ accepted)

theorem represents_default : Represents default [] :=
  ⟨fun _ => rfl, fun _ h => (Option.some_ne_none _ h.symm).elim, fun _ h => (Option.some_ne_none _ h.symm).elim⟩

/-- A number `64` or more below the largest is too old, also where that is below zero. -/
def WithinWindow (accepted : List UInt64) (sequence : UInt64) : Prop :=
  ∀ largest ∈ accepted, (∀ s ∈ accepted, s ≤ largest) → (largest.toNat : ℤ) - 64 < sequence.toNat

theorem distance_lt_iff {highest s : UInt64} (hle : s ≤ highest) :
    highest - s < 64 ↔ (highest.toNat : ℤ) - 64 < s.toNat := by
  have hs : (highest - s).toNat = highest.toNat - s.toNat := UInt64.toNat_sub_of_le _ _ hle
  have hle := UInt64.le_iff_toNat_le.mp hle
  rw [UInt64.lt_iff_toNat_lt, hs]
  show highest.toNat - s.toNat < 64 ↔ _
  omega

variable {w : ReplayWindow} {accepted : List UInt64} {highest sequence : UInt64}

theorem Represents.check_eq_ok (h : Represents w accepted) (sequence : UInt64) :
    w.check sequence = .ok () ↔ sequence ∉ accepted ∧ WithinWindow accepted sequence := by
  rw [ReplayWindow.check_eq_ok]
  cases hw : w.highest with
  | none => simp [h.empty hw, WithinWindow]
  | some highest =>
    obtain ⟨hm, hx⟩ := h.largest highest hw
    have hwithin : WithinWindow accepted sequence ↔ (highest.toNat : ℤ) - 64 < sequence.toNat := by
      constructor
      · exact fun hwithin => hwithin highest hm hx
      · intro hne largest hl ha
        have heq : largest = highest := UInt64.le_antisymm (hx largest hl) (ha highest hm)
        rwa [heq]
    simp only [Option.some.injEq, forall_eq', hwithin]
    by_cases hlt : highest < sequence
    · have hn : sequence ∉ accepted := fun hs => UInt64.not_le.mpr hlt (hx sequence hs)
      have := UInt64.lt_iff_toNat_lt.mp hlt
      simp only [hlt, true_or, hn, not_false_eq_true, true_and, true_iff]
      omega
    · have hle : sequence ≤ highest := UInt64.not_lt.mp hlt
      simp only [hlt, false_or, ← distance_lt_iff hle]
      constructor
      · rintro ⟨hne, hbit⟩
        refine ⟨fun hs => ?_, hne⟩
        rw [(h.bits highest hw sequence hle hne).mpr hs] at hbit
        cases hbit
      · rintro ⟨hs, hne⟩
        refine ⟨hne, ?_⟩
        rw [← Bool.not_eq_true, h.bits highest hw sequence hle hne]
        exact hs

theorem Represents.record_above (h : Represents w accepted) (hw : w.highest = some highest)
    (hlt : highest < sequence) : Represents (w.record sequence) (accepted ++ [sequence]) := by
  obtain ⟨-, hx⟩ := h.largest highest hw
  have hrc : w.record sequence = ⟨some sequence, if sequence - highest ≥ REPLAY_WINDOW_BITS then 1
      else (w.bitmap <<< (sequence - highest)) ||| 1⟩ := by
    simp only [record, hw, hlt, if_true]
  rw [hrc]
  refine ⟨fun hno => (Option.some_ne_none _ hno).elim, ?_, ?_⟩
  · rintro _ ⟨⟩
    refine ⟨by simp, fun s hs => ?_⟩
    rcases List.mem_append.mp hs with hs | hs
    · exact UInt64.le_trans (hx s hs) (UInt64.le_of_lt hlt)
    · rw [List.mem_singleton.mp hs]
      exact UInt64.le_refl _
  · rintro _ ⟨⟩ s hle hne
    have hle' := UInt64.le_iff_toNat_le.mp hle
    have hlt' := UInt64.lt_iff_toNat_lt.mp hlt
    have hd : (sequence - s).toNat = sequence.toNat - s.toNat := UInt64.toNat_sub_of_le _ _ hle
    have hshift : (sequence - highest).toNat = sequence.toNat - highest.toNat :=
      UInt64.toNat_sub_of_le _ _ (UInt64.le_of_lt hlt)
    have hz : sequence - s = 0 ↔ s = sequence := by
      rw [← UInt64.toNat_inj, ← UInt64.toNat_inj]
      show _ = 0 ↔ _
      omega
    have hnear' : (sequence - s).toNat < 64 := hne
    show hasBit (ite _ _ _) _ = true ↔ _
    split
    · -- the old window is shifted out
      rename_i hfar
      have hfar' : 64 ≤ (sequence - highest).toNat := hfar
      have hold : s ∉ accepted := by
        intro hs
        have := UInt64.le_iff_toNat_le.mp (hx s hs)
        omega
      have ho : hasBit 1 (sequence - s) = true ↔ sequence - s = 0 := by
        rw [hasBit_eq_testBit hne, UInt64.toNat_one, Nat.testBit_one_eq_true_iff_self_eq_zero, ← UInt64.toNat_inj]
        rfl
      simp only [ho, hz, List.mem_append, hold, List.mem_singleton, false_or]
    · rename_i hfar
      have hfar' : (sequence - highest).toNat < 64 := UInt64.not_le.mp hfar
      rw [hasBit_shiftLeft_or_one hne hfar']
      simp only [Bool.or_eq_true, Bool.and_eq_true, decide_eq_true_eq, beq_iff_eq, hz, List.mem_append,
        List.mem_singleton]
      refine or_congr ?_ Iff.rfl
      have hn (hsl : s ≤ highest) : highest - s < 64 := by
        rw [UInt64.lt_iff_toNat_lt, UInt64.toNat_sub_of_le _ _ hsl]
        show _ < 64
        omega
      constructor
      · rintro ⟨hge, hbit⟩
        have hge' := UInt64.le_iff_toNat_le.mp hge
        have hsl : s ≤ highest := UInt64.le_iff_toNat_le.mpr (by omega)
        rw [(sub_sub_sub hsl (UInt64.le_of_lt hlt)).2] at hbit
        exact (h.bits highest hw s hsl (hn hsl)).mp hbit
      · intro hs
        have hsl := hx s hs
        obtain ⟨hge, hsub⟩ := sub_sub_sub hsl (UInt64.le_of_lt hlt)
        rw [hsub]
        exact ⟨hge, (h.bits highest hw s hsl (hn hsl)).mpr hs⟩

theorem Represents.record_below (h : Represents w accepted) (hw : w.highest = some highest)
    (hle : sequence ≤ highest) (hne : highest - sequence < 64) :
    Represents (w.record sequence) (accepted ++ [sequence]) := by
  obtain ⟨hm, hx⟩ := h.largest highest hw
  have hrc : w.record sequence = ⟨some highest, w.bitmap ||| ((1 : UInt64) <<< (highest - sequence))⟩ := by
    simp only [record, hw, UInt64.not_lt.mpr hle, if_false]
  rw [hrc]
  refine ⟨fun hno => (Option.some_ne_none _ hno).elim, ?_, ?_⟩
  · rintro _ ⟨⟩
    refine ⟨List.mem_append_left _ hm, fun s hs => ?_⟩
    rcases List.mem_append.mp hs with hs | hs
    · exact hx s hs
    · rw [List.mem_singleton.mp hs]
      exact hle
  · rintro _ ⟨⟩ s hsl hsnear
    have heq : highest - s = highest - sequence ↔ s = sequence := by
      rw [← UInt64.toNat_inj, ← UInt64.toNat_inj, UInt64.toNat_sub_of_le _ _ hsl, UInt64.toNat_sub_of_le _ _ hle]
      have := UInt64.le_iff_toNat_le.mp hsl
      have := UInt64.le_iff_toNat_le.mp hle
      omega
    rw [hasBit_or_bit hsnear hne, Bool.or_eq_true, beq_iff_eq, heq, h.bits highest hw s hsl hsnear,
      List.mem_append, List.mem_singleton]

theorem Represents.record (h : Represents w accepted) (hok : w.check sequence = .ok ()) :
    Represents (w.record sequence) (accepted ++ [sequence]) := by
  cases hw : w.highest with
  | none =>
    have hrc : w.record sequence = ⟨some sequence, 1⟩ := by simp only [ReplayWindow.record, hw]
    rw [hrc, h.empty hw]
    refine ⟨fun hno => (Option.some_ne_none _ hno).elim, ?_, ?_⟩
    · rintro _ ⟨⟩
      exact ⟨by simp, fun s hs => by rw [List.mem_singleton.mp hs]; exact UInt64.le_refl _⟩
    · rintro _ ⟨⟩ s hle hne
      rw [hasBit_eq_testBit hne, UInt64.toNat_sub_of_le _ _ hle]
      show (1 : ℕ).testBit _ = true ↔ _
      rw [Nat.testBit_one_eq_true_iff_self_eq_zero, List.nil_append, List.mem_singleton, ← UInt64.toNat_inj]
      have := UInt64.le_iff_toNat_le.mp hle
      omega
  | some highest =>
    obtain hlt | ⟨hne, -⟩ := ReplayWindow.check_eq_ok.mp hok highest hw
    · exact h.record_above hw hlt
    · by_cases hlt : highest < sequence
      · exact h.record_above hw hlt
      · exact h.record_below hw (UInt64.not_lt.mp hlt) hne

end ReplayWindow

namespace ReplayGuard

def checkChecked (g : ReplayGuard) (channel : ChannelId) (sequence : UInt64) : Option (Except CryptoError Unit) :=
  if sequence > MAX_SECURE_SEQUENCE then some (.error .sequenceExhausted)
  else (g.channels channel).checkChecked sequence

def recordChecked (g : ReplayGuard) (channel : ChannelId) (sequence : UInt64) : Option ReplayGuard :=
  ((g.channels channel).recordChecked sequence).map fun w => ⟨Function.update g.channels channel w⟩

def offer (g : ReplayGuard) (offered : ChannelId × UInt64) : Except CryptoError Unit × ReplayGuard :=
  match g.check offered.1 offered.2 with
  | .ok () => (.ok (), g.record offered.1 offered.2)
  | .error e => (.error e, g)

abbrev Offer := Entry ReplayGuard (ChannelId × UInt64) (Except CryptoError Unit)

def acceptedOn (channel : ChannelId) (e : Offer) : Option UInt64 :=
  if e.out = .ok () ∧ e.call.1 = channel then some e.call.2 else none

def accepted (offers : List (ChannelId × UInt64)) (channel : ChannelId) : List UInt64 :=
  (trace offer default offers).filterMap (acceptedOn channel)

theorem offer_channels (g : ReplayGuard) (offered : ChannelId × UInt64) (c : ChannelId) :
    (offer g offered).2.channels c = if offered.1 = c ∧ g.check c offered.2 = .ok ()
      then (g.channels c).record offered.2 else g.channels c := by
  obtain ⟨channel, sequence⟩ := offered
  unfold offer
  by_cases hc : channel = c
  · subst hc
    cases g.check channel sequence with
    | ok => simp [record]
    | error => simp
  · have hc' : c ≠ channel := fun h => hc h.symm
    cases g.check channel sequence with
    | ok => simp [record, hc, hc']
    | error => simp [hc]

theorem offer_out (g : ReplayGuard) (offered : ChannelId × UInt64) :
    (offer g offered).1 = g.check offered.1 offered.2 := by
  unfold offer
  cases g.check offered.1 offered.2 <;> rfl

theorem represents_run (offers : List (ChannelId × UInt64)) (c : ChannelId) :
    ((final offer default offers).channels c).Represents (accepted offers c) := by
  refine history_inv offer (I := fun log g => (g.channels c).Represents (log.filterMap (acceptedOn c)))
    (fun log g offered h => ?_) offers [] default ReplayWindow.represents_default
  rw [filterMap_snoc, offer_channels]
  simp only [acceptedOn, entry_out, offer_out]
  by_cases hc : offered.1 = c
  · subst hc
    by_cases hok : g.check offered.1 offered.2 = .ok ()
    · simpa [hok] using h.record (check_eq_ok.mp hok).2
    · simpa [hok] using h
  · simpa [hc] using h

/-- The window of a channel is told by what was offered on it. -/
theorem final_channels (c : ChannelId) : ∀ (offers : List (ChannelId × UInt64)) {g g' : ReplayGuard},
    g.channels c = g'.channels c →
      (final offer g offers).channels c = (final offer g' (offers.filter (·.1 = c))).channels c
  | [], _, _, h => h
  | offered :: offers, g, g', h => by
    have hcheck : g.check c offered.2 = g'.check c offered.2 := by rw [check, check, h]
    by_cases hc : offered.1 = c
    · rw [List.filter_cons_of_pos (by simpa using hc)]
      refine final_channels c offers ?_
      rw [offer_channels, offer_channels, hcheck, h]
    · rw [List.filter_cons_of_neg (by simpa using hc)]
      refine final_channels c offers ?_
      rw [offer_channels, if_neg (fun hand => hc hand.1), h]

/-- **The replay window is exact.** After any offers to a fresh guard, a number is accepted
on a channel if and only if it is at most `2^48 - 1`, was not accepted on the channel before,
and is above the largest number accepted on it less 64. What was offered on other channels
does not matter, and nothing overflows in checking a number or recording one that is
accepted. -/
theorem replay_window_exact (offers : List (ChannelId × UInt64)) (channel : ChannelId) (sequence : UInt64) :
    let g := final offer default offers
    (g.check channel sequence = .ok () ↔ sequence.toNat ≤ 2 ^ 48 - 1 ∧ sequence ∉ accepted offers channel ∧
      ReplayWindow.WithinWindow (accepted offers channel) sequence) ∧
    g.check channel sequence =
      (final offer default (offers.filter (·.1 = channel))).check channel sequence ∧
    g.checkChecked channel sequence = some (g.check channel sequence) ∧
    (g.check channel sequence = .ok () → g.recordChecked channel sequence = some (g.record channel sequence)) := by
  intro g
  refine ⟨?_, ?_, ?_, fun hok => ?_⟩
  · rw [check_eq_ok, (represents_run offers channel).check_eq_ok]
    rfl
  · rw [check, check, final_channels channel offers rfl]
  · rw [checkChecked, check, ReplayWindow.checkChecked_eq]
    split <;> rfl
  · rw [recordChecked, ReplayWindow.recordChecked_eq (check_eq_ok.mp hok).2]
    rfl

end ReplayGuard

end Rctl
