import Fieldbus.Bus.Basic
import Mathlib.Algebra.BigOperators.Group.List.Basic
import Mathlib.Data.UInt
import Mathlib.Tactic.Abel

/-! Error reports that are left out.  A report is recorded if the sum of the counters has changed since
the report before it, modulo `2^32` (`reportChanged_calls`).  So nothing is recorded twice, and a change
is recorded as long as the counters have not grown by `2^32` altogether; but counters that went down can
make up for others that went up, and then the change is not seen (`hidden_change`). -/

namespace Fieldbus

open scoped UInt32.CommRing

namespace Counters

/-- The counters that decide whether there is anything to report: all but the interrupts. -/
def watched (c : Counters) : List UInt32 :=
  [c.received, c.sent, c.receiveErrors, c.transmitErrors, c.receiveOverflow, c.transmitOverflow,
    c.errorFlags, c.delayed]

/-- What has been added to each of them, modulo `2^32`. -/
def growth (before after : Counters) : List UInt32 :=
  List.zipWith (· - ·) after.watched before.watched

theorem sum_growth (before after : Counters) :
    (before.growth after).sum = Statistics.sum after - Statistics.sum before := by
  simp only [growth, watched, Statistics.sum, List.zipWith_cons_cons, List.zipWith_nil_right,
    List.sum_cons, List.sum_nil]
  abel

theorem growth_eq_zero_iff (before after : Counters) :
    (∀ d ∈ before.growth after, d = 0) ↔ after.watched = before.watched := by
  simp [growth, watched, sub_eq_zero]

end Counters

/-- Words that add up to less than `2^32` do not wrap. -/
theorem toNat_sum {ds : List UInt32} (h : (ds.map UInt32.toNat).sum < UInt32.size) :
    ds.sum.toNat = (ds.map UInt32.toNat).sum := by
  induction ds with
  | nil => rfl
  | cons d ds ih =>
    rw [List.map_cons, List.sum_cons] at h ⊢
    rw [List.sum_cons, UInt32.toNat_add, ih (by omega)]
    exact Nat.mod_eq_of_lt h

theorem sum_eq_zero_iff {ds : List UInt32} (h : (ds.map UInt32.toNat).sum < UInt32.size) :
    ds.sum = 0 ↔ ∀ d ∈ ds, d = 0 := by
  rw [← UInt32.toNat_inj, toNat_sum h, UInt32.toNat_zero, List.sum_eq_zero_iff_forall_eq_nat]
  simp [← UInt32.toNat_inj]

namespace Statistics

/-- What can be done to statistics. -/
inductive Call where
  | countInterrupt
  | countReceived
  | countSent
  | countReceiveOverflow
  | countTransmitOverflow
  | countDelayed
  | noteErrors (flags receiveErrors transmitErrors : UInt32)
  | takeErrorPending
  | reset
  | reportChanged

namespace Call

def perform : Call → Statistics → Statistics
  | countInterrupt, s => s.countInterrupt
  | countReceived, s => s.countReceived
  | countSent, s => s.countSent
  | countReceiveOverflow, s => s.countReceiveOverflow
  | countTransmitOverflow, s => s.countTransmitOverflow
  | countDelayed, s => s.countDelayed
  | noteErrors flags receiveErrors transmitErrors, s =>
    s.noteErrors flags receiveErrors transmitErrors
  | takeErrorPending, s => s.takeErrorPending.2
  | reset, _ => {}
  | reportChanged, s => s.reportChanged.2

end Call

/-- Statistics, and the counters that the last report considered. -/
structure Considered where
  statistics : Statistics := {}
  counters : Counters := {}

namespace Considered

/-- A report considers the counters as they are, and a reset begins anew. -/
def call (r : Considered) (c : Call) : Considered where
  statistics := c.perform r.statistics
  counters :=
    match c with
    | .reportChanged => r.statistics.counters
    | .reset => {}
    | _ => r.counters

/-- By how much the counters have changed since the last report. -/
def growth (r : Considered) : List UInt32 := r.counters.growth r.statistics.counters

/-- The checksum is that of the counters that were considered. -/
def Sound (r : Considered) : Prop := r.statistics.checksum = sum r.counters

theorem Sound.call {r : Considered} (h : r.Sound) (c : Call) : (r.call c).Sound := by
  cases c with
  | reportChanged => rfl
  | reset => rfl
  | _ => exact h

theorem sound_calls (calls : List Call) : (calls.foldl call {}).Sound :=
  List.foldlRecOn calls call rfl fun _ h c _ => h.call c

theorem Sound.reportChanged_iff {r : Considered} (h : r.Sound) :
    r.statistics.reportChanged.1 = true ↔ r.growth.sum ≠ 0 := by
  rw [growth, Counters.sum_growth, ne_eq, sub_eq_zero, ← h]
  exact decide_eq_true_iff.trans ne_comm

end Considered

/-- Whatever was done to the statistics of a bus: they are reported if the sum of what has been added to
the counters since the last report is not zero.  That is if anything has changed, unless the counters
have grown by `2^32` or more altogether. -/
theorem reportChanged_calls (calls : List Call) :
    let r : Considered := calls.foldl Considered.call {}
    (r.statistics.reportChanged.1 = true ↔ r.growth.sum ≠ 0) ∧
    (r.statistics.counters.watched = r.counters.watched → r.statistics.reportChanged.1 = false) ∧
    ((r.growth.map UInt32.toNat).sum < UInt32.size →
      (r.statistics.reportChanged.1 = true ↔ r.statistics.counters.watched ≠ r.counters.watched)) ∧
    ∀ (δ : Type) (b : Bus δ), b.statistics = r.statistics →
      (b.reportStatus .error).2 =
        if r.growth.sum = 0 then []
        else [.entry (some b.name) (.status .error r.statistics.counters)] := by
  intro r
  have hchanged : r.statistics.reportChanged.1 = true ↔ r.growth.sum ≠ 0 :=
    (Considered.sound_calls calls).reportChanged_iff
  have hsame : (∀ d ∈ r.growth, d = 0) ↔ r.statistics.counters.watched = r.counters.watched :=
    Counters.growth_eq_zero_iff _ _
  refine ⟨hchanged, ?_, ?_, ?_⟩
  · intro h
    have hzero : r.growth.sum = 0 := List.sum_eq_zero (hsame.mpr h)
    rw [Bool.eq_false_iff, ne_eq, hchanged]
    exact not_not_intro hzero
  · intro h
    rw [hchanged, ne_eq, sum_eq_zero_iff h, hsame]
  · intro δ b hb
    have hreport : (b.reportStatus .error).2 =
        if r.statistics.reportChanged.1 = true
        then [.entry (some b.name) (.status .error r.statistics.counters)] else [] := by
      rw [← hb]
      rfl
    rw [hreport]
    by_cases hzero : r.growth.sum = 0
    · rw [if_neg (fun h => hchanged.mp h hzero), if_pos hzero]
    · rw [if_pos (hchanged.mpr hzero), if_neg hzero]

/-- A report after frames that were received, and after errors that were noted, shows them. -/
theorem reportChanged_calls_of_growth :
    let calls : List Call :=
      [.countReceived, .reportChanged, .countReceived, .noteErrors 0x2000 3 0]
    let r : Considered := calls.foldl Considered.call {}
    (r.growth.map UInt32.toNat).sum < UInt32.size ∧
      r.statistics.counters.watched ≠ r.counters.watched ∧ r.statistics.reportChanged.1 = true := by
  intro calls r
  have hsmall : (r.growth.map UInt32.toNat).sum < UInt32.size := by decide
  have hwatched : r.statistics.counters.watched ≠ r.counters.watched := by decide
  exact ⟨hsmall, hwatched, ((reportChanged_calls calls).2.2.1 hsmall).mpr hwatched⟩

/-- One frame was received since the last report, and the controller counts one error less: the
counters are others, and they are not reported. -/
theorem hidden_change :
    let calls : List Call :=
      [.noteErrors 0x2000 5 0, .reportChanged, .countReceived, .noteErrors 0x2000 4 0]
    let r : Considered := calls.foldl Considered.call {}
    r.statistics.counters.watched ≠ r.counters.watched ∧ r.statistics.reportChanged.1 = false ∧
      ∀ (δ : Type) (b : Bus δ), b.statistics = r.statistics → (b.reportStatus .error).2 = [] := by
  intro calls r
  have hhidden : r.statistics.reportChanged.1 = false := by decide
  refine ⟨by decide, hhidden, ?_⟩
  intro δ b hb
  unfold Bus.reportStatus
  dsimp only
  rw [hb, hhidden]
  rfl

end Statistics
end Fieldbus
