import Fieldbus.Proofs.Device.Mcp2515.Polling
import Mathlib.Data.List.Perm.Basic

/-! Transmission on the chip.  The three transmit buffers hold the frames that wait to be sent; what
happens to other registers leaves them as they are (`Unmoved`).  The frames that were sent and those that
wait are, in some order, the frames that were taken (`Accounts`): a frame that is taken goes into a free
buffer and is read back from there unchanged, and sending only moves it from there to the bus. -/

namespace Fieldbus.Mcp2515.Chip

/-! ### Transmit buffers -/

/-- The control register of a transmit buffer, and the image that follows it. -/
def buffer (c : Chip) (n : UInt8) : List UInt8 :=
  c.readFrom (Address.transmitControl n) (imageLength + 1)

/-- The frame that waits in a transmit buffer. -/
def waiting? (c : Chip) (n : UInt8) : Option Frame :=
  if c.isRequested n then ofImage? none (c.readFrom (Address.transmitControl n + 1) imageLength)
  else none

/-- The frames that wait to be sent. -/
def outbox (c : Chip) : List Frame := transmitBuffers.filterMap c.waiting?

theorem waiting?_congr {c c' : Chip} {n : UInt8} (h : c'.buffer n = c.buffer n) :
    c'.isRequested n = c.isRequested n ∧ c'.waiting? n = c.waiting? n := by
  obtain ⟨hcontrol, himage⟩ :
      c'.get (Address.transmitControl n) = c.get (Address.transmitControl n) ∧
      c'.readFrom (Address.transmitControl n + 1) imageLength
        = c.readFrom (Address.transmitControl n + 1) imageLength := List.cons.inj h
  have hrequested : c'.isRequested n = c.isRequested n := by
    rw [isRequested, hcontrol, isRequested]
  refine ⟨hrequested, ?_⟩
  rw [waiting?, waiting?, hrequested, himage]

/-! ### What transmission sees -/

/-- For transmission there is no difference between two states of a chip. -/
structure Unmoved (before after : Chip) : Prop where
  transmitted : after.transmitted = before.transmitted
  buffers : ∀ n ∈ transmitBuffers, after.buffer n = before.buffer n

namespace Unmoved

variable {c c₁ c₂ : Chip}

theorem refl (c : Chip) : Unmoved c c := ⟨rfl, fun _ _ => rfl⟩

theorem trans (h₁ : Unmoved c c₁) (h₂ : Unmoved c₁ c₂) : Unmoved c c₂ :=
  ⟨h₂.transmitted.trans h₁.transmitted, fun n hn => (h₂.buffers n hn).trans (h₁.buffers n hn)⟩

theorem outbox (h : Unmoved c c₁) : c₁.outbox = c.outbox :=
  List.filterMap_congr fun n hn => (waiting?_congr (h.buffers n hn)).2

end Unmoved

/-- The registers of the transmit buffers. -/
def sending : List (Fin 128) :=
  transmitBuffers.flatMap fun n => span (Address.transmitControl n) (imageLength + 1)

theorem mem_sending {n : UInt8} (hn : n ∈ transmitBuffers) {p : Fin 128}
    (hp : p ∈ span (Address.transmitControl n) (imageLength + 1)) : p ∈ sending :=
  List.mem_flatMap.mpr ⟨n, hn, hp⟩

section Operations

variable (c : Chip) {address : UInt8}

theorem transmitted_setFrom (values : List UInt8) :
    (c.setFrom address values).transmitted = c.transmitted := by
  induction values generalizing c address with
  | nil => rfl
  | cons v values ih => exact ih (c.set address v)

theorem holding_setFrom (values : List UInt8) :
    (c.setFrom address values).holding = c.holding := by
  induction values generalizing c address with
  | nil => rfl
  | cons v values ih => exact ih (c.set address v)

theorem unmoved_set (value : UInt8) (h : slot address ∉ sending) :
    Unmoved c (c.set address value) := by
  refine ⟨rfl, fun n hn => readFrom_congr fun p hp => registers_set_of_ne c value ?_⟩
  rintro rfl
  exact h (mem_sending hn hp)

theorem unmoved_write (value : UInt8) (h : slot address ∉ sending) :
    Unmoved c (c.write address value) := by
  rw [write]
  split
  · exact (unmoved_set c value h).trans (unmoved_set _ _ (by decide +kernel))
  · exact unmoved_set c value h

theorem unmoved_setFrom {values : List UInt8}
    (h : ∀ p ∈ span address values.length, p ∉ sending) : Unmoved c (c.setFrom address values) := by
  refine ⟨c.transmitted_setFrom values, fun n hn => readFrom_congr fun p hp => ?_⟩
  exact registers_setFrom_of_not_mem c fun hmem => h p hmem (mem_sending hn hp)

theorem unmoved_hold (holding : Bool) : Unmoved c { c with holding } := ⟨rfl, fun _ _ => rfl⟩

theorem unmoved_raiseFlags (bits : UInt8) : Unmoved c (c.raise Address.interruptFlags bits) :=
  unmoved_set c _ (by decide +kernel)

theorem unmoved_inject (f : Frame) : Unmoved c (c.inject f).2 := by
  have hlatch : ∀ n ∈ [(0 : UInt8), 1], Unmoved c (c.latch n f) := by
    intro n hn
    refine (unmoved_setFrom c ?_).trans (unmoved_raiseFlags _ _)
    rw [length_image]
    revert n
    decide +kernel
  rw [inject]
  split
  · exact hlatch 0 (by decide)
  split
  · exact hlatch 1 (by decide)
  · exact (unmoved_set c _ (by decide +kernel)).trans (unmoved_raiseFlags _ _)

end Operations

/-! ### The commands of the driver -/

/-- The status tells of each transmit buffer whether it waits. -/
theorem statusByte_and (c : Chip) {n : UInt8} (hn : n ∈ transmitBuffers) :
    c.statusByte &&& (0x04 <<< (2 * n)) = if c.isRequested n then 0x04 <<< (2 * n) else 0 := by
  have hother : ∀ (b : Prop) [Decidable b] (x mask : UInt8), x &&& mask = 0 →
      (if b then x else 0) &&& mask = 0 := by
    intro b _ x mask h
    split
    · exact h
    · exact UInt8.zero_and
  have hown : ∀ (b : Bool) (x : UInt8), (if b then x else 0) &&& x = if b then x else 0 := by
    intro b x
    cases b
    · exact UInt8.zero_and
    · exact UInt8.and_self
  have hflags : ∀ mask : UInt8, (Flag.received0 ||| Flag.received1) &&& mask = 0 →
      c.get Address.interruptFlags &&& (Flag.received0 ||| Flag.received1) &&& mask = 0 :=
    fun _ h => Flags.and_and_of_disjoint _ h
  obtain rfl | rfl | rfl := eq_of_mem_transmitBuffers hn
  all_goals
    simp (disch := decide) only [statusByte, transmitBuffers, List.foldl_cons, List.foldl_nil,
      Flags.or_and, hflags, hother, hown, UInt8.zero_or, UInt8.or_zero]

/-- A transmit buffer is free for the driver if it does not wait. -/
theorem freeBuffer?_statusByte (c : Chip) :
    freeBuffer? c.statusByte = transmitBuffers.find? fun n => !c.isRequested n := by
  have hbit : ∀ n ∈ transmitBuffers,
      c.statusByte &&& (0x04 <<< (2 * n)) = 0 ↔ ¬ c.isRequested n = true := by
    intro n hn
    rw [c.statusByte_and hn]
    split
    · next h =>
      refine iff_of_false ?_ (not_not_intro h)
      obtain rfl | rfl | rfl := eq_of_mem_transmitBuffers hn <;> decide
    · next h => exact iff_of_true rfl h
  have h₀ : c.statusByte &&& 0x04 = 0 ↔ _ := hbit 0 (by decide)
  have h₁ : c.statusByte &&& 0x10 = 0 ↔ _ := hbit 1 (by decide)
  have h₂ : c.statusByte &&& 0x40 = 0 ↔ _ := hbit 2 (by decide)
  simp only [freeBuffer?, h₀, h₁, h₂, transmitBuffers, List.find?_cons, List.find?_nil]
  cases c.isRequested 0 <;> cases c.isRequested 1 <;> cases c.isRequested 2 <;> rfl

/-- A frame in transmit buffer `n`, and asked to be sent. -/
def load (c : Chip) (n : UInt8) (f : Frame) : Chip :=
  (c.setFrom (Address.transmitControl n + 1) (image f)).raise (Address.transmitControl n)
    Flag.requested

/-- A frame is refused if every buffer waits, and goes into one that does not otherwise. -/
theorem take_cases (c : Chip) (f : Frame) :
    (transmitBuffers.all c.isRequested = true ∧ c.take f = (.busy, c)) ∨
    (transmitBuffers.all c.isRequested = false ∧
      ∃ n ∈ transmitBuffers, c.isRequested n = false ∧
        c.take f = (.accepted, if c.holding then c.load n f else (c.load n f).send n)) := by
  have hfree := c.freeBuffer?_statusByte
  rw [take]
  cases hfind : transmitBuffers.find? fun n => !c.isRequested n with
  | none =>
    rw [hfree, hfind]
    refine .inl ⟨List.all_eq_true.mpr fun n hn => ?_, rfl⟩
    simpa using List.find?_eq_none.mp hfind n hn
  | some n =>
    rw [hfree, hfind]
    have hn : n ∈ transmitBuffers := List.mem_of_find?_eq_some hfind
    have hunrequested : c.isRequested n = false := by simpa using List.find?_some hfind
    refine .inr ⟨?_, n, hn, hunrequested, ?_⟩
    · refine List.all_eq_false.mpr ⟨n, hn, ?_⟩
      rw [hunrequested]
      exact Bool.false_ne_true
    · have hholding : (c.load n f).holding = c.holding := holding_setFrom ..
      rw [← hholding]
      rfl

/-! ### Frames that are taken and frames that are sent -/

theorem span_apart : ∀ n ∈ transmitBuffers, ∀ m ∈ transmitBuffers, m ≠ n →
    ∀ p ∈ span (Address.transmitControl n) (imageLength + 1),
      p ∉ span (Address.transmitControl m) (imageLength + 1) := by
  decide +kernel

theorem span_image : ∀ n ∈ transmitBuffers,
    (span (Address.transmitControl n + 1) imageLength).Nodup ∧
    slot (Address.transmitControl n) ∉ span (Address.transmitControl n + 1) imageLength := by
  decide +kernel

section Buffers

variable {c c' : Chip} {n m : UInt8} (hn : n ∈ transmitBuffers)
include hn

theorem buffer_set_other (hm : m ∈ transmitBuffers) (hne : m ≠ n) (value : UInt8) :
    (c.set (Address.transmitControl n) value).buffer m = c.buffer m := by
  refine readFrom_congr fun p hp => registers_set_of_ne c value ?_
  rintro rfl
  exact span_apart n hn m hm hne _ (List.mem_cons_self ..) hp

theorem buffer_setFrom_other (hm : m ∈ transmitBuffers) (hne : m ≠ n) (f : Frame) :
    (c.setFrom (Address.transmitControl n + 1) (image f)).buffer m = c.buffer m := by
  refine readFrom_congr fun p hp => registers_setFrom_of_not_mem c fun hmem => ?_
  rw [length_image] at hmem
  exact span_apart n hn m hm hne p (List.mem_cons_of_mem _ hmem) hp

theorem buffer_load_other (hm : m ∈ transmitBuffers) (hne : m ≠ n) (f : Frame) :
    (c.load n f).buffer m = c.buffer m :=
  (buffer_set_other hn hm hne _).trans (buffer_setFrom_other hn hm hne f)

/-- The frame that was loaded is the one that waits. -/
theorem waiting?_load (f : Frame) : (c.load n f).waiting? n = some f.anonymous := by
  have hrequested : (c.load n f).isRequested n = true := by
    rw [isRequested, load, raise, get_set_self]
    exact decide_eq_true (Flags.or_and_ne_zero _ (by decide))
  obtain ⟨hnodup, hcontrol⟩ := span_image n hn
  have himage : (c.load n f).readFrom (Address.transmitControl n + 1) imageLength = image f := by
    have hlength : (image f).length = imageLength := length_image f
    rw [load, raise, readFrom_congr fun p hp =>
      registers_set_of_ne _ _ (ne_of_mem_of_not_mem hp hcontrol).symm]
    rw [← hlength] at hnodup ⊢
    exact readFrom_setFrom c hnodup
  rw [waiting?, if_pos hrequested, himage, ofImage?_image]
  rfl

theorem buffer_send_other (hm : m ∈ transmitBuffers) (hne : m ≠ n) :
    (c.send n).buffer m = c.buffer m :=
  ((unmoved_raiseFlags _ _).buffers m hm).trans (buffer_set_other hn hm hne _)

theorem waiting?_send : (c.send n).waiting? n = none := by
  have hflags := (unmoved_raiseFlags ({ c with transmitted := (c.send n).transmitted }.clear
    (Address.transmitControl n) Flag.requested) (Flag.sent0 <<< n)).buffers n hn
  have hrequested : (c.send n).isRequested n = false := by
    refine (waiting?_congr hflags).1.trans ?_
    rw [isRequested, clear, get_set_self]
    exact decide_eq_false (not_not_intro (Flags.and_and_of_disjoint _ (by decide)))
  rw [waiting?, hrequested, if_neg Bool.false_ne_true]

/-- If all buffers but one are the same, the frames that wait differ by the one of that buffer. -/
theorem perm_outbox (h : ∀ m ∈ transmitBuffers, m ≠ n → c'.buffer m = c.buffer m) :
    (c'.outbox ++ (c.waiting? n).toList).Perm ((c'.waiting? n).toList ++ c.outbox) := by
  have hsplit : ∀ c : Chip, c.outbox.Perm
      ((c.waiting? n).toList ++ (transmitBuffers.erase n).filterMap c.waiting?) := by
    intro c
    refine ((List.perm_cons_erase hn).filterMap c.waiting?).trans ?_
    rw [List.filterMap_cons]
    cases c.waiting? n <;> exact .refl _
  have hnodup : transmitBuffers.Nodup := by decide
  have hothers : (transmitBuffers.erase n).filterMap c'.waiting?
      = (transmitBuffers.erase n).filterMap c.waiting? := by
    refine List.filterMap_congr fun m hm => ?_
    obtain ⟨hne, hmem⟩ := hnodup.mem_erase_iff.mp hm
    exact (waiting?_congr (h m hmem hne)).2
  have hafter := hothers ▸ hsplit c'
  refine (hafter.append_right _).trans ?_
  rw [List.append_assoc]
  exact (List.perm_append_comm.trans (hsplit c).symm).append_left _

end Buffers

/-- The frames sent since the chip had sent those of `before`, and those that wait, are the accepted
ones. -/
def Accounts (c : Chip) (before accepted : List Frame) : Prop :=
  ∃ added, c.transmitted = before ++ added ∧ (added ++ c.outbox).Perm accepted

namespace Accounts

variable {c c' : Chip} {before accepted : List Frame} {n : UInt8}

theorem unmoved (h : c.Accounts before accepted) (hc : Unmoved c c') :
    c'.Accounts before accepted := by
  obtain ⟨added, htransmitted, hperm⟩ := h
  refine ⟨added, hc.transmitted.trans htransmitted, ?_⟩
  rw [hc.outbox]
  exact hperm

theorem send (h : c.Accounts before accepted) (hn : n ∈ transmitBuffers)
    (hrequested : c.isRequested n = true) : (c.send n).Accounts before accepted := by
  obtain ⟨added, htransmitted, hperm⟩ := h
  have hsent : (c.send n).transmitted = c.transmitted ++ (c.waiting? n).toList := by
    rw [waiting?, if_pos hrequested]
    rfl
  have houtbox := perm_outbox (c := c) hn fun m hm hne => buffer_send_other hn hm hne
  rw [waiting?_send hn] at houtbox
  refine ⟨added ++ (c.waiting? n).toList, ?_, ?_⟩
  · rw [hsent, htransmitted, List.append_assoc]
  · rw [List.append_assoc]
    exact ((List.perm_append_comm.trans houtbox).append_left added).trans hperm

theorem load (h : c.Accounts before accepted) (hn : n ∈ transmitBuffers)
    (hfree : c.isRequested n = false) (f : Frame) :
    (c.load n f).Accounts before (accepted ++ [f.anonymous]) := by
  obtain ⟨added, htransmitted, hperm⟩ := h
  have houtbox := perm_outbox (c := c) hn fun m hm hne => buffer_load_other hn hm hne f
  have hnone : c.waiting? n = none := by
    rw [waiting?, hfree, if_neg Bool.false_ne_true]
  rw [waiting?_load hn, hnone, Option.toList_none, List.append_nil] at houtbox
  refine ⟨added, (transmitted_setFrom c _).trans htransmitted, ?_⟩
  have hlast : (added ++ (c.load n f).outbox).Perm ((added ++ c.outbox) ++ [f.anonymous]) := by
    rw [List.append_assoc]
    exact (houtbox.trans List.perm_append_comm).append_left added
  exact hlast.trans (hperm.append_right _)

theorem take (h : c.Accounts before accepted) (f : Frame) :
    (c.take f).2.Accounts before
      (if (c.take f).1 = .accepted then accepted ++ [f.anonymous] else accepted) := by
  obtain ⟨-, htake⟩ | ⟨-, n, hn, hfree, htake⟩ := c.take_cases f
  · rw [htake]
    exact h
  rw [htake, if_pos rfl]
  have hload := h.load hn hfree f
  cases c.holding with
  | true => exact hload
  | false =>
    have hrequested : (c.load n f).isRequested n = true := by
      by_contra hnot
      have hwaiting := waiting?_load (c := c) hn f
      rw [waiting?, if_neg hnot] at hwaiting
      exact nomatch hwaiting
    exact hload.send hn hrequested

theorem release (h : c.Accounts before accepted) : c.release.Accounts before accepted := by
  have hsend : ∀ buffers ⊆ transmitBuffers, ∀ c : Chip, c.Accounts before accepted →
      (buffers.foldl (fun c n => if c.isRequested n then c.send n else c) c).Accounts
        before accepted := by
    intro buffers hbuffers c h
    induction buffers generalizing c with
    | nil => exact h
    | cons n buffers ih =>
      obtain ⟨hn, hrest⟩ := List.cons_subset.mp hbuffers
      refine ih hrest _ ?_
      show Accounts (if _ then _ else _) _ _
      split
      · next hrequested => exact h.send hn hrequested
      · exact h
  exact hsend _ (List.Subset.refl _) _ (h.unmoved (unmoved_hold c false))

end Accounts

/-- Only a buffer that does not wait is changed for a frame. -/
theorem buffer_take (c : Chip) (f : Frame) {m : UInt8} (hm : m ∈ transmitBuffers)
    (hrequested : c.isRequested m = true) : (c.take f).2.buffer m = c.buffer m := by
  obtain ⟨-, htake⟩ | ⟨-, n, hn, hfree, htake⟩ := c.take_cases f
  · rw [htake]
  have hne : m ≠ n := by
    rintro rfl
    exact Bool.false_ne_true (hfree.symm.trans hrequested)
  have hload : (c.load n f).buffer m = c.buffer m := buffer_load_other hn hm hne f
  rw [htake]
  cases c.holding with
  | true => exact hload
  | false => exact (buffer_send_other hn hm hne).trans hload

theorem Fresh.accounts {c : Chip} (h : c.Fresh) : c.Accounts c.transmitted [] := by
  have hempty : c.outbox = [] := by
    refine List.filterMap_eq_nil_iff.mpr fun n hn => ?_
    rw [waiting?, h.unrequested n hn, if_neg Bool.false_ne_true]
  refine ⟨[], (List.append_nil _).symm, ?_⟩
  rw [hempty]
  exact .refl _

end Fieldbus.Mcp2515.Chip
