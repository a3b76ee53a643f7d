import Fieldbus.Device.Mcp2515.Chip
import Fieldbus.Proofs.Device.Mcp2515.Image

/-! Reception on the chip.  The two receive buffers hold the frames that were latched; what happens to
other registers and to other flags leaves them as they are (`Undisturbed`).  A frame that arrives goes
to the first buffer unless it is occupied, and then to the second one (`latched_inject`). -/

namespace Fieldbus.Mcp2515.Chip

/-! ### Registers -/

theorem get_set_self (c : Chip) (address value : UInt8) :
    (c.set address value).get address = value := by
  simp [get, set]

theorem registers_set_of_ne (c : Chip) {address : UInt8} (value : UInt8) {p : Fin 128}
    (h : slot address ≠ p) : (c.set address value).registers[p] = c.registers[p] := by
  have hval : (slot address).val ≠ p.val := fun heq => h (Fin.ext heq)
  simp [set, hval]

theorem set_get_self (c : Chip) (address : UInt8) : c.set address (c.get address) = c := by
  obtain ⟨registers, holding, refusing, transmitted⟩ := c
  simp [set, get]

theorem set_set (c : Chip) (address value value' : UInt8) :
    (c.set address value).set address value' = c.set address value' := by
  simp [set]

theorem set_comm (c : Chip) {address address' : UInt8} (h : slot address ≠ slot address')
    (value value' : UInt8) :
    (c.set address value).set address' value' = (c.set address' value').set address value := by
  have hval : (slot address).val ≠ (slot address').val := fun heq => h (Fin.ext heq)
  simp only [set, Chip.mk.injEq, and_true]
  exact Vector.set_comm _ _ hval

theorem get_set_of_ne (c : Chip) {address address' : UInt8} (h : slot address ≠ slot address')
    (value : UInt8) : (c.set address value).get address' = c.get address' :=
  registers_set_of_ne c value h

/-- The places of `n` registers from an address on. -/
def span (address : UInt8) : Nat → List (Fin 128)
  | 0 => []
  | n + 1 => slot address :: span (address + 1) n

theorem registers_setFrom_of_not_mem (c : Chip) {address : UInt8} {values : List UInt8}
    {p : Fin 128} (h : p ∉ span address values.length) :
    (c.setFrom address values).registers[p] = c.registers[p] := by
  induction values generalizing c address with
  | nil => rfl
  | cons v values ih =>
    obtain ⟨hp, hrest⟩ := not_or.mp (mt List.mem_cons.mpr h)
    rw [setFrom, ih _ hrest, registers_set_of_ne c v (Ne.symm hp)]

theorem readFrom_congr {c c' : Chip} {address : UInt8} {n : Nat}
    (h : ∀ p ∈ span address n, c'.registers[p] = c.registers[p]) :
    c'.readFrom address n = c.readFrom address n := by
  induction n generalizing address with
  | zero => rfl
  | succ n ih =>
    obtain ⟨hp, hrest⟩ := List.forall_mem_cons.mp h
    rw [readFrom, readFrom, ih hrest]
    exact congrArg (· :: _) hp

theorem readFrom_setFrom (c : Chip) {address : UInt8} {values : List UInt8}
    (h : (span address values.length).Nodup) :
    (c.setFrom address values).readFrom address values.length = values := by
  induction values generalizing c address with
  | nil => rfl
  | cons v values ih =>
    obtain ⟨hp, hrest⟩ := List.nodup_cons.mp h
    have hv : ((c.set address v).setFrom (address + 1) values).get address = v :=
      (registers_setFrom_of_not_mem _ hp).trans (c.get_set_self address v)
    rw [setFrom, List.length_cons, readFrom, ih _ hrest, hv]

theorem registers_write_of_ne (c : Chip) {address : UInt8} (value : UInt8) {p : Fin 128}
    (h : slot address ≠ p) (hstatus : slot Address.status ≠ p) :
    (c.write address value).registers[p] = c.registers[p] := by
  rw [write]
  split
  · rw [registers_set_of_ne _ _ hstatus, registers_set_of_ne _ _ h]
  · exact registers_set_of_ne _ _ h

theorem write_of_ne (c : Chip) {address : UInt8} (h : address ≠ Address.control) (value : UInt8) :
    c.write address value = c.set address value := by
  rw [write, decide_eq_false h, Bool.false_and]
  rfl

/-! ### What reception sees -/

/-- The registers that reception depends on, but for the flags. -/
def receiving : List (Fin 128) :=
  slot Address.interruptEnable ::
    (span (Address.receiveBuffer 0) imageLength ++ span (Address.receiveBuffer 1) imageLength)

/-- For reception there is no difference between two states of a chip. -/
structure Undisturbed (before after : Chip) : Prop where
  flags : after.get Address.interruptFlags &&& (Flag.received0 ||| Flag.received1)
    = before.get Address.interruptFlags &&& (Flag.received0 ||| Flag.received1)
  registers : ∀ p ∈ receiving, after.registers[p] = before.registers[p]

namespace Undisturbed

variable {c c₁ c₂ : Chip}

theorem refl (c : Chip) : Undisturbed c c := ⟨rfl, fun _ _ => rfl⟩

theorem trans (h₁ : Undisturbed c c₁) (h₂ : Undisturbed c₁ c₂) : Undisturbed c c₂ :=
  ⟨h₂.flags.trans h₁.flags, fun p hp => (h₂.registers p hp).trans (h₁.registers p hp)⟩

theorem ofRegisters (h : ∀ p ∈ slot Address.interruptFlags :: receiving,
    c₁.registers[p] = c.registers[p]) : Undisturbed c c₁ :=
  ⟨congrArg (· &&& _) (h _ (List.mem_cons_self ..)), fun p hp => h p (List.mem_cons_of_mem _ hp)⟩

end Undisturbed

section Operations

variable (c : Chip) {address : UInt8}

theorem undisturbed_set (value : UInt8)
    (h : slot address ∉ slot Address.interruptFlags :: receiving) :
    Undisturbed c (c.set address value) :=
  .ofRegisters fun _ hp => registers_set_of_ne c value (ne_of_mem_of_not_mem hp h).symm

theorem undisturbed_setFlags {value : UInt8}
    (h : value &&& (Flag.received0 ||| Flag.received1)
      = c.get Address.interruptFlags &&& (Flag.received0 ||| Flag.received1)) :
    Undisturbed c (c.set Address.interruptFlags value) := by
  refine ⟨?_, fun p hp => registers_set_of_ne c value (ne_of_mem_of_not_mem hp ?_).symm⟩
  · rw [get_set_self, h]
  · decide

theorem undisturbed_write (value : UInt8)
    (h : slot address ∉ slot Address.interruptFlags :: receiving) :
    Undisturbed c (c.write address value) :=
  .ofRegisters fun _ hp => registers_write_of_ne c value (ne_of_mem_of_not_mem hp h).symm
    (ne_of_mem_of_not_mem hp (by decide)).symm

theorem undisturbed_setFrom {values : List UInt8}
    (h : ∀ p ∈ slot Address.interruptFlags :: receiving, p ∉ span address values.length) :
    Undisturbed c (c.setFrom address values) :=
  .ofRegisters fun p hp => registers_setFrom_of_not_mem c (h p hp)

theorem undisturbed_raiseFlags {bits : UInt8}
    (h : bits &&& (Flag.received0 ||| Flag.received1) = 0) :
    Undisturbed c (c.raise Address.interruptFlags bits) :=
  undisturbed_setFlags c (Flags.or_and_of_disjoint _ h)

/-- Clearing flags other than those of the receive buffers. -/
theorem undisturbed_clearOthers (flags : UInt8) :
    let others := flags &&& ~~~ (Flag.received0 ||| Flag.received1)
    Undisturbed c (c.write Address.interruptFlags
      (c.get Address.interruptFlags &&& ~~~ others ||| 0 &&& others)) := by
  intro others
  rw [UInt8.zero_and, UInt8.or_zero]
  exact undisturbed_setFlags c (Flags.and_and_of_subset _ (Flags.not_and_not_and _ _))

end Operations

theorem eq_of_mem_transmitBuffers {n : UInt8} (h : n ∈ transmitBuffers) :
    n = 0 ∨ n = 1 ∨ n = 2 := by
  simpa [transmitBuffers] using h

theorem control_not_mem {n : UInt8} (h : n ∈ transmitBuffers) :
    slot (Address.transmitControl n) ∉ slot Address.interruptFlags :: receiving := by
  obtain rfl | rfl | rfl := eq_of_mem_transmitBuffers h <;> decide

theorem undisturbed_send (c : Chip) {n : UInt8} (h : n ∈ transmitBuffers) :
    Undisturbed c (c.send n) := by
  have hflags : (Flag.sent0 <<< n) &&& (Flag.received0 ||| Flag.received1) = 0 := by
    obtain rfl | rfl | rfl := eq_of_mem_transmitBuffers h <;> decide
  have hsent : ∀ transmitted, Undisturbed c { c with transmitted } :=
    fun _ => .ofRegisters fun _ _ => rfl
  have hcleared : ∀ c' : Chip,
      Undisturbed c' (c'.clear (Address.transmitControl n) Flag.requested) :=
    fun c' => undisturbed_set c' _ (control_not_mem h)
  exact (hsent _).trans ((hcleared _).trans (undisturbed_raiseFlags _ hflags))

theorem undisturbed_request (c : Chip) {n : UInt8} (h : n ∈ transmitBuffers) :
    Undisturbed c (c.request n) := by
  have hraised := undisturbed_set c
    (c.get (Address.transmitControl n) ||| Flag.requested) (control_not_mem h)
  rw [request]
  split
  · exact hraised
  · exact hraised.trans (undisturbed_send _ h)

theorem undisturbed_foldl {step : Chip → UInt8 → Chip} {buffers : List UInt8}
    (h : ∀ n ∈ buffers, ∀ c, Undisturbed c (step c n)) (c : Chip) :
    Undisturbed c (buffers.foldl step c) := by
  induction buffers generalizing c with
  | nil => exact .refl c
  | cons n buffers ih =>
    obtain ⟨hn, hrest⟩ := List.forall_mem_cons.mp h
    exact (hn c).trans (ih hrest _)

theorem undisturbed_hold (c : Chip) (holding : Bool) : Undisturbed c { c with holding } :=
  .ofRegisters fun _ _ => rfl

theorem undisturbed_release (c : Chip) : Undisturbed c c.release := by
  rw [release]
  refine (undisturbed_hold c false).trans (undisturbed_foldl (fun n hn c => ?_) _)
  split
  · exact undisturbed_send c hn
  · exact .refl c

/-! ### Receive buffers -/

/-- Each flag and image of a receive buffer is left as it was. -/
theorem Undisturbed.buffer {c c' : Chip} (h : Undisturbed c c') {n : UInt8}
    (hn : n ∈ [(0 : UInt8), 1]) :
    c'.get Address.interruptFlags &&& (Flag.received0 <<< n)
      = c.get Address.interruptFlags &&& (Flag.received0 <<< n) ∧
    c'.readFrom (Address.receiveBuffer n) imageLength
      = c.readFrom (Address.receiveBuffer n) imageLength := by
  have hmask : (Flag.received0 ||| Flag.received1) &&& (Flag.received0 <<< n)
      = Flag.received0 <<< n := by
    rcases List.mem_cons.mp hn with rfl | hn
    · rfl
    · rw [List.mem_singleton.mp hn]
      rfl
  refine ⟨?_, readFrom_congr fun p hp => h.registers p (List.mem_cons_of_mem _ ?_)⟩
  · rw [← hmask, ← UInt8.and_assoc, ← UInt8.and_assoc, h.flags]
  · rcases List.mem_cons.mp hn with rfl | hn
    · exact List.mem_append_left _ hp
    · rw [List.mem_singleton.mp hn] at hp
      exact List.mem_append_right _ hp

/-- Receive buffer `n` is free, or the image of a frame occupies it. -/
def Holds (c : Chip) (n : UInt8) : Option Frame → Prop
  | none => c.get Address.interruptFlags &&& (Flag.received0 <<< n) = 0
  | some f => c.get Address.interruptFlags &&& (Flag.received0 <<< n) ≠ 0 ∧
      c.readFrom (Address.receiveBuffer n) imageLength = image f

/-- Every interrupt is enabled, and the receive buffers hold these frames. -/
structure Latched (c : Chip) (first second : Option Frame) : Prop where
  enabled : c.get Address.interruptEnable = 0xff
  first : c.Holds 0 first
  second : c.Holds 1 second

namespace Latched

variable {c : Chip} {x y : Option Frame}

theorem undisturbed (h : c.Latched x y) {c' : Chip} (hc : Undisturbed c c') : c'.Latched x y := by
  -- What a buffer holds depends on its own flag and registers only.
  have hholds : ∀ {n z}, n ∈ [(0 : UInt8), 1] → c.Holds n z → c'.Holds n z := by
    intro n z hn hz
    obtain ⟨hflags, himage⟩ := hc.buffer hn
    cases z with
    | none => exact hflags.trans hz
    | some f => exact ⟨hflags ▸ hz.1, himage.trans hz.2⟩
  exact ⟨(hc.registers _ (List.mem_cons_self ..)).trans h.enabled, hholds (by decide) h.first,
    hholds (by decide) h.second⟩

/-- The interrupt line is asserted as long as a receive buffer is occupied. -/
theorem eq_none (h : c.Latched x y) (hasserted : c.asserted = false) : x = none ∧ y = none := by
  have hflags : c.get Address.interruptFlags = 0 := by
    have hzero := not_not.mp (of_decide_eq_false hasserted)
    rwa [h.enabled, show (0xff : UInt8) = -1 from rfl, UInt8.and_neg_one] at hzero
  have hnone : ∀ {n z}, c.Holds n z → z = none := by
    intro n z hz
    cases z with
    | none => rfl
    | some f =>
      refine absurd ?_ hz.1
      rw [hflags, UInt8.zero_and]
  exact ⟨hnone h.first, hnone h.second⟩

end Latched

/-- One of the receive buffers and the other one. -/
def bufferPairs : List (UInt8 × UInt8) := [(0, 1), (1, 0)]

theorem forall_bufferPairs {P : UInt8 × UInt8 → Prop} (first : P (0, 1)) (second : P (1, 0)) :
    ∀ q ∈ bufferPairs, P q :=
  List.forall_mem_cons.mpr ⟨first, List.forall_mem_singleton.mpr second⟩

theorem flags_apart : ∀ q ∈ bufferPairs,
    (Flag.received0 <<< q.1) &&& (Flag.received0 <<< q.1) ≠ 0 ∧
    (Flag.received0 <<< q.1) &&& (Flag.received0 <<< q.2) = 0 ∧
    (~~~ (Flag.received0 <<< q.1)) &&& (Flag.received0 <<< q.1) = 0 ∧
    (~~~ (Flag.received0 <<< q.1)) &&& (Flag.received0 <<< q.2) = Flag.received0 <<< q.2 := by
  refine forall_bufferPairs ?_ ?_ <;> decide

theorem registers_apart : ∀ q ∈ bufferPairs,
    (span (Address.receiveBuffer q.1) imageLength).Nodup ∧
    (∀ p ∈ slot Address.interruptEnable :: span (Address.receiveBuffer q.1) imageLength,
      slot Address.interruptFlags ≠ p) ∧
    ∀ p ∈ slot Address.interruptEnable :: slot Address.interruptFlags ::
      span (Address.receiveBuffer q.2) imageLength,
      p ∉ span (Address.receiveBuffer q.1) imageLength := by
  refine forall_bufferPairs ?_ ?_ <;> decide +kernel

theorem bufferPairs_swap : ∀ q ∈ bufferPairs, q.swap ∈ bufferPairs := by
  refine forall_bufferPairs ?_ ?_ <;> decide

def latch (c : Chip) (n : UInt8) (f : Frame) : Chip :=
  (c.setFrom (Address.receiveBuffer n) (image f)).raise Address.interruptFlags
    (Flag.received0 <<< n)

def unlatch (c : Chip) (n : UInt8) : Chip :=
  c.clear Address.interruptFlags (Flag.received0 <<< n)

/-- The commands that read a receive buffer also make it free. -/
theorem execute_readReceive (c : Chip) {n : UInt8} (hn : n ∈ [(0 : UInt8), 1]) :
    c.execute (Command.readReceive ||| n <<< 2) (List.replicate imageLength 0)
      = (.ok (0 :: c.readFrom (Address.receiveBuffer n) imageLength), c.unlatch n) := by
  rcases List.mem_cons.mp hn with rfl | hn
  · rfl
  · obtain rfl := List.mem_singleton.mp hn
    rfl

theorem execute_loadTransmit (c : Chip) {n : UInt8} (hn : n ∈ transmitBuffers)
    (image : List UInt8) :
    c.execute (Command.loadTransmit ||| n <<< 1) image
      = (.ok (List.replicate (image.length + 1) 0),
          c.setFrom (Address.transmitControl n + 1) image) := by
  obtain rfl | rfl | rfl := eq_of_mem_transmitBuffers hn <;> rfl

theorem execute_requestToSend (c : Chip) {n : UInt8} (hn : n ∈ transmitBuffers) :
    c.execute (Command.requestToSend ||| 1 <<< n) [] = (.ok [0], c.request n) := by
  obtain rfl | rfl | rfl := eq_of_mem_transmitBuffers hn <;> rfl

section Buffers

variable {c : Chip} {n m : UInt8} (hnm : (n, m) ∈ bufferPairs)
include hnm

theorem holds_setFlags {z : Option Frame} (hz : c.Holds n z) {value : UInt8}
    (h : value &&& (Flag.received0 <<< n)
      = c.get Address.interruptFlags &&& (Flag.received0 <<< n)) :
    (c.set Address.interruptFlags value).Holds n z := by
  obtain ⟨-, hflags, -⟩ := registers_apart _ hnm
  have himage : (c.set Address.interruptFlags value).readFrom (Address.receiveBuffer n) imageLength
      = c.readFrom (Address.receiveBuffer n) imageLength :=
    readFrom_congr fun p hp => registers_set_of_ne c value (hflags p (List.mem_cons_of_mem _ hp))
  cases z with
  | none =>
    show (c.set _ value).get _ &&& _ = 0
    rw [get_set_self, h]
    exact hz
  | some f =>
    refine ⟨?_, himage.trans hz.2⟩
    rw [get_set_self, h]
    exact hz.1

theorem holds_latch (f : Frame) : (c.latch n f).Holds n (some f) := by
  obtain ⟨hflag, -⟩ := flags_apart _ hnm
  obtain ⟨hnodup, hflags, -⟩ := registers_apart _ hnm
  refine ⟨?_, ?_⟩
  · rw [latch, raise, get_set_self]
    exact Flags.or_and_ne_zero _ hflag
  · rw [latch, raise, readFrom_congr fun p hp =>
      registers_set_of_ne _ _ (hflags p (List.mem_cons_of_mem _ hp))]
    have hlength : (image f).length = imageLength := length_image f
    rw [← hlength] at hnodup ⊢
    exact readFrom_setFrom c hnodup

theorem holds_latch_other {z : Option Frame} (f : Frame) (hz : c.Holds m z) :
    (c.latch n f).get Address.interruptEnable = c.get Address.interruptEnable ∧
    (c.latch n f).Holds m z := by
  obtain ⟨-, hflag, -⟩ := flags_apart _ hnm
  obtain ⟨-, hflags, hother⟩ := registers_apart _ hnm
  have hset : ∀ p ∈ slot Address.interruptEnable :: slot Address.interruptFlags ::
      span (Address.receiveBuffer m) imageLength,
      (c.setFrom (Address.receiveBuffer n) (image f)).registers[p] = c.registers[p] := by
    intro p hp
    refine registers_setFrom_of_not_mem c ?_
    rw [length_image]
    exact hother p hp
  have hgetFlags : (c.setFrom (Address.receiveBuffer n) (image f)).get Address.interruptFlags
      = c.get Address.interruptFlags := hset _ (by simp)
  have himage : (c.setFrom (Address.receiveBuffer n) (image f)).readFrom
      (Address.receiveBuffer m) imageLength = c.readFrom (Address.receiveBuffer m) imageLength :=
    readFrom_congr fun p hp => hset p (by simp [hp])
  refine ⟨?_, holds_setFlags (bufferPairs_swap _ hnm) ?_ (Flags.or_and_of_disjoint _ hflag)⟩
  · exact (registers_set_of_ne _ _ (hflags _ (by simp))).trans (hset _ (by simp))
  · cases z with
    | none =>
      show (c.setFrom _ _).get _ &&& _ = 0
      rw [hgetFlags]
      exact hz
    | some g => exact ⟨hgetFlags ▸ hz.1, himage.trans hz.2⟩

/-- Freeing a buffer concerns its own flag only. -/
theorem buffer_unlatch :
    (c.unlatch n).get Address.interruptFlags &&& (Flag.received0 <<< n) = 0 ∧
    (c.unlatch n).get Address.interruptFlags &&& (Flag.received0 <<< m)
      = c.get Address.interruptFlags &&& (Flag.received0 <<< m) ∧
    (c.unlatch n).readFrom (Address.receiveBuffer m) imageLength
      = c.readFrom (Address.receiveBuffer m) imageLength := by
  obtain ⟨-, -, hown, hother⟩ := flags_apart _ hnm
  obtain ⟨-, hflags, -⟩ := registers_apart _ (bufferPairs_swap _ hnm)
  have hcleared : (c.unlatch n).get Address.interruptFlags
      = c.get Address.interruptFlags &&& ~~~ (Flag.received0 <<< n) := get_set_self ..
  rw [hcleared]
  refine ⟨Flags.and_and_of_disjoint _ hown, Flags.and_and_of_subset _ hother, ?_⟩
  exact readFrom_congr fun p hp =>
    registers_set_of_ne c _ (hflags p (List.mem_cons_of_mem _ hp))

theorem holds_unlatch {z : Option Frame} (hz : c.Holds m z) :
    (c.unlatch n).get Address.interruptEnable = c.get Address.interruptEnable ∧
    (c.unlatch n).Holds n none ∧ (c.unlatch n).Holds m z := by
  obtain ⟨-, hflags, -⟩ := registers_apart _ hnm
  obtain ⟨hown, hother, himage⟩ := buffer_unlatch (c := c) hnm
  refine ⟨registers_set_of_ne c _ (hflags _ (by simp)), hown, ?_⟩
  cases z with
  | none => exact hother.trans hz
  | some f => exact ⟨hother ▸ hz.1, himage.trans hz.2⟩

end Buffers

namespace Latched

variable {c : Chip} {x y : Option Frame}

theorem inject_first (h : c.Latched none y) (f : Frame) :
    (c.inject f).1 = true ∧ (c.inject f).2.Latched (some f) y := by
  have hinject : c.inject f = (true, c.latch 0 f) := if_pos h.first
  obtain ⟨henabled, hother⟩ := holds_latch_other (n := 0) (by decide) f h.second
  rw [hinject]
  exact ⟨rfl, henabled.trans h.enabled, holds_latch (m := 1) (by decide) f, hother⟩

theorem inject_second {g : Frame} (h : c.Latched (some g) none) (f : Frame) :
    (c.inject f).1 = true ∧ (c.inject f).2.Latched (some g) (some f) := by
  have hinject : c.inject f = (true, c.latch 1 f) := by
    rw [Chip.inject]
    exact (if_neg h.first.1).trans (if_pos h.second)
  obtain ⟨henabled, hother⟩ := holds_latch_other (n := 1) (by decide) f h.first
  rw [hinject]
  exact ⟨rfl, henabled.trans h.enabled, hother, holds_latch (m := 0) (by decide) f⟩

/-- A frame that finds both buffers occupied is lost. -/
theorem inject_full {g k : Frame} (h : c.Latched (some g) (some k)) (f : Frame) :
    (c.inject f).1 = false ∧ (c.inject f).2.Latched (some g) (some k) := by
  have hinject : c.inject f = (false,
      (c.raise Address.errorFlags Flag.overflow1).raise Address.interruptFlags Flag.error) := by
    rw [Chip.inject]
    exact (if_neg h.first.1).trans (if_neg h.second.1)
  have herrors : Undisturbed c (c.raise Address.errorFlags Flag.overflow1) :=
    undisturbed_set c _ (by decide)
  have hflags : Undisturbed (c.raise Address.errorFlags Flag.overflow1)
      ((c.raise Address.errorFlags Flag.overflow1).raise Address.interruptFlags Flag.error) :=
    undisturbed_raiseFlags _ (by decide)
  rw [hinject]
  exact ⟨rfl, h.undisturbed (herrors.trans hflags)⟩

end Latched

end Fieldbus.Mcp2515.Chip
