import Fieldbus.Proofs.Bus.Power
import Fieldbus.Proofs.Device.Operating

/-! What the power state of a bus says about its hardware.  A bus that is on stays on when a start or
a stop fails, and the hardware may have left its operating mode by then
(`Operated.not_operates_of_failed`).  But for that, a bus that is on has hardware in the mode that the
bus reports (`Operated.operates_operations`). -/

namespace Fieldbus

/-- What a bus is told, and what befalls its hardware. -/
inductive Operation where
  | start (setup : Setup)
  | stop
  | setPower (power : Power)
  | fault (fault : Hardware.Fault)

/-- A bus, and whether a start or a stop of it has failed since it was started last. -/
structure Operated where
  bus : Bus Hardware
  startFailed : Bool := false
  stopFailed : Bool := false

namespace Operated

def started (r : Operated) (o : Outcome Hardware (Except DeviceError Unit)) : Operated :=
  let failed := !o.result.toBool
  { bus := o.bus, startFailed := failed, stopFailed := r.stopFailed && failed }

def halted (r : Operated) (o : Outcome Hardware (Except DeviceError Unit)) : Operated :=
  { r with bus := o.bus, stopFailed := r.stopFailed || !o.result.toBool }

/-- Turning a bus on that runs is neither a start nor a stop. -/
def operation (r : Operated) : Operation → Operated
  | .start setup => r.started (r.bus.start setup)
  | .stop => r.halted r.bus.stop
  | .setPower .on =>
    let o := r.bus.setPower .on
    if r.bus.isRunning then { r with bus := o.bus } else r.started o
  | .setPower power => r.halted (r.bus.setPower power)
  | .fault fault => { r with bus.device := r.bus.device.suffer fault }

def operations (r : Operated) (operations : List Operation) : Operated :=
  operations.foldl operation r

/-- The hardware of a bus that is on is in the mode that the bus reports, unless a start or a stop has
failed.  A stop that fails does not take an on-chip controller out of it, a start that fails does. -/
structure Sound (r : Operated) : Prop where
  virtual : r.bus.device.Virtual
  operates : r.bus.power = .on → ∃ setup, r.bus.setup = some setup ∧
    (r.startFailed = false → r.stopFailed = false → r.bus.device.Operates setup) ∧
    (r.bus.device.isOnChip = true → (r.bus.device.Operates setup ↔ r.startFailed = false))

namespace Sound

variable {r : Operated}

theorem of_not_running (hvirtual : r.bus.device.Virtual) (hoff : r.bus.power ≠ .on) : r.Sound :=
  ⟨hvirtual, fun hon => absurd hon hoff⟩

theorem started (h : r.Sound) (setup : Setup) : (r.started (r.bus.start setup)).Sound := by
  obtain ⟨hresult, -, hdevice, -⟩ := r.bus.start_eq setup
  have hpower := r.bus.power_start setup
  have hsetup := r.bus.setup_start setup
  constructor
  case virtual =>
    show (r.bus.start setup).bus.device.Virtual
    rw [hdevice]
    exact Hardware.virtual_start h.virtual setup
  case operates =>
    intro hon
    simp only [Operated.started, hpower, hsetup, hdevice] at hon ⊢
    cases hok : (r.bus.start setup).result.toBool with
    | true =>
      rw [hresult] at hok
      have hoperates := Hardware.operates_start h.virtual hok
      exact ⟨setup, rfl, fun _ _ => hoperates, fun _ => iff_of_true hoperates rfl⟩
    | false =>
      rw [hok] at hon
      rw [hresult] at hok
      obtain ⟨reported, hreported, -⟩ := h.operates hon
      refine ⟨reported, hreported, by simp, fun hchip => ?_⟩
      rw [Hardware.isOnChip_start] at hchip
      exact iff_of_false (Hardware.not_operates_start h.virtual hchip hok reported) (by simp)

theorem halted (h : r.Sound) {power : Power} (hoff : power ≠ .on) :
    (r.halted (r.bus.halt power)).Sound := by
  obtain ⟨hresult, -, hdevice, -⟩ := r.bus.halt_eq power
  have hpower := congrArg Prod.fst (r.bus.deferred_halt power)
  have hsetup := r.bus.setup_halt power
  have hvirtual : (r.bus.halt power).bus.device.Virtual := by
    rw [hdevice]
    exact Hardware.virtual_stop h.virtual
  cases hok : (r.bus.halt power).result.toBool with
  | true =>
    rw [hok] at hpower
    exact of_not_running hvirtual fun hon => hoff (hpower.symm.trans hon)
  | false =>
    rw [hok] at hpower
    rw [hresult] at hok
    refine ⟨hvirtual, fun hon => ?_⟩
    obtain ⟨reported, hreported, -, honChip⟩ := h.operates (hpower.symm.trans hon)
    simp only [Operated.halted, hsetup, hdevice, hresult, hok]
    refine ⟨reported, hreported, by simp, fun hchip => ?_⟩
    rw [Hardware.isOnChip_stop] at hchip
    rw [Hardware.eq_of_stop_failed h.virtual hchip hok]
    exact honChip hchip

theorem suffer (h : r.Sound) (fault : Hardware.Fault) : (r.operation (.fault fault)).Sound := by
  refine ⟨(Hardware.virtual_suffer fault).mpr h.virtual, fun hon => ?_⟩
  obtain ⟨setup, hsetup, hoperates, honChip⟩ := h.operates hon
  simp only [Operated.operation, Hardware.operates_suffer, Hardware.isOnChip_suffer]
  exact ⟨setup, hsetup, hoperates, honChip⟩

theorem operation (h : r.Sound) (op : Operation) : (r.operation op).Sound := by
  cases op with
  | start setup => exact h.started setup
  | stop => exact h.halted (by decide)
  | setPower power =>
    cases power with
    | on =>
      cases hrunning : r.bus.isRunning with
      | true =>
        have hsame : r.operation (.setPower .on) = r := by
          simp only [Operated.operation, Bus.setPower, hrunning]
          cases r.bus.setup <;> rfl
        rw [hsame]
        exact h
      | false =>
        have hoff : r.bus.power ≠ .on := of_decide_eq_false hrunning
        simp only [Operated.operation, Bus.setPower, hrunning]
        cases hsetup : r.bus.setup with
        | some setup => exact h.started setup
        | none => exact of_not_running h.virtual hoff
    | sleep => exact h.halted (by decide)
    | deepSleep => exact h.halted (by decide)
    | off => exact h.halted (by decide)
  | fault fault => exact h.suffer fault

theorem operations (h : r.Sound) (ops : List Operation) : (r.operations ops).Sound := by
  induction ops generalizing r with
  | nil => exact h
  | cons op ops ih => exact ih (h.operation op)

end Sound

/-- Whatever a bus is told and whatever befalls its hardware: when the bus is on, the hardware is in
the mode that the bus reports, unless a start or a stop has failed since the bus was started.  For an
on-chip controller starts alone count, and after a failed one it is in another mode. -/
theorem operates_operations {b : Bus Hardware} (hvirtual : b.device.Virtual)
    (hoff : b.power ≠ .on) (ops : List Operation) :
    let r := operations { bus := b } ops
    r.bus.power = .on → ∃ setup, r.bus.setup = some setup ∧
      (r.startFailed = false → r.stopFailed = false → r.bus.device.Operates setup) ∧
      (r.bus.device.isOnChip = true → (r.bus.device.Operates setup ↔ r.startFailed = false)) :=
  ((Sound.of_not_running hvirtual hoff).operations ops).operates

/-- A start that succeeds makes up for one that failed. -/
theorem operates_operations_of_restart :
    let b : Bus Hardware := { name := .numbered 1, device := .onChip {} }
    let r := operations { bus := b }
      [.start ⟨.active, .kbps500⟩, .fault (.transceiver true), .start ⟨.listen, .kbps250⟩,
        .fault (.transceiver false), .start ⟨.listen, .kbps125⟩]
    b.device.Virtual ∧ b.power ≠ .on ∧ r.bus.power = .on ∧
      ∃ setup, r.bus.setup = some setup ∧ r.bus.device.Operates setup := by
  intro b r
  have hvirtual : b.device.Virtual := rfl
  have hoff : b.power ≠ .on := by decide
  have hon : r.bus.power = .on := by decide +kernel
  obtain ⟨setup, hsetup, -, honChip⟩ := operates_operations hvirtual hoff _ hon
  exact ⟨hvirtual, hoff, hon, setup, hsetup, (honChip (by decide +kernel)).mpr (by decide +kernel)⟩

/-- A start of a running bus fails on the way, because of a transceiver or of the second of its
transfers: the bus is on and reports its setup, but the hardware does not operate. -/
theorem not_operates_of_failed :
    let setup : Setup := ⟨.active, .kbps500⟩
    let onChip := operations { bus := { name := .numbered 1, device := .onChip {} } }
      [.start setup, .fault (.transceiver true), .start setup]
    let mcp2515 := operations { bus := { name := .numbered 1, device := .mcp2515 {} } }
      [.start setup, .fault (.transfers [false, true]), .start setup]
    (onChip.bus.power = .on ∧ onChip.bus.setup = some setup ∧
      ¬ onChip.bus.device.Operates setup) ∧
    (mcp2515.bus.power = .on ∧ mcp2515.bus.setup = some setup ∧
      ¬ mcp2515.bus.device.Operates setup) := by
  decide +kernel

end Operated
end Fieldbus
