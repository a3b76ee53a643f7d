import Fieldbus.Proofs.Device.Mcp2515.Starting
import Fieldbus.Device.Hardware

/-! The operating mode of the hardware, whatever fails.  A start that succeeds leaves the hardware in
the mode asked for (`Hardware.operates_start`).  A start that fails may have left that mode before: the
on-chip controller is in reset mode then (`Hardware.not_operates_start`). -/

namespace Fieldbus

namespace OnChip

/-- The controller takes part in the traffic, as set up. -/
structure Operates (d : OnChip) (setup : Setup) : Prop where
  outOfReset : d.controller.inReset = false
  setup : d.controller.setup = some setup

instance (d : OnChip) (setup : Setup) : Decidable (d.Operates setup) :=
  decidable_of_iff (d.controller.inReset = false ∧ d.controller.setup = some setup)
    ⟨fun h => ⟨h.1, h.2⟩, fun h => ⟨h.outOfReset, h.setup⟩⟩

variable {d : OnChip}

/-- The transceiver is all that can fail at a start, and the controller is in reset mode by then. -/
theorem start_cases (hreset : d.resetReading = none) (setup : Setup) :
    (Device.start setup d).2.resetReading = none ∧
    ((Device.start setup d).1.toBool = true → (Device.start setup d).2.Operates setup) ∧
    ((Device.start setup d).1.toBool = false →
      (Device.start setup d).2.controller.inReset = true) := by
  have hstart : Device.start setup d = start setup d := rfl
  cases hfails : d.controller.transceiverFails with
  | true =>
    simp [hstart, start, Controller.setReset, Controller.configure, Controller.setTransceiver,
      hfails, hreset, Except.toBool]
  | false =>
    simp [hstart, start, Controller.setReset, Controller.configure, Controller.setTransceiver,
      Controller.takeInterrupts, readsReset, hfails, hreset, Except.toBool]
    exact ⟨rfl, rfl⟩

/-- A stop that fails does so at the transceiver, before it has changed anything. -/
theorem stop_cases (hreset : d.resetReading = none) :
    (Device.stop d).2.resetReading = none ∧
    ((Device.stop d).1.toBool = false → (Device.stop d).2 = d) := by
  obtain ⟨controller, _, _⟩ := d
  obtain rfl := hreset
  show (stop _).2.resetReading = none ∧ ((stop _).1.toBool = false → (stop _).2 = _)
  cases hfails : controller.transceiverFails with
  | true => simp [stop, Controller.setTransceiver, hfails]
  | false =>
    simp [stop, Controller.setTransceiver, Controller.setReset, readsReset, hfails, Except.toBool]

end OnChip

namespace Mcp2515

def Chip.Operates (c : Chip) (setup : Setup) : Prop :=
  c.get Address.status &&& OperatingMode.mask = operatingMode setup.mode

instance (c : Chip) (setup : Setup) : Decidable (c.Operates setup) :=
  inferInstanceAs (Decidable (_ = _))

theorem operates_start {l : Link} {setup : Setup} (h : (Device.start setup l).1 = .ok ()) :
    (Device.start setup l).2.chip.Operates setup := by
  have hmode := (Chip.registers_setUp setup).1
  rw [← setUp_of_start h] at hmode
  exact hmode

end Mcp2515

namespace Hardware

/-- Virtual hardware that answers for itself. -/
def Virtual : Hardware → Prop
  | onChip d => d.resetReading = none
  | mcp2515 _ => True
  | scripted _ => False

/-- The hardware takes part in the traffic as a bus with this setup does. -/
def Operates : Hardware → Setup → Prop
  | onChip d, setup => d.Operates setup
  | mcp2515 l, setup => l.chip.Operates setup
  | scripted _, _ => False

instance : (h : Hardware) → (setup : Setup) → Decidable (h.Operates setup)
  | onChip d, setup => inferInstanceAs (Decidable (d.Operates setup))
  | mcp2515 l, setup => inferInstanceAs (Decidable (l.chip.Operates setup))
  | scripted _, _ => inferInstanceAs (Decidable False)

def isOnChip : Hardware → Bool
  | onChip _ => true
  | _ => false

/-- What may go wrong with virtual hardware from some time on. -/
inductive Fault where
  /-- The transceiver of an on-chip controller cannot be switched, or it can again. -/
  | transceiver (fails : Bool)
  /-- An MCP2515 ignores resets and requests for another mode, or it no longer does. -/
  | refusal (refusing : Bool)
  /-- Which of the coming transfers to an MCP2515 fail. -/
  | transfers (failures : List Bool)

def suffer : Hardware → Fault → Hardware
  | onChip d, .transceiver fails => onChip { d with controller.transceiverFails := fails }
  | mcp2515 l, .refusal refusing => mcp2515 { l with chip.refusing := refusing }
  | mcp2515 l, .transfers failures => mcp2515 { l with failures }
  | h, _ => h

variable {h : Hardware}

theorem virtual_start (hvirtual : h.Virtual) (setup : Setup) :
    (Device.start setup h).2.Virtual := by
  cases h with
  | onChip d => exact (OnChip.start_cases hvirtual setup).1
  | mcp2515 l => trivial
  | scripted d => exact hvirtual.elim

theorem virtual_stop (hvirtual : h.Virtual) : (Device.stop h).2.Virtual := by
  cases h with
  | onChip d => exact (OnChip.stop_cases hvirtual).1
  | mcp2515 l => trivial
  | scripted d => exact hvirtual.elim

theorem operates_start (hvirtual : h.Virtual) {setup : Setup}
    (hok : (Device.start setup h).1.toBool = true) : (Device.start setup h).2.Operates setup := by
  cases h with
  | onChip d => exact (OnChip.start_cases hvirtual setup).2.1 hok
  | mcp2515 l =>
    show (Device.start setup l).2.chip.Operates setup
    refine Mcp2515.operates_start ?_
    replace hok : (Device.start setup l).1.toBool = true := hok
    rcases hstart : Device.start setup l with ⟨e | ⟨⟩, l'⟩
    · rw [hstart] at hok
      cases hok
    · rfl
  | scripted d => exact hvirtual.elim

theorem isOnChip_start (h : Hardware) (setup : Setup) :
    (Device.start setup h).2.isOnChip = h.isOnChip := by
  cases h <;> rfl

theorem isOnChip_stop (h : Hardware) : (Device.stop h).2.isOnChip = h.isOnChip := by
  cases h <;> rfl

/-- After a start that failed, an on-chip controller is in reset mode. -/
theorem not_operates_start (hvirtual : h.Virtual) (hchip : h.isOnChip = true) {setup : Setup}
    (hfailed : (Device.start setup h).1.toBool = false) (reported : Setup) :
    ¬ (Device.start setup h).2.Operates reported := by
  cases h with
  | onChip d =>
    intro (hoperates : (Device.start setup d).2.Operates reported)
    have hreset := (OnChip.start_cases hvirtual setup).2.2 hfailed
    rw [hoperates.outOfReset] at hreset
    cases hreset
  | _ => cases hchip

theorem eq_of_stop_failed (hvirtual : h.Virtual) (hchip : h.isOnChip = true)
    (hfailed : (Device.stop h).1.toBool = false) : (Device.stop h).2 = h := by
  cases h with
  | onChip d => exact congrArg onChip ((OnChip.stop_cases hvirtual).2 hfailed)
  | _ => cases hchip

theorem virtual_suffer (fault : Fault) : (h.suffer fault).Virtual ↔ h.Virtual := by
  cases h <;> cases fault <;> exact Iff.rfl

theorem isOnChip_suffer (h : Hardware) (fault : Fault) :
    (h.suffer fault).isOnChip = h.isOnChip := by
  cases h <;> cases fault <;> rfl

/-- A fault shows only when something is asked of the hardware. -/
theorem operates_suffer (fault : Fault) (setup : Setup) :
    (h.suffer fault).Operates setup ↔ h.Operates setup := by
  cases h with
  | onChip d =>
    cases fault with
    | transceiver fails =>
      exact ⟨fun h => ⟨h.outOfReset, h.setup⟩, fun h => ⟨h.outOfReset, h.setup⟩⟩
    | _ => exact Iff.rfl
  | _ => cases fault <;> exact Iff.rfl

end Hardware
end Fieldbus
