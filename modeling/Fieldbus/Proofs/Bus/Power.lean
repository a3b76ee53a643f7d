import Fieldbus.Proofs.Bus.Deferred

/-! What starting and halting do to a bus, by what its device answers, and what is left to do when its
interrupt handler has run. -/

namespace Fieldbus.Bus

variable {δ : Type} [Device δ]

theorem start_eq (b : Bus δ) (setup : Setup) :
    (b.start setup).result = (Device.start setup b.device).1 ∧
    (b.start setup).bus.name = b.name ∧
    (b.start setup).bus.device = (Device.start setup b.device).2 ∧
    (b.start setup).bus.statistics = {} ∧
    (b.start setup).bus.deferred = b.deferred := by
  rw [start]
  rcases Device.start setup b.device with ⟨_ | ⟨⟩, device⟩ <;> exact ⟨rfl, rfl, rfl, rfl, rfl⟩

theorem power_start (b : Bus δ) (setup : Setup) :
    (b.start setup).bus.power
      = if (b.start setup).result.toBool then .on else b.power := by
  rw [start]
  rcases Device.start setup b.device with ⟨_ | ⟨⟩, device⟩ <;> rfl

theorem setup_start (b : Bus δ) (setup : Setup) :
    (b.start setup).bus.setup = if (b.start setup).result.toBool then some setup else b.setup := by
  rw [start]
  rcases Device.start setup b.device with ⟨_ | ⟨⟩, device⟩ <;> rfl

theorem setup_halt (b : Bus δ) (power : Power) : (b.halt power).bus.setup = b.setup := by
  rw [halt]
  rcases Device.stop b.device with ⟨_ | ⟨⟩, device⟩ <;> rfl

theorem halt_eq (b : Bus δ) (power : Power) :
    (b.halt power).result = (Device.stop b.device).1 ∧
    (b.halt power).bus.name = b.name ∧
    (b.halt power).bus.device = (Device.stop b.device).2 ∧
    (b.halt power).bus.statistics = b.statistics := by
  rw [halt]
  rcases Device.stop b.device with ⟨_ | ⟨⟩, device⟩ <;> exact ⟨rfl, rfl, rfl, rfl⟩

/-- A halt that succeeds takes the power away and discards the deferred frames; one that fails does
neither. -/
theorem deferred_halt (b : Bus δ) (power : Power) :
    ((b.halt power).bus.power, (b.halt power).bus.deferred)
      = if (b.halt power).result.toBool then (power, b.deferred.clear)
        else (b.power, b.deferred) := by
  rw [halt]
  rcases Device.stop b.device with ⟨_ | ⟨⟩, device⟩ <;> rfl

theorem power_halt (b : Bus δ) (power : Power) :
    (b.halt power).bus.power = if (b.halt power).result.toBool then power else b.power := by
  have h := congrArg Prod.fst (b.deferred_halt power)
  rw [apply_ite Prod.fst] at h
  exact h

theorem setPower_cases (b : Bus δ) (power : Power) :
    (∃ setup, power = .on ∧ b.isRunning = false ∧ b.setPower power = b.start setup) ∨
    (power = .on ∧ b.setPower power = { result := .ok (), bus := b }) ∨
    (power ≠ .on ∧ b.setPower power = b.halt power) := by
  cases power with
  | on =>
    rw [setPower]
    split
    · next setup _ =>
      cases hrunning : b.isRunning
      · exact .inl ⟨setup, rfl, rfl, rfl⟩
      · exact .inr (.inl ⟨rfl, rfl⟩)
    · exact .inr (.inl ⟨rfl, rfl⟩)
  | sleep => exact .inr (.inr ⟨nofun, rfl⟩)
  | deepSleep => exact .inr (.inr ⟨nofun, rfl⟩)
  | off => exact .inr (.inr ⟨nofun, rfl⟩)

/-- The bus after its interrupt handler has run. -/
def handled (b : Bus δ) : Bus δ :=
  let r := Device.interrupt b.name b.statistics b.device
  { b with device := r.device, statistics := r.statistics }

/-- What the interrupt handler asks for. -/
def requests (b : Bus δ) : List Request :=
  (Device.interrupt b.name b.statistics b.device).requests

end Fieldbus.Bus
