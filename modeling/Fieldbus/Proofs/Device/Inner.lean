import Fieldbus.Proofs.Bus.Deferred

/-! Devices that hold other devices.  A device may keep more than the one inside it does, and still do
what that one does (`Device.Wraps`).  A bus of such devices then does what the bus of the devices inside
them does, so that what holds of every device of the one kind holds of every device of the other. -/

namespace Fieldbus

variable {ε δ : Type} [Device ε] [Device δ]

/-- Devices of one kind answer as those inside them do, and hold these afterwards. -/
structure Device.Wraps (inner : ε → δ) : Prop where
  start : ∀ setup d, Device.start setup (inner d) = Prod.map id inner (Device.start setup d)
  stop : ∀ d, Device.stop (inner d) = Prod.map id inner (Device.stop d)
  ready : ∀ d, Device.ready (inner d) = Prod.map id inner (Device.ready d)
  transmit : ∀ f d, Device.transmit f (inner d) = Prod.map id inner (Device.transmit f d)

/-- The bus with the device inside. -/
def Bus.inside {ε δ : Type} (inner : ε → δ) (b : Bus ε) : Bus δ :=
  { b with device := inner b.device }

def Outcome.inside {ε δ α : Type} (inner : ε → δ) (o : Outcome ε α) : Outcome δ α :=
  { o with bus := o.bus.inside inner }

namespace Bus

variable {inner : ε → δ} (h : Device.Wraps inner)
include h

theorem inside_moveDeferred (b : Bus ε) (frames : List Frame) :
    (b.moveDeferred frames).1.inside inner = ((b.inside inner).moveDeferred frames).1 ∧
    (b.moveDeferred frames).2 = ((b.inside inner).moveDeferred frames).2 := by
  induction frames generalizing b with
  | nil =>
    rw [moveDeferred, moveDeferred, show (b.inside inner).device = inner b.device from rfl, h.ready]
    rcases Device.ready b.device with ⟨_ | _, device⟩ <;> exact ⟨rfl, rfl⟩
  | cons f rest ih =>
    rw [moveDeferred, moveDeferred, show (b.inside inner).device = inner b.device from rfl, h.ready]
    rcases Device.ready b.device with ⟨e | _ | _, device⟩
    · exact ⟨rfl, rfl⟩
    · exact ⟨rfl, rfl⟩
    simp only [Prod.map, id_eq]
    rw [h.transmit]
    rcases Device.transmit f device with ⟨e | _ | _, after⟩
    · simp only [Prod.map, id_eq]
      rw [(ih _).1, (ih _).2, (moveDeferred_unchanged _ _).1, (moveDeferred_unchanged _ _).1]
      exact ⟨rfl, rfl⟩
    · simp only [Prod.map, id_eq]
      rw [(ih _).1, (ih _).2]
      exact ⟨rfl, rfl⟩
    · exact ⟨rfl, rfl⟩

theorem inside_transmitDeferred (b : Bus ε) :
    b.transmitDeferred.1.inside inner = (b.inside inner).transmitDeferred.1 ∧
    b.transmitDeferred.2 = (b.inside inner).transmitDeferred.2 := by
  rw [transmitDeferred, transmitDeferred, show (b.inside inner).isRunning = b.isRunning from rfl]
  split
  · exact inside_moveDeferred h b _
  · exact ⟨rfl, rfl⟩

theorem inside_defer (b : Bus ε) (f : Frame) :
    (b.defer f).inside inner = (b.inside inner).defer f := by
  simp only [defer, Outcome.inside]
  rw [(inside_transmitDeferred h _).1, (inside_transmitDeferred h _).2]
  rfl

theorem inside_deferOrWait (b : Bus ε) (f : Frame) (patient : Bool) (ticket : Nat) :
    (b.deferOrWait f patient ticket).inside inner
      = (b.inside inner).deferOrWait f patient ticket := by
  rw [deferOrWait, deferOrWait, show (b.inside inner).deferred = b.deferred from rfl]
  split
  · exact inside_defer h b f
  · cases patient <;> rfl

theorem inside_write (b : Bus ε) (f : Frame) (patient : Bool) (ticket : Nat) :
    (b.write f patient ticket).inside inner = (b.inside inner).write f patient ticket := by
  simp only [write]
  rw [show (b.inside inner).isRunning = b.isRunning from rfl,
    show (b.inside inner).deferred = b.deferred from rfl,
    show (b.inside inner).device = inner b.device from rfl,
    show (b.inside inner).name = b.name from rfl, h.transmit]
  split
  · rfl
  split
  · rcases Device.transmit (f.withOrigin b.name) b.device with ⟨e | _ | _, after⟩
    · rfl
    · rfl
    · exact inside_deferOrWait h ..
  · exact inside_deferOrWait h ..

theorem inside_resume (b : Bus ε) (ticket : Nat) :
    (b.resume ticket).inside inner = (b.inside inner).resume ticket := by
  rw [resume, resume, show (b.inside inner).deferred = b.deferred from rfl]
  split
  · exact inside_defer h ..
  · rfl

theorem inside_start (b : Bus ε) (setup : Setup) :
    (b.start setup).inside inner = (b.inside inner).start setup := by
  rw [start, start, show (b.inside inner).device = inner b.device from rfl, h.start]
  rcases Device.start setup b.device with ⟨_ | ⟨⟩, device⟩ <;> rfl

theorem inside_halt (b : Bus ε) (power : Power) :
    (b.halt power).inside inner = (b.inside inner).halt power := by
  rw [halt, halt, show (b.inside inner).device = inner b.device from rfl, h.stop]
  rcases Device.stop b.device with ⟨_ | ⟨⟩, device⟩ <;> rfl

theorem inside_setPower (b : Bus ε) (power : Power) :
    (b.setPower power).inside inner = (b.inside inner).setPower power := by
  cases power with
  | on =>
    rw [setPower, setPower, show (b.inside inner).setup = b.setup from rfl,
      show (b.inside inner).isRunning = b.isRunning from rfl]
    split
    · split
      · rfl
      · exact inside_start h b _
    · rfl
  | _ => exact inside_halt h b _

end Bus
end Fieldbus
