import Fieldbus.Proofs.Device.Inner

/-! A device that keeps a list of what it was handed.  It does what the device inside it does
(`Traced.wraps`), and a bus of it what the bus of that device does (`Bus.untrace_write` and so on). -/

namespace Fieldbus

/-- A device and the frames it was handed so far, with its answers. -/
structure Traced (δ : Type) where
  device : δ
  handed : List (Frame × Except DeviceError Attempt) := []

namespace Traced

variable {δ : Type}

def taken? : Frame × Except DeviceError Attempt → Option Frame
  | (f, .ok .accepted) => some f
  | _ => none

theorem taken?_of_ne {f : Frame} {answer : Except DeviceError Attempt}
    (h : answer ≠ .ok .accepted) : taken? (f, answer) = none := by
  rcases answer with e | _ | _
  · rfl
  · exact absurd rfl h
  · rfl

/-- The frames that the device has accepted. -/
def accepted (d : Traced δ) : List Frame := d.handed.filterMap taken?

variable [Device δ]

instance : Device (Traced δ) where
  start setup d :=
    let r := Device.start setup d.device
    (r.1, { d with device := r.2 })
  stop d :=
    let r := Device.stop d.device
    (r.1, { d with device := r.2 })
  ready d :=
    let r := Device.ready d.device
    (r.1, { d with device := r.2 })
  transmit f d :=
    let r := Device.transmit f d.device
    (r.1, { device := r.2, handed := d.handed ++ [(f, r.1)] })
  poll bus s d :=
    let p := Device.poll bus s d.device
    { p with device := { d with device := p.device } }
  backlog d := Device.backlog d.device
  asserted d := Device.asserted d.device
  interrupt bus s d :=
    let h := Device.interrupt bus s d.device
    { h with device := { d with device := h.device } }
  rounds d := Device.rounds d.device

theorem wraps : Device.Wraps (Traced.device : Traced δ → δ) :=
  ⟨fun _ _ => rfl, fun _ => rfl, fun _ => rfl, fun _ _ => rfl⟩

theorem accepted_of_ready {d d' : Traced δ} {answer : Except DeviceError Bool}
    (h : Device.ready d = (answer, d')) : d'.accepted = d.accepted := by
  obtain rfl := congrArg Prod.snd h
  rfl

theorem accepted_of_transmit {f : Frame} {d d' : Traced δ} {answer : Except DeviceError Attempt}
    (h : Device.transmit f d = (answer, d')) :
    d'.accepted = d.accepted ++ (taken? (f, answer)).toList := by
  obtain ⟨rfl, rfl⟩ := Prod.mk.inj h
  show List.filterMap taken? (d.handed ++ [_]) = _
  rw [List.filterMap_append, List.filterMap_cons, List.filterMap_nil]
  show d.accepted ++ _ = _
  split <;> simp_all

end Traced

namespace Bus

variable {δ : Type}

def trace (b : Bus δ) : Bus (Traced δ) := { b with device := { device := b.device } }

def untrace (b : Bus (Traced δ)) : Bus δ := { b with device := b.device.device }

end Bus

def Outcome.untrace {δ α : Type} (o : Outcome (Traced δ) α) : Outcome δ α :=
  { o with bus := o.bus.untrace }

namespace Bus

variable {δ : Type} [Device δ]

/-! ### Operations -/

theorem untrace_transmitDeferred (b : Bus (Traced δ)) :
    b.transmitDeferred.1.untrace = b.untrace.transmitDeferred.1 ∧
    b.transmitDeferred.2 = b.untrace.transmitDeferred.2 :=
  inside_transmitDeferred Traced.wraps b

theorem untrace_write (b : Bus (Traced δ)) (f : Frame) (patient : Bool) (ticket : Nat) :
    (b.write f patient ticket).untrace = b.untrace.write f patient ticket :=
  inside_write Traced.wraps b f patient ticket

theorem untrace_resume (b : Bus (Traced δ)) (ticket : Nat) :
    (b.resume ticket).untrace = b.untrace.resume ticket :=
  inside_resume Traced.wraps b ticket

omit [Device δ] in
theorem untrace_expire (b : Bus (Traced δ)) (ticket : Nat) :
    (b.expire ticket).untrace = b.untrace.expire ticket := by
  rw [expire, expire, show b.untrace.deferred = b.deferred from rfl]
  split <;> rfl

theorem untrace_start (b : Bus (Traced δ)) (setup : Setup) :
    (b.start setup).untrace = b.untrace.start setup :=
  inside_start Traced.wraps b setup

theorem untrace_halt (b : Bus (Traced δ)) (power : Power) :
    (b.halt power).untrace = b.untrace.halt power :=
  inside_halt Traced.wraps b power

theorem untrace_setPower (b : Bus (Traced δ)) (power : Power) :
    (b.setPower power).untrace = b.untrace.setPower power :=
  inside_setPower Traced.wraps b power

end Bus
end Fieldbus
