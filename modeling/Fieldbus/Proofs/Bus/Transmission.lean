import Fieldbus.Proofs.Bus.Order

/-! What transmission leaves alone.  Writing frames and moving deferred ones reaches a device through
`ready` and `transmit` only, so that a property of the device that these two keep holds on, and it
counts nothing that was received. -/

namespace Fieldbus

/-- A property of devices that transmission does not end. -/
structure Device.Lasts {δ : Type} [Device δ] (P : δ → Prop) : Prop where
  ready : ∀ {d}, P d → P (Device.ready d).2
  transmit : ∀ {f d}, P d → P (Device.transmit f d).2

namespace Device.Lasts

variable {δ : Type} [Device δ] {P : δ → Prop} {d d' : δ}

theorem after_ready (hP : Lasts P) (hd : P d) {answer : Except DeviceError Bool}
    (h : Device.ready d = (answer, d')) : P d' := by
  obtain rfl := congrArg Prod.snd h
  exact hP.ready hd

theorem after_transmit (hP : Lasts P) (hd : P d) {f : Frame} {answer : Except DeviceError Attempt}
    (h : Device.transmit f d = (answer, d')) : P d' := by
  obtain rfl := congrArg Prod.snd h
  exact hP.transmit hd

end Device.Lasts

namespace Bus

variable {δ : Type}

/-- Only frames on their way out make the difference between a bus before and after. -/
structure Transmits (P : δ → Prop) (before after : Bus δ) : Prop where
  name : after.name = before.name
  power : after.power = before.power
  received : after.statistics.counters.received = before.statistics.counters.received
  receiveOverflow :
    after.statistics.counters.receiveOverflow = before.statistics.counters.receiveOverflow
  device : P before.device → P after.device

namespace Transmits

variable {P : δ → Prop} {b b₁ b₂ : Bus δ}

theorem refl (b : Bus δ) : Transmits P b b := ⟨rfl, rfl, rfl, rfl, id⟩

theorem trans (h₁ : Transmits P b b₁) (h₂ : Transmits P b₁ b₂) : Transmits P b b₂ :=
  ⟨h₂.name.trans h₁.name, h₂.power.trans h₁.power, h₂.received.trans h₁.received,
    h₂.receiveOverflow.trans h₁.receiveOverflow, fun h => h₂.device (h₁.device h)⟩

theorem ofDevice {device : δ} (h : P b.device → P device) : Transmits P b { b with device } :=
  ⟨rfl, rfl, rfl, rfl, h⟩

theorem ofDeferred (b : Bus δ) (deferred : Deferred) : Transmits P b { b with deferred } :=
  ⟨rfl, rfl, rfl, rfl, id⟩

theorem behindFirst {device : δ} (h : P b.device → P device) :
    Transmits P b (b.behindFirst device) :=
  ⟨rfl, rfl, rfl, rfl, h⟩

theorem noteSent (b : Bus δ) (f : Frame) : Transmits P b (b.noteSent f).1 :=
  ⟨rfl, rfl, rfl, rfl, id⟩

theorem noteFailed (b : Bus δ) (f : Frame) : Transmits P b (b.noteFailed f).1 :=
  ⟨rfl, rfl, rfl, rfl, id⟩

end Transmits

section Operations

variable [Device δ] {P : δ → Prop}

theorem transmits_moveDeferred (hP : Device.Lasts P) (b : Bus δ) (frames : List Frame) :
    Transmits P b (b.moveDeferred frames).1 := by
  let Q (_ : List Frame) (b' : Bus δ) (_ : List Effect) : Prop := Transmits P b b'
  have hQ : Q frames b [] := .refl b
  refine Exists.elim (moveDeferred_induct ?rest ?notice ?sent ?failed hQ) fun _ h => h
  case rest =>
    intro frames b' said answer device h hready _
    exact h.trans (.ofDevice fun hb => hP.after_ready hb hready)
  case notice =>
    intro frames b' said n _ h
    exact h
  case sent =>
    intro f frames b' said device after h hready htransmit
    have hmoved : Transmits P b' (b'.behindFirst after) :=
      .behindFirst fun hb => hP.after_transmit (hP.after_ready hb hready) htransmit
    exact h.trans (hmoved.trans (.noteSent _ f))
  case failed =>
    intro f frames b' said answer device after h hready htransmit _
    have hmoved : Transmits P b' (b'.behindFirst after) :=
      .behindFirst fun hb => hP.after_transmit (hP.after_ready hb hready) htransmit
    exact h.trans (hmoved.trans (.noteFailed _ f))

theorem transmits_transmitDeferred (hP : Device.Lasts P) (b : Bus δ) :
    Transmits P b b.transmitDeferred.1 := by
  rw [transmitDeferred]
  split
  · exact transmits_moveDeferred hP b _
  · exact .refl b

theorem transmits_defer (hP : Device.Lasts P) (b : Bus δ) (f : Frame) :
    Transmits P b (b.defer f).bus := by
  have hpush : Transmits P b { b with
      statistics := b.statistics.countDelayed, deferred := b.deferred.push f } :=
    ⟨rfl, rfl, rfl, rfl, id⟩
  exact hpush.trans (transmits_transmitDeferred hP _)

theorem transmits_deferOrWait (hP : Device.Lasts P) (b : Bus δ) (f : Frame) (patient : Bool)
    (ticket : Nat) : Transmits P b (b.deferOrWait f patient ticket).bus := by
  rw [deferOrWait]
  split
  · exact transmits_defer hP b f
  split
  · exact .ofDeferred b _
  · exact .noteFailed b f

theorem transmits_write (hP : Device.Lasts P) (b : Bus δ) (f : Frame) (patient : Bool)
    (ticket : Nat) : Transmits P b (b.write f patient ticket).bus := by
  rw [write]
  dsimp only
  split
  · exact .refl b
  split
  · -- The device is tried at once, and nothing else has happened to the bus by then.
    have htried : ∀ {answer after},
        Device.transmit (f.withOrigin b.name) b.device = (answer, after) →
        Transmits P b { b with device := after } := by
      intro answer after ht
      exact .ofDevice fun hb => hP.after_transmit hb ht
    rcases ht : Device.transmit (f.withOrigin b.name) b.device with ⟨e | _ | _, after⟩
    · exact htried ht
    · exact (htried ht).trans (.noteSent _ (f.withOrigin b.name))
    · exact (htried ht).trans (transmits_deferOrWait hP _ _ _ _)
  · exact transmits_deferOrWait hP b _ _ _

theorem transmits_resume (hP : Device.Lasts P) (b : Bus δ) (ticket : Nat) :
    Transmits P b (b.resume ticket).bus := by
  rw [resume]
  split
  · exact .trans (.ofDeferred b _) (transmits_defer hP _ _)
  · exact .refl b

omit [Device δ] in
theorem transmits_expire (b : Bus δ) (ticket : Nat) : Transmits P b (b.expire ticket).bus := by
  rw [expire]
  split
  · next f deferred _ => exact .trans (.ofDeferred b _) (.noteFailed _ f)
  · exact .refl b

def turn (b : Bus δ) : Turn → Bus δ
  | .write f patient ticket => (b.write f patient ticket).bus
  | .resume ticket => (b.resume ticket).bus
  | .expire ticket => (b.expire ticket).bus
  | .transmitDeferred => b.transmitDeferred.1

theorem transmits_turn (hP : Device.Lasts P) (b : Bus δ) (t : Turn) :
    Transmits P b (b.turn t) := by
  cases t with
  | write f patient ticket => exact transmits_write hP b f patient ticket
  | resume ticket => exact transmits_resume hP b ticket
  | expire ticket => exact transmits_expire b ticket
  | transmitDeferred => exact transmits_transmitDeferred hP b

end Operations
end Bus
end Fieldbus
