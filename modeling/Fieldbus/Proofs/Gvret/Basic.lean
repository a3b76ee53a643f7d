import Fieldbus.Gvret.Basic

/-! Frames read back and the buses they are read back as, and what a line or record yields that was
read. -/

namespace Fieldbus

theorem Frame.make_self (f : Frame) (origin : Option BusName) :
    Frame.make origin f.id f.format f.data = .ok { f with origin } := by
  rw [make, dif_pos f.length_le, dif_pos f.id_le]

theorem Frame.withOrigin_self {f : Frame} {name : BusName} (h : f.origin = some name) :
    f.withOrigin name = f := by
  obtain ⟨origin, id, format, data, hid, hdata⟩ := f
  obtain rfl : origin = some name := h
  rfl

namespace Gvret

/-- A frame that is valid is read back as it was written, as one of the bus it was read from. -/
theorem received_self (f : Frame) (bus : BusName) (micros : UInt64) :
    received bus micros f.format f.id f.data
      = .ok ⟨some bus, .ofMicros micros, .frame .received (f.withOrigin bus)⟩ := by
  rw [received, f.make_self]
  rfl

theorem received_eq_ok {bus : BusName} {micros : UInt64} {format : FrameFormat} {id : UInt32}
    {data : List UInt8} {m : Message} (h : received bus micros format id data = .ok m) :
    ∃ f : Frame, f.origin = some bus ∧ m = ⟨some bus, .ofMicros micros, .frame .received f⟩ := by
  rw [received] at h
  split at h
  · next f hf =>
    refine ⟨f, ?_, (Except.ok.inj h).symm⟩
    rw [Frame.make] at hf
    split at hf
    · split at hf
      · obtain rfl := Except.ok.inj hf
        rfl
      · cases hf
    · cases hf
  · cases h

theorem number_lt {name : BusName} {n : Nat} (h : name.number = some n) : n < UInt32.size := by
  rw [BusName.number] at h
  split at h
  · rw [Numeral.decimal32?, Numeral.read?] at h
    split at h
    · contradiction
    · simpa using (Option.filter_eq_some_iff.mp h).2
  · contradiction

theorem busDigit_lt (origin : Option BusName) : busDigit origin + 1 < UInt32.size := by
  rw [busDigit]
  cases h : origin.bind BusName.number with
  | none => decide
  | some n =>
    obtain ⟨name, -, hn⟩ := Option.bind_eq_some_iff.mp h
    have := number_lt hn
    simp only [Option.map_some, Option.getD_some, UInt32.size] at *
    omega

theorem message_ending {σ : Type} (s : σ) (e : Except Refusal Message) :
    (Fed.ending s e).message.toList = e.toOption.toList ∧ (Fed.ending s e).state = s := by
  cases e <;> exact ⟨rfl, rfl⟩

theorem ended_ending {σ : Type} (s : σ) (e : Except Refusal Message) :
    (Fed.ending s e).ended = true := by
  cases e <;> rfl

/-- The digit of a bus is that of the bus it is read back as. -/
theorem busOfDigit?_busDigit (origin : Option BusName) :
    busOfDigit? (busDigit origin) = some (BusName.numbered (busDigit origin + 1)) := by
  rw [busOfDigit?, if_pos (busDigit_lt origin)]

end Gvret
end Fieldbus
