import Fieldbus.Gvret.Record
import Fieldbus.Proofs.Gvret.Basic
import Mathlib.Data.Nat.Bitwise

/-! Records are read back as they were written (`parse_bytes`), and whatever record is read, it is
read as a frame of a numbered bus (`parse_eq_ok`).  What a decoder needs to know of a record to stay
with it until its last byte is `IsRecord`. -/

namespace Fieldbus.Gvret

theorem Word.ofBytes_bytes (w : UInt32) :
    ∃ b₀ b₁ b₂ b₃, Word.bytes w = [b₀, b₁, b₂, b₃] ∧ Word.ofBytes b₀ b₁ b₂ b₃ = w := by
  refine ⟨_, _, _, _, rfl, ?_⟩
  have hw : w.toNat < 4294967296 := w.toNat_lt
  have hsum : w.toNat % 256 + 0x100 * (w.toNat / 0x100 % 256) + 0x10000 * (w.toNat / 0x10000 % 256)
      + 0x1000000 * (w.toNat / 0x1000000 % 256) = w.toNat := by
    omega
  simp only [Word.ofBytes, UInt8.toNat_ofNat']
  rw [hsum]
  exact UInt32.ofNat_toNat

namespace Record

/-- The flag of an extended identifier is added to it, since the identifier has no such bit. -/
theorem toNat_or_extendedFlag {id : UInt32} (h : id.toNat < 2 ^ 31) :
    (id ||| extendedFlag).toNat = 2 ^ 31 + id.toNat := by
  rw [UInt32.toNat_or, Nat.or_comm, show extendedFlag.toNat = 2 ^ 31 * 1 from rfl,
    ← Nat.two_pow_add_eq_or_of_lt h, Nat.mul_one]

theorem ofIdWord_idWord (f : Frame) : ofIdWord (idWord f) = (f.format, f.id) := by
  have hid := UInt32.le_iff_toNat_le.mp f.id_le
  cases hf : f.format with
  | standard =>
    rw [hf] at hid
    have : ¬ extendedFlag ≤ f.id := by
      rw [UInt32.le_iff_toNat_le]
      simp only [FrameFormat.maxId, extendedFlag, UInt32.reduceToNat] at *
      omega
    simp [idWord, Frame.isExtended, hf, ofIdWord, this]
  | extended =>
    rw [hf] at hid
    have hlt : f.id.toNat < 2 ^ 31 := Nat.lt_of_le_of_lt hid (by decide)
    have hor := toNat_or_extendedFlag hlt
    have hle : extendedFlag ≤ f.id ||| extendedFlag := by
      rw [UInt32.le_iff_toNat_le, hor]
      exact Nat.le_add_right _ _
    have hsub : (f.id ||| extendedFlag) - extendedFlag = f.id := by
      apply UInt32.toNat_inj.mp
      rw [UInt32.toNat_sub_of_le _ _ hle, hor]
      exact Nat.add_sub_cancel_left ..
    simp [idWord, Frame.isExtended, hf, ofIdWord, hle, hsub]

theorem toNat_lengthAndBus (m : Message) (f : Frame) :
    (lengthAndBus m f).toNat = f.dlc + 16 * (busDigit m.origin % 16) := by
  have := f.dlc_le
  rw [lengthAndBus, UInt8.toNat_ofNat']
  omega

/-- The record of a frame. -/
def bytes (m : Message) (f : Frame) : List UInt8 :=
  [start, frameMark] ++ Word.bytes m.time.toMicros.toUInt32 ++ Word.bytes (idWord f)
    ++ [lengthAndBus m f] ++ f.data ++ [0]

/-- A record is read back as a received frame, with the lowest 32 bits of its time and the lowest
four of its bus digit. -/
theorem parse_bytes (m : Message) (f : Frame) :
    parse (bytes m f) =
      .ok ⟨some (.numbered (busDigit m.origin % 16 + 1)),
        .ofMicros m.time.toMicros.toUInt32.toUInt64,
        .frame .received (f.withOrigin (.numbered (busDigit m.origin % 16 + 1)))⟩ := by
  obtain ⟨t₀, t₁, t₂, t₃, htime, htime'⟩ := Word.ofBytes_bytes m.time.toMicros.toUInt32
  obtain ⟨i₀, i₁, i₂, i₃, hid, hid'⟩ := Word.ofBytes_bytes (idWord f)
  have hdlc := f.dlc_le
  have hlength : (lengthAndBus m f).toNat % 16 = f.data.length := by
    rw [toNat_lengthAndBus, show f.data.length = f.dlc from rfl]
    omega
  have hbus : (lengthAndBus m f).toNat / 16 = busDigit m.origin % 16 := by
    rw [toNat_lengthAndBus]
    omega
  rw [bytes, htime, hid, ← received_self]
  simp only [List.cons_append, List.nil_append, parse, htime', hid', ofIdWord_idWord, hlength,
    hbus, List.take_left']

/-- A record has room for sixteen buses and times of 32 bits. -/
theorem parse_eq_ok {record : List UInt8} {m : Message} (h : parse record = .ok m) :
    ∃ n micros format id data, 1 ≤ n ∧ n ≤ 16 ∧ micros.toNat < 2 ^ 32 ∧
      received (.numbered n) micros format id data = .ok m := by
  unfold parse at h
  split at h
  · next t₀ t₁ t₂ t₃ i₀ i₁ i₂ i₃ lengthAndBus rest =>
    have hbus := lengthAndBus.toNat_lt
    have hmicros := (Word.ofBytes t₀ t₁ t₂ t₃).toNat_lt
    refine ⟨lengthAndBus.toNat / 16 + 1, _, _, _, _, by omega, by omega, ?_, h⟩
    rw [UInt32.toNat_toUInt64]
    exact hmicros
  · cases h

/-- Bytes that are one whole record: a start, a frame mark, and as much as the length in the
eleventh byte announces. -/
structure IsRecord (record : List UInt8) : Prop where
  start : ∃ rest, record = start :: frameMark :: rest
  length : ∃ b, record[10]? = some b ∧ b.toNat % 16 ≤ maxPayload ∧
    record.length = headerLength + b.toNat % 16 + 1

theorem isRecord_bytes (m : Message) (f : Frame) : IsRecord (bytes m f) := by
  refine ⟨⟨_, rfl⟩, lengthAndBus m f, rfl, ?_⟩
  have hdlc := f.dlc_le
  have hlength : (lengthAndBus m f).toNat % 16 = f.dlc := by
    rw [toNat_lengthAndBus]
    omega
  rw [hlength]
  refine ⟨hdlc, ?_⟩
  simp [bytes, Word.bytes, headerLength, Frame.dlc]
  omega

theorem length?_eq (record : List UInt8) : length? record = record[10]?.map (·.toNat % 16) := by
  simp [length?, headerLength]

end Record
end Fieldbus.Gvret
