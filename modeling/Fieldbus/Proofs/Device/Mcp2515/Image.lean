import Fieldbus.Device.Mcp2515.Registers
import Fieldbus.Proofs.Device.Flags
import Mathlib.Tactic.IntervalCases

/-! The image of a frame in a buffer of the MCP2515 is read back as that frame (`ofImage?_image`).
Identifiers are compared bit by bit. -/

namespace Fieldbus.Mcp2515

theorem getLsbD_eq_false {id : UInt32} {i : Nat} (n : Nat) (h : id.toNat < 2 ^ n) (hi : n ≤ i) :
    id.toBitVec.getLsbD i = false :=
  Nat.testBit_lt_two_pow (Nat.lt_of_lt_of_le h (Nat.pow_le_pow_right (by decide) hi))

theorem standard_bits {id : UInt32} (h : id ≤ FrameFormat.maxId .standard) :
    (id >>> 3).toUInt8.toUInt32 <<< 3 ||| (id <<< 5).toUInt8.toUInt32 >>> 5 = id := by
  have hid : id.toNat < 2 ^ 11 := Nat.lt_succ_of_le h
  apply UInt32.toBitVec_inj.mp
  apply BitVec.eq_of_getLsbD_eq
  intro i hi
  simp only [UInt32.toBitVec_or, UInt32.toBitVec_shiftLeft, UInt32.toBitVec_shiftRight,
    UInt8.toBitVec_toUInt32, UInt32.toBitVec_toUInt8, UInt32.toBitVec_ofNat]
  -- Bits past the eleventh are not kept, but they are zero anyway.
  rcases Nat.lt_or_ge i 11 with hlow | hhigh
  · interval_cases i <;> simp
  · rw [getLsbD_eq_false 11 hid hhigh]
    interval_cases i <;> simp

theorem extended_bits {id : UInt32} (h : id ≤ FrameFormat.maxId .extended) :
    let b := ((id >>> 13) &&& 0xe0).toUInt8 ||| ((id >>> 16) &&& 0x03).toUInt8 ||| extendedMark
    (id >>> 21).toUInt8.toUInt32 <<< 21 ||| (b.toUInt32 &&& 0xe0) <<< 13
      ||| (b.toUInt32 &&& 0x03) <<< 16 ||| (id >>> 8).toUInt8.toUInt32 <<< 8
      ||| id.toUInt8.toUInt32 = id := by
  have hid : id.toNat < 2 ^ 29 := Nat.lt_succ_of_le h
  apply UInt32.toBitVec_inj.mp
  apply BitVec.eq_of_getLsbD_eq
  intro i hi
  simp only [extendedMark, UInt32.toBitVec_or, UInt32.toBitVec_and, UInt32.toBitVec_shiftLeft,
    UInt32.toBitVec_shiftRight, UInt8.toBitVec_toUInt32, UInt32.toBitVec_toUInt8,
    UInt8.toBitVec_or, UInt32.toBitVec_ofNat]
  rcases Nat.lt_or_ge i 29 with hlow | hhigh
  · interval_cases i <;> simp
  · rw [getLsbD_eq_false 29 hid hhigh]
    interval_cases i <;> simp

theorem standard_mark (id : UInt32) : (id <<< 5).toUInt8 &&& extendedMark = 0 := by
  apply UInt8.toBitVec_inj.mp
  apply BitVec.eq_of_getLsbD_eq
  intro i hi
  simp only [extendedMark, UInt8.toBitVec_and, UInt32.toBitVec_toUInt8,
    UInt32.toBitVec_shiftLeft, UInt32.toBitVec_ofNat]
  interval_cases i <;> simp

theorem decodeId_encodeId {id : UInt32} {format : FrameFormat} (h : id ≤ format.maxId) :
    ∃ b₀ b₁ b₂ b₃, encodeId id format = [b₀, b₁, b₂, b₃] ∧
      decodeId b₀ b₁ b₂ b₃ = (id, format) := by
  cases format with
  | standard =>
    refine ⟨_, _, _, _, rfl, ?_⟩
    rw [decodeId, if_neg (not_not_intro (standard_mark id)), standard_bits h]
  | extended =>
    refine ⟨_, _, _, _, rfl, ?_⟩
    rw [decodeId, if_pos (Flags.or_and_ne_zero _ (by decide)), extended_bits h]

theorem length_image (f : Frame) : (image f).length = 13 := by
  obtain ⟨b₀, b₁, b₂, b₃, hid, -⟩ := decodeId_encodeId f.id_le
  simp [image, hid]

/-- The frame of an image is the one it was made of. -/
theorem ofImage?_image (origin : Option BusName) (f : Frame) :
    ofImage? origin (image f) = some { f with origin } := by
  obtain ⟨b₀, b₁, b₂, b₃, hid, hdecode⟩ := decodeId_encodeId f.id_le
  have hlength : (f.dlc.toUInt8 &&& 0x0f).toNat = f.dlc := by
    have hle := f.dlc_le
    interval_cases f.dlc <;> rfl
  have hdata : ((f.data ++ List.replicate 8 0).take 8).take f.dlc = f.data := by
    rw [List.take_take, Nat.min_eq_left f.dlc_le]
    exact List.take_left
  rw [image, hid]
  show ofImage? origin (b₀ :: b₁ :: b₂ :: b₃ :: f.dlc.toUInt8 :: _) = _
  simp only [ofImage?, hdecode, hlength, hdata]
  have hfits : ¬ maxPayload < f.dlc := Nat.not_lt.mpr f.length_le
  rw [if_neg hfits, Frame.make, dif_pos f.length_le, dif_pos f.id_le]
  rfl

end Fieldbus.Mcp2515
