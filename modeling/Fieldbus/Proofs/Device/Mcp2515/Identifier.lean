import Fieldbus.Proofs.Device.Mcp2515.Image

/-! Four bytes and the identifier in them.  Whatever the bytes, the identifier fits its format
(`decodeId_le`), and written again it gives the same bytes but for the bits that identifiers of the
format leave unused (`encodeId_decodeId`).  A record is therefore refused for its length alone
(`identifiers_correspond`). -/

namespace Fieldbus.Mcp2515

/-- Four bytes without the bits that an identifier of the format leaves unused. -/
def cleared (b₀ b₁ b₂ b₃ : UInt8) : FrameFormat → List UInt8
  | .standard => [b₀, b₁ &&& ~~~0x1f, 0, 0]
  | .extended => [b₀, b₁ &&& ~~~0x14, b₂, b₃]

def standardId (b₀ b₁ : UInt8) : UInt32 := b₀.toUInt32 <<< 3 ||| b₁.toUInt32 >>> 5

def extendedId (b₀ b₁ b₂ b₃ : UInt8) : UInt32 :=
  b₀.toUInt32 <<< 21 ||| (b₁.toUInt32 &&& 0xe0) <<< 13 ||| (b₁.toUInt32 &&& 0x03) <<< 16
    ||| b₂.toUInt32 <<< 8 ||| b₃.toUInt32

theorem decodeId_cases (b₀ b₁ b₂ b₃ : UInt8) :
    (b₁ &&& extendedMark = 0 ∧ decodeId b₀ b₁ b₂ b₃ = (standardId b₀ b₁, .standard)) ∨
    (b₁ &&& extendedMark ≠ 0 ∧ decodeId b₀ b₁ b₂ b₃ = (extendedId b₀ b₁ b₂ b₃, .extended)) := by
  by_cases h : b₁ &&& extendedMark = 0
  · exact .inl ⟨h, if_neg (not_not_intro h)⟩
  · exact .inr ⟨h, if_pos h⟩

/-! ### Bits of a word and of a byte -/

theorem toNat_lt_of_bits {w : UInt32} {n : Nat}
    (h : ∀ i < 32, n ≤ i → w.toBitVec.getLsbD i = false) : w.toNat < 2 ^ n := by
  apply Nat.lt_pow_two_of_testBit
  intro i hi
  show w.toBitVec.getLsbD i = false
  rcases Nat.lt_or_ge i 32 with hlow | hhigh
  · exact h i hlow hi
  · exact BitVec.getLsbD_of_ge _ _ hhigh

theorem eq_of_bits {a b : UInt8} (h : ∀ i < 8, a.toBitVec.getLsbD i = b.toBitVec.getLsbD i) :
    a = b := by
  apply UInt8.toBitVec_inj.mp
  apply BitVec.eq_of_getLsbD_eq
  exact h

/-- The mark is the fourth bit of a byte. -/
theorem bit_of_mark {b : UInt8} (h : b &&& extendedMark ≠ 0) : b.toBitVec.getLsbD 3 = true := by
  by_contra hbit
  apply h
  apply eq_of_bits
  intro i hi
  interval_cases i <;> simp_all [extendedMark]

/-! ### The range of an identifier -/

theorem standardId_lt (b₀ b₁ : UInt8) : (standardId b₀ b₁).toNat < 2 ^ 11 := by
  apply toNat_lt_of_bits
  intro i hi hhigh
  interval_cases i <;> simp [standardId]

theorem extendedId_lt (b₀ b₁ b₂ b₃ : UInt8) : (extendedId b₀ b₁ b₂ b₃).toNat < 2 ^ 29 := by
  apply toNat_lt_of_bits
  intro i hi hhigh
  interval_cases i <;> simp [extendedId]

theorem decodeId_le (b₀ b₁ b₂ b₃ : UInt8) :
    (decodeId b₀ b₁ b₂ b₃).1 ≤ (decodeId b₀ b₁ b₂ b₃).2.maxId := by
  rcases decodeId_cases b₀ b₁ b₂ b₃ with ⟨-, h⟩ | ⟨-, h⟩
  · have hlt := standardId_lt b₀ b₁
    rw [h, UInt32.le_iff_toNat_le]
    simp only [FrameFormat.maxId, UInt32.reduceToNat]
    omega
  · have hlt := extendedId_lt b₀ b₁ b₂ b₃
    rw [h, UInt32.le_iff_toNat_le]
    simp only [FrameFormat.maxId, UInt32.reduceToNat]
    omega

/-! ### The bytes of an identifier that was read -/

/-- Eleven bits fill the first byte and the upper three of the second. -/
theorem encodeId_standardId (b₀ b₁ b₂ b₃ : UInt8) :
    encodeId (standardId b₀ b₁) .standard = cleared b₀ b₁ b₂ b₃ .standard := by
  have hfirst : (standardId b₀ b₁ >>> 3).toUInt8 = b₀ := by
    apply eq_of_bits
    intro i hi
    interval_cases i <;> simp [standardId]
  have hsecond : (standardId b₀ b₁ <<< 5).toUInt8 = b₁ &&& ~~~0x1f := by
    apply eq_of_bits
    intro i hi
    interval_cases i <;> simp [standardId]
  rw [encodeId, hfirst, hsecond, cleared]

/-- Twenty-nine bits fill all but two of the second byte, where the mark stands between them. -/
theorem encodeId_extendedId {b₁ : UInt8} (h : b₁ &&& extendedMark ≠ 0) (b₀ b₂ b₃ : UInt8) :
    encodeId (extendedId b₀ b₁ b₂ b₃) .extended = cleared b₀ b₁ b₂ b₃ .extended := by
  let id := extendedId b₀ b₁ b₂ b₃
  have hmark := bit_of_mark h
  have hfirst : (id >>> 21).toUInt8 = b₀ := by
    apply eq_of_bits
    intro i hi
    interval_cases i <;> simp [id, extendedId]
  have hsecond : ((id >>> 13) &&& 0xe0).toUInt8 ||| ((id >>> 16) &&& 0x03).toUInt8 ||| extendedMark
      = b₁ &&& ~~~0x14 := by
    apply eq_of_bits
    intro i hi
    interval_cases i <;> simp_all [id, extendedId, extendedMark]
  have hthird : (id >>> 8).toUInt8 = b₂ := by
    apply eq_of_bits
    intro i hi
    interval_cases i <;> simp [id, extendedId]
  have hfourth : id.toUInt8 = b₃ := by
    apply eq_of_bits
    intro i hi
    interval_cases i <;> simp [id, extendedId]
  rw [encodeId, hfirst, hsecond, hthird, hfourth, cleared]

theorem encodeId_decodeId (b₀ b₁ b₂ b₃ : UInt8) :
    encodeId (decodeId b₀ b₁ b₂ b₃).1 (decodeId b₀ b₁ b₂ b₃).2
      = cleared b₀ b₁ b₂ b₃ (decodeId b₀ b₁ b₂ b₃).2 := by
  rcases decodeId_cases b₀ b₁ b₂ b₃ with ⟨-, h⟩ | ⟨hmark, h⟩
  · rw [h]
    exact encodeId_standardId b₀ b₁ b₂ b₃
  · rw [h]
    exact encodeId_extendedId hmark b₀ b₂ b₃

/-! ### Records -/

theorem toNat_and_low (length : UInt8) : (length &&& 0x0f).toNat = length.toNat % 16 := by
  rw [UInt8.toNat_and]
  exact Nat.and_two_pow_sub_one_eq_mod length.toNat 4

/-- The parts of a record make a frame, unless the length is out of range. -/
theorem ofImage?_cases (origin : Option BusName) (b₀ b₁ b₂ b₃ length : UInt8) {data : List UInt8}
    (hdata : data.length = 8) :
    let record := b₀ :: b₁ :: b₂ :: b₃ :: length :: data
    (8 < length.toNat % 16 ∧ ofImage? origin record = none) ∨
    (length.toNat % 16 ≤ 8 ∧ ∃ f,
      Frame.make origin (decodeId b₀ b₁ b₂ b₃).1 (decodeId b₀ b₁ b₂ b₃).2
        (data.take (length.toNat % 16)) = .ok f ∧
      ofImage? origin record = some f ∧ f.dlc = length.toNat % 16) := by
  dsimp only
  rw [ofImage?, toNat_and_low]
  dsimp only
  rcases Nat.lt_or_ge 8 (length.toNat % 16) with hlength | hlength
  · exact .inl ⟨hlength, if_pos hlength⟩
  · have htake : (data.take (length.toNat % 16)).length = length.toNat % 16 := by
      rw [List.length_take, hdata, Nat.min_eq_left hlength]
    have hpayload : (data.take (length.toNat % 16)).length ≤ maxPayload := by
      rw [htake]
      exact hlength
    let f : Frame := ⟨origin, _, _, _, decodeId_le b₀ b₁ b₂ b₃, hpayload⟩
    have hmake : Frame.make origin f.id f.format f.data = .ok f := by
      rw [Frame.make, dif_pos f.length_le, dif_pos f.id_le]
    refine .inr ⟨hlength, f, hmake, ?_, htake⟩
    rw [if_neg (show ¬ maxPayload < length.toNat % 16 from Nat.not_lt.mpr hlength)]
    exact congrArg Except.toOption hmake

/-- Identifiers and their images.  An identifier that fits its format is read back from its image;
any four bytes are, but for unused bits, the image of an identifier that fits; and thirteen bytes
make a frame with as much data as they announce, unless they announce more than eight. -/
theorem identifiers_correspond :
    (∀ (id : UInt32) (format : FrameFormat), id ≤ format.maxId →
      ∃ b₀ b₁ b₂ b₃, encodeId id format = [b₀, b₁, b₂, b₃] ∧
        decodeId b₀ b₁ b₂ b₃ = (id, format)) ∧
    (∀ b₀ b₁ b₂ b₃ : UInt8,
      (decodeId b₀ b₁ b₂ b₃).1 ≤ (decodeId b₀ b₁ b₂ b₃).2.maxId ∧
      encodeId (decodeId b₀ b₁ b₂ b₃).1 (decodeId b₀ b₁ b₂ b₃).2
        = cleared b₀ b₁ b₂ b₃ (decodeId b₀ b₁ b₂ b₃).2) ∧
    ∀ (origin : Option BusName) (b₀ b₁ b₂ b₃ length : UInt8) (data : List UInt8),
      data.length = 8 →
      let record := b₀ :: b₁ :: b₂ :: b₃ :: length :: data
      (ofImage? origin record = none ↔ 8 < length.toNat % 16) ∧
      (length.toNat % 16 ≤ 8 → ∃ f,
        Frame.make origin (decodeId b₀ b₁ b₂ b₃).1 (decodeId b₀ b₁ b₂ b₃).2
          (data.take (length.toNat % 16)) = .ok f ∧
        ofImage? origin record = some f ∧ f.dlc = length.toNat % 16) := by
  refine ⟨fun id format h => decodeId_encodeId h, fun b₀ b₁ b₂ b₃ => ?_, ?_⟩
  · exact ⟨decodeId_le b₀ b₁ b₂ b₃, encodeId_decodeId b₀ b₁ b₂ b₃⟩
  · intro origin b₀ b₁ b₂ b₃ length data hdata record
    rcases ofImage?_cases origin b₀ b₁ b₂ b₃ length hdata with ⟨hlong, hnone⟩ | ⟨hfits, hframe⟩
    · exact ⟨⟨fun _ => hlong, fun _ => hnone⟩, fun hfits => absurd hlong (Nat.not_lt.mpr hfits)⟩
    · refine ⟨⟨fun hnone => ?_, fun hlong => absurd hfits (Nat.not_le.mpr hlong)⟩, fun _ => hframe⟩
      obtain ⟨f, -, hsome, -⟩ := hframe
      exact absurd (hsome.symm.trans hnone) (Option.some_ne_none f)

/-- An extended identifier with bits in all four bytes, and a record with unused bits and an
impossible length. -/
theorem identifiers_correspond_of_unused_bits :
    (∃ b₀ b₁ b₂ b₃, encodeId 0x18daf110 .extended = [b₀, b₁, b₂, b₃] ∧
      decodeId b₀ b₁ b₂ b₃ = (0x18daf110, .extended)) ∧
    encodeId 0x7ff .standard = cleared 0xff 0xf7 0x55 0xaa .standard ∧
    ofImage? none [0xff, 0xf7, 0x55, 0xaa, 0x49, 1, 2, 3, 4, 5, 6, 7, 8] = none := by
  obtain ⟨himage, hbytes, hrecord⟩ := identifiers_correspond
  refine ⟨himage 0x18daf110 .extended (by decide), (hbytes 0xff 0xf7 0x55 0xaa).2, ?_⟩
  exact (hrecord none 0xff 0xf7 0x55 0xaa 0x49 [1, 2, 3, 4, 5, 6, 7, 8] rfl).1.mpr (by decide)

end Fieldbus.Mcp2515
