import Fieldbus.Gvret.Line
import Fieldbus.Proofs.Gvret.Basic
import Fieldbus.Proofs.Text.Ascii

/-! Lines are read back as they were written (`parse_text`); they hold no line ends and are shorter
than the longest line (`isEnd_text`, `length_text_le`).  Whatever line is read, it is read as a
frame of a numbered bus (`parse_eq_ok`). -/

namespace Fieldbus.Gvret.Line

open Text (IsWord isWord_of_figures)

/-- The words of a line after the first. -/
def fields (m : Message) (f : Frame) : List (List Char) :=
  [['-'], Numeral.hex f.id.toNat, [f.format.letter], Numeral.decimal (busDigit m.origin),
    Numeral.decimal f.dlc] ++ f.data.map Numeral.hexByte

theorem text_eq (m : Message) (f : Frame) :
    text m f = Numeral.decimal m.time.toMicros.toNat ++ (fields m f).flatMap (' ' :: ·) := by
  simp [text, fields, List.flatMap_map]

theorem isWord_decimal (n : Nat) : IsWord (Numeral.decimal n) :=
  isWord_of_figures Nat.toDigits_ne_nil (Numeral.isFigure_toDigits (by decide) (by decide))

theorem isWord_hex (n : Nat) : IsWord (Numeral.hex n) :=
  isWord_of_figures Nat.toDigits_ne_nil (Numeral.isFigure_toDigits (by decide) (by decide))

theorem isWord_hexByte (b : UInt8) : IsWord (Numeral.hexByte b) :=
  isWord_of_figures (List.ne_nil_of_length_pos (by rw [Numeral.length_hexByte]; decide))
    (Numeral.isFigure_hexByte b)

theorem isWord_letter (format : FrameFormat) : IsWord [format.letter] := by
  cases format <;> decide

theorem isWord_fields (m : Message) (f : Frame) :
    ∀ v ∈ Numeral.decimal m.time.toMicros.toNat :: fields m f, IsWord v := by
  intro v hv
  simp only [fields, List.mem_cons, List.mem_append, List.mem_map, List.not_mem_nil,
    or_false] at hv
  rcases hv with rfl | (rfl | rfl | rfl | rfl | rfl) | ⟨b, -, rfl⟩
  · exact isWord_decimal _
  · decide
  · exact isWord_hex _
  · exact isWord_letter _
  · exact isWord_decimal _
  · exact isWord_decimal _
  · exact isWord_hexByte b

/-- A line consists of the characters of its words and of blanks. -/
theorem mem_text {m : Message} {f : Frame} {c : Char} (h : c ∈ text m f) :
    c = ' ' ∨ Text.IsPlain c := by
  have hword := isWord_fields m f
  rw [List.forall_mem_cons] at hword
  rw [text_eq, List.mem_append, List.mem_flatMap] at h
  rcases h with h | ⟨v, hv, h⟩
  · exact .inr (hword.1.2 c h)
  · rcases List.mem_cons.mp h with h | h
    · exact .inl h
    · exact .inr ((hword.2 v hv).2 c h)

theorem isAscii_text (m : Message) (f : Frame) : ∀ c ∈ text m f, c.toNat < 128 := by
  intro c hc
  rcases mem_text hc with rfl | h
  · decide
  · exact h.1

/-- No byte of a line ends it. -/
theorem isEnd_text {m : Message} {f : Frame} {b : UInt8} (h : b ∈ bytes (text m f)) :
    LineDecoder.isEnd b = false := by
  obtain ⟨c, hc, rfl⟩ := List.mem_map.mp h
  rcases mem_text hc with rfl | ⟨hascii, hblank⟩
  · decide
  · have hn : c.toNat.toUInt8.toNat = c.toNat := by
      rw [UInt8.toNat_ofNat']
      omega
    have hcr : c.toNat.toUInt8 ≠ 0x0d := by
      intro hb
      have : c = '\r' := Char.toNat_inj.mp (hn.symm.trans (congrArg UInt8.toNat hb))
      simp [this, Text.isBlank] at hblank
    have hlf : c.toNat.toUInt8 ≠ 0x0a := by
      intro hb
      have : c = '\n' := Char.toNat_inj.mp (hn.symm.trans (congrArg UInt8.toNat hb))
      simp [this, Text.isBlank] at hblank
    simp [LineDecoder.isEnd, hcr, hlf]

theorem data?_hexBytes (data : List UInt8) :
    data? data.length (data.map Numeral.hexByte) = some data := by
  induction data with
  | nil => rfl
  | cons b data ih => simp [data?, Numeral.hex8?_hexByte, ih]

theorem format?_letter (format : FrameFormat) : format? [format.letter] = some format := by
  cases format <;> rfl

/-- Words that can all be read make a record. -/
theorem parseWords_eq {micros id letter digit length : List Char} {words : List (List Char)}
    {u i n : Nat} {format : FrameFormat} {bus : BusName} {data : List UInt8}
    (hmicros : Numeral.decimal64? micros = some u) (hid : Numeral.hex32? id = some i)
    (hletter : format? letter = some format)
    (hdigit : (Numeral.decimal32? digit).bind busOfDigit? = some bus)
    (hlength : Numeral.decimal64? length = some n) (hn : n ≤ maxPayload)
    (hdata : data? n words = some data) :
    parseWords (micros :: ['-'] :: id :: letter :: digit :: length :: words) =
      received bus u.toUInt64 format i.toUInt32 data := by
  have hn' : ¬ maxPayload < n := Nat.not_lt.mpr hn
  simp only [parseWords, need, hmicros, hid, hletter, hdigit, hlength]
  simp [bind, Except.bind, pure, Except.pure, hn', hdata]

theorem parseWords_fields (m : Message) (f : Frame) :
    parseWords (Numeral.decimal m.time.toMicros.toNat :: fields m f) =
      received (.numbered (busDigit m.origin + 1)) m.time.toMicros f.format f.id f.data := by
  have hmicros : Numeral.decimal64? (Numeral.decimal m.time.toMicros.toNat)
      = some m.time.toMicros.toNat :=
    Numeral.read?_toDigits (by decide) (by decide) m.time.toMicros.toNat_lt
  have hid : Numeral.hex32? (Numeral.hex f.id.toNat) = some f.id.toNat :=
    Numeral.read?_toDigits (by decide) (by decide) f.id.toNat_lt
  have hdigit : Numeral.decimal32? (Numeral.decimal (busDigit m.origin))
      = some (busDigit m.origin) :=
    Numeral.read?_toDigits (by decide) (by decide) (by have := busDigit_lt m.origin; omega)
  have hdlc : Numeral.decimal64? (Numeral.decimal f.dlc) = some f.dlc :=
    Numeral.read?_toDigits (by decide) (by decide) (Nat.lt_of_le_of_lt f.dlc_le (by decide))
  have hbus := (congrArg (Option.bind · busOfDigit?) hdigit).trans (busOfDigit?_busDigit m.origin)
  rw [fields, List.cons_append, List.cons_append, List.cons_append, List.cons_append,
    List.cons_append, List.nil_append,
    parseWords_eq hmicros hid (format?_letter f.format) hbus hdlc f.dlc_le (data?_hexBytes f.data)]
  simp

/-- A line is read back as a received frame of the bus of its digit. -/
theorem parse_text (m : Message) (f : Frame) :
    parse (bytes (text m f)) =
      .ok ⟨some (.numbered (busDigit m.origin + 1)), .ofMicros m.time.toMicros,
        .frame .received (f.withOrigin (.numbered (busDigit m.origin + 1)))⟩ := by
  have hdecode : Utf8.decode? (bytes (text m f)) = some (text m f) :=
    Utf8.decode?_ascii (isAscii_text m f)
  rw [parse, hdecode]
  dsimp only
  rw [text_eq, Text.words_flatMap (isWord_fields m f), parseWords_fields, received_self]

theorem need_bind_eq_ok {α β : Type} {o : Option α} {f : α → Except Refusal β} {b : β}
    (h : (need o >>= f) = .ok b) : ∃ a, o = some a ∧ f a = .ok b := by
  cases o with
  | none => cases h
  | some a => exact ⟨a, rfl, h⟩

/-- Words that make a record name a bus by its digit. -/
theorem parseWords_eq_ok {words : List (List Char)} {m : Message} (h : parseWords words = .ok m) :
    ∃ digit bus micros format id data, busOfDigit? digit = some bus ∧
      received bus micros format id data = .ok m := by
  unfold parseWords at h
  split at h
  · obtain ⟨micros, -, h⟩ := need_bind_eq_ok h
    dsimp only at h
    split at h
    · split at h <;> cases h
    · split at h
      · obtain ⟨id, -, h⟩ := need_bind_eq_ok h
        cases h
      · obtain ⟨id, -, h⟩ := need_bind_eq_ok h
        split at h
        · simp only [pure_bind] at h
          split at h
          · obtain ⟨bus, hbus, h⟩ := need_bind_eq_ok h
            obtain ⟨length, -, h⟩ := need_bind_eq_ok h
            split at h
            · cases h
            · obtain ⟨data, -, h⟩ := need_bind_eq_ok h
              obtain ⟨digit, -, hdigit⟩ := Option.bind_eq_some_iff.mp hbus
              exact ⟨digit, bus, _, _, _, _, hdigit, h⟩
          · cases h
        · cases h
  · cases h

/-- However a line is written, its bus has a number of 32 bits that is not zero. -/
theorem parse_eq_ok {line : List UInt8} {m : Message} (h : parse line = .ok m) :
    ∃ n micros format id data, 1 ≤ n ∧ n < UInt32.size ∧
      received (.numbered n) micros format id data = .ok m := by
  rw [parse] at h
  split at h
  · obtain ⟨digit, bus, micros, format, id, data, hdigit, h⟩ := parseWords_eq_ok h
    rw [busOfDigit?, Option.ite_none_right_eq_some] at hdigit
    obtain ⟨hlt, hbus⟩ := hdigit
    rw [← Option.some.inj hbus] at h
    exact ⟨digit + 1, micros, format, id, data, Nat.succ_pos _, hlt, h⟩
  · cases h

/-- The longest words are a time of 64 bits, an identifier and a digit of 32 bits. -/
theorem length_text_le (m : Message) (f : Frame) : (text m f).length ≤ maxLength := by
  have hmicros : (Numeral.decimal m.time.toMicros.toNat).length ≤ 20 :=
    (Nat.length_toDigits_le_iff (by decide) (by decide)).mpr
      (Nat.lt_trans m.time.toMicros.toNat_lt (by decide))
  have hid : (Numeral.hex f.id.toNat).length ≤ 8 :=
    (Nat.length_toDigits_le_iff (by decide) (by decide)).mpr f.id.toNat_lt
  have hdigit : (Numeral.decimal (busDigit m.origin)).length ≤ 10 :=
    (Nat.length_toDigits_le_iff (by decide) (by decide)).mpr
      (by have := busDigit_lt m.origin; simp only [UInt32.size] at this; omega)
  have hdlc : (Numeral.decimal f.dlc).length ≤ 1 :=
    (Nat.length_toDigits_le_iff (by decide) (by decide)).mpr
      (Nat.lt_of_le_of_lt f.dlc_le (by decide))
  have hdata : (f.data.flatMap fun b => ' ' :: Numeral.hexByte b).length = 3 * f.data.length := by
    simp [List.length_flatMap, Numeral.length_hexByte, List.map_const', Nat.mul_comm]
  have : f.data.length ≤ 8 := f.length_le
  simp only [text, List.length_append, List.length_cons, List.length_nil, maxLength, hdata]
  omega

end Fieldbus.Gvret.Line
