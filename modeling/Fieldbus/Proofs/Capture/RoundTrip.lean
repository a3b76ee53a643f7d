import Fieldbus.Proofs.Capture.Lines
import Fieldbus.Proofs.Capture.Records
import Fieldbus.Proofs.Gvret.Line

/-! Recordings are read back (`readPieces_encodeAll`).  A recording keeps the traffic among its
messages and of each frame all but whether it was received or sent; `Format.normal?` says what
remains of a message. -/

namespace Fieldbus.Capture

namespace Format

/-- The bus a format has for an origin.  Buses count from one, and an origin without number stands
for the first; a record has room for sixteen. -/
def busOf (format : Format) (origin : Option BusName) : BusName :=
  let digit := ((origin.bind BusName.number).map fun n => max n 1 - 1).getD 0
  match format with
  | lines => .numbered (digit + 1)
  | records => .numbered (digit % 16 + 1)

/-- The microseconds a format has for a time: all 64 bits in a line, 32 of them in a record. -/
def microsOf : Format → Timestamp → UInt64
  | lines, t => t.toMicros
  | records, t => t.toMicros % 0x100000000

/-- What remains of a message in a recording. -/
def normal? (format : Format) (m : Message) : Option Message :=
  match m.entry with
  | .frame .received f | .frame .sent f =>
    let bus := format.busOf m.origin
    some ⟨some bus, .ofMicros (format.microsOf m.time), .frame .received (f.withOrigin bus)⟩
  | _ => none

theorem normal?_eq (format : Format) (m : Message) :
    format.normal? m = m.entry.traffic?.map fun f =>
      ⟨some (format.busOf m.origin), .ofMicros (format.microsOf m.time),
        .frame .received (f.withOrigin (format.busOf m.origin))⟩ := by
  rw [normal?]
  cases m.entry with
  | frame direction f => cases direction <;> rfl
  | status kind counters => rfl
  | remark kind text => rfl

theorem busOf_lines (origin : Option BusName) :
    busOf .lines origin = .numbered (Gvret.busDigit origin + 1) := by
  rw [busOf, Gvret.busDigit]
  cases origin.bind BusName.number with
  | none => rfl
  | some n => cases n <;> simp

theorem busOf_records (origin : Option BusName) :
    busOf .records origin = .numbered (Gvret.busDigit origin % 16 + 1) := by
  rw [busOf, Gvret.busDigit]
  cases origin.bind BusName.number with
  | none => rfl
  | some n => cases n <;> simp

theorem number_numbered {n : Nat} (h : n < UInt32.size) : (BusName.numbered n).number = some n := by
  have htext : (BusName.numbered n).text.toList = 'c' :: 'a' :: 'n' :: Numeral.decimal n :=
    String.toList_ofList
  rw [BusName.number, htext]
  exact Numeral.read?_toDigits (by decide) (by decide) h

theorem busDigit_numbered {n : Nat} (h : n < UInt32.size) :
    Gvret.busDigit (some (.numbered n)) = n - 1 := by
  rw [Gvret.busDigit, Option.bind_some, number_numbered h]
  rfl

/-- The numbers of buses that a format tells apart are below this one. -/
def busLimit : Format → Nat
  | lines => UInt32.size
  | records => 17

theorem busOf_numbered {format : Format} {n : Nat} (hpos : 1 ≤ n) (hlt : n < format.busLimit) :
    format.busOf (some (.numbered n)) = .numbered n := by
  cases format with
  | lines => rw [busOf_lines, busDigit_numbered hlt, Nat.sub_add_cancel hpos]
  | records =>
    have hsize : n < UInt32.size := Nat.lt_trans hlt (by decide)
    have hbits : n - 1 < 16 := by
      rw [busLimit] at hlt
      omega
    rw [busOf_records, busDigit_numbered hsize, Nat.mod_eq_of_lt hbits,
      Nat.sub_add_cancel hpos]

theorem microsOf_records (t : Timestamp) :
    microsOf .records t = t.toMicros.toUInt32.toUInt64 := by
  apply UInt64.toNat_inj.mp
  simp [microsOf]

end Format

open Gvret

/-- A line and its end are read as one message. -/
theorem scan_line (m : Message) (f : Frame) :
    ((Decoder.new .lines).scan (Line.bytes (Line.text m f ++ ['\n']))).contents
      = [Line.parse (Line.bytes (Line.text m f))] ∧
    ((Decoder.new .lines).scan (Line.bytes (Line.text m f ++ ['\n']))).decoder = .new .lines := by
  have hbytes : Line.bytes (Line.text m f ++ ['\n']) = Line.bytes (Line.text m f) ++ [0x0a] := by
    simp [Line.bytes]
  have hne : Line.bytes (Line.text m f) ≠ [] := by
    rw [Line.text_eq]
    simp [Line.bytes, Numeral.decimal, Nat.toDigits_ne_nil]
  have hlength : (Line.bytes (Line.text m f)).length ≤ Line.maxLength := by
    rw [Line.bytes, List.length_map]
    exact Line.length_text_le m f
  rw [hbytes]
  exact scan_ended (fun _ => Line.isEnd_text) hne hlength rfl

/-- What is read of a recorded message is what remains of it, and nothing is refused. -/
theorem scan_encode (format : Format) (m : Message) :
    ((Decoder.new format).scan (format.encode m)).contents
      = (format.normal? m).toList.map .ok ∧
    ((Decoder.new format).scan (format.encode m)).decoder = .new format := by
  rw [Format.normal?_eq]
  cases hf : m.entry.traffic? with
  | none =>
    have hencode : format.encode m = [] := by
      cases format <;> simp [Format.encode, Line.encode, Record.encode, hf]
    rw [hencode]
    exact ⟨rfl, rfl⟩
  | some f =>
    cases format with
    | lines =>
      obtain ⟨hcontents, hdecoder⟩ := scan_line m f
      rw [Line.parse_text] at hcontents
      simp only [Format.encode, Line.encode, hf, Format.busOf_lines]
      exact ⟨hcontents, hdecoder⟩
    | records =>
      obtain ⟨hcontents, hdecoder⟩ := scan_of_isRecord (Record.isRecord_bytes m f)
        (List.nil_append _).symm (by simp [Record.bytes])
      rw [Record.parse_bytes] at hcontents
      rw [Format.encode, Record.encode_of_traffic hf, Format.busOf_records,
        Format.microsOf_records]
      exact ⟨hcontents, hdecoder⟩

theorem scan_encodeAll (format : Format) (messages : List Message) :
    ((Decoder.new format).scan (format.encodeAll messages)).contents
      = (messages.filterMap format.normal?).map .ok ∧
    ((Decoder.new format).scan (format.encodeAll messages)).decoder = .new format := by
  induction messages with
  | nil => exact ⟨rfl, rfl⟩
  | cons m messages ih =>
    obtain ⟨hcontents, hdecoder⟩ := scan_encode format m
    rw [Format.encodeAll, List.flatMap_cons, Decoder.contents_scan_append,
      Decoder.decoder_scan_append, hdecoder, hcontents]
    refine ⟨?_, ih.2⟩
    rw [← Format.encodeAll, ih.1]
    cases h : format.normal? m <;> simp [h]

/-- A whole recording is read without refusals; its end adds nothing. -/
theorem contents_readLast_encodeAll (format : Format) (messages : List Message) :
    ((Decoder.new format).readLast (format.encodeAll messages)).contents
      = (messages.filterMap format.normal?).map .ok := by
  obtain ⟨hcontents, hdecoder⟩ := scan_encodeAll format messages
  have hfinish : (Decoder.new format).finish = { state := .new format } := by
    cases format <;> rfl
  rw [Decoder.readLast_eq]
  dsimp only
  rw [hdecoder, hfinish, ← hcontents]
  exact congrArg (List.map Found.content) (List.append_nil _)

/-- In whatever pieces a recording arrives, what remains of each message is read; afterwards the
decoder is as good as new and no byte is left. -/
theorem readPieces_encodeAll (format : Format) (messages : List Message)
    (pieces : List (List UInt8)) (h : pieces.flatten = format.encodeAll messages) :
    let r := (Decoder.new format).readPieces [] pieces
    r.messages = messages.filterMap format.normal? ∧ r.decoder = .new format ∧ r.left = [] := by
  obtain ⟨hcontents, hdecoder⟩ := scan_encodeAll format messages
  obtain ⟨hread, hstate, hleft⟩ := (Decoder.new format).contents_readPieces pieces
  rw [h] at hread hstate
  refine ⟨?_, hstate.trans hdecoder, hleft⟩
  rw [Decoded.messages_eq, hread, hcontents, List.filterMap_map]
  exact List.filterMap_some

/-- A record whose data look like the start of another, cut there. -/
theorem readPieces_start_in_data :
    let f : Frame := ⟨some (.numbered 1), 0x100, .standard, [0xf1, 0], by decide, by decide⟩
    let r := (Decoder.new .records).readPieces []
      [[0xf1, 0, 0x42, 0x42, 0x0f, 0, 0, 1, 0, 0, 2, 0xf1], [0, 0]]
    r.messages = [⟨some (.numbered 1), ⟨1, 2⟩, .frame .received f⟩] ∧
      r.decoder = .new .records ∧ r.left = [] := by
  intro f r
  obtain ⟨hmessages, hdecoder, hleft⟩ := readPieces_encodeAll .records
    [⟨some ⟨"can17"⟩, ⟨1, 2⟩, .frame .sent f⟩, ⟨none, {}, .remark .event "stopped"⟩]
    [[0xf1, 0, 0x42, 0x42, 0x0f, 0, 0, 1, 0, 0, 2, 0xf1], [0, 0]] (by decide)
  exact ⟨hmessages.trans (by decide), hdecoder, hleft⟩

end Fieldbus.Capture
