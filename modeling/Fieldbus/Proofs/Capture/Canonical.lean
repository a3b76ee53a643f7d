import Fieldbus.Proofs.Capture.Calls
import Fieldbus.Proofs.Capture.RoundTrip

/-! Messages that were decoded are canonical, whatever bytes they were decoded from
(`Decoder.reads_yielded`, `Format.Reads.canonical`).  A line keeps all of such a message; a record
does if the bus is one of sixteen and the time has 32 bits, as those are that were read from records
(`Canonical.normal?_lines`, `Canonical.normal?_records`).  So a recording goes from records to lines
and back without loss. -/

namespace Fieldbus

namespace Timestamp

theorem toMicros_ofMicros (micros : UInt64) : (ofMicros micros).toMicros = micros := by
  have h := micros.toNat_lt
  apply UInt64.toNat_inj.mp
  simp only [ofMicros, toMicros, UInt64.toNat_add, UInt64.toNat_mul, UInt64.toNat_div,
    UInt64.toNat_mod, UInt32.toNat_toUInt64, UInt64.toNat_toUInt32, UInt64.reduceToNat]
  omega

theorem micros_ofMicros_lt (micros : UInt64) : (ofMicros micros).micros < 1000000 := by
  rw [UInt32.lt_iff_toNat_lt]
  simp only [ofMicros, UInt64.toNat_mod, UInt64.toNat_toUInt32, UInt64.reduceToNat,
    UInt32.reduceToNat]
  omega

end Timestamp

namespace Capture

open Gvret (Line.parse Record.parse Refusal)

/-- A message as it is decoded: a valid frame received on the bus `n`, at a time with less than a
second of microseconds. -/
structure Canonical (m : Message) (n : Nat) (f : Frame) : Prop where
  entry : m.entry = .frame .received f
  origin : m.origin = some (.numbered n)
  origin_frame : f.origin = some (.numbered n)
  number_pos : 1 ≤ n
  number_lt : n < UInt32.size
  no_zero : (Numeral.decimal n).head? ≠ some '0'
  micros_lt : m.time.micros < 1000000
  time : .ofMicros m.time.toMicros = m.time
  valid : f.id ≤ f.format.maxId ∧ f.data.length ≤ maxPayload

theorem canonical_received {n : Nat} {micros : UInt64} {format : FrameFormat} {id : UInt32}
    {data : List UInt8} {m : Message} (hpos : 1 ≤ n) (hlt : n < UInt32.size)
    (h : Gvret.received (.numbered n) micros format id data = .ok m) :
    ∃ f, Canonical m n f ∧ m.time.toMicros = micros := by
  obtain ⟨f, horigin, rfl⟩ := Gvret.received_eq_ok h
  have htime := Timestamp.toMicros_ofMicros micros
  exact ⟨f, {
    entry := rfl
    origin := rfl
    origin_frame := horigin
    number_pos := hpos
    number_lt := hlt
    no_zero := Numeral.head?_toDigits (by decide) (by decide) hpos
    micros_lt := Timestamp.micros_ofMicros_lt micros
    time := congrArg Timestamp.ofMicros htime
    valid := ⟨f.id_le, f.length_le⟩ }, htime⟩

/-! ### What is decoded -/

/-- A line or record is read with this result. -/
def Format.Reads : Format → Except Refusal Message → Prop
  | lines, e => ∃ line, Line.parse line = e
  | records, e => ∃ record, Record.parse record = e

theorem Format.Reads.canonical {format : Format} {m : Message} (h : format.Reads (.ok m)) :
    ∃ n f, Canonical m n f ∧ (format = records → n ≤ 16 ∧ m.time.toMicros.toNat < 2 ^ 32) := by
  cases format with
  | lines =>
    obtain ⟨line, hline⟩ := h
    obtain ⟨n, micros, format, id, data, hpos, hlt, hreceived⟩ := Gvret.Line.parse_eq_ok hline
    obtain ⟨f, hcanonical, -⟩ := canonical_received hpos hlt hreceived
    exact ⟨n, f, hcanonical, nofun⟩
  | records =>
    obtain ⟨record, hrecord⟩ := h
    obtain ⟨n, micros, format, id, data, hpos, hle, hmicros, hreceived⟩ :=
      Gvret.Record.parse_eq_ok hrecord
    have hlt : n < UInt32.size := Nat.lt_of_le_of_lt hle (by decide)
    obtain ⟨f, hcanonical, htime⟩ := canonical_received hpos hlt hreceived
    exact ⟨n, f, hcanonical, fun _ => ⟨hle, htime ▸ hmicros⟩⟩

namespace Decoder

/-- A byte yields nothing, or it ends a line or record, whose result is all that it yields. -/
def Yields {σ : Type} (format : Format) (f : Gvret.Fed σ) : Prop :=
  (f.ended = false ∧ f.message = none) ∨
  ∃ e, format.Reads e ∧ f.ended = true ∧ contentsOf f.refusal.toList f.message = [e]

theorem yields_ending {σ : Type} {format : Format} (s : σ) {e : Except Refusal Message}
    (h : format.Reads e) : Yields format (Gvret.Fed.ending s e) :=
  .inr ⟨e, h, Gvret.ended_ending s e, contentsOf_ending s e⟩

theorem yields_step (d : Decoder) (b : UInt8) : Yields d.format (d.step b) := by
  cases d with
  | lines d =>
    show Yields .lines (d.step b)
    rw [Gvret.LineDecoder.step]
    repeat' split
    all_goals first | exact .inl ⟨rfl, rfl⟩ | exact yields_ending _ ⟨_, rfl⟩
  | records d =>
    show Yields .records (d.step b)
    rw [Gvret.RecordDecoder.step]
    repeat' split
    all_goals first | exact .inl ⟨rfl, rfl⟩ | exact yields_ending _ ⟨_, rfl⟩

theorem yields_finish (d : Decoder) : Yields d.format d.finish := by
  cases d with
  | lines d =>
    show Yields .lines d.finish
    rw [Gvret.LineDecoder.finish]
    split
    · exact .inl ⟨rfl, rfl⟩
    · exact yields_ending _ ⟨_, rfl⟩
  | records d => exact .inl ⟨rfl, rfl⟩

theorem eq_ok_of_contentsOf {refusals : List Refusal} {m : Message} {e : Except Refusal Message}
    (h : contentsOf refusals (some m) = [e]) : e = .ok m := by
  cases refusals <;> simp_all [contentsOf]

/-- A message that a step yields is what a line or record was read as. -/
theorem Yields.reads {σ : Type} {format : Format} {f : Gvret.Fed σ} {m : Message}
    (hyields : Yields format f) (h : f.message = some m) : format.Reads (.ok m) := by
  rcases hyields with ⟨-, hnone⟩ | ⟨e, hreads, -, hcontents⟩
  · rw [hnone] at h
    cases h
  · rw [h] at hcontents
    exact eq_ok_of_contentsOf hcontents ▸ hreads

@[simp] theorem format_scan (d : Decoder) (bytes : List UInt8) :
    (d.scan bytes).decoder.format = d.format := by
  induction bytes generalizing d with
  | nil => rfl
  | cons b bytes ih => rw [decoder_scan_cons, ih, format_step]

theorem reads_scan {d : Decoder} {bytes : List UInt8} {m : Message}
    (h : m ∈ (d.scan bytes).messages) : d.format.Reads (.ok m) := by
  induction bytes generalizing d with
  | nil => cases h
  | cons b bytes ih =>
    rw [messages_scan_cons, List.mem_append, Option.mem_toList] at h
    rcases h with h | h
    · exact (d.yields_step b).reads h
    · rw [← format_step d b]
      exact ih h

theorem call_format_and_reads (d : Decoder) (c : Call) :
    (d.call c).decoder.format = d.format ∧
    ∀ m, (d.call c).message = some m → d.format.Reads (.ok m) := by
  cases c with
  | finish => exact ⟨format_finish d, fun m h => d.yields_finish.reads h⟩
  | offer bytes =>
    by_cases hbytes : bytes = []
    · subst hbytes
      exact ⟨rfl, nofun⟩
    · obtain ⟨before, b, rest, -, -, hdecoder, hmessage, -⟩ := d.offer_split hbytes
      rw [call, hdecoder, hmessage, format_step, format_scan]
      refine ⟨rfl, fun m h => ?_⟩
      rw [← format_scan d before]
      exact (yields_step _ b).reads h

theorem reads_yielded {d : Decoder} {calls : List Call} {m : Message} (h : m ∈ d.yielded calls) :
    d.format.Reads (.ok m) := by
  induction calls generalizing d with
  | nil => cases h
  | cons c calls ih =>
    obtain ⟨hformat, hreads⟩ := d.call_format_and_reads c
    rw [yielded, List.mem_append, Option.mem_toList] at h
    rcases h with h | h
    · exact hreads m h
    · rw [← hformat]
      exact ih h

theorem reads_readStream {d : Decoder} {pieces : List (List UInt8)} {m : Message}
    (h : m ∈ (d.readStream pieces).messages) : d.format.Reads (.ok m) := by
  rw [(d.readStream_flatten pieces).1, List.mem_append, Option.mem_toList] at h
  rcases h with h | h
  · exact reads_scan h
  · rw [← format_scan d pieces.flatten]
    exact (yields_finish _).reads h

end Decoder

/-! ### What a format keeps -/

theorem Canonical.eq {m : Message} {n : Nat} {f : Frame} (h : Canonical m n f) :
    m = ⟨some (.numbered n), m.time, .frame .received f⟩ := by
  rw [← h.origin, ← h.entry]

theorem Canonical.normal?_lines {m : Message} {n : Nat} {f : Frame} (h : Canonical m n f) :
    Format.lines.normal? m = some m := by
  have hbus : Format.lines.busOf m.origin = .numbered n := by
    rw [h.origin]
    exact Format.busOf_numbered h.number_pos h.number_lt
  rw [Format.normal?, h.entry]
  dsimp only
  rw [hbus, Frame.withOrigin_self h.origin_frame, Format.microsOf, h.time, ← h.eq]

theorem eq_of_numbered {a b : Nat} (ha : a < UInt32.size) (hb : b < UInt32.size)
    (h : BusName.numbered a = .numbered b) : a = b := by
  have hnumber := congrArg BusName.number h
  rw [Format.number_numbered ha, Format.number_numbered hb] at hnumber
  exact Option.some.inj hnumber

/-- A record has room for sixteen buses and times of 32 bits; of others it keeps another message. -/
theorem Canonical.normal?_records {m : Message} {n : Nat} {f : Frame} (h : Canonical m n f) :
    ∃ m', Format.records.normal? m = some m' ∧
      (m' = m ↔ n ≤ 16 ∧ m.time.toMicros.toNat < 2 ^ 32) := by
  have hmicros : (Format.records.microsOf m.time).toNat = m.time.toMicros.toNat % 2 ^ 32 :=
    UInt64.toNat_mod ..
  have hbus : Format.records.busOf m.origin = .numbered ((n - 1) % 16 + 1) := by
    rw [h.origin, Format.busOf_records, Format.busDigit_numbered h.number_lt]
  refine ⟨_, by rw [Format.normal?, h.entry], ?_⟩
  constructor
  · intro heq
    have hname : Format.records.busOf m.origin = .numbered n :=
      Option.some.inj ((congrArg Message.origin heq).trans h.origin)
    have hsmall : (n - 1) % 16 + 1 < UInt32.size :=
      Nat.lt_of_le_of_lt (Nat.succ_le_of_lt (Nat.mod_lt _ (by decide))) (by decide)
    have hnumber := eq_of_numbered hsmall h.number_lt (hbus.symm.trans hname)
    have htime : Format.records.microsOf m.time = m.time.toMicros := by
      rw [← Timestamp.toMicros_ofMicros (Format.records.microsOf m.time)]
      exact congrArg (fun m => m.time.toMicros) heq
    rw [htime] at hmicros
    omega
  · rintro ⟨hle, hlt⟩
    have hnumber : (n - 1) % 16 + 1 = n := by
      have hpos := h.number_pos
      omega
    have htime : Format.records.microsOf m.time = m.time.toMicros := by
      apply UInt64.toNat_inj.mp
      rw [hmicros, Nat.mod_eq_of_lt hlt]
    rw [hbus, hnumber, htime, Frame.withOrigin_self h.origin_frame, h.time, ← h.eq]

/-! ### One offer -/

namespace Decoder

/-- If nothing is found before the last of the bytes, one offer takes them all. -/
theorem offer_of_silent {d : Decoder} {bytes : List UInt8}
    (h : ∀ before rest, bytes = before ++ rest → rest ≠ [] → (d.scan before).contents = []) :
    (d.offer bytes).consumed = bytes.length ∧
    (d.offer bytes).decoder = (d.scan bytes).decoder ∧
    contentsOf (d.offer bytes).refusals (d.offer bytes).message = (d.scan bytes).contents := by
  have hconsumed : (d.offer bytes).consumed = bytes.length := by
    by_cases hbytes : bytes = []
    · subst hbytes
      rfl
    obtain ⟨before, b, rest, hsplit, hconsumed, -, -, hended⟩ := d.offer_split hbytes
    have hrest : rest = [] := by
      by_contra hrest
      have hsilent := h (before ++ [b]) rest (by simp [hsplit]) hrest
      rw [contents_scan_append, contents_scan_cons, List.append_eq_nil_iff,
        List.append_eq_nil_iff] at hsilent
      rcases (d.scan before).decoder.yields_step b with ⟨hopen, -⟩ | ⟨e, -, -, hcontents⟩
      · exact absurd (hopen.symm.trans (hended hrest)) Bool.false_ne_true
      · exact absurd (hcontents.symm.trans hsilent.2.1) (List.cons_ne_nil e [])
    rw [hconsumed, hsplit, hrest, List.length_append, List.length_singleton]
  have hscan : d.scan bytes = _ := scan_offer rfl
  rw [hconsumed, List.drop_length] at hscan
  refine ⟨hconsumed, ?_, ?_⟩
  · rw [hscan]
    rfl
  · rw [hscan, contents_behind]
    exact (List.append_nil _).symm

end Decoder

/-- Before the last byte of a recorded message nothing is found. -/
theorem contents_scan_part {format : Format} {m : Message} {before rest : List UInt8}
    (h : format.encode m = before ++ rest) (hrest : rest ≠ []) :
    ((Decoder.new format).scan before).contents = [] := by
  obtain ⟨rest, e, rfl⟩ := List.eq_nil_or_concat rest |>.resolve_left hrest
  cases hf : m.entry.traffic? with
  | none =>
    have hnil : format.encode m = [] := by
      cases format <;> simp [Format.encode, Gvret.Line.encode, Gvret.Record.encode, hf]
    simp [hnil] at h
  | some f =>
    cases format with
    | lines =>
      have htext : Gvret.Line.bytes (Gvret.Line.text m f) = before ++ rest := by
        simp only [Format.encode, Gvret.Line.encode, hf, Gvret.Line.bytes, List.map_append,
          List.concat_eq_append, ← List.append_assoc] at h
        exact (List.append_inj' h rfl).1
      have hends : ∀ b ∈ before, Gvret.LineDecoder.isEnd b = false := fun b hb =>
        Gvret.Line.isEnd_text (htext ▸ List.mem_append_left rest hb)
      have hlength : before.length ≤ Gvret.Line.maxLength := by
        have hle := Gvret.Line.length_text_le m f
        have hbytes := congrArg List.length htext
        rw [Gvret.Line.bytes, List.length_map, List.length_append] at hbytes
        omega
      have hscan : (Decoder.new .lines).scan before = _ := scan_unended hends hlength
      rw [hscan]
      rfl
    | records =>
      rw [Format.encode, Gvret.Record.encode_of_traffic hf] at h
      have hscan : (Decoder.new .records).scan before = _ :=
        scan_part (Gvret.Record.isRecord_bytes m f) h hrest
      rw [hscan]
      rfl

theorem eq_of_contentsOf {refusals : List Refusal} {message x : Option Message}
    (h : Decoder.contentsOf refusals message = x.toList.map .ok) :
    message = x ∧ refusals = [] := by
  cases refusals <;> cases message <;> cases x <;> simp_all [Decoder.contentsOf]

/-- One offer takes the whole of a recorded message and yields what remains of it. -/
theorem offer_encode (format : Format) (m : Message) :
    (Decoder.new format).offer (format.encode m) =
      { decoder := .new format, message := format.normal? m,
        consumed := (format.encode m).length } := by
  obtain ⟨hcontents, hdecoder⟩ := scan_encode format m
  obtain ⟨hconsumed, hstate, hfound⟩ :=
    Decoder.offer_of_silent fun _ _ h hrest => contents_scan_part (m := m) h hrest
  obtain ⟨hmessage, hrefusals⟩ := eq_of_contentsOf (hfound.trans hcontents)
  have hnew := hstate.trans hdecoder
  generalize (Decoder.new format).offer (format.encode m) = o
    at hconsumed hmessage hrefusals hnew ⊢
  obtain ⟨decoder, message, consumed, refusals⟩ := o
  exact (Offered.mk.injEq ..).mpr ⟨hnew, hmessage, hconsumed, hrefusals⟩

/-! ### From one format to the other -/

theorem messages_readStream_encodeAll {format : Format} {messages : List Message}
    {pieces : List (List UInt8)} (h : pieces.flatten = format.encodeAll messages) :
    ((Decoder.new format).readStream pieces).messages = messages.filterMap format.normal? := by
  rw [Decoded.messages_eq, ((Decoder.new format).contents_readStream pieces).1, h,
    contents_readLast_encodeAll, List.filterMap_map]
  exact List.filterMap_some

/-- Messages of which a format keeps everything are read back from it. -/
theorem messages_readStream_of_kept {format : Format} {messages : List Message}
    {pieces : List (List UInt8)} (h : pieces.flatten = format.encodeAll messages)
    (hkept : ∀ m ∈ messages, format.normal? m = some m) :
    ((Decoder.new format).readStream pieces).messages = messages := by
  rw [messages_readStream_encodeAll h, List.filterMap_congr hkept]
  exact List.filterMap_some

/-- Every message that calls of a decoder yield is canonical.  Of its line, one offer yields just
this message; of its record, a message that is this one exactly if the bus and the time have room in
a record, as those have that were read from records.  So a recording in records, in whatever pieces
it arrives, goes to lines and back without loss. -/
theorem canonical_calls :
    (∀ (format : Format) (calls : List Decoder.Call) (m : Message),
      m ∈ (Decoder.new format).yielded calls →
      ∃ n f, Canonical m n f ∧
        (Decoder.new .lines).offer (Format.lines.encode m) =
          { decoder := .new .lines, message := some m,
            consumed := (Format.lines.encode m).length } ∧
        (∃ m', (Decoder.new .records).offer (Format.records.encode m) =
            { decoder := .new .records, message := some m',
              consumed := (Format.records.encode m).length } ∧
          (m' = m ↔ n ≤ 16 ∧ m.time.toMicros.toNat < 2 ^ 32)) ∧
        (format = .records → n ≤ 16 ∧ m.time.toMicros.toNat < 2 ^ 32)) ∧
    ∀ records lines records' : List (List UInt8),
      let messages := ((Decoder.new .records).readStream records).messages
      lines.flatten = Format.lines.encodeAll messages →
      let messages' := ((Decoder.new .lines).readStream lines).messages
      records'.flatten = Format.records.encodeAll messages' →
      messages' = messages ∧ ((Decoder.new .records).readStream records').messages = messages := by
  constructor
  · intro format calls m hm
    have hreads := Decoder.reads_yielded hm
    rw [Decoder.format_new] at hreads
    obtain ⟨n, f, hcanonical, hrecords⟩ := hreads.canonical
    refine ⟨n, f, hcanonical, ?_, ?_, hrecords⟩
    · rw [offer_encode, hcanonical.normal?_lines]
    · obtain ⟨m', hm', hiff⟩ := hcanonical.normal?_records
      exact ⟨m', by rw [offer_encode, hm'], hiff⟩
  · intro records lines records' messages hlines messages' hrecords'
    have hkept : ∀ m ∈ messages,
        Format.lines.normal? m = some m ∧ Format.records.normal? m = some m := by
      intro m hm
      have hreads : Format.records.Reads (.ok m) := Decoder.reads_readStream hm
      obtain ⟨n, f, hcanonical, hroom⟩ := hreads.canonical
      obtain ⟨m', hm', hiff⟩ := hcanonical.normal?_records
      rw [hiff.mpr (hroom rfl)] at hm'
      exact ⟨hcanonical.normal?_lines, hm'⟩
    have hmessages : messages' = messages :=
      messages_readStream_of_kept hlines fun m hm => (hkept m hm).1
    rw [hmessages] at hrecords'
    exact ⟨hmessages, messages_readStream_of_kept hrecords' fun m hm => (hkept m hm).2⟩

/-- A line with signs, zeros and a field too many, which the end of the stream ends.  Its bus has no
place in a record. -/
theorem canonical_calls_of_lenient_line :
    let calls : List Decoder.Call :=
      [.offer (Gvret.Line.bytes "+0042000001 - 7Ff S +04".toList),
        .offer (Gvret.Line.bytes "1 02 0a +B 00".toList), .finish]
    let f : Frame := ⟨some (.numbered 42), 0x7ff, .standard, [0x0a, 0x0b], by decide, by decide⟩
    let m : Message := ⟨some (.numbered 42), ⟨42, 1⟩, .frame .received f⟩
    m ∈ (Decoder.new .lines).yielded calls ∧
      ((Decoder.new .lines).offer (Format.lines.encode m)).message = some m ∧
      ((Decoder.new .records).offer (Format.records.encode m)).message ≠ some m := by
  intro calls f m
  have hm : m ∈ (Decoder.new .lines).yielded calls := by decide
  obtain ⟨n, _, hcanonical, hlines, ⟨m', hrecords, hiff⟩, -⟩ :=
    canonical_calls.1 .lines calls m hm
  have hn : 42 = n :=
    eq_of_numbered (by decide) hcanonical.number_lt (Option.some.inj hcanonical.origin)
  refine ⟨hm, by rw [hlines], fun h => ?_⟩
  rw [hrecords] at h
  have hroom := (hiff.mp (Option.some.inj h)).1
  omega

end Capture
end Fieldbus
