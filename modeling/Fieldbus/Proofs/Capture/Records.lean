import Fieldbus.Proofs.Capture.Bytewise
import Fieldbus.Proofs.Gvret.Record

/-! A stream of records is read like all its bytes at once (`messages_readStream_records`): a search
for the start of a record, over and over behind the last one.  What the decoder holds is the
beginning of the next record, as far as it has come (`Record.IsOpen`). -/

namespace Fieldbus

namespace Gvret

namespace Record

/-- The messages of a recording.  From the next place where a frame mark follows a start, a record
takes the bytes that its eleventh byte announces; if it announces too much data, only the eleven
bytes are passed over.  An unfinished record is none. -/
def messages : List UInt8 → List Message
  | [] => []
  | b :: rest =>
    let recording := b :: rest
    if b = start ∧ rest.head? = some frameMark then
      match recording[10]? with
      | none => []
      | some lengthAndBus =>
        let dlc := lengthAndBus.toNat % 16
        if 8 < dlc then messages (recording.drop 11)
        else if recording.length < 12 + dlc then []
        else
          (parse (recording.take (12 + dlc))).toOption.toList
            ++ messages (recording.drop (12 + dlc))
    else messages rest
termination_by recording => recording.length

/-- Bytes that may begin a record and do not hold a whole one yet. -/
def IsOpen (record : List UInt8) : Prop :=
  record = [] ∨ record = [start] ∨
    (∃ rest, record = start :: frameMark :: rest) ∧
      ∀ b ∈ record[10]?, b.toNat % 16 ≤ 8 ∧ record.length < 12 + b.toNat % 16

theorem isOpen_nil : IsOpen [] := .inl rfl

theorem messages_skip {b : UInt8} {rest : List UInt8}
    (h : ¬(b = start ∧ rest.head? = some frameMark)) : messages (b :: rest) = messages rest := by
  rw [messages, if_neg h]

section Whole

/-! What stands at the start of a record, by its eleventh byte `c`. -/

variable {recording : List UInt8} {c : UInt8} (hs : ∃ rest, recording = start :: frameMark :: rest)

include hs

theorem messages_of_none (h : recording[10]? = none) : messages recording = [] := by
  obtain ⟨rest, rfl⟩ := hs
  rw [messages, if_pos ⟨rfl, rfl⟩, h]

theorem messages_of_lt (h : recording[10]? = some c)
    (hlen : recording.length < 12 + c.toNat % 16) (hc : c.toNat % 16 ≤ 8) :
    messages recording = [] := by
  obtain ⟨rest, rfl⟩ := hs
  rw [messages, if_pos ⟨rfl, rfl⟩, h]
  dsimp only
  rw [if_neg (Nat.not_lt.mpr hc), if_pos hlen]

/-- Too much data is announced. -/
theorem messages_of_overlong (h : recording[10]? = some c) (hc : 8 < c.toNat % 16) :
    messages recording = messages (recording.drop 11) := by
  obtain ⟨rest, rfl⟩ := hs
  rw [messages, if_pos ⟨rfl, rfl⟩, h]
  dsimp only
  rw [if_pos hc]

theorem messages_of_le (h : recording[10]? = some c) (hc : c.toNat % 16 ≤ 8)
    (hlen : 12 + c.toNat % 16 ≤ recording.length) :
    messages recording =
      (parse (recording.take (12 + c.toNat % 16))).toOption.toList
        ++ messages (recording.drop (12 + c.toNat % 16)) := by
  obtain ⟨rest, rfl⟩ := hs
  rw [messages, if_pos ⟨rfl, rfl⟩, h]
  dsimp only
  rw [if_neg (Nat.not_lt.mpr hc), if_neg (Nat.not_lt.mpr hlen)]

end Whole

/-- Bytes that hold no whole record yet hold no message. -/
theorem messages_of_isOpen {record : List UInt8} (h : IsOpen record) : messages record = [] := by
  rcases h with rfl | rfl | ⟨hs, hlength⟩
  · rw [messages]
  · rw [messages_skip (by simp), messages]
  · cases h10 : record[10]? with
    | none => exact messages_of_none hs h10
    | some b => exact messages_of_lt hs h10 (hlength b h10).2 (hlength b h10).1

end Record

namespace RecordDecoder

open Record (IsOpen start frameMark messages parse)

section Step

variable {record : List UInt8} {b c : UInt8}

theorem step_of_none (h : (extend record b)[10]? = none) :
    step ⟨record⟩ b = { state := ⟨extend record b⟩ } := by
  rw [step, Record.length?_eq, h]
  rfl

theorem step_of_overlong (h : (extend record b)[10]? = some c) (hc : 8 < c.toNat % 16) :
    step ⟨record⟩ b = { state := {}, refusal := some (.recordLength (c.toNat % 16)) } := by
  rw [step, Record.length?_eq, h]
  exact if_pos hc

theorem step_of_whole (h : (extend record b)[10]? = some c) (hc : c.toNat % 16 ≤ 8)
    (hlen : (extend record b).length = 12 + c.toNat % 16) :
    step ⟨record⟩ b = .ending {} (parse (extend record b)) := by
  rw [step, Record.length?_eq, h]
  dsimp only [Option.map_some]
  rw [if_neg (show ¬ maxPayload < c.toNat % 16 from Nat.not_lt.mpr hc),
    if_pos (by rw [hlen, Record.headerLength]; omega)]

theorem step_of_part (h : (extend record b)[10]? = some c) (hc : c.toNat % 16 ≤ 8)
    (hlen : (extend record b).length ≠ 12 + c.toNat % 16) :
    step ⟨record⟩ b = { state := ⟨extend record b⟩ } := by
  rw [step, Record.length?_eq, h]
  dsimp only [Option.map_some]
  rw [if_neg (show ¬ maxPayload < c.toNat % 16 from Nat.not_lt.mpr hc),
    if_neg (by rw [Record.headerLength]; omega)]

end Step

/-- Behind the frame mark, one byte makes the record longer, or it completes the record, or it
announces too much. -/
theorem step_of_frameMark {record : List UInt8} {b : UInt8}
    (hs : ∃ rest, extend record b = start :: frameMark :: rest)
    (hlength : ∀ c ∈ (extend record b)[10]?, (extend record b).length = 11 ∨
      c.toNat % 16 ≤ 8 ∧ (extend record b).length ≤ 12 + c.toNat % 16) :
    IsOpen (step ⟨record⟩ b).state.record ∧
    ∀ rest, messages (extend record b ++ rest) =
      (step ⟨record⟩ b).message.toList ++ messages ((step ⟨record⟩ b).state.record ++ rest) := by
  have hs' : ∀ rest, ∃ rest', extend record b ++ rest = start :: frameMark :: rest' := by
    obtain ⟨whole, hwhole⟩ := hs
    rw [hwhole]
    exact fun rest => ⟨whole ++ rest, rfl⟩
  cases h10 : (extend record b)[10]? with
  | none =>
    rw [step_of_none h10]
    exact ⟨.inr (.inr ⟨hs, by simp [h10]⟩), fun rest => rfl⟩
  | some c =>
    have h11 : 11 ≤ (extend record b).length := (List.getElem?_eq_some_iff.mp h10).1
    have h10' : ∀ rest, (extend record b ++ rest)[10]? = some c := fun rest => by
      rw [List.getElem?_append_left (by omega), h10]
    have hlen := hlength c h10
    rcases Nat.lt_or_ge 8 (c.toNat % 16) with hc | hc
    · rw [step_of_overlong h10 hc]
      refine ⟨.inl rfl, fun rest => ?_⟩
      rw [Record.messages_of_overlong (hs' rest) (h10' rest) hc, List.drop_left' (by omega)]
      rfl
    by_cases hfull : (extend record b).length = 12 + c.toNat % 16
    · rw [step_of_whole h10 hc hfull]
      obtain ⟨hmessage, hstate⟩ := message_ending ({} : RecordDecoder) (parse (extend record b))
      rw [hmessage, hstate]
      refine ⟨.inl rfl, fun rest => ?_⟩
      rw [Record.messages_of_le (hs' rest) (h10' rest) hc (by rw [List.length_append]; omega),
        List.take_left' hfull, List.drop_left' hfull]
      rfl
    · rw [step_of_part h10 hc hfull]
      refine ⟨.inr (.inr ⟨hs, fun d hd => ?_⟩), fun rest => rfl⟩
      obtain rfl : c = d := Option.some.inj (h10.symm.trans hd)
      show c.toNat % 16 ≤ 8 ∧ (extend record b).length < 12 + c.toNat % 16
      omega

/-- One byte takes the beginning of a record to the beginning of a record, and passes over nothing
that a message depends on. -/
theorem step_of_isOpen {record : List UInt8} (h : IsOpen record) (b : UInt8) :
    IsOpen (step ⟨record⟩ b).state.record ∧
    ∀ rest, messages (record ++ b :: rest) =
      (step ⟨record⟩ b).message.toList ++ messages ((step ⟨record⟩ b).state.record ++ rest) := by
  rcases h with rfl | rfl | ⟨hs, hlength⟩
  · by_cases hb : b = start
    · subst hb
      exact ⟨.inr (.inl rfl), fun rest => rfl⟩
    · rw [step_of_none (by simp [extend, hb])]
      simp only [extend, if_neg hb]
      exact ⟨.inl rfl, fun rest => Record.messages_skip fun h => hb h.1⟩
  · by_cases hb : b = frameMark
    · subst hb
      exact step_of_frameMark ⟨[], rfl⟩ (by simp [extend])
    · rw [step_of_none (by simp only [extend, if_neg hb]; split <;> rfl)]
      have hskip : ∀ rest, messages ([start] ++ b :: rest) = messages (b :: rest) := fun rest =>
        Record.messages_skip fun h => hb (Option.some.inj h.2)
      simp only [extend, if_neg hb, hskip]
      by_cases hb' : b = start
      · subst hb'
        exact ⟨.inr (.inl rfl), fun rest => rfl⟩
      · simp only [if_neg hb']
        exact ⟨.inl rfl, fun rest => Record.messages_skip fun h => hb' h.1⟩
  · have hext : extend record b = record ++ [b] := by
      obtain ⟨_, rfl⟩ := hs
      rfl
    have hs' : ∃ rest, extend record b = start :: frameMark :: rest := by
      obtain ⟨rest, rfl⟩ := hs
      exact ⟨rest ++ [b], rfl⟩
    have hlength' : ∀ c ∈ (extend record b)[10]?, (extend record b).length = 11 ∨
        c.toNat % 16 ≤ 8 ∧ (extend record b).length ≤ 12 + c.toNat % 16 := by
      intro c hc
      rw [hext] at hc ⊢
      have h11 := (List.getElem?_eq_some_iff.mp hc).1
      rw [List.length_append, List.length_singleton] at h11 ⊢
      rcases Nat.lt_or_ge 10 record.length with hlt | hge
      · rw [List.getElem?_append_left hlt] at hc
        have := hlength c hc
        omega
      · omega
    obtain ⟨hopen, hmessages⟩ := step_of_frameMark hs' hlength'
    refine ⟨hopen, fun rest => ?_⟩
    rw [List.append_cons, ← hext]
    exact hmessages rest

end RecordDecoder

/-- Bytes in which no frame mark follows a start are passed over before a record. -/
theorem Record.messages_garbage {garbage : List UInt8}
    (h : ¬ [Record.start, Record.frameMark] <:+: garbage) (rest : List UInt8) :
    messages (garbage ++ start :: frameMark :: rest) = messages (start :: frameMark :: rest) := by
  induction garbage with
  | nil => rfl
  | cons b garbage ih =>
    have hskip : ¬(b = start ∧ (garbage ++ start :: frameMark :: rest).head? = some frameMark) := by
      rintro ⟨rfl, hhead⟩
      cases garbage with
      | nil => exact absurd (Option.some.inj hhead) (by decide)
      | cons c garbage =>
        obtain rfl : c = frameMark := Option.some.inj hhead
        exact h ⟨[], garbage, rfl⟩
    rw [List.cons_append, messages_skip hskip]
    exact ih fun hinfix => h (List.infix_cons hinfix)

theorem Record.encode_of_traffic {m : Message} {f : Frame} (h : m.entry.traffic? = some f) :
    encode m = bytes m f := by
  rw [encode, h]
  rfl

end Gvret

namespace Capture

open Gvret Gvret.Record

/-- From the beginning of a record on, what is read is what that beginning and the bytes hold, and
the decoder then holds the beginning of a record again. -/
theorem scan_of_isOpen {record : List UInt8} (h : IsOpen record) (bytes : List UInt8) :
    ((Decoder.records ⟨record⟩).scan bytes).messages = messages (record ++ bytes) ∧
    ∃ record', IsOpen record' ∧
      ((Decoder.records ⟨record⟩).scan bytes).decoder = .records ⟨record'⟩ := by
  induction bytes generalizing record with
  | nil =>
    rw [List.append_nil, messages_of_isOpen h]
    exact ⟨rfl, record, h, rfl⟩
  | cons b bytes ih =>
    obtain ⟨hopen, hmessages⟩ := RecordDecoder.step_of_isOpen h b
    obtain ⟨hscan, hdecoder⟩ := ih hopen
    refine ⟨?_, hdecoder⟩
    rw [Decoder.messages_scan_cons, hmessages, ← hscan]
    rfl

section Part

variable {whole record rest : List UInt8} {b : UInt8} (h : IsRecord whole)

include h

theorem extend_of_isRecord (hwhole : whole = record ++ b :: rest) :
    RecordDecoder.extend record b = record ++ [b] := by
  obtain ⟨tail, htail⟩ := h.start
  match record, htail ▸ hwhole with
  | [], hwhole => simp_all [RecordDecoder.extend]
  | [s], hwhole => simp_all [RecordDecoder.extend]
  | _ :: _ :: _, _ => rfl

/-- Before its last byte, a record only gets longer. -/
theorem step_of_isRecord (hwhole : whole = record ++ b :: rest) (hne : rest ≠ []) :
    RecordDecoder.step ⟨record⟩ b = { state := ⟨record ++ [b]⟩ } := by
  obtain ⟨c, h10, hc, hlen⟩ := h.length
  have hext := extend_of_isRecord h hwhole
  rw [← hext]
  rw [List.append_cons, ← hext] at hwhole
  cases hpart : (RecordDecoder.extend record b)[10]? with
  | none => exact RecordDecoder.step_of_none hpart
  | some d =>
    have hlt := (List.getElem?_eq_some_iff.mp hpart).1
    rw [hwhole, List.getElem?_append_left hlt, hpart] at h10
    obtain rfl := Option.some.inj h10
    refine RecordDecoder.step_of_part hpart hc fun hfull => ?_
    have hrest := List.length_pos_iff.mpr hne
    rw [hwhole, List.length_append, headerLength] at hlen
    omega

/-- A part of a record is kept until the rest comes. -/
theorem scan_part {part : List UInt8} (hwhole : whole = record ++ part ++ rest) (hne : rest ≠ []) :
    (Decoder.records ⟨record⟩).scan part = { decoder := .records ⟨record ++ part⟩ } := by
  induction part generalizing record with
  | nil => rw [List.append_nil, Decoder.scan]
  | cons b part ih =>
    have hnext : whole = record ++ b :: (part ++ rest) := by
      rw [hwhole, List.append_assoc, List.cons_append]
    have hstep : (Decoder.records ⟨record⟩).step b = { state := .records ⟨record ++ [b]⟩ } := by
      show Decoder.lift Decoder.records (RecordDecoder.step ⟨record⟩ b) = _
      rw [step_of_isRecord h hnext (List.append_ne_nil_of_right_ne_nil part hne)]
      rfl
    rw [List.append_cons] at hwhole ⊢
    rw [Decoder.scan, hstep, ih hwhole]
    rfl

/-- The rest of a record completes it: the record is read, and the decoder is where it began. -/
theorem scan_of_isRecord (hwhole : whole = record ++ rest) (hne : rest ≠ []) :
    ((Decoder.records ⟨record⟩).scan rest).contents = [parse whole] ∧
    ((Decoder.records ⟨record⟩).scan rest).decoder = .records {} := by
  obtain ⟨c, h10, hc, hlen⟩ := h.length
  obtain ⟨part, b, rfl⟩ := List.eq_nil_or_concat rest |>.resolve_left hne
  rw [List.concat_eq_append, ← List.append_assoc] at hwhole
  rw [List.concat_eq_append]
  have hpart : (Decoder.records ⟨record⟩).scan part = { decoder := .records ⟨record ++ part⟩ } :=
    scan_part h hwhole (List.cons_ne_nil b [])
  have hext : RecordDecoder.extend (record ++ part) b = whole :=
    (extend_of_isRecord h hwhole).trans hwhole.symm
  have hstep : RecordDecoder.step ⟨record ++ part⟩ b = .ending {} (parse whole) := by
    rw [← hext] at h10 hlen ⊢
    exact RecordDecoder.step_of_whole h10 hc (by rw [hlen, headerLength]; omega)
  rw [Decoder.contents_scan_append, Decoder.decoder_scan_append, hpart, Decoder.contents_scan_cons,
    Decoder.decoder_scan_cons]
  show [] ++ (Decoder.contentsOf (RecordDecoder.step ⟨record ++ part⟩ b).refusal.toList
        (RecordDecoder.step ⟨record ++ part⟩ b).message ++ []) = _ ∧
    Decoder.records (RecordDecoder.step ⟨record ++ part⟩ b).state = _
  rw [hstep, Decoder.contentsOf_ending, (message_ending ({} : RecordDecoder) _).2]
  exact ⟨rfl, rfl⟩

end Part

/-- In whatever pieces a stream of records arrives, its messages are those found in all its bytes;
its end adds none.  Garbage before a record that holds no start with a frame mark changes nothing
about that record and what follows it. -/
theorem messages_readStream_records :
    (∀ pieces : List (List UInt8),
      ((Decoder.new .records).readPieces [] pieces).messages = messages pieces.flatten ∧
      ((Decoder.new .records).readStream pieces).messages = messages pieces.flatten) ∧
    ∀ (garbage rest : List UInt8) (m : Message) (pieces pieces' : List (List UInt8)),
      ¬ [start, frameMark] <:+: garbage → m.entry.traffic?.isSome →
      pieces.flatten = garbage ++ encode m ++ rest → pieces'.flatten = encode m ++ rest →
      ((Decoder.new .records).readStream pieces).messages
        = ((Decoder.new .records).readStream pieces').messages := by
  have hread : ∀ pieces : List (List UInt8),
      ((Decoder.new .records).readPieces [] pieces).messages = messages pieces.flatten ∧
      ((Decoder.new .records).readStream pieces).messages = messages pieces.flatten := by
    intro pieces
    obtain ⟨hscan, record, -, hdecoder⟩ := scan_of_isOpen isOpen_nil pieces.flatten
    obtain ⟨hpieces, -⟩ := (Decoder.new .records).readPieces_flatten pieces
    obtain ⟨hstream, -⟩ := (Decoder.new .records).readStream_flatten pieces
    refine ⟨hpieces.trans hscan, hstream.trans ?_⟩
    have hfinish : ((Decoder.new .records).scan pieces.flatten).decoder.finish.message = none :=
      hdecoder ▸ rfl
    rw [hfinish, Option.toList_none, List.append_nil]
    exact hscan
  refine ⟨hread, ?_⟩
  intro garbage rest m pieces pieces' hgarbage hm hpieces hpieces'
  obtain ⟨f, hf⟩ := Option.isSome_iff_exists.mp hm
  obtain ⟨tail, htail⟩ := (isRecord_bytes m f).start
  rw [(hread pieces).2, (hread pieces').2, hpieces, hpieces', encode_of_traffic hf, htail,
    List.append_assoc]
  exact messages_garbage hgarbage _

/-- Garbage that ends in a start, and another start in it, from where no record goes on. -/
theorem messages_readStream_false_starts :
    let record : List UInt8 := [0xf1, 0, 1, 0, 0, 0, 0xff, 7, 0, 0, 0, 0]
    ((Decoder.new .records).readStream
        [[0, 0xf1, 0x55, 0xf1] ++ record.take 1, record.drop 1]).messages
      = ((Decoder.new .records).readStream [record]).messages := by
  intro record
  exact messages_readStream_records.2 [0, 0xf1, 0x55, 0xf1] []
    ⟨none, ⟨0, 1⟩, .frame .sent ⟨none, 0x7ff, .standard, [], by decide, by decide⟩⟩ _ _
    (by decide) rfl (by decide) (by decide)

end Capture
end Fieldbus
