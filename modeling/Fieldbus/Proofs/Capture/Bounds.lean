import Fieldbus.Proofs.Capture.Calls
import Fieldbus.Proofs.Capture.Records

/-! Bounds of what decoders keep.  Between calls a line has at most 128 bytes, and a record fewer
than it announces.  So a record is read just when it is whole, and none of its bytes is looked up in
vain (`RecordDecoder.step?_eq`).  Every offer takes a byte or more, and a search for a message makes
at most as many offers as there are bytes (`Decoder.nextWithin_eq`). -/

namespace Fieldbus

namespace Gvret

structure LineDecoder.Bounded (d : LineDecoder) : Prop where
  length_le : d.line.length ≤ 128
  discarding : d.discarding = true → d.line = []

/-- The unfinished record begins as a record does, and from its eleventh byte on it is shorter than
that byte announces. -/
structure RecordDecoder.Bounded (d : RecordDecoder) : Prop where
  start : ∀ b ∈ d.record[0]?, b = Record.start
  frameMark : ∀ b ∈ d.record[1]?, b = Record.frameMark
  length_le : d.record.length ≤ 19
  announced : ∀ b ∈ d.record[10]?, b.toNat % 16 ≤ 8 ∧ d.record.length ≤ 11 + b.toNat % 16

namespace LineDecoder

theorem bounded_empty : Bounded {} := ⟨Nat.zero_le _, fun _ => rfl⟩

theorem bounded_ending (e : Except Refusal Message) :
    (Fed.ending ({} : LineDecoder) e).state.Bounded := by
  rw [(message_ending _ e).2]
  exact bounded_empty

theorem Bounded.step {d : LineDecoder} (h : d.Bounded) (b : UInt8) : (d.step b).state.Bounded := by
  rw [LineDecoder.step]
  split
  · split
    · exact ⟨h.length_le, fun hdiscarding => absurd hdiscarding Bool.false_ne_true⟩
    · split
      · exact h
      · exact bounded_ending _
  · split
    · exact h
    · next hkept =>
      split
      · exact ⟨Nat.zero_le _, fun _ => rfl⟩
      · next hroom =>
        refine ⟨?_, fun hdiscarding => absurd hdiscarding hkept⟩
        have hlt : d.line.length < 128 := Nat.not_le.mp hroom
        rw [List.length_append, List.length_singleton]
        omega

theorem bounded_finish (d : LineDecoder) : d.finish.state.Bounded := by
  rw [LineDecoder.finish]
  split
  · exact bounded_empty
  · exact bounded_ending _

/-- A byte ends a call only if it ends a line that is kept and not empty. -/
theorem of_ended_step {d : LineDecoder} {b : UInt8} (h : (d.step b).ended = true) :
    d.discarding = false ∧ d.line ≠ [] ∧ isEnd b = true := by
  rw [step] at h
  split at h
  · next hb =>
    split at h
    · cases h
    · next hkept =>
      split at h
      · cases h
      · next hline => exact ⟨by simpa using hkept, by simpa using hline, hb⟩
  · split at h
    · cases h
    · split at h <;> cases h

end LineDecoder

namespace RecordDecoder

open Record (IsOpen IsRecord start frameMark headerLength parse)

variable {record : List UInt8} {b : UInt8}

theorem bounded_iff (record : List UInt8) : Bounded ⟨record⟩ ↔ IsOpen record := by
  constructor
  · rintro ⟨hstart, hmark, -, hannounced⟩
    dsimp only at hstart hmark hannounced
    match record with
    | [] => exact .inl rfl
    | [s] => exact .inr (.inl (congrArg (fun b => [b]) (hstart s rfl)))
    | s :: m :: rest =>
      obtain rfl := hstart s rfl
      obtain rfl := hmark m rfl
      refine .inr (.inr ⟨⟨rest, rfl⟩, fun b hb => ?_⟩)
      have := hannounced b hb
      omega
  · intro h
    have hannounced : ∀ b ∈ record[10]?, b.toNat % 16 ≤ 8 ∧ record.length ≤ 11 + b.toNat % 16 := by
      intro b hb
      rcases h with rfl | rfl | ⟨-, hlength⟩
      · exact nomatch hb
      · exact nomatch hb
      · have := hlength b hb
        omega
    have hlength : record.length ≤ 19 := by
      cases h10 : record[10]? with
      | none =>
        have := List.getElem?_eq_none_iff.mp h10
        omega
      | some b =>
        have := hannounced b h10
        omega
    rcases h with rfl | rfl | ⟨⟨rest, rfl⟩, -⟩
    all_goals exact ⟨by simp, by simp, hlength, hannounced⟩

theorem Bounded.step {d : RecordDecoder} (h : d.Bounded) (b : UInt8) : (d.step b).state.Bounded :=
  (bounded_iff _).mpr (step_of_isOpen ((bounded_iff d.record).mp h) b).1

theorem extend_of_lt_length (h : 2 < (extend record b).length) :
    extend record b = record ++ [b] := by
  match record with
  | [] =>
    simp only [extend] at h
    split at h <;> simp at h
  | [s] =>
    simp only [extend] at h
    split at h
    · simp at h
    · split at h <;> simp at h
  | _ :: _ :: _ => rfl

/-- A byte ends a call only if it completes a record, which is then read. -/
theorem of_ended_step (h : Bounded ⟨record⟩) (hended : (step ⟨record⟩ b).ended = true) :
    IsRecord (record ++ [b]) ∧ step ⟨record⟩ b = .ending {} (parse (record ++ [b])) := by
  cases h10 : (extend record b)[10]? with
  | none =>
    rw [step_of_none h10] at hended
    cases hended
  | some c =>
    by_cases hlong : 8 < c.toNat % 16
    · rw [step_of_overlong h10 hlong] at hended
      cases hended
    have hc : c.toNat % 16 ≤ 8 := Nat.not_lt.mp hlong
    by_cases hlen : (extend record b).length = 12 + c.toNat % 16
    · have hext : extend record b = record ++ [b] := extend_of_lt_length (by omega)
      have hstep := step_of_whole h10 hc hlen
      rw [hext] at h10 hlen hstep
      refine ⟨⟨?_, c, h10, hc, by rw [hlen, headerLength]; omega⟩, hstep⟩
      rcases (bounded_iff record).mp h with rfl | rfl | ⟨⟨rest, rfl⟩, -⟩
      · simp at hlen
        omega
      · simp at hlen
        omega
      · exact ⟨rest ++ [b], rfl⟩
    · rw [step_of_part h10 hc hlen] at hended
      cases hended

end RecordDecoder

/-! ### Bytes that are looked up -/

namespace Record

/-- So many bytes from a place on, if they are all there. -/
def slice? (bytes : List UInt8) (place length : Nat) : Option (List UInt8) :=
  if place + length ≤ bytes.length then some ((bytes.drop place).take length) else none

/-- Reads a record by the places of its bytes, if there is a byte in each of them. -/
def parse? (record : List UInt8) : Option (Except Refusal Message) := do
  let micros := Word.ofBytes (← record[2]?) (← record[3]?) (← record[4]?) (← record[5]?)
  let idWord := Word.ofBytes (← record[6]?) (← record[7]?) (← record[8]?) (← record[9]?)
  let lengthAndBus ← record[10]?
  let data ← slice? record headerLength (lengthAndBus.toNat % 16)
  return received (BusName.numbered (lengthAndBus.toNat / 16 + 1)) micros.toUInt64
    (ofIdWord idWord).1 (ofIdWord idWord).2 data

/-- A record that is as long as it announces has a byte in each place that is looked up. -/
theorem parse?_eq {record : List UInt8} {c : UInt8} (h : record[10]? = some c)
    (hlen : record.length = 12 + c.toNat % 16) : parse? record = some (parse record) := by
  match record with
  | s :: m :: t₀ :: t₁ :: t₂ :: t₃ :: i₀ :: i₁ :: i₂ :: i₃ :: lengthAndBus :: rest =>
    obtain rfl : lengthAndBus = c := Option.some.inj h
    let record := s :: m :: t₀ :: t₁ :: t₂ :: t₃ :: i₀ :: i₁ :: i₂ :: i₃ :: lengthAndBus :: rest
    have hdata : slice? record headerLength (lengthAndBus.toNat % 16)
        = some (rest.take (lengthAndBus.toNat % 16)) := by
      apply if_pos
      rw [hlen, headerLength]
      omega
    simp [parse?, parse, record, hdata]

end Record

/-- The effect of the next byte, if every byte that is looked up is there. -/
def RecordDecoder.step? (d : RecordDecoder) (b : UInt8) : Option (Fed RecordDecoder) := do
  let record := extend d.record b
  if record.length < Record.headerLength then return { state := ⟨record⟩ }
  let length := (← record[10]?).toNat % 16
  if maxPayload < length then return { state := {}, refusal := some (.recordLength length) }
  if record.length = Record.headerLength + length + 1 then
    return .ending {} (← Record.parse? record)
  return { state := ⟨record⟩ }

theorem RecordDecoder.step?_eq (d : RecordDecoder) (b : UInt8) : d.step? b = some (d.step b) := by
  obtain ⟨record⟩ := d
  rw [step?]
  dsimp only
  cases h10 : (extend record b)[10]? with
  | none =>
    have hshort : (extend record b).length < Record.headerLength :=
      Nat.lt_succ_of_le (List.getElem?_eq_none_iff.mp h10)
    rw [if_pos hshort, step_of_none h10]
    rfl
  | some c =>
    have hlong : ¬ (extend record b).length < Record.headerLength :=
      Nat.not_lt.mpr (List.getElem?_eq_some_iff.mp h10).1
    rw [if_neg hlong]
    by_cases hover : 8 < c.toNat % 16
    · rw [step_of_overlong h10 hover]
      exact if_pos hover
    have hc : c.toNat % 16 ≤ 8 := Nat.not_lt.mp hover
    by_cases hlen : (extend record b).length = 12 + c.toNat % 16
    · have hwhole : (extend record b).length = Record.headerLength + c.toNat % 16 + 1 := by
        rw [hlen, Record.headerLength]
        omega
      rw [step_of_whole h10 hc hlen]
      refine (if_neg hover).trans ((if_pos hwhole).trans ?_)
      rw [Record.parse?_eq h10 hlen]
      rfl
    · rw [step_of_part h10 hc hlen]
      refine (if_neg hover).trans (if_neg ?_)
      rw [Record.headerLength]
      omega

end Gvret

namespace Capture

open Gvret

namespace Decoder

def Bounded : Decoder → Prop
  | lines d => d.Bounded
  | records d => d.Bounded

/-- The byte is the last of a line that is kept and not empty, or of a whole record. -/
def Completes : Decoder → UInt8 → Prop
  | lines d, b => d.discarding = false ∧ d.line ≠ [] ∧ LineDecoder.isEnd b = true
  | records d, b => Record.IsRecord (d.record ++ [b])

theorem bounded_new (format : Format) : (new format).Bounded := by
  cases format with
  | lines => exact LineDecoder.bounded_empty
  | records => exact (RecordDecoder.bounded_iff []).mpr Record.isOpen_nil

theorem Bounded.step (d : Decoder) (b : UInt8) (h : d.Bounded) : (d.step b).state.Bounded := by
  cases d with
  | lines d => exact LineDecoder.Bounded.step h b
  | records d => exact RecordDecoder.Bounded.step h b

theorem Bounded.finish (d : Decoder) (h : d.Bounded) : d.finish.state.Bounded := by
  cases d with
  | lines d => exact d.bounded_finish
  | records d => exact h

theorem Bounded.completes {d : Decoder} {b : UInt8} (h : d.Bounded)
    (hended : (d.step b).ended = true) : d.Completes b := by
  cases d with
  | lines d => exact LineDecoder.of_ended_step hended
  | records d => exact (RecordDecoder.of_ended_step h hended).1

/-- Looks for the next message with at most `n` offers, if these suffice. -/
def nextWithin (d : Decoder) (buffer : List UInt8) : Nat → Option Taken
  | 0 => if buffer = [] then some { decoder := d } else none
  | n + 1 =>
    if buffer = [] then some { decoder := d }
    else
      let o := d.offer buffer
      let left := buffer.drop o.consumed
      if o.message.isSome ∨ o.consumed = 0 then
        some { decoder := o.decoder, message := o.message, left, refusals := o.refusals }
      else
        (o.decoder.nextWithin left n).map fun t => { t with refusals := o.refusals ++ t.refusals }

/-- Every offer makes the buffer shorter, so there are at most as many as it has bytes. -/
theorem nextWithin_eq (d : Decoder) (buffer : List UInt8) {n : Nat} (h : buffer.length ≤ n) :
    d.nextWithin buffer n = some (d.next buffer) := by
  induction n generalizing d buffer with
  | zero =>
    obtain rfl := List.eq_nil_of_length_eq_zero (Nat.le_zero.mp h)
    rw [next_nil]
    rfl
  | succ n ih =>
    rw [nextWithin, next]
    by_cases hbuffer : buffer = []
    · rw [if_pos hbuffer, dif_pos hbuffer]
    rw [if_neg hbuffer, dif_neg hbuffer]
    dsimp only
    split
    · rfl
    · have hlength : (buffer.drop (d.offer buffer).consumed).length ≤ n := by
        have hpos := d.consumed_offer_pos hbuffer
        have := List.length_pos_iff.mpr hbuffer
        rw [List.length_drop]
        omega
      rw [ih _ _ hlength]
      rfl

end Decoder

/-- After any calls, what a decoder keeps is within bounds, and so it stays while bytes are read.
An offer takes one or more of its bytes, and fewer than all only up to the last byte of a line or
record.  A record is read when it is whole, and all bytes that are looked up are there.  The search
for a message ends, and when it finds none no byte is left. -/
theorem bounded_calls (format : Format) (calls : List Decoder.Call) :
    let d := (Decoder.new format).after calls
    (d.Bounded ∧ ∀ bytes, (d.scan bytes).decoder.Bounded) ∧
    (∀ bytes, bytes ≠ [] →
      1 ≤ (d.offer bytes).consumed ∧ (d.offer bytes).consumed ≤ bytes.length ∧
      ((d.offer bytes).consumed < bytes.length →
        ∃ before b rest, bytes = before ++ b :: rest ∧
          (d.offer bytes).consumed = before.length + 1 ∧ (d.scan before).decoder.Completes b)) ∧
    (∀ bytes record b, (d.scan bytes).decoder = .records ⟨record⟩ →
      RecordDecoder.step? ⟨record⟩ b = some (RecordDecoder.step ⟨record⟩ b) ∧
      ((RecordDecoder.step ⟨record⟩ b).ended = true →
        Record.IsRecord (record ++ [b]) ∧
        RecordDecoder.step ⟨record⟩ b = .ending {} (Record.parse (record ++ [b])))) ∧
    ∀ buffer, d.nextWithin buffer buffer.length = some (d.next buffer) ∧
      ((d.next buffer).message = none → (d.next buffer).left = []) := by
  intro d
  have hnew : (Decoder.new format).Bounded := Decoder.bounded_new format
  have hd : d.Bounded :=
    Decoder.after_induct Decoder.Bounded.step Decoder.Bounded.finish hnew calls
  have hscan : ∀ bytes, (d.scan bytes).decoder.Bounded :=
    Decoder.scan_induct Decoder.Bounded.step hd
  refine ⟨⟨hd, hscan⟩, fun bytes hbytes => ?_, fun bytes record b hrecord => ?_,
    fun buffer => ?_⟩
  · obtain ⟨before, b, rest, rfl, hconsumed, -, -, hended⟩ := d.offer_split hbytes
    rw [hconsumed, List.length_append, List.length_cons]
    refine ⟨Nat.succ_pos _, by omega, fun hlt => ⟨before, b, rest, rfl, rfl, ?_⟩⟩
    have hrest : rest ≠ [] := by
      rintro rfl
      exact absurd hlt (Nat.lt_irrefl _)
    exact (hscan before).completes (hended hrest)
  · have hbounded : Decoder.Bounded (.records ⟨record⟩) := hrecord ▸ hscan bytes
    exact ⟨RecordDecoder.step?_eq _ b, RecordDecoder.of_ended_step hbounded⟩
  · exact ⟨d.nextWithin_eq buffer (Nat.le_refl _), Decoder.left_next⟩

/-- A record behind garbage, cut in its header, with an end of the stream in between. -/
theorem bounded_calls_of_part :
    let d := (Decoder.new .records).after [.offer [0x55, 0xf1, 0, 1, 0, 0, 0], .finish]
    let bytes := [0xff, 7, 0, 0, 0, 0, 0xf1, 0]
    d.Bounded ∧ (d.offer bytes).consumed < bytes.length ∧
      ∃ before b rest, bytes = before ++ b :: rest ∧
        (d.offer bytes).consumed = before.length + 1 ∧ (d.scan before).decoder.Completes b := by
  intro d bytes
  obtain ⟨⟨hd, -⟩, hoffer, -⟩ :=
    bounded_calls .records [.offer [0x55, 0xf1, 0, 1, 0, 0, 0], .finish]
  obtain ⟨-, -, hpart⟩ := hoffer bytes (by decide)
  have hlt : (d.offer bytes).consumed < bytes.length := by decide
  exact ⟨hd, hlt, hpart hlt⟩

end Capture
end Fieldbus
