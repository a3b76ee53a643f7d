import Fieldbus.Gvret.Basic

/-! GVRET records: the bytes `f1 00`, the microseconds and the identifier as little-endian words, a
byte with the bus digit in its high half and the length in its low half, the data bytes and a zero.
Bit 31 of the identifier marks extended frames.  `RecordDecoder` finds records in a stream of
bytes. -/

namespace Fieldbus.Gvret

namespace Word

def bytes (w : UInt32) : List UInt8 :=
  let n := w.toNat
  [n.toUInt8, (n / 0x100).toUInt8, (n / 0x10000).toUInt8, (n / 0x1000000).toUInt8]

/-- The word with these bytes, lowest first. -/
def ofBytes (b₀ b₁ b₂ b₃ : UInt8) : UInt32 :=
  (b₀.toNat + 0x100 * b₁.toNat + 0x10000 * b₂.toNat + 0x1000000 * b₃.toNat).toUInt32

end Word

namespace Record

def start : UInt8 := 0xf1

def frameMark : UInt8 := 0x00

/-- The mark of an extended identifier. -/
def extendedFlag : UInt32 := 0x80000000

/-- The bytes before the data. -/
def headerLength : Nat := 11

/-- The identifier word of a frame. -/
def idWord (f : Frame) : UInt32 := if f.isExtended then f.id ||| extendedFlag else f.id

/-- The format and identifier of an identifier word. -/
def ofIdWord (w : UInt32) : FrameFormat × UInt32 :=
  if extendedFlag ≤ w then (.extended, w - extendedFlag) else (.standard, w)

/-- The length in the low half, the lowest four bits of the bus digit in the high half. -/
def lengthAndBus (m : Message) (f : Frame) : UInt8 :=
  (f.dlc + 16 * (busDigit m.origin % 16)).toUInt8

/-- The recorded form of a message: one record if it is traffic, and nothing otherwise.  Of the
time, the lowest 32 bits of its microseconds are kept. -/
def encode (m : Message) : List UInt8 :=
  match m.entry.traffic? with
  | some f =>
    [start, frameMark] ++ Word.bytes m.time.toMicros.toUInt32 ++ Word.bytes (idWord f)
      ++ [lengthAndBus m f] ++ f.data ++ [0]
  | none => []

/-- The length a record announces, once its header is complete. -/
def length? (record : List UInt8) : Option Nat :=
  (record.drop (headerLength - 1)).head?.map (·.toNat % 16)

def parse : List UInt8 → Except Refusal Message
  | _ :: _ :: t₀ :: t₁ :: t₂ :: t₃ :: i₀ :: i₁ :: i₂ :: i₃ :: lengthAndBus :: rest =>
    let (format, id) := ofIdWord (Word.ofBytes i₀ i₁ i₂ i₃)
    received (BusName.numbered (lengthAndBus.toNat / 16 + 1))
      (Word.ofBytes t₀ t₁ t₂ t₃).toUInt64 format id (rest.take (lengthAndBus.toNat % 16))
  | _ => .error .malformed

end Record

structure RecordDecoder where
  record : List UInt8 := []
deriving DecidableEq, Inhabited

namespace RecordDecoder

/-- The record so far: bytes before its start are skipped, and a start that no frame mark follows
is given up. -/
def extend (record : List UInt8) (b : UInt8) : List UInt8 :=
  match record with
  | [] => if b = Record.start then [b] else []
  | [s] => if b = Record.frameMark then [s, b] else if b = Record.start then [b] else []
  | _ => record ++ [b]

/-- The effect of the next byte.  A record is complete with the byte after its data, and one that
announces too much data is dropped at once. -/
def step (d : RecordDecoder) (b : UInt8) : Fed RecordDecoder :=
  let record := extend d.record b
  match Record.length? record with
  | none => { state := { record } }
  | some length =>
    if maxPayload < length then { state := {}, refusal := some (.recordLength length) }
    else if record.length = Record.headerLength + length + 1 then
      .ending {} (Record.parse record)
    else { state := { record } }

/-- The end of the stream completes no record; an unfinished one stays. -/
def finish (d : RecordDecoder) : Fed RecordDecoder := { state := d }

end RecordDecoder
end Fieldbus.Gvret
