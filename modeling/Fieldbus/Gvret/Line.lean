import Fieldbus.Gvret.Basic
import Fieldbus.Text.Utf8
import Fieldbus.Text.Words

/-! GVRET lines, such as `1000 - 100 S 0 4 01 02 03 04`: microseconds, a dash, the identifier in
hexadecimal, the letter of the format, the bus digit, the length and the data bytes.  `Line.parse`
reads one line without its end; `LineDecoder` cuts a stream of bytes into lines. -/

namespace Fieldbus.Gvret

namespace Line

def maxLength : Nat := 128

def bytes (text : List Char) : List UInt8 := text.map fun c => c.toNat.toUInt8

def text (m : Message) (f : Frame) : List Char :=
  Numeral.decimal m.time.toMicros.toNat ++ [' ', '-', ' ']
    ++ Numeral.hex f.id.toNat ++ [' ', f.format.letter, ' ']
    ++ Numeral.decimal (busDigit m.origin) ++ [' ']
    ++ Numeral.decimal f.dlc
    ++ f.data.flatMap fun b => ' ' :: Numeral.hexByte b

/-- The recorded form of a message: one line if it is traffic, and nothing otherwise. -/
def encode (m : Message) : List UInt8 :=
  match m.entry.traffic? with
  | some f => bytes (text m f ++ ['\n'])
  | none => []

def format? : List Char → Option FrameFormat
  | ['S'] => some .standard
  | ['X'] => some .extended
  | _ => none

def data? : Nat → List (List Char) → Option (List UInt8)
  | 0, _ => some []
  | _ + 1, [] => none
  | n + 1, word :: rest =>
    match Numeral.hex8? word with
    | some b => (data? n rest).map (b.toUInt8 :: ·)
    | none => none

/-- What must be there, or else the line is malformed. -/
def need {α : Type} : Option α → Except Refusal α
  | some a => .ok a
  | none => .error .malformed

/-- Reads the words of a line. -/
def parseWords : List (List Char) → Except Refusal Message
  | micros :: dash :: id :: rest => do
    let micros ← need (Numeral.decimal64? micros)
    if dash ≠ ['-'] then throw .malformed
    let id ← need (Numeral.hex32? id)
    match rest with
    | [] => throw .malformed
    | letter :: rest =>
      let format ← match format? letter with
        | some format => pure format
        | none => throw (.frameType (String.ofList letter))
      match rest with
      | digit :: length :: words => do
        let bus ← need ((Numeral.decimal32? digit).bind busOfDigit?)
        let length ← need (Numeral.decimal64? length)
        if maxPayload < length then throw (.lineLength length)
        let data ← need (data? length words)
        received bus micros.toUInt64 format id.toUInt32 data
      | _ => throw .malformed
  | _ => throw .malformed

/-- Reads a line without its end.  Bytes that are not UTF-8 make no line. -/
def parse (line : List UInt8) : Except Refusal Message :=
  match Utf8.decode? line with
  | some cs => parseWords (Text.words cs)
  | none => .error .malformed

end Line

structure LineDecoder where
  line : List UInt8 := []
  /-- Whether the present line is already too long and is passed over. -/
  discarding : Bool := false
deriving DecidableEq, Inhabited

namespace LineDecoder

/-- Carriage returns and line feeds end lines; empty lines count for nothing. -/
def isEnd (b : UInt8) : Bool := b = 0x0d || b = 0x0a

def step (d : LineDecoder) (b : UInt8) : Fed LineDecoder :=
  if isEnd b then
    if d.discarding then { state := { d with discarding := false } }
    else if d.line.isEmpty then { state := d }
    else .ending {} (Line.parse d.line)
  else if d.discarding then { state := d }
  else if Line.maxLength ≤ d.line.length then
    { state := { discarding := true }, refusal := some .overlong }
  else { state := { d with line := d.line ++ [b] } }

/-- The end of the stream ends the last line. -/
def finish (d : LineDecoder) : Fed LineDecoder :=
  if d.discarding || d.line.isEmpty then { state := {} } else .ending {} (Line.parse d.line)

end LineDecoder
end Fieldbus.Gvret
