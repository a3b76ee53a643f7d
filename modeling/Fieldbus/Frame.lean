import Fieldbus.BusName

/-! Classic CAN frames.  A frame has an identifier that fits its format and at most eight bytes of
data; `make` refuses anything else, so every value of `Frame` can go on a bus. -/

namespace Fieldbus

/-- The most data bytes a frame carries. -/
def maxPayload : Nat := 8

inductive FrameFormat where
  | standard
  | extended
deriving DecidableEq, Inhabited

namespace FrameFormat

/-- The largest identifier: eleven bits, or twenty-nine. -/
def maxId : FrameFormat → UInt32
  | .standard => 0x7ff
  | .extended => 0x1fffffff

/-- The format as error messages name it. -/
def title : FrameFormat → String
  | .standard => "Standard"
  | .extended => "Extended"

/-- The letter of the format in frame texts and in recorded lines. -/
def letter : FrameFormat → Char
  | .standard => 'S'
  | .extended => 'X'

end FrameFormat

structure Frame where
  origin : Option BusName
  id : UInt32
  format : FrameFormat
  data : List UInt8
  id_le : id ≤ format.maxId
  length_le : data.length ≤ maxPayload
deriving DecidableEq

inductive FrameError where
  | payloadTooLong (length : Nat)
  | idOutOfRange (id : UInt32) (format : FrameFormat)
deriving DecidableEq

namespace FrameError

def message : FrameError → String
  | payloadTooLong length => s!"CAN frames carry at most 8 data bytes, got {length}"
  | idOutOfRange id format =>
    let id := Numeral.marked 1 id.toNat
    let format := format.title
    s!"ID {id} does not fit a {format} frame"

end FrameError

namespace Frame

instance : Inhabited Frame := ⟨⟨none, 0, .standard, [], by decide, by decide⟩⟩

/-- The frame with these parts.  A payload that is too long is reported before an identifier that
is out of range. -/
def make (origin : Option BusName) (id : UInt32) (format : FrameFormat) (data : List UInt8) :
    Except FrameError Frame :=
  if hd : data.length ≤ maxPayload then
    if hi : id ≤ format.maxId then .ok ⟨origin, id, format, data, hi, hd⟩
    else .error (.idOutOfRange id format)
  else .error (.payloadTooLong data.length)

def dlc (f : Frame) : Nat := f.data.length

def isExtended (f : Frame) : Bool := f.format = .extended

def withOrigin (f : Frame) (name : BusName) : Frame := { f with origin := some name }

def anonymous (f : Frame) : Frame := { f with origin := none }

/-- The identifier, the letter of the format, the length in brackets and the data bytes, as in
`100 S [3] 01 02 03`. -/
def text (f : Frame) : String :=
  String.ofList (Numeral.hex f.id.toNat ++ [' ', f.format.letter, ' ', '[']
    ++ Numeral.decimal f.dlc ++ [']'] ++ f.data.flatMap fun b => ' ' :: Numeral.hexByte b)

@[simp] theorem origin_withOrigin (f : Frame) (name : BusName) :
    (f.withOrigin name).origin = some name := rfl

theorem dlc_le (f : Frame) : f.dlc ≤ 8 := f.length_le

end Frame
end Fieldbus
