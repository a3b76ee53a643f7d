import Fieldbus.Bus.Mode
import Fieldbus.Frame

/-! Registers of the MCP2515: addresses, bits, and the image of a frame in a buffer. -/

namespace Fieldbus.Mcp2515

namespace Address

def pinControl : UInt8 := 0x0c
def status : UInt8 := 0x0e
def control : UInt8 := 0x0f
def transmitErrors : UInt8 := 0x1c
def receiveErrors : UInt8 := 0x1d
def timing : UInt8 := 0x28
def interruptEnable : UInt8 := 0x2b
def interruptFlags : UInt8 := 0x2c
def errorFlags : UInt8 := 0x2d
def receiveControl : UInt8 := 0x60

/-- The control register of transmit buffer `n`; its frame follows. -/
def transmitControl (n : UInt8) : UInt8 := 0x30 + 0x10 * n

def receiveBuffer (n : UInt8) : UInt8 := 0x61 + 0x10 * n

end Address

namespace Command

def reset : UInt8 := 0xc0
def read : UInt8 := 0x03
def write : UInt8 := 0x02
def bitModify : UInt8 := 0x05
def readStatus : UInt8 := 0xa0
def loadTransmit : UInt8 := 0x40
def requestToSend : UInt8 := 0x80
def readReceive : UInt8 := 0x90

end Command

namespace OperatingMode

def normal : UInt8 := 0x00
def sleep : UInt8 := 0x20
def listen : UInt8 := 0x60
def configuration : UInt8 := 0x80

def mask : UInt8 := 0xe0

def abort : UInt8 := 0x10

/-- The bit that sends frames only once. -/
def oneShot : UInt8 := 0x08

end OperatingMode

namespace Flag

/-! Interrupt flags. -/

def received0 : UInt8 := 0x01
def received1 : UInt8 := 0x02
def sent0 : UInt8 := 0x04
def error : UInt8 := 0x20
def messageError : UInt8 := 0x80

/-! Error flags. -/

def overflow0 : UInt8 := 0x40
def overflow1 : UInt8 := 0x80

/-! The bit of a transmit control register that asks for transmission. -/

def requested : UInt8 := 0x08

end Flag

/-- The three timing registers for a 16 MHz crystal. -/
def bitTiming : Speed → List UInt8
  | .kbps100 => [0x87, 0xfa, 0x03]
  | .kbps125 => [0x86, 0xf0, 0x03]
  | .kbps250 => [0x85, 0xf1, 0x41]
  | .kbps500 => [0x86, 0xf0, 0x00]
  | .kbps1000 => [0x82, 0xd0, 0x00]

/-- The mark of extended identifiers in the second byte of their image. -/
def extendedMark : UInt8 := 0x08

def encodeId (id : UInt32) : FrameFormat → List UInt8
  | .standard => [(id >>> 3).toUInt8, (id <<< 5).toUInt8, 0, 0]
  | .extended =>
    [(id >>> 21).toUInt8,
      ((id >>> 13) &&& 0xe0).toUInt8 ||| ((id >>> 16) &&& 0x03).toUInt8 ||| extendedMark,
      (id >>> 8).toUInt8, id.toUInt8]

/-- The identifier in four bytes, and its format. -/
def decodeId (b₀ b₁ b₂ b₃ : UInt8) : UInt32 × FrameFormat :=
  if b₁ &&& extendedMark ≠ 0 then
    (b₀.toUInt32 <<< 21 ||| (b₁.toUInt32 &&& 0xe0) <<< 13 ||| (b₁.toUInt32 &&& 0x03) <<< 16
      ||| b₂.toUInt32 <<< 8 ||| b₃.toUInt32, .extended)
  else (b₀.toUInt32 <<< 3 ||| b₁.toUInt32 >>> 5, .standard)

/-- The image of a frame in a buffer: identifier, length and eight bytes. -/
def image (f : Frame) : List UInt8 :=
  encodeId f.id f.format ++ f.dlc.toUInt8 :: (f.data ++ List.replicate 8 0).take 8

/-- The frame of an image, unless its length is out of range. -/
def ofImage? (origin : Option BusName) : List UInt8 → Option Frame
  | b₀ :: b₁ :: b₂ :: b₃ :: length :: data =>
    let (id, format) := decodeId b₀ b₁ b₂ b₃
    let length := (length &&& 0x0f).toNat
    if maxPayload < length then none
    else (Frame.make origin id format (data.take length)).toOption
  | _ => none

end Fieldbus.Mcp2515
