import Fieldbus.Bus.Mode
import Fieldbus.Device.Error
import Fieldbus.Frame

/-! A memory-mapped controller with a queue of received mailboxes and one transmit buffer, at the
level of its registers. -/

namespace Fieldbus

namespace Irq

/-! Bits of the interrupt register. -/

def receive : UInt8 := 0x01
def transmit : UInt8 := 0x02
def dataOverrun : UInt8 := 0x08

/-- Warning, overrun, passive, arbitration and bus errors. -/
def errors : UInt8 := 0xec

end Irq

/-- A frame as the controller holds it: information byte, identifier and eight bytes. -/
structure Mailbox where
  info : UInt8 := 0
  id : UInt32 := 0
  data : List UInt8 := List.replicate 8 0
deriving DecidableEq, Inhabited

namespace Mailbox

/-- The mailbox with these contents; data past eight bytes are cut off, missing ones are zero. -/
def ofBytes (info : UInt8) (id : UInt32) (data : List UInt8) : Mailbox :=
  { info, id, data := (data ++ List.replicate 8 0).take 8 }

def infoOf (f : Frame) : UInt8 :=
  f.dlc.toUInt8 ||| (match f.format with | .standard => 0 | .extended => 0x80)

def ofFrame (f : Frame) : Mailbox := .ofBytes (infoOf f) f.id f.data

def format (m : Mailbox) : FrameFormat := if m.info &&& 0x80 ≠ 0 then .extended else .standard

/-- Whether bit 6 marks a request for a frame instead of a frame. -/
def isRemote (m : Mailbox) : Bool := m.info &&& 0x40 ≠ 0

def length (m : Mailbox) : Nat := (m.info &&& 0x0f).toNat

/-- The frame of bus `origin` in a mailbox.  Requests for frames, impossible lengths and identifiers
that do not fit their format give none. -/
def capture? (m : Mailbox) (origin : BusName) : Option Frame :=
  if m.isRemote || maxPayload < m.length then none
  else (Frame.make (some origin) m.id m.format (m.data.take m.length)).toOption

/-- The frame that goes out of a mailbox; announced lengths past eight count as eight. -/
def outgoing? (m : Mailbox) : Option Frame :=
  (Frame.make none m.id m.format (m.data.take (min m.length 8))).toOption

end Mailbox

structure ErrorRegisters where
  status : UInt8 := 0
  code : UInt8 := 0
  receiveErrors : UInt8 := 0
  transmitErrors : UInt8 := 0
deriving DecidableEq, Inhabited

/-- The controller with its transceiver and the bus behind it. -/
structure Controller where
  inReset : Bool := true
  transceiver : Bool := false
  setup : Option Setup := none
  interrupts : UInt8 := 0
  fifo : List Mailbox := []
  pending : Option Mailbox := none
  /-- Whether transmissions wait until they are completed from outside. -/
  holding : Bool := false
  transmitted : List Frame := []
  errors : ErrorRegisters := {}
  transceiverFails : Bool := false
deriving DecidableEq, Inhabited

namespace Controller

def fifoDepth : Nat := 64

/-- A mailbox arrives from the bus.  In reset mode it is ignored; if the queue is full it is lost and
an overrun is raised. -/
def arrive (c : Controller) (m : Mailbox) : Controller :=
  if c.inReset then c
  else if fifoDepth ≤ c.fifo.length then { c with interrupts := c.interrupts ||| Irq.dataOverrun }
  else { c with fifo := c.fifo ++ [m], interrupts := c.interrupts ||| Irq.receive }

def receive (c : Controller) (f : Frame) : Controller := c.arrive (.ofFrame f)

def complete (c : Controller) : Controller :=
  match c.pending with
  | some m =>
    { c with
      pending := none
      transmitted := c.transmitted ++ m.outgoing?.toList
      interrupts := c.interrupts ||| Irq.transmit }
  | none => c

def raise (c : Controller) (interrupts : UInt8) (errors : ErrorRegisters) : Controller :=
  { c with interrupts := c.interrupts ||| (interrupts &&& Irq.errors), errors }

/-- Sets mode and speed, which is possible in reset mode only. -/
def configure (setup : Setup) (c : Controller) : Except HardwareError Unit × Controller :=
  if c.inReset then
    (.ok (), { c with setup := some setup, errors := {}, interrupts := 0 })
  else (.error .noResponse, c)

/-- Enters or leaves reset mode.  Entering it drops all mailboxes. -/
def setReset (c : Controller) (value : Bool) : Controller :=
  if value then { c with inReset := true, fifo := [], pending := none }
  else { c with inReset := false }

def setTransceiver (enabled : Bool) (c : Controller) : Except HardwareError Unit × Controller :=
  if c.transceiverFails then (.error .noResponse, c)
  else (.ok (), { c with transceiver := enabled })

def takeInterrupts (c : Controller) : UInt8 × Controller := (c.interrupts, { c with interrupts := 0 })

def isTransmitFree (c : Controller) : Bool := c.pending.isNone

def load (c : Controller) (m : Mailbox) : Controller := { c with pending := some m }

def request (c : Controller) : Controller := if c.holding then c else c.complete

def front (c : Controller) : Mailbox := c.fifo.head?.getD {}

/-- Drops the oldest received mailbox; the next one raises an interrupt again. -/
def release (c : Controller) : Controller :=
  let fifo := c.fifo.tail
  { c with fifo, interrupts := if fifo.isEmpty then c.interrupts else c.interrupts ||| Irq.receive }

def clearOverrun (c : Controller) : Controller :=
  { c with errors.status := c.errors.status &&& 0xfd }

end Controller
end Fieldbus
