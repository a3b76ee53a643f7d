import Fieldbus.Device.Basic
import Fieldbus.Device.Controller

/-! The on-chip device: a controller whose interrupt handler captures received frames itself, so that
polling finds none.  What the driver reads from the controller can be overridden, to stand for
hardware that does not follow. -/

namespace Fieldbus

structure OnChip where
  controller : Controller := {}
  /-- What the driver reads as the reset bit, if not the real one. -/
  resetReading : Option Bool := none
  /-- What the driver's next queries for a free transmit buffer answer, before the real answers. -/
  freeReadings : List Bool := []
deriving DecidableEq, Inhabited

namespace OnChip

def readsReset (d : OnChip) : Bool := d.resetReading.getD d.controller.inReset

def queryFree (d : OnChip) : Bool × OnChip :=
  match d.freeReadings with
  | free :: rest => (free, { d with freeReadings := rest })
  | [] => (d.controller.isTransmitFree, d)

/-- Resets the controller, sets it up, and leaves reset mode; what was latched before is dropped. -/
def start (setup : Setup) (d : OnChip) : Except DeviceError Unit × OnChip :=
  match (d.controller.setReset true).configure setup with
  | (.error e, controller) => (.error (.hardware e), { d with controller })
  | (.ok (), controller) =>
    match controller.setTransceiver true with
    | (.error e, controller) => (.error (.hardware e), { d with controller })
    | (.ok (), controller) =>
      let d := { d with controller := controller.takeInterrupts.2.setReset false }
      if d.readsReset then (.error (.notAcknowledged "operating" 0x01), d) else (.ok (), d)

/-- Switches the transceiver off and stays in reset mode. -/
def stop (d : OnChip) : Except DeviceError Unit × OnChip :=
  match d.controller.setTransceiver false with
  | (.error e, controller) => (.error (.hardware e), { d with controller })
  | (.ok (), controller) =>
    let d := { d with controller := controller.setReset true }
    if d.readsReset then (.ok (), d) else (.error (.notAcknowledged "reset" 0), d)

def transmit (f : Frame) (d : OnChip) : Except DeviceError Attempt × OnChip :=
  let (free, d) := d.queryFree
  if free then (.ok .accepted, { d with controller := (d.controller.load (.ofFrame f)).request })
  else (.ok .busy, d)

/-- The error state as one word: interrupts, status and error code. -/
def errorFlags (interrupts : UInt8) (r : ErrorRegisters) : UInt32 :=
  interrupts.toUInt32 <<< 16 ||| r.status.toUInt32 <<< 8 ||| r.code.toUInt32

/-- One run of the interrupt handler: at most one mailbox is read, and the error state is noted if an
error is latched. -/
def interrupt (name : BusName) (s : Statistics) (d : OnChip) : Handled OnChip :=
  let s := s.countInterrupt
  let (latched, c) := d.controller.takeInterrupts
  let (c, captured) :=
    if latched &&& Irq.receive ≠ 0 then (c.release, (c.front.capture? name).toList.map .frame)
    else (c, [])
  let errors := latched &&& Irq.errors
  let (s, c) :=
    if errors ≠ 0 then
      let r := c.errors
      let s := s.noteErrors (errorFlags errors r) r.receiveErrors.toUInt32 r.transmitErrors.toUInt32
      if errors &&& Irq.dataOverrun ≠ 0 then (s.countReceiveOverflow, c.clearOverrun) else (s, c)
    else (s, c)
  { device := { d with controller := c }
    statistics := s
    requests :=
      (if latched &&& Irq.transmit ≠ 0 then [.transmit] else []) ++ captured
      ++ (if errors ≠ 0 then [.reportErrors] else []) }

instance : Device OnChip where
  start := start
  stop := stop
  ready d := (.ok d.queryFree.1, d.queryFree.2)
  transmit := transmit
  poll _ s d := { device := d, statistics := s }
  backlog _ := 0
  asserted d := d.controller.interrupts ≠ 0
  interrupt := interrupt
  rounds d := d.controller.fifo.length + 1

end OnChip
end Fieldbus
