import Fieldbus.Device.Basic
import Fieldbus.Device.Mcp2515.Link

/-! The MCP2515 as a device of a bus.  The chip latches up to two received frames; its interrupt line
only says that something happened, and all traffic with the chip is left to polling. -/

namespace Fieldbus.Mcp2515

/-- Resets the chip, checks that it is in configuration mode, sets it up to receive everything and to
report every interrupt, and enters the mode of the bus. -/
def start (setup : Setup) : Steps DeviceError Unit := do
  let _ ← Steps.onBus (Steps.send [Command.reset])
  Steps.onBus (Steps.write Address.control
    [OperatingMode.configuration ||| OperatingMode.abort ||| OperatingMode.oneShot])
  Steps.expectMode OperatingMode.configuration "configuration"
  Steps.onBus (Steps.write Address.receiveControl [0x64])
  Steps.onBus (Steps.write Address.interruptEnable [0xff])
  Steps.onBus (Steps.write Address.pinControl [0x0c])
  Steps.onBus (Steps.write Address.timing (bitTiming setup.speed))
  match setup.mode with
  | .active =>
    Steps.onBus (Steps.write Address.control [OperatingMode.normal])
    Steps.expectMode OperatingMode.normal "normal"
  | .listen =>
    Steps.onBus (Steps.write Address.control [OperatingMode.listen])
    Steps.expectMode OperatingMode.listen "listen-only"

/-- Resets the chip, switches the transceiver off, and sends the chip to sleep. -/
def stop : Steps DeviceError Unit := do
  let _ ← Steps.onBus (Steps.send [Command.reset])
  Steps.onBus (Steps.write Address.pinControl [0x3c])
  Steps.onBus (Steps.write Address.control [OperatingMode.sleep ||| OperatingMode.abort])
  Steps.expectMode OperatingMode.sleep "sleep"

/-- The first transmit buffer that does not wait to be sent, by the status of the chip. -/
def freeBuffer? (status : UInt8) : Option UInt8 :=
  if status &&& 0x04 = 0 then some 0
  else if status &&& 0x10 = 0 then some 1
  else if status &&& 0x40 = 0 then some 2
  else none

def ready : Steps DeviceError Bool := do
  let status ← Steps.onBus Steps.readStatus
  return (freeBuffer? status).isSome

def transmit (f : Frame) : Steps DeviceError Attempt := do
  let status ← Steps.onBus Steps.readStatus
  match freeBuffer? status with
  | none => return .busy
  | some n =>
    let _ ← Steps.onBus (Steps.send ((Command.loadTransmit ||| (n <<< 1)) :: image f))
    let _ ← Steps.onBus (Steps.send [Command.requestToSend ||| (1 <<< n)])
    return .accepted

inductive Received where
  | nothing
  | frame (f : Frame)
  /-- The latched image had an impossible length. -/
  | malformed

def readCommand? (flags : UInt8) : Option UInt8 :=
  if flags &&& Flag.received0 ≠ 0 then some Command.readReceive
  else if flags &&& Flag.received1 ≠ 0 then some (Command.readReceive ||| 0x04)
  else none

structure Polling where
  link : Link
  statistics : Statistics
  notices : List Notice := []

namespace Polling

/-- A round of polling, up to its first failure. -/
abbrev Round (α : Type) := ExceptT HardwareError (StateM Polling) α

def onLink {α : Type} (steps : Steps HardwareError α) : Round α :=
  ExceptT.mk fun p =>
    let (result, link) := steps.run.run p.link
    (result, { p with link })

def count (f : Statistics → Statistics) : Round Unit :=
  modify fun p => { p with statistics := f p.statistics }

def say (n : Notice) : Round Unit := modify fun p => { p with notices := p.notices ++ [n] }

/-- Fetches the first latched frame, which makes its buffer free again. -/
def fetchFrame (origin : BusName) (flags : UInt8) : Round Received :=
  match readCommand? flags with
  | none => return .nothing
  | some command => do
    let record ← onLink (Steps.fetch [command] Chip.imageLength)
    match ofImage? (some origin) record with
    | some f => return .frame f
    | none => return .malformed

/-- Notes errors and overflows.  An overflow of the first buffer went to the second one; an overflow
of the second one lost a frame. -/
def noteErrors (origin : BusName) (flags errors : UInt8) : Round Unit := do
  if errors &&& Flag.overflow1 ≠ 0 then
    count Statistics.countReceiveOverflow
    say (.receiveOverflow origin)
  if errors &&& Flag.overflow0 ≠ 0 then
    count Statistics.countReceiveOverflow
  let counters ← onLink (Steps.fetch [Command.read, Address.transmitErrors] 2)
  let transmitErrors := counters.headD 0
  let receiveErrors := counters.tail.headD 0
  count fun s => s.noteErrors (flags.toUInt32 <<< 8 ||| errors.toUInt32)
    receiveErrors.toUInt32 transmitErrors.toUInt32
  onLink (Steps.bitModify Address.errorFlags (Flag.overflow0 ||| Flag.overflow1) 0)

/-- One round: reads the flags, fetches at most one frame, notes errors, and clears the flags that
were seen. -/
def round (origin : BusName) : Round Received := do
  let seen ← onLink (Steps.fetch [Command.read, Address.interruptFlags] 2)
  let flags := seen.headD 0
  let errors := seen.tail.headD 0
  let received ← fetchFrame origin flags
  let errorBits := flags &&& (Flag.messageError ||| Flag.error)
  if errorBits ≠ 0 then noteErrors origin errorBits errors
  let others := flags &&& ~~~ (Flag.received0 ||| Flag.received1)
  if others ≠ 0 then onLink (Steps.bitModify Address.interruptFlags others 0)
  return received

/-- Polls for at most `n` rounds, until a frame is received, nothing is left, or the link fails.
`none` stands for rounds that did not suffice. -/
def rounds (origin : BusName) : Nat → Polling → Option (Option Frame) × Polling
  | 0, p => (none, p)
  | n + 1, p =>
    match (round origin).run.run p with
    | (.ok (.frame f), p) => (some (some f), p)
    | (.ok .nothing, p) => (some none, p)
    | (.ok .malformed, p) =>
      rounds origin n { p with notices := p.notices ++ [.invalidLengthReceived origin] }
    | (.error e, p) =>
      (some none, { p with notices := p.notices ++ [.pollingFailed origin e] })

end Polling

/-- Fetches the next frame.  Every round that yields no frame but goes on makes one of two buffers
free, so three rounds suffice. -/
def poll (origin : BusName) (s : Statistics) (l : Link) : Polled Link :=
  let (frame, p) := Polling.rounds origin 3 { link := l, statistics := s }
  { device := p.link, statistics := p.statistics, frame := frame.join, notices := p.notices }

instance : Device Link where
  start setup l := (start setup).run.run l
  stop l := stop.run.run l
  ready l := ready.run.run l
  transmit f l := (transmit f).run.run l
  poll := poll
  backlog _ := 2
  asserted l := l.chip.asserted
  interrupt _ s l := { device := l, statistics := s.countInterrupt, requests := [.poll] }
  rounds _ := 1

end Fieldbus.Mcp2515
