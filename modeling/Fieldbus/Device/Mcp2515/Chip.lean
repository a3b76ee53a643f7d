import Fieldbus.Device.Error
import Fieldbus.Device.Mcp2515.Registers

/-! The MCP2515 with the bus behind it, as its pins show it: a file of 128 registers, reached by
transactions in which as many bytes come back as are sent. -/

namespace Fieldbus.Mcp2515

structure Chip where
  registers : Vector UInt8 128
  /-- Whether transmissions wait until they are released from outside. -/
  holding : Bool := false
  /-- Whether requests for another mode, and resets, are ignored. -/
  refusing : Bool := false
  transmitted : List Frame := []
deriving DecidableEq

namespace Chip

/-- The place of an address in the register file; the highest bit does not count. -/
def slot (address : UInt8) : Fin 128 := ⟨address.toNat % 128, Nat.mod_lt _ (by decide)⟩

def get (c : Chip) (address : UInt8) : UInt8 := c.registers[slot address]

def set (c : Chip) (address value : UInt8) : Chip :=
  { c with registers := c.registers.set (slot address) value }

/-- The registers after a reset: in configuration mode, and zero otherwise. -/
def resetRegisters : Vector UInt8 128 :=
  ((Vector.replicate 128 (0 : UInt8)).set (slot Address.status) OperatingMode.configuration).set
    (slot Address.control) (OperatingMode.configuration ||| 0x07)

def powered : Chip := { registers := resetRegisters }

instance : Inhabited Chip := ⟨powered⟩

/-- Writes a register.  The status register follows the mode bits of the control register. -/
def write (c : Chip) (address value : UInt8) : Chip :=
  let c := c.set address value
  if address = Address.control && !c.refusing then
    c.set Address.status
      ((c.get Address.status &&& ~~~ OperatingMode.mask) ||| (value &&& OperatingMode.mask))
  else c

def readFrom (c : Chip) (address : UInt8) : Nat → List UInt8
  | 0 => []
  | n + 1 => c.get address :: c.readFrom (address + 1) n

def writeFrom (c : Chip) (address : UInt8) : List UInt8 → Chip
  | [] => c
  | v :: rest => (c.write address v).writeFrom (address + 1) rest

def setFrom (c : Chip) (address : UInt8) : List UInt8 → Chip
  | [] => c
  | v :: rest => (c.set address v).setFrom (address + 1) rest

def raise (c : Chip) (address bits : UInt8) : Chip := c.set address (c.get address ||| bits)

def clear (c : Chip) (address bits : UInt8) : Chip := c.set address (c.get address &&& ~~~ bits)

/-- The transmit buffers in the order of their use. -/
def transmitBuffers : List UInt8 := [0, 1, 2]

def imageLength : Nat := 13

/-- The frame of transmit buffer `n` goes out, if it is one; the request is answered either way. -/
def send (c : Chip) (n : UInt8) : Chip :=
  let control := Address.transmitControl n
  let sent := ofImage? none (c.readFrom (control + 1) imageLength)
  ({ c with transmitted := c.transmitted ++ sent.toList }.clear control Flag.requested).raise
    Address.interruptFlags (Flag.sent0 <<< n)

def isRequested (c : Chip) (n : UInt8) : Bool :=
  c.get (Address.transmitControl n) &&& Flag.requested ≠ 0

/-- What the command for the status answers: the receive flags, and for each transmit buffer whether
it waits and whether it was sent. -/
def statusByte (c : Chip) : UInt8 :=
  let flags := c.get Address.interruptFlags
  transmitBuffers.foldl (fun status n =>
    status ||| (if c.isRequested n then 0x04 <<< (2 * n) else 0)
      ||| (if flags &&& (Flag.sent0 <<< n) ≠ 0 then 0x08 <<< (2 * n) else 0))
    (flags &&& (Flag.received0 ||| Flag.received1))

def request (c : Chip) (n : UInt8) : Chip :=
  let c := c.raise (Address.transmitControl n) Flag.requested
  if c.holding then c else c.send n

/-- A frame arrives from the bus.  It is latched in the first free receive buffer; if both are
occupied it is lost and an overflow is raised. -/
def inject (c : Chip) (f : Frame) : Bool × Chip :=
  let flags := c.get Address.interruptFlags
  if flags &&& Flag.received0 = 0 then
    (true, (c.setFrom (Address.receiveBuffer 0) (image f)).raise
      Address.interruptFlags Flag.received0)
  else if flags &&& Flag.received1 = 0 then
    (true, (c.setFrom (Address.receiveBuffer 1) (image f)).raise
      Address.interruptFlags Flag.received1)
  else
    (false, (c.raise Address.errorFlags Flag.overflow1).raise Address.interruptFlags Flag.error)

def setErrorCounters (c : Chip) (transmitErrors receiveErrors : UInt8) : Chip :=
  (c.set Address.transmitErrors transmitErrors).set Address.receiveErrors receiveErrors

def release (c : Chip) : Chip :=
  transmitBuffers.foldl (fun c n => if c.isRequested n then c.send n else c)
    { c with holding := false }

def asserted (c : Chip) : Bool :=
  c.get Address.interruptFlags &&& c.get Address.interruptEnable ≠ 0

/-- A transaction that sends a command and its arguments.  The bytes that come back are as many as
were sent; those that mean nothing are zero. -/
def execute (c : Chip) (command : UInt8) (args : List UInt8) :
    Except HardwareError (List UInt8) × Chip :=
  let silence := List.replicate (args.length + 1) 0
  if command = Command.reset then
    (.ok silence, if c.refusing then c else { c with registers := resetRegisters })
  else if command = Command.read then
    match args with
    | [] => (.error (.spi "missing address"), c)
    | address :: rest => (.ok (0 :: 0 :: c.readFrom address rest.length), c)
  else if command = Command.write then
    match args with
    | [] => (.error (.spi "missing address"), c)
    | address :: values => (.ok silence, c.writeFrom address values)
  else if command = Command.bitModify then
    match args with
    | [address, mask, value] =>
      (.ok silence, c.write address ((c.get address &&& ~~~ mask) ||| (value &&& mask)))
    | _ => (.error (.spi "malformed BIT MODIFY"), c)
  else if command = Command.readStatus then
    (.ok (0 :: List.replicate args.length c.statusByte), c)
  else if command &&& 0xf8 = Command.loadTransmit then
    let place := command &&& 0x07
    let first := Address.transmitControl (place / 2) + if place % 2 = 0 then 1 else 6
    (.ok silence, c.setFrom first args)
  else if command &&& 0xf0 = Command.requestToSend then
    let asked := fun n : UInt8 => command &&& ((1 : UInt8) <<< n) ≠ 0
    (.ok silence, (transmitBuffers.filter asked).foldl request c)
  else if command &&& 0xf9 = Command.readReceive then
    let n := (command >>> 2) &&& 0x01
    let first := Address.receiveBuffer n + if command &&& 0x02 = 0 then 0 else 5
    (.ok (0 :: c.readFrom first args.length),
      c.clear Address.interruptFlags (Flag.received0 <<< n))
  else
    let command := Numeral.marked 2 command.toNat
    (.error (.spi s!"unknown command {command}"), c)

/-- A transaction that sends bytes and expects `expected` bytes back. -/
def transact (c : Chip) (sent : List UInt8) (expected : Nat) :
    Except HardwareError (List UInt8) × Chip :=
  if sent.length ≠ expected then
    (.error (.spi s!"length mismatch: {sent.length} out, {expected} in"), c)
  else
    match sent with
    | [] => (.error (.spi "empty transaction"), c)
    | command :: args => c.execute command args

end Chip
end Fieldbus.Mcp2515
