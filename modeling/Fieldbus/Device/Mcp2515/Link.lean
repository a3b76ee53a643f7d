import Fieldbus.Device.Mcp2515.Chip

/-! The SPI link to a chip.  It remembers the transactions of the driver, and some of them can be
made to fail; a failed transaction does not reach the chip. -/

namespace Fieldbus.Mcp2515

/-- A transaction: the bytes sent, and those that came back unless it failed. -/
structure Transaction where
  sent : List UInt8
  response : Option (List UInt8)
deriving DecidableEq, Inhabited

/-- A chip, the fate of the coming transactions (all succeed after these), and those so far. -/
structure Link where
  chip : Chip := .powered
  failures : List Bool := []
  history : List Transaction := []
deriving DecidableEq, Inhabited

namespace Link

/-- Of the coming transactions, `pass` succeed and then `fail` fail. -/
def plan (l : Link) (pass fail : Nat) : Link :=
  { l with failures := List.replicate pass false ++ List.replicate fail true }

def transfer (sent : List UInt8) (l : Link) : Except HardwareError (List UInt8) × Link :=
  let fails := l.failures.head?.getD false
  let l := { l with failures := l.failures.tail }
  if fails then
    (.error .noResponse, { l with history := l.history ++ [⟨sent, none⟩] })
  else
    let (result, chip) := l.chip.transact sent sent.length
    let response := result.toOption.getD (List.replicate sent.length 0)
    (result, { l with chip, history := l.history ++ [⟨sent, some response⟩] })

end Link

/-- Steps of a driver: each may fail, and what was done to the link stays done. -/
abbrev Steps (ε α : Type) := ExceptT ε (StateM Link) α

namespace Steps

def send (bytes : List UInt8) : Steps HardwareError (List UInt8) := ExceptT.mk (Link.transfer bytes)

/-- Sends a header and fetches the `n` bytes that follow it. -/
def fetch (header : List UInt8) (n : Nat) : Steps HardwareError (List UInt8) := do
  let response ← send (header ++ List.replicate n 0)
  return response.drop header.length

def write (address : UInt8) (values : List UInt8) : Steps HardwareError Unit := do
  let _ ← send (Command.write :: address :: values)

def bitModify (address mask value : UInt8) : Steps HardwareError Unit := do
  let _ ← send [Command.bitModify, address, mask, value]

def fetchByte (header : List UInt8) : Steps HardwareError UInt8 := do
  let response ← fetch header 1
  return response.headD 0

def readStatus : Steps HardwareError UInt8 := fetchByte [Command.readStatus]

/-- The same steps, with the failures a bus knows. -/
def onBus {α : Type} (steps : Steps HardwareError α) : Steps DeviceError α :=
  ExceptT.adapt .hardware steps

/-- Checks that the chip is in the mode asked for. -/
def expectMode (expected : UInt8) (requested : String) : Steps DeviceError Unit := do
  let status ← onBus (fetchByte [Command.read, Address.status])
  if status &&& OperatingMode.mask ≠ expected then
    throw (.notAcknowledged requested status)

end Steps
end Fieldbus.Mcp2515
