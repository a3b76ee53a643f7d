import Fieldbus.Bus.Statistics
import Fieldbus.Notice

/-! The hardware half of a bus.  A device is a state with the operations a bus needs; each answers
with a result and the device afterwards, failed or not. -/

namespace Fieldbus

/-- What became of a frame that was handed to the hardware. -/
inductive Attempt where
  | accepted
  | busy
deriving DecidableEq, Inhabited

structure Polled (δ : Type) where
  device : δ
  statistics : Statistics
  frame : Option Frame := none
  notices : List Notice := []

/-- What an interrupt handler asks to be done about its bus, at leisure. -/
inductive Request where
  | frame (f : Frame)
  | poll
  | transmit
  | reportErrors
deriving DecidableEq

structure Handled (δ : Type) where
  device : δ
  statistics : Statistics
  requests : List Request := []

class Device (δ : Type) where
  start : Setup → δ → Except DeviceError Unit × δ
  stop : δ → Except DeviceError Unit × δ
  ready : δ → Except DeviceError Bool × δ
  transmit : Frame → δ → Except DeviceError Attempt × δ
  /-- Fetches the next received frame of a bus, if the hardware delivers frames by polling, and
  notes its error state. -/
  poll : BusName → Statistics → δ → Polled δ
  /-- A bound on the frames that polling can still fetch. -/
  backlog : δ → Nat
  asserted : δ → Bool
  interrupt : BusName → Statistics → δ → Handled δ
  /-- How often the handler runs at most while the line stays asserted. -/
  rounds : δ → Nat

end Fieldbus
