import Fieldbus.Text.Numeral

/-! The counters of a bus at one moment. -/

namespace Fieldbus

/-- What a bus counts, and the error state its controller reported last. -/
structure Counters where
  interrupts : UInt32 := 0
  received : UInt32 := 0
  sent : UInt32 := 0
  receiveErrors : UInt32 := 0
  transmitErrors : UInt32 := 0
  receiveOverflow : UInt32 := 0
  transmitOverflow : UInt32 := 0
  delayed : UInt32 := 0
  errorFlags : UInt32 := 0
deriving DecidableEq, Inhabited

namespace Counters

def text (c : Counters) : String :=
  let flags := Numeral.marked 1 c.errorFlags.toNat
  s!"intr={c.interrupts} rxpkt={c.received} txpkt={c.sent} errflags={flags} " ++
  s!"rxerr={c.receiveErrors} txerr={c.transmitErrors} rxovr={c.receiveOverflow} " ++
  s!"txovr={c.transmitOverflow} txdelay={c.delayed}"

end Counters
end Fieldbus
