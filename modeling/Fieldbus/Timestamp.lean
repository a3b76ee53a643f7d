import Fieldbus.Text.Numeral

/-! Capture times: seconds since the epoch and microseconds, as two words. -/

namespace Fieldbus

structure Timestamp where
  secs : UInt64 := 0
  micros : UInt32 := 0
deriving DecidableEq, Inhabited

namespace Timestamp

def ofMicros (micros : UInt64) : Timestamp :=
  { secs := micros / 1000000, micros := (micros % 1000000).toUInt32 }

/-- The microseconds since the epoch, modulo `2^64`. -/
def toMicros (t : Timestamp) : UInt64 := t.secs * 1000000 + t.micros.toUInt64

/-- Seconds and at least six figures of microseconds. -/
def text (t : Timestamp) : String :=
  let secs := t.secs.toNat
  let micros := Numeral.aligned 6 '0' t.micros.toNat
  s!"{secs}.{micros}"

end Timestamp
end Fieldbus
