import Fieldbus.Counters

/-! Statistics of a bus.  All counters wrap at 32 bits.  `reportChanged` compares a checksum of the
counters with the one at its last call, so that equal error reports are not recorded again. -/

namespace Fieldbus

structure Statistics where
  counters : Counters := {}
  checksum : UInt32 := 0
  /-- Whether new error state was noted that no report has shown yet. -/
  errorPending : Bool := false
deriving DecidableEq, Inhabited

namespace Statistics

def countInterrupt (s : Statistics) : Statistics :=
  { s with counters.interrupts := s.counters.interrupts + 1 }

def countReceived (s : Statistics) : Statistics :=
  { s with counters.received := s.counters.received + 1 }

def countSent (s : Statistics) : Statistics :=
  { s with counters.sent := s.counters.sent + 1 }

def countReceiveOverflow (s : Statistics) : Statistics :=
  { s with counters.receiveOverflow := s.counters.receiveOverflow + 1 }

def countTransmitOverflow (s : Statistics) : Statistics :=
  { s with counters.transmitOverflow := s.counters.transmitOverflow + 1 }

def countDelayed (s : Statistics) : Statistics :=
  { s with counters.delayed := s.counters.delayed + 1 }

def noteErrors (s : Statistics) (flags receiveErrors transmitErrors : UInt32) : Statistics :=
  { s with
    counters.errorFlags := flags
    counters.receiveErrors := receiveErrors
    counters.transmitErrors := transmitErrors
    errorPending := true }

/-- Whether error state was noted since the last call. -/
def takeErrorPending (s : Statistics) : Bool × Statistics :=
  (s.errorPending, { s with errorPending := false })

/-- The sum of all counters but the interrupts. -/
def sum (c : Counters) : UInt32 :=
  c.received + c.sent + c.receiveErrors + c.transmitErrors + c.receiveOverflow
    + c.transmitOverflow + c.errorFlags + c.delayed

/-- Whether the sum of the counters differs from the one at the last call. -/
def reportChanged (s : Statistics) : Bool × Statistics :=
  (s.checksum ≠ sum s.counters, { s with checksum := sum s.counters })

end Statistics
end Fieldbus
