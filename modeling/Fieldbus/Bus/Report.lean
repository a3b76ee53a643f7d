import Fieldbus.Bus.Basic

/-! What an operator is told about a bus. -/

namespace Fieldbus

structure Report where
  name : BusName
  power : Power
  setup : Option Setup
  counters : Counters
  deferred : Nat
deriving DecidableEq, Inhabited

namespace Report

def line (title : String) (n : Nat) : String := title ++ Numeral.aligned 20 ' ' n ++ "\n"

/-- The summary as a table; its last line has no end. -/
def text (r : Report) : String :=
  let c := r.counters
  let setup :=
    match r.setup with
    | some s => s!"Mode:      {s.mode.text}\nSpeed:     {s.speed.bps}\n"
    | none => "Mode:      unconfigured\n"
  let flags := Numeral.marked 8 c.errorFlags.toNat
  s!"CAN:       {r.name.text}\nPower:     {r.power.text}\n" ++ setup ++ "\n"
    ++ line "Interrupts:" c.interrupts.toNat
    ++ line "Rx pkt:    " c.received.toNat
    ++ line "Rx err:    " c.receiveErrors.toNat
    ++ line "Rx ovrflw: " c.receiveOverflow.toNat
    ++ line "Tx pkt:    " c.sent.toNat
    ++ line "Tx delays: " c.delayed.toNat
    ++ line "Tx queued: " r.deferred
    ++ line "Tx err:    " c.transmitErrors.toNat
    ++ line "Tx ovrflw: " c.transmitOverflow.toNat
    ++ s!"Err flags: {flags}"

end Report

def Bus.report {δ : Type} (b : Bus δ) : Report :=
  { name := b.name, power := b.power, setup := b.setup
    counters := b.statistics.counters, deferred := b.deferred.used }

end Fieldbus
