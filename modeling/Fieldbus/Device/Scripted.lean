import Fieldbus.Device.Basic

/-! A device that answers from lists prepared in advance and remembers how it was called.  It can
take the place of any hardware whose answers are known. -/

namespace Fieldbus

inductive Call where
  | start (setup : Setup)
  | stop
  | ready
  | transmit (f : Frame)
  | poll (bus : BusName)
deriving DecidableEq

def Call.text : Call → String
  | start setup => s!"start {setup.mode.text} {setup.speed.bps}"
  | stop => "stop"
  | ready => "tx_ready"
  | transmit f => s!"transmit {f.text}"
  | poll bus => s!"rx_poll {bus.text}"

structure NotedErrors where
  flags : UInt32
  receiveErrors : UInt32
  transmitErrors : UInt32
deriving DecidableEq, Inhabited

structure PollAnswer where
  frame : Option Frame := none
  errors : Option NotedErrors := none
deriving DecidableEq, Inhabited

/-- The answers still to come, by operation, and the calls so far.  When its answers have run out,
an operation succeeds, finds room, and polls nothing. -/
structure Scripted where
  starts : List (Except DeviceError Unit) := []
  stops : List (Except DeviceError Unit) := []
  readies : List (Except DeviceError Bool) := []
  transmits : List (Except DeviceError Attempt) := []
  polls : List PollAnswer := []
  calls : List Call := []
deriving Inhabited

namespace Scripted

/-- The next answer of a list and the ones after it. -/
def next {α : Type} (otherwise : α) : List α → α × List α
  | a :: rest => (a, rest)
  | [] => (otherwise, [])

def note (d : Scripted) (call : Call) : Scripted := { d with calls := d.calls ++ [call] }

instance : Device Scripted where
  start setup d :=
    let (answer, starts) := next (.ok ()) d.starts
    (answer, { d.note (.start setup) with starts })
  stop d :=
    let (answer, stops) := next (.ok ()) d.stops
    (answer, { d.note .stop with stops })
  ready d :=
    let (answer, readies) := next (.ok true) d.readies
    (answer, { d.note .ready with readies })
  transmit f d :=
    let (answer, transmits) := next (.ok .accepted) d.transmits
    (answer, { d.note (.transmit f) with transmits })
  poll bus s d :=
    let (answer, polls) := next {} d.polls
    { device := { d.note (.poll bus) with polls }
      statistics :=
        match answer.errors with
        | some e => s.noteErrors e.flags e.receiveErrors e.transmitErrors
        | none => s
      frame := answer.frame }
  backlog d := d.polls.length
  asserted _ := false
  interrupt _ s d := { device := d, statistics := s }
  rounds _ := 0

end Scripted
end Fieldbus
