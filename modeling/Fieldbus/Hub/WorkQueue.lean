import Fieldbus.Device.Basic

/-! The work queue: what interrupt handlers leave to be done, in the order of arrival.  It never makes
anyone wait; work that finds it full, or closed, is dropped and counted. -/

namespace Fieldbus

/-- A piece of work; buses are given by their place in the hub. -/
inductive Work where
  | frame (f : Frame)
  | poll (bus : Nat)
  | transmit (bus : Nat)
  | reportErrors (bus : Nat)
deriving DecidableEq

def Request.work (bus : Nat) : Request → Work
  | frame f => .frame f
  | poll => .poll bus
  | transmit => .transmit bus
  | reportErrors => .reportErrors bus

inductive Worker where
  | idle
  | running
  | ended
deriving DecidableEq, Inhabited

structure WorkQueue where
  items : List Work := []
  dropped : UInt32 := 0
  worker : Worker := .idle
deriving DecidableEq, Inhabited

namespace WorkQueue

def capacity : Nat := 20

/-- Whether work can be put in: there is room, and the worker has not ended. -/
def accepts (q : WorkQueue) : Bool := q.worker ≠ .ended && q.items.length < capacity

def push (q : WorkQueue) (w : Work) : Bool × WorkQueue :=
  if q.accepts then (true, { q with items := q.items ++ [w] })
  else (false, { q with dropped := q.dropped + 1 })

/-- Ends the worker, if it runs; what waits is lost. -/
def shutdown (q : WorkQueue) : WorkQueue :=
  match q.worker with
  | .running => { q with items := [], worker := .ended }
  | _ => q

end WorkQueue
end Fieldbus
