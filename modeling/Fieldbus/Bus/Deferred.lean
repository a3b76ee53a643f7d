import Fieldbus.Frame

/-! The deferred frames of a bus: those its hardware had no room for, oldest first, and the writers
that wait for room among them, first come first served.  A slot that becomes free while writers wait
is granted to the first of them at once.  It is in use from then on, although that writer puts its
frame there only when it runs next. -/

namespace Fieldbus

/-- A frame whose writer waits for room, under a number that tells writers apart. -/
structure Writer where
  ticket : Nat
  frame : Frame
deriving DecidableEq, Inhabited

structure Deferred where
  frames : List Frame := []
  granted : List Writer := []
  waiting : List Writer := []
deriving DecidableEq, Inhabited

namespace Deferred

def capacity : Nat := 20

def used (d : Deferred) : Nat := d.frames.length + d.granted.length

def hasRoom (d : Deferred) : Bool := d.used < capacity

def push (d : Deferred) (f : Frame) : Deferred := { d with frames := d.frames ++ [f] }

def await (d : Deferred) (w : Writer) : Deferred := { d with waiting := d.waiting ++ [w] }

/-- Grants a free slot to the first waiting writer. -/
def grant (d : Deferred) : Deferred :=
  match d.waiting with
  | w :: rest => { d with granted := d.granted ++ [w], waiting := rest }
  | [] => d

def pop (d : Deferred) : Deferred := grant { d with frames := d.frames.tail }

def clear (d : Deferred) : Deferred := d.frames.foldl (fun d _ => d.pop) d

def redeem? (d : Deferred) (ticket : Nat) : Option (Frame × Deferred) :=
  (d.granted.find? (·.ticket = ticket)).map fun w =>
    (w.frame, { d with granted := d.granted.filter (·.ticket ≠ ticket) })

def abandon? (d : Deferred) (ticket : Nat) : Option (Frame × Deferred) :=
  (d.waiting.find? (·.ticket = ticket)).map fun w =>
    (w.frame, { d with waiting := d.waiting.filter (·.ticket ≠ ticket) })

end Deferred
end Fieldbus
