import Fieldbus.Hub.Operator
import Fieldbus.Hub.Replay

/-! A station: a hub with all that runs beside its operator, namely the hub's worker, the poller of
the interrupt lines, and writes that were handed over.  They take turns, one at a time, in the order
in which they became ready, and a turn is never interrupted.  Times are in milliseconds. -/

namespace Fieldbus

inductive Runner where
  | worker
  | poller
  | write (ticket : Nat)
deriving DecidableEq

inductive WriteStage where
  | fresh (frame : Frame) (timeout : Nat)
  | waiting (deadline : Nat)
deriving DecidableEq

structure OpenWrite where
  ticket : Nat
  bus : Nat
  stage : WriteStage
deriving DecidableEq

namespace OpenWrite

def deadline? (w : OpenWrite) : Option Nat :=
  match w.stage with
  | .fresh .. => none
  | .waiting deadline => some deadline

end OpenWrite

abbrev WriteResult := Except DeviceError Delivery

/-- The poller: all interrupt lines are checked at the time `next` and each `period` after it. -/
structure Poller where
  period : Nat
  next : Nat
deriving DecidableEq, Inhabited

def Poller.due (p : Poller) (now : Nat) : Nat :=
  if p.next ≤ now then (now - p.next) / p.period + 1 else 0

structure Station (δ : Type) where
  hub : Hub δ
  now : Nat := 0
  /-- Who is ready for a turn, first come first served. -/
  ready : List Runner := []
  writes : List OpenWrite := []
  /-- The results of writes that are done, by ticket. -/
  results : List (Nat × WriteResult) := []
  nextTicket : Nat := 0
  poller : Option Poller := none
  /-- Whether a poller has taken over the interrupt lines. -/
  handedOver : Bool := false

namespace Station

variable {δ : Type}

def makeReady (s : Station δ) (t : Runner) : Station δ :=
  if t ∈ s.ready then s else { s with ready := s.ready ++ [t] }

def makeAllReady (s : Station δ) (runners : List Runner) : Station δ := runners.foldl makeReady s

def wakeWorker (s : Station δ) : Station δ :=
  if s.hub.queue.worker = .running ∧ s.hub.queue.items ≠ [] then s.makeReady .worker else s

def granted (s : Station δ) : List Nat :=
  s.hub.buses.flatMap fun b => b.deferred.granted.map Writer.ticket

def wakeWrites (s : Station δ) : Station δ :=
  s.makeAllReady
    ((s.granted.filter fun ticket => s.writes.any (·.ticket = ticket)).map .write)

/-- Does something with the hub, which may make runners ready. -/
def act {α : Type} (s : Station δ) (operation : Hub δ → α × Hub δ) : α × Station δ :=
  let (a, hub) := operation s.hub
  (a, ({ s with hub }.wakeWorker).wakeWrites)

def modify (s : Station δ) (change : Hub δ → Hub δ) : Station δ :=
  (s.act fun h => ((), change h)).2

def write? (s : Station δ) (ticket : Nat) : Option OpenWrite :=
  s.writes.find? (·.ticket = ticket)

def finish (s : Station δ) (ticket : Nat) (result : WriteResult) : Station δ :=
  { s with
    writes := s.writes.filter (·.ticket ≠ ticket)
    results := s.results ++ [(ticket, result)] }

def putOff (s : Station δ) (ticket deadline : Nat) : Station δ :=
  { s with
    writes := s.writes.map fun w =>
      if w.ticket = ticket then { w with stage := .waiting deadline } else w }

section Turns

variable [Device δ]

def work (s : Station δ) : Station δ :=
  s.hub.queue.items.foldl (fun s w => { s with hub := s.hub.dispatch w }.wakeWrites)
    { s with hub.queue.items := [] }

/-- The most checks that the poller makes in one turn. -/
def checksPerTurn : Nat := 128

/-- The poller makes up to `n` checks that are due; if others remain it is ready again. -/
def poll (s : Station δ) : Nat → Station δ
  | 0 => s.makeReady .poller
  | n + 1 =>
    match s.poller with
    | some p =>
      if p.next ≤ s.now then
        ({ s with poller := some { p with next := p.next + p.period } }.modify
          Hub.serviceAll).poll n
      else s
    | none => s

/-- The result of one step of a write; one that has to wait does so until `deadline`. -/
def conclude (s : Station δ) (ticket deadline : Nat) :
    Option (Except DeviceError Writing) → Station δ
  | some (.ok (.done delivery)) => s.finish ticket (.ok delivery)
  | some (.error e) => s.finish ticket (.error e)
  | _ => s.putOff ticket deadline

def isGranted (s : Station δ) (ticket : Nat) : Bool := s.granted.contains ticket

/-- A turn of a write: it begins, goes on with a slot that it was granted, or gives up. -/
def proceed (s : Station δ) (w : OpenWrite) : Station δ :=
  match w.stage with
  | .fresh frame timeout =>
    let (result, s) := s.act (·.onBus w.bus (·.write frame (timeout ≠ 0) w.ticket))
    s.conclude w.ticket (s.now + timeout) result
  | .waiting deadline =>
    if s.isGranted w.ticket then
      let (result, s) := s.act (·.onBus w.bus (·.resume w.ticket))
      s.conclude w.ticket deadline result
    else if deadline ≤ s.now then
      let (result, s) := s.act (·.onBus w.bus (·.expire w.ticket))
      s.conclude w.ticket deadline result
    else s

def turn (s : Station δ) : Runner → Station δ
  | .worker => s.work
  | .poller => s.poll checksPerTurn
  | .write ticket =>
    match s.write? ticket with
    | some w => s.proceed w
    | none => s

def turns (s : Station δ) : Nat → Station δ
  | 0 => s
  | n + 1 =>
    match s.ready with
    | t :: rest => ({ s with ready := rest }.turn t).turns n
    | [] => s

/-- A bound on the turns that can be taken before time has to pass.  A write takes at most two; the
worker takes at most one after each turn of the poller, which makes at least one check. -/
def turnsLeft (s : Station δ) : Nat :=
  s.ready.length + 2 * s.writes.length + 2 * ((s.poller.map (·.due s.now)).getD 0) + 2

/-- Lets everyone have turns until nobody is ready. -/
def settle (s : Station δ) : Station δ := s.turns s.turnsLeft

end Turns

end Station
end Fieldbus
