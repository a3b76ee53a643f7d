import Fieldbus.Bus.Basic
import Fieldbus.Hub.Listeners
import Fieldbus.Hub.WorkQueue
import Fieldbus.Logger.Basic

/-! The hub: a fixed list of buses, the queue of work their interrupt handlers produce, the listeners
of received frames, and the slot of the active logger.  Everything that happens passes through here
in one order. -/

namespace Fieldbus

structure Hub (δ : Type) where
  buses : List (Bus δ) := []
  queue : WorkQueue := {}
  listeners : Listeners := {}
  logger : Option Logger := none
  outlet : Logger.Outlet := {}
  clock : Timestamp := {}
  journal : Array Notice := #[]

namespace Hub

variable {δ : Type}

def say (h : Hub δ) (n : Notice) : Hub δ := { h with journal := h.journal.push n }

def sayAll (h : Hub δ) (notices : List Notice) : Hub δ := notices.foldl say h

def takeNotices (h : Hub δ) : List Notice × Hub δ := (h.journal.toList, { h with journal := #[] })

/-- Runs an operation on the active logger, if there is one. -/
def onLogger {α : Type} (h : Hub δ) (operation : Logger → Logger.Outlet → Logger.Step α) :
    Option α × Hub δ :=
  match h.logger with
  | some l =>
    let s := operation l h.outlet
    (some s.result, { h with logger := some s.logger, outlet := s.outlet }.sayAll s.notices)
  | none => (none, h)

def record (h : Hub δ) (origin : Option BusName) (e : Entry) : Hub δ :=
  (h.onLogger (·.log ⟨origin, h.clock, e⟩)).2

def recordFrame (h : Hub δ) (direction : Direction) (f : Frame) : Hub δ :=
  h.record f.origin (.frame direction f)

def perform (h : Hub δ) : Effect → Hub δ
  | .notice n => h.say n
  | .entry origin e => h.record origin e

def performAll (h : Hub δ) (effects : List Effect) : Hub δ := effects.foldl perform h

/-- Replaces the bus at a place by its successor, and does what that step had to say. -/
def settle (h : Hub δ) (i : Nat) (step : Bus δ × List Effect) : Hub δ :=
  { h with buses := h.buses.set i step.1 }.performAll step.2

/-- Runs an operation on the bus at a place, if there is one. -/
def onBus {α : Type} (h : Hub δ) (i : Nat) (operation : Bus δ → Outcome δ α) :
    Option α × Hub δ :=
  match h.buses[i]? with
  | some b =>
    let o := operation b
    (some o.result, h.settle i (o.bus, o.effects))
  | none => (none, h)

def alter (h : Hub δ) (i : Nat) (operation : Bus δ → Bus δ × List Effect) : Hub δ :=
  match h.buses[i]? with
  | some b => h.settle i (operation b)
  | none => h

def findBus? (h : Hub δ) (name : String) : Option Nat :=
  h.buses.findIdx? fun b => b.name.text = name

def busOf? (h : Hub δ) (f : Frame) : Option Nat :=
  f.origin.bind fun name => h.findBus? name.text

def countReceived (h : Hub δ) (i : Nat) : Hub δ :=
  h.alter i fun b => ({ b with statistics := b.statistics.countReceived }, [])

def deliver (h : Hub δ) (f : Frame) : Hub δ :=
  let (listeners, notices) := h.listeners.deliver f
  { h with listeners }.sayAll notices

/-- A frame was received: its bus counts it, the listeners get it, and it is recorded. -/
def incoming (h : Hub δ) (f : Frame) : Hub δ :=
  let h := match h.busOf? f with
    | some i => h.countReceived i
    | none => h
  (h.deliver f).recordFrame .received f

def workText (h : Hub δ) : Work → String
  | .frame f => s!"Frame({f.text})"
  | .poll i => s!"RxCallback({nameAt i})"
  | .transmit i => s!"TxCallback({nameAt i})"
  | .reportErrors i => s!"LogError({nameAt i})"
where
  nameAt (i : Nat) : String := ((h.buses[i]?).map fun b => b.name.text).getD ""

def push (h : Hub δ) (w : Work) : Bool × Hub δ :=
  let (accepted, queue) := h.queue.push w
  let h := { h with queue }
  (accepted, if accepted then h else h.say (.workDropped (h.workText w)))

def detach (h : Hub δ) : Option Logger × Hub δ := (h.logger, { h with logger := none })

/-- A logger that nobody holds any more is closed. -/
def discard (h : Hub δ) (l : Logger) : Hub δ := h.sayAll l.close.2

/-- Empties the logger's slot; the logger that was in it is discarded. -/
def dropLogger (h : Hub δ) : Option Logger × Hub δ :=
  match h.detach with
  | (some l, h) => (some l, h.discard l)
  | (none, h) => (none, h)

/-- Puts a logger into the slot; the one before it is discarded. -/
def attach (h : Hub δ) (l : Logger) : Option Logger × Hub δ :=
  let (before, h) := h.dropLogger
  (before, { h with logger := some l })

def takeMemory (h : Hub δ) : List Message × Hub δ :=
  (h.outlet.memory, { h with outlet.memory := [] })

def onListeners {α : Type} (h : Hub δ) (operation : Listeners → α × Listeners) : α × Hub δ :=
  let (a, listeners) := operation h.listeners
  (a, { h with listeners })

section Operations

variable [Device δ]

/-- Takes frames from the bus at a place, at most `n`, until it has none. -/
def pollFrames (h : Hub δ) (i : Nat) : Nat → Hub δ
  | 0 => h
  | n + 1 =>
    match h.onBus i Bus.poll with
    | (some (some f), h) => (h.incoming f).pollFrames i n
    | (_, h) => h

def transmitDeferred (h : Hub δ) (i : Nat) : Hub δ := h.alter i Bus.transmitDeferred

def reportErrors (h : Hub δ) (i : Nat) : Hub δ := h.alter i fun b =>
  { b with statistics := b.statistics.takeErrorPending.2 }.reportStatus .error

def reportNotedErrors (h : Hub δ) (i : Nat) : Hub δ := h.alter i fun b =>
  let (pending, statistics) := b.statistics.takeErrorPending
  let b := { b with statistics }
  if pending then b.reportStatus .error else (b, [])

/-- A bound on the frames that polling the bus at a place can fetch. -/
def backlog (h : Hub δ) (i : Nat) : Nat :=
  ((h.buses[i]?).map fun b => Device.backlog b.device).getD 0

def dispatch (h : Hub δ) : Work → Hub δ
  | .frame f => h.incoming f
  | .poll i => ((h.pollFrames i (h.backlog i + 1)).reportNotedErrors i).transmitDeferred i
  | .transmit i => h.transmitDeferred i
  | .reportErrors i => h.reportErrors i

def interrupt (h : Hub δ) (i : Nat) : Hub δ :=
  match h.buses[i]? with
  | some b =>
    let r := Device.interrupt b.name b.statistics b.device
    let b := { b with device := r.device, statistics := r.statistics }
    r.requests.foldl (fun h request => (h.push (request.work i)).2)
      { h with buses := h.buses.set i b }
  | none => h

def asserted (h : Hub δ) (i : Nat) : Bool :=
  ((h.buses[i]?).map fun b => Device.asserted b.device).getD false

/-- Runs an interrupt handler at most `n` times, while its line is asserted; how often it ran. -/
def serviceRounds (h : Hub δ) (i : Nat) : Nat → Nat × Hub δ
  | 0 => (0, h)
  | n + 1 =>
    if h.asserted i then
      let (count, h) := (h.interrupt i).serviceRounds i n
      (count + 1, h)
    else (0, h)

def service (h : Hub δ) (i : Nat) : Nat × Hub δ :=
  h.serviceRounds i (((h.buses[i]?).map fun b => Device.rounds b.device).getD 0)

def serviceAll (h : Hub δ) : Hub δ :=
  (List.range h.buses.length).foldl (fun h i => (h.service i).2) h

end Operations

def startWorker (h : Hub δ) : Hub δ :=
  match h.queue.worker with
  | .idle =>
    { h with queue.worker := .running }.say (.workerStarted h.buses.length)
  | _ => h.say .workerAlreadyStarted

def shutdown (h : Hub δ) : Hub δ := { h with queue := h.queue.shutdown }

end Hub
end Fieldbus
