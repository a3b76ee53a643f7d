import Fieldbus.Station.Time

/-! What an operator can ask of a station beyond what the hub does by itself: whatever takes time,
or runs on beside the operator. -/

namespace Fieldbus.Station

variable {δ : Type} [Device δ]

def newTicket (s : Station δ) : Nat × Station δ :=
  (s.nextTicket, { s with nextTicket := s.nextTicket + 1 })

/-- Writes a frame to the bus at a place, waiting for room up to `timeout`; nothing if there is no
such bus. -/
def write (s : Station δ) (bus : Nat) (f : Frame) (timeout : Nat) :
    Option WriteResult × Station δ :=
  let (ticket, s) := s.newTicket
  match s.act (·.onBus bus (·.write f (timeout ≠ 0) ticket)) with
  | (some (.ok .waiting), s) =>
    let s := s.await (·.isGranted ticket) (s.now + timeout)
    let last : Bus δ → Outcome δ (Except DeviceError Writing) :=
      if s.isGranted ticket then (·.resume ticket) else (·.expire ticket)
    let (result, s) := s.act (·.onBus bus last)
    (result.bind toResult?, s)
  | (result, s) => (result.bind toResult?, s)
where
  toResult? : Except DeviceError Writing → Option WriteResult
    | .ok (.done delivery) => some (.ok delivery)
    | .ok .waiting => none
    | .error e => some (.error e)

def startWrite (s : Station δ) (bus : Nat) (f : Frame) (timeout : Nat) : Nat × Station δ :=
  let (ticket, s) := s.newTicket
  let w : OpenWrite := { ticket, bus, stage := .fresh f timeout }
  (ticket, ({ s with writes := s.writes ++ [w] }.makeReady (.write ticket)).settle)

def isDone (s : Station δ) (ticket : Nat) : Bool := (s.write? ticket).isNone

def joinWrite (s : Station δ) (ticket : Nat) : Option WriteResult × Station δ :=
  let s := s.settle
  let s :=
    match (s.write? ticket).bind OpenWrite.deadline? with
    | some deadline => s.await (·.isDone ticket) (deadline + 1)
    | none => s
  (s.results.lookup ticket, s)

/-- Hands the interrupt lines over to a poller, once; whether that was possible. -/
def startPolling (s : Station δ) (period : Nat) : Bool × Station δ :=
  if s.handedOver then (false, s)
  else
    let s := { s with handedOver := true, poller := some { period, next := s.now } }
    (true, (s.makeReady .poller).settle)

/-- Ends the poller.  The interrupt lines are not checked any more. -/
def stopPolling (s : Station δ) : Station δ := { s with poller := none }.settle

/-- Services the interrupts of the bus at a place, unless the lines were handed over; how often its
handler ran. -/
def service (s : Station δ) (bus : Nat) : Option Nat × Station δ :=
  if s.handedOver then (none, s)
  else
    let (count, s) := s.act (·.service bus)
    (some count, s)

def startWorker (s : Station δ) : Station δ := s.modify Hub.startWorker

def shutdown (s : Station δ) : Station δ := (s.modify Hub.shutdown).settle

/-- Takes the active logger out of its slot, gives everyone time to finish with it, and closes it. -/
def stopLogger (s : Station δ) : Except OperatorError Logger.Tally × Station δ :=
  match s.act Hub.detach with
  | (none, s) => (.error .noLogger, s)
  | (some l, s) =>
    let s := s.await (fun _ => false) (s.now + Hub.closeGrace)
    let (tally, s) := s.act (·.retire l)
    (.ok tally, s)

/-- Replays the file at a path, after everyone had their turns. -/
def replayFile (s : Station δ) (formats : Registry Capture.Format) (path formatName : String) :
    Except ReplayError Nat × Station δ :=
  match Capture.Format.find formats formatName with
  | .error e => (.error (.unknownFormat e), s)
  | .ok format => s.settle.act (·.replayFile path format)

end Fieldbus.Station
