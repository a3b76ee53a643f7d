import Fieldbus.Bus.Deferred
import Fieldbus.Device.Basic

/-! A bus: its device and all that is the same for every device, namely power, statistics and the
deferred frames.  Operations yield the bus afterwards and, in order, what they have to say: notices,
and entries for whatever logger is active.  No operation depends on that logger. -/

namespace Fieldbus

inductive Effect where
  | notice (n : Notice)
  | entry (origin : Option BusName) (e : Entry)
deriving DecidableEq

def Effect.frame (direction : Direction) (f : Frame) : Effect :=
  .entry f.origin (.frame direction f)

structure Bus (δ : Type) where
  name : BusName
  device : δ
  statistics : Statistics := {}
  power : Power := .off
  /-- What the bus was last started with; it is used again when power comes back. -/
  setup : Option Setup := none
  deferred : Deferred := {}

structure Outcome (δ α : Type) where
  result : α
  bus : Bus δ
  effects : List Effect := []

inductive Delivery where
  | sent
  | queued
  /-- There was no room for it, and it is gone. -/
  | rejected
deriving DecidableEq, Inhabited

inductive Writing where
  | done (delivery : Delivery)
  /-- The writer waits for room. -/
  | waiting
deriving DecidableEq, Inhabited

namespace Bus

variable {δ : Type}

def isRunning (b : Bus δ) : Bool := b.power = .on

def remark (b : Bus δ) (text : String) : Effect := .entry (some b.name) (.remark .event text)

section Operations

variable [Device δ]

/-- Starts the bus.  The statistics begin anew even if the device fails to start. -/
def start (b : Bus δ) (setup : Setup) : Outcome δ (Except DeviceError Unit) :=
  match Device.start setup b.device with
  | (.ok (), device) =>
    { result := .ok ()
      bus := { b with device, statistics := {}, power := .on, setup := some setup }
      effects :=
        [.notice (.busStarted b.name setup), b.remark s!"{setup.mode.text} {setup.speed.bps}"] }
  | (.error e, device) => { result := .error e, bus := { b with device, statistics := {} } }

/-- Stops the device and takes the power away.  Frames deferred so far are discarded. -/
def halt (b : Bus δ) (power : Power) : Outcome δ (Except DeviceError Unit) :=
  match Device.stop b.device with
  | (.ok (), device) =>
    let count := b.deferred.frames.length
    { result := .ok ()
      bus := { b with device, power, deferred := b.deferred.clear }
      effects :=
        (if count = 0 then [] else [.notice (.deferredDiscarded b.name count)])
        ++ [.notice (.busStopped b.name power), b.remark s!"stopped {power.text}"] }
  | (.error e, device) => { result := .error e, bus := { b with device } }

def stop (b : Bus δ) : Outcome δ (Except DeviceError Unit) := b.halt .off

/-- Changes the power state.  Turning on starts a stopped bus as it was started last, and does
nothing to a bus that runs or was never started. -/
def setPower (b : Bus δ) : Power → Outcome δ (Except DeviceError Unit)
  | .on =>
    match b.setup with
    | some setup => if b.isRunning then { result := .ok (), bus := b } else b.start setup
    | none => { result := .ok (), bus := b }
  | power => b.halt power

def noteSent (b : Bus δ) (f : Frame) : Bus δ × List Effect :=
  ({ b with statistics := b.statistics.countSent }, [.frame .sent f])

def noteFailed (b : Bus δ) (f : Frame) : Bus δ × List Effect :=
  ({ b with statistics := b.statistics.countTransmitOverflow }, [.frame .failed f])

/-- Moves deferred frames into the hardware while it has room, given the list of them.  A frame that
the hardware does not take in spite of its readiness is lost. -/
def moveDeferred (b : Bus δ) : List Frame → Bus δ × List Effect
  | [] =>
    match Device.ready b.device with
    | (.ok _, device) => ({ b with device }, [])
    | (.error e, device) => ({ b with device }, [.notice (.readinessUnknown b.name e)])
  | f :: rest =>
    match Device.ready b.device with
    | (.error e, device) => ({ b with device }, [.notice (.readinessUnknown b.name e)])
    | (.ok false, device) => ({ b with device }, [])
    | (.ok true, device) =>
      let (result, device) := Device.transmit f device
      let b := { b with device, deferred := b.deferred.pop }
      match result with
      | .ok .accepted =>
        let (b, said) := b.noteSent f
        let (b, more) := b.moveDeferred rest
        (b, said ++ more)
      | .ok .busy => b.noteFailed f
      | .error e =>
        let (b, said) := b.noteFailed f
        let (b, more) := b.moveDeferred rest
        (b, .notice (.deferredTransmitFailed b.name e) :: said ++ more)

def transmitDeferred (b : Bus δ) : Bus δ × List Effect :=
  if b.isRunning then b.moveDeferred b.deferred.frames else (b, [])

/-- Defers a frame for which there is room.  The hardware may have become free meanwhile. -/
def defer (b : Bus δ) (f : Frame) : Outcome δ (Except DeviceError Writing) :=
  let b := { b with statistics := b.statistics.countDelayed, deferred := b.deferred.push f }
  let (b, more) := b.transmitDeferred
  { result := .ok (.done .queued), bus := b, effects := .frame .deferred f :: more }

def reject (b : Bus δ) (f : Frame) : Outcome δ (Except DeviceError Writing) :=
  let (b, said) := b.noteFailed f
  { result := .ok (.done .rejected), bus := b, effects := said }

/-- Defers a frame, or lets its writer wait for room if it is patient, or gives the frame up. -/
def deferOrWait (b : Bus δ) (f : Frame) (patient : Bool) (ticket : Nat) :
    Outcome δ (Except DeviceError Writing) :=
  if b.deferred.hasRoom then b.defer f
  else if patient then
    { result := .ok .waiting, bus := { b with deferred := b.deferred.await ⟨ticket, f⟩ } }
  else b.reject f

/-- Writes a frame as one of this bus.  While frames are deferred the hardware is not tried, so that
none overtakes another. -/
def write (b : Bus δ) (f : Frame) (patient : Bool) (ticket : Nat) :
    Outcome δ (Except DeviceError Writing) :=
  let f := f.withOrigin b.name
  if !b.isRunning then { result := .error (.notRunning b.name), bus := b }
  else if b.deferred.used = 0 then
    match Device.transmit f b.device with
    | (.error e, device) => { result := .error e, bus := { b with device } }
    | (.ok .accepted, device) =>
      let (b, said) := { b with device }.noteSent f
      { result := .ok (.done .sent), bus := b, effects := said }
    | (.ok .busy, device) => { b with device }.deferOrWait f patient ticket
  else b.deferOrWait f patient ticket

def resume (b : Bus δ) (ticket : Nat) : Outcome δ (Except DeviceError Writing) :=
  match b.deferred.redeem? ticket with
  | some (f, deferred) => { b with deferred }.defer f
  | none => { result := .ok .waiting, bus := b }

def expire (b : Bus δ) (ticket : Nat) : Outcome δ (Except DeviceError Writing) :=
  match b.deferred.abandon? ticket with
  | some (f, deferred) => { b with deferred }.reject f
  | none => { result := .ok .waiting, bus := b }

def poll (b : Bus δ) : Outcome δ (Option Frame) :=
  let p := Device.poll b.name b.statistics b.device
  { result := p.frame
    bus := { b with device := p.device, statistics := p.statistics }
    effects := p.notices.map .notice }

end Operations

/-- Records the counters; an error report only if they changed since the last one. -/
def reportStatus (b : Bus δ) : StatusKind → Bus δ × List Effect
  | .statistics => (b, [.entry (some b.name) (.status .statistics b.statistics.counters)])
  | .error =>
    let (changed, statistics) := b.statistics.reportChanged
    ({ b with statistics },
      if changed then [.entry (some b.name) (.status .error b.statistics.counters)] else [])

end Bus
end Fieldbus
