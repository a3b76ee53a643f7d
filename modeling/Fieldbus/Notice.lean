import Fieldbus.Bus.Mode
import Fieldbus.Device.Error
import Fieldbus.Gvret.Basic
import Fieldbus.Logger.Filter
import Fieldbus.Logger.Tally

/-! Notices: what the station reports about its own work, as opposed to the traffic it records.
Each kind of notice has a level and a text. -/

namespace Fieldbus

inductive Level where
  | error
  | warn
  | info
  | debug
  | trace
deriving DecidableEq, Inhabited

namespace Level

def text : Level → String
  | error => "error"
  | warn => "warn"
  | info => "info"
  | debug => "debug"
  | trace => "trace"

/-- Whether a notice of this level is shown to an operator who asked for no more than the usual. -/
def isUsual : Level → Bool
  | error => true
  | warn => true
  | info => true
  | debug => false
  | trace => false

end Level

inductive Notice where
  | formatRegistered (name : String)
  | loggerTypeRegistered (name : String)
  | refused (refusal : Gvret.Refusal)
  | busStarted (bus : BusName) (setup : Setup)
  | deferredDiscarded (bus : BusName) (count : Nat)
  | busStopped (bus : BusName) (power : Power)
  | readinessUnknown (bus : BusName) (error : DeviceError)
  | deferredTransmitFailed (bus : BusName) (error : DeviceError)
  | receiveOverflow (bus : BusName)
  | invalidLengthReceived (bus : BusName)
  | pollingFailed (bus : BusName) (error : HardwareError)
  | workDropped (work : String)
  | workerAlreadyStarted
  | workerStarted (buses : Nat)
  | listenerFull (frame : Frame)
  | listenerGone
  | loggerFiltered (filter : Logger.FilterSet)
  | loggerMoved (info : String)
  | loggerActive (info : String)
  | loggerStopped (tally : Logger.Tally)
  | loggerOpened (path : String) (format : String)
  | loggerClosed (path : Option String) (tally : Logger.Tally)
  | messageDropped (loggerType : String) (reason : String)
  | recorded (message : Message)
  | replaySkipped (count : Nat)
  | replayed (count : Nat) (path : String)
  | busConfigured (bus : BusName) (device : String)
  | failed (what : String) (reason : String)
  | details (text : String)
  | running (buses : Nat) (loggerTypes : List String)
  | shuttingDown
deriving DecidableEq

namespace Notice

instance : Inhabited Notice := ⟨shuttingDown⟩

/-- Recorded traffic is reported at the least urgent level, other recorded entries one above. -/
def level : Notice → Level
  | formatRegistered .. | loggerTypeRegistered .. | refused .. | deferredDiscarded .. => .debug
  | busStarted .. | busStopped .. => .info
  | readinessUnknown .. | deferredTransmitFailed .. | receiveOverflow .. => .warn
  | invalidLengthReceived .. => .debug
  | pollingFailed .. => .warn
  | workDropped .. => .debug
  | workerAlreadyStarted => .warn
  | workerStarted .. | listenerFull .. | listenerGone => .debug
  | loggerFiltered .. | loggerMoved .. | loggerActive .. | loggerStopped .. => .info
  | loggerOpened .. | loggerClosed .. => .info
  | messageDropped .. => .debug
  | recorded m => if m.entry.frame?.isSome then .trace else .debug
  | replaySkipped .. => .debug
  | replayed .. => .info
  | busConfigured .. => .debug
  | failed .. => .error
  | details .. => .debug
  | running .. | shuttingDown => .info

def pathText : Option String → String
  | some path =>
    let path := Text.quoted path
    s!"Some({path})"
  | none => "None"

def text : Notice → String
  | formatRegistered name => s!"Registering CAN format: {name}"
  | loggerTypeRegistered name => s!"Registering logger type: {name}"
  | refused refusal => refusal.message?.getD ""
  | busStarted bus setup =>
    s!"{bus.text}: started in {setup.mode.text} mode at {setup.speed.bps} bps"
  | deferredDiscarded bus count => s!"{bus.text}: discarded {count} deferred frames"
  | busStopped bus power => s!"{bus.text}: stopped ({power.text})"
  | readinessUnknown bus error => s!"{bus.text}: cannot query transmit buffers: {error.message}"
  | deferredTransmitFailed bus error => s!"{bus.text}: deferred transmit failed: {error.message}"
  | receiveOverflow bus => s!"{bus.text}: receive overflow, frame lost"
  | invalidLengthReceived bus => s!"{bus.text}: dropping frame with invalid length"
  | pollingFailed bus error => s!"{bus.text}: polling controller failed: {error.message}"
  | workDropped work => s!"Work queue unavailable, dropping {work}"
  | workerAlreadyStarted => "Hub worker already started"
  | workerStarted buses => s!"Hub worker started with {buses} buses"
  | listenerFull frame => s!"Listener full, dropping {frame.text}"
  | listenerGone => "Listener went away, removing it"
  | loggerFiltered filter => s!"CAN logging filter now {filter.text}"
  | loggerMoved info => s!"CAN logging moved: {info}"
  | loggerActive info => s!"CAN logging active: {info}"
  | loggerStopped tally => s!"CAN logging stopped: {tally.text}"
  | loggerOpened path format => s!"Logging CAN traffic to {path} ({format})"
  | loggerClosed path tally => s!"Closed CAN log {pathText path}: {tally.text}"
  | messageDropped loggerType reason => s!"{loggerType} logger: dropping message: {reason}"
  | recorded message => message.text
  | replaySkipped count => s!"Replay skipped {count} frames for unknown buses"
  | replayed count path => s!"Replayed {count} frames from {path}"
  | busConfigured bus device => s!"Configured bus {bus.text} ({device})"
  | failed what reason => s!"{what} failed: {reason}"
  | details text => s!"Details: {text}"
  | running buses loggerTypes =>
    let types := ", ".intercalate loggerTypes
    s!"canhub running with {buses} buses, logger types: {types}"
  | shuttingDown => "Shutting down"

/-- The notices about work that failed: the reason, and the reason in detail. -/
def ofFailure (what reason : String) : List Notice :=
  [failed what reason, details (Text.quoted reason)]

/-- The notices about refused bytes; most of what is no record at all passes without one. -/
def ofRefusals (refusals : List Gvret.Refusal) : List Notice :=
  refusals.filterMap fun r => if r.message?.isSome then some (refused r) else none

end Notice
end Fieldbus
