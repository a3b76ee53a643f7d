import Fieldbus.Bus.Report
import Fieldbus.Hub.Basic

/-! What an operator can ask of a hub: to start, stop and use buses by name, and to manage the active
logger. -/

namespace Fieldbus

inductive OperatorError where
  | noSuchBus (name : String)
  | unsupportedSpeed (bps : UInt32)
  | unsupportedMode (text : String)
  | notPoweredOn (name : String)
  | frame (error : FrameError)
  | device (error : DeviceError)
  | rejected
  | loggerRunning (typeName : String)
  | unknownLoggerType (typeName : String)
  | noPath
  | logger (error : Logger.Error)
  | filter (error : Logger.FilterError)
  | noLogger
deriving DecidableEq, Inhabited

namespace OperatorError

def message : OperatorError → String
  | noSuchBus name => s!"Cannot find named CAN bus {name}"
  | unsupportedSpeed bps =>
    s!"Unrecognised speed {bps} (100000, 125000, 250000, 500000, 1000000 are accepted)"
  | unsupportedMode text =>
    let text := Text.quoted text
    s!"Unrecognised mode {text} (listen, active)"
  | notPoweredOn name => s!"Can bus {name} is not powered on"
  | frame error => s!"Invalid frame: {error.message}"
  | device error => s!"Driver Error: {error.message}"
  | rejected => "Frame was rejected, TX queue is full"
  | loggerRunning typeName => s!"Logger of type '{typeName}' still running, please stop first"
  | unknownLoggerType typeName => s!"Cannot create logger of type '{typeName}'"
  | noPath => "No path specified"
  | logger error => s!"Logger Error: {error.message}"
  | filter error => s!"Filter Error: {error.message}"
  | noLogger => "CAN logging inactive"

end OperatorError

def BusMode.read (text : String) : Except OperatorError BusMode :=
  match BusMode.ofText? text with
  | some mode => .ok mode
  | none => .error (.unsupportedMode text)

def Power.read (text : String) : Except OperatorError Power :=
  match Power.ofText? text with
  | some power => .ok power
  | none => .error (.unsupportedMode text)

namespace Hub

variable {δ : Type}

/-- A request of the operator: what it answers, and the hub afterwards. -/
abbrev Answer (δ α : Type) := Except OperatorError α × Hub δ

/-- Runs a request on the bus with a name. -/
def withBus {α : Type} (h : Hub δ) (name : String) (request : Nat → Bus δ → Answer δ α) :
    Answer δ α :=
  match h.findBus? name with
  | some i =>
    match h.buses[i]? with
    | some b => request i b
    | none => (.error (.noSuchBus name), h)
  | none => (.error (.noSuchBus name), h)

/-- Runs a request on the bus with a name, if that bus runs. -/
def withRunningBus {α : Type} (h : Hub δ) (name : String) (request : Nat → Bus δ → Answer δ α) :
    Answer δ α :=
  h.withBus name fun i b =>
    if b.isRunning then request i b else (.error (.notPoweredOn name), h)

def formatOf (extended : Bool) : FrameFormat := if extended then .extended else .standard

def busStatus (h : Hub δ) (bus : String) : Answer δ Report :=
  h.withBus bus fun i b => (.ok b.report, h.alter i (·.reportStatus .statistics))

def inject (h : Hub δ) (bus : String) (id : UInt32) (extended : Bool) (data : List UInt8) :
    Answer δ Unit :=
  h.withRunningBus bus fun _ b =>
    match Frame.make (some b.name) id (formatOf extended) data with
    | .ok f => (.ok (), h.incoming f)
    | .error e => (.error (.frame e), h)

section Operations

variable [Device δ]

def attempt {α : Type} (h : Hub δ) (i : Nat) (operation : Bus δ → Outcome δ (Except DeviceError α))
    (missing : OperatorError) : Answer δ α :=
  match h.onBus i operation with
  | (some (.ok a), h) => (.ok a, h)
  | (some (.error e), h) => (.error (.device e), h)
  | (none, h) => (.error missing, h)

/-- Starts a bus; its name, the mode and the speed are checked in this order. -/
def startBus (h : Hub δ) (bus mode : String) (bps : UInt32) : Answer δ Unit :=
  h.withBus bus fun i _ =>
    match BusMode.read mode with
    | .error e => (.error e, h)
    | .ok mode =>
      match Speed.ofBps? bps with
      | none => (.error (.unsupportedSpeed bps), h)
      | some speed => h.attempt i (·.start { mode, speed }) (.noSuchBus bus)

def stopBus (h : Hub δ) (bus : String) : Answer δ Unit :=
  h.withBus bus fun i _ => h.attempt i Bus.stop (.noSuchBus bus)

def setPower (h : Hub δ) (bus : String) (power : Power) : Answer δ Unit :=
  h.withBus bus fun i _ => h.attempt i (·.setPower power) (.noSuchBus bus)

def transmit (h : Hub δ) (bus : String) (id : UInt32) (extended : Bool) (data : List UInt8) :
    Answer δ Delivery :=
  h.withRunningBus bus fun i _ =>
    match Frame.make none id (formatOf extended) data with
    | .error e => (.error (.frame e), h)
    | .ok f =>
      match h.attempt i (·.write f false 0) (.noSuchBus bus) with
      | (.ok (.done .rejected), h) => (.error .rejected, h)
      | (.ok (.done delivery), h) => (.ok delivery, h)
      | (.ok .waiting, h) => (.error .rejected, h)
      | (.error e, h) => (.error e, h)

end Operations

def createLogger (h : Hub δ) (types : Registry Logger.Kind) (typeName : String)
    (path : Option String) (filter : Logger.FilterSet) : Answer δ Unit :=
  match types.get? typeName with
  | none => (.error (.unknownLoggerType typeName), h)
  | some kind =>
    let l : Logger := { kind, filter }
    if l.needsPath && path.isNone then (.error .noPath, h)
    else
      let s := l.open path h.outlet
      let h := { h with outlet := s.outlet }.sayAll s.notices
      match s.result with
      | .error e => (.error (.logger e), h)
      | .ok () =>
        (.ok (), { h.say (.loggerActive s.logger.info) with logger := some s.logger })

/-- Gives the active logger other filters, and another path if it needs one.  If it cannot be opened
there, no logger is active any more. -/
def reconfigureLogger (h : Hub δ) (l : Logger) (typeName : String) (path : Option String)
    (filter : Logger.FilterSet) : Answer δ Unit :=
  if l.typeName ≠ typeName then (.error (.loggerRunning l.typeName), h)
  else if l.needsPath && path.isNone then (.error .noPath, h)
  else
    let l := { l with filter }
    if l.needsPath && l.path ≠ path then
      let (l, closing) := l.close
      let s := l.open path h.outlet
      let h := { h with outlet := s.outlet }.sayAll (closing ++ s.notices)
      match s.result with
      | .ok () => (.ok (), { h with logger := some s.logger }.say (.loggerMoved s.logger.info))
      | .error e => (.error (.logger e), { h with logger := none }.discard s.logger)
    else (.ok (), { h with logger := some l }.say (.loggerFiltered filter))

/-- Starts a logger, or changes the active one of the same type.  The filters are checked first. -/
def configureLogger (h : Hub δ) (types : Registry Logger.Kind) (typeName : String)
    (path : Option String) (filters : List String) : Answer δ Unit :=
  match Logger.FilterSet.parse filters with
  | .error e => (.error (.filter e), h)
  | .ok filter =>
    match h.logger with
    | some l => h.reconfigureLogger l typeName path filter
    | none => h.createLogger types typeName path filter

/-- How long a detached logger stays open, in milliseconds. -/
def closeGrace : Nat := 100

def retire (h : Hub δ) (l : Logger) : Logger.Tally × Hub δ :=
  (l.tally, (h.sayAll l.close.2).say (.loggerStopped l.tally))

def loggerStatus (h : Hub δ) : Except OperatorError (String × Logger.Tally) :=
  match h.logger with
  | some l => .ok (l.info, l.tally)
  | none => .error .noLogger

end Hub
end Fieldbus
