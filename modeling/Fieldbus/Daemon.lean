import Fieldbus.CommandLine
import Fieldbus.Hub.Assembly
import Fieldbus.Station.Operator

/-! The daemon: a station built from a configuration, started and stopped as a whole. -/

namespace Fieldbus.Daemon

def version : String := "canhub 0.1.0"

/-- How often the interrupt lines are checked, in milliseconds. -/
def pollPeriod : Nat := 5

inductive Failure where
  | config (error : ConfigError)
  | assembly (error : AssemblyError)
  | operator (error : OperatorError)
deriving DecidableEq, Inhabited

def Failure.message : Failure → String
  | config error => error.message
  | assembly error => error.message
  | operator error => error.message

def formats : Registry Capture.Format := .ofList Capture.Format.defaults

def loggerTypes : Registry Logger.Kind := .ofList (Logger.defaults formats)

def startLogger (s : Station Hardware) :
    Option LoggerConfig → Except Failure Unit × Station Hardware
  | none => (.ok (), s)
  | some c =>
    let (result, s) := s.act (·.configureLogger loggerTypes c.typeName c.path c.filters)
    (result.mapError .operator, s)

/-- Replays a recording, if one is given; that it fails is no reason to stop. -/
def replay (s : Station Hardware) (options : Options) : Station Hardware :=
  match options.replay with
  | none => s
  | some path =>
    match s.replayFile formats path options.format with
    | (.ok _, s) => s
    | (.error e, s) => s.modify (·.sayAll (Notice.ofFailure "Replay" e.message))

def startConfigured (s : Station Hardware) (config : Config) (options : Options) :
    Except Failure Unit × Station Hardware :=
  match s.startWorker.act (·.startConfigured config.buses) with
  | (.error e, s) => (.error (.assembly e), s)
  | (.ok (), s) =>
    match startLogger s config.logger with
    | (.error e, s) => (.error e, s)
    | (.ok (), s) =>
      let s := replay (s.startPolling pollPeriod).2 options
      (.ok (), s.modify fun h => h.say (.running h.buses.length loggerTypes.names))

def start (options : Options) (files : Files) (clock : Timestamp) :
    Except Failure Unit × Station Hardware :=
  let outlet : Logger.Outlet := { files }
  match Config.load files options.config with
  | .error e => (.error (.config e), { hub := { outlet } })
  | .ok config =>
    match Hub.assemble config outlet with
    | (.error e, hub) => (.error (.assembly e), { hub })
    | (.ok (), hub) => startConfigured { hub := { hub with clock } } config options

def stopBus (h : Hub Hardware) (i : Nat) : Hub Hardware :=
  if ((h.buses[i]?).map Bus.isRunning).getD false then
    match h.onBus i Bus.stop with
    | (some (.error e), h) => h.sayAll (Notice.ofFailure "Stopping bus" e.message)
    | (_, h) => h
  else h

/-- Stops the daemon: first the logger, then all buses, then the worker. -/
def stop (s : Station Hardware) : Station Hardware :=
  let s := s.modify (·.say .shuttingDown)
  let s := if s.hub.logger.isSome then s.stopLogger.2 else s
  (s.modify fun h => (List.range h.buses.length).foldl stopBus h).shutdown

structure Ended where
  /-- The exit code: one for a daemon that does not start, two for a command line that is none. -/
  code : UInt8 := 0
  output : String := ""
  error : Option String := none
  notices : List Notice := []
  files : Files

/-- The notices that an operator sees. -/
def Ended.shown (e : Ended) : List Notice := e.notices.filter (·.level.isUsual)

/-- The text before the first line end. -/
def firstLine (text : String) : String := String.ofList (text.toList.takeWhile (· ≠ '\n'))

/-- What a station leaves behind. -/
def Ended.ofStation (s : Station Hardware) (result : Except Failure Unit) : Ended :=
  let notices := s.hub.journal.toList
  let files := s.hub.outlet.files
  match result with
  | .ok () => { notices, files }
  | .error e => { code := 1, error := some (firstLine e.message), notices, files }

/-- Runs the daemon with a command line in a directory, and stops it as soon as it is ready. -/
def run (words : List String) (files : Files) : Ended :=
  match CommandLine.parse words with
  | .version => { output := version ++ "\n", files }
  | .help => { files }
  | .invalid => { code := 2, files }
  | .run options =>
    match start options files {} with
    | (.error e, s) => .ofStation s (.error e)
    | (.ok (), s) => .ofStation (stop s) (.ok ())

end Fieldbus.Daemon
