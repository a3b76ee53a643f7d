import Fieldbus.Daemon
import Std.Time.DateTime.Timestamp

/-! The command of the daemon.  It reads the files that its command line and its configuration name,
runs until its standard input ends, shows notices on standard error, and writes what was recorded. -/

namespace Fieldbus.Command

/-- Puts a file among the known ones, under the path it is asked for. -/
def fetch (files : Files) (path : String) : IO Files := do
  match ← (IO.FS.readBinFile path).toBaseIO with
  | .ok bytes => return files.put path bytes.toList
  | .error _ => return files

/-- Makes a file for recordings if it is missing, and puts it among the known ones. -/
def fetchLog (files : Files) (path : String) : IO Files := do
  match ← (IO.FS.Handle.mk path .append).toBaseIO with
  | .ok _ => fetch files path
  | .error _ => return files

def logPath (options : Options) (files : Files) : Option String :=
  (Config.load files options.config).toOption.bind fun c => c.logger.bind LoggerConfig.path

def fetchAll (options : Options) : IO Files := do
  let files ← fetch {} options.config
  let files ← options.replay.toList.foldlM fetch files
  (logPath options files).toList.foldlM fetchLog files

def store (before after : Files) (path : String) : IO Unit := do
  let bytes := ((after.get? path).getD []).drop ((before.get? path).getD []).length
  unless bytes.isEmpty do
    (← IO.FS.Handle.mk path .append).write ⟨bytes.toArray⟩

/-- Shows the notices of a station and writes its recordings. -/
def report (before : Files) (path : Option String) (s : Station Hardware) :
    IO (Station Hardware) := do
  let (notices, s) := s.act Hub.takeNotices
  for n in notices.filter (·.level.isUsual) do
    IO.eprintln s!"[{n.level.text}] {n.text}"
  path.forM (store before s.hub.outlet.files)
  return s

def now : IO Timestamp := do
  let time ← Std.Time.Timestamp.now
  return .ofMicros (time.toNanosecondsSinceUnixEpoch.val / 1000).toNat.toUInt64

/-- Sets the clock that recorded messages get their times from. -/
def setClock (s : Station Hardware) : IO (Station Hardware) := do
  let clock ← now
  return s.modify ({ · with clock })

/-- Reads a stream to its end. -/
partial def drain (input : IO.FS.Stream) : IO Unit := do
  unless (← input.getLine).isEmpty do drain input

/-- Lets the station run until a task ends. -/
partial def runUntil (stopped : Task (Except IO.Error Unit)) (path : Option String)
    (s : Station Hardware) : IO (Station Hardware) := do
  if ← IO.hasFinished stopped then return s
  IO.sleep Daemon.pollPeriod.toUInt32
  let s ← setClock s
  runUntil stopped path
    (← report s.hub.outlet.files path (s.advance Daemon.pollPeriod))

def run (options : Options) : IO UInt32 := do
  let files ← fetchAll options
  let path := logPath options files
  let (result, s) := Daemon.start options files (← now)
  let s ← report files path s
  match result with
  | .error e =>
    IO.eprintln s!"Error: {e.message}"
    return 1
  | .ok () =>
    let stopped ← IO.asTask (drain (← IO.getStdin))
    let s ← setClock (← runUntil stopped path s)
    let _ ← report s.hub.outlet.files path (Daemon.stop s)
    return 0

def usage : String :=
  "Usage: canhub [-c CONFIG] [--replay CAPTURE] [--format FORMAT]"

end Fieldbus.Command

open Fieldbus in
def main (words : List String) : IO UInt32 := do
  match CommandLine.parse words with
  | .version =>
    IO.println Daemon.version
    return 0
  | .help =>
    IO.println Command.usage
    return 0
  | .invalid =>
    IO.eprintln Command.usage
    return 2
  | .run options => Command.run options
