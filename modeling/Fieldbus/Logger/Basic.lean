import Fieldbus.Capture.Registry
import Fieldbus.Files
import Fieldbus.Notice

/-! Loggers.  A logger records the messages it is handed while it is open and that its filters admit.
There are loggers that report messages as notices, loggers that append recorded traffic to a file,
and loggers that keep messages in memory. -/

namespace Fieldbus.Logger

inductive Kind where
  | trace
  | file (format : Capture.Format)
  | memory (needsPath : Bool)
deriving DecidableEq, Inhabited

inductive Error where
  | missingPath
  | cannotOpen (path : String) (reason : FileError)
  | io (reason : String)
deriving DecidableEq, Inhabited

def Error.message : Error → String
  | missingPath => "Cannot open log path '': invalid input parameter"
  | cannotOpen path reason => s!"Cannot open log path '{path}': {reason.message}"
  | io reason => s!"IO Error: {reason}"

structure Outlet where
  files : Files := {}
  /-- Paths at which no file can be opened for writing at present, and why. -/
  unavailable : List (String × FileError) := []
  /-- What loggers in memory have kept, oldest first. -/
  memory : List Message := []
  /-- Paths at which loggers in memory fail to open. -/
  refusedPaths : List String := []
  /-- Whether writes to memory fail. -/
  memoryFails : Bool := false
  /-- Whether writes to memory are passed over. -/
  memorySkips : Bool := false
deriving DecidableEq, Inhabited

def Outlet.openAppend (outlet : Outlet) (path : String) : Except FileError Files :=
  match outlet.unavailable.lookup path with
  | some e => .error e
  | none => outlet.files.openAppend path

end Logger

open Logger (Kind Error Outlet FilterSet Tally)

structure Logger where
  kind : Kind
  filter : FilterSet := {}
  tally : Tally := {}
  isOpen : Bool := false
  path : Option String := none
deriving DecidableEq, Inhabited

namespace Logger

structure Step (α : Type) where
  result : α
  logger : Logger
  outlet : Outlet
  notices : List Notice := []

def typeName (l : Logger) : String :=
  match l.kind with
  | .trace => "trace"
  | .file format => format.name
  | .memory false => "capture"
  | .memory true => "capture-path"

/-- Whether the logger has to be opened with a path. -/
def needsPath (l : Logger) : Bool :=
  match l.kind with
  | .trace => false
  | .file _ => true
  | .memory needsPath => needsPath

def info (l : Logger) : String :=
  let path := l.path.getD "-"
  match l.kind with
  | .trace => s!"Type:trace Filter:{l.filter.text}"
  | .file format => s!"Type:{format.name} Path:{path} Filter:{l.filter.text}"
  | .memory _ => s!"capture {path} {l.filter.text}"

/-- Closes the logger; it keeps its path.  Closing an open file is reported. -/
def close (l : Logger) : Logger × List Notice :=
  ({ l with isOpen := false },
    match l.kind with
    | .file _ => if l.isOpen then [.loggerClosed l.path l.tally] else []
    | _ => [])

/-- Opens the logger.  A file that is open is closed first, unless no path is given; if the next one
cannot be opened, the logger stays closed and keeps its path. -/
def «open» (l : Logger) (path : Option String) (outlet : Outlet) : Step (Except Error Unit) :=
  match l.kind with
  | .trace => { result := .ok (), logger := { l with isOpen := true }, outlet }
  | .memory _ =>
    match path.filter (outlet.refusedPaths.contains ·) with
    | some _ => { result := .error (.io "capture refused"), logger := l, outlet }
    | none => { result := .ok (), logger := { l with isOpen := true, path }, outlet }
  | .file format =>
    match path with
    | none => { result := .error .missingPath, logger := l, outlet }
    | some path =>
      let (l, notices) := l.close
      match outlet.openAppend path with
      | .error e => { result := .error (.cannotOpen path e), logger := l, outlet, notices }
      | .ok files =>
        { result := .ok ()
          logger := { l with isOpen := true, path := some path }
          outlet := { outlet with files := files.append path format.header }
          notices := notices ++ [.loggerOpened path format.name] }

/-- Records an admitted message.  Files hold traffic only; everything else passes them by. -/
def write (l : Logger) (m : Message) (outlet : Outlet) : Step Unit :=
  let counted := { l with tally.recorded := l.tally.recorded + 1 }
  match l.kind with
  | .trace => { result := (), logger := counted, outlet, notices := [.recorded m] }
  | .file format =>
    match format.encode m, l.path with
    | [], _ => { result := (), logger := l, outlet }
    | _, none => { result := (), logger := l, outlet }
    | bytes, some path =>
      { result := ()
        logger := counted
        outlet := { outlet with files := outlet.files.append path bytes } }
  | .memory _ =>
    if outlet.memoryFails then
      { result := ()
        logger := { l with tally.dropped := l.tally.dropped + 1 }
        outlet
        notices := [.messageDropped l.typeName (Error.io "capture failed").message] }
    else if outlet.memorySkips then { result := (), logger := l, outlet }
    else { result := (), logger := counted, outlet := { outlet with memory := outlet.memory ++ [m] } }

def log (l : Logger) (m : Message) (outlet : Outlet) : Step Unit :=
  if !l.isOpen then { result := (), logger := l, outlet }
  else if !l.filter.admits m then
    { result := (), logger := { l with tally.filtered := l.tally.filtered + 1 }, outlet }
  else l.write m outlet

/-- The loggers for each of `formats`, after the one that reports notices. -/
def defaults (formats : Registry Capture.Format) : List (String × Kind) :=
  ("trace", .trace) :: formats.entries.map fun (name, format) => (name, .file format)

end Logger
end Fieldbus
