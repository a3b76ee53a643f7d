import Fieldbus.Gvret.Line
import Fieldbus.Gvret.Record

/-! Formats of recorded traffic.  A format turns each message into bytes. -/

namespace Fieldbus.Capture

inductive Format where
  | lines
  | records
deriving DecidableEq, Inhabited

namespace Format

def name : Format → String
  | lines => "gvret-a"
  | records => "gvret-b"

def encode : Format → Message → List UInt8
  | lines => Gvret.Line.encode
  | records => Gvret.Record.encode

/-- The bytes at the beginning of a recording. -/
def header : Format → List UInt8
  | _ => []

def encodeAll (format : Format) (messages : List Message) : List UInt8 :=
  messages.flatMap format.encode

end Format

end Fieldbus.Capture
