import Fieldbus.Capture.Format
import Fieldbus.Registry

/-! The formats by name. -/

namespace Fieldbus.Capture

/-- The formats in the order of their registration. -/
def Format.defaults : List (String × Format) :=
  [Format.lines, .records].map fun format => (format.name, format)

structure UnknownFormat where
  name : String
deriving DecidableEq

def UnknownFormat.message (e : UnknownFormat) : String := s!"Unknown format: {e.name}"

def Format.find (formats : Registry Format) (name : String) : Except UnknownFormat Format :=
  match formats.get? name with
  | some format => .ok format
  | none => .error ⟨name⟩

end Fieldbus.Capture
