import Fieldbus.Bus.Mode
import Fieldbus.Files
import Fieldbus.Text.Utf8
import Fieldbus.Toml.Document

/-! The configuration of a station: its buses with their kinds of device, how they are started, and
the first logger.  It is a TOML document; a part with named fields may also be written as an array of
all its fields in order, and keys that mean nothing are ignored. -/

namespace Fieldbus

inductive DeviceKind where
  | onChip
  | mcp2515
deriving DecidableEq, Inhabited

namespace DeviceKind

def name : DeviceKind → String
  | onChip => "virtual-onchip"
  | mcp2515 => "virtual-mcp2515"

def title : DeviceKind → String
  | onChip => "VirtualOnChip"
  | mcp2515 => "VirtualMcp2515"

def ofName? (name : String) : Option DeviceKind := [onChip, mcp2515].find? (·.name = name)

end DeviceKind

/-- How a configured bus is started.  The speed is not checked until then. -/
structure StartConfig where
  mode : BusMode
  bps : UInt32
deriving DecidableEq, Inhabited

structure BusConfig where
  name : String
  kind : DeviceKind
  start : Option StartConfig
deriving DecidableEq, Inhabited

structure LoggerConfig where
  typeName : String
  path : Option String
  filters : List String
deriving DecidableEq, Inhabited

structure Config where
  buses : List BusConfig := []
  logger : Option LoggerConfig := none
deriving DecidableEq, Inhabited

namespace Config

open Toml (Value)

/-- The fields of a part, by name or by place. -/
inductive Fields where
  | named (entries : Toml.Entries)
  | placed (items : List Value)

namespace Fields

def of? : Value → Option Fields
  | .table _ entries => some (named entries)
  | .array items => some (placed items)
  | .tables items => some (placed (items.map (.table .header)))
  | _ => none

def field? (f : Fields) (place : Nat) (name : String) : Option Value :=
  match f with
  | named entries => entries.find? name
  | placed items => items[place]?

/-- A field that must be there. -/
def required {α : Type} (f : Fields) (place : Nat) (name : String) (read : Value → Option α) :
    Option α :=
  (f.field? place name).bind read

/-- A field that may be missing, but only if fields are named. -/
def optional {α : Type} (f : Fields) (place : Nat) (name : String) (read : Value → Option α) :
    Option (Option α) :=
  match f.field? place name, f with
  | some v, _ => (read v).map some
  | none, named _ => some none
  | none, placed _ => none

/-- A list that is empty if it is missing. -/
def list {α : Type} (f : Fields) (place : Nat) (name : String) (read : Value → Option α) :
    Option (List α) :=
  match f.field? place name with
  | some (.array items) => items.mapM read
  | some (.tables items) => items.mapM fun es => read (.table .header es)
  | some _ => none
  | none => some []

end Fields

def string? : Value → Option String
  | .string s => some s
  | _ => none

/-- An unsigned number of 32 bits. -/
def word? : Value → Option UInt32
  | .integer n => if 0 ≤ n ∧ n < UInt32.size then some n.toNat.toUInt32 else none
  | _ => none

/-- One of several names: a string, or the key of an empty part. -/
def choice? {α : Type} (ofName? : String → Option α) : Value → Option α
  | .string s => ofName? s
  | .table _ [(key, .table _ [])] => ofName? key
  | .table _ [(key, .array [])] => ofName? key
  | _ => none

def start? (v : Value) : Option StartConfig := do
  let f ← Fields.of? v
  some { mode := ← f.required 0 "mode" (choice? BusMode.ofText?)
         bps := ← f.required 1 "speed" word? }

def bus? (v : Value) : Option BusConfig := do
  let f ← Fields.of? v
  some { name := ← f.required 0 "name" string?
         kind := ← f.required 1 "kind" (choice? DeviceKind.ofName?)
         start := ← f.optional 2 "start" start? }

def logger? (v : Value) : Option LoggerConfig := do
  let f ← Fields.of? v
  some { typeName := ← f.required 0 "type" string?
         path := ← f.optional 1 "path" string?
         filters := ← f.list 2 "filters" string? }

def ofEntries? (entries : Toml.Entries) : Option Config := do
  let f := Fields.named entries
  some { buses := ← f.list 0 "bus" bus?
         logger := ← f.optional 1 "logger" logger? }

def parse (text : String) : Option Config := (Toml.parse text).bind ofEntries?

end Config

inductive ConfigError where
  | unreadable (path : String)
  | malformed
deriving DecidableEq, Inhabited

def ConfigError.message : ConfigError → String
  | unreadable path => s!"Could not read {path}"
  | malformed => "TOML parse error"

/-- Reads the configuration in the file at a path, which must hold well-formed text. -/
def Config.load (files : Files) (path : String) : Except ConfigError Config :=
  match (files.read path).toOption.bind Utf8.decode? with
  | none => .error (.unreadable path)
  | some text =>
    match Config.parse (String.ofList text) with
    | some config => .ok config
    | none => .error .malformed
end Fieldbus
