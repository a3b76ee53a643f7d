import Fieldbus.Config
import Fieldbus.Device.Hardware
import Fieldbus.Hub.Basic

/-! From a configuration to a hub: every configured bus gets a device of its kind, and those with a
start section are started in their order. -/

namespace Fieldbus

inductive AssemblyError where
  | configuredTwice (bus : String)
  | unsupportedSpeed (bus : String) (bps : UInt32)
  | device (error : DeviceError)
deriving DecidableEq, Inhabited

def AssemblyError.message : AssemblyError → String
  | configuredTwice bus => s!"Bus {bus} configured twice"
  | unsupportedSpeed bus bps => s!"Bus {bus}: unsupported speed {bps}"
  | device error => error.message

def DeviceKind.make : DeviceKind → Hardware
  | onChip => .onChip {}
  | mcp2515 => .mcp2515 {}

namespace Hub

/-- Adds configured buses to a hub up to the first whose name it has already. -/
def addBuses (h : Hub Hardware) : List BusConfig → Except AssemblyError Unit × Hub Hardware
  | [] => (.ok (), h)
  | c :: rest =>
    if h.buses.any (·.name.text = c.name) then (.error (.configuredTwice c.name), h)
    else
      let bus : Bus Hardware := { name := ⟨c.name⟩, device := c.kind.make }
      ({ h with buses := h.buses ++ [bus] }.say (.busConfigured bus.name c.kind.title)).addBuses
        rest

def assemble (config : Config) (outlet : Logger.Outlet) : Except AssemblyError Unit × Hub Hardware :=
  ({ outlet } : Hub Hardware).addBuses config.buses

/-- Starts configured buses up to the first that fails. -/
def startConfigured {δ : Type} [Device δ] (h : Hub δ) :
    List BusConfig → Except AssemblyError Unit × Hub δ
  | [] => (.ok (), h)
  | c :: rest =>
    match c.start with
    | none => h.startConfigured rest
    | some start =>
      match Speed.ofBps? start.bps with
      | none => (.error (.unsupportedSpeed c.name start.bps), h)
      | some speed =>
        match h.findBus? c.name with
        | none => h.startConfigured rest
        | some i =>
          match h.onBus i (·.start { mode := start.mode, speed }) with
          | (some (.error e), h) => (.error (.device e), h)
          | (_, h) => h.startConfigured rest

end Hub
end Fieldbus
