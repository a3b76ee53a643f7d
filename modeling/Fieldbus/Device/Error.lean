import Fieldbus.BusName

/-! Failures of bus hardware. -/

namespace Fieldbus

inductive HardwareError where
  | spi (reason : String)
  | noResponse
deriving DecidableEq, Inhabited

namespace HardwareError

def message : HardwareError → String
  | spi reason => s!"SPI transfer failed: {reason}"
  | noResponse => "Controller did not respond"

end HardwareError

inductive DeviceError where
  | hardware (error : HardwareError)
  /-- The controller reported another mode than the one asked for. -/
  | notAcknowledged (requested : String) (status : UInt8)
  | notRunning (bus : BusName)
deriving DecidableEq, Inhabited

namespace DeviceError

def message : DeviceError → String
  | hardware error =>
    let error := error.message
    s!"Hardware Error: {error}"
  | notAcknowledged requested status =>
    let status := Numeral.marked 2 status.toNat
    s!"Controller did not acknowledge {requested} mode (status {status})"
  | notRunning bus =>
    let bus := bus.text
    s!"Bus {bus} is not powered on"

end DeviceError
end Fieldbus
