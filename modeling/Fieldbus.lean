import Fieldbus.Daemon
import Fieldbus.Guard
import Fieldbus.Main
import Fieldbus.Proofs.Capture.Bytewise
import Fieldbus.Proofs.Text.Numeral
import Fieldbus.Proofs.Text.Ascii
import Fieldbus.Proofs.Gvret.Basic
import Fieldbus.Proofs.Gvret.Line
import Fieldbus.Proofs.Capture.Lines
import Fieldbus.Proofs.Capture.Records
import Fieldbus.Proofs.Capture.RoundTrip
import Fieldbus.Proofs.Capture.Calls
import Fieldbus.Proofs.Capture.Bounds
import Fieldbus.Proofs.Capture.Canonical
import Fieldbus.Proofs.Bus.Deferred
import Fieldbus.Proofs.Device.Inner
import Fieldbus.Proofs.Device.Traced
import Fieldbus.Proofs.Bus.Commands
import Fieldbus.Proofs.Bus.Order
import Fieldbus.Proofs.Bus.Transmission
import Fieldbus.Proofs.Device.Flags
import Fieldbus.Proofs.Device.OnChip
import Fieldbus.Proofs.Device.Reception
import Fieldbus.Proofs.Bus.Halt
import Fieldbus.Proofs.Device.Hardware
import Fieldbus.Proofs.Hub.Basic
import Fieldbus.Proofs.Hub.Hosts
import Fieldbus.Proofs.Hub.Reception
import Fieldbus.Proofs.Bus.Operating
import Fieldbus.Proofs.Hub.Wakeup
import Fieldbus.Proofs.Hub.Replay
import Fieldbus.Proofs.Hub.Books
import Fieldbus.Proofs.Device.Mcp2515.Sending
import Fieldbus.Proofs.Device.Sending
import Fieldbus.Proofs.Logger.Filing
import Fieldbus.Proofs.Hub.LoggerSlot
import Fieldbus.Proofs.Hub.Workload
import Fieldbus.Proofs.Hub.Apart
import Fieldbus.Proofs.Device.Mcp2515.Fetching
import Fieldbus.Proofs.Bus.Rejection
import Fieldbus.Proofs.Logger.Filtering
import Fieldbus.Proofs.Logger.FilterText
import Fieldbus.Proofs.Bus.Reporting
import Fieldbus.Proofs.Hub.Restart
import Fieldbus.Proofs.Hub.Subscription
import Fieldbus.Proofs.Device.Mcp2515.Draining
import Fieldbus.Proofs.Device.Mcp2515.Starting
import Fieldbus.Proofs.Hub.Failing
import Fieldbus.Proofs.Device.Mcp2515.Identifier
import Fieldbus.Proofs.Hub.Servicing
