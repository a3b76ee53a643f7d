import Fieldbus.Device.Mcp2515.Driver
import Fieldbus.Device.OnChip
import Fieldbus.Device.Scripted

/-! Any of the known devices. -/

namespace Fieldbus

inductive Hardware where
  | onChip (d : OnChip)
  | mcp2515 (l : Mcp2515.Link)
  | scripted (d : Scripted)
deriving Inhabited

namespace Hardware

/-- The same answer, of a device in its place among the kinds. -/
def wrap {α δ : Type} (kind : δ → Hardware) (answer : α × δ) : α × Hardware :=
  (answer.1, kind answer.2)

def wrapPolled {δ : Type} (kind : δ → Hardware) (p : Polled δ) : Polled Hardware :=
  { device := kind p.device, statistics := p.statistics, frame := p.frame, notices := p.notices }

def wrapHandled {δ : Type} (kind : δ → Hardware) (h : Handled δ) : Handled Hardware :=
  { device := kind h.device, statistics := h.statistics, requests := h.requests }

instance : Device Hardware where
  start setup
    | onChip d => wrap onChip (Device.start setup d)
    | mcp2515 l => wrap mcp2515 (Device.start setup l)
    | scripted d => wrap scripted (Device.start setup d)
  stop
    | onChip d => wrap onChip (Device.stop d)
    | mcp2515 l => wrap mcp2515 (Device.stop l)
    | scripted d => wrap scripted (Device.stop d)
  ready
    | onChip d => wrap onChip (Device.ready d)
    | mcp2515 l => wrap mcp2515 (Device.ready l)
    | scripted d => wrap scripted (Device.ready d)
  transmit f
    | onChip d => wrap onChip (Device.transmit f d)
    | mcp2515 l => wrap mcp2515 (Device.transmit f l)
    | scripted d => wrap scripted (Device.transmit f d)
  poll name s
    | onChip d => wrapPolled onChip (Device.poll name s d)
    | mcp2515 l => wrapPolled mcp2515 (Device.poll name s l)
    | scripted d => wrapPolled scripted (Device.poll name s d)
  backlog
    | onChip d => Device.backlog d
    | mcp2515 l => Device.backlog l
    | scripted d => Device.backlog d
  asserted
    | onChip d => Device.asserted d
    | mcp2515 l => Device.asserted l
    | scripted d => Device.asserted d
  interrupt name s
    | onChip d => wrapHandled onChip (Device.interrupt name s d)
    | mcp2515 l => wrapHandled mcp2515 (Device.interrupt name s l)
    | scripted d => wrapHandled scripted (Device.interrupt name s d)
  rounds
    | onChip d => Device.rounds d
    | mcp2515 l => Device.rounds l
    | scripted d => Device.rounds d

end Hardware
end Fieldbus
