/-! How a bus is operated: its mode, its speed and its power. -/

namespace Fieldbus

inductive BusMode where
  /-- Receives only; never acknowledges or transmits. -/
  | listen
  | active
deriving DecidableEq, Inhabited

namespace BusMode

def text : BusMode → String
  | listen => "listen"
  | active => "active"

def ofText? : String → Option BusMode
  | "listen" => some listen
  | "active" => some active
  | _ => none

theorem ofText?_text (m : BusMode) : ofText? m.text = some m := by cases m <;> rfl

end BusMode

/-- The supported speeds, in kilobits per second. -/
inductive Speed where
  | kbps100
  | kbps125
  | kbps250
  | kbps500
  | kbps1000
deriving DecidableEq, Inhabited

namespace Speed

def bps : Speed → UInt32
  | kbps100 => 100000
  | kbps125 => 125000
  | kbps250 => 250000
  | kbps500 => 500000
  | kbps1000 => 1000000

def ofBps? (bps : UInt32) : Option Speed :=
  [kbps100, kbps125, kbps250, kbps500, kbps1000].find? (·.bps = bps)

theorem ofBps?_bps (s : Speed) : ofBps? s.bps = some s := by cases s <;> decide

end Speed

structure Setup where
  mode : BusMode
  speed : Speed
deriving DecidableEq, Inhabited

/-- The power state of a bus; it runs only when it is on. -/
inductive Power where
  | on
  | sleep
  | deepSleep
  | off
deriving DecidableEq, Inhabited

namespace Power

def text : Power → String
  | on => "on"
  | sleep => "sleep"
  | deepSleep => "deepsleep"
  | off => "off"

def ofText? : String → Option Power
  | "on" => some on
  | "sleep" => some sleep
  | "deepsleep" => some deepSleep
  | "off" => some off
  | _ => none

theorem ofText?_text (p : Power) : ofText? p.text = some p := by cases p <;> rfl

end Power
end Fieldbus
