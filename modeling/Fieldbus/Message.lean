import Fieldbus.Counters
import Fieldbus.Frame
import Fieldbus.Timestamp

/-! What is recorded: frames on their way through a bus, counters, and remarks. -/

namespace Fieldbus

inductive StatusKind where
  | error
  | statistics
deriving DecidableEq, Inhabited

inductive RemarkKind where
  | comment
  | config
  | event
deriving DecidableEq, Inhabited

inductive Direction where
  | received
  | sent
  | deferred
  | failed
deriving DecidableEq, Inhabited

inductive Entry where
  | frame (direction : Direction) (frame : Frame)
  | status (kind : StatusKind) (counters : Counters)
  | remark (kind : RemarkKind) (text : String)
deriving DecidableEq

instance : Inhabited Entry := ⟨.remark .comment ""⟩

namespace Direction

def tag : Direction → String
  | received => "rx"
  | sent => "tx"
  | deferred => "txq"
  | failed => "txfail"

end Direction

namespace Entry

def frame? : Entry → Option Frame
  | frame _ f => some f
  | _ => none

/-- The frame of an entry that records traffic on the wire. -/
def traffic? : Entry → Option Frame
  | frame .received f => some f
  | frame .sent f => some f
  | _ => none

/-- The word that names the kind of entry. -/
def tag : Entry → String
  | frame direction _ => direction.tag
  | status .error _ => "error"
  | status .statistics _ => "stats"
  | remark .comment _ => "comment"
  | remark .config _ => "config"
  | remark .event _ => "event"

def body : Entry → String
  | frame _ f => f.text
  | status _ c => c.text
  | remark _ t => t

end Entry

structure Message where
  origin : Option BusName
  time : Timestamp
  entry : Entry
deriving DecidableEq, Inhabited

namespace Message

/-- Time, bus (a dash for none), tag and body. -/
def text (m : Message) : String :=
  let time := m.time.text
  let origin := (m.origin.map BusName.text).getD "-"
  let tag := m.entry.tag
  let body := m.entry.body
  s!"{time} {origin} {tag} {body}"

end Message
end Fieldbus
