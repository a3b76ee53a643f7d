import Fieldbus.Station.Basic

/-! The passing of time at a station.  Time passes only when somebody waits for it and nobody is
ready for a turn; it then jumps to the next alarm, which is that of the poller, of a write that
waits, or of the operator. -/

namespace Fieldbus.Station

variable {δ : Type}

/-- The runners with an alarm, and its time. -/
def alarms (s : Station δ) : List (Nat × Runner) :=
  (s.poller.map fun p => (p.next, Runner.poller)).toList
    ++ s.writes.filterMap fun w => w.deadline?.map fun deadline => (deadline, .write w.ticket)

def nextAlarm? (s : Station δ) : Option Nat := (s.alarms.map (·.1)).min?

def alarmed (s : Station δ) : List Runner :=
  ((s.alarms.filter (·.1 ≤ s.now)).mergeSort (·.1 ≤ ·.1)).map (·.2)

def ring (s : Station δ) : Station δ := s.makeAllReady s.alarmed

section Passing

variable [Device δ]

/-- Moves the clock ahead in one jump, whatever happens on the way. -/
def advance (s : Station δ) (duration : Nat) : Station δ :=
  ({ s with now := s.now + duration }.settle.ring).settle

/-- Lets time pass, in at most `n` jumps, until `isOver` holds or the deadline is reached.  At the
deadline the one who waits goes on before anyone else has a turn. -/
def passTime (s : Station δ) (isOver : Station δ → Bool) (deadline : Nat) : Nat → Station δ
  | 0 => s
  | n + 1 =>
    let s := s.settle
    if isOver s then s
    else
      let next := min deadline (s.nextAlarm?.getD deadline)
      let s := { s with now := max s.now next }.ring
      if deadline ≤ next then s else s.passTime isOver deadline n

/-- Lets time pass until `isOver` holds, at most to the deadline.  Every jump takes a millisecond or
more. -/
def await (s : Station δ) (isOver : Station δ → Bool) (deadline : Nat) : Station δ :=
  s.passTime isOver deadline (deadline - s.now + 1)

end Passing

end Fieldbus.Station
