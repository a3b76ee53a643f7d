import Fieldbus.Proofs.Bus.Rejection
import Fieldbus.Proofs.Device.Mcp2515.Copies

/-! Writing again after a failure.  A write to a bus with an MCP2515 may fail when its frame is in the chip
already.  Such a frame never goes out, whatever happens later: the chip sends a frame no more often than it
and the bus had it, and writes of it did not fail (`Undertaking.among_transmitted_events`). -/

namespace Fieldbus

namespace Mcp2515

/-- What happens to the chip and to the link from outside. -/
inductive Link.Event where
  | chip (e : Chip.Event)
  /-- The chip ignores resets and requests for another mode, or it no longer does. -/
  | refuse (value : Bool)
  /-- Which of the coming transactions fail. -/
  | fail (failures : List Bool)

def Link.event (l : Link) : Event → Link
  | .chip e => { l with chip := l.chip.event e }
  | .refuse value => { l with chip.refusing := value }
  | .fail failures => { l with failures }

/-- From outside, frames only move from the buffers to the bus. -/
theorem Link.frames_event (l : Link) (e : Event) : (l.event e).chip.frames.Perm l.chip.frames := by
  cases e with
  | chip e =>
    cases e with
    | inject f => exact (l.chip.unmoved_inject f).frames ▸ .refl _
    | setErrors t r => exact (l.chip.unmoved_setErrorCounters t r).frames ▸ .refl _
    | hold value => exact (l.chip.unmoved_hold value).frames ▸ .refl _
    | release => exact l.chip.accounts_frames.release.frames
  | refuse value => exact .refl _
  | fail failures => exact .refl _

end Mcp2515

/-- A bus with an MCP2515, and the frames of the writes to it that did not fail. -/
structure Undertaking where
  bus : Bus Mcp2515.Link
  undertaken : List Frame := []

inductive Undertaking.Event where
  | turn (t : Turn)
  | command (c : Command)
  | poll
  /-- The interrupt handler runs. -/
  | handle
  /-- The statistics change otherwise, as received frames are counted or the counters are reported. -/
  | count (statistics : Statistics)
  | link (e : Mcp2515.Link.Event)

namespace Undertaking

def event (r : Undertaking) : Event → Undertaking
  | .turn t =>
    { bus := (r.bus.act t).bus, undertaken := r.undertaken ++ r.bus.undertaken t }
  | .command c => { r with bus := (r.bus.obey c).bus }
  | .poll => { r with bus := r.bus.poll.bus }
  | .handle => { r with bus := r.bus.handled }
  | .count statistics => { r with bus := { r.bus with statistics } }
  | .link e => { r with bus := { r.bus with device := r.bus.device.event e } }

def events (r : Undertaking) (events : List Event) : Undertaking := events.foldl event r

/-- The copies of a frame on the chip and in the bus. -/
def copies (r : Undertaking) (g : Frame) : Nat :=
  r.bus.copies (fun l => g.among l.chip.frames) g

variable {r : Undertaking} {g : Frame} {n : Nat}

/-- A frame gets another copy only by a write of it that does not fail. -/
theorem copies_event_le (h : r.copies g ≤ n + g.among r.undertaken) (e : Event) :
    (r.event e).copies g ≤ n + g.among (r.event e).undertaken := by
  have hlink := Mcp2515.Link.accountable g
  cases e with
  | turn t =>
    have hact := Bus.copies_act_le hlink r.bus t
    show _ ≤ n + g.among (r.undertaken ++ r.bus.undertaken t)
    rw [Frame.among_append, ← Nat.add_assoc]
    exact Nat.le_trans hact (Nat.add_le_add_right h _)
  | command c => exact Nat.le_trans (Bus.copies_obey_le hlink r.bus c) h
  | poll => exact Nat.le_trans (Bus.copies_poll_le hlink r.bus) h
  | handle => exact Nat.le_trans (Bus.copies_handled_le hlink r.bus) h
  | count statistics => exact h
  | link e =>
    have hle := g.among_le (r.bus.device.frames_event e).subperm
    exact Nat.le_trans (Nat.add_le_add_right hle _) h

theorem copies_events_le (h : r.copies g ≤ n + g.among r.undertaken) (events : List Event) :
    (r.events events).copies g ≤ n + g.among (r.events events).undertaken := by
  induction events generalizing r with
  | nil => exact h
  | cons e events ih => exact ih (copies_event_le h e)

/-- Whatever happens, the chip has sent a frame no more often than it was there before, sent or about to
be, on the chip or in the bus, and was written since without failure. -/
theorem among_transmitted_events (b : Bus Mcp2515.Link) (events : List Event) (g : Frame) :
    let r := ({ bus := b } : Undertaking).events events
    g.among r.bus.device.chip.transmitted
      ≤ g.among (b.device.chip.frames ++ b.deferred.held ++ r.undertaken) := by
  intro r
  have hcopies : r.copies g ≤ ({ bus := b } : Undertaking).copies g + g.among r.undertaken :=
    copies_events_le (Nat.le_add_right _ _) events
  have hsent : g.among r.bus.device.chip.transmitted ≤ r.copies g := by
    have hframes := g.among_le (List.sublist_append_left r.bus.device.chip.transmitted
      r.bus.device.chip.outbox).subperm
    exact Nat.le_trans hframes (Nat.le_add_right _ _)
  rw [Frame.among_append, Frame.among_append]
  exact Nat.le_trans hsent hcopies

/-- The frame is in the chip when the request to send it fails.  It goes out once all the same. -/
example :
    let f : Frame := ⟨none, 0x100, .standard, [1, 2], by decide, by decide⟩
    let r := ({ bus := { name := .numbered 1, device := {} } } : Undertaking).events
      [.command (.start ⟨.active, .kbps500⟩), .link (.fail [false, false, true]),
        .turn (.write f false 0), .turn (.write f false 0)]
    r.undertaken = [f] ∧ r.bus.device.chip.transmitted = [f] := by
  decide +kernel

end Undertaking
end Fieldbus
