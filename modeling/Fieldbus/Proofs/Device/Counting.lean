import Fieldbus.Device.Hardware
import Fieldbus.Proofs.Bus.Deferred
import Fieldbus.Proofs.Device.Mcp2515.Polling

/-! What devices do not count.  The counters of the frames that were received, sent, deferred and given
up are the affair of hub and bus: whatever fails, no device touches them when it is polled or when its
interrupt handler runs, and its notices record nothing (`Hardware.traffic_poll`,
`Hardware.traffic_interrupt`). -/

namespace Fieldbus

/-- The counter of the frames that are recorded in one direction. -/
def Counters.traffic (c : Counters) : Direction → UInt32
  | .received => c.received
  | .sent => c.sent
  | .deferred => c.delayed
  | .failed => c.transmitOverflow

namespace Statistics

variable (s : Statistics) (direction : Direction)

theorem traffic_countReceived : s.countReceived.counters.traffic direction
    = s.counters.traffic direction + if .received = direction then 1 else 0 := by
  cases direction <;> simp [Counters.traffic, countReceived]

theorem traffic_countSent : s.countSent.counters.traffic direction
    = s.counters.traffic direction + if .sent = direction then 1 else 0 := by
  cases direction <;> simp [Counters.traffic, countSent]

theorem traffic_countDelayed : s.countDelayed.counters.traffic direction
    = s.counters.traffic direction + if .deferred = direction then 1 else 0 := by
  cases direction <;> simp [Counters.traffic, countDelayed]

theorem traffic_countTransmitOverflow : s.countTransmitOverflow.counters.traffic direction
    = s.counters.traffic direction + if .failed = direction then 1 else 0 := by
  cases direction <;> simp [Counters.traffic, countTransmitOverflow]

end Statistics

namespace Mcp2515.Polling

/-- Polling that began with these counters of traffic has not changed them, and has recorded nothing. -/
structure Discreet (traffic : Direction → UInt32) (p : Polling) : Prop where
  traffic : p.statistics.counters.traffic = traffic
  notices : ∀ n ∈ p.notices, n.message? = none

variable {traffic : Direction → UInt32}

theorem Discreet.say {p : Polling} (hp : p.Discreet traffic) {n : Notice} (hn : n.message? = none) :
    Discreet traffic { p with notices := p.notices ++ [n] } := by
  refine ⟨hp.traffic, fun n' hn' => ?_⟩
  rcases List.mem_append.mp hn' with hn' | hn'
  · exact hp.notices n' hn'
  · rw [List.mem_singleton.mp hn']
    exact hn

theorem kept_discreet : Kept (Discreet traffic) := by
  have honLink : ∀ {α : Type} (steps : Steps HardwareError α),
      Keeps (Discreet traffic) (Discreet traffic) (onLink steps) :=
    fun _ => Keeps.self_iff.mpr fun _ hp => ⟨hp.traffic, hp.notices⟩
  have hcount : ∀ f : Statistics → Statistics,
      (∀ s, (f s).counters.traffic = s.counters.traffic) →
      Keeps (Discreet traffic) (Discreet traffic) (count f) :=
    fun f hf _ hp => ⟨(hf _).trans hp.traffic, hp.notices⟩
  exact {
    read := fun _ _ => honLink _
    fetch := fun _ _ => honLink _
    clearErrors := honLink _
    clearOthers := fun _ => honLink _
    countOverflow := hcount _ fun _ => rfl
    noteErrors := fun _ _ _ => hcount _ fun _ => rfl
    say := fun _ hn _ hp => hp.say hn }

end Mcp2515.Polling

namespace OnChip

theorem traffic_interrupt (name : BusName) (s : Statistics) (d : OnChip) :
    (interrupt name s d).statistics.counters.traffic = s.counters.traffic := by
  rw [interrupt]
  dsimp only
  split
  · split <;> rfl
  · rfl

end OnChip

namespace Hardware

theorem traffic_poll (name : BusName) (s : Statistics) (d : Hardware) :
    (Device.poll name s d).statistics.counters.traffic = s.counters.traffic ∧
    ∀ n ∈ (Device.poll name s d).notices, n.message? = none := by
  cases d with
  | onChip d => exact ⟨rfl, fun n hn => absurd hn List.not_mem_nil⟩
  | mcp2515 l =>
    have hp : Mcp2515.Polling.Discreet s.counters.traffic { link := l, statistics := s } :=
      ⟨rfl, fun n hn => absurd hn List.not_mem_nil⟩
    have hpolled := Mcp2515.Polling.kept_discreet.rounds name 3 hp
    exact ⟨hpolled.traffic, hpolled.notices⟩
  | scripted d =>
    refine ⟨?_, fun n hn => absurd hn List.not_mem_nil⟩
    obtain ⟨starts, stops, readies, transmits, polls, calls⟩ := d
    rcases polls with _ | ⟨⟨frame, _ | errors⟩, polls⟩ <;> rfl

theorem traffic_interrupt (name : BusName) (s : Statistics) (d : Hardware) :
    (Device.interrupt name s d).statistics.counters.traffic = s.counters.traffic := by
  cases d with
  | onChip d => exact OnChip.traffic_interrupt name s d
  | mcp2515 l => rfl
  | scripted d => rfl

end Hardware
end Fieldbus
