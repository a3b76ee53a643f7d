import Fieldbus.Proofs.Device.Mcp2515.Driver

/-! Rounds of polling, in parts.  A round reads the flags and looks for a frame; what follows only notes
errors and clears flags (`Polling.round_eq`).  So a property that the steps of the second part keep is
kept when a round finishes (`Polling.Notes.finish`), and one that fetching keeps too holds after polling
if it held before, whatever fails (`Polling.Kept.rounds`). -/

namespace Fieldbus.Mcp2515.Polling

variable {α : Type} {p : Polling}

theorem leads_onLink {steps : Steps HardwareError α} {Q : Except HardwareError α → Polling → Prop}
    (h : Leads steps p.link fun result link => Q result { p with link }) :
    Leads (onLink steps) p Q :=
  h

theorem keeps_onLink {steps : Steps HardwareError α} {P E : Link → Prop} (h : Keeps P E steps) :
    Keeps (fun p => P p.link) (fun p => E p.link) (onLink steps) :=
  fun p hp => leads_onLink (h p.link hp)

/-! ### The parts of a round -/

/-- What is left to do when overflows have been counted. -/
def noteCounters (flags errors : UInt8) : Round Unit := do
  let counters ← onLink (Steps.fetch [Command.read, Address.transmitErrors] 2)
  count fun s => s.noteErrors (flags.toUInt32 <<< 8 ||| errors.toUInt32)
    (counters.tail.headD 0).toUInt32 (counters.headD 0).toUInt32
  onLink (Steps.bitModify Address.errorFlags (Flag.overflow0 ||| Flag.overflow1) 0)

theorem noteErrors_eq (origin : BusName) (flags errors : UInt8) :
    noteErrors origin flags errors = (do
      onlyIf (errors &&& Flag.overflow1 ≠ 0) do
        count Statistics.countReceiveOverflow
        say (.receiveOverflow origin)
      onlyIf (errors &&& Flag.overflow0 ≠ 0) (count Statistics.countReceiveOverflow)
      noteCounters flags errors) := by
  simp only [onlyIf_bind, bind_assoc]
  rfl

/-- What a round does when it has looked for a frame. -/
def finish (origin : BusName) (flags errors : UInt8) : Round Unit := do
  let errorBits := flags &&& (Flag.messageError ||| Flag.error)
  let others := flags &&& ~~~ (Flag.received0 ||| Flag.received1)
  onlyIf (errorBits ≠ 0) (noteErrors origin errorBits errors)
  onlyIf (others ≠ 0) (onLink (Steps.bitModify Address.interruptFlags others 0))

theorem round_eq (origin : BusName) : round origin = (do
    let seen ← onLink (Steps.fetch [Command.read, Address.interruptFlags] 2)
    let received ← fetchFrame origin (seen.headD 0)
    finish origin (seen.headD 0) (seen.tail.headD 0)
    return received) := by
  simp only [finish, bind_assoc]
  simp only [onlyIf_bind]
  rfl

/-- Only the commands that read a receive buffer are sent for a frame. -/
theorem readCommand?_eq_some {flags command : UInt8} (h : readCommand? flags = some command) :
    ∃ n ∈ [(0 : UInt8), 1], command = Command.readReceive ||| n <<< 2 := by
  unfold readCommand? at h
  split_ifs at h
  · obtain rfl := Option.some.inj h
    exact ⟨0, by decide, rfl⟩
  · obtain rfl := Option.some.inj h
    exact ⟨1, by decide, rfl⟩

/-! ### What the parts keep -/

/-- The steps that finish a round keep `P`, unless they fail, and then `E` holds. -/
structure Notes (P E : Polling → Prop) : Prop where
  read : ∀ address n, Keeps P E (onLink (Steps.fetch [Command.read, address] n))
  clearErrors : Keeps P E
    (onLink (Steps.bitModify Address.errorFlags (Flag.overflow0 ||| Flag.overflow1) 0))
  clearOthers : ∀ flags : UInt8, Keeps P E (onLink (Steps.bitModify Address.interruptFlags
    (flags &&& ~~~ (Flag.received0 ||| Flag.received1)) 0))
  countOverflow : Keeps P E (count Statistics.countReceiveOverflow)
  noteErrors : ∀ flags receiveErrors transmitErrors,
    Keeps P E (count fun s => s.noteErrors flags receiveErrors transmitErrors)
  say : ∀ n : Notice, n.message? = none → Keeps P E (say n)

/-- The steps that rounds are made of keep the property. -/
structure Kept (P : Polling → Prop) : Prop extends Notes P P where
  fetch : ∀ n ∈ [(0 : UInt8), 1],
    Keeps P P (onLink (Steps.fetch [Command.readReceive ||| n <<< 2] Chip.imageLength))

theorem Notes.finish {P E : Polling → Prop} (h : Notes P E) (origin : BusName)
    (flags errors : UInt8) : Keeps P E (finish origin flags errors) := by
  have hcounters : ∀ errorBits, Keeps P E (noteCounters errorBits errors) := fun _ =>
    .bind (h.read _ _) fun _ => .bind (h.noteErrors _ _ _) fun _ => h.clearErrors
  have hnoted : ∀ errorBits, Keeps P E (Polling.noteErrors origin errorBits errors) := by
    intro errorBits
    rw [noteErrors_eq]
    exact .bind (.onlyIf (.bind h.countOverflow fun _ => h.say _ rfl)) fun _ =>
      .bind (.onlyIf h.countOverflow) fun _ => hcounters errorBits
  exact .bind (.onlyIf (hnoted _)) fun _ => .onlyIf (h.clearOthers flags)

namespace Kept

variable {P : Polling → Prop}

theorem fetchFrame (h : Kept P) (origin : BusName) (flags : UInt8) :
    Keeps P P (fetchFrame origin flags) := by
  rw [Polling.fetchFrame]
  split
  · exact .pure _
  · next command hcommand =>
    obtain ⟨n, hn, rfl⟩ := readCommand?_eq_some hcommand
    refine .bind (h.fetch n hn) fun record => ?_
    split <;> exact .pure _

theorem round (h : Kept P) (origin : BusName) : Keeps P P (round origin) := by
  rw [round_eq]
  exact .bind (h.read _ _) fun _ => .bind (h.fetchFrame _ _) fun _ =>
    .bind (h.finish _ _ _) fun _ => .pure _

theorem rounds (h : Kept P) (origin : BusName) (n : Nat) {p : Polling} (hp : P p) :
    P (rounds origin n p).2 := by
  induction n generalizing p with
  | zero => exact hp
  | succ n ih =>
    have hround : P ((Polling.round origin).run.run p).2 :=
      Keeps.self_iff.mp (h.round origin) p hp
    rw [Polling.rounds]
    rcases hrun : (Polling.round origin).run.run p with ⟨e | _ | f | _, p'⟩
    all_goals rw [hrun] at hround
    · exact h.say _ rfl p' hround
    · exact hround
    · exact hround
    · exact ih (h.say _ rfl p' hround)

end Kept
end Fieldbus.Mcp2515.Polling
