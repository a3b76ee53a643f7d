import Fieldbus.Proofs.Device.Mcp2515.Sending
import Fieldbus.Proofs.Device.OnChip

/-! What a driver accepts is what its hardware sends.  A run keeps the frames that the driver accepted
(`Sender`).  At any time those that the hardware has sent since a start, with those that wait in its
transmit buffers, are the accepted ones without their origins: in some order on an MCP2515, which has
three buffers, and in their order on the on-chip controller, which has one (`Sender.sent_operations`). -/

namespace Fieldbus

/-- A device, and the frames that its driver accepted. -/
structure Sender (δ : Type) where
  device : δ
  accepted : List Frame := []

def Sender.transmit {δ : Type} [Device δ] (r : Sender δ) (f : Frame) : Sender δ :=
  let (answer, device) := Device.transmit f r.device
  match answer with
  | .ok .accepted => { device, accepted := r.accepted ++ [f] }
  | _ => { r with device }

namespace Mcp2515.Link

/-! ### A chip with three buffers -/

/-- What may happen to a chip that has been started and to its driver. -/
inductive Operation where
  | transmit (f : Frame)
  | poll (origin : BusName) (s : Statistics)
  | inject (f : Frame)
  | hold (holding : Bool)
  | release

def operate (r : Sender Link) : Operation → Sender Link
  | .transmit f => r.transmit f
  | .poll origin s => { r with device := (Device.poll origin s r.device).device }
  | .inject f => { r with device.chip := (r.device.chip.inject f).2 }
  | .hold holding => { r with device.chip.holding := holding }
  | .release => { r with device.chip := r.device.chip.release }

def run (r : Sender Link) (operations : List Operation) : Sender Link := operations.foldl operate r

variable {l : Link}

theorem transmit_eq (h : l.failures = []) (f : Frame) :
    (Device.transmit f l).1 = .ok (l.chip.take f).1 ∧
    (Device.transmit f l).2.chip = (l.chip.take f).2 ∧ (Device.transmit f l).2.failures = [] := by
  obtain ⟨hanswer, hchip, hfailures⟩ := runs_transmit f l.chip l ⟨rfl, h⟩
  exact ⟨hanswer, hchip, hfailures⟩

/-- A frame is refused if and only if every buffer waits.  One that is accepted disturbs neither a
buffer that waits nor reception. -/
theorem transmit_careful (h : l.failures = []) (f : Frame) :
    let t := Device.transmit f l
    t.1 = .ok (if Chip.transmitBuffers.all l.chip.isRequested then .busy else .accepted) ∧
    (∀ n ∈ Chip.transmitBuffers, l.chip.isRequested n = true →
      t.2.chip.buffer n = l.chip.buffer n) ∧
    l.chip.Undisturbed t.2.chip := by
  intro t
  obtain ⟨hanswer, hchip, -⟩ := transmit_eq h f
  rw [hanswer, hchip]
  refine ⟨?_, fun n hn => l.chip.buffer_take f hn, l.chip.undisturbed_take f⟩
  obtain ⟨hall, htake⟩ | ⟨hall, n, -, -, htake⟩ := l.chip.take_cases f
  · rw [htake, hall, if_pos rfl]
  · rw [htake, hall, if_neg Bool.false_ne_true]

/-- A link without failures, to a chip that transmission does not tell from this one. -/
structure Unmoved (c : Chip) (l : Link) : Prop where
  failures : l.failures = []
  chip : c.Unmoved l.chip

theorem kept_unmoved (c : Chip) : Polling.Kept fun p => Unmoved c p.link := by
  have hruns : ∀ {α : Type} {steps : Steps HardwareError α},
      (∀ c, ∃ result c', steps.Runs c result c' ∧ c.Unmoved c') →
      Keeps (fun p => Unmoved c p.link) (fun p => Unmoved c p.link) (Polling.onLink steps) := by
    intro α steps h
    refine Keeps.self_iff.mpr fun p hp => ?_
    obtain ⟨result, c', hruns, hc'⟩ := h p.link.chip
    refine Polling.leads_onLink ((hruns p.link ⟨rfl, hp.failures⟩).imp ?_)
    rintro _ link ⟨-, hlink⟩
    exact ⟨hlink.failures, hlink.chip ▸ hp.chip.trans hc'⟩
  have hclear : ∀ {address : UInt8} (mask), Chip.slot address ∉ Chip.sending →
      Keeps (fun p => Unmoved c p.link) (fun p => Unmoved c p.link)
        (Polling.onLink (Steps.bitModify address mask 0)) :=
    fun mask h => hruns fun c => ⟨_, _, Steps.Runs.bitModify c _ mask 0, c.unmoved_write _ h⟩
  exact {
    read := fun address n => hruns fun c =>
      ⟨_, c, Steps.Runs.fetchRegisters c address n, .refl c⟩
    fetch := fun n hn => hruns fun c =>
      ⟨_, _, Steps.Runs.fetchBuffer c hn, c.unmoved_set _ (by decide +kernel)⟩
    clearErrors := hclear _ (by decide +kernel)
    clearOthers := fun _ => hclear _ (by decide +kernel)
    countOverflow := fun _ hp => hp
    noteErrors := fun _ _ _ _ hp => hp
    say := fun _ _ _ hp => hp }

theorem unmoved_poll (h : l.failures = []) (origin : BusName) (s : Statistics) :
    Unmoved l.chip (Device.poll origin s l).device :=
  (kept_unmoved l.chip).rounds origin 3 (p := { link := l, statistics := s }) ⟨h, .refl _⟩

/-- The chip accounts for the frames that its driver accepted. -/
structure Accounts (before : List Frame) (r : Sender Link) : Prop where
  failures : r.device.failures = []
  chip : r.device.chip.Accounts before (r.accepted.map Frame.anonymous)

namespace Accounts

variable {before : List Frame} {r : Sender Link}

theorem transmit (h : Accounts before r) (f : Frame) : Accounts before (r.transmit f) := by
  obtain ⟨hanswer, hchip, hfailures⟩ := transmit_eq h.failures f
  have htake := h.chip.take f
  rw [← hchip] at htake
  rw [Sender.transmit]
  rcases htransmit : Device.transmit f r.device with ⟨answer, device⟩
  rw [htransmit] at hanswer hfailures htake
  obtain rfl : answer = _ := hanswer
  cases hattempt : (r.device.chip.take f).1 with
  | accepted =>
    rw [hattempt, if_pos rfl] at htake
    refine ⟨hfailures, ?_⟩
    rw [List.map_append]
    exact htake
  | busy =>
    rw [hattempt, if_neg nofun] at htake
    exact ⟨hfailures, htake⟩

theorem operate (h : Accounts before r) (o : Operation) : Accounts before (operate r o) := by
  cases o with
  | transmit f => exact h.transmit f
  | poll origin s =>
    have hpoll := unmoved_poll h.failures origin s
    exact ⟨hpoll.failures, h.chip.unmoved hpoll.chip⟩
  | inject f => exact ⟨h.failures, h.chip.unmoved (r.device.chip.unmoved_inject f)⟩
  | hold holding => exact ⟨h.failures, h.chip.unmoved (r.device.chip.unmoved_hold holding)⟩
  | release => exact ⟨h.failures, h.chip.release⟩

theorem run (h : Accounts before r) (operations : List Operation) :
    Accounts before (run r operations) := by
  induction operations generalizing r with
  | nil => exact h
  | cons o operations ih => exact ih (h.operate o)

end Accounts
end Mcp2515.Link

/-! ### A controller with one buffer -/

/-- The frame that goes out of a mailbox is the one it was made of. -/
theorem Mailbox.outgoing?_ofFrame (f : Frame) :
    (Mailbox.ofFrame f).outgoing? = some f.anonymous := by
  have hle := f.dlc_le
  have hlength : (Mailbox.infoOf f &&& 0x0f).toNat = f.dlc := by
    unfold Mailbox.infoOf
    cases f.format <;> interval_cases f.dlc <;> rfl
  have hformat : (Mailbox.ofFrame f).format = f.format := by
    show (if Mailbox.infoOf f &&& 0x80 ≠ 0 then _ else _) = _
    unfold Mailbox.infoOf
    cases f.format <;> interval_cases f.dlc <;> rfl
  have hdata : ((f.data ++ List.replicate 8 0).take 8).take (min f.dlc 8) = f.data := by
    rw [List.take_take, Nat.min_eq_left hle, Nat.min_eq_left hle]
    exact List.take_left
  show (Frame.make none f.id (Mailbox.ofFrame f).format
    (((f.data ++ List.replicate 8 0).take 8).take
      (min (Mailbox.infoOf f &&& 0x0f).toNat 8))).toOption = _
  rw [hlength, hformat, hdata, Frame.make, dif_pos f.length_le, dif_pos f.id_le]
  rfl

/-- The frame that waits to be sent. -/
def Controller.outbox (c : Controller) : List Frame := (c.pending.bind Mailbox.outgoing?).toList

namespace OnChip

inductive Operation where
  | transmit (f : Frame)
  | hold (holding : Bool)
  | complete

def operate (r : Sender OnChip) : Operation → Sender OnChip
  | .transmit f => r.transmit f
  | .hold holding => { r with device.controller.holding := holding }
  | .complete => { r with device.controller := r.device.controller.complete }

def run (r : Sender OnChip) (operations : List Operation) : Sender OnChip :=
  operations.foldl operate r

/-- A start that succeeds has dropped what waited to be sent. -/
theorem pending_start {d : OnChip} {setup : Setup} (h : (Device.start setup d).1 = .ok ()) :
    (Device.start setup d).2.controller.pending = none ∧
    (Device.start setup d).2.freeReadings = d.freeReadings := by
  have hstart : Device.start setup d = start setup d := rfl
  rw [hstart] at h ⊢
  cases hfails : d.controller.transceiverFails with
  | true =>
    simp [start, Controller.setReset, Controller.configure, Controller.setTransceiver, hfails] at h
  | false =>
    simp only [start, Controller.setReset, Controller.configure, Controller.setTransceiver, hfails,
      Bool.false_eq_true, if_true, if_false]
    split <;> exact ⟨rfl, rfl⟩

theorem transmit_eq {d : OnChip} (h : d.freeReadings = []) (f : Frame) :
    Device.transmit f d = if d.controller.pending.isSome then (.ok .busy, d)
      else (.ok .accepted, { d with controller := (d.controller.load (.ofFrame f)).request }) := by
  have hfree : d.queryFree = (d.controller.pending.isNone, d) := queryFree_eq h
  show transmit f d = _
  rw [transmit, hfree]
  cases d.controller.pending <;> rfl

/-- The controller accounts for the frames that its driver accepted. -/
structure Accounts (before : List Frame) (r : Sender OnChip) : Prop where
  freeReadings : r.device.freeReadings = []
  controller : ∃ added, r.device.controller.transmitted = before ++ added ∧
    added ++ r.device.controller.outbox = r.accepted.map Frame.anonymous

namespace Accounts

variable {before : List Frame} {r : Sender OnChip}

theorem complete (h : Accounts before r) :
    Accounts before { r with device.controller := r.device.controller.complete } := by
  obtain ⟨added, htransmitted, haccepted⟩ := h.controller
  rw [Controller.complete]
  cases hpending : r.device.controller.pending with
  | none => exact ⟨h.freeReadings, added, htransmitted, haccepted⟩
  | some m =>
    refine ⟨h.freeReadings, added ++ m.outgoing?.toList, ?_, ?_⟩
    · show r.device.controller.transmitted ++ m.outgoing?.toList = _
      rw [htransmitted, List.append_assoc]
    · rw [Controller.outbox, hpending] at haccepted
      exact (List.append_nil _).trans haccepted

theorem transmit (h : Accounts before r) (f : Frame) : Accounts before (r.transmit f) := by
  obtain ⟨added, htransmitted, haccepted⟩ := h.controller
  rw [Sender.transmit, transmit_eq h.freeReadings]
  cases hpending : r.device.controller.pending with
  | some m => exact ⟨h.freeReadings, added, htransmitted, haccepted⟩
  | none =>
    let loaded : Sender OnChip :=
      { device := { r.device with controller := r.device.controller.load (.ofFrame f) }
        accepted := r.accepted ++ [f] }
    have hloaded : Accounts before loaded := by
      refine ⟨h.freeReadings, added, htransmitted, ?_⟩
      rw [Controller.outbox, hpending] at haccepted
      rw [List.map_append, ← haccepted, Controller.outbox]
      show added ++ (Mailbox.outgoing? (.ofFrame f)).toList = _
      rw [Mailbox.outgoing?_ofFrame, Option.bind_none, Option.toList_none, List.append_nil]
      rfl
    show Accounts before { loaded with device.controller := loaded.device.controller.request }
    rw [Controller.request]
    split
    · exact hloaded
    · exact hloaded.complete

theorem operate (h : Accounts before r) (o : Operation) : Accounts before (operate r o) := by
  cases o with
  | transmit f => exact h.transmit f
  | hold holding => exact ⟨h.freeReadings, h.controller⟩
  | complete => exact h.complete

theorem run (h : Accounts before r) (operations : List Operation) :
    Accounts before (run r operations) := by
  induction operations generalizing r with
  | nil => exact h
  | cons o operations ih => exact ih (h.operate o)

end Accounts
end OnChip

/-- What the hardware has sent since a start that succeeded, with what waits to be sent, is what its
driver accepted, whatever else happens.  On an MCP2515 a frame is refused if and only if all three
buffers wait, and neither a buffer that waits nor reception is disturbed by one that is accepted.  The
on-chip controller keeps the order, and its driver refuses a frame if and only if another one waits. -/
theorem Sender.sent_operations :
    (∀ (l : Mcp2515.Link) (setup : Setup) (operations : List Mcp2515.Link.Operation),
      l.failures = [] → (Device.start setup l).1 = .ok () →
      let started := (Device.start setup l).2
      let r := Mcp2515.Link.run { device := started } operations
      let chip := r.device.chip
      (∃ added, chip.transmitted = started.chip.transmitted ++ added ∧
        (added ++ chip.outbox).Perm (r.accepted.map Frame.anonymous)) ∧
      ∀ f, let t := Device.transmit f r.device
        t.1 = .ok (if Mcp2515.Chip.transmitBuffers.all chip.isRequested then .busy else .accepted) ∧
        (∀ n ∈ Mcp2515.Chip.transmitBuffers, chip.isRequested n = true →
          t.2.chip.buffer n = chip.buffer n) ∧
        chip.Undisturbed t.2.chip) ∧
    (∀ (d : OnChip) (setup : Setup) (operations : List OnChip.Operation),
      d.freeReadings = [] → (Device.start setup d).1 = .ok () →
      let started := (Device.start setup d).2
      let r := OnChip.run { device := started } operations
      let controller := r.device.controller
      (∃ added, controller.transmitted = started.controller.transmitted ++ added ∧
        added ++ controller.outbox = r.accepted.map Frame.anonymous) ∧
      ∀ f, (Device.transmit f r.device).1
        = .ok (if controller.pending.isSome then .busy else .accepted)) := by
  constructor
  · intro l setup operations hfailures hok started r chip
    obtain ⟨hlink, hfresh⟩ := Mcp2515.fresh_start hfailures hok
    have hstarted : Mcp2515.Link.Accounts started.chip.transmitted { device := started } :=
      ⟨hlink, hfresh.accounts⟩
    have hr := hstarted.run operations
    exact ⟨hr.chip, Mcp2515.Link.transmit_careful hr.failures⟩
  · intro d setup operations hreadings hok started r controller
    obtain ⟨hpending, hkept⟩ := OnChip.pending_start hok
    have hstarted : OnChip.Accounts started.controller.transmitted { device := started } := by
      refine ⟨hkept.trans hreadings, [], (List.append_nil _).symm, ?_⟩
      rw [Controller.outbox, hpending]
      rfl
    have hr := hstarted.run operations
    refine ⟨hr.controller, fun f => ?_⟩
    rw [OnChip.transmit_eq hr.freeReadings]
    cases controller.pending.isSome <;> rfl

theorem Sender.sent_operations_of_two :
    let f : Frame := ⟨some (.numbered 1), 0x1abcdef, .extended, [1, 2, 3], by decide, by decide⟩
    let g : Frame := ⟨none, 0x123, .standard, [7], by decide, by decide⟩
    let setup : Setup := ⟨.active, .kbps500⟩
    let started := (Device.start setup ({} : Mcp2515.Link)).2
    let r := Mcp2515.Link.run { device := started }
      [.hold true, .transmit f, .inject g, .hold false, .transmit g, .poll (.numbered 1) {}]
    let started' := (Device.start setup ({} : OnChip)).2
    let r' := OnChip.run { device := started' } [.transmit g, .hold true, .transmit f, .transmit g]
    (r.accepted, r.device.chip.transmitted, r.device.chip.outbox) = ([f, g], [g], [f.anonymous]) ∧
    (∃ added, r.device.chip.transmitted = started.chip.transmitted ++ added ∧
      (added ++ r.device.chip.outbox).Perm (r.accepted.map Frame.anonymous)) ∧
    (r'.accepted, r'.device.controller.transmitted, r'.device.controller.outbox)
      = ([g, f], [g], [f.anonymous]) ∧
    ∃ added, r'.device.controller.transmitted = started'.controller.transmitted ++ added ∧
      added ++ r'.device.controller.outbox = r'.accepted.map Frame.anonymous := by
  intro f g setup
  have hr := sent_operations.1 {} setup
    [.hold true, .transmit f, .inject g, .hold false, .transmit g, .poll (.numbered 1) {}]
    rfl (by decide +kernel)
  have hr' := sent_operations.2 {} setup [.transmit g, .hold true, .transmit f, .transmit g]
    rfl (by decide +kernel)
  refine ⟨?_, hr.1, ?_, hr'.1⟩
  · decide +kernel
  · decide +kernel

end Fieldbus
